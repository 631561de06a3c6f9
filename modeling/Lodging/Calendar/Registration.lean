import Lodging.Calendar.Error

/-!
# Submitted feeds

What happens to a list of URLs before it is registered: it is refused if any of them is no web address,
and repeated ones are registered once, where they first stand.
-/

namespace Lodging.Calendar

def isWebUrl (url : String) : Bool :=
  "http://".toList.isPrefixOf url.toList || "https://".toList.isPrefixOf url.toList

/-- Refuses the list at its first URL that is no web address. -/
def checkUrls (urls : List String) : Except Error Unit :=
  match urls.find? (!isWebUrl ·) with
  | some url => .error (.badUrl url)
  | none => .ok ()

/-- Each URL once, in the order of first places. -/
def distinct (urls : List String) : List String := urls.eraseDups

theorem checkUrls_eq_ok {urls : List String} (h : checkUrls urls = .ok ()) :
    ∀ u ∈ urls, isWebUrl u = true := by
  unfold checkUrls at h
  split at h
  · simp at h
  · next hn => simpa using hn

end Lodging.Calendar
