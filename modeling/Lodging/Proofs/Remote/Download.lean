import Lodging.Proofs.Http.Exchange
import Lodging.Proofs.Text.Utf8
import Lodging.Remote.Download

/-! # Where a download stops

A body is gathered as long as its chunks stay within the limit. What has been gathered is the bytes that
have come, so the chunks come to an end exactly if all bytes together stay within the limit, however they
are cut. A length that is told in advance draws the line at the same byte, and only a body within the
limit is refused for breaking off. -/

namespace Lodging.Remote

section

variable {limit : Nat}

/-- The rest of the chunks is gathered behind what the first ones have left in the buffer. -/
theorem gather_append (soFar : List UInt8) (taken rest : List (List UInt8)) :
    gather limit soFar (taken ++ rest) =
      (gather limit soFar taken).bind fun buffer => gather limit buffer rest := by
  induction taken generalizing soFar with
  | nil => rfl
  | cons chunk taken ih =>
    simp only [List.cons_append, gather]
    split
    · rfl
    · exact ih (soFar ++ chunk)

/-- The line is drawn at the same byte for all chunks with the same bytes. -/
theorem gather_eq {soFar : List UInt8} (h : soFar.length ≤ limit) (chunks : List (List UInt8)) :
    gather limit soFar chunks =
      if soFar.length + chunks.flatten.length ≤ limit then some (soFar ++ chunks.flatten) else none := by
  induction chunks generalizing soFar with
  | nil => simp [gather, h]
  | cons chunk rest ih =>
    rw [gather, List.flatten_cons, List.length_append, ← Nat.add_assoc]
    split
    · next hover => rw [if_neg (by omega)]
    · next hfits =>
      have hnext : (soFar ++ chunk).length ≤ limit := by
        rw [List.length_append]
        omega
      rw [ih hnext, List.length_append, List.append_assoc]

theorem gather_nil (limit : Nat) (chunks : List (List UInt8)) : gather limit [] chunks =
    if chunks.flatten.length ≤ limit then some chunks.flatten else none := by
  rw [gather_eq (Nat.zero_le limit), List.length_nil, Nat.zero_add, List.nil_append]

/-- The buffer holds what has come, and never more than the limit. -/
theorem buffer_of_gather {chunks : List (List UInt8)} {buffer : List UInt8}
    (h : gather limit [] chunks = some buffer) : buffer = chunks.flatten ∧ buffer.length ≤ limit := by
  rw [gather_nil] at h
  split at h
  · next hfits =>
    obtain rfl := Option.some.inj h
    exact ⟨rfl, hfits⟩
  · cases h

end

namespace Downloader

open Http (Network Response)

variable {d : Downloader} {net : Network} {url : String} {r : Response}

/-- What is made of a response whose length is told as it is, or not at all. -/
theorem read_eq (htold : ∀ n ∈ r.length, n = r.body.length) :
    d.read url r =
      if !Http.Status.isSuccess r.status then
        .error (.fetch ("HTTP " ++ Http.Status.text r.status ++ " from " ++ url))
      else if d.maxBytes < r.body.length then .error (d.tooLarge url)
      else if r.broken then .error broken
      else .ok (.ofList (Text.Utf8.decode r.body)) := by
  unfold read
  split
  · rfl
  split
  · next hlong =>
    obtain ⟨n, hn, hover⟩ := (Option.any_eq_true ..).mp hlong
    rw [htold n hn, decide_eq_true_eq] at hover
    rw [if_pos hover]
  · rw [gather_nil, Response.body]
    by_cases hfits : r.chunks.flatten.length ≤ d.maxBytes
    · rw [if_pos hfits, if_neg (Nat.not_lt.mpr hfits)]
    · rw [if_neg hfits, if_pos (Nat.not_le.mp hfits)]

theorem fetch_eq (hr : (Http.send net downloadUserAgent url id).1 = .ok r) :
    (d.fetch net url).1 = d.read url r := by
  unfold fetch
  generalize Http.send net downloadUserAgent url id = sending at hr ⊢
  obtain ⟨result, sent⟩ := sending
  obtain rfl : result = .ok r := hr
  rfl

/-- Whether a download succeeds, and what it gives, does not depend on how the body arrives: a fulfilled
request gives the whole body read as text if the body stays within the limit and does not break off, and
one and the same error if it exceeds the limit. A text that was cut inside a character comes back whole.
The buffer holds the bytes of the chunks that have come, and never more than the limit. -/
theorem fetch_within_limit (hr : (Http.send net downloadUserAgent url id).1 = .ok r)
    (htold : ∀ n ∈ r.length, n = r.body.length) :
    ((∃ text, (d.fetch net url).1 = .ok text) ↔
        (200 ≤ r.status ∧ r.status < 300) ∧ r.body.length ≤ d.maxBytes ∧ r.broken = false) ∧
      (∀ text, (d.fetch net url).1 = .ok text → text = .ofList (Text.Utf8.decode r.body) ∧
        ∀ s, r.body = Text.Utf8.encode s → text.toList = s) ∧
      (200 ≤ r.status ∧ r.status < 300 → d.maxBytes < r.body.length →
        (d.fetch net url).1 = .error (.fetch ("Calendar " ++ url ++ " exceeds " ++
          .ofList (Decimal.digits d.maxBytes) ++ " bytes"))) ∧
      ∀ taken rest, r.chunks = taken ++ rest →
        (gather d.maxBytes [] r.chunks =
          (gather d.maxBytes [] taken).bind fun buffer => gather d.maxBytes buffer rest) ∧
        ∀ buffer ∈ gather d.maxBytes [] taken,
          buffer = taken.flatten ∧ buffer.length ≤ d.maxBytes := by
  have hstatus : (200 ≤ r.status ∧ r.status < 300) ↔ (!Http.Status.isSuccess r.status) = false := by
    simp [Http.Status.isSuccess]
  rw [fetch_eq hr, read_eq htold, hstatus]
  refine ⟨⟨?_, ?_⟩, ?_, ?_, ?_⟩
  · intro ⟨text, h⟩
    split at h
    · cases h
    · next hok =>
      split at h
      · cases h
      · next hfits =>
        split at h
        · cases h
        · next hwhole =>
          exact ⟨Bool.not_eq_true _ ▸ hok, Nat.not_lt.mp hfits, Bool.not_eq_true _ ▸ hwhole⟩
  · intro ⟨hok, hfits, hwhole⟩
    rw [hok, hwhole, if_neg Bool.false_ne_true, if_neg (Nat.not_lt.mpr hfits),
      if_neg Bool.false_ne_true]
    exact ⟨_, rfl⟩
  · intro text h
    split at h
    · cases h
    · split at h
      · cases h
      · split at h
        · cases h
        · obtain rfl := Except.ok.inj h
          refine ⟨rfl, fun s hs => ?_⟩
          rw [String.toList_ofList, hs, Text.Utf8.decode_encode]
  · intro hok hover
    rw [hok, if_neg Bool.false_ne_true, if_pos hover]
    rfl
  · intro taken rest hchunks
    rw [hchunks]
    exact ⟨gather_append [] taken rest, fun buffer h => buffer_of_gather h⟩

/-- Three bytes, cut inside a character. -/
def postcard : Response := ⟨200, some 3, [[0x41, 0xC3], [], [0xA9]], false⟩

theorem postcard_within_limit :
    (Http.send (fun _ => some postcard) downloadUserAgent "http://a.test/1.ics" id).1 = .ok postcard ∧
      (∀ n ∈ postcard.length, n = postcard.body.length) ∧
      ((Downloader.mk 3).fetch (fun _ => some postcard) "http://a.test/1.ics").1 = .ok "Aé" ∧
      ((Downloader.mk 2).fetch (fun _ => some postcard) "http://a.test/1.ics").1 =
        .error (.fetch "Calendar http://a.test/1.ics exceeds 2 bytes") := by
  let url : Http.Url := {
    scheme := "http".toList
    authority := some { Http.Authority.empty with host := "a.test".toList }
    path := .segments ["1.ics".toList]
    query := none
    fragment := none }
  have hurl : Http.requested? "http://a.test/1.ics" id = some url := by decide +kernel
  have hr : (Http.send (fun _ => some postcard) downloadUserAgent "http://a.test/1.ics" id).1 =
      .ok postcard := by
    rw [Http.send_of_requested? hurl]
    rfl
  have htold : ∀ n ∈ postcard.length, n = postcard.body.length := by
    intro n hn
    exact (Option.some.inj hn).symm
  refine ⟨hr, htold, ?_, ?_⟩
  · obtain ⟨hsucceeds, htext, -⟩ := fetch_within_limit (d := ⟨3⟩) hr htold
    obtain ⟨text, h⟩ := hsucceeds.mpr ⟨by decide, by decide, rfl⟩
    rw [h, (htext text h).1]
    exact congrArg Except.ok (by decide +kernel)
  · obtain ⟨-, -, hover, -⟩ := fetch_within_limit (d := ⟨2⟩) hr htold
    rw [hover (by decide) (by decide)]
    exact congrArg Except.error (by decide +kernel)

end Downloader

end Lodging.Remote
