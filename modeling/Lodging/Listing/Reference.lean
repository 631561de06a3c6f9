import Lodging.Text.Split

/-!
# References to listings

An identifier that begins with the name of a registered partner and a colon refers to a listing of the
partner; any other refers to an in-house listing. Both are read once, where an identifier enters, and
printing a reference gives the identifier back.
-/

namespace Lodging.Listing

inductive Owner where
  | inHouse
  | partner (name : String)
  deriving DecidableEq, Repr

structure Reference where
  owner : Owner
  /-- The identifier as the owner knows it. -/
  localId : String
  deriving DecidableEq, Repr

/-- What stands between the name of a partner and its own identifier. -/
def separator : Char := ':'

namespace Reference

def parse (isPartner : String → Bool) (raw : String) : Reference :=
  match Text.cut? separator raw.toList with
  | some (name, rest) =>
    if isPartner (.ofList name) then ⟨.partner (.ofList name), .ofList rest⟩ else ⟨.inHouse, raw⟩
  | none => ⟨.inHouse, raw⟩

def text (r : Reference) : String :=
  match r.owner with
  | .inHouse => r.localId
  | .partner name => .ofList (name.toList ++ separator :: r.localId.toList)

/-- Printing gives back what was read. -/
theorem text_parse (isPartner : String → Bool) (raw : String) : (parse isPartner raw).text = raw := by
  unfold parse
  split
  · next name rest h =>
    split
    · simp [text, ← Text.eq_append_of_cut? h]
    · rfl
  · rfl

end Reference

end Lodging.Listing
