import Lodging.Listing.Filter
import Lodging.Proofs.Text.Lower

/-!
# Searching for a text

A search for a text compares small letters: those of the text, taken alone, with those of the whole
address. An address that contains the text as it stands is found whenever the place where the text
stands gives its sigmas the forms that they have alone. So a text is found everywhere, or found at
least where no letter stands next to it, according to whether a capital sigma opens or closes it.
-/

namespace Lodging.Listing

def Filter.AdmitsApart (f : Filter) (r : Record) : Prop :=
  ({ f with spatial := .everywhere } : Filter).matches r = true

instance (f : Filter) (r : Record) : Decidable (f.AdmitsApart r) :=
  inferInstanceAs (Decidable (_ = true))

/-- Every search for the text finds every record with that address, if nothing else speaks against
it. -/
def Finds (text address : String) : Prop :=
  ∀ f : Filter, f.spatial = .text text → ∀ r : Record, f.AdmitsApart r →
    r.about.address = some address → f.matches r = true

theorem Filter.matches_text {f : Filter} {r : Record} {text address : String}
    (hf : f.spatial = .text text) (hr : r.about.address = some address) :
    f.matches r = true ↔
      f.AdmitsApart r ∧ Text.lower text.toList <:+: Text.lower address.toList := by
  simp [Filter.matches, Filter.AdmitsApart, inArea, hf, hr, addressMatches, Text.occursIn_iff]

def lodge (address : String) : Record :=
  ⟨1, ⟨"Lodge", none, some address, none, none, 1, 1, none, none, true⟩⟩

theorem finds_iff {text address : String} :
    Finds text address ↔ Text.lower text.toList <:+: Text.lower address.toList := by
  constructor
  · intro h
    have hlodge : (⟨.text text, 1, none⟩ : Filter).AdmitsApart (lodge address) := rfl
    exact ((Filter.matches_text rfl rfl).mp (h ⟨.text text, 1, none⟩ rfl _ hlodge rfl)).2
  · intro h f hf r hr haddress
    exact (Filter.matches_text hf haddress).mpr ⟨hr, h⟩

/-- A text is found in every address that contains it if no capital sigma opens or closes it, and in
no case but this. Any other text is still found where it stands with no letter next to it. -/
theorem finds_verbatim (text : String) :
    ((∀ address : String, text.toList <:+: address.toList → Finds text address) ↔
      Text.opensWithSigma text.toList = false ∧ Text.closesWithSigma text.toList = false) ∧
    ∀ (before after : List Char) (address : String),
      address.toList = before ++ text.toList ++ after →
      Text.meetsCased before.reverse = false → Text.meetsCased after = false →
      Finds text address := by
  simp only [finds_iff]
  refine ⟨⟨fun h => ⟨?_, ?_⟩, ?_⟩, ?_⟩
  · have hbehind := h (.ofList ('a' :: text.toList)) (by simpa using (List.suffix_cons _ _).isInfix)
    cases ho : Text.opensWithSigma text.toList with
    | false => rfl
    | true => exact absurd (by simpa using hbehind) (Text.not_infix_of_opensWithSigma ho)
  · have hbefore := h (.ofList (text.toList ++ ['a'])) (by simpa using (List.prefix_append _ _).isInfix)
    cases hc : Text.closesWithSigma text.toList with
    | false => rfl
    | true => exact absurd (by simpa using hbefore) (Text.not_infix_of_closesWithSigma hc)
  · rintro ⟨ho, hc⟩ address ⟨before, after, haddress⟩
    have hpart := Text.lowerIn_infix before text.toList after
    rwa [Text.lowerIn_eq_lower ho hc, haddress] at hpart
  · intro before after address haddress hb ha
    have hpart := Text.lowerIn_infix before text.toList after
    rwa [Text.lowerIn_eq_lower_apart hb ha, ← haddress] at hpart

theorem tahoe_found :
    Finds "Tahoe" "1 Lakeshore Dr, Tahoe City" ∧ Finds "ΠΑΡΝΑΣ" "ΠΑΡΝΑΣ 7" :=
  ⟨(finds_verbatim "Tahoe").1.mpr ⟨by decide +kernel, by decide +kernel⟩ _
      ⟨"1 Lakeshore Dr, ".toList, " City".toList, by decide⟩,
    (finds_verbatim "ΠΑΡΝΑΣ").2 [] " 7".toList _ (by decide) (by decide +kernel) (by decide +kernel)⟩

/-- A mountain is not found by the first six letters of its name: the sigma that ends them is a final
one, and the name has none there. -/
theorem parnassos_missed :
    "ΠΑΡΝΑΣ".toList <:+: "ΠΑΡΝΑΣΣΟΣ".toList ∧
      (⟨.text "ΠΑΡΝΑΣ", 1, none⟩ : Filter).AdmitsApart (lodge "ΠΑΡΝΑΣΣΟΣ") ∧
      (⟨.text "ΠΑΡΝΑΣ", 1, none⟩ : Filter).matches (lodge "ΠΑΡΝΑΣΣΟΣ") = false :=
  ⟨⟨[], "ΣΟΣ".toList, by decide⟩, rfl, by decide +kernel⟩

end Lodging.Listing
