import Lodging.Listing.Registry
import Lodging.Proofs.Listing.Search
import Lodging.Proofs.Remote.PartnerApi

/-! # Where an identifier leads

The names of the registered partners have no colon in them, so what stands before the first colon of an
identifier is a registered name or the whole identifier is an in-house one. The identifiers that a
partner's listings are handed out with lead back to the partner, and in-house identifiers, which are
numbers, lead back in-house. -/

namespace Lodging.Listing

open Http (Network Answered)
open Remote (Offer PartnerApi)

namespace Registry

variable {r : Registry}

theorem isPartner_iff {n : String} : r.isPartner n = true ↔ n ∈ r.names := List.contains_iff_mem

/-- Whatever follows the name of a partner and the colon is the partner's own identifier. -/
theorem parse_text {n : String} (hn : n ∈ r.names) (s : String) :
    r.parse (Reference.mk (.partner n) s).text = ⟨.partner n, s⟩ := by
  have hcut : Text.cut? separator (Reference.mk (.partner n) s).text.toList =
      some (n.toList, s.toList) := by
    simpa only [Reference.text, String.toList_ofList] using
      Text.cut?_append s.toList (r.registrable.1 n hn).2
  simp only [parse, Reference.parse, hcut, String.ofList_toList, isPartner_iff.mpr hn, if_true]

theorem parse_of_not_mem {raw : String} (h : separator ∉ raw.toList) :
    r.parse raw = ⟨.inHouse, raw⟩ := by
  simp only [parse, Reference.parse, Text.cut?_eq_none h]

/-- Numbers are in-house identifiers, whatever the partners are called. -/
theorem parse_signed (k : Int) :
    r.parse (.ofList (Decimal.signed k)) = ⟨.inHouse, .ofList (Decimal.signed k)⟩ := by
  refine parse_of_not_mem fun h => ?_
  rw [String.toList_ofList] at h
  rcases Decimal.mem_signed h with h | h <;> revert h <;> decide

theorem partners_of_ofPartners {ps : List Partner} (h : ofPartners ps = .ok r) : r.partners = ps := by
  unfold ofPartners at h
  split at h
  · cases h
  · rw [← Except.ok.inj h]

end Registry

namespace InHouse

variable {h : InHouse}

theorem id_of_search {q : Query} {ls : List Listing} (hs : (h.search q).1 = .ok ls) {l : Listing}
    (hl : l ∈ ls) : ∃ k, l.id = .ofList (Decimal.signed k) := by
  obtain ⟨-, free, -, rfl⟩ := search_eq_ok hs
  obtain ⟨r, -, rfl⟩ := List.mem_map.mp hl
  exact ⟨r.id, rfl⟩

theorem id_of_withReservations {r : Record} {l : Listing} (hl : h.withReservations r = .ok l) :
    l.id = .ofList (Decimal.signed r.id) := by
  unfold withReservations at hl
  cases hblocks : ofCalendar (Calendar.ask h.down .findBlocks (h.calendars.findBlocks r.id)) with
  | error e =>
    rw [hblocks] at hl
    cases hl
  | ok blocks =>
    rw [hblocks] at hl
    rw [← Except.ok.inj hl]
    rfl

theorem id_of_lookup {i : Inquiry} {l : Listing} (hl : h.lookup i = .ok l) :
    ∃ k, l.id = .ofList (Decimal.signed k) := by
  unfold lookup at hl
  cases hload : h.load i.id with
  | error e =>
    rw [hload] at hl
    cases hl
  | ok r =>
    rw [hload] at hl
    refine ⟨r.id, ?_⟩
    cases hout : handOut i.demand i.id (r.toListing inHouseName) with
    | error e =>
      simp only [bind, Except.bind, hout] at hl
      cases hl
    | ok l' =>
      simp only [bind, Except.bind, hout] at hl
      split at hl
      · exact id_of_withReservations hl
      · rw [← Except.ok.inj hl, eq_of_handOut hout]
        rfl

end InHouse

/-- Under every accepted registration, reading an identifier loses nothing of it, and what begins with
a registered name and a colon is that partner's. A question about a reference goes to its owner alone,
once, and comes back as the owner answers it; where the owner is not registered nobody is asked. What
a registered partner offers can be asked for again under the identifier it is handed out with, and so
can what is in the house. -/
theorem Registry.routes_to_owner {ps : List Partner} {r : Registry} (h : ofPartners ps = .ok r) :
    (∀ raw, (r.parse raw).text = raw) ∧
    (∀ n ∈ ps.map (·.name), ∀ s, r.parse (n ++ ":" ++ s) = ⟨.partner n, s⟩) ∧
    (∀ (own : Inquiry → Except Error Listing) (partner : String → Inquiry → Except Error Listing)
        (demand : Demand) (localId : String) (reservations : Bool),
      let inquiry : Inquiry := ⟨demand, localId, reservations⟩
      r.lookup own partner demand ⟨.inHouse, localId⟩ reservations =
        (own inquiry, [⟨.inHouse, inquiry⟩]) ∧
      ∀ n, r.lookup own partner demand ⟨.partner n, localId⟩ reservations =
        if n ∈ ps.map (·.name) then (partner n inquiry, [⟨.partner n, inquiry⟩])
        else (.error (.notFound (n ++ ":" ++ localId)), [])) ∧
    (∀ p : PartnerApi, p.name ∈ ps.map (·.name) → ∀ net : Network,
      (∀ q ls, (p.search net q).1 = .ok ls →
        ∃ offers, Answered net (p.search net q).2 Offer.listOfJson? offers ∧
          ls.map (fun l => r.parse l.id) =
            (offers.filter (·.about.isActive)).map fun o => ⟨.partner p.name, o.id⟩) ∧
      ∀ i l, (p.lookup net i).1 = .ok l →
        ∃ o, Answered net (p.lookup net i).2 Offer.ofJson? o ∧
          r.parse l.id = ⟨.partner p.name, o.id⟩) ∧
    ∀ own : InHouse,
      (∀ q ls, (own.search q).1 = .ok ls → ∀ l ∈ ls, r.parse l.id = ⟨.inHouse, l.id⟩) ∧
      ∀ i l, own.lookup i = .ok l → r.parse l.id = ⟨.inHouse, l.id⟩ := by
  have hnames : r.names = ps.map (·.name) := by rw [names, partners_of_ofPartners h]
  have htext : ∀ n s, (Reference.mk (.partner n) s).text = n ++ ":" ++ s := by
    intro n s
    refine String.toList_injective ?_
    simp [Reference.text, separator]
  have hparse : ∀ n ∈ ps.map (·.name), ∀ s, r.parse (Reference.mk (.partner n) s).text =
      ⟨.partner n, s⟩ := fun n hn s => parse_text (hnames ▸ hn) s
  refine ⟨Reference.text_parse _, ?_, ?_, ?_, ?_⟩
  · intro n hn s
    rw [← htext, hparse n hn]
  · intro own partner demand localId reservations inquiry
    refine ⟨rfl, fun n => ?_⟩
    by_cases hn : n ∈ ps.map (·.name)
    · rw [if_pos hn]
      exact if_pos (isPartner_iff.mpr (hnames ▸ hn))
    · rw [if_neg hn, ← htext]
      exact if_neg fun hp => hn (hnames ▸ isPartner_iff.mp hp)
  · intro p hp net
    constructor
    · intro q ls hls
      obtain ⟨offers, hanswered, rfl⟩ := Remote.PartnerApi.offers_of_search hls
      refine ⟨offers, hanswered, ?_⟩
      rw [List.map_map]
      refine List.map_congr_left fun o _ => ?_
      rw [Function.comp_apply]
      exact hparse p.name hp o.id
    · intro i l hl
      obtain ⟨o, hanswered, rfl⟩ := Remote.PartnerApi.offer_of_lookup hl
      exact ⟨o, hanswered, hparse p.name hp o.id⟩
  · intro own
    constructor
    · intro q ls hls l hl
      obtain ⟨k, hk⟩ := InHouse.id_of_search hls hl
      rw [hk, parse_signed]
    · intro i l hl
      obtain ⟨k, hk⟩ := InHouse.id_of_lookup hl
      rw [hk, parse_signed]

/-- The name of one partner begins the name of the other. -/
def seaside : Registry where
  partners := [⟨"sea", standardLimit⟩, ⟨"seaside", standardLimit⟩]
  registrable := ⟨by decide, by decide⟩

theorem Registry.seaside_routes :
    ofPartners seaside.partners = .ok seaside ∧
      seaside.parse "seaside:sea:7" = ⟨.partner "seaside", "sea:7"⟩ ∧
      seaside.parse "sea:" = ⟨.partner "sea", ""⟩ ∧
      (seaside.parse "se:7").text = "se:7" := by
  have hnew : ofPartners seaside.partners = .ok seaside := rfl
  obtain ⟨hprint, hread, -⟩ := routes_to_owner hnew
  exact ⟨hnew, hread "seaside" (by decide) "sea:7", hread "sea" (by decide) "", hprint "se:7"⟩

end Lodging.Listing
