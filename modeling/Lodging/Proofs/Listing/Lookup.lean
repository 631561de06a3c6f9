import Lodging.Listing.InHouse
import Lodging.Proofs.Decimal.Whole

/-! # In-house lookups

An in-house identifier is read as a positive number, however it is spelt, and a lookup comes to the
record with that number. The number of the record is written into the listing that is handed out, and
read from there it is the same number. -/

namespace Lodging.Listing.InHouse

variable {h : InHouse}

/-- The number of an in-house identifier is positive and can be written and read again. -/
theorem numericId_eq_ok {id : String} {n : Int} (hid : numericId id = .ok n) :
    0 < n ∧ Decimal.read? Decimal.int64 (Decimal.signed n) = some n := by
  unfold numericId at hid
  split at hid
  · next m hm =>
    split at hid
    · next hpos =>
      obtain rfl := Except.ok.inj hid
      have hle : m ≤ Decimal.int64.high := Decimal.le_high_of_read? (by decide) hm
      exact ⟨hpos, Decimal.read?_signed (Int.le_of_lt hpos) hle⟩
    · cases hid
  · cases hid

/-- What is loaded is the record of the number that the identifier stands for. -/
theorem load_eq_ok {id : String} {r : Record} (hl : h.load id = .ok r) :
    numericId id = .ok r.id ∧ r ∈ h.inventory.records := by
  unfold load at hl
  cases hid : numericId id with
  | error e =>
    rw [hid] at hl
    cases hl
  | ok n =>
    simp only [hid, bind, Except.bind] at hl
    split at hl
    · cases hl
    · next found hask =>
      split at hl
      · next r' =>
        obtain rfl := Except.ok.inj hl
        have hget : h.inventory.get? n = some r' := by
          unfold ask at hask
          split at hask
          · cases hask
          · exact Except.ok.inj hask
        have hr : r'.id = n := by simpa using List.find?_some hget
        exact ⟨by rw [hr], List.mem_of_find?_eq_some hget⟩
      · cases hl

/-- A question for whatever listing, without its busy periods, is answered with the record alone. -/
theorem lookup_any_bare (id : String) :
    h.lookup ⟨.any, id, false⟩ = (h.load id).map (·.toListing inHouseName) := by
  unfold lookup
  cases h.load id with
  | error e => rfl
  | ok r => rfl

theorem withReservations_eq (hup : .findBlocks ∉ h.down) (r : Record) :
    h.withReservations r = .ok { r.toListing inHouseName with
      reservations := (h.calendars.findBlocks r.id).map (·.period) } := by
  simp only [withReservations, Calendar.ask, List.contains_iff_mem, hup, if_false]
  rfl

/-- While the calendars answer, the busy periods are attached if they are asked for. -/
theorem lookup_any (hup : .findBlocks ∉ h.down) (id : String) (reservations : Bool) :
    h.lookup ⟨.any, id, reservations⟩ = (h.load id).map fun r =>
      { r.toListing inHouseName with
        reservations := if reservations then (h.calendars.findBlocks r.id).map (·.period) else [] } := by
  unfold lookup
  cases h.load id with
  | error e => rfl
  | ok r =>
    cases reservations with
    | false => rfl
    | true =>
      simp only [withReservations_eq hup]
      rfl

end Lodging.Listing.InHouse
