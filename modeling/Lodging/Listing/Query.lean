import Lodging.Day.Period
import Lodging.Geo.Basic

/-!
# Searches

What a guest looks for: a place, the days of arrival and departure, and the size of the party. From the
days follow the nights that have to be free. A departure that does not come after the arrival is
ignored, and a single known day stands for the night that it begins or ends.
-/

namespace Lodging

structure Query where
  location : Geo.LocationQuery
  checkIn : Option Day
  checkOut : Option Day
  guests : Option Nat

namespace Query

def partySize (q : Query) : Nat := q.guests.getD 1

/-- The nights of the stay, when both days are known and in order. -/
def nights? (q : Query) : Option Int :=
  match q.checkIn, q.checkOut with
  | some a, some b => if a < b then some (b.number - a.number) else none
  | _, _ => none

def window? (q : Query) : Option Period :=
  match q.checkIn, q.checkOut with
  | none, none => none
  | some a, some b => if a < b then some ⟨a, b⟩ else a.next?.map (⟨a, ·⟩)
  | some a, none => a.next?.map (⟨a, ·⟩)
  | none, some b => b.previous?.map (⟨·, b⟩)

def toJson (q : Query) : Json :=
  .obj [("location", q.location.toJson), ("check_in_date", .ofOption Day.toJson q.checkIn),
    ("check_out_date", .ofOption Day.toJson q.checkOut),
    ("number_of_guests", .ofOption .ofNat q.guests)]

def ofJson? (j : Json) : Option Query := do
  let f ← j.fields? ["location", "check_in_date", "check_out_date", "number_of_guests"]
  return {
    location := ← f.required "location" Geo.LocationQuery.ofJson?
    checkIn := ← f.optional "check_in_date" Day.ofJson?
    checkOut := ← f.optional "check_out_date" Day.ofJson?
    guests := (← f.optional "number_of_guests" (Json.whole? Decimal.word32)).map Int.toNat }

end Query

end Lodging
