import Lodging.Geo.Range

/-!
# Distances

The length of the shortest way between two points on a sphere, and the order in which places at known
distances are listed: from near to far, before them those whose distance has no value, and behind them
those that have no coordinates at all.
-/

namespace Lodging.Geo

def earthRadius : Float := 6371

/-- The great-circle distance in kilometres. -/
def distance (a b : Point Float) : Float :=
  let dlat := radians (b.lat - a.lat)
  let dlng := radians (b.lng - a.lng)
  let sinLat := (dlat / 2).sin
  let sinLng := (dlng / 2).sin
  let h := sinLat * sinLat + (radians a.lat).cos * (radians b.lat).cos * (sinLng * sinLng)
  2 * earthRadius * Float.atan2 h.sqrt (1 - h).sqrt

/-- The value of the bit that holds the sign of a float. -/
def signBit : Int := 9223372036854775808

/-- The place of a float in the total order of floats, in which a value that is no number comes first
and the two zeros differ. -/
def orderKey (x : Float) : Int :=
  let bits : Int := x.toBits.toNat
  if x.isNaN then -signBit - 1 else if bits < signBit then bits else signBit - 1 - bits

/-- Whether a place at distance `a` may be listed before one at distance `b`. -/
def nearerOrSame : Option Float → Option Float → Bool
  | some a, some b => orderKey a ≤ orderKey b
  | some _, none => true
  | none, some _ => false
  | none, none => true

theorem nearerOrSame_total (a b : Option Float) : nearerOrSame a b || nearerOrSame b a := by
  cases a <;> cases b <;> simp [nearerOrSame, Int.le_total]

theorem nearerOrSame_trans {a b c : Option Float} (h₁ : nearerOrSame a b) (h₂ : nearerOrSame b c) :
    nearerOrSame a c := by
  cases a <;> cases b <;> cases c <;> simp_all [nearerOrSame]
  omega

end Lodging.Geo
