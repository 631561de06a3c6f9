import Lodging.Calendar.Error
import Lodging.Calendar.Store

/-!
# Access to the stores

Every question to a store may fail. Which kinds of question fail at a moment is an outage; a question
that fails changes nothing.
-/

namespace Lodging

/-- The questions to the calendar store and to the inventory. -/
inductive Access where
  | findFeeds | replaceFeeds | replaceBlocks | findBlocks | findOverlapping
  | findListings | findById
  deriving DecidableEq, Repr

def Access.name : Access → String
  | .findFeeds => "find_feeds"
  | .replaceFeeds => "replace_feeds"
  | .replaceBlocks => "replace_blocks"
  | .findBlocks => "find_blocks"
  | .findOverlapping => "find_overlapping_blocks"
  | .findListings => "find_listings"
  | .findById => "find_by_id"

def Access.failure (a : Access) : String := a.name ++ " unavailable"

abbrev Outage := List Access

namespace Calendar

/-- The answer of the calendar store, unless the question fails. -/
def ask {α : Type} (down : Outage) (a : Access) (answer : α) : Except Error α :=
  if down.contains a then .error (.storage a.failure) else .ok answer

end Calendar

end Lodging
