import Lodging.Calendar.Error
import Lodging.Calendar.Line
import Lodging.Day.Period

/-!
# Calendar documents

What a calendar document tells about busy periods. Only the dates of its events count: an event lies
between a line that begins it and the next line that ends it, and is left out if it is cancelled, has
a date that cannot be read, has no start or ends before it starts. An event that ends on the day it
starts, or has no end, takes up that day.
-/

namespace Lodging.Calendar

/-- The characters that make up the first `n` bytes, if a character ends there. -/
def takeBytes : Nat → List Char → Option (List Char)
  | 0, _ => some []
  | _ + 1, [] => none
  | n + 1, c :: rest =>
    if c.utf8Size ≤ n + 1 then (takeBytes (n + 1 - c.utf8Size) rest).map (c :: ·) else none

/-- The day of a date or of a date with a time: its first eight bytes. -/
def stampDay? (value : List Char) : Option Day :=
  (takeBytes 8 value).bind fun s => (Day.readStamp s).toOption

inductive Mark where
  | opens
  | closes
  | starts (value : List Char)
  | ends (value : List Char)
  | cancels
  | other
  deriving DecidableEq, Repr

def Property.mark (p : Property) : Mark :=
  if p.name = "BEGIN".toList ∧ Text.sameAscii p.value "VEVENT".toList then .opens
  else if p.name = "END".toList ∧ Text.sameAscii p.value "VEVENT".toList then .closes
  else if p.name = "DTSTART".toList then .starts p.value
  else if p.name = "DTEND".toList then .ends p.value
  else if p.name = "STATUS".toList ∧ Text.sameAscii p.value "CANCELLED".toList then .cancels
  else .other

/-- The mark of a logical line; a line without a separator means nothing. -/
def markOf (line : List Char) : Mark :=
  match Property.ofLine? line with
  | some p => p.mark
  | none => .other

structure Event where
  start : Option Day
  stop : Option Day
  cancelled : Bool
  /-- Whether a date could not be read. -/
  malformed : Bool
  deriving DecidableEq

def Event.empty : Event := ⟨none, none, false, false⟩

/-- The event with one more line. Of several dates the last counts. -/
def Event.add (e : Event) : Mark → Event
  | .starts v =>
    match stampDay? v with
    | some d => { e with start := some d }
    | none => { e with malformed := true }
  | .ends v =>
    match stampDay? v with
    | some d => { e with stop := some d }
    | none => { e with malformed := true }
  | .cancels => { e with cancelled := true }
  | _ => e

/-- The period of a single day, unless it is the last of all. -/
def dayOnly? (d : Day) : Option Period := d.next?.map (⟨d, ·⟩)

def Event.period? (e : Event) : Option Period :=
  if e.cancelled || e.malformed then none
  else
    match e.start, e.stop with
    | none, _ => none
    | some s, none => dayOnly? s
    | some s, some t =>
      if s < t then some ⟨s, t⟩ else if t = s then dayOnly? s else none

/-- The periods of the events that end among the marks; `open?` is the event under way. -/
def periodsFrom (open? : Option Event) : List Mark → List Period
  | [] => []
  | .opens :: rest => periodsFrom (some .empty) rest
  | .closes :: rest =>
    match open?.bind Event.period? with
    | some p => p :: periodsFrom none rest
    | none => periodsFrom none rest
  | m :: rest => periodsFrom (open?.map (·.add m)) rest

def beginsCalendar (line : List Char) : Bool :=
  Text.sameAscii (Text.trim line) "BEGIN:VCALENDAR".toList

def readDocument (s : String) : Except Error (List Period) :=
  let lines := logicalLines s.toList
  if lines.any beginsCalendar then .ok (periodsFrom none (lines.map markOf))
  else .error .noCalendar

end Lodging.Calendar
