/-!
# What goes wrong with calendars
-/

namespace Lodging.Calendar

/-- A submitted URL is of the wrong kind, a document cannot be downloaded or is no calendar, or the
store fails. -/
inductive Error where
  | badUrl (url : String)
  | fetch (detail : String)
  | noCalendar
  | storage (detail : String)
  deriving DecidableEq, Repr

def Error.detail : Error → String
  | .badUrl url => "Calendar URL must start with http:// or https://: " ++ url
  | .fetch d => d
  | .noCalendar => "document has no VCALENDAR component"
  | .storage d => d

def Error.message (e : Error) : String :=
  match e with
  | .badUrl _ => "Validation error: " ++ e.detail
  | .fetch _ => "Failed to fetch calendar: " ++ e.detail
  | .noCalendar => "Failed to parse calendar: " ++ e.detail
  | .storage _ => "Storage error: " ++ e.detail

end Lodging.Calendar
