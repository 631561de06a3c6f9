import Lodging.Day.Text
import Lodging.Http.Form

/-!
# Parameters

The query of a request against the parameters that a route knows. Parameters are read in the order of
the query, and the first fault is reported: a parameter that comes twice, or a value of the wrong kind.
A parameter that the route does not know is skipped.
-/

namespace Lodging.Web

/-- What the value of a parameter has to be. -/
inductive Kind where
  | text
  | day
  | whole (b : Decimal.Bounds)
  | flag
  deriving DecidableEq, Repr

inductive Value where
  | text (s : String)
  | day (d : Day)
  | whole (i : Int)
  | flag (b : Bool)

inductive ParamError where
  | duplicate (name : String)
  | day (e : Day.TextError)
  | whole (e : Decimal.WholeError)
  | flag
  deriving DecidableEq, Repr

def ParamError.message : ParamError → String
  | .duplicate name => "duplicate field `" ++ name ++ "`"
  | .day e => e.message
  | .whole e => e.message
  | .flag => "provided string was not `true` or `false`"

def Kind.read (k : Kind) (s : String) : Except ParamError Value :=
  match k with
  | .text => .ok (.text s)
  | .day => ((Day.read s.toList).map .day).mapError .day
  | .whole b => ((Decimal.read b s.toList).map .whole).mapError .whole
  | .flag =>
    if s = "true" then .ok (.flag true) else if s = "false" then .ok (.flag false)
    else .error .flag

/-- The parameters that a route knows. -/
abbrev Schema := List (String × Kind)

abbrev Params := List (String × Value)

namespace Params

def add (schema : Schema) (ps : Params) (pair : String × String) : Except ParamError Params :=
  match schema.lookup pair.1 with
  | none => .ok ps
  | some k =>
    if (ps.lookup pair.1).isSome then .error (.duplicate pair.1)
    else (k.read pair.2).map fun v => ps ++ [(pair.1, v)]

def read (schema : Schema) (query : List Char) : Except ParamError Params :=
  (Http.Form.read query).foldlM (add schema) []

def text? (ps : Params) (name : String) : Option String :=
  match ps.lookup name with
  | some (.text s) => some s
  | _ => none

def day? (ps : Params) (name : String) : Option Day :=
  match ps.lookup name with
  | some (.day d) => some d
  | _ => none

def whole? (ps : Params) (name : String) : Option Int :=
  match ps.lookup name with
  | some (.whole i) => some i
  | _ => none

def flag? (ps : Params) (name : String) : Option Bool :=
  match ps.lookup name with
  | some (.flag b) => some b
  | _ => none

end Params

end Lodging.Web
