import Lodging.Decimal.Layout
import Lodging.Decimal.Numeral
import Lodging.Geo.Resolve
import Lodging.Listing.Registry
import Lodging.Remote.Geocoding
import Lodging.Remote.PartnerApi

/-!
# Settings

What the server is told by the variables of its environment. A variable that is not set takes its
default; one that is set and cannot be used is refused with its name and value.
-/

namespace Lodging

structure Settings where
  databaseUrl : String
  bindAddress : String
  /-- How many feeds are refreshed at a time. -/
  batchSize : Nat
  refreshSeconds : Nat
  /-- The limit of a search on a partner, in milliseconds. -/
  partnerLimit : Nat
  partners : List Remote.PartnerApi
  geocoding : Remote.GeocodingService
  defaults : Geo.Defaults

namespace Settings

/-- A variable that is set and cannot be used. -/
structure Error where
  key : String
  value : String
  deriving DecidableEq, Repr

def Error.message (e : Error) : String := "Invalid value for " ++ e.key ++ ": " ++ e.value

abbrev Environment := String → Option String

/-- Reads a variable without the blanks around it. -/
def value {α : Type} (env : Environment) (key : String) (default : α)
    (read? : List Char → Option α) : Except Error α :=
  match env key with
  | none => .ok default
  | some v =>
    match read? (Text.trim v.toList) with
    | some a => .ok a
    | none => .error ⟨key, v⟩

def word? (s : List Char) : Option Nat := (Decimal.read? Decimal.word64 s).map Int.toNat

/-- One partner: its name, an equals sign, its base URL. -/
def partner (entry : List Char) : Except Error Remote.PartnerApi :=
  match Text.cut? '=' entry with
  | some (name, url) =>
    if (Text.trim name).isEmpty || (Text.trim url).isEmpty then bad
    else .ok ⟨.ofList (Text.trim name), .ofList (Text.trim url)⟩
  | none => bad
where
  bad : Except Error Remote.PartnerApi := .error ⟨"PARTNER_PROVIDERS", .ofList entry⟩

/-- Partners parted by commas; blank entries do not count. -/
def partnerList (s : List Char) : Except Error (List Remote.PartnerApi) :=
  (((s.splitOn ',').map Text.trim).filter (!·.isEmpty)).mapM partner

def load (env : Environment) : Except Error Settings := do
  let batchSize ← value env "CALENDAR_BATCH_SIZE" 64 word?
  if batchSize = 0 then throw ⟨"CALENDAR_BATCH_SIZE", "0"⟩
  let refreshSeconds ← value env "CALENDAR_REFRESH_INTERVAL_SECS" 900 word?
  let partnerLimit ← value env "PARTNER_TIMEOUT_MS" Listing.standardLimit word?
  let radius ← value env "DEFAULT_SEARCH_RADIUS" Geo.Defaults.standard.radius Decimal.float?
  if !radius.isFinite || radius ≤ 0 then
    throw ⟨"DEFAULT_SEARCH_RADIUS", .ofList (Decimal.plain radius)⟩
  let partners ← match env "PARTNER_PROVIDERS" with
    | some v => partnerList v.toList
    | none => .ok []
  return {
    databaseUrl := (env "DATABASE_URL").getD "postgres://localhost/beenest"
    bindAddress := (env "BIND_ADDRESS").getD "0.0.0.0:8080"
    batchSize, refreshSeconds, partnerLimit, partners
    geocoding := {
      baseUrl := (env "GEOCODER_URL").getD "https://nominatim.openstreetmap.org"
      userAgent := (env "GEOCODER_USER_AGENT").getD "BeenestListingSearch/1.0"
      limit := 10000 }
    defaults := { Geo.Defaults.standard with radius } }

/-! ## The services they describe -/

/-- Why the services cannot be set up. -/
inductive AssemblyError where
  | geocoding (e : Geo.GeocodeError)
  | registry (e : Listing.Error)
  deriving DecidableEq, Repr

def AssemblyError.message : AssemblyError → String
  | .geocoding e => e.message
  | .registry e => e.message

def registered (s : Settings) : List Listing.Partner :=
  s.partners.map fun p => ⟨p.name, s.partnerLimit⟩

/-- Sets the services up: the geocoder has to be reachable and the partners fit to be registered. -/
def assemble (s : Settings) : Except AssemblyError Listing.Registry := do
  s.geocoding.check.mapError .geocoding
  (Listing.Registry.ofPartners s.registered).mapError .registry

end Settings

end Lodging
