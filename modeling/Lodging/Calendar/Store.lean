import Lodging.Day.Period

/-!
# The calendar store

Two tables: the feeds that are registered for listings, and the busy periods that were read from
them. Rows are kept in the order in which they came, and every row gets an identifier that was never
used before.
-/

namespace Lodging.Calendar

/-- An external calendar that is registered for a listing. -/
structure Feed where
  id : Nat
  listing : Int
  url : String
  deriving DecidableEq, Repr

/-- A busy period of a listing, read from the feed at `url`. -/
structure Block where
  id : Nat
  listing : Int
  url : String
  period : Period
  deriving DecidableEq

structure Store where
  feeds : List Feed
  blocks : List Block
  /-- All identifiers below it have been used. -/
  fresh : Nat

namespace Store

def empty : Store := ⟨[], [], 0⟩

/-- The feeds of one listing, or all feeds. -/
def findFeeds (s : Store) : Option Int → List Feed
  | some listing => s.feeds.filter (·.listing == listing)
  | none => s.feeds

/-- Rows for the URLs, with identifiers from `fresh` on. -/
def newFeeds (fresh : Nat) (listing : Int) (urls : List String) : List Feed :=
  (urls.zipIdx fresh).map fun (url, id) => ⟨id, listing, url⟩

/-- Rows for the periods, with identifiers from `fresh` on. -/
def newBlocks (fresh : Nat) (listing : Int) (url : String) (periods : List Period) : List Block :=
  (periods.zipIdx fresh).map fun (p, id) => ⟨id, listing, url, p⟩

/-- Gives the listing these feeds instead of its old ones. Blocks of the listing whose URL is not among
them go with the old feeds. -/
def replaceFeeds (s : Store) (listing : Int) (urls : List String) : Store × List Feed :=
  let feeds := newFeeds s.fresh listing urls
  ({ feeds := s.feeds.filter (·.listing != listing) ++ feeds
     blocks := s.blocks.filter fun b => b.listing != listing || urls.contains b.url
     fresh := s.fresh + urls.length }, feeds)

/-- Puts these periods in the place of all blocks of the listing from the URL. -/
def replaceBlocks (s : Store) (listing : Int) (url : String) (periods : List Period) :
    Store × List Block :=
  let blocks := newBlocks s.fresh listing url periods
  ({ s with
     blocks := s.blocks.filter (fun b => !(b.listing == listing && b.url == url)) ++ blocks
     fresh := s.fresh + periods.length }, blocks)

def findBlocks (s : Store) (listing : Int) : List Block :=
  (s.blocks.filter (·.listing == listing)).mergeSort fun a b => a.period.start ≤ b.period.start

/-- The blocks of the listings that share a day with the window. -/
def findOverlapping (s : Store) (listings : List Int) (window : Period) : List Block :=
  s.blocks.filter fun b => listings.contains b.listing && b.period.overlaps window

end Store

/-! ## In documents -/

/-- An identifier, written as 32 hexadecimal digits in five groups. -/
def idText (id : Nat) : String :=
  let ds := Nat.toDigits 16 id
  "00000000-0000-4000-8000-" ++ .ofList (List.replicate (12 - ds.length) '0' ++ ds)

def Feed.toJson (f : Feed) : Json :=
  .obj [("id", .str (idText f.id)), ("listing_id", .whole f.listing), ("ical_url", .str f.url)]

def Block.toJson (b : Block) : Json :=
  .obj [("id", .str (idText b.id)), ("listing_id", .whole b.listing), ("source_url", .str b.url),
    ("start_date", b.period.start.toJson), ("end_date", b.period.stop.toJson)]

end Lodging.Calendar
