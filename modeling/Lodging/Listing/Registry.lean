import Lodging.Listing.Basic
import Lodging.Listing.Query
import Lodging.Listing.Reference
import Lodging.Timed.Eventual

/-!
# The registry of providers

The in-house provider and the partners work side by side. A search asks all of them at once: the
in-house provider has to answer, a partner that fails or exceeds its limit adds nothing. A single
listing is asked from its owner only.

The names of partners are not empty, have no colon in them and are all different, so an identifier has
one owner.
-/

namespace Lodging.Listing

open Timed (Eventual)

/-- A partner with the time that a search on it may take, in milliseconds. -/
structure Partner where
  name : String
  limit : Nat
  deriving DecidableEq, Repr

/-- What makes names fit to be looked for in identifiers. -/
def Registrable (names : List String) : Prop :=
  (∀ n ∈ names, n ≠ "" ∧ separator ∉ n.toList) ∧ names.Nodup

/-- The registered partners, in the order of their results. -/
structure Registry where
  partners : List Partner
  registrable : Registrable (partners.map (·.name))

def standardLimit : Nat := 4000

/-- A question that one provider was asked. -/
structure Visit where
  owner : Owner
  inquiry : Inquiry
  deriving DecidableEq, Repr

namespace Registry

def invalidName (n : String) : String := "Invalid partner provider name: '" ++ n ++ "'"

def duplicateName (n : String) : String := "Duplicate partner provider name: '" ++ n ++ "'"

/-- The first thing that is wrong with the names, given those that came before, if anything is. -/
def nameError? (seen : List String) : List String → Option Error
  | [] => none
  | n :: rest =>
    if n = "" ∨ separator ∈ n.toList then some (.invalidInput (invalidName n))
    else if n ∈ seen then some (.invalidInput (duplicateName n))
    else nameError? (n :: seen) rest

theorem nameError?_eq_none {seen names : List String} (h : nameError? seen names = none) :
    Registrable names ∧ ∀ n ∈ names, n ∉ seen := by
  induction names generalizing seen with
  | nil => simp [Registrable]
  | cons n rest ih =>
    unfold nameError? at h
    split at h
    · simp at h
    · split at h
      · simp at h
      · next hname hseen =>
        obtain ⟨⟨hall, hnodup⟩, hnot⟩ := ih h
        simp only [not_or] at hname
        refine ⟨⟨?_, ?_⟩, ?_⟩
        · intro m hm
          rcases List.mem_cons.1 hm with rfl | hm
          · exact hname
          · exact hall m hm
        · exact List.nodup_cons.2 ⟨fun hm => hnot n hm (by simp), hnodup⟩
        · intro m hm
          rcases List.mem_cons.1 hm with rfl | hm
          · exact hseen
          · exact fun hs => hnot m hm (by simp [hs])

/-- Registers partners, if their names are fit for it. -/
def ofPartners (ps : List Partner) : Except Error Registry :=
  match h : nameError? [] (ps.map (·.name)) with
  | some e => .error e
  | none => .ok ⟨ps, (nameError?_eq_none h).1⟩

def names (r : Registry) : List String := r.partners.map (·.name)

def isPartner (r : Registry) (name : String) : Bool := r.names.contains name

def parse (r : Registry) (raw : String) : Reference := .parse r.isPartner raw

/-! ## Searching -/

/-- The in-house results, then those of each partner that came in time. -/
def combine : Except Error (List Listing) × List (List Listing) → Except Error (List Listing)
  | (own, others) => own.map (· ++ others.flatten)

def search (r : Registry) (own : Eventual (Except Error (List Listing)))
    (partner : String → Eventual (Except Error (List Listing))) :
    Eventual (Except Error (List Listing)) :=
  (own.both (.all (r.partners.map fun p => (partner p.name).recover [] p.limit))).map combine

/-! ## Single listings -/

/-- Asks the owner of a listing; also which provider was asked for what. -/
def lookup (r : Registry) (own : Inquiry → Except Error Listing)
    (partner : String → Inquiry → Except Error Listing) (demand : Demand) (ref : Reference)
    (reservations : Bool) : Except Error Listing × List Visit :=
  let inquiry : Inquiry := ⟨demand, ref.localId, reservations⟩
  match ref.owner with
  | .inHouse => (own inquiry, [⟨.inHouse, inquiry⟩])
  | .partner name =>
    if r.isPartner name then (partner name inquiry, [⟨.partner name, inquiry⟩])
    else (.error (.notFound ref.text), [])

end Registry

end Lodging.Listing
