import Lodging.Listing.Basic

/-!
# The inventory

The records of the in-house listings, in the order in which they were last written, with at most one
record for an identifier.
-/

namespace Lodging

structure Inventory where
  records : List Record

namespace Inventory

def empty : Inventory := ⟨[]⟩

/-- Adds a record. One with the same identifier goes, so the new record comes last. -/
def insert (i : Inventory) (r : Record) : Inventory :=
  ⟨i.records.filter (·.id != r.id) ++ [r]⟩

def get? (i : Inventory) (id : Int) : Option Record := i.records.find? (·.id == id)

def select (i : Inventory) (p : Record → Bool) : List Record := i.records.filter p

theorem nodup_insert {i : Inventory} (h : (i.records.map (·.id)).Nodup) (r : Record) :
    ((i.insert r).records.map (·.id)).Nodup := by
  have hs : ((i.records.filter (·.id != r.id)).map (·.id)).Nodup :=
    h.sublist (List.filter_sublist.map _)
  simp only [insert, List.map_append, List.nodup_append, List.map_cons, List.map_nil]
  refine ⟨hs, by simp, ?_⟩
  intro a ha b hb
  simp only [List.mem_map, List.mem_filter, bne_iff_ne, ne_eq] at ha
  obtain ⟨s, ⟨-, hne⟩, rfl⟩ := ha
  simp only [List.mem_singleton] at hb
  exact hb ▸ hne

end Inventory

end Lodging
