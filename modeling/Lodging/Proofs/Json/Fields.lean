import Lodging.Json.Fields
import Lodging.Proofs.Json.Reading
import Mathlib.Data.List.Nodup

/-! # Records read back

A record is read back from the object it is written as when each of its fields is read from the value that
was written for it. A field that may be missing is written as null where it is, so what is written for a
value must not be null. -/

namespace Lodging.Json

variable {α : Type} {write : α → Json} {read? : Json → Option α}

/-! ## Leaves -/

/-- The value is read from what is written for it, and that is not null. -/
structure Restores (write : α → Json) (read? : Json → Option α) (a : α) : Prop where
  read : read? (write a) = some a
  ne_null : write a ≠ .null

theorem restores_str (s : String) : Restores .str str? s := ⟨rfl, nofun⟩

theorem restores_bool (b : Bool) : Restores .bool bool? b := ⟨rfl, nofun⟩

theorem restores_whole {b : Decimal.Bounds} {i : Int} (h : b.contains i = true) :
    Restores .whole (whole? b) i :=
  ⟨if_pos h, nofun⟩

theorem restores_ofFloat {x : Float} (h : x.isFinite = true) : Restores ofFloat float? x := by
  have hwrite : ofFloat x = .float x := if_pos h
  constructor
  · rw [hwrite, float?]
  · rw [hwrite]
    nofun

theorem list?_ofList {xs : List α} (h : ∀ a ∈ xs, Restores write read? a) :
    list? read? (ofList write xs) = some xs := by
  rw [ofList, list?]
  induction xs with
  | nil => rfl
  | cons a xs ih =>
    obtain ⟨ha, hxs⟩ := List.forall_mem_cons.mp h
    rw [List.map_cons, List.mapM_cons, ha.read, ih hxs]
    rfl

/-! ## Fields -/

/-- An object without repeated keys has fields. -/
theorem fields?_obj {members : List (String × Json)} (h : (members.map (·.1)).Nodup) (names : List String) :
    fields? names (.obj members) = some (.named members) := by
  have hcount : ∀ n, (members.filter (·.1 == n)).length ≤ 1 := fun n => by
    have hle := List.nodup_iff_count_le_one.mp h n
    rw [List.count_eq_countP, List.countP_map, List.countP_eq_length_filter] at hle
    exact hle
  exact if_pos (List.all_eq_true.mpr fun n _ => decide_eq_true (hcount n))

theorem lookup_of_mem {members : List (String × Json)} (h : (members.map (·.1)).Nodup)
    {m : String × Json} (hmem : m ∈ members) : members.lookup m.1 = some m.2 := by
  induction members with
  | nil => cases hmem
  | cons m' members ih =>
    obtain ⟨hm, hnodup⟩ := List.nodup_cons.mp h
    rcases List.mem_cons.mp hmem with rfl | hmem
    · exact List.lookup_cons_self
    · have hne : m.1 ≠ m'.1 := fun he => hm (List.mem_map.mpr ⟨m, hmem, he⟩)
      rw [List.lookup_cons, beq_false_of_ne hne]
      exact ih hnodup hmem

/-- In the fields of a written record every member is found, and nothing else. -/
theorem exists_fields (keys : List String) {j : Json} {members : List (String × Json)}
    (hj : j = .obj members) (hkeys : members.map (·.1) = keys) (h : keys.Nodup) :
    ∃ f, (∀ names, j.fields? names = some f) ∧ (∀ m ∈ members, f.get? m.1 = some m.2) ∧
      ∀ n ∉ keys, f.get? n = none := by
  subst hj hkeys
  refine ⟨.named members, fields?_obj h, fun m => lookup_of_mem h, fun n hn => ?_⟩
  rw [Fields.get?, List.lookup_eq_none_iff]
  exact fun m hm => bne_iff_ne.mpr fun he => hn (List.mem_map.mpr ⟨m, hm, he.symm⟩)

variable {f : Fields} {name : String}

theorem Fields.required_of {a : α} (hget : f.get? name = some (write a)) (h : Restores write read? a) :
    f.required name read? = some a := by
  rw [required, hget, Option.bind_some, h.read]

theorem nullable_of_ne_null {j : Json} (h : j ≠ .null) : nullable read? j = (read? j).map some := by
  cases j with
  | null => exact absurd rfl h
  | _ => rfl

theorem Fields.optional_of {o : Option α} (hget : f.get? name = some (ofOption write o))
    (h : ∀ a ∈ o, Restores write read? a) : f.optional name read? = some o := by
  unfold optional
  rw [hget]
  cases o with
  | none => rfl
  | some a =>
    obtain ⟨hread, hne⟩ := h a rfl
    show nullable read? (write a) = _
    rw [nullable_of_ne_null hne, hread]
    rfl

theorem Fields.optional_str {o : Option String} (hget : f.get? name = some (ofOption .str o)) :
    f.optional name str? = some o :=
  optional_of hget fun s _ => restores_str s

theorem Fields.optional_float {o : Option Float} (hget : f.get? name = some (ofOption ofFloat o))
    (h : ∀ x ∈ o, x.isFinite = true) : f.optional name float? = some o :=
  optional_of hget fun x hx => restores_ofFloat (h x hx)

/-! ## Documents -/

theorem legible_whole {b : Decimal.Bounds} {i : Int} (h : b.contains i = true)
    (hb : Decimal.int64.low ≤ b.low ∧ b.high ≤ Decimal.word64.high) : Legible (.whole i) :=
  .whole (isWhole_of_contains h hb)

theorem legible_ofOption {o : Option α} (h : ∀ a ∈ o, Legible (write a)) :
    Legible (ofOption write o) := by
  cases o with
  | none => exact .null
  | some a => exact h a rfl

theorem legible_ofOption_str (o : Option String) : Legible (ofOption .str o) :=
  legible_ofOption fun s _ => .str s

theorem legible_ofOption_float {o : Option Float} (h : ∀ x ∈ o, ReadsBack x) :
    Legible (ofOption ofFloat o) := by
  refine legible_ofOption fun x hx => ?_
  unfold ofFloat
  split
  · exact .float (h x hx)
  · exact .null

theorem legible_ofList {xs : List α} (h : ∀ a ∈ xs, Legible (write a)) : Legible (ofList write xs) :=
  .arr (List.forall_mem_map.mpr h)

/-- What is written for a value gives the value back: its document, and the text of its document if
each of these floats is read from its own text. What is read is written as the same text again. -/
structure GivesBack (write : α → Json) (read? : Json → Option α) (floats : List Float) (a : α) :
    Prop where
  document : read? (write a) = some a
  text : (∀ x ∈ floats, ReadsBack x) → (Json.read? (render (write a))).bind read? = some a
  again : (∀ x ∈ floats, ReadsBack x) →
    ((Json.read? (render (write a))).bind read?).map (fun b => render (write b)) =
      some (render (write a))

theorem Restores.givesBack {a : α} {floats : List Float} (h : Restores write read? a)
    (hlegible : (∀ x ∈ floats, ReadsBack x) → Legible (write a)) : GivesBack write read? floats a := by
  have htext : (∀ x ∈ floats, ReadsBack x) →
      (Json.read? (render (write a))).bind read? = some a := fun hfloats => by
    rw [read?_render (hlegible hfloats), Option.bind_some, h.read]
  refine ⟨h.read, htext, fun hfloats => ?_⟩
  rw [htext hfloats]
  rfl

end Lodging.Json
