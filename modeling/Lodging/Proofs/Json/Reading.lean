import Lodging.Json.Reader
import Lodging.Proofs.Json.Tokens

/-! # Documents read back

A document that has been written is read as itself. While its text is read, a value takes the reader from
where a value is due to where that value is complete, and leaves the frames around it alone; so the parts of
an array or object are read one after the other, whatever they are part of. -/

namespace Lodging.Json

/-! ## What can be read back -/

def ReadsBack (x : Float) : Prop := read? (render (.float x)) = some (.float x)

inductive Legible : Json → Prop
  | null : Legible .null
  | bool (b : Bool) : Legible (.bool b)
  | whole {i : Int} (h : IsWhole i) : Legible (.whole i)
  | float {x : Float} (h : ReadsBack x) : Legible (.float x)
  | str (s : String) : Legible (.str s)
  | arr {items : List Json} (h : ∀ v ∈ items, Legible v) : Legible (.arr items)
  | obj {members : List (String × Json)} (h : ∀ m ∈ members, Legible m.2) : Legible (.obj members)

theorem tokens?_eq (s : List Char) : tokens? s = (Lexer.finish ⟨[], .gap⟩ s).map List.reverse :=
  Option.map_bind.symm

/-- A float is read as the value of its numeral. -/
theorem read?_float (x : Float) :
    read? (render (.float x)) = (numeral? (Decimal.documented x)).map ofNumeral := by
  have hrun := finish_numeric (numeric_documented x) [] []
  have hclose : Lexer.finish ⟨[], .number (Decimal.documented x).reverse⟩ [] =
      (numeral? (Decimal.documented x).reverse.reverse).map (.numeral · :: []) := rfl
  rw [List.reverse_reverse] at hclose
  have htext : (render (.float x)).toList = Decimal.documented x ++ [] := String.toList_ofList
  rw [read?, htext, tokens?_eq, hrun, hclose]
  cases numeral? (Decimal.documented x) <;> rfl

theorem readsBack_iff {x : Float} :
    ReadsBack x ↔ ∃ n, numeral? (Decimal.documented x) = some n ∧ ofNumeral n = .float x := by
  rw [ReadsBack, read?_float, Option.map_eq_some_iff]

/-- The text of a float has a point or an exponent, so what is read from it is a float. -/
theorem readsBack_of_numeral {x : Float}
    (h : ((numeral? (Decimal.documented x)).filter (·.fractional)).bind
      Decimal.Numeral.documentFloat? = some x) : ReadsBack x := by
  obtain ⟨n, hn, hvalue⟩ := Option.bind_eq_some_iff.mp h
  obtain ⟨hread, hfractional⟩ := Option.filter_eq_some_iff.mp hn
  refine readsBack_iff.mpr ⟨n, hread, ?_⟩
  rw [ofNumeral, Decimal.Numeral.read?, if_pos hfractional, hvalue]
  rfl

/-! ## From one place of the text to another -/

/-- Reading the first part of the text, from a gap up to a gap, takes the reader from `r` to `r'`. -/
def Leads (r : Reader) (s : List Char) (r' : Reader) (after : List Char) : Prop :=
  ∃ tokens : List Token,
    (∀ ts, Lexer.finish ⟨ts, .gap⟩ s = Lexer.finish ⟨tokens.reverse ++ ts, .gap⟩ after) ∧
      tokens.foldlM Reader.step r = some r'

theorem Leads.trans {r r' r'' : Reader} {s s' s'' : List Char} (h : Leads r s r' s')
    (h' : Leads r' s' r'' s'') : Leads r s r'' s'' := by
  obtain ⟨tokens, hlex, hread⟩ := h
  obtain ⟨tokens', hlex', hread'⟩ := h'
  refine ⟨tokens ++ tokens', fun ts => ?_, ?_⟩
  · rw [hlex, hlex', List.reverse_append, List.append_assoc]
  · rw [List.foldlM_append, hread]
    exact hread'

theorem Spells.leads {t : Token} {s after : List Char} (h : Spells t s after) {r r' : Reader}
    (hstep : r.step t = some r') : Leads r s r' after := by
  refine ⟨[t], h, ?_⟩
  rw [List.foldlM_cons, hstep]
  rfl

theorem read?_of_leads {s : List Char} {j : Json}
    (h : Leads ⟨[], [], .value⟩ s ⟨[], [], .rest j⟩ []) : (tokens? s).bind ofTokens? = some j := by
  obtain ⟨tokens, hlex, hread⟩ := h
  have hfinish : Lexer.finish ⟨[], .gap⟩ s = some tokens.reverse := by
    rw [hlex, List.append_nil]
    rfl
  rw [tokens?_eq, hfinish, Option.map_some, List.reverse_reverse, Option.bind_some, ofTokens?, hread]

/-! ## Values -/

def Reader.AwaitsValue (r : Reader) : Prop := r.due = .value ∨ r.due = .valueOrClose

theorem Reader.AwaitsValue.step {r : Reader} (h : r.AwaitsValue) {t : Token} (ht : t ≠ .closeArray) :
    r.step t = value r.frames t := by
  obtain ⟨frames, members, due⟩ := r
  rcases h with rfl | rfl
  · rfl
  · unfold Reader.step
    split <;> simp_all

/-- Where a value may come, the text of the value is read as the value. -/
def Reads (j : Json) : Prop :=
  ∀ r after, r.AwaitsValue → Delimited after → Leads r (onto after j) ⟨r.frames, [], .rest j⟩ after

theorem reads_of_spells {j : Json} {t : Token}
    (hspells : ∀ after, Delimited after → Spells t (onto after j) after) (ht : t ≠ .closeArray)
    (hvalue : ∀ frames, Reader.value frames t = some ⟨frames, [], .rest j⟩) : Reads j :=
  fun r after hr hafter => (hspells after hafter).leads ((hr.step ht).trans (hvalue r.frames))

/-! ## Arrays -/

theorem delimited_items (vs : List Json) (after : List Char) : Delimited (itemsOnto (']' :: after) vs) := by
  cases vs with
  | nil => exact delimited_cons (by decide) _
  | cons v vs => exact delimited_cons (by decide) _

theorem items_lead {vs : List Json} (hvs : ∀ v ∈ vs, Reads v) (frames : List Frame)
    (done : List Json) (v : Json) (after : List Char) :
    Leads ⟨.array done :: frames, [], .rest v⟩ (itemsOnto (']' :: after) vs)
      ⟨frames, [], .rest (.arr (done.reverse ++ v :: vs))⟩ after := by
  induction vs generalizing done v with
  | nil =>
    refine (spells_mark (t := .closeArray) (fun _ => rfl) after).leads ?_
    rw [← List.reverse_cons]
    rfl
  | cons w vs ih =>
    obtain ⟨hw, hvs⟩ := List.forall_mem_cons.mp hvs
    have hcomma : Leads ⟨.array done :: frames, [], .rest v⟩ (itemsOnto (']' :: after) (w :: vs))
        ⟨.array (v :: done) :: frames, [], .value⟩ (onto (itemsOnto (']' :: after) vs) w) :=
      (spells_mark (t := .comma) (fun _ => rfl) _).leads rfl
    have hitem := hw ⟨.array (v :: done) :: frames, [], .value⟩ _ (.inl rfl) (delimited_items vs after)
    have hrest := ih hvs (v :: done) w
    rw [List.reverse_cons, List.append_assoc] at hrest
    exact (hcomma.trans hitem).trans hrest

theorem reads_arr {vs : List Json} (hvs : ∀ v ∈ vs, Reads v) : Reads (.arr vs) := by
  intro r after hr _
  have hopen : ∀ s, Leads r ('[' :: s) ⟨.array [] :: r.frames, [], .valueOrClose⟩ s := fun s =>
    (spells_mark (t := .openArray) (fun _ => rfl) s).leads (hr.step nofun)
  cases vs with
  | nil => exact (hopen _).trans ((spells_mark (t := .closeArray) (fun _ => rfl) after).leads rfl)
  | cons v vs =>
    obtain ⟨hv, hvs⟩ := List.forall_mem_cons.mp hvs
    have hfirst := hv ⟨.array [] :: r.frames, [], .valueOrClose⟩ _ (.inr rfl) (delimited_items vs after)
    exact ((hopen _).trans hfirst).trans (items_lead hvs r.frames [] v after)

/-! ## Objects -/

def named (m : String × Json) : Option String × Json := (some m.1, m.2)

theorem ofMembers_named (ms : List (String × Json)) : ofMembers (ms.map named).reverse = .obj ms := by
  have hkeys : ∀ key : Option String × Json → Option (String × Json),
      (∀ m, key (named m) = some m) → (ms.map named).mapM key = some ms := by
    intro key hkey
    induction ms with
    | nil => rfl
    | cons m ms ih =>
      rw [List.map_cons, List.mapM_cons, hkey, ih]
      rfl
  rw [ofMembers, List.reverse_reverse, hkeys _ fun _ => rfl]

theorem reverse_named_append (before : List (String × Json)) (k : String) (v : Json) :
    ((before ++ [(k, v)]).map named).reverse = (some k, v) :: (before.map named).reverse := by
  rw [List.map_append, List.reverse_append]
  rfl

theorem delimited_members (ms : List (String × Json)) (after : List Char) :
    Delimited (membersOnto ('}' :: after) ms) := by
  cases ms with
  | nil => exact delimited_cons (by decide) _
  | cons m ms => exact delimited_cons (by decide) _

/-- A member is read up to its value, where a key may come. -/
theorem member_leads {v : Json} (hv : Reads v) {r : Reader} (hr : r.due = .key ∨ r.due = .keyOrClose)
    (k : String) {after : List Char} (hafter : Delimited after) :
    Leads r (textOnto k (':' :: onto after v))
      ⟨.object r.members (some k) :: r.frames, [], .rest v⟩ after := by
  have hkey : r.step (.text (some k)) = some { r with due := .colon (some k) } := by
    obtain ⟨frames, members, due⟩ := r
    rcases hr with rfl | rfl <;> rfl
  have hcolon : Leads { r with due := .colon (some k) } (':' :: onto after v)
      ⟨.object r.members (some k) :: r.frames, [], .value⟩ (onto after v) :=
    (spells_mark (t := .colon) (fun _ => rfl) _).leads rfl
  exact (((spells_text k _).leads hkey).trans hcolon).trans
    (hv ⟨.object r.members (some k) :: r.frames, [], .value⟩ after (.inl rfl) hafter)

theorem members_lead {ms : List (String × Json)} (hms : ∀ m ∈ ms, Reads m.2) (frames : List Frame)
    (before : List (String × Json)) (k : String) (v : Json) (after : List Char) :
    Leads ⟨.object (before.map named).reverse (some k) :: frames, [], .rest v⟩
      (membersOnto ('}' :: after) ms) ⟨frames, [], .rest (.obj (before ++ (k, v) :: ms))⟩ after := by
  induction ms generalizing before k v with
  | nil =>
    refine (spells_mark (t := .closeObject) (fun _ => rfl) after).leads ?_
    rw [← ofMembers_named, reverse_named_append]
    rfl
  | cons m ms ih =>
    obtain ⟨hm, hms⟩ := List.forall_mem_cons.mp hms
    have hcomma : Leads ⟨.object (before.map named).reverse (some k) :: frames, [], .rest v⟩
        (membersOnto ('}' :: after) (m :: ms))
        ⟨frames, ((before ++ [(k, v)]).map named).reverse, .key⟩
        (textOnto m.1 (':' :: onto (membersOnto ('}' :: after) ms) m.2)) := by
      rw [reverse_named_append]
      exact (spells_mark (t := .comma) (fun _ => rfl) _).leads rfl
    have hmember := member_leads hm (r := ⟨frames, ((before ++ [(k, v)]).map named).reverse, .key⟩)
      (.inl rfl) m.1 (delimited_members ms after)
    have hrest := ih hms (before ++ [(k, v)]) m.1 m.2
    rw [List.append_assoc before] at hrest
    exact (hcomma.trans hmember).trans hrest

theorem reads_obj {ms : List (String × Json)} (hms : ∀ m ∈ ms, Reads m.2) : Reads (.obj ms) := by
  intro r after hr _
  have hopen : ∀ s, Leads r ('{' :: s) ⟨r.frames, [], .keyOrClose⟩ s := fun s =>
    (spells_mark (t := .openObject) (fun _ => rfl) s).leads (hr.step nofun)
  cases ms with
  | nil => exact (hopen _).trans ((spells_mark (t := .closeObject) (fun _ => rfl) after).leads rfl)
  | cons m ms =>
    obtain ⟨hm, hms⟩ := List.forall_mem_cons.mp hms
    have hfirst := member_leads hm (r := ⟨r.frames, [], .keyOrClose⟩) (.inr rfl) m.1
      (delimited_members ms after)
    exact ((hopen _).trans hfirst).trans (members_lead hms r.frames [] m.1 m.2 after)

/-! ## Documents -/

theorem Legible.reads {j : Json} (h : Legible j) : Reads j := by
  induction h with
  | null => exact reads_of_spells (fun _ => spells_null) nofun fun _ => rfl
  | bool b => exact reads_of_spells (fun _ => spells_bool b) nofun fun _ => rfl
  | whole h =>
    obtain ⟨n, hread, hvalue⟩ := numeral?_signed h
    exact reads_of_spells (fun _ => spells_numeral (numeric_signed _) hread) nofun fun frames => by
      rw [Reader.value, hvalue]
  | float h =>
    obtain ⟨n, hread, hvalue⟩ := readsBack_iff.mp h
    exact reads_of_spells (fun _ => spells_numeral (numeric_documented _) hread) nofun fun frames => by
      rw [Reader.value, hvalue]
  | str s => exact reads_of_spells (fun after _ => spells_text s after) nofun fun _ => rfl
  | arr _ ih => exact reads_arr ih
  | obj _ ih => exact reads_obj ih

/-- What was written is read back. -/
theorem read?_render {j : Json} (h : Legible j) : read? (render j) = some j := by
  have hlead := h.reads ⟨[], [], .value⟩ [] (.inl rfl) delimited_nil
  rw [read?, render, String.toList_ofList]
  exact read?_of_leads hlead

end Lodging.Json
