import Lodging.Proofs.Sync.Locks

/-! # Turns on the locks

Any number of owners ask for locks and leave them. An owner stands for one question: who wants several
locks is several owners. Nothing is waited for between the registry and the line for a mutex, so who
asks has a place in the line at once; who leaves gives the lock back or stops waiting for it. The line
of a listing depends on the turns for this listing only, and its first holds the lock. -/

namespace Lodging.Sync.Locks

variable {α : Type}

inductive Turn (α : Type) where
  | ask (owner : α) (listing : Int)
  | leave (owner : α) (listing : Int)
  deriving DecidableEq, Repr

def Turn.listing : Turn α → Int
  | .ask _ listing => listing
  | .leave _ listing => listing

/-- Those who hold the lock of a listing or wait for it, in the order of their tickets. -/
def line (l : Locks α) (listing : Int) : List α :=
  (l.live.filter (·.listing == listing)).map (·.owner)

variable [DecidableEq α]

/-- The locks after a turn. Nobody asks twice, and nobody leaves what he did not ask for. -/
def turn? (l : Locks α) : Turn α → Option (Locks α)
  | .ask o listing => if l.asked? o = none then some (l.lock o listing) else none
  | .leave o listing => if l.asked? o = some listing then some (l.release (· == o)) else none

def turns? (l : Locks α) : List (Turn α) → Option (Locks α)
  | [] => some l
  | t :: ts => (l.turn? t).bind (·.turns? ts)

def joined (line : List α) : Turn α → List α
  | .ask o _ => line ++ [o]
  | .leave o _ => line.filter (· ≠ o)

def lined (turns : List (Turn α)) : List α := turns.foldl joined []

/-! ## One turn -/

variable {l l' : Locks α} {t : Turn α}

theorem turn?_eq_some (h : l.turn? t = some l') :
    (∃ o listing, t = .ask o listing ∧ l.asked? o = none ∧ l' = l.lock o listing) ∨
      ∃ o listing, t = .leave o listing ∧ l.asked? o = some listing ∧ l' = l.release (· == o) := by
  cases t with
  | ask o listing =>
    obtain ⟨ho, hl⟩ := Option.ite_none_right_eq_some.mp h
    exact .inl ⟨o, listing, rfl, ho, (Option.some.inj hl).symm⟩
  | leave o listing =>
    obtain ⟨ho, hl⟩ := Option.ite_none_right_eq_some.mp h
    exact .inr ⟨o, listing, rfl, ho, (Option.some.inj hl).symm⟩

theorem Consistent.turn (hl : l.Consistent) (h : l.turn? t = some l') : l'.Consistent := by
  obtain ⟨o, listing, rfl, ho, rfl⟩ | ⟨o, listing, rfl, -, rfl⟩ := turn?_eq_some h
  · exact hl.lock (asked?_eq_none_iff.mp ho)
  · exact hl.release _

omit [DecidableEq α] in
theorem line_lock (l : Locks α) (o : α) (listing other : Int) :
    (l.lock o listing).line other =
      if listing = other then l.line other ++ [o] else l.line other := by
  obtain ⟨mutex, hm⟩ := l.lock_live o listing
  rw [line, line, hm]
  by_cases h : listing = other <;> simp [h]

theorem line_release (l : Locks α) (o : α) (listing : Int) :
    (l.release (· == o)).line listing = (l.line listing).filter (· ≠ o) := by
  simp only [line, release, List.filter_map, List.filter_filter]
  refine congrArg (List.map _) (List.filter_congr fun t _ => ?_)
  by_cases h : t.owner = o <;> simp [h]

/-- Those who asked for a lock are in its line and in no other. -/
theorem Consistent.mem_line (hl : l.Consistent) {o : α} {listing : Int} :
    o ∈ l.line listing ↔ l.asked? o = some listing := by
  simp only [line, List.mem_map, List.mem_filter, beq_iff_eq]
  constructor
  · rintro ⟨t, ⟨ht, htl⟩, rfl⟩
    simp [asked?, hl.ticket?_eq ht, htl]
  · intro ha
    obtain ⟨t, ht, htl⟩ := Option.map_eq_some_iff.mp ha
    exact ⟨t, ⟨(ticket?_mem ht).1, htl⟩, (ticket?_mem ht).2⟩

theorem Consistent.line_turn (hl : l.Consistent) (h : l.turn? t = some l') (listing : Int) :
    l'.line listing =
      if t.listing = listing then joined (l.line listing) t else l.line listing := by
  obtain ⟨o, other, rfl, -, rfl⟩ | ⟨o, other, rfl, ho, rfl⟩ := turn?_eq_some h
  · exact line_lock l o other listing
  · rw [line_release]
    split
    · rfl
    · next hne =>
      -- the owner stands in another line
      refine List.filter_eq_self.mpr fun a ha => ?_
      have ha := hl.mem_line.mp ha
      refine decide_eq_true fun he => hne ?_
      rw [he, ho] at ha
      exact Option.some.inj ha

omit [DecidableEq α] in
theorem Consistent.nodup_line (hl : l.Consistent) (listing : Int) : (l.line listing).Nodup :=
  hl.owners.sublist (List.filter_sublist.map _)

omit [DecidableEq α] in
/-- Who is first in the line of a listing holds its lock. -/
theorem Consistent.owner?_eq_head? (hl : l.Consistent) (listing : Int) :
    l.owner? listing = (l.line listing).head? := by
  rw [owner?, hl.holderOf?_eq, line, List.head?_map, List.head?_filter]

/-- Who asks gets the lock at once exactly if nobody is in line for it. -/
theorem Consistent.holds_lock_iff (hl : l.Consistent) {o : α} (ho : l.asked? o = none)
    (listing : Int) : (l.lock o listing).holds o = true ↔ l.line listing = [] := by
  have hl' : (l.lock o listing).Consistent := hl.lock (asked?_eq_none_iff.mp ho)
  have hasked : (l.lock o listing).asked? o = some listing := by rw [asked?_lock ho, if_pos rfl]
  have howner : _ ↔ (l.lock o listing).holds o = true ∧ _ = some listing := hl'.owner?_eq_some_iff
  rw [hl'.owner?_eq_head?, line_lock, if_pos rfl] at howner
  rw [← and_iff_left (a := (l.lock o listing).holds o = true) hasked, ← howner]
  cases hline : l.line listing with
  | nil => simp
  | cons a line =>
    have ha : l.asked? a = some listing := hl.mem_line.mp (by simp [hline])
    have hne : a ≠ o := fun he => by rw [he, ho] at ha; cases ha
    simp [hne]

/-- Who asks makes the registry forget everything that is not in use. -/
theorem Consistent.mem_keys_lock (hl : l.Consistent) {o : α} (ho : l.asked? o = none)
    (listing other : Int) : other ∈ (l.lock o listing).registry.map Prod.fst ↔
      other = listing ∨ ∃ t ∈ (l.lock o listing).live, t.listing = other := by
  have hl' : (l.lock o listing).Consistent := hl.lock (asked?_eq_none_iff.mp ho)
  obtain ⟨mutex, hm⟩ := l.lock_live o listing
  constructor
  · intro h
    obtain ⟨⟨id, m⟩, he, rfl⟩ := List.mem_map.mp h
    have hkept : (id, m) ∈ l.kept listing ∨ id = listing := by
      unfold Locks.lock at he
      split at he
      · exact .inl he
      · rcases List.mem_append.mp he with he | he
        · exact .inl he
        · exact .inr (congrArg Prod.fst (List.mem_singleton.mp he))
    rcases hkept with hkept | rfl
    · obtain ⟨hreg, rfl | huse⟩ := mem_kept.mp hkept
      · exact .inl rfl
      · obtain ⟨t, ht, htm⟩ := List.any_eq_true.mp huse
        have htm : t.mutex = m := by simpa using htm
        have := List.inj_on_of_nodup_map hl.mutexes (hl.registered t ht) hreg htm
        exact .inr ⟨t, by simp [hm, ht], congrArg Prod.fst this⟩
    · exact .inl rfl
  · have hlive : ∀ t ∈ (l.lock o listing).live,
        t.listing ∈ (l.lock o listing).registry.map Prod.fst := fun t ht =>
      List.mem_map.mpr ⟨_, hl'.registered t ht, rfl⟩
    rintro (rfl | ⟨t, ht, rfl⟩)
    · exact hlive ⟨o, other, mutex⟩ (by simp [hm])
    · exact hlive t ht

/-! ## Any turns -/

variable {ts : List (Turn α)}

theorem turns?_append (l : Locks α) (ts us : List (Turn α)) :
    l.turns? (ts ++ us) = (l.turns? ts).bind (·.turns? us) := by
  induction ts generalizing l with
  | nil => rfl
  | cons t ts ih => cases h : l.turn? t <;> simp [turns?, h, ih]

theorem Consistent.turns (hl : l.Consistent) (h : l.turns? ts = some l') : l'.Consistent := by
  induction ts generalizing l with
  | nil => exact Option.some.inj h ▸ hl
  | cons t ts ih =>
    obtain ⟨m, hm, h⟩ := Option.bind_eq_some_iff.mp h
    exact ih (hl.turn hm) h

/-- The line of a listing comes from the turns for it. -/
theorem Consistent.line_turns (hl : l.Consistent) (h : l.turns? ts = some l') (listing : Int) :
    l'.line listing = (ts.filter (·.listing == listing)).foldl joined (l.line listing) := by
  induction ts generalizing l with
  | nil =>
    obtain rfl := Option.some.inj h
    rfl
  | cons t ts ih =>
    obtain ⟨m, hm, h⟩ := Option.bind_eq_some_iff.mp h
    rw [ih (hl.turn hm) h, hl.line_turn hm]
    by_cases ht : t.listing = listing <;> simp [ht]

theorem line_eq_lined (h : empty.turns? ts = some l) (listing : Int) :
    l.line listing = lined (ts.filter (·.listing == listing)) :=
  consistent_empty.line_turns h listing

/-- Who does not leave stays in line, and leads those whom he led. -/
theorem stays_turn {a : α} {listing : Int} (h : l.turn? t = some l')
    (ha : l.asked? a = some listing) (hstays : t ≠ .leave a listing) :
    l'.asked? a = some listing ∧ ∀ b, l.Leads a b → l'.Leads a b := by
  obtain ⟨o, other, rfl, ho, rfl⟩ | ⟨o, other, rfl, ho, rfl⟩ := turn?_eq_some h
  · have hao : a ≠ o := fun he => by rw [he, ho] at ha; cases ha
    exact ⟨by rw [asked?_lock ho, if_neg hao, ha], fun b hb => hb.lock o other⟩
  · have hao : (a == o) = false := by
      refine beq_false_of_ne fun he => hstays ?_
      rw [← he, ha] at ho
      rw [he, Option.some.inj ho]
    exact ⟨by rw [asked?_release, hao]; exact ha, fun b hb => hb.release hao⟩

theorem stays_turns {a : α} {listing : Int} (h : l.turns? ts = some l')
    (ha : l.asked? a = some listing) (hstays : Turn.leave a listing ∉ ts) :
    l'.asked? a = some listing ∧ ∀ b, l.Leads a b → l'.Leads a b := by
  induction ts generalizing l with
  | nil =>
    obtain rfl := Option.some.inj h
    exact ⟨ha, fun _ hb => hb⟩
  | cons t ts ih =>
    obtain ⟨m, hm, h⟩ := Option.bind_eq_some_iff.mp h
    rw [List.mem_cons, not_or] at hstays
    obtain ⟨hne, hstays⟩ := hstays
    obtain ⟨ham, hleads⟩ := stays_turn hm ha (Ne.symm hne)
    obtain ⟨ha', hleads'⟩ := ih h ham hstays
    exact ⟨ha', fun b hb => hleads' b (hleads b hb)⟩

theorem turn?_ask {o : α} {listing : Int} (h : l.turn? (.ask o listing) = some l') :
    l.asked? o = none ∧ l' = l.lock o listing := by
  obtain ⟨ho, hl⟩ := Option.ite_none_right_eq_some.mp h
  exact ⟨ho, (Option.some.inj hl).symm⟩

/-- Who asked for a lock before its holder did has left it. -/
theorem left_before {before between after : List (Turn α)} {a b : α} {listing : Int}
    (h : empty.turns? (before ++ .ask a listing :: (between ++ .ask b listing :: after)) = some l)
    (hb : l.owner? listing = some b) : Turn.leave a listing ∈ between ++ after := by
  by_contra hstays
  rw [List.mem_append, not_or] at hstays
  obtain ⟨hbetween, hafter⟩ := hstays
  have hl : l.Consistent := consistent_empty.turns h
  rw [turns?_append] at h
  obtain ⟨l₁, h₁, h⟩ := Option.bind_eq_some_iff.mp h
  obtain ⟨l₂, h₂, h⟩ := Option.bind_eq_some_iff.mp h
  rw [turns?_append] at h
  obtain ⟨l₃, h₃, hrest⟩ := Option.bind_eq_some_iff.mp h
  obtain ⟨l₄, h₄, -⟩ := Option.bind_eq_some_iff.mp hrest
  obtain ⟨ha, rfl⟩ := turn?_ask h₂
  obtain ⟨hbn, -⟩ := turn?_ask h₄
  have ha₂ : (l₁.lock a listing).asked? a = some listing := by rw [asked?_lock ha, if_pos rfl]
  have ha₃ := (stays_turns h₃ ha₂ hbetween).1
  have hab : a ≠ b := fun he => by rw [he, hbn] at ha₃; cases ha₃
  -- from its question on, b is led by a
  have hleave : Turn.leave a listing ∉ Turn.ask b listing :: after := by
    simpa using hafter
  obtain ⟨ha', hleads⟩ := stays_turns hrest ha₃ hleave
  exact hl.owner?_ne_of_leads (hleads b (leads_of_asked? ha₃ hbn)) hab ha' hb

end Lodging.Sync.Locks
