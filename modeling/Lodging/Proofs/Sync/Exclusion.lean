import Lodging.Proofs.Sync.Timetable

/-! # Locks exclude and are kept apart

However owners ask for locks, hold them and leave them, each listing has one mutex that all of its
owners have tickets for, and the lock goes to one of them at a time in the order in which they asked.
Owners for other listings make no difference to that, and none to the times of it either. -/

namespace Lodging.Sync.Locks

/-- After any turns, a listing has at most one holder; all tickets for it are for the mutex that the
registry has for it; the registry knows a listing once, and after a question only the listing asked for
and those with tickets; the holder of a lock is the first in the line that the turns for the listing make
up, and everyone who asked before him has left. In time, the tasks for a listing have its lock in
rounds, whatever tasks there are for others. -/
theorem exclude_in_turn {α : Type} [DecidableEq α] {turns : List (Turn α)} {l : Locks α}
    (h : empty.turns? turns = some l) :
    (∀ a b listing, l.holds a = true → l.holds b = true → l.asked? a = some listing →
      l.asked? b = some listing → a = b) ∧
    (∀ t ∈ l.live, l.registry.lookup t.listing = some t.mutex) ∧
    (l.registry.map Prod.fst).Nodup ∧
    (∀ o listing l', l.turn? (.ask o listing) = some l' → ∀ other,
      other ∈ l'.registry.map Prod.fst ↔ other = listing ∨ ∃ t ∈ l'.live, t.listing = other) ∧
    (∀ listing, l.line listing = lined (turns.filter (·.listing == listing)) ∧
      l.owner? listing = (l.line listing).head?) ∧
    (∀ before between after a b listing,
      turns = before ++ .ask a listing :: (between ++ .ask b listing :: after) →
      l.owner? listing = some b → Turn.leave a listing ∈ between ++ after) ∧
    ∀ tasks listing, (Timetable.log tasks).filter (Timetable.concerns tasks listing) =
      Timetable.rounds 0 (Timetable.arrivals tasks listing) := by
  have hl : l.Consistent := consistent_empty.turns h
  refine ⟨fun a b listing => hl.holds_unique, fun t ht => ?_, hl.keys, fun o listing l' hask => ?_,
    fun listing => ⟨line_eq_lined h listing, hl.owner?_eq_head? listing⟩, ?_, Timetable.log_filter⟩
  · exact (lookup_eq_some_iff_mem hl.keys).mpr (hl.registered t ht)
  · obtain ⟨ho, rfl⟩ := turn?_ask hask
    exact hl.mem_keys_lock ho listing
  · rintro before between after a b listing rfl hb
    exact left_before h hb

/-- Four ask for the locks of two listings; the first two of them leave, one while he waits. -/
def relay : List (Turn Nat) :=
  [.ask 0 5, .ask 1 5, .ask 2 7, .ask 3 5, .leave 1 5, .leave 0 5]

def relayed : Locks Nat := ⟨[(5, 0), (7, 1)], [⟨2, 7, 1⟩, ⟨3, 5, 0⟩], 2⟩

theorem relay_exclude_in_turn : empty.turns? relay = some relayed ∧
    relayed.line 5 = lined [.ask 0 5, .ask 1 5, .ask 3 5, .leave 1 5, .leave 0 5] ∧
    relayed.owner? 5 = some 3 ∧ Turn.leave 1 5 ∈ [Turn.ask 2 7, .leave 1 5, .leave 0 5] := by
  have hturns : empty.turns? relay = some relayed := rfl
  obtain ⟨-, -, -, -, hline, hleft, -⟩ := exclude_in_turn hturns
  have howner : relayed.owner? 5 = some 3 := (hline 5).2
  exact ⟨hturns, (hline 5).1, howner, hleft [.ask 0 5] [.ask 2 7] _ 1 3 5 rfl howner⟩

end Lodging.Sync.Locks
