import Lodging.Sync.Service

/-! # Runs of the service

A run of the service is a list of signals with their times. The background loop does nothing to the
calls and the store that the events of calls could not do: a pass that begins is a call that comes in,
and stopping gives a call up. So whatever holds after all runs of calls holds after all runs of the
service. -/

namespace Lodging.Sync

namespace Loop

variable {l l' : Loop} {sync : State}

theorem tick?_eq_some {period now c : Nat} : l.tick? period now c = some l' ↔
    ∃ due, l = ⟨due, none⟩ ∧ due ≤ now ∧ l' = ⟨nextDue period now due, some c⟩ := by
  obtain ⟨due, call⟩ := l
  cases call with
  | none => simp [tick?, eq_comm]
  | some d => simp [tick?]

theorem settle?_eq_some : l.settle? sync = some l' ↔
    ∃ due c, l = ⟨due, some c⟩ ∧ (∀ k, sync.calls[c]? = some k → k.isOver = true) ∧
      l' = ⟨due, none⟩ := by
  obtain ⟨due, call⟩ := l
  cases call with
  | none => simp [settle?]
  | some c =>
    have hover : (sync.calls[c]?).all (·.isOver) = true ↔
        ∀ k, sync.calls[c]? = some k → k.isOver = true := by
      cases sync.calls[c]? <;> simp
    rw [settle?, Option.ite_none_right_eq_some, hover, Option.some.injEq]
    constructor
    · rintro ⟨hc, rfl⟩
      exact ⟨due, c, rfl, hc, rfl⟩
    · rintro ⟨_, _, he, hc, rfl⟩
      cases he
      exact ⟨hc, rfl⟩

/-- A pass is given up by one event, if there is one to be given up. -/
theorem dropPass_eq (l : Loop) (sync : State) :
    l.dropPass sync = sync ∨ ∃ c, sync.drop? c = some (l.dropPass sync) := by
  obtain ⟨due, call⟩ := l
  cases call with
  | none => exact .inl rfl
  | some c =>
    cases h : sync.drop? c with
    | none => simp [dropPass, h]
    | some sync' => exact .inr ⟨c, by simp [dropPass, h]⟩

end Loop

namespace Service

def run? (s : Service) : List (Nat × Signal) → Option Service
  | [] => some s
  | (now, x) :: rest => (s.step? now x).bind (·.run? rest)

/-- What a signal does to the calls: at most one event. -/
theorem step?_sync {s s' : Service} {now : Nat} {x : Signal} (h : s.step? now x = some s') :
    s'.batchSize = s.batchSize ∧
      (s'.sync = s.sync ∨ ∃ e, s.sync.step? s.batchSize e = some s'.sync) := by
  cases x with
  | call e =>
    obtain ⟨sync, hs, rfl⟩ := Option.map_eq_some_iff.mp h
    exact ⟨rfl, .inr ⟨e, hs⟩⟩
  | start =>
    rw [← Option.some.inj h]
    unfold start
    split <;> exact ⟨rfl, .inl rfl⟩
  | stop =>
    rw [← Option.some.inj h]
    refine ⟨rfl, ?_⟩
    cases hl : s.loop with
    | none => simp [stop, hl]
    | some l =>
      simp only [stop, hl, Option.elim_some]
      exact (l.dropPass_eq s.sync).imp_right fun ⟨c, hc⟩ => ⟨.drop c, hc⟩
  | tick =>
    obtain ⟨l, -, rfl⟩ := Option.map_eq_some_iff.mp h
    exact ⟨rfl, .inr ⟨.submit (.refresh none), rfl⟩⟩
  | settle =>
    obtain ⟨l, -, rfl⟩ := Option.map_eq_some_iff.mp h
    exact ⟨rfl, .inl rfl⟩

/-- The calls of a service are always in a state that events of calls lead to. -/
theorem run?_sync {s s' : Service} {signals : List (Nat × Signal)}
    (h : s.run? signals = some s') : ∃ es, s.sync.run? s.batchSize es = some s'.sync := by
  induction signals generalizing s with
  | nil => exact ⟨[], by rw [← Option.some.inj h]; rfl⟩
  | cons signal rest ih =>
    obtain ⟨s₁, h₁, h₂⟩ := Option.bind_eq_some_iff.mp h
    obtain ⟨hsize, hstep⟩ := step?_sync h₁
    obtain ⟨es, hes⟩ := ih h₂
    rw [hsize] at hes
    rcases hstep with hsame | ⟨e, he⟩
    · exact ⟨es, hsame ▸ hes⟩
    · exact ⟨e :: es, by rw [State.run?, he, Option.bind_some, hes]⟩

end Service

end Lodging.Sync
