import Lodging.Proofs.Sync.Discipline

/-! # Runs under a condition

What is assumed of a run is said event by event, of each event and the state in which it happens
(`Along`), so what every such step keeps holds of every such run. What is known of all passes is kept by
a step if it holds of a pass that begins and is kept where one feed is moved on and where the next batch
is taken; what is known of all feeds of their batches, if moving a single feed on keeps it, since a new
batch is idle. -/

namespace Lodging.Sync.State

open Calendar

/-- Every event of the run meets the condition in the state in which it happens. -/
def Along (size : Nat) (P : State → Event → Prop) (s : State) : List Event → Prop
  | [] => True
  | e :: es => P s e ∧ ∀ s' ∈ s.step? size e, Along size P s' es

instance decidableAlong {size : Nat} {P : State → Event → Prop} [∀ s e, Decidable (P s e)] :
    ∀ (s : State) (es : List Event), Decidable (Along size P s es)
  | _, [] => .isTrue trivial
  | s, e :: es =>
    have : DecidablePred fun s' => Along size P s' es := fun s' => decidableAlong s' es
    inferInstanceAs (Decidable (P s e ∧ ∀ s' ∈ s.step? size e, Along size P s' es))

variable {size : Nat} {P : State → Event → Prop} {s s' : State}

theorem along_append {es fs : List Event} :
    Along size P s (es ++ fs) ↔
      Along size P s es ∧ ∀ s' ∈ s.run? size es, Along size P s' fs := by
  induction es generalizing s with
  | nil => simp [Along, run?]
  | cons e es ih =>
    cases h : s.step? size e with
    | none => simp [Along, run?, h]
    | some s₁ => simp [Along, run?, h, ih, and_assoc]

/-- What every step under the condition keeps lasts through every run under it. -/
theorem along_induction {motive : State → Prop}
    (step : ∀ {s s' : State} {e : Event}, motive s → P s e → s.step? size e = some s' → motive s')
    {es : List Event} (hes : Along size P s es) (hs : motive s) (h : s.run? size es = some s') :
    motive s' := by
  induction es generalizing s with
  | nil => exact Option.some.inj h ▸ hs
  | cons e es ih =>
    obtain ⟨s₁, h₁, h₂⟩ := Option.bind_eq_some_iff.mp h
    exact ih (hes.2 s₁ h₁) (step hs hes.1 h₁) h₂

/-- Where there is always a step that leaves less to be done, a run comes to its end. -/
theorem exists_run_of_lt {motive : Nat → State → Prop} {Done : State → Prop}
    (go : ∀ {n : Nat} {s : State}, motive n s →
      Done s ∨ ∃ e s' m, P s e ∧ s.step? size e = some s' ∧ m < n ∧ motive m s')
    {n : Nat} (hs : motive n s) :
    ∃ es s', Along size P s es ∧ s.run? size es = some s' ∧ Done s' := by
  induction n using Nat.strongRecOn generalizing s with
  | ind n ih =>
    rcases go hs with hdone | ⟨e, s₁, m, he, h₁, hlt, hs₁⟩
    · exact ⟨[], s, trivial, rfl, hdone⟩
    · obtain ⟨es, s', hes, hrun, hdone⟩ := ih m hlt hs₁
      refine ⟨e :: es, s', ⟨he, fun s₂ h₂ => ?_⟩, ?_, hdone⟩
      · rw [Option.some.inj (h₁.symm.trans h₂)] at hes
        exact hes
      · rw [run?, h₁]
        exact hrun

/-! ## All passes -/

/-- Every pass at work has the property, which may depend on its call, its request and its feeds. -/
def EveryPass (Q : Nat → Request → List Feed → Pass → Prop) (s : State) : Prop :=
  ∀ (c : Nat) (r : Request) (feeds : List Feed) (p : Pass),
    s.calls[c]? = some ⟨r, .passing feeds p⟩ → Q c r feeds p

theorem everyPass_iff {Q : Nat → Request → List Feed → Pass → Prop} : s.EveryPass Q ↔
    s.EveryCall fun c k => ∀ feeds p, k.phase = .passing feeds p → Q c k.request feeds p := by
  constructor
  · rintro hs c ⟨r, phase⟩ hc feeds p rfl
    exact hs c r feeds p hc
  · intro hs c r feeds p hc
    exact hs c _ hc feeds p rfl

theorem everyPass_of_calls_nil {Q : Nat → Request → List Feed → Pass → Prop} (h : s.calls = []) :
    s.EveryPass Q :=
  fun c r feeds p hc => by simp [h] at hc

/-- What a step does to the passes: it begins one, moves a feed of one on, takes one to its next
batch, or leaves them as they are. -/
theorem EveryPass.move {Q Q' : Nat → Request → List Feed → Pass → Prop} {e : Event}
    (hs : s.EveryPass Q) (h : Move size s e s')
    (hother : ∀ {c r feeds p}, caller? e ≠ some c → Q c r feeds p → Q' c r feeds p)
    (hlist : ∀ {c r down feeds}, e = .list c down → s.calls[c]? = some ⟨r, .waiting⟩ →
      listFeeds s.store down r = .ok (s'.store, feeds) → Q' c r feeds (.start r.guarded size feeds))
    (hadvance : ∀ {c i r feeds p feed st st' store locks},
      s.calls[c]? = some ⟨r, .passing feeds p⟩ → p.batch[i]? = some ⟨feed, st⟩ →
      s.Advance c i p feed e st st' store locks → Q c r feeds p → Q' c r feeds (p.setStage i st'))
    (hnext : ∀ {c r feeds p written}, e = .turn c → p.written? = some written → Q c r feeds p →
      Q' c r feeds (p.next written)) : s'.EveryPass Q' := by
  have hnew : ∀ {r : Request} {store : Store} {locks : Locks Party} {k : Call},
      e = .submit r → (∀ feeds p, k.phase ≠ .passing feeds p) →
      EveryPass Q' ⟨store, locks, s.calls ++ [k]⟩ := by
    rintro r store locks k rfl hk
    refine everyPass_iff.mpr ((everyPass_iff.mp hs).append (fun c k' hQ feeds p hp => ?_) ?_)
    · exact hother nofun (hQ feeds p hp)
    · exact fun feeds p hp => absurd hp (hk feeds p)
  have hset : ∀ {c : Nat} {k₀ k : Call} {store : Store} {locks : Locks Party},
      s.calls[c]? = some k₀ → caller? e = some c →
      (∀ feeds p, k.phase = .passing feeds p → Q' c k.request feeds p) →
      EveryPass Q' ⟨store, locks, s.calls.set c k⟩ := by
    intro c k₀ k store locks hc he hk
    refine everyPass_iff.mpr ((everyPass_iff.mp hs).set hc (fun c' k' hne _ hQ feeds p hp => ?_) hk)
    exact hother (fun h => hne (Option.some.inj (h.symm.trans he))) (hQ feeds p hp)
  cases h with
  | refuse _ => exact hnew rfl nofun
  | join _ _ => exact hnew rfl nofun
  | enter _ _ => exact hnew rfl nofun
  | list hc _ hl => exact hset hc rfl fun _ _ hp => by cases hp; exact hlist rfl hc hl
  | listFail hc _ _ => exact hset hc rfl nofun
  | advance hc hb ha =>
    exact hset hc ha.caller? fun _ _ hp => by cases hp; exact hadvance hc hb ha (hs _ _ _ _ hc)
  | next hc hw _ => exact hset hc rfl fun _ _ hp => by cases hp; exact hnext rfl hw (hs _ _ _ _ hc)
  | finish hc _ _ => exact hset hc rfl nofun
  | drop hc _ => exact hset hc rfl nofun

/-! ## The feeds of all batches -/

def EverySlot (Q : Slot → Prop) : State → Prop := EveryPass fun _ _ _ p => ∀ slot ∈ p.batch, Q slot

variable {Q : Slot → Prop}

/-- A step keeps what is known of all feeds if it does so for the feed that it moves on. -/
theorem EverySlot.move {e : Event} (hs : s.EverySlot Q) (h : Move size s e s')
    (hidle : ∀ feed, Q ⟨feed, .idle⟩)
    (hadvance : ∀ {c i : Nat} {r : Request} {feeds : List Feed} {p : Pass} {feed : Feed}
      {st st' : Stage} {store : Store} {locks : Locks Party},
      s.calls[c]? = some ⟨r, .passing feeds p⟩ → p.batch[i]? = some ⟨feed, st⟩ →
      s.Advance c i p feed e st st' store locks → Q ⟨feed, st⟩ → Q ⟨feed, st'⟩) :
    s'.EverySlot Q := by
  have hload : ∀ {guarded : Bool} {n : Nat} {results : List (List Block)} {feeds : List Feed},
      ∀ slot ∈ (Pass.load guarded n results feeds).batch, Q slot := by
    rintro guarded n results feeds ⟨feed, st⟩ hslot
    obtain rfl : st = .idle := Pass.load_idle hslot
    exact hidle feed
  refine EveryPass.move hs h (fun _ hQ => hQ) (fun _ _ _ => hload) (fun hc hb ha hQ slot hslot => ?_)
    (fun _ _ _ => hload)
  rcases Pass.mem_setStage hb hslot with rfl | hslot
  · exact hadvance hc hb ha (hQ _ (List.mem_of_getElem? hb))
  · exact hQ slot hslot

end Lodging.Sync.State
