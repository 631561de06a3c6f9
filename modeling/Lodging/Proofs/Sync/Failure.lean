import Lodging.Proofs.Sync.Moves

/-! # Calls that fail

A call fails when its request is refused or its feeds cannot be listed, and at no other time: a download
or a write that fails costs no more than the blocks of one feed. So a call that fails has written
nothing and has asked for no document, whatever other calls did meanwhile. -/

namespace Lodging.Sync

/-- Whether a call is past the points at which it can fail. One that was given up is. -/
def Call.cannotFail (k : Call) : Bool :=
  match k.phase with
  | .waiting => false
  | .finished (.failed _) => false
  | _ => true

theorem Call.cannotFail_outcomeOf (request : Request) (feeds : List Calendar.Feed)
    (written : List (List Calendar.Block)) :
    (Call.mk request (.finished (outcomeOf request feeds written))).cannotFail = true := by
  cases request <;> rfl

def Event.isDownload : Event → Bool
  | .send .. => true
  | .receive .. => true
  | _ => false

/-- Whether all events of a run have a property, given what is there before and after them. -/
def Throughout {σ ε : Type} (step? : σ → ε → Option σ) (P : σ → ε → σ → Prop) : σ → List ε → Prop
  | _, [] => True
  | s, e :: es => ∀ s', step? s e = some s' → P s e s' ∧ Throughout step? P s' es

theorem Throughout.mp {σ ε : Type} {step? : σ → ε → Option σ} {P Q : σ → ε → σ → Prop} :
    ∀ {es : List ε} {s : σ}, Throughout step? (fun s e s' => P s e s' → Q s e s') s es →
      Throughout step? P s es → Throughout step? Q s es
  | [], _, _, _ => trivial
  | _ :: _, _, himp, hp => fun s' h => ⟨(himp s' h).1 (hp s' h).1, (himp s' h).2.mp (hp s' h).2⟩

namespace State

variable {size : Nat} {s s' : State} {e : Event} {c : Nat}

@[simp] theorem submit_store (s : State) (r : Request) : (s.submit r).store = s.store := by
  unfold submit
  split <;> rfl

/-- The only step after which a call can fail is the first one, and that leaves the store alone. -/
theorem Move.fails_or_cannotFail (h : Move size s e s') (hc : caller? e = some c) :
    ((∃ r, s.calls[c]? = some ⟨r, .waiting⟩) ∧ s'.store = s.store ∧ e.isDownload = false) ∨
      ∃ k, s'.calls[c]? = some k ∧ k.cannotFail = true := by
  have hset : ∀ {d : Nat} {k₀ k : Call}, s.calls[d]? = some k₀ → some d = some c →
      k.cannotFail = true → ∃ k', (s.calls.set d k)[c]? = some k' ∧ k'.cannotFail = true := by
    intro d k₀ k hd hdc hk
    obtain ⟨hlt, -⟩ := List.getElem?_eq_some_iff.mp hd
    cases hdc
    exact ⟨k, List.getElem?_set_self hlt, hk⟩
  cases h with
  | refuse _ => cases hc
  | join _ _ => cases hc
  | enter _ _ => cases hc
  | list hd _ _ => exact .inr (hset hd hc rfl)
  | listFail hd _ _ => exact .inl ⟨⟨_, Option.some.inj hc ▸ hd⟩, rfl, rfl⟩
  | advance hd _ ha => exact .inr (hset hd (ha.caller?.symm.trans hc) rfl)
  | next hd _ _ => exact .inr (hset hd hc rfl)
  | finish hd _ _ => exact .inr (hset hd hc (Call.cannotFail_outcomeOf ..))
  | drop hd _ => exact .inr (hset hd hc rfl)

/-- A call that cannot fail stays so. -/
theorem Move.cannotFail (h : Move size s e s')
    (hs : ∃ k, s.calls[c]? = some k ∧ k.cannotFail = true) :
    ∃ k, s'.calls[c]? = some k ∧ k.cannotFail = true := by
  obtain ⟨k, hk, hf⟩ := hs
  by_cases hc : caller? e = some c
  · rcases h.fails_or_cannotFail hc with ⟨⟨r, hr⟩, -⟩ | h'
    · rw [hk] at hr
      rw [Option.some.inj hr] at hf
      cases hf
    · exact h'
  · exact ⟨k, h.calls_of_ne hk hc, hf⟩

/-! ## Everything that a failing call does -/

def IsOf (s : State) (c : Nat) (e : Event) : Prop :=
  caller? e = some c ∨ s.calls.length = c ∧ ∃ r, e = .submit r

/-- An event that writes nothing and has nothing to do with documents. -/
structure Quiet (s : State) (e : Event) (s' : State) : Prop where
  store : s'.store = s.store
  noDownload : e.isDownload = false

theorem quiet_submit (s : State) (r : Request) : s.Quiet (.submit r) (s.submit r) :=
  ⟨submit_store s r, rfl⟩

/-- Unless a call is left where it cannot fail, its step is quiet. -/
theorem quiet_of_failed {es : List Event} {s₁ : State} {r : Request} {x : Calendar.Error}
    (h : s.step? size e = some s₁) (hrun : s₁.run? size es = some s')
    (hfail : s'.calls[c]? = some ⟨r, .finished (.failed x)⟩) (hc : s.IsOf c e) :
    s.Quiet e s₁ := by
  rcases hc with hc | ⟨-, q, rfl⟩
  · rcases (step?_move h).fails_or_cannotFail hc with ⟨-, hstore, hdown⟩ | hsafe
    · exact ⟨hstore, hdown⟩
    · obtain ⟨k, hk, hf⟩ := run?_induction (fun hs h => (step?_move h).cannotFail hs) hsafe hrun
      rw [hfail] at hk
      rw [← Option.some.inj hk] at hf
      cases hf
  · exact Option.some.inj h ▸ s.quiet_submit q

theorem throughout_quiet_of_failed {r : Request} {x : Calendar.Error} :
    ∀ {es : List Event} {s s' : State}, s.run? size es = some s' →
      s'.calls[c]? = some ⟨r, .finished (.failed x)⟩ →
      Throughout (step? size) (fun v e v' => v.IsOf c e → v.Quiet e v') s es
  | [], _, _, _, _ => trivial
  | e :: es, s, s', h, hfail => by
    intro s₁ h₁
    rw [run?, h₁, Option.bind_some] at h
    exact ⟨quiet_of_failed h₁ h hfail, throughout_quiet_of_failed h hfail⟩

/-- A run of quiet events changes nothing. -/
theorem quiet_of_throughout : ∀ {es : List Event} {s s' : State}, s.run? size es = some s' →
    Throughout (step? size) Quiet s es → s'.store = s.store ∧ ∀ e ∈ es, e.isDownload = false
  | [], _, _, h, _ => ⟨congrArg store (Option.some.inj h).symm, by simp⟩
  | e :: es, s, s', h, hall => by
    obtain ⟨s₁, h₁, h₂⟩ := Option.bind_eq_some_iff.mp h
    obtain ⟨hquiet, hrest⟩ := hall s₁ h₁
    obtain ⟨hstore, hdown⟩ := quiet_of_throughout h₂ hrest
    exact ⟨hstore.trans hquiet.store, List.forall_mem_cons.mpr ⟨hquiet.noDownload, hdown⟩⟩

end State

end Lodging.Sync
