import Lodging.Proofs.Sync.Moves
import Lodging.Web.Site

/-! # What happens at a site

Every event is one of the moves below. A move says what it needs and gives the site after it in full. No
move takes a request back, so the requests that are there stay there with their numbers. -/

namespace Lodging.Web

namespace Site

variable {w w' : Site}

inductive Move (w : Site) : Event → Site → Prop
  | receive (r : Request) (around : Surroundings) :
      Move w (.receive r around)
        { w with exchanges := w.exchanges ++ [⟨r, w.progressOf around r⟩] }
  | call {n : Nat} {r : Request} {call : Sync.Request} {listing : Int} :
      w.exchanges[n]? = some ⟨r, .decided call listing⟩ →
      Move w (.call n)
        { w with
          sync := w.sync.submit call
          exchanges := w.exchanges.set n ⟨r, .calling w.sync.calls.length listing⟩ }
  | carry {e : Sync.Event} {c : Nat} {sync : Sync.State} :
      Sync.State.caller? e = some c → w.sync.step? w.batchSize e = some sync →
      Move w (.carry e) { w with sync }
  | answer {n : Nat} {r : Request} {p : Progress} {response : Response} :
      w.exchanges[n]? = some ⟨r, p⟩ → w.response? p = some response →
      Move w (.answer n) { w with exchanges := w.exchanges.set n ⟨r, .answered response⟩ }
  | tick : Move w .tick { w with sync := w.sync.submit (.refresh none) }
  | insert (r : Record) : Move w (.insert r) { w with inventory := w.inventory.insert r }

/-! ## Every event is a move -/

theorem setProgress_eq {n : Nat} {x : Exchange} (h : w.exchanges[n]? = some x) (p : Progress) :
    w.setProgress n p = { w with exchanges := w.exchanges.set n ⟨x.request, p⟩ } := by
  unfold setProgress
  rw [Sync.State.modify_eq_set h]

theorem call?_move {n : Nat} (h : w.call? n = some w') : Move w (.call n) w' := by
  unfold call? at h
  split at h
  · next r call listing hn =>
    rw [← Option.some.inj h, setProgress_eq hn]
    exact .call hn
  · cases h

theorem caller?_of_not_submit {e : Sync.Event} (h : ∀ r, e ≠ .submit r) :
    ∃ c, Sync.State.caller? e = some c := by
  cases e with
  | submit r => exact absurd rfl (h r)
  | _ => exact ⟨_, rfl⟩

theorem carry?_move {e : Sync.Event} (h : w.carry? e = some w') : Move w (.carry e) w' := by
  unfold carry? at h
  split at h
  · cases h
  · next hne =>
    obtain ⟨c, hc⟩ := caller?_of_not_submit hne
    obtain ⟨sync, hsync, hw⟩ := Option.map_eq_some_iff.mp h
    rw [← hw]
    exact .carry hc hsync

theorem answer?_move {n : Nat} (h : w.answer? n = some w') : Move w (.answer n) w' := by
  unfold answer? at h
  split at h
  · next x hn =>
    obtain ⟨response, hr, hw⟩ := Option.map_eq_some_iff.mp h
    rw [← hw, setProgress_eq hn]
    exact .answer hn hr
  · cases h

theorem step?_move {e : Event} (h : w.step? e = some w') : Move w e w' := by
  cases e with
  | receive r around => exact Option.some.inj h ▸ .receive r around
  | call n => exact call?_move h
  | carry e => exact carry?_move h
  | answer n => exact answer?_move h
  | tick => exact Option.some.inj h ▸ .tick
  | insert r => exact Option.some.inj h ▸ .insert r

/-- What lasts through every event lasts through every run. -/
theorem run?_induction {motive : Site → Prop}
    (step : ∀ {w w' : Site} {e : Event}, motive w → w.step? e = some w' → motive w') :
    ∀ {es : List Event} {w w' : Site}, motive w → w.run? es = some w' → motive w'
  | [], _, _, hw, h => Option.some.inj h ▸ hw
  | _ :: _, _, _, hw, h => by
    obtain ⟨w₁, h₁, h₂⟩ := Option.bind_eq_some_iff.mp h
    exact run?_induction step (step hw h₁) h₂

/-! ## What an event does to a request, and to the calls -/

/-- How the exchange after an event comes about: it was there, or the request arrived, made its call, or
was answered. -/
inductive Becomes (w : Site) (n : Nat) : Event → Exchange → Prop
  | same {e : Event} {x : Exchange} : w.exchanges[n]? = some x → Becomes w n e x
  | received {r : Request} {around : Surroundings} : n = w.exchanges.length →
      Becomes w n (.receive r around) ⟨r, w.progressOf around r⟩
  | called {r : Request} {call : Sync.Request} {listing : Int} :
      w.exchanges[n]? = some ⟨r, .decided call listing⟩ →
      Becomes w n (.call n) ⟨r, .calling w.sync.calls.length listing⟩
  | answered {r : Request} {p : Progress} {response : Response} :
      w.exchanges[n]? = some ⟨r, p⟩ → w.response? p = some response →
      Becomes w n (.answer n) ⟨r, .answered response⟩

theorem Move.becomes {e : Event} (h : Move w e w') {n : Nat} {x : Exchange}
    (hx : w'.exchanges[n]? = some x) : Becomes w n e x := by
  have hset : ∀ {m : Nat} {y : Exchange}, (w.exchanges.set m y)[n]? = some x →
      w.exchanges[n]? = some x ∨ n = m ∧ x = y := by
    intro m y hy
    by_cases hm : m = n
    · subst hm
      obtain ⟨hlt, he⟩ := List.getElem?_eq_some_iff.mp hy
      exact .inr ⟨rfl, he.symm.trans (List.getElem_set_self hlt)⟩
    · exact .inl (List.getElem?_set_ne hm ▸ hy)
  cases h with
  | receive r around =>
    by_cases hn : n < w.exchanges.length
    · exact .same (List.getElem?_append_left hn ▸ hx)
    · obtain ⟨hlt, -⟩ := List.getElem?_eq_some_iff.mp hx
      obtain rfl : n = w.exchanges.length := by
        rw [List.length_append, List.length_singleton] at hlt
        omega
      rw [List.getElem?_concat_length] at hx
      rw [← Option.some.inj hx]
      exact .received rfl
  | @call m r call listing hm =>
    rcases hset hx with hx | ⟨rfl, rfl⟩
    · exact .same hx
    · exact .called hm
  | answer hm hr =>
    rcases hset hx with hx | ⟨rfl, rfl⟩
    · exact .same hx
    · exact .answered hm hr
  | _ => exact .same hx

theorem Becomes.request {e : Event} {n : Nat} {x x' : Exchange} (h : Becomes w n e x')
    (hx : w.exchanges[n]? = some x) : x'.request = x.request := by
  cases h with
  | same h => rw [Option.some.inj (hx.symm.trans h)]
  | received hn =>
    rw [List.getElem?_eq_none (Nat.le_of_eq hn.symm)] at hx
    cases hx
  | called h => rw [Option.some.inj (hx.symm.trans h)]
  | answered h _ => rw [Option.some.inj (hx.symm.trans h)]

/-- A request stays what it is, under its number. -/
theorem Move.exchange {e : Event} (h : Move w e w') {n : Nat} {x : Exchange}
    (hx : w.exchanges[n]? = some x) :
    ∃ x', w'.exchanges[n]? = some x' ∧ x'.request = x.request ∧ Becomes w n e x' := by
  have hle : w.exchanges.length ≤ w'.exchanges.length := by
    cases h with
    | receive r around => simp
    | call _ => simp
    | answer _ _ => simp
    | _ => exact Nat.le_refl _
  obtain ⟨hlt, -⟩ := List.getElem?_eq_some_iff.mp hx
  have hx' := List.getElem?_eq_getElem (Nat.lt_of_lt_of_le hlt hle)
  exact ⟨_, hx', (h.becomes hx').request hx, h.becomes hx'⟩

/-- The calls stay as they are or make one step. -/
theorem Move.sync {e : Event} (h : Move w e w') :
    w'.sync = w.sync ∨ ∃ e', w.sync.step? w.batchSize e' = some w'.sync := by
  cases h with
  | call _ => exact .inr ⟨.submit _, rfl⟩
  | carry _ hs => exact .inr ⟨_, hs⟩
  | tick => exact .inr ⟨.submit (.refresh none), rfl⟩
  | _ => exact .inl rfl

end Site

def noPartners : Listing.Registry := ⟨[], fun _ h => (List.not_mem_nil h).elim, List.nodup_nil⟩

end Lodging.Web
