import Lodging.Proofs.Sync.Account
import Lodging.Proofs.Sync.Handover

/-! # Which stints there are

Every call on a listing that is let in, and every feed of the listing in a call on all feeds, gets the
lock of the listing some time, and nobody else does. -/

namespace Lodging.Sync.State

open Calendar

/-- What has to be done under the lock of a listing: the calls on it, and its feeds in the calls on all
feeds. -/
def Concerns (s : State) (a : Account) (listing : Int) : Stint → Prop
  | ⟨c, none⟩ => ∃ k, s.calls[c]? = some k ∧ k.request.listing? = some listing ∧
      k.request.check = .ok ()
  | ⟨c, some n⟩ => ∃ k f, s.calls[c]? = some k ∧ k.request = .refresh none ∧
      (a.opening c).feeds[n]? = some f ∧ f.listing = listing

def Pending (s : State) : Stint → Prop
  | ⟨c, none⟩ => ∃ r, s.calls[c]? = some ⟨r, .waiting⟩
  | ⟨c, some n⟩ => ∃ r feeds p, s.calls[c]? = some ⟨r, .passing feeds p⟩ ∧
      (p.stageAt n).blocks? = none ∧ (p.stageAt n).isCleared = false

variable {size : Nat} {s s' : State} {e : Event} {a : Account} {listing : Int}

/-- Nothing is left to do when all calls have returned. -/
theorem not_pending (hret : ∀ k ∈ s.calls, ∃ o, k.phase = .finished o) (w : Stint) :
    ¬ s.Pending w := by
  obtain ⟨c, _ | n⟩ := w
  · rintro ⟨r, hc⟩
    obtain ⟨o, ho⟩ := hret _ (List.mem_of_getElem? hc)
    cases ho
  · rintro ⟨r, feeds, p, hc, -⟩
    obtain ⟨o, ho⟩ := hret _ (List.mem_of_getElem? hc)
    cases ho

/-- Whoever has the lock is concerned. -/
theorem concerns_of_owner? (ho : s.Orderly) (hf : Faithful s a) {o : Party}
    (hown : s.locks.owner? listing = some o) : s.Concerns a listing (s.stint o) := by
  have hw := (ho.owner?_eq_some_iff.mp hown).2
  obtain ⟨c, j⟩ := o
  obtain ⟨⟨r, phase⟩, hc, hw⟩ := Option.bind_eq_some_iff.mp hw
  cases j with
  | none =>
    refine ⟨_, hc, ?_⟩
    cases phase with
    | waiting => exact ⟨hw, (ho.regular c _ hc).admitted rfl⟩
    | passing feeds p => exact ⟨hw, (ho.regular c _ hc).admitted rfl⟩
    | finished o => cases hw
    | dropped => cases hw
  | some i =>
    cases phase with
    | waiting => cases hw
    | finished o => cases hw
    | dropped => cases hw
    | passing feeds p =>
      obtain ⟨slot, hb, hw⟩ := Option.bind_eq_some_iff.mp hw
      have hp := (ho.regular c _ hc).pass feeds p rfl
      split at hw
      · next hwants =>
        have hr : r.guarded = true := by
          by_contra hr
          have := hp.unguarded (by simpa using hr) _ (List.mem_of_getElem? hb)
          rw [hwants] at this
          cases this
        simp only [stint, Option.map_some, place_eq hc]
        refine ⟨_, slot.feed, hc, Request.eq_of_guarded hr, ?_, Option.some.inj hw⟩
        rw [(hf.passing c r feeds p hc).listed]
        exact hp.feed_at hb
      · cases hw

theorem Move.request (h : Move size s e s') {c : Nat} {k : Call} (hk : s.calls[c]? = some k) :
    ∃ k', s'.calls[c]? = some k' ∧ k'.request = k.request := by
  obtain ⟨k', hk', hb⟩ := h.becomes hk
  exact ⟨k', hk', hb.request⟩

/-- A call whose feeds are known has listed them, and they are not entered anew. -/
theorem Move.opening_note (h : Move size s e s') (hf : Faithful s a) {c : Nat}
    (hc : (a.opening c).feeds ≠ []) : (a.note s e).opening c = a.opening c := by
  have hlisted : ∀ {d : Nat} {r : Request} {down : Outage},
      s.calls[d]? = some ⟨r, .waiting⟩ → (a.note s (.list d down)).opening c = a.opening c := by
    intro d r down hd
    refine Function.update_of_ne (fun hcd => hc (hf.unopened c fun k hk => ?_)) _ _
    rw [hcd, hd] at hk
    exact Option.some.inj hk ▸ rfl
  cases h with
  | list hd _ _ => exact hlisted hd
  | listFail hd _ _ => exact hlisted hd
  | advance _ _ ha => rw [ha.opening_note]
  | _ => rfl

theorem Concerns.move {w : Stint} (h : s.Concerns a listing w) (hm : Move size s e s')
    (hf : Faithful s a) : s'.Concerns (a.note s e) listing w := by
  obtain ⟨c, _ | n⟩ := w
  · obtain ⟨k, hk, hl, hcheck⟩ := h
    obtain ⟨k', hk', hr⟩ := hm.request hk
    exact ⟨k', hk', hr ▸ hl, hr ▸ hcheck⟩
  · obtain ⟨k, f, hk, hr, hn, hl⟩ := h
    obtain ⟨k', hk', hr'⟩ := hm.request hk
    have hne : (a.opening c).feeds ≠ [] := fun he => by simp [he] at hn
    exact ⟨k', f, hk', hr'.trans hr, by rw [hm.opening_note hf hne, hn], hl⟩

/-! ## Nobody is left out -/

/-- A stint on a listing has had its lock, or has not begun. -/
def Complete (s : State) (a : Account) (listing : Int) : Prop :=
  ∀ w, s.Concerns a listing w → w ∈ a.order listing ∨ s.Pending w

section Moves

variable {c : Nat} {k₀ k : Call} {store : Store} {locks : Locks Party}

/-- A call that comes in has not begun. -/
theorem Complete.append (h : s.Complete a listing) (hf : Faithful s a) (r : Request)
    (hk : k.request.check = .ok () → k.phase = .waiting) (w : Stint)
    (hw : Concerns ⟨s.store, locks, s.calls ++ [k]⟩ (a.note s (.submit r)) listing w) :
    w ∈ a.order listing ∨ Pending ⟨s.store, locks, s.calls ++ [k]⟩ w := by
  have hold : ∀ {c : Nat} {k' : Call}, s.calls[c]? = some k' → (s.calls ++ [k])[c]? = some k' :=
    fun hc => (List.getElem?_append_left (List.getElem?_eq_some_iff.mp hc).1).trans hc
  obtain ⟨c, _ | n⟩ := w
  · obtain ⟨k', hc, hl, hcheck⟩ := hw
    rw [calls_append] at hc
    split at hc
    · next hlen =>
      cases hc
      obtain ⟨r', phase⟩ := k
      obtain rfl : phase = .waiting := hk hcheck
      exact .inr ⟨r', by simp [hlen]⟩
    · rcases h ⟨c, none⟩ ⟨k', hc, hl, hcheck⟩ with hin | ⟨r', hc'⟩
      · exact .inl hin
      · exact .inr ⟨r', hold hc'⟩
  · obtain ⟨k', f, hc, hr, hn, hl⟩ := hw
    rw [calls_append] at hc
    split at hc
    · next hlen =>
      have hnil : (a.opening c).feeds = [] := hf.unopened c fun k' hk' => by
        rw [hlen, List.getElem?_eq_none (Nat.le_refl _)] at hk'
        cases hk'
      rw [show (a.note s (.submit r)).opening c = a.opening c from rfl, hnil] at hn
      cases hn
    · rcases h ⟨c, some n⟩ ⟨k', f, hc, hr, hn, hl⟩ with hin | ⟨r', feeds, p, hc', hp⟩
      · exact .inl hin
      · exact .inr ⟨r', feeds, p, hold hc', hp⟩

/-- What is to be shown when a call becomes another one. -/
theorem Complete.set (h : s.Complete a listing) (hc : s.calls[c]? = some k₀)
    (he : caller? e = some c)
    (hk : ∀ j, Concerns ⟨store, locks, s.calls.set c k⟩ (a.note s e) listing ⟨c, j⟩ →
      ⟨c, j⟩ ∈ a.order listing ∨ Pending ⟨store, locks, s.calls.set c k⟩ ⟨c, j⟩)
    (w : Stint) (hw : Concerns ⟨store, locks, s.calls.set c k⟩ (a.note s e) listing w) :
    w ∈ a.order listing ∨ Pending ⟨store, locks, s.calls.set c k⟩ w := by
  obtain ⟨d, j⟩ := w
  by_cases hd : d = c
  · subst hd
    exact hk j hw
  · have hother : (s.calls.set c k)[d]? = s.calls[d]? := by rw [calls_set hc, if_neg hd]
    have hopening := (note_of_ne a s (e := e) (c := d) (by simpa [he] using Ne.symm hd)).1
    have hbefore : s.Concerns a listing ⟨d, j⟩ := by
      cases j with
      | none => simpa only [Concerns, hother] using hw
      | some n => simpa only [Concerns, hother, hopening] using hw
    rcases h _ hbefore with hin | hp
    · exact .inl hin
    · refine .inr ?_
      cases j with
      | none => simpa only [Pending, hother] using hp
      | some n => simpa only [Pending, hother] using hp

/-- The stint was there before the step if its call had listed the same feeds. -/
theorem Concerns.of_set {a' : Account} {j : Option Nat}
    (h : Concerns ⟨store, locks, s.calls.set c k⟩ a' listing ⟨c, j⟩)
    (hc : s.calls[c]? = some k₀) (hr : k.request = k₀.request)
    (ho : (a'.opening c).feeds = (a.opening c).feeds) :
    s.Concerns a listing ⟨c, j⟩ := by
  cases j with
  | none =>
    obtain ⟨k', hk', hl, hcheck⟩ := h
    cases (calls_set_self hc k).symm.trans hk'
    exact ⟨k₀, hc, hr ▸ hl, hr ▸ hcheck⟩
  | some n =>
    obtain ⟨k', f, hk', hr', hn, hl⟩ := h
    cases (calls_set_self hc k).symm.trans hk'
    exact ⟨k₀, f, hc, hr ▸ hr', ho ▸ hn, hl⟩

end Moves

section Passes

variable {c i n : Nat} {r : Request} {feeds : List Feed} {p : Pass}

/-- A call that has listed its feeds has begun. -/
theorem Complete.mem_of_passing (h : s.Complete a listing)
    (hc : s.calls[c]? = some ⟨r, .passing feeds p⟩) (hw : s.Concerns a listing ⟨c, none⟩) :
    ⟨c, none⟩ ∈ a.order listing := by
  rcases h _ hw with hin | ⟨r', hc'⟩
  · exact hin
  · cases hc.symm.trans hc'

/-- A feed of a call has had its lock, or it has not been looked up again. -/
theorem Complete.stage (h : s.Complete a listing)
    (hc : s.calls[c]? = some ⟨r, .passing feeds p⟩) (hw : s.Concerns a listing ⟨c, some n⟩) :
    ⟨c, some n⟩ ∈ a.order listing ∨
      (p.stageAt n).blocks? = none ∧ (p.stageAt n).isCleared = false := by
  rcases h _ hw with hin | ⟨r', feeds', p', hc', hst⟩
  · exact .inl hin
  · cases hc.symm.trans hc'
    exact .inr hst

/-- A call may list the feeds of a listing when it has its lock. -/
theorem mem_order_of_mayList (ho : s.Orderly)
    (hheld : ∀ o, s.locks.owner? listing = some o → s.stint o ∈ a.order listing)
    (hc : s.calls[c]? = some ⟨r, .waiting⟩) (hmay : s.mayList c r = true)
    (hl : r.listing? = some listing) : ⟨c, none⟩ ∈ a.order listing := by
  refine hheld ⟨c, none⟩ (ho.owner?_eq_some_iff.mpr ⟨?_, ?_⟩)
  · simpa [mayList, Request.guarded, hl] using hmay
  · simpa [wants?, hc, Call.wants?] using hl

/-- A feed that works under its lock has it. -/
theorem mem_order_of_holds {feed : Feed} {st : Stage} (ho : s.Orderly)
    (hheld : ∀ o, s.locks.owner? feed.listing = some o → s.stint o ∈ a.order feed.listing)
    (hc : s.calls[c]? = some ⟨r, .passing feeds p⟩) (hb : p.batch[i]? = some ⟨feed, st⟩)
    (hh : s.locks.holds ⟨c, some i⟩ = true) (hw : st.wantsLock = true) :
    ⟨c, some (p.results.length + i)⟩ ∈ a.order feed.listing := by
  have hwants : s.wants? ⟨c, some i⟩ = some feed.listing := by
    simp [wants?, hc, Call.wants?, Pass.wants?, hb, hw]
  have := hheld ⟨c, some i⟩ (ho.owner?_eq_some_iff.mpr ⟨hh, hwants⟩)
  simpa [stint, place_eq hc] using this

/-- A feed takes its last steps under its lock. -/
theorem Complete.of_advance {feed : Feed} {st st' : Stage} {store : Store} {locks : Locks Party}
    (h : s.Complete a listing) (ho : s.Orderly) (hf : Faithful s a)
    (hheld : ∀ o, s.locks.owner? listing = some o → s.stint o ∈ a.order listing)
    (hc : s.calls[c]? = some ⟨r, .passing feeds p⟩) (hb : p.batch[i]? = some ⟨feed, st⟩)
    (ha : s.Advance c i p feed e st st' store locks) (hw : s.Concerns a listing ⟨c, some n⟩) :
    ⟨c, some n⟩ ∈ a.order listing ∨
      Pending ⟨store, locks, s.calls.set c ⟨r, .passing feeds (p.setStage i st')⟩⟩ ⟨c, some n⟩ := by
  have hp := (ho.regular c _ hc).pass feeds p rfl
  rcases h.stage hc hw with hin | ⟨hblocks, hcleared⟩
  · exact .inl hin
  by_cases hi : n = p.results.length + i
  · subst hi
    obtain ⟨k, f, hc', hr, hn, hl⟩ := hw
    cases hc.symm.trans hc'
    rw [(hf.passing c r feeds p hc).listed] at hn
    cases (hp.feed_at hb).symm.trans hn
    rw [Pass.stageAt_batch hb] at hblocks hcleared
    subst hl
    have hpending : st'.blocks? = none → st'.isCleared = false →
        Pending ⟨store, locks, s.calls.set c ⟨r, .passing feeds (p.setStage i st')⟩⟩
          ⟨c, some (p.results.length + i)⟩ := fun h₁ h₂ =>
      ⟨_, _, _, calls_set_self hc _, by rw [Pass.stageAt_setStage hb, if_pos rfl]; exact ⟨h₁, h₂⟩⟩
    have hguarded : ∀ {ps : List Period}, toWrite? p st ≠ some ps := fun hps => by
      rw [show r = .refresh none from hr] at hp
      cases st with
      | fetched ps => simp [toWrite?, hp.guarded_eq, Request.guarded, Request.listing?] at hps
      | cleared ps => cases hcleared
      | _ => cases hps
    cases ha with
    | send => exact .inr (hpending rfl rfl)
    | receive d => exact .inr (hpending rfl rfl)
    | lineUp _ => exact .inr (hpending rfl rfl)
    | clear hh _ => exact .inl (mem_order_of_holds ho hheld hc hb hh rfl)
    | skip hh _ => exact .inl (mem_order_of_holds ho hheld hc hb hh rfl)
    | write hps _ => exact absurd hps hguarded
    | fail hps _ => exact absurd hps hguarded
  · refine .inr ⟨_, _, _, calls_set_self hc _, ?_⟩
    rw [Pass.stageAt_setStage hb, if_neg hi]
    exact ⟨hblocks, hcleared⟩

/-- After the last batch every feed is done. -/
theorem Complete.of_finish {written : List (List Block)} (h : s.Complete a listing) (ho : s.Orderly)
    (hf : Faithful s a) (hc : s.calls[c]? = some ⟨r, .passing feeds p⟩)
    (hwr : p.written? = some written) (hrest : p.rest = [])
    (hw : s.Concerns a listing ⟨c, some n⟩) : ⟨c, some n⟩ ∈ a.order listing := by
  rcases h.stage hc hw with hin | ⟨hblocks, -⟩
  · exact hin
  obtain ⟨k, f, -, -, hn, -⟩ := hw
  rw [(hf.passing c r feeds p hc).listed] at hn
  have hlt := (List.getElem?_eq_some_iff.mp hn).1
  rw [← ((ho.regular c _ hc).pass feeds p rfl).length_of_rest_nil hwr hrest] at hlt
  rw [Pass.stageAt_of_written? hwr, List.getElem?_eq_getElem hlt] at hblocks
  cases hblocks

end Passes

/-- No stint is over without having had its lock. -/
theorem Complete.move (h : s.Complete a listing) (ho : s.Orderly) (hf : Faithful s a)
    (hheld : ∀ o, s.locks.owner? listing = some o → s.stint o ∈ a.order listing)
    (hm : Move size s e s') (hdrop : ∀ d, e ≠ .drop d) :
    ∀ w, s'.Concerns (a.note s e) listing w → w ∈ a.order listing ∨ s'.Pending w := by
  cases hm with
  | refuse herr => exact h.append hf _ fun hok => by rw [show _ = _ from herr] at hok; cases hok
  | join _ _ => exact h.append hf _ fun _ => rfl
  | enter _ _ => exact h.append hf _ fun _ => rfl
  | drop _ _ => exact absurd rfl (hdrop _)
  | @list c r down store feeds hc hmay _ =>
    refine h.set hc rfl fun j hw => ?_
    cases j with
    | none =>
      obtain ⟨k', hk', hl, -⟩ := hw
      cases (calls_set_self hc _).symm.trans hk'
      exact .inl (mem_order_of_mayList ho hheld hc hmay hl)
    | some n =>
      refine .inr ⟨_, _, _, calls_set_self hc _, ?_⟩
      rw [Pass.stageAt_start]
      exact ⟨rfl, rfl⟩
  | @listFail c r down err hc hmay hlist =>
    refine h.set hc rfl fun j hw => ?_
    cases j with
    | none =>
      obtain ⟨k', hk', hl, -⟩ := hw
      cases (calls_set_self hc _).symm.trans hk'
      exact .inl (mem_order_of_mayList ho hheld hc hmay hl)
    | some n =>
      obtain ⟨k', f, -, -, hn, -⟩ := hw
      simp [Account.note, opening, hc, hlist] at hn
  | @advance e c i r feeds p feed st st' store locks hc hb ha =>
    refine h.set hc ha.caller? fun j hw => ?_
    have hw : s.Concerns a listing ⟨c, j⟩ := hw.of_set hc rfl (by rw [ha.opening_note])
    cases j with
    | none => exact .inl (h.mem_of_passing hc hw)
    | some n => exact h.of_advance ho hf hheld hc hb ha hw
  | @next c r feeds p written hc hwr _ =>
    refine h.set hc rfl fun j hw => ?_
    have hw : s.Concerns a listing ⟨c, j⟩ := hw.of_set hc rfl rfl
    cases j with
    | none => exact .inl (h.mem_of_passing hc hw)
    | some n =>
      rcases h.stage hc hw with hin | hst
      · exact .inl hin
      · refine .inr ⟨_, _, _, calls_set_self hc _, ?_⟩
        rw [Pass.stageAt_next hwr]
        exact hst
  | @finish c r feeds p written hc hwr hrest =>
    refine h.set hc rfl fun j hw => ?_
    have hw : s.Concerns a listing ⟨c, j⟩ := hw.of_set hc rfl rfl
    cases j with
    | none => exact .inl (h.mem_of_passing hc hw)
    | some n => exact .inl (h.of_finish ho hf hc hwr hrest hw)

end Lodging.Sync.State
