import Lodging.Proofs.Sync.Failure
import Lodging.Proofs.Web.Site

/-! # Requests that fail

All that can be wrong with a request is found before the first write and the first download: what is
read from the request and from the inventory when it arrives, and the URLs and the listing of the feeds
at the beginning of its call. From then on its response is a success. So a request that fails has
changed nothing, whatever fails, and so has one that only asks for something, because it makes no call.
-/

namespace Lodging.Web

def Response.Succeeds (r : Response) : Prop := 200 ≤ r.status ∧ r.status < 300

theorem Response.succeeds_ok (j : Json) : (ok j).Succeeds := by
  show 200 ≤ 200 ∧ 200 < 300
  decide

theorem Response.succeeds_ofOutcome {k : Sync.Call} (hk : k.cannotFail = true) {o : Sync.Outcome}
    (ho : k.outcome? = some o) (listing : Int) : (ofOutcome listing o).Succeeds := by
  obtain ⟨r, phase⟩ := k
  cases phase with
  | finished o' =>
    cases Option.some.inj ho
    cases o with
    | failed e => cases hk
    | feeds fs => exact succeeds_ok _
    | blocks bs => exact succeeds_ok _
  | _ => cases ho

def Progress.needsCall : Progress → Bool
  | .decided _ _ => true
  | .calling _ _ => true
  | _ => false

/-- Whether a request gets no response but a success, given the calls. -/
def Progress.Safe (s : Sync.State) : Progress → Prop
  | .calling c _ => ∃ k, s.calls[c]? = some k ∧ k.cannotFail = true
  | .answered r => r.Succeeds
  | _ => False

/-! ## Requests that ask for something -/

def Route.needsCall : Route → Bool
  | .setCalendars _ => true
  | .refresh => true
  | _ => false

theorem Route.needsCall_of_named {f : String → Route} {id : List Char} {route : Route}
    (hf : ∀ s, (f s).needsCall = false) (h : ofSegments?.named f id = some route) :
    route.needsCall = false := by
  unfold ofSegments?.named at h
  split at h
  · cases h
  · rw [← Option.some.inj h]
    exact hf _

theorem Route.needsCall_of_get {segments : List (List Char)} {route : Route}
    (h : ofSegments? "GET" segments = some route) : route.needsCall = false := by
  unfold ofSegments? at h
  split at h
  · rw [← Option.some.inj h]; rfl
  · rw [← Option.some.inj h]; rfl
  · exact needsCall_of_named (fun _ => rfl) h
  · exact needsCall_of_named (fun _ => rfl) h
  · exact needsCall_of_named (fun _ => rfl) h
  · next hmethod _ => exact absurd hmethod (by decide)
  · next hmethod _ => exact absurd hmethod (by decide)
  · cases h

theorem Services.handle_of_get {s : Services} {r : Request} (h : r.method = "GET") :
    (∃ response, (s.handle r).1 = .respond response) ∨ ∃ q, (s.handle r).1 = .search q := by
  have hroute : ∀ route, Route.ofRequest? r = some route → route.needsCall = false := by
    intro route hr
    obtain ⟨segments, -, hs⟩ := Option.bind_eq_some_iff.mp hr
    exact Route.needsCall_of_get (h ▸ hs)
  unfold handle
  split
  · exact .inl ⟨_, rfl⟩
  · exact .inl ⟨_, rfl⟩
  · split
    · exact .inl ⟨_, rfl⟩
    · exact .inr ⟨_, rfl⟩
  · exact .inl ⟨_, rfl⟩
  · exact .inl ⟨_, rfl⟩
  · exact .inl ⟨_, rfl⟩
  · next hr => cases hroute _ hr
  · next hr => cases hroute _ hr

namespace Site

variable {w w' : Site} {n : Nat}

theorem progressOf_of_get {r : Request} (h : r.method = "GET") (around : Surroundings) :
    (w.progressOf around r).needsCall = false := by
  unfold progressOf
  rcases Services.handle_of_get h with ⟨response, he⟩ | ⟨q, he⟩ <;> rw [he] <;> rfl

/-- Whether an event is part of what is done for a request. -/
inductive Serves (w : Site) (n : Nat) : Event → Prop
  | receive (r : Request) (around : Surroundings) : w.exchanges.length = n →
      Serves w n (.receive r around)
  | call : Serves w n (.call n)
  | carry {r : Request} {c : Nat} {listing : Int} {e : Sync.Event} :
      w.exchanges[n]? = some ⟨r, .calling c listing⟩ → Sync.State.caller? e = some c →
      Serves w n (.carry e)
  | answer : Serves w n (.answer n)

def Event.isDownload : Event → Bool
  | .carry e => e.isDownload
  | _ => false

/-- An event that writes nothing, to the calendars or to the inventory, and has nothing to do with
documents. -/
structure Quiet (w : Site) (e : Event) (w' : Site) : Prop where
  store : w'.sync.store = w.sync.store
  inventory : w'.inventory = w.inventory
  noDownload : e.isDownload = false

/-! ## What a request comes to -/

theorem safe_of_move {e : Event} (h : Move w e w') {p : Progress}
    (hp : p.Safe w.sync) : p.Safe w'.sync := by
  cases p with
  | calling c listing =>
    rcases h.sync with he | ⟨e', he⟩
    · rw [he]
      exact hp
    · exact (Sync.State.step?_move he).cannotFail hp
  | answered r => exact hp
  | _ => cases hp

theorem succeeds_of_safe {p : Progress} (hp : p.Safe w.sync) {response : Response}
    (hr : w.response? p = some response) : response.Succeeds := by
  cases p with
  | calling c listing =>
    obtain ⟨k, hk, hf⟩ := hp
    simp only [response?, hk, Option.bind_some] at hr
    obtain ⟨o, ho, rfl⟩ := Option.map_eq_some_iff.mp hr
    exact Response.succeeds_ofOutcome hf ho listing
  | answered r => cases hr
  | _ => cases hp

/-- What can only become a success stays so. -/
theorem Move.safe {e : Event} (h : Move w e w')
    (hw : ∃ x, w.exchanges[n]? = some x ∧ x.progress.Safe w.sync) :
    ∃ x, w'.exchanges[n]? = some x ∧ x.progress.Safe w'.sync := by
  obtain ⟨x, hx, hsafe⟩ := hw
  obtain ⟨x', hx', -, hb⟩ := h.exchange hx
  refine ⟨x', hx', ?_⟩
  cases hb with
  | same h' =>
    obtain rfl := Option.some.inj (hx.symm.trans h')
    exact safe_of_move h hsafe
  | received hn =>
    -- the request is there already
    rw [List.getElem?_eq_none (Nat.le_of_eq hn.symm)] at hx
    cases hx
  | called h' =>
    obtain rfl := Option.some.inj (hx.symm.trans h')
    cases hsafe
  | answered h' hr =>
    obtain rfl := Option.some.inj (hx.symm.trans h')
    exact succeeds_of_safe hsafe hr

/-! ## Everything that is done for a request -/

/-- What is done for a request is quiet, or is done for one that needs a call and leaves it with nothing
but a success to come. -/
theorem Move.quiet_or_safe {e : Event} (h : Move w e w') (hs : Serves w n e) :
    w.Quiet e w' ∨ (∃ x, w.exchanges[n]? = some x ∧ x.progress.needsCall = true) ∧
      ∃ x, w'.exchanges[n]? = some x ∧ x.progress.Safe w'.sync := by
  cases hs with
  | receive r around _ =>
    cases h
    exact .inl ⟨rfl, rfl, rfl⟩
  | call =>
    cases h
    exact .inl ⟨Sync.State.submit_store .., rfl, rfl⟩
  | answer =>
    cases h
    exact .inl ⟨rfl, rfl, rfl⟩
  | carry hx hc =>
    cases h with
    | carry _ hstep =>
      rcases (Sync.State.step?_move hstep).fails_or_cannotFail hc with ⟨-, hstore, hdown⟩ | hsafe
      · exact .inl ⟨hstore, rfl, hdown⟩
      · exact .inr ⟨⟨_, hx, rfl⟩, _, hx, hsafe⟩

/-- As long as it is there, a request that only asks for something needs no call. -/
def Reads (w : Site) (n : Nat) : Prop :=
  ∀ x, w.exchanges[n]? = some x → x.request.method = "GET" → x.progress.needsCall = false

theorem Move.reads {e : Event} (h : Move w e w') (hw : w.Reads n) : w'.Reads n := by
  intro x hx hget
  cases h.becomes hx with
  | same hx => exact hw _ hx hget
  | received _ => exact progressOf_of_get hget _
  | called h₀ => cases hw _ h₀ hget
  | answered _ _ => rfl

theorem run?_exchange {es : List Event} (h : w.run? es = some w') {x x' : Exchange}
    (hx : w.exchanges[n]? = some x) (hx' : w'.exchanges[n]? = some x') :
    x'.request = x.request := by
  have hrun := run?_induction (motive := fun v => ∃ y, v.exchanges[n]? = some y ∧
      y.request = x.request) (fun ⟨y, hy, hr⟩ h =>
    have ⟨z, hz, hzr, _⟩ := (step?_move h).exchange hy
    ⟨z, hz, hzr.trans hr⟩) ⟨x, hx, rfl⟩ h
  obtain ⟨y, hy, hr⟩ := hrun
  rw [Option.some.inj (hx'.symm.trans hy), hr]

/-- A request that was answered without success, or only asks for something. -/
def Harmless (x : Exchange) : Prop :=
  (∃ response, x.progress = .answered response ∧ ¬ response.Succeeds) ∨ x.request.method = "GET"

/-- Whatever is done for a request is quiet if the request turns out to be harmless. -/
theorem quiet_of_harmless {es : List Event} {w₁ : Site} {e : Event} {x : Exchange}
    (h : w.step? e = some w₁) (hrun : w₁.run? es = some w') (hx : w'.exchanges[n]? = some x)
    (hharmless : Harmless x) (hreads : w.Reads n) (hs : w.Serves n e) : w.Quiet e w₁ := by
  have hm := step?_move h
  rcases hm.quiet_or_safe hs with hquiet | ⟨⟨x₀, hx₀, hneeds⟩, hsafe⟩
  · exact hquiet
  · exfalso
    rcases hharmless with ⟨response, hanswered, hfail⟩ | hget
    · -- from here on only a success could have been the response
      obtain ⟨x', hx', hsafe⟩ := run?_induction (fun hv h => (step?_move h).safe hv) hsafe hrun
      rw [← Option.some.inj (hx.symm.trans hx'), hanswered] at hsafe
      exact hfail hsafe
    · have hr : w.run? (e :: es) = some w' := by rw [run?, h, Option.bind_some, hrun]
      rw [run?_exchange hr hx₀ hx] at hget
      rw [hreads x₀ hx₀ hget] at hneeds
      cases hneeds

theorem throughout_quiet_of_harmless {x : Exchange} (hharmless : Harmless x) :
    ∀ {es : List Event} {w w' : Site}, w.run? es = some w' → w.Reads n →
      w'.exchanges[n]? = some x →
      Sync.Throughout step? (fun v e v' => v.Serves n e → v.Quiet e v') w es
  | [], _, _, _, _, _ => trivial
  | e :: es, w, w', h, hreads, hx => by
    intro w₁ h₁
    rw [run?, h₁, Option.bind_some] at h
    exact ⟨quiet_of_harmless h₁ h hx hharmless hreads,
      throughout_quiet_of_harmless hharmless h ((step?_move h₁).reads hreads) hx⟩

/-- A run of quiet events changes nothing. -/
theorem quiet_of_throughout : ∀ {es : List Event} {w w' : Site}, w.run? es = some w' →
    Sync.Throughout step? Quiet w es →
      w'.sync.store = w.sync.store ∧ w'.inventory = w.inventory ∧ ∀ e ∈ es, e.isDownload = false
  | [], _, _, h, _ => by
    rw [← Option.some.inj h]
    exact ⟨rfl, rfl, by simp⟩
  | e :: es, w, w', h, hall => by
    obtain ⟨w₁, h₁, h₂⟩ := Option.bind_eq_some_iff.mp h
    obtain ⟨hquiet, hrest⟩ := hall w₁ h₁
    obtain ⟨hstore, hinventory, hdown⟩ := quiet_of_throughout h₂ hrest
    exact ⟨hstore.trans hquiet.store, hinventory.trans hquiet.inventory,
      List.forall_mem_cons.mpr ⟨hquiet.noDownload, hdown⟩⟩

/-- Whatever else goes on at a site, whatever it holds and whatever fails: of all that is done for a
request that arrives, and is answered without success or only asks for something, nothing writes
feeds, blocks or records, asks for a document or takes one in. Where nothing else goes on, feeds,
blocks and records are the same in the end. The same holds of a call on calendars that fails. -/
theorem failure_changes_nothing :
    (∀ (w w' : Site) (es : List Event) (n : Nat) (x : Exchange),
      w.run? es = some w' → w.exchanges.length ≤ n → w'.exchanges[n]? = some x → Harmless x →
      Sync.Throughout step? (fun v e v' => v.Serves n e → v.Quiet e v') w es ∧
      (Sync.Throughout step? (fun v e _ => v.Serves n e) w es →
        w'.sync.store = w.sync.store ∧ w'.inventory = w.inventory ∧
          ∀ e ∈ es, e.isDownload = false)) ∧
    (∀ (size : Nat) (s s' : Sync.State) (es : List Sync.Event) (c : Nat) (r : Sync.Request)
        (x : Calendar.Error),
      s.run? size es = some s' → s'.calls[c]? = some ⟨r, .finished (.failed x)⟩ →
      Sync.Throughout (Sync.State.step? size) (fun v e v' => v.IsOf c e → v.Quiet e v') s es ∧
      (Sync.Throughout (Sync.State.step? size) (fun v e _ => v.IsOf c e) s es →
        s'.store = s.store ∧ ∀ e ∈ es, e.isDownload = false)) := by
  constructor
  · intro w w' es n x h hn hx hharmless
    have hreads : w.Reads n := fun x hx _ => by
      rw [List.getElem?_eq_none hn] at hx
      cases hx
    have hquiet := throughout_quiet_of_harmless hharmless h hreads hx
    exact ⟨hquiet, fun hall => quiet_of_throughout h (hquiet.mp hall)⟩
  · intro size s s' es c r x h hfail
    have hquiet := Sync.State.throughout_quiet_of_failed h hfail
    exact ⟨hquiet, fun hall => Sync.State.quiet_of_throughout h (hquiet.mp hall)⟩

def vacant : Site := create noPartners ⟨0, .kilometres⟩ 2 .empty

def calm : Surroundings where
  down := []
  geocoder := fun _ => .ok none
  partner := fun _ i => .error (.notFound i.id)
  partnerSearch := fun _ => .never

def astray : Request :=
  { method := "PUT"
    target := "/api/listings/8/calendars"
    contentType := some "application/json"
    body := "\x7b\"ical_urls\":[\"http://a\"]\x7d" }

theorem astray_changes_nothing :
    (∃ response, (vacant.receive astray calm).exchanges = [⟨astray, .answered response⟩] ∧
      response.status = 404 ∧ (vacant.receive astray calm).sync.store = .empty) ∧
    ∃ s, Sync.State.empty.run? 2 [.submit (.refresh none), .list 0 [.findFeeds]] = some s ∧
      s.calls.length = 1 ∧ s.store = .empty := by
  constructor
  · have h : (match vacant.progressOf calm astray with
        | .answered response => response.status == 404
        | _ => false) = true := by decide +kernel
    split at h
    · next response hp =>
      have hx : (vacant.receive astray calm).exchanges = [⟨astray, .answered response⟩] := by
        rw [← hp]
        rfl
      have hstatus : response.status = 404 := by simpa using h
      obtain ⟨-, hsame⟩ := failure_changes_nothing.1 vacant (vacant.receive astray calm)
        [.receive astray calm] 0 ⟨astray, .answered response⟩ rfl (Nat.le_refl 0)
        (by rw [hx]; rfl) (.inl ⟨response, rfl, fun hs => absurd hs.2 (by rw [hstatus]; decide)⟩)
      exact ⟨response, hx, hstatus, (hsame fun _ _ => ⟨.receive _ _ rfl, trivial⟩).1⟩
    · cases h
  · have hrun : Sync.State.empty.run? 2 [.submit (.refresh none), .list 0 [.findFeeds]] =
        some ⟨.empty, .empty, [⟨.refresh none,
          .finished (.failed (.storage (Access.failure .findFeeds)))⟩]⟩ := rfl
    obtain ⟨-, hsame⟩ := failure_changes_nothing.2 _ _ _ _ 0 _ _ hrun rfl
    exact ⟨_, hrun, rfl,
      (hsame fun _ _ => ⟨.inr ⟨rfl, _, rfl⟩, fun _ _ => ⟨.inl rfl, trivial⟩⟩).1⟩

end Site

end Lodging.Web
