import Lodging.Http.Exchange

/-! # What is sent

A URL that can be requested is requested once, and what the network answers to that one request is the
result. For any other URL nothing is sent and there is an error. -/

namespace Lodging.Http

def requested? (url : String) (amend : Url → Url) : Option Url :=
  (Url.ofText? url).bind fun u =>
    if u.host?.isNone then none
    else if (amend u.requested).isRequestable then some (amend u.requested) else none

variable {net : Network} {userAgent url : String} {amend : Url → Url}

theorem send_of_requested? {u : Url} (h : requested? url amend = some u) :
    send net userAgent url amend =
      (((net ⟨u, userAgent⟩).map Except.ok).getD (.error (.unsent u.text)), [⟨u, userAgent⟩]) := by
  obtain ⟨v, hv, h⟩ := Option.bind_eq_some_iff.mp h
  split at h
  · cases h
  · next hhost =>
    split at h
    · next hreq =>
      cases h
      simp only [send, hv, hhost, hreq]
      cases net ⟨amend v.requested, userAgent⟩ <;> rfl
    · cases h

theorem send_of_not_requested? (h : requested? url amend = none) :
    ∃ e, send net userAgent url amend = (.error e, []) := by
  unfold requested? at h
  cases hv : Url.ofText? url with
  | none => exact ⟨.unbuildable none, by simp only [send, hv]⟩
  | some v =>
    rw [hv, Option.bind_some] at h
    split at h
    · next hhost => exact ⟨.unbuildable (some v.text), by simp only [send, hv, hhost, if_true]⟩
    · next hhost =>
      split at h
      · cases h
      · next hreq =>
        refine ⟨.unbuildable (some (amend v.requested).text), ?_⟩
        simp only [send, hv, hhost, hreq]
        rfl

def Url.isSendable (u : Url) : Bool := u.host?.isSome && u.isRequestable

theorem Url.host?_requested (u : Url) : u.requested.host? = u.host? := by
  unfold Url.requested
  split
  · simp only [Url.host?, Url.withoutUser]
    cases u.authority <;> rfl
  · rfl

/-- Nothing but the user is told apart. -/
theorem Url.requested_eq (u : Url) : ∃ a, u.requested = { u with authority := a } := by
  unfold Url.requested
  split
  · exact ⟨_, rfl⟩
  · exact ⟨u.authority, rfl⟩

theorem Url.requested_withPath (u : Url) (path : Path) :
    { u with path }.requested = { u.requested with path } := by
  unfold Url.requested
  dsimp only
  split <;> rfl

/-- URLs of other schemes than those of the web are never asked for. -/
theorem Url.not_isSendable {u : Url} (h : Url.kind u.scheme ≠ .web) : u.isSendable = false := by
  have hscheme : ∀ s ∈ ["http".toList, "https".toList], u.scheme ≠ s := by
    intro s hs he
    have hweb : ∀ s ∈ ["http".toList, "https".toList], Url.kind s = .web := by decide
    exact h (he ▸ hweb s hs)
  rw [Url.isSendable, Url.isRequestable, beq_false_of_ne (hscheme _ (by simp)),
    beq_false_of_ne (hscheme _ (by simp))]
  simp

/-- A text is asked for if it is a URL that can be. -/
theorem sent_eq : (send net userAgent url id).2 = (Url.ofText? url).elim [] fun u =>
    if u.requested.isSendable then [⟨u.requested, userAgent⟩] else [] := by
  unfold send
  cases Url.ofText? url with
  | none => rfl
  | some u =>
    simp only [Option.elim_some, id, Url.isSendable, Url.host?_requested]
    cases u.host? with
    | none => rfl
    | some host =>
      cases u.requested.isRequestable with
      | false => simp
      | true => cases net ⟨u.requested, userAgent⟩ <;> simp

/-- One request was sent, and the document that answers it is read as `a`. -/
def Answered {α : Type} (net : Network) (sent : List Request) (read? : Json → Option α) (a : α) :
    Prop :=
  ∃ request response, sent = [request] ∧ net request = some response ∧
    response.document? read? = some a

theorem send_eq_ok {r : Response} (h : (send net userAgent url amend).1 = .ok r) :
    ∃ request, (send net userAgent url amend).2 = [request] ∧ net request = some r := by
  cases hu : requested? url amend with
  | none =>
    obtain ⟨e, he⟩ : ∃ e, send net userAgent url amend = (.error e, []) :=
      send_of_not_requested? hu
    rw [he] at h
    cases h
  | some u =>
    rw [send_of_requested? hu] at h ⊢
    refine ⟨_, rfl, ?_⟩
    cases hn : net ⟨u, userAgent⟩ with
    | none =>
      rw [hn] at h
      cases h
    | some r' =>
      rw [hn] at h
      exact congrArg some (Except.ok.inj h)

end Lodging.Http
