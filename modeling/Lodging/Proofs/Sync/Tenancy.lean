import Lodging.Proofs.Sync.Grounds

/-! # Listings that have feeds

Feeds are registered by calls that give a listing new ones, and for that listing only. So whatever is
true of the listings in all such requests is true of the listings of all feeds. -/

namespace Lodging.Sync.State

open Calendar

structure Tenants (P : Int → Prop) (s : State) : Prop where
  feeds : ∀ f ∈ s.store.feeds, P f.listing
  calls : s.EveryCall fun _ k => ∀ listing urls, k.request = .setFeeds listing urls → P listing

variable {P : Int → Prop} {size : Nat} {s s' : State} {e : Event}

theorem tenants_empty : empty.Tenants P :=
  ⟨by simp [empty, Store.empty], fun c k h => by simp [empty] at h⟩

theorem Tenants.mono {Q : Int → Prop} (hs : s.Tenants P) (h : ∀ listing, P listing → Q listing) :
    s.Tenants Q :=
  ⟨fun f hf => h _ (hs.feeds f hf), fun c k hc l urls hr => h l (hs.calls c k hc l urls hr)⟩

theorem Tenants.append (hs : s.Tenants P) {locks : Locks Party} {k : Call}
    (hk : ∀ listing urls, k.request = .setFeeds listing urls → P listing) :
    Tenants P ⟨s.store, locks, s.calls ++ [k]⟩ :=
  ⟨hs.feeds, hs.calls.append (fun _ _ h => h) hk⟩

theorem Tenants.set (hs : s.Tenants P) {store : Store} (hstore : ∀ f ∈ store.feeds, P f.listing)
    {locks : Locks Party} {c : Nat} {k₀ k : Call} (hc : s.calls[c]? = some k₀)
    (hr : k.request = k₀.request) : Tenants P ⟨store, locks, s.calls.set c k⟩ :=
  ⟨hstore, hs.calls.set hc (fun _ _ _ _ h => h) (hr ▸ hs.calls c k₀ hc)⟩

theorem Tenants.move (hs : s.Tenants P) (h : Move size s e s')
    (he : ∀ listing urls, e = .submit (.setFeeds listing urls) → P listing) : s'.Tenants P := by
  cases h with
  | refuse _ => exact hs.append fun l urls hr => he l urls (congrArg Event.submit hr)
  | join _ _ => exact hs.append fun l urls hr => he l urls (congrArg Event.submit hr)
  | enter _ _ => exact hs.append fun l urls hr => he l urls (congrArg Event.submit hr)
  | list hc _ hlist =>
    refine hs.set ?_ hc rfl
    rcases listFeeds_eq_ok hlist with ⟨listing, urls, rfl, -, heq⟩ | ⟨listing, rfl, -, rfl, -⟩
    · intro f hf
      obtain rfl : (s.store.replaceFeeds listing (distinct urls)).1 = _ := congrArg Prod.fst heq
      rcases Store.mem_feeds_replaceFeeds.mp hf with ⟨hf, -⟩ | hf
      · exact hs.feeds f hf
      · rw [(Store.mem_newFeeds hf).1]
        exact hs.calls _ _ hc listing urls rfl
    · exact hs.feeds
  | advance hc _ ha => exact hs.set (ha.feeds_eq.1 ▸ hs.feeds) hc rfl
  | listFail hc _ _ => exact hs.set hs.feeds hc rfl
  | next hc _ _ => exact hs.set hs.feeds hc rfl
  | finish hc _ _ => exact hs.set hs.feeds hc rfl
  | drop hc _ => exact hs.set hs.feeds hc rfl

end Lodging.Sync.State
