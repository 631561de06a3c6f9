import Lodging.Proofs.Http.Exchange
import Lodging.Remote.PartnerApi

/-! # What a partner hands out

What comes from a search or a lookup on a partner was offered in the document that answers the one
request that was made, and is handed out under the name of the partner. -/

namespace Lodging.Remote

open Http (Network Answered)

namespace PartnerApi

variable {p : PartnerApi} {net : Network}

theorem search_eq {q : Query} : p.search net q =
    let sending := Http.send net partnerUserAgent (.ofList p.listingsUrl)
      (·.withQuery (searchParams q) Http.Form.write)
    (ofSend sending.1 >>= p.readOffers, sending.2) := by
  unfold search
  generalize Http.send net partnerUserAgent (.ofList p.listingsUrl)
    (·.withQuery (searchParams q) Http.Form.write) = sending
  rfl

theorem lookup_eq {i : Listing.Inquiry} : p.lookup net i =
    let sending := Http.send net partnerUserAgent (.ofList (p.listingUrl i.id)) id
    (ofSend sending.1 >>= p.readOffer i.id >>= fun o => Listing.handOut i.demand i.id (p.listing o),
      sending.2) := by
  unfold lookup
  generalize Http.send net partnerUserAgent (.ofList (p.listingUrl i.id)) id = sending
  rfl

theorem eq_ok_of_ofSend {α β : Type} {r : Except Http.SendError α} {b : β}
    {f : α → Except Listing.Error β} (h : ofSend r >>= f = .ok b) : ∃ a, r = .ok a ∧ f a = .ok b := by
  cases r with
  | error e => cases h
  | ok a => exact ⟨a, rfl, h⟩

theorem readOffers_eq_ok {r : Http.Response} {ls : List Listing} (h : p.readOffers r = .ok ls) :
    ∃ offers, r.document? Offer.listOfJson? = some offers ∧
      ls = (offers.filter (·.about.isActive)).map p.listing := by
  unfold readOffers at h
  split at h
  · cases h
  · split at h
    · cases h
    · next offers hread => exact ⟨offers, hread, (Except.ok.inj h).symm⟩

theorem readOffer_eq_ok {id : String} {r : Http.Response} {o : Offer}
    (h : p.readOffer id r = .ok o) : r.document? Offer.ofJson? = some o := by
  unfold readOffer at h
  split at h
  · cases h
  · split at h
    · cases h
    · split at h
      · cases h
      · next o' hread => exact hread.trans (congrArg some (Except.ok.inj h))

theorem offers_of_search {q : Query} {ls : List Listing} (h : (p.search net q).1 = .ok ls) :
    ∃ offers, Answered net (p.search net q).2 Offer.listOfJson? offers ∧
      ls = (offers.filter (·.about.isActive)).map p.listing := by
  rw [search_eq] at h ⊢
  dsimp only at h ⊢
  obtain ⟨response, hsend, hread⟩ := eq_ok_of_ofSend h
  obtain ⟨request, hsent, hnet⟩ := Http.send_eq_ok hsend
  obtain ⟨offers, hdoc, hls⟩ := readOffers_eq_ok hread
  exact ⟨offers, ⟨request, response, hsent, hnet, hdoc⟩, hls⟩

theorem offer_of_lookup {i : Listing.Inquiry} {l : Listing} (h : (p.lookup net i).1 = .ok l) :
    ∃ o, Answered net (p.lookup net i).2 Offer.ofJson? o ∧ l = p.listing o := by
  rw [lookup_eq] at h ⊢
  dsimp only at h ⊢
  rw [bind_assoc] at h
  obtain ⟨response, hsend, hread⟩ := eq_ok_of_ofSend h
  obtain ⟨request, hsent, hnet⟩ := Http.send_eq_ok hsend
  cases hoffer : p.readOffer i.id response with
  | error e =>
    rw [hoffer] at hread
    cases hread
  | ok o =>
    rw [hoffer] at hread
    exact ⟨o, ⟨request, response, hsent, hnet, readOffer_eq_ok hoffer⟩, Listing.eq_of_handOut hread⟩

end PartnerApi

end Lodging.Remote
