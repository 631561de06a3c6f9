import Lodging.Rehearsal.Steps
import Lodging.Web.Site

/-! # Requests in a rehearsal

A rehearsal treats a request as a site does: what its actor waits for, and the call it sets out to make,
are what the request comes down to when it arrives at the site that the world holds. -/

namespace Lodging.Rehearsal.World

open Web (Exchange Site Surroundings)

def site (w : World) (exchanges : List Exchange) : Site :=
  { registry := w.registry, defaults := w.defaults, batchSize := w.service.batchSize
    inventory := w.inventory, sync := w.sync, exchanges }

def surroundings (w : World) : Surroundings :=
  { down := w.down, geocoder := w.geocoder, partner := w.partnerLookup
    partnerSearch := w.partnerSearch }

def waitFor (w : World) : Web.Progress → Wait
  | .searching result => w.await (result.map fun r => .response (.ofListings r))
  | .decided _ listing => .call (.response listing)
  | .calling _ listing => .call (.response listing)
  | .answered r => .over (.response r)

theorem errand?_setErrand (w : World) (a : Actor) (e : Errand) :
    (w.setErrand a e).errand? a = some e := List.lookup_cons_self

/-- The actor waits for what the request comes down to, and sets out to make the call that it needs; the
site stays as it is until then. -/
theorem beginHttp_eq (w : World) (actor : Actor) (r : Web.Request) (exchanges : List Exchange) :
    (w.beginHttp actor r).2 = w.waitFor ((w.site exchanges).progressOf w.surroundings r) ∧
      (w.beginHttp actor r).1.site exchanges = w.site exchanges ∧
      ∀ call listing,
        (w.site exchanges).progressOf w.surroundings r = .decided call listing →
        ((w.beginHttp actor r).1.errand? actor).map (·.request) = some call := by
  have hservices : (w.site exchanges).services w.surroundings = w.services := rfl
  simp only [Site.progressOf, hservices, beginHttp]
  cases ha : (w.services.handle r).1 with
  | respond response => exact ⟨rfl, rfl, fun _ _ h => by cases h⟩
  | search q => exact ⟨rfl, rfl, fun _ _ h => by cases h⟩
  | setFeeds n urls =>
    refine ⟨rfl, rfl, fun call listing h => ?_⟩
    cases h
    exact congrArg (Option.map _) (errand?_setErrand ..)
  | refresh listing =>
    refine ⟨rfl, rfl, fun call about h => ?_⟩
    cases h
    exact congrArg (Option.map _) (errand?_setErrand ..)

end Lodging.Rehearsal.World
