import Checkout.Proofs.Service.History

/-! What the service takes no notice of. A request outside the served surface is refused, with a status
that says why, and refusing it is all that happens: left out of a run, such requests are missed by
nobody. -/
namespace Checkout.Service

open Checkout.Http (Network Response)
open Checkout.Text (splitWhere)

/-- The paths of the service and the methods that are allowed there. -/
def surface : List (String × List String) :=
  [("/healthz",["GET","HEAD"]),("/metrics",["GET","HEAD"]),
    ("/acceptance-token",["GET","HEAD","POST"]),("/webhooks",["POST"])]

/-- A request to the served surface; a webhook may have two mebibytes. -/
structure Incoming.Served (r : Incoming) : Prop where
  allowed : ∃ methods, (barePath r.path,methods) ∈ surface ∧ r.method ∈ methods
  fits : barePath r.path = "/webhooks" → r.body.length ≤ 2 * 1024 * 1024

/-- The methods that the header of an answer allows. -/
def allowedBy (answer : Response) : Option (List String) :=
  answer.allow.map fun names => (splitWhere (· == ',') names.toList).map String.ofList

/-- An answer that refuses a request and says why. -/
inductive Incoming.Refuses (r : Incoming) (answer : Response) : Prop
  | notFound (path : ∀ methods, (barePath r.path,methods) ∉ surface) (status : answer.status = 404)
  | notAllowed {methods : List String} (path : (barePath r.path,methods) ∈ surface)
    (method : r.method ∉ methods) (status : answer.status = 405)
    (allow : allowedBy answer = some methods)
  | tooLarge (path : barePath r.path = "/webhooks") (method : r.method = "POST")
    (body : 2 * 1024 * 1024 < r.body.length) (status : answer.status = 413)

namespace Route

lemma mem_surface_iff {path : String} {methods : List String} :
    (path,methods) ∈ surface ↔ ∃ place : Route, path = place.path ∧ methods = place.methods := by
  constructor
  · intro h
    simp only [surface, List.mem_cons, Prod.mk.injEq, List.not_mem_nil, or_false] at h
    rcases h with ⟨rfl,rfl⟩ | ⟨rfl,rfl⟩ | ⟨rfl,rfl⟩ | ⟨rfl,rfl⟩
    · exact ⟨.health,rfl,rfl⟩
    · exact ⟨.metrics,rfl,rfl⟩
    · exact ⟨.acceptanceToken,rfl,rfl⟩
    · exact ⟨.webhooks,rfl,rfl⟩
  · rintro ⟨place,rfl,rfl⟩
    cases place <;> simp [surface, Route.path, Route.methods]

lemma path_injective : Function.Injective path := by
  intro place place' h
  have hplace : ofPath? place.path = some place' := ofPath?_eq_some_iff.mpr h
  exact Option.some.inj ((ofPath?_path place).symm.trans hplace)

/-- The header that goes with a refused method lists the methods of the place. -/
lemma allowedBy_methodNotAllowed (place : Route) :
    allowedBy (methodNotAllowed place) = some place.methods := by
  cases place <;> decide +kernel

end Route

namespace Incoming
variable {r : Incoming}

/-- The requests that reach a handler are those to the served surface. -/
lemma served_iff : r.Served ↔ r.reached?.isSome := by
  rw [Option.isSome_iff_exists]
  constructor
  · rintro ⟨⟨methods,hmem,hmethod⟩,hfits⟩
    obtain ⟨place,hpath,rfl⟩ := Route.mem_surface_iff.mp hmem
    refine ⟨place,reached?_eq_some_iff.mpr ⟨hpath,hmethod,?_⟩⟩
    rintro rfl
    exact hfits hpath
  · rintro ⟨place,h⟩
    obtain ⟨hpath,hmethod,hfits⟩ := reached?_eq_some_iff.mp h
    refine ⟨⟨place.methods,Route.mem_surface_iff.mpr ⟨place,hpath,rfl⟩,hmethod⟩,fun hwebhooks => ?_⟩
    exact hfits (Route.path_injective (hpath.symm.trans hwebhooks))

instance : DecidablePred Served := fun _ => decidable_of_iff _ served_iff.symm

/-- The answer that is given for a reason says so. -/
lemma Refusal.refuses {answer : Response} (h : r.Refusal answer) : r.Refuses answer := by
  cases h with
  | notFound route =>
    refine .notFound (fun methods hmem => ?_) rfl
    obtain ⟨place,hpath,-⟩ := Route.mem_surface_iff.mp hmem
    cases route.symm.trans (Route.ofPath?_eq_some_iff.mpr hpath)
  | @notAllowed place route method =>
    have hpath := Route.ofPath?_eq_some_iff.mp route
    exact .notAllowed (Route.mem_surface_iff.mpr ⟨place,hpath,rfl⟩) method rfl
      place.allowedBy_methodNotAllowed
  | tooLarge route method body =>
    exact .tooLarge (Route.ofPath?_eq_some_iff.mp route) method body rfl

end Incoming

/-- Whether a step is anything but a request outside the served surface. -/
def Step.isServed : Step → Bool
  | .http r => decide r.Served
  | _ => true

/-- Some steps without the requests outside the served surface. -/
def served (steps : List (Network × Step)) : List (Network × Step) :=
  steps.filter fun s => s.2.isServed

section Served
variable {net : Network} {s : Step} {rest : List (Network × Step)}

lemma served_cons_of_pos (h : s.isServed = true) :
    served ((net, s) :: rest) = (net, s) :: served rest := List.filter_cons_of_pos h

lemma served_cons_of_neg (h : ¬ s.isServed = true) : served ((net, s) :: rest) = served rest :=
  List.filter_cons_of_neg h

end Served

namespace App
variable {r : Incoming} {s : Step}

lemma exists_step_eq_idle (h : ¬ r.Served) : ∃ answer, r.Refuses answer ∧
    ∀ (app : App) (net : Network), app.step net (.http r) = app.idle (.response answer) := by
  rw [Incoming.served_iff, Option.not_isSome_iff_eq_none] at h
  obtain ⟨refusal,hrefusal,hidle⟩ := exists_handle_eq_idle h
  refine ⟨refusal,hrefusal.refuses,fun app net => ?_⟩
  rw [step, hidle]
  rfl

lemma after_of_not_isServed (app : App) (net : Network) (h : ¬ s.isServed = true) :
    app.after net s = app := by
  cases s with
  | http r =>
    obtain ⟨answer,-,hidle⟩ := exists_step_eq_idle fun hserved => h (decide_eq_true hserved)
    rw [after, hidle]
    rfl
  | _ => exact absurd rfl h

/-- The service comes to the same state without the steps that are not served. -/
lemma follow_served (app : App) (steps : List (Network × Step)) :
    app.follow (served steps) = app.follow steps := by
  induction steps generalizing app with
  | nil => rfl
  | cons first rest ih =>
    obtain ⟨net,s⟩ := first
    by_cases h : s.isServed = true
    · rw [served_cons_of_pos h]
      exact ih (app.after net s)
    · rw [served_cons_of_neg h, follow, app.after_of_not_isServed net h]
      exact ih app

/-- Every other step has the effect that it has without them. -/
lemma zip_run_served (app : App) (steps : List (Network × Step)) :
    (served steps).zip (app.run (served steps)) =
      (steps.zip (app.run steps)).filter fun p => p.1.2.isServed := by
  induction steps generalizing app with
  | nil => rfl
  | cons first rest ih =>
    obtain ⟨net,s⟩ := first
    rw [run, List.zip_cons_cons, List.filter_cons]
    by_cases h : s.isServed = true
    · rw [served_cons_of_pos h, run, List.zip_cons_cons, if_pos h, ih (app.after net s)]
    · -- The rest of the run meets the service as it was before this step.
      rw [served_cons_of_neg h, app.after_of_not_isServed net h, if_neg h, ih app]

/-- Requests outside the served surface have no effect. Each is refused for its reason, with nothing
sent, applied or counted, and in a run the other steps do the same without them and leave the same
service behind. -/
theorem unserved_missed (app : App) :
    (∀ net (r : Incoming), ¬ r.Served → ∃ answer, r.Refuses answer ∧
      (app.step net (.http r)).answer = .response answer ∧
      (app.step net (.http r)).metrics = app.metrics ∧
      (app.step net (.http r)).sent = [] ∧ (app.step net (.http r)).applied = []) ∧
    ∀ steps : List (Network × Step), app.follow (served steps) = app.follow steps ∧
      (served steps).zip (app.run (served steps)) =
        (steps.zip (app.run steps)).filter fun p => p.1.2.isServed := by
  refine ⟨fun net r h => ?_,fun steps => ⟨app.follow_served steps,app.zip_run_served steps⟩⟩
  obtain ⟨answer,hrefuses,hidle⟩ := exists_step_eq_idle h
  rw [hidle]
  exact ⟨answer,hrefuses,rfl,rfl,rfl,rfl⟩

/-- A method that is not allowed, a path with a slash too many and a webhook with a byte too many. -/
def nearMisses : List Incoming :=
  [⟨"PUT","/healthz",[]⟩,⟨"POST","/webhooks/",[]⟩,⟨"POST","/webhooks",List.replicate 2097153 0⟩]

theorem unserved_missed_nearMisses :
    ∃ app, App.start fullyConfigured .logging = .ok app ∧
      (∀ r ∈ nearMisses, ¬ r.Served ∧ ∃ answer, r.Refuses answer ∧
        (app.step .down (.http r)).answer = .response answer) ∧
      app.follow (nearMisses.map fun r => (.down,.http r)) = app := by
  let app : App := ⟨fullyConfigured,⟨⟨"http://gateway","pub","prv"⟩,fullyConfigured⟩,.logging,.empty⟩
  have hunserved : ∀ r ∈ nearMisses, ¬ r.Served := by
    intro r hr
    simp only [nearMisses, List.mem_cons, List.not_mem_nil, or_false] at hr
    rcases hr with rfl | rfl | rfl
    · decide +kernel
    · decide +kernel
    · intro h
      have hfits := h.fits (by decide +kernel)
      rw [List.length_replicate] at hfits
      exact absurd hfits (by decide)
  obtain ⟨hrefused,hrun⟩ := unserved_missed app
  refine ⟨app,rfl,fun r hr => ⟨hunserved r hr,?_⟩,?_⟩
  · obtain ⟨answer,hrefuses,hanswer,-⟩ := hrefused .down r (hunserved r hr)
    exact ⟨answer,hrefuses,hanswer⟩
  · have hnone : served (nearMisses.map fun r => (.down,.http r)) = [] := by
      rw [served, List.filter_eq_nil_iff]
      rintro step hstep
      obtain ⟨r,hr,rfl⟩ := List.mem_map.mp hstep
      simpa [Step.isServed] using hunserved r hr
    have hfollow := (hrun (nearMisses.map fun r => (.down,.http r))).1
    rw [hnone] at hfollow
    exact hfollow.symm

end App
end Checkout.Service
