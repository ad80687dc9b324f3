import Bursar.Proofs.Service.Authority

/-!
# Answers to known callers

A request of a known caller to an existing endpoint is answered by the endpoint
(`Service.respond_of_caller`). On its way out the answer gets headers, and to a request
that only asks for the headers it loses its body; its status and, if it is asked for,
its body are the endpoint's (`Service.says_of_answer`).
-/

namespace Bursar

/-- The answer has the status, and its body is the value in JSON. -/
def Http.Response.Says (a : Http.Response) (status : Nat) (value : Json) : Prop :=
  a.status = status ∧ a.body = value.compact

/-! ## Decisions -/

theorem Decision.isAllowed_of (isGiven : Bool) (c : Capability) :
    (Decision.of isGiven c).isAllowed = isGiven := by
  cases isGiven <;> rfl

theorem ok_bind {ε α β : Type} (a : α) (f : α → Except ε β) : (.ok a >>= f) = f a := rfl

/-- What follows a check is done if the check is passed. -/
theorem ServiceError.require_then {α : Type} (isGiven : Bool) (c : Capability)
    (rest : Except ServiceError α) :
    (require (.of isGiven c) >>= fun _ => rest) =
      if isGiven then rest else .error (missingCapability c) := by
  cases isGiven <;> rfl

/-! ## From the endpoint to the caller -/

namespace Service

variable {σ : Type} {s : Service σ} {p : Principal} {r : Http.Request} {e : Endpoint} {w : World σ}

/-- The request of the principal for what the endpoint does. -/
structure Serves (s : Service σ) (p : Principal) (r : Http.Request) (e : Endpoint) : Prop where
  caller : s.credentials.callerOf r = .ok (some p)
  endpoint : Endpoint.of? r = some e

/-- The answer with the header for pages of any origin, if they may use the service. -/
def shared (s : Service σ) (a : Http.Response) : Http.Response :=
  if s.settings.sharesOrigins then a.withHeader "access-control-allow-origin" "*" else a

/-- The answer of an endpoint as it goes out. -/
def dressed (s : Service σ) (r : Http.Request) (a : Http.Response) : Http.Response :=
  fitToRoute r (s.shared a)

/-- **A known caller is answered by the endpoint.** -/
theorem respond_of_caller (h : s.Serves p r e) (w : World σ) :
    (s.respond r w).1 =
        s.dressed r (s.endpointAnswer p r { w with served := w.served + 1 } e).1 ∧
      (s.respond r w).2.outside =
        (s.endpointAnswer p r { w with served := w.served + 1 } e).2.outside := by
  obtain ⟨route, hroute, he⟩ := Option.bind_eq_some_iff.mp h.endpoint
  have hinner (v : World σ) : s.innerAnswer r v = s.endpointAnswer p r v e := by
    simp only [innerAnswer, h.caller, hroute, he, callAnswer]
  have hoptions : r.method ≠ "OPTIONS" := by
    intro hmethod
    cases (endpoint_of_options hmethod).symm.trans h.endpoint
  unfold respond dressed shared
  cases s.settings.sharesOrigins with
  | false => simp [countedAnswer, hinner, World.counting]
  | true => simp [hoptions, countedAnswer, hinner, World.counting]

/-- At an endpoint that is asked for more than the headers nothing is taken from the answer. -/
theorem fitToRoute_eq (hr : Endpoint.of? r = some e) (hmethod : r.method ≠ "HEAD")
    (a : Http.Response) : fitToRoute r a = a := by
  obtain ⟨route, hroute, he⟩ := Option.bind_eq_some_iff.mp hr
  simp only [fitToRoute, hroute, he, hmethod, if_false]

/-- What goes out has the status of the answer, and its body unless only the headers are asked
for. -/
theorem dressed_eq (hr : Endpoint.of? r = some e) (hmethod : r.method ≠ "HEAD")
    (a : Http.Response) :
    (s.dressed r a).status = a.status ∧ (s.dressed r a).body = a.body := by
  rw [dressed, fitToRoute_eq hr hmethod, shared]
  split <;> exact ⟨rfl, rfl⟩

/-- What the endpoint answers in JSON is what the caller is told. -/
theorem says_of_answer (h : s.Serves p r e) (hmethod : r.method ≠ "HEAD") {status : Nat}
    {value : Json}
    (ha : (s.endpointAnswer p r { w with served := w.served + 1 } e).1 = .ofJson status value) :
    (s.respond r w).1.Says status value := by
  rw [(respond_of_caller h w).1, ha]
  exact dressed_eq h.endpoint hmethod _

/-- What is answered does not depend on what was counted. -/
theorem answer_fst (result : Except ServiceError (Nat × Json)) (w : World σ) :
    (answer result w).1 =
      match result with
      | .ok (status, value) => .ofJson status value
      | .error e => .ofJson e.status e.body := by
  cases result <;> rfl

theorem answer_outside (result : Except ServiceError (Nat × Json)) (w : World σ) :
    (answer result w).2.outside = w.outside :=
  (like_answer w result).outside

end Service
end Bursar
