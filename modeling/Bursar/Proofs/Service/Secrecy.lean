import Bursar.Proofs.Service.Answers
import Bursar.Proofs.Spend.Twin

/-!
# Creating tells nothing about others

Two stores may agree on what a caller may spend from: the subsidies of the enterprises
over which a grant of the caller is for creating transactions, and their ledgers
(`Store.AgreesFor`). What else they hold may be anything.

To a request to create a transaction the caller then gets the same answer in both, and the
same calls are made (`Service.createTransaction_twin`). What is read before the caller's
authority is settled is the one subsidy that the request names, and one without
authority over it is refused as if it were not there (`Service.spendable_agrees`); what is
read afterwards is the subsidy's own ledger (`World.spend_twin`).
-/

namespace Bursar

/-- **The two stores agree on what the principal may spend from**: the same subsidies, with
the same ledgers. -/
structure Store.AgreesFor (p : Principal) (s s' : Store) : Prop where
  subsidies : ∀ {u x}, p.Granted .createTransactions x.enterprise →
    (s'.subsidy? u = some x ↔ s.subsidy? u = some x)
  ledgers : ∀ {u x}, p.Granted .createTransactions x.enterprise → s.subsidy? u = some x →
    s.SameLedger s' x.ledgerUuid

/-- A check is passed exactly with a grant for the capability and the enterprise. -/
theorem require_authorize_then {α : Type} (p : Principal) (capability : Capability)
    (enterprise : Uuid) [Decidable (p.Granted capability enterprise)]
    (rest : Except ServiceError α) :
    (ServiceError.require (p.authorize capability (some enterprise)) >>= fun _ => rest) =
      if p.Granted capability enterprise then rest else .error (.missingCapability capability) := by
  have hany : (p.grants.any fun g => Principal.gives g capability enterprise) =
      decide (p.Granted capability enterprise) := by
    rw [Bool.eq_iff_iff, decide_eq_true_iff]
    simp [Principal.Granted, Principal.gives]
  rw [Principal.authorize, ServiceError.require_then, hany]
  simp only [decide_eq_true_iff]

namespace Service

variable {σ : Type} {s : Service σ} {p : Principal} {w w' : World σ}

/-! ## What may be spent from -/

theorem spendable_of_granted {store : Store} {request : SpendRequest} {x : Subsidy}
    (hx : request.subsidyUuid?.bind store.subsidy? = some x)
    (hgranted : p.Granted .createTransactions x.enterprise) :
    spendable store p request = .ok x := by
  classical
  unfold spendable
  rw [hx]
  simp only [require_authorize_then, hgranted, if_true]
  rfl

/-- A request that names nothing, or nothing that is there, is refused like one that names a
subsidy of others. -/
theorem spendable_of_not_granted {store : Store} {request : SpendRequest}
    (h : ∀ x, request.subsidyUuid?.bind store.subsidy? = some x →
      ¬ p.Granted .createTransactions x.enterprise) :
    spendable store p request = .error (.missingCapability .createTransactions) := by
  classical
  unfold spendable
  split
  · rfl
  · rename_i x hx
    simp only [require_authorize_then, h x hx, if_false]

theorem spendable_agrees {store store' : Store} (h : store.AgreesFor p store')
    (request : SpendRequest) : spendable store' p request = spendable store p request := by
  have hsame {x : Subsidy} (hgranted : p.Granted .createTransactions x.enterprise) :
      request.subsidyUuid?.bind store'.subsidy? = some x ↔
        request.subsidyUuid?.bind store.subsidy? = some x := by
    cases request.subsidyUuid? with
    | none => rfl
    | some u => exact h.subsidies hgranted
  by_cases hx : ∃ x, request.subsidyUuid?.bind store.subsidy? = some x ∧
      p.Granted .createTransactions x.enterprise
  · obtain ⟨x, hx, hgranted⟩ := hx
    rw [spendable_of_granted hx hgranted, spendable_of_granted ((hsame hgranted).mpr hx) hgranted]
  · rw [spendable_of_not_granted fun x hs hgranted => hx ⟨x, hs, hgranted⟩,
      spendable_of_not_granted fun x hs hgranted => hx ⟨x, (hsame hgranted).mp hs, hgranted⟩]

theorem commandOf_agrees {store store' : Store} (h : store.AgreesFor p store') (limit : Nat)
    (r : Http.Request) : commandOf limit store' p r = commandOf limit store p r := by
  unfold commandOf
  simp only [spendable_agrees h]

/-! ## Two answers -/

/-- **A request to create comes to the same in two worlds** whose stores agree for its caller. -/
theorem createTransaction_twin (hs : w.store.Coherent) (h : w.store.AgreesFor p w'.store)
    (hfree : w.shared.Unheld) (hfree' : w'.shared.Unheld) (houtside : w'.outside = w.outside)
    (r : Http.Request) :
    (s.createTransaction p r w').1 = (s.createTransaction p r w).1 ∧
      (s.createTransaction p r w').2.outside = (s.createTransaction p r w).2.outside := by
  unfold createTransaction
  rw [commandOf_agrees h]
  cases hc : commandOf s.settings.maxBodySize w.store p r with
  | error e => exact ⟨rfl, houtside⟩
  | ok c =>
    obtain ⟨request, x, -, hx, hgranted, hcx⟩ := commandOf_eq_ok hc
    obtain ⟨u, -, hu⟩ := Option.bind_eq_some_iff.mp hx
    -- the command names the subsidy by what it is stored under
    obtain rfl : x.uuid = u := hs.subsidy_uuid_eq hu
    rw [← hcx] at hu
    obtain ⟨hresult, hout⟩ := World.spend_twin (s := s.surroundings) hs hu
      ((h.subsidies hgranted).mpr hu) (h.ledgers hgranted hu) hfree hfree' houtside
    cases hw : w.spend s.surroundings c with
    | mk result v =>
      cases hw' : w'.spend s.surroundings c with
      | mk result' v' =>
        rw [hw, hw'] at hresult hout
        obtain rfl : result' = result := hresult
        simp only [hw, hw']
        cases result' with
        | error e => exact ⟨rfl, hout⟩
        | ok outcome => exact ⟨rfl, hout⟩

theorem respond_create_twin (hs : w.store.Coherent) (h : w.store.AgreesFor p w'.store)
    (hfree : w.shared.Unheld) (hfree' : w'.shared.Unheld) (houtside : w'.outside = w.outside)
    {r : Http.Request} (hr : s.Serves p r .createTransaction) :
    (s.respond r w').1 = (s.respond r w).1 ∧
      (s.respond r w').2.outside = (s.respond r w).2.outside := by
  -- the endpoint works in worlds where the request was counted
  have hcreated := @createTransaction_twin _ s p { w with served := w.served + 1 }
    { w' with served := w'.served + 1 } hs h hfree hfree' houtside r
  obtain ⟨hresult, hout⟩ := hcreated
  rw [(respond_of_caller hr w).1, (respond_of_caller hr w').1, (respond_of_caller hr w).2,
    (respond_of_caller hr w').2]
  simp only [endpointAnswer, answer_fst, answer_outside, hresult, hout, and_self]

/-! ## Requests without authority -/

/-- The body of the request can be read, and the principal may not spend from what it names:
it names no subsidy, or one that is not there, or one of an enterprise over which no grant
of the principal is for creating transactions. -/
def Unspendable (s : Service σ) (p : Principal) (store : Store) (r : Http.Request) : Prop :=
  ∃ request, SpendRequest.ofBody s.settings.maxBodySize r = .ok request ∧
    ∀ x, request.subsidyUuid?.bind store.subsidy? = some x →
      ¬ p.Granted .createTransactions x.enterprise

theorem commandOf_of_unspendable {store : Store} {r : Http.Request}
    (h : s.Unspendable p store r) :
    commandOf s.settings.maxBodySize store p r =
      .error (.missingCapability .createTransactions) := by
  obtain ⟨request, hbody, hx⟩ := h
  unfold commandOf
  rw [hbody]
  simp only [bind, Except.bind, spendable_of_not_granted hx]

/-- To create is to post. -/
theorem method_of_create {r : Http.Request} (h : Endpoint.of? r = some .createTransaction) :
    r.method ≠ "HEAD" := by
  intro hmethod
  obtain ⟨route, -, he⟩ := Option.bind_eq_some_iff.mp h
  cases route <;> simp [Route.endpoint?, hmethod] at he

/-- The answer to every request without authority. -/
theorem respond_of_unspendable {r : Http.Request} (hr : s.Serves p r .createTransaction)
    (h : s.Unspendable p w.store r) :
    (s.respond r w).1 =
      s.shared (.ofJson 403 (ServiceError.missingCapability .createTransactions).body) := by
  have hcommand : commandOf s.settings.maxBodySize
      (World.store { w with served := w.served + 1 }) p r = _ := commandOf_of_unspendable h
  rw [(respond_of_caller hr w).1, dressed, fitToRoute_eq hr.endpoint (method_of_create hr.endpoint)]
  simp only [endpointAnswer, createTransaction, hcommand, Except.map, answer_fst]
  rfl

theorem no_effect_of_unspendable {r : Http.Request} (hr : s.Serves p r .createTransaction)
    (h : s.Unspendable p w.store r) :
    (s.respond r w).2.store = w.store ∧ s.callsOf r w = [] := by
  refine no_effect_of_no_act ?_
  simp only [act?, hr.caller, hr.endpoint, Option.bind_some, actAt, commandOf_of_unspendable h,
    Except.toOption, Option.map_none]

/-- **Creating tells nothing about others.** In two worlds whose stores agree on what a
principal may spend from, among the same collaborators, the principal gets the same answer
to a request to create a transaction, and the same calls are made; what is stored for
others, in either of them, makes no difference. Nor can two requests without authority be
told apart: whether a subsidy of others is named, or one that is not there, or none, the
answer is the same refusal, nobody is called, and nothing is stored. -/
theorem creation_tells_nothing_of_others {s : Service σ} {p : Principal} {w w' : World σ}
    (hs : Store.Reachable w.store) (h : w.store.AgreesFor p w'.store) (hfree : w.shared.Unheld)
    (hfree' : w'.shared.Unheld) (houtside : w'.outside = w.outside) :
    (∀ r, s.Serves p r .createTransaction →
      (s.respond r w').1 = (s.respond r w).1 ∧ s.callsOf r w' = s.callsOf r w) ∧
    ∀ r r', s.Serves p r .createTransaction → s.Serves p r' .createTransaction →
      s.Unspendable p w.store r → s.Unspendable p w'.store r' →
      (s.respond r' w').1 = (s.respond r w).1 ∧ (s.respond r w).1.status = 403 ∧
        (s.callsOf r w = [] ∧ s.callsOf r' w' = []) ∧
        (s.respond r w).2.store = w.store ∧ (s.respond r' w').2.store = w'.store := by
  have hcoherent := (Store.Sound.of_reachable hs).toCoherent
  constructor
  · intro r hr
    have hanswer := (respond_create_twin hcoherent h hfree hfree' houtside hr).1
    -- the calls are what the same request leaves written down among watched collaborators
    have hwatched : s.watched.Serves p r .createTransaction := ⟨hr.caller, hr.endpoint⟩
    have hcalls := @respond_create_twin _ s.watched p (w.watched []) (w'.watched []) hcoherent h
      hfree hfree' (congrArg (·, []) houtside) r hwatched
    exact ⟨hanswer, congrArg Prod.snd hcalls.2⟩
  · intro r r' hr hr' hun hun'
    have hrefusal := respond_of_unspendable hr hun
    have hrefusal' := respond_of_unspendable hr' hun'
    obtain ⟨hstore, hcalls⟩ := no_effect_of_unspendable hr hun
    obtain ⟨hstore', hcalls'⟩ := no_effect_of_unspendable hr' hun'
    refine ⟨hrefusal'.trans hrefusal.symm, ?_, ⟨hcalls, hcalls'⟩, hstore, hstore'⟩
    rw [hrefusal, shared]
    split <;> rfl

/-! ### Seats of others -/

/-- Seats that are provided for another enterprise. -/
def othersSeats : NewSubsidy := { Store.threeSeats with enterprise := .filled 8 }

/-- The identifiers that they are provided with. -/
def othersStamp : ProvisionStamp := ⟨.filled 10, .filled 11, ⟨.filled 12, ⟨0, 0⟩⟩⟩

/-- The service with the seats of both enterprises. -/
def seatsBesideOthers : World Unit :=
  .start (Store.seatsReturned.after (.create othersSeats othersStamp)) (.empty 0) ()

/-- The request to take a seat out of the subsidy that a text names. -/
def seatWanted (subsidy : String) : Http.Request where
  method := "POST"
  path := "/api/v1/transactions/"
  query := none
  headers := [("authorization", "Bearer key"), ("content-type", "application/json")]
  body := "\x7b\"subsidy_uuid\":\"" ++ subsidy ++ "\"\x7d"

/-- The operator of the enterprise of the seats. -/
def seatOperator : Principal := ⟨none, [⟨.operator, .enterprise (.filled 9)⟩]⟩

theorem serves_seatWanted (subsidy : String) :
    frontDesk.Serves seatOperator (seatWanted subsidy) .createTransaction where
  caller := by
    change frontDesk.credentials.callerOf (seatWanted "") = _
    rfl
  endpoint := by
    change Endpoint.of? (seatWanted "") = _
    decide +kernel

theorem not_granted_over_others :
    ¬ seatOperator.Granted .createTransactions (.filled 8) := by
  rintro ⟨g, hg, -, hcovers⟩
  obtain rfl := List.mem_singleton.mp hg
  revert hcovers
  decide

/-- What was provided for the other enterprise is nothing that the operator may spend from. -/
theorem agreesFor_seatsBesideOthers :
    seatsAtHand.store.AgreesFor seatOperator seatsBesideOthers.store where
  subsidies := by
    intro u x hgranted
    have hentered : seatsBesideOthers.store.subsidies = seatsAtHand.store.subsidies.insert
        (.filled 10) (Store.subsidyOf othersSeats othersStamp) := rfl
    unfold Store.subsidy?
    rw [hentered, Table.get?_insert]
    split
    · rename_i hu
      subst hu
      refine iff_of_false ?_ ?_
      · rintro ⟨⟩
        exact not_granted_over_others hgranted
      · rintro ⟨⟩
    · rfl
  ledgers := by
    intro u x _ hx
    have hmem : (u, x) ∈ [(Uuid.filled 1, Store.subsidyOf Store.threeSeats Store.seatStamp)] :=
      Table.mem_entries_of_get? hx
    obtain ⟨rfl, rfl⟩ := Prod.mk.inj (List.mem_singleton.mp hmem)
    have hledger : othersStamp.ledger ≠ Store.seatStamp.ledger := by decide
    exact (((Store.SameLedger.refl _ _).entered hledger).marked hledger _).recorded hledger rfl _

/-- A body that is read and names nothing, or a subsidy of the other enterprise. -/
theorem unspendable_seatWanted {subsidy : String} {store : Store} {named : Option Uuid}
    (hbody : (SpendRequest.ofBody 1048576 (seatWanted subsidy)).toOption.map
      SpendRequest.subsidyUuid? = some named)
    (hnamed : ∀ x, named.bind store.subsidy? = some x → x.enterprise = .filled 8) :
    frontDesk.Unspendable seatOperator store (seatWanted subsidy) := by
  obtain ⟨request, hrequest, rfl⟩ := Option.map_eq_some_iff.mp hbody
  refine ⟨request, toOption_eq_some_iff.mp hrequest, fun x hx hgranted => ?_⟩
  rw [hnamed x hx] at hgranted
  exact not_granted_over_others hgranted

theorem creation_tells_nothing_of_others_seats :
    frontDesk.Unspendable seatOperator seatsBesideOthers.store
        (seatWanted "aaaaaaaa-aaaa-aaaa-aaaa-aaaaaaaaaaaa") ∧
      (frontDesk.respond (seatWanted "aaaaaaaa-aaaa-aaaa-aaaa-aaaaaaaaaaaa") seatsBesideOthers).1 =
        (frontDesk.respond (seatWanted "no identifier") seatsAtHand).1 ∧
      (frontDesk.respond (seatWanted "11111111-1111-1111-1111-111111111111") seatsBesideOthers).1 =
        (frontDesk.respond (seatWanted "11111111-1111-1111-1111-111111111111") seatsAtHand).1 := by
  have hothers : frontDesk.Unspendable seatOperator seatsBesideOthers.store
      (seatWanted "aaaaaaaa-aaaa-aaaa-aaaa-aaaaaaaaaaaa") := by
    refine @unspendable_seatWanted _ _ (some (.filled 10)) (by decide +kernel) ?_
    rintro x ⟨⟩
    rfl
  have hmalformed : frontDesk.Unspendable seatOperator seatsAtHand.store
      (seatWanted "no identifier") :=
    @unspendable_seatWanted _ _ none (by decide +kernel) nofun
  obtain ⟨hsame, hrefused⟩ := @creation_tells_nothing_of_others _ frontDesk seatOperator seatsAtHand
    seatsBesideOthers Store.reachable_seatsReturned agreesFor_seatsBesideOthers (fun _ => rfl)
    (fun _ => rfl) rfl
  refine ⟨hothers, ?_, (hsame _ (serves_seatWanted _)).1⟩
  exact (hrefused _ _ (serves_seatWanted _) (serves_seatWanted _) hmalformed hothers).1

end Service
end Bursar
