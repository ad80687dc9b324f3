import Bursar.Proofs.Service.Confinement
import Bursar.Proofs.Service.Wishes
import Bursar.Proofs.Spend.Conservation

/-!
# No effect without authority

A request has an effect if the store is another one after it, or if a collaborator
was called to answer it (`Service.Affects`). `Service.Asks` says, from the request
and the store alone, which capability over which enterprise a request needs that asks
for an effect. `Credentials.Entitles` says who may have it: the bearer of a known token,
on a path that is not public, with one grant for both the capability and the enterprise.

Subsidies and transactions are looked up in the store before anything is done, and a
request that names one that is not there asks for nothing. Enterprises are not looked up
anywhere: whoever has a grant that covers an enterprise may have the catalog asked on its
behalf, and no subsidy of it has to be there. So a request for metadata asks for nothing
only if it names no enterprise (`Service.NamesNothing`).

**Every effect is asked for by the request and allowed to its caller**, and it goes no
further than the enterprise (`Service.effects_authorized`). The checks in front of an
act see to it that the caller was asked (`Service.act?_authorized`); that the act does
nothing for any other enterprise is a fact about tasks alone (`World.doing_confined`).
-/

namespace Bursar

variable {σ : Type}

/-! ## Who may -/

namespace Text

theorem dropLead_eq_some_iff {lead cs rest : List Char} :
    dropLead lead cs = some rest ↔ cs = lead ++ rest := by
  induction lead generalizing cs with
  | nil => simp [dropLead]
  | cons l lead ih =>
    cases cs with
    | nil => simp [dropLead]
    | cons c cs => by_cases h : l = c <;> simp [dropLead, h, ih, eq_comm]

/-- What is left of a text after its lead, put behind the lead, is the text. -/
theorem dropLeadString_eq_some_iff {lead s rest : String} :
    dropLeadString lead s = some rest ↔ s = lead ++ rest := by
  simp only [dropLeadString, Option.map_eq_some_iff, dropLead_eq_some_iff]
  constructor
  · rintro ⟨cs, hcs, rfl⟩
    rw [← String.toList_inj, hcs, String.toList_append, String.toList_ofList]
  · rintro rfl
    exact ⟨rest.toList, by rw [String.toList_append], String.ofList_toList⟩

end Text

/-- One grant of the principal is for both the capability and the enterprise. -/
def Principal.Granted (p : Principal) (capability : Capability) (enterprise : Uuid) : Prop :=
  ∃ g ∈ p.grants, g.role.carries capability = true ∧ g.scope.covers enterprise = true

namespace Credentials

/-- The request shows a token of the principal. -/
def Shows (c : Credentials) (r : Http.Request) (p : Principal) : Prop :=
  ∃ token, r.headerText? "authorization" = some ("Bearer " ++ token) ∧
    c.tokens.get? (Text.trim token) = some p

/-- The request may have done what needs the capability over the enterprise: nobody has to
say who they are, or its caller does, on a path that is not public, and has one grant
for both. -/
def Entitles (c : Credentials) (r : Http.Request) (capability : Capability) (enterprise : Uuid) :
    Prop :=
  c.enabled = false ∨
    c.isPublic r.path = false ∧ ∃ p, c.Shows r p ∧ p.Granted capability enterprise

theorem shows_of_identify {c : Credentials} {r : Http.Request} {p : Principal}
    (h : c.identify r = .ok p) : c.Shows r p := by
  unfold identify at h
  split at h
  · cases h
  · rename_i token htoken
    split at h
    · cases h
    · rename_i q hq
      obtain rfl := Except.ok.inj h
      obtain ⟨header, hheader, hbearer⟩ := Option.bind_eq_some_iff.mp htoken
      obtain ⟨rest, hrest, rfl⟩ := Option.map_eq_some_iff.mp hbearer
      obtain rfl := Text.dropLeadString_eq_some_iff.mp hrest
      exact ⟨rest, hheader, hq⟩

/-- A caller is known by a token on a path that is not public, unless nobody has to be. -/
theorem callerOf_eq_some {c : Credentials} {r : Http.Request} {p : Principal}
    (h : c.callerOf r = .ok (some p)) :
    c.enabled = false ∨ c.isPublic r.path = false ∧ c.Shows r p := by
  unfold callerOf at h
  cases he : c.enabled with
  | false => exact .inl rfl
  | true =>
    cases hp : c.isPublic r.path with
    | true => simp [he, hp] at h
    | false =>
      cases hi : c.identify r with
      | error e => simp [he, hp, hi, Except.map] at h
      | ok q =>
        obtain rfl : q = p := by simpa [he, hp, hi, Except.map] using h
        exact .inr ⟨rfl, shows_of_identify hi⟩

end Credentials

/-! ## What a request asks for -/

namespace Service

/-- The capability that a request asks for by its method, its path, its query and its body, and
the enterprise over which. The subsidy to be spent, and the one behind the ledger of
the transaction to be reversed, are looked up in the store. Enterprises are not: a
text names one if it is an identifier. -/
inductive Asks (s : Service σ) (store : Store) (r : Http.Request) : Capability → Uuid → Prop
  | create {request x} (hr : Endpoint.of? r = some .createTransaction)
    (hbody : SpendRequest.ofBody s.settings.maxBodySize r = .ok request)
    (hx : request.subsidyUuid?.bind store.subsidy? = some x) :
    Asks s store r .createTransactions x.enterprise
  | reverse {segment raw u t x} (hr : Endpoint.of? r = some (.reverseTransaction segment))
    (hraw : Route.decodeSegment? segment = some raw) (hu : Uuid.parse? (Text.trim raw) = some u)
    (ht : store.transaction? u = some t) (hx : store.subsidyOfLedger? t.ledgerUuid = some x) :
    Asks s store r .createTransactions x.enterprise
  | metadata {segment content query enterprise}
    (hr : Endpoint.of? r = some (.showMetadata segment))
    (hcontent : Route.decodeSegment? segment = some content)
    (hquery : MetadataQuery.ofPairs (queryPairs r) = .ok query)
    (he : query.enterprise? = some enterprise) : Asks s store r .readMetadata enterprise

/-- The request names nothing that it could have an effect for. The identifier of the subsidy to be
spent, or of the transaction to be reversed, is absent, or cannot be read, or the store has nothing
under it; or the identifier of the enterprise whose metadata is wanted is absent or cannot be read.
The enterprise is not looked up: the store may have no subsidy of it. -/
inductive NamesNothing (s : Service σ) (store : Store) (r : Http.Request) : Prop
  | create (hr : Endpoint.of? r = some .createTransaction)
    (hnone : ∀ request, SpendRequest.ofBody s.settings.maxBodySize r = .ok request →
      request.subsidyUuid?.bind store.subsidy? = none)
  | reverse {segment} (hr : Endpoint.of? r = some (.reverseTransaction segment))
    (hnone : ∀ raw u t, Route.decodeSegment? segment = some raw →
      Uuid.parse? (Text.trim raw) = some u → store.transaction? u = some t →
      store.subsidyOfLedger? t.ledgerUuid = none)
  | metadata {segment} (hr : Endpoint.of? r = some (.showMetadata segment))
    (hnone : ∀ query, MetadataQuery.ofPairs (queryPairs r) = .ok query → query.enterprise? = none)

/-- Answering the request changes the store or calls a collaborator. -/
def Affects (s : Service σ) (r : Http.Request) (w : World σ) : Prop :=
  (s.respond r w).2.store ≠ w.store ∨ s.callsOf r w ≠ []

end Service

/-! ## The checks in front of an act -/

theorem identifier?_eq_ok_iff {resource raw : String} {u : Uuid} :
    identifier? resource raw = .ok u ↔ Uuid.parse? (Text.trim raw) = some u := by
  unfold identifier?
  cases Uuid.parse? (Text.trim raw) <;> simp

theorem orNotFound_eq_ok_iff {α : Type} {resource raw : String} {found : Option α} {a : α} :
    orNotFound resource raw found = .ok a ↔ found = some a := by
  cases found <;> simp [orNotFound]

/-- A requirement is met by a single grant for the capability and the enterprise. -/
theorem granted_of_require {p : Principal} {capability : Capability} {enterprise : Option Uuid}
    (h : ServiceError.require (p.authorize capability enterprise) = .ok ()) :
    ∃ e, enterprise = some e ∧ p.Granted capability e := by
  cases enterprise with
  | none => cases h
  | some e =>
    refine ⟨e, rfl, ?_⟩
    cases hg : p.grants.any fun g => Principal.gives g capability e with
    | false => simp [Principal.authorize, Decision.of, hg, ServiceError.require] at h
    | true => simpa [Principal.Granted, Principal.gives] using hg

/-- The command that is given for a subsidy is about the subsidy. -/
theorem SpendRequest.subsidy_of_command {request : SpendRequest} {subsidy : Uuid} {c : SpendCommand}
    (h : request.toCommand? subsidy = .ok c) : c.subsidy = subsidy :=
  (toCommand?_eq_ok_iff.mp h).1

namespace Service

variable {s : Service σ} {store : Store} {p : Principal} {r : Http.Request}

/-- Who names nothing asks for nothing. -/
theorem NamesNothing.not_asks (h : s.NamesNothing store r) (capability : Capability)
    (enterprise : Uuid) : ¬ s.Asks store r capability enterprise := by
  intro hasks
  cases h with
  | create hr hnone =>
    cases hasks with
    | create hr' hbody hx => cases (hnone _ hbody).symm.trans hx
    | reverse hr' | metadata hr' => cases hr.symm.trans hr'
  | reverse hr hnone =>
    cases hasks with
    | reverse hr' hraw hu ht hx =>
      obtain rfl := Endpoint.reverseTransaction.inj (Option.some.inj (hr.symm.trans hr'))
      cases (hnone _ _ _ hraw hu ht).symm.trans hx
    | create hr' | metadata hr' => cases hr.symm.trans hr'
  | metadata hr hnone =>
    cases hasks with
    | metadata hr' _ hquery he => cases (hnone _ hquery).symm.trans he
    | create hr' | reverse hr' => cases hr.symm.trans hr'

theorem spendable_eq_ok {request : SpendRequest} {x : Subsidy}
    (h : spendable store p request = .ok x) :
    request.subsidyUuid?.bind store.subsidy? = some x ∧
      p.Granted .createTransactions x.enterprise := by
  unfold spendable at h
  split at h
  · cases h
  · rename_i y hy
    obtain ⟨_, hrequire, hx⟩ := bind_eq_ok_iff.mp h
    obtain rfl := Except.ok.inj hx
    obtain ⟨_, he, hgranted⟩ := granted_of_require hrequire
    obtain rfl := Option.some.inj he
    exact ⟨hy, hgranted⟩

theorem commandOf_eq_ok {limit : Nat} {c : SpendCommand} (h : commandOf limit store p r = .ok c) :
    ∃ request x, SpendRequest.ofBody limit r = .ok request ∧
      request.subsidyUuid?.bind store.subsidy? = some x ∧
      p.Granted .createTransactions x.enterprise ∧ c.subsidy = x.uuid := by
  obtain ⟨request, hbody, h⟩ := bind_eq_ok_iff.mp h
  obtain ⟨x, hspendable, hcommand⟩ := bind_eq_ok_iff.mp h
  obtain ⟨hx, hgranted⟩ := spendable_eq_ok hspendable
  exact ⟨request, x, hbody, hx, hgranted, SpendRequest.subsidy_of_command hcommand⟩

theorem reversible_eq_ok {raw : String} {u : Uuid} (h : reversible store p raw = .ok u) :
    ∃ t x, Uuid.parse? (Text.trim raw) = some u ∧ store.transaction? u = some t ∧
      store.subsidyOfLedger? t.ledgerUuid = some x ∧
      p.Granted .createTransactions x.enterprise := by
  obtain ⟨⟨t, owner⟩, howned, h⟩ := bind_eq_ok_iff.mp h
  obtain ⟨_, hrequire, hu⟩ := bind_eq_ok_iff.mp h
  obtain ⟨v, hv, howned⟩ := bind_eq_ok_iff.mp howned
  obtain ⟨t', ht, howned⟩ := bind_eq_ok_iff.mp howned
  obtain ⟨rfl, rfl⟩ := Prod.mk.inj (Except.ok.inj howned)
  -- the identifier is read twice, to look the transaction up and to reverse it
  obtain rfl := Except.ok.inj (hu.symm.trans hv)
  obtain ⟨e, he, hgranted⟩ := granted_of_require hrequire
  obtain ⟨x, hx, rfl⟩ := Option.map_eq_some_iff.mp he
  exact ⟨t', x, identifier?_eq_ok_iff.mp hv, orNotFound_eq_ok_iff.mp ht, hx, hgranted⟩

theorem metadataEnterprise_eq_ok {query : MetadataQuery} {enterprise : Uuid}
    (h : metadataEnterprise p query = .ok enterprise) :
    query.enterprise? = some enterprise ∧ p.Granted .readMetadata enterprise := by
  obtain ⟨_, hrequire, h⟩ := bind_eq_ok_iff.mp h
  obtain ⟨e, he, hgranted⟩ := granted_of_require hrequire
  simp only [he] at h
  obtain rfl := Except.ok.inj h
  exact ⟨he, hgranted⟩

/-- **An endpoint acts for what the request asks for and the caller is granted.** -/
theorem actAt_authorized (hs : store.Grounded) {e : Endpoint} (hr : Endpoint.of? r = some e)
    {a : Act} (ha : s.actAt store p r e = some a) :
    ∃ capability enterprise, a.For store capability enterprise ∧
      s.Asks store r capability enterprise ∧ p.Granted capability enterprise := by
  cases e with
  | createTransaction =>
    obtain ⟨c, hc, rfl⟩ := Option.map_eq_some_iff.mp ha
    obtain ⟨request, x, hbody, hx, hgranted, huuid⟩ := commandOf_eq_ok (toOption_eq_some_iff.mp hc)
    obtain ⟨v, -, hv⟩ := Option.bind_eq_some_iff.mp hx
    -- the command names the subsidy by what it is stored under
    have hstored : store.subsidy? c.subsidy = some x := by
      rw [huuid, hs.subsidy_uuid_eq hv]
      exact hv
    exact ⟨_, _, .spend hstored, .create hr hbody hx, hgranted⟩
  | reverseTransaction segment =>
    obtain ⟨raw, hraw, ha⟩ := Option.bind_eq_some_iff.mp ha
    obtain ⟨u, hu, rfl⟩ := Option.map_eq_some_iff.mp ha
    obtain ⟨t, x, hread, ht, hx, hgranted⟩ := reversible_eq_ok (toOption_eq_some_iff.mp hu)
    exact ⟨_, _, .reverse ht hx, .reverse hr hraw hread ht hx, hgranted⟩
  | showMetadata segment =>
    obtain ⟨content, hcontent, ha⟩ := Option.bind_eq_some_iff.mp ha
    obtain ⟨query, hquery, ha⟩ := Option.bind_eq_some_iff.mp ha
    obtain ⟨enterprise, he, rfl⟩ := Option.map_eq_some_iff.mp ha
    obtain ⟨hnamed, hgranted⟩ := metadataEnterprise_eq_ok (toOption_eq_some_iff.mp he)
    exact ⟨_, _, .lookup, .metadata hr hcontent (toOption_eq_some_iff.mp hquery) hnamed, hgranted⟩
  | showBanner | showHealth | listTransactions | showTransaction | listSubsidies | showSubsidy =>
    cases ha

/-- **A service acts for what the request asks for and is entitled to.** -/
theorem act?_authorized (hs : store.Grounded) {a : Act} (ha : s.act? store r = some a) :
    ∃ capability enterprise, a.For store capability enterprise ∧
      s.Asks store r capability enterprise ∧ s.credentials.Entitles r capability enterprise := by
  unfold act? at ha
  split at ha
  · rename_i p hp
    obtain ⟨e, hr, ha⟩ := Option.bind_eq_some_iff.mp ha
    obtain ⟨capability, enterprise, hfor, hasks, hgranted⟩ := actAt_authorized hs hr ha
    refine ⟨capability, enterprise, hfor, hasks, ?_⟩
    rcases Credentials.callerOf_eq_some hp with hdisabled | ⟨hpath, hshows⟩
    · exact .inl hdisabled
    · exact .inr ⟨hpath, p, hshows, hgranted⟩
  · cases ha

/-- Without an act there is no effect. -/
theorem no_effect_of_no_act {w : World σ} (ha : s.act? w.store r = none) :
    (s.respond r w).2.store = w.store ∧ s.callsOf r w = [] := by
  rw [store_respond, callsOf_eq, ha]
  exact ⟨rfl, rfl⟩

/-! ## Enterprises are not looked up -/

/-- What is done for a request for metadata is a lookup, if anything, whatever the store has. -/
theorem act?_of_showMetadata {segment : String} (hr : Endpoint.of? r = some (.showMetadata segment)) :
    ∃ key : Option CacheKey, ∀ store, s.act? store r = key.map .lookup := by
  cases hcaller : s.credentials.callerOf r with
  | error e => exact ⟨none, fun store => by simp [act?, hcaller]⟩
  | ok caller =>
    cases caller with
    | none => exact ⟨none, fun store => by simp [act?, hcaller]⟩
    | some p =>
      refine ⟨(Route.decodeSegment? segment).bind fun content =>
        (MetadataQuery.ofPairs (queryPairs r)).toOption.bind fun query =>
          (metadataEnterprise p query).toOption.map fun enterprise => (content, enterprise),
        fun store => ?_⟩
      simp only [act?, hcaller, hr, Option.bind_some, actAt, Option.map_bind, Function.comp_def,
        Option.map_map]

/-- **The store has no part in what is asked of the catalog.** -/
theorem callsOf_of_showMetadata {w : World σ} {segment : String}
    (hr : Endpoint.of? r = some (.showMetadata segment)) (shared : Shared) :
    s.callsOf r (w.sharing shared) = s.callsOf r w := by
  obtain ⟨key, hact⟩ := s.act?_of_showMetadata hr
  rw [callsOf_eq, callsOf_eq, hact, hact]
  cases key with
  | none => rfl
  | some key =>
    have hlookup := World.lookup_sharing s.surroundings.watched shared key
      (World.watched { w with served := w.served + 1 } [])
    exact (congrArg (fun result => result.2.outside.2) hlookup).symm

/-- **No effect without authority.** What a request changes in the store and the calls that
are made for it are what it asks for: it names the enterprise, and for a spend or a
reversal a subsidy or a transaction that is there, and its caller has one grant for the
capability over the enterprise. Nothing is changed and nobody is called for any other
enterprise. Where callers have to say who they are, a request on a public path, or without
a known token, has no effect at all, and nowhere has one that names nothing. Whether there
is a subsidy of the enterprise whose metadata is wanted makes no difference to the calls. -/
theorem effects_authorized (s : Service σ) {w : World σ} (h : w.store.Written) (r : Http.Request) :
    (s.respond r w).2.store.Written ∧
      (s.Affects r w → ∃ capability enterprise, s.Asks w.store r capability enterprise ∧
        s.credentials.Entitles r capability enterprise ∧
        w.store.DiffersFor capability enterprise (s.respond r w).2.store ∧
        ∀ call ∈ s.callsOf r w, call.For capability enterprise) ∧
      (s.credentials.enabled = true →
        s.credentials.isPublic r.path = true ∨ (∀ p, ¬ s.credentials.Shows r p) →
        (s.respond r w).2.store = w.store ∧ s.callsOf r w = []) ∧
      (s.NamesNothing w.store r → (s.respond r w).2.store = w.store ∧ s.callsOf r w = []) ∧
      ∀ segment, Endpoint.of? r = some (.showMetadata segment) →
        ∀ shared, s.callsOf r (w.sharing shared) = s.callsOf r w := by
  refine and_assoc.mp (and_assoc.mp (and_assoc.mp ⟨?_, fun _ hr => s.callsOf_of_showMetadata hr⟩))
  cases ha : s.act? w.store r with
  | none =>
    have hsame := no_effect_of_no_act ha
    refine ⟨⟨⟨hsame.1.symm ▸ h, fun haffects => ?_⟩, fun _ _ => hsame⟩, fun _ => hsame⟩
    exact (haffects.elim (· hsame.1) (· hsame.2)).elim
  | some a =>
    -- the checks say what the act is for, and the act does nothing else
    obtain ⟨capability, enterprise, hfor, hasks, hentitles⟩ := act?_authorized (.of_written h) ha
    have hconfined := World.doing_confined (w := World.watched { w with served := w.served + 1 } [])
      s.surroundings hfor
    have hwritten := World.written_doing (w := World.watched { w with served := w.served + 1 } [])
      s.surroundings h hfor
    rw [store_respond, callsOf_eq, ha]
    refine ⟨⟨⟨hwritten, fun _ => ?_⟩, fun henabled hout => ?_⟩, fun hnothing => ?_⟩
    · refine ⟨capability, enterprise, hasks, hentitles, hconfined.store, fun call hcall => ?_⟩
      exact (hconfined.calls call hcall).resolve_left List.not_mem_nil
    · obtain ⟨hpath, p, hshows, -⟩ := hentitles.resolve_left (by simp [henabled])
      rcases hout with hpublic | hunknown
      · simp [hpath] at hpublic
      · exact absurd hshows (hunknown p)
    · exact absurd hasks (hnothing.not_asks capability enterprise)

/-! ### A refund -/

/-- A service that knows one token, of an operator of the enterprise of the seats. -/
def frontDesk : Service Unit where
  settings := .standard
  credentials :=
    { Credentials.standard with
      tokens := Table.empty.insert "key" ⟨none, [⟨.operator, .enterprise (.filled 9)⟩]⟩ }
  surroundings := System.silence

/-- The service with the seats that were provided and returned. -/
def seatsAtHand : World Unit := .start Store.seatsReturned (.empty 0) ()

/-- The request to take the deposit of the seats back. -/
def refund : Http.Request where
  method := "POST"
  path := "/api/v1/transactions/33333333-3333-3333-3333-333333333333/reverse/"
  query := none
  headers := [("authorization", "Bearer key")]
  body := ""

theorem effects_authorized_refund :
    frontDesk.Affects refund seatsAtHand ∧
      (∃ capability enterprise, frontDesk.Asks seatsAtHand.store refund capability enterprise ∧
        frontDesk.credentials.Entitles refund capability enterprise) ∧
      (frontDesk.respond { refund with headers := [] } seatsAtHand).2.store = seatsAtHand.store := by
  have hw : seatsAtHand.store.Written := .of_reachable Store.reachable_seatsReturned
  have haffects : frontDesk.Affects refund seatsAtHand := by
    refine .inl fun hsame => ?_
    have hbalance := congrArg (Store.balance · (.filled 2)) hsame
    have hact : frontDesk.act? seatsAtHand.store refund = some (.reverse (.filled 3)) := rfl
    rw [store_respond, hact] at hbalance
    revert hbalance
    decide
  obtain ⟨-, hallowed, -⟩ := effects_authorized frontDesk hw refund
  obtain ⟨capability, enterprise, hasks, hentitles, -⟩ := hallowed haffects
  obtain ⟨-, -, hsilent, -⟩ := effects_authorized frontDesk hw { refund with headers := [] }
  refine ⟨haffects, ⟨capability, enterprise, hasks, hentitles⟩, (hsilent rfl (.inr ?_)).1⟩
  rintro p ⟨token, hheader, -⟩
  rw [show Http.Request.headerText? { refund with headers := [] } "authorization" = none from rfl]
    at hheader
  cases hheader

/-! ### An enterprise without subsidies -/

/-- The service before there is any subsidy. -/
def beforeSeats : World Unit := .start .empty (.empty 0) ()

/-- The request for the metadata of content, as an enterprise sees it. -/
def preview : Http.Request where
  method := "GET"
  path := "/api/v1/content-metadata/seats/"
  query := some "enterprise_customer_uuid=99999999-9999-9999-9999-999999999999"
  headers := [("authorization", "Bearer key")]
  body := ""

/-- Where callers have to say who they are, the catalog is asked for an enterprise that there is no
subsidy of: the caller's grant covers it, and nothing else is asked about it. -/
theorem not_silent_on_unknown_enterprise :
    frontDesk.credentials.enabled = true ∧ beforeSeats.store.Written ∧
      Endpoint.of? preview = some (.showMetadata "seats") ∧
      (∃ query, MetadataQuery.ofPairs (queryPairs preview) = .ok query ∧
        query.enterprise? = some (.filled 9)) ∧
      (∀ x ∈ beforeSeats.store.subsidies.values, x.enterprise ≠ .filled 9) ∧
      frontDesk.callsOf preview beforeSeats = [.document (.filled 9) "seats"] := by
  refine ⟨rfl, .of_reachable .empty, by decide, ⟨_, rfl, by decide +kernel⟩, nofun, ?_⟩
  have hact : frontDesk.act? beforeSeats.store preview = some (.lookup ("seats", .filled 9)) := rfl
  rw [callsOf_eq, hact]
  rfl

end Service
end Bursar
