import Bursar.Proofs.Ledger.Posting
import Bursar.Proofs.Service.Answers
import Bursar.Proofs.Service.Paging
import Bursar.Proofs.Text.Identifier

/-!
# Listing shows what fetching shows

Whether a caller sees a transaction is decided on two ways. To fetch one, the subsidy
behind its ledger is looked up, and the grants are asked about its enterprise. To list
them, the owners of all ledgers are put together from the subsidies, and what is listed
is narrowed down and cut into pages. Where the records of the store agree both ways come
to the same (`Store.discloses`): the pages of a listing, read one after the other, are
the transactions that the caller would get one by one, in the order in which they were
appended (`Service.listing_shows_what_fetching_shows`). The same holds for subsidies.
-/

namespace Bursar

/-! ## What a caller sees -/

namespace Store

/-- The stored transactions in the order in which they were appended. -/
def appended (s : Store) : List Transaction := s.transactionOrder.filterMap s.transactions.get?

/-- The subsidies in the order in which they came. -/
def provided (s : Store) : List Subsidy := s.subsidyOrder.filterMap s.subsidies.get?

/-- Some grant opens the transaction to the principal: it is asked about the enterprise of the
subsidy behind the transaction's ledger. -/
def discloses (s : Store) (p : Principal) (t : Transaction) : Bool :=
  match s.subsidyOfLedger? t.ledgerUuid with
  | some x => (p.authorizeTransactionRead x.enterprise t.learner).isAllowed
  | none => false

end Store

/-- The transaction is what the listing asks for: on the ledger of the subsidy, of the learner
and for the content, as far as they are named. -/
def TransactionListing.wants (l : TransactionListing) (s : Store) (t : Transaction) : Bool :=
  (match l.subsidy with
    | none => true
    | some named => (s.subsidyOfLedger? t.ledgerUuid).map Subsidy.uuid = some named) &&
  (match l.learner with | none => true | some n => t.learner = some n) &&
  (match l.contentKey with | none => true | some content => t.contentKey = some content)

/-- The subsidy is what the listing asks for: of the enterprise, if one is named. -/
def SubsidyListing.wants (l : SubsidyListing) (x : Subsidy) : Bool :=
  match l.enterprise with
  | none => true
  | some enterprise => x.enterprise = enterprise

namespace Store.Coherent

variable {s : Store}

/-! ## The records in order -/

theorem appended_eq (h : s.Coherent) : s.appended = s.transactions.values :=
  h.filterMap_transactionOrder

theorem provided_eq (h : s.Coherent) : s.provided = s.subsidies.values := by
  rw [provided, h.subsidyOrder_eq, Table.filterMap_keys h.nodup_subsidies]

/-- What stands in the order is what is found under its identifier. -/
theorem mem_appended_iff (h : s.Coherent) {t : Transaction} :
    t ∈ s.appended ↔ s.transaction? t.uuid = some t := by
  rw [h.appended_eq, Table.mem_values_iff h.nodup_transactions]
  constructor
  · rintro ⟨u, hu⟩
    rw [h.uuid_eq hu]
    exact hu
  · exact fun ht => ⟨_, ht⟩

theorem mem_provided_iff (h : s.Coherent) {x : Subsidy} :
    x ∈ s.provided ↔ s.subsidy? x.uuid = some x := by
  rw [h.provided_eq, Table.mem_values_iff h.nodup_subsidies]
  constructor
  · rintro ⟨u, hu⟩
    rw [h.subsidy_uuid_eq hu]
    exact hu
  · exact fun hx => ⟨_, hx⟩

theorem nodup_appended (h : s.Coherent) : (s.appended.map Transaction.uuid).Nodup := by
  rw [h.appended_eq, Table.map_values h.nodup_transactions h.uuid_eq]
  exact h.nodup_transactions

theorem nodup_provided (h : s.Coherent) : (s.provided.map Subsidy.uuid).Nodup := by
  rw [h.provided_eq, Table.map_values h.nodup_subsidies h.subsidy_uuid_eq]
  exact h.nodup_subsidies

/-- Every transaction is on the ledger of a subsidy. -/
theorem exists_owner (h : s.Coherent) {t : Transaction} (ht : t ∈ s.appended) :
    ∃ x, s.subsidyOfLedger? t.ledgerUuid = some x := by
  obtain ⟨l, hl, -⟩ := h.ledger (h.mem_appended_iff.mp ht)
  obtain ⟨u, x, hx, hledger⟩ := h.subsidy_of_ledger hl
  refine ⟨x, h.subsidyOfLedger?_eq_some_iff.mpr ⟨?_, hledger⟩⟩
  rwa [h.subsidy_uuid_eq hx]

/-! ## Listing -/

/-- The owners that are put together for a listing are those that are looked up. -/
theorem ownerOf_listSubsidies (h : s.Coherent) (ledger : Uuid) :
    ownerOf (s.listSubsidies none) ledger =
      (s.subsidyOfLedger? ledger).map Subsidy.enterprise := by
  have hall : s.listSubsidies none = s.subsidies.values := by
    rw [← h.provided_eq, listSubsidies, provided, List.filter_true]
  rw [hall]
  rfl

/-- Without a subsidy that is named, the owners of all ledgers are known. -/
theorem isVisible_listSubsidies (h : s.Coherent) (p : Principal) (t : Transaction) :
    isVisible p (s.listSubsidies none) t = s.discloses p t := by
  rw [isVisible, h.ownerOf_listSubsidies, discloses]
  cases s.subsidyOfLedger? t.ledgerUuid <;> rfl

/-- The transaction is on the subsidy's ledger exactly if the subsidy is the owner. -/
theorem owner_eq_iff (h : s.Coherent) {x : Subsidy} {t : Transaction}
    (hx : s.subsidy? x.uuid = some x) (ht : t ∈ s.appended) :
    (s.subsidyOfLedger? t.ledgerUuid).map Subsidy.uuid = some x.uuid ↔
      t.ledgerUuid = x.ledgerUuid := by
  obtain ⟨y, hy⟩ := h.exists_owner ht
  obtain ⟨hstored, hledger⟩ := h.subsidyOfLedger?_eq_some_iff.mp hy
  rw [hy, Option.map_some, Option.some.injEq]
  constructor
  · intro hu
    rw [hu] at hstored
    obtain rfl := Option.some.inj (hstored.symm.trans hx)
    exact hledger.symm
  · intro ht
    rw [h.ledger_injective hstored hx (hledger.trans ht)]

/-- With a subsidy that is named, only its own ledger has a known owner. -/
theorem isVisible_singleton (h : s.Coherent) (p : Principal) {x : Subsidy}
    (hx : s.subsidy? x.uuid = some x) (t : Transaction) :
    isVisible p [x] t = (s.discloses p t && decide (t.ledgerUuid = x.ledgerUuid)) := by
  by_cases ht : t.ledgerUuid = x.ledgerUuid
  · have howner : ownerOf [x] t.ledgerUuid = some x.enterprise := by simp [ownerOf, ht]
    have hlooked : s.subsidyOfLedger? t.ledgerUuid = some x :=
      h.subsidyOfLedger?_eq_some_iff.mpr ⟨hx, ht.symm⟩
    simp only [isVisible, discloses, howner, hlooked]
    simp only [ht, decide_true, Bool.and_true]
  · have howner : ownerOf [x] t.ledgerUuid = none := by simp [ownerOf, Ne.symm ht]
    simp only [isVisible, howner, ht, decide_false, Bool.and_false]

/-- Where the owner is asked for by name, the query asks for its ledger. -/
theorem accepts_narrowing (h : s.Coherent) {l : TransactionListing} {x : Subsidy} {t : Transaction}
    (hl : l.subsidy = some x.uuid) (hx : s.subsidy? x.uuid = some x) (ht : t ∈ s.appended) :
    (narrowing l [x]).accepts t = l.wants s t := by
  obtain ⟨subsidy, learner, contentKey, page⟩ := l
  obtain rfl : subsidy = some x.uuid := hl
  have howner : decide (t.ledgerUuid = x.ledgerUuid) =
      decide ((s.subsidyOfLedger? t.ledgerUuid).map Subsidy.uuid = some x.uuid) :=
    decide_eq_decide.mpr (h.owner_eq_iff hx ht).symm
  exact congrArg (· && _ && _) howner

/-- **What is listed is what is disclosed and wanted.** -/
theorem visibleTransactions_eq (h : s.Coherent) (p : Principal) {l : TransactionListing}
    (hl : ∀ u, l.subsidy = some u → ∃ x, s.subsidy? u = some x) :
    s.visibleTransactions p l =
      .ok (s.appended.filter fun t => s.discloses p t && l.wants s t) := by
  cases hnamed : l.subsidy with
  | none =>
    have hlisted : s.visibleTransactions p l =
        .ok ((s.listTransactions (narrowing l (s.listSubsidies none))).filter
          (isVisible p (s.listSubsidies none))) := by
      simp only [visibleTransactions, listedSubsidies, hnamed]
      rfl
    rw [hlisted, listTransactions, List.filter_filter]
    refine congrArg Except.ok (List.filter_congr fun t _ => ?_)
    rw [h.isVisible_listSubsidies]
    -- nothing is asked of the ledger
    obtain ⟨subsidy, learner, contentKey, page⟩ := l
    obtain rfl : subsidy = none := hnamed
    rfl
  | some u =>
    obtain ⟨x, hx⟩ := hl u hnamed
    obtain rfl : x.uuid = u := h.subsidy_uuid_eq hx
    have hlisted : s.visibleTransactions p l =
        .ok ((s.listTransactions (narrowing l [x])).filter (isVisible p [x])) := by
      simp only [visibleTransactions, listedSubsidies, hnamed, hx]
      rfl
    rw [hlisted, listTransactions, List.filter_filter]
    refine congrArg Except.ok (List.filter_congr fun t ht => ?_)
    have howner := h.owner_eq_iff hx ht
    rw [h.isVisible_singleton p hx, h.accepts_narrowing hnamed hx ht]
    by_cases hledger : t.ledgerUuid = x.ledgerUuid
    · rw [decide_eq_true hledger, Bool.and_true]
    · have hunwanted : l.wants s t = false := by
        simp only [TransactionListing.wants, hnamed, howner, hledger, decide_false, Bool.false_and]
      rw [hunwanted, Bool.and_false, Bool.and_false]

/-- The subsidies in order, without those of other enterprises and those that may not be read. -/
theorem readable_eq (s : Store) (p : Principal) (l : SubsidyListing) :
    (s.listSubsidies l.enterprise).filter (isReadable p) =
      s.provided.filter fun x => isReadable p x && l.wants x := by
  rw [listSubsidies, List.filter_filter]
  rfl

/-- The ledger of a subsidy has a balance. -/
theorem subsidyView_eq (h : s.Coherent) {x : Subsidy} (hx : x ∈ s.provided) :
    s.subsidyView x = .ok (.of x (s.total x.ledgerUuid)) := by
  obtain ⟨l, hl, -⟩ := h.ledger_of_subsidy (h.mem_provided_iff.mp hx)
  rw [subsidyView, h.balance_of_ledger hl]
  rfl

theorem mapM_eq_ok {α β ε : Type} {f : α → Except ε β} {g : α → β} {as : List α}
    (h : ∀ a ∈ as, f a = .ok (g a)) : as.mapM f = .ok (as.map g) := by
  induction as with
  | nil => rfl
  | cons a as ih =>
    rw [List.mapM_cons, h a List.mem_cons_self, ih fun b hb => h b (List.mem_cons_of_mem a hb)]
    rfl

/-- **The page of the subsidies that are readable and wanted.** -/
theorem subsidyPage_eq (h : s.Coherent) (p : Principal) (l : SubsidyListing) :
    s.subsidyPage p l =
      .ok (Page.of ((s.provided.filter fun x => isReadable p x && l.wants x).map fun x =>
        SubsidyView.of x (s.total x.ledgerUuid)) l.page) := by
  have hviews := @mapM_eq_ok _ _ _ s.subsidyView (fun x => .of x (s.total x.ledgerUuid))
    (Page.of (s.provided.filter fun x => isReadable p x && l.wants x) l.page).items fun x hx => by
      have hlisted := List.mem_of_mem_drop (List.mem_of_mem_take hx)
      exact h.subsidyView_eq (List.mem_filter.mp hlisted).1
  rw [subsidyPage, readable_eq, ← Page.withItems_of]
  simp only [hviews, bind, Except.bind]
  rfl

/-! ## Fetching -/

/-- **What is fetched is what is disclosed.** -/
theorem transactionFor_eq (h : s.Coherent) (p : Principal) {t : Transaction}
    (ht : t ∈ s.appended) :
    s.transactionFor p t.uuid.toString =
      if s.discloses p t then .ok (.of t)
      else .error (.missingCapability .readTransactions) := by
  obtain ⟨x, hx⟩ := h.exists_owner ht
  have howned : s.ownedTransaction t.uuid.toString = .ok (t, some x) := by
    simp only [ownedTransaction, identifier?, orNotFound, Uuid.trim_toString, Uuid.parse?_toString,
      h.mem_appended_iff.mp ht, hx, bind, Except.bind, pure, Except.pure]
  simp only [transactionFor, howned, ok_bind, discloses, hx,
    Principal.authorizeTransactionRead, ServiceError.require_then, Decision.isAllowed_of]
  rfl

theorem subsidyFor_eq (h : s.Coherent) (p : Principal) {x : Subsidy} (hx : x ∈ s.provided) :
    s.subsidyFor p x.uuid.toString =
      if isReadable p x then .ok (.of x (s.total x.ledgerUuid))
      else .error (.missingCapability .readSubsidies) := by
  simp only [subsidyFor, identifier?, orNotFound, Uuid.trim_toString, Uuid.parse?_toString,
    ok_bind, h.mem_provided_iff.mp hx, h.subsidyView_eq hx, isReadable, Principal.authorize,
    ServiceError.require_then, Decision.isAllowed_of]

end Store.Coherent

/-! ## To the caller -/

/-- Every grant of the principal over the enterprise is that of a learner. -/
def Principal.OnlyLearnsAt (p : Principal) (enterprise : Uuid) : Prop :=
  ∀ g ∈ p.grants, g.scope.covers enterprise = true → g.role = .learner

/-- A learner sees the learner's own. -/
theorem Store.learner_of_discloses {s : Store} {p : Principal} {t : Transaction} {x : Subsidy}
    (hx : s.subsidyOfLedger? t.ledgerUuid = some x) (hp : p.OnlyLearnsAt x.enterprise)
    (h : s.discloses p t = true) : ∃ n, t.learner = some n ∧ p.learner = some n := by
  rw [discloses, hx] at h
  simp only [Principal.authorizeTransactionRead, Decision.isAllowed_of, List.any_eq_true] at h
  obtain ⟨g, hg, hopens⟩ := h
  rw [Principal.opens, Bool.and_eq_true] at hopens
  obtain ⟨hgives, hown⟩ := hopens
  have hrole := hp g hg (Bool.and_eq_true_iff.mp hgives).2
  rw [hrole, Bool.and_eq_true, decide_eq_true_iff] at hown
  obtain ⟨hsome, heq⟩ := hown
  obtain ⟨n, hn⟩ := Option.isSome_iff_exists.mp hsome
  exact ⟨n, heq ▸ hn, hn⟩

namespace Service

variable {σ : Type}

/-- The request of the principal to get what is under the path. -/
structure Gets (s : Service σ) (p : Principal) (r : Http.Request) (target : String) : Prop where
  caller : s.credentials.callerOf r = .ok (some p)
  method : r.method = "GET"
  path : r.path = target

/-- **To get what is under the path is to get the view**, if it is shown, and to be refused
otherwise. -/
def Fetched (s : Service σ) (p : Principal) (store : Store) (target : String) (shown : Bool)
    (view : Json) : Prop :=
  ∀ r (w : World σ), w.store = store → s.Gets p r target →
    ((s.respond r w).1.status = 200 ↔ shown = true) ∧
      (shown = true → (s.respond r w).1.Says 200 view)

/-- **The listing under the path is the sequence.** A request may ask for a page of it. Whatever
the size of the pages that are asked for, they are the sequence if they are read one after
the other, as long as they say that there is more; each of them tells how long the sequence
is, and whether it goes on after the page. To read a page leaves the store as it is. -/
def Listed {α : Type} (s : Service σ) (p : Principal) (store : Store) (target : String)
    (asks : Http.Request → PageQuery → Prop) (item : α → Json) (all : List α) : Prop :=
  ∀ size, ∃ page : Nat → Page α,
    (∀ r (w : World σ) k, w.store = store → s.Gets p r target → asks r ⟨k, size⟩ →
      (s.respond r w).1.Says 200 ((page k).toJson item) ∧ (s.respond r w).2.store = store) ∧
    (∀ items, Page.Read page 0 items ↔ items = all) ∧
    ∀ k, (page k).total = all.length ∧
      ((page k).hasMore = true ↔ (k + 1) * (page k).pageSize < all.length)

variable {s : Service σ} {p : Principal} {r : Http.Request} {target : String}

theorem Gets.serves (h : s.Gets p r target) {route : Route} {e : Endpoint}
    (hroute : Route.ofPath? target = some route) (he : route.endpoint? "GET" = some e) :
    s.Serves p r e where
  caller := h.caller
  endpoint := by rw [Endpoint.of?, h.path, hroute, h.method, Option.bind_some, he]

theorem Gets.not_head (h : s.Gets p r target) : r.method ≠ "HEAD" := by
  rw [h.method]
  decide

section Endpoints

variable {e : Endpoint} {route : Route} {store : Store}

/-- What an endpoint shows, or refuses for the want of a capability, is fetched or refused. -/
theorem fetched_of_answer (hroute : Route.ofPath? target = some route)
    (he : route.endpoint? "GET" = some e) {shown : Bool} {view : Json} (capability : Capability)
    (hanswer : ∀ r (w : World σ), w.store = store → (s.endpointAnswer p r w e).1 =
      if shown then .ofJson 200 view
      else .ofJson 403 (ServiceError.missingCapability capability).body) :
    s.Fetched p store target shown view := by
  intro r w hw hr
  have ha := hanswer r { w with served := w.served + 1 } hw
  have hserves := hr.serves hroute he
  cases shown with
  | true =>
    have htold := says_of_answer hserves hr.not_head ha
    exact ⟨iff_of_true htold.1 rfl, fun _ => htold⟩
  | false =>
    have htold := says_of_answer hserves hr.not_head ha
    refine ⟨iff_of_false ?_ Bool.false_ne_true, nofun⟩
    rw [htold.1]
    decide

/-- What an endpoint without an act answers with the pages of a sequence is the listing of it. -/
theorem listed_of_answer {α : Type} (hroute : Route.ofPath? target = some route)
    (he : route.endpoint? "GET" = some e) {asks : Http.Request → PageQuery → Prop}
    {item : α → Json} {all : List α} (hlength : all.length ≤ Text.maxNat64)
    (hquiet : ∀ r, s.actAt store p r e = none)
    (hanswer : ∀ r (w : World σ) q, w.store = store → asks r q →
      (s.endpointAnswer p r w e).1 = .ofJson 200 ((Page.of all q).toJson item)) :
    s.Listed p store target asks item all := by
  intro size
  refine ⟨fun k => Page.of all ⟨k, size⟩, ?_, fun items => Page.read_of_iff hlength size,
    fun k => ⟨rfl, Page.hasMore_of hlength size k⟩⟩
  intro r w k hw hr hasks
  have hserves := hr.serves hroute he
  have hact : s.act? w.store r = none := by
    rw [act?, hserves.caller, hw]
    simp only [hserves.endpoint, Option.bind_some, hquiet]
  refine ⟨says_of_answer hserves hr.not_head (hanswer r _ _ hw hasks), ?_⟩
  exact (no_effect_of_no_act hact).1.trans hw

end Endpoints

/-! ### Transactions -/

/-- **The principal is shown the same transactions one by one and in listings**: those that are
disclosed, and in a listing those of them that it asks for. A listing that names a subsidy
that is not there is not found, and no transaction is what it asks for. -/
structure ShowsTransactions (s : Service σ) (p : Principal) (store : Store) : Prop where
  fetched : ∀ t ∈ store.appended,
    s.Fetched p store (Route.transactionPath t.uuid) (store.discloses p t)
      (TransactionView.of t).toJson
  listed : ∀ l : TransactionListing,
    (∀ u, l.subsidy = some u → ∃ x, store.subsidy? u = some x) →
    s.Listed p store "/api/v1/transactions/"
      (fun r q => TransactionListing.ofPairs (queryPairs r) = .ok { l with page := q })
      TransactionView.toJson
      ((store.appended.filter fun t => store.discloses p t && l.wants store t).map .of)
  unlisted : ∀ (l : TransactionListing) u, l.subsidy = some u → store.subsidy? u = none →
    (∀ t ∈ store.appended, l.wants store t = false) ∧
      ∀ r (w : World σ), w.store = store → s.Gets p r "/api/v1/transactions/" →
        TransactionListing.ofPairs (queryPairs r) = .ok l → (s.respond r w).1.status = 404

/-- No transaction is on the ledger of a subsidy that is not there. -/
theorem not_wanted {store : Store} (h : store.Coherent) {l : TransactionListing} {u : Uuid}
    (hl : l.subsidy = some u) (hu : store.subsidy? u = none) (t : Transaction) :
    l.wants store t = false := by
  rw [TransactionListing.wants, hl]
  cases hx : store.subsidyOfLedger? t.ledgerUuid with
  | none => rfl
  | some x =>
    have hne : x.uuid ≠ u := by
      rintro rfl
      cases hu.symm.trans (h.subsidyOfLedger?_eq_some_iff.mp hx).1
    simp [hne]

theorem ofPath?_transactions : Route.ofPath? "/api/v1/transactions/" = some .transactions := by
  decide

theorem showsTransactions {store : Store} (h : store.Coherent)
    (hcount : store.transactionOrder.length ≤ Text.maxNat64) (s : Service σ) (p : Principal) :
    s.ShowsTransactions p store where
  fetched := by
    intro t ht
    refine fetched_of_answer (Route.ofPath?_transactionPath t.uuid) rfl .readTransactions
      fun r w hw => ?_
    simp only [endpointAnswer, withIdentifier, Route.decodeSegment?_toString, answer_fst, hw,
      h.transactionFor_eq p ht]
    cases store.discloses p t <;> rfl
  listed := by
    intro l hl
    refine listed_of_answer ofPath?_transactions rfl ?_ (fun _ => rfl) fun r w q hw hq => ?_
    · rw [List.length_map]
      exact (List.length_filter_le _ _).trans ((List.length_filterMap_le _ _).trans hcount)
    · have hvisible : store.visibleTransactions p { l with page := q } =
          .ok (store.appended.filter fun t => store.discloses p t && l.wants store t) :=
        h.visibleTransactions_eq p hl
      simp only [endpointAnswer, withQuery, hq, answer_fst, Store.transactionPage, hw, hvisible,
        Except.map]
  unlisted := by
    intro l u hl hu
    refine ⟨fun t _ => not_wanted h hl hu t, fun r w hw hr hq => ?_⟩
    have hlisted : store.listedSubsidies l.subsidy = .error (.notFound "Subsidy" u.toString) := by
      simp only [Store.listedSubsidies, hl, hu, orNotFound, Except.map]
    have hpage : store.transactionPage p l = .error (.notFound "Subsidy" u.toString) := by
      simp only [Store.transactionPage, Store.visibleTransactions, hlisted]
      rfl
    have htold := @says_of_answer _ s p r _ w (hr.serves ofPath?_transactions rfl) hr.not_head 404
      (ServiceError.notFound "Subsidy" u.toString).body
    refine (htold ?_).1
    have hcounted : World.store { w with served := w.served + 1 } = store := hw
    simp only [endpointAnswer, withQuery, hq, answer_fst, hcounted, hpage, Except.map]
    rfl

/-! ### Subsidies -/

/-- **The principal is shown the same subsidies one by one and in listings**: those that are
readable, with the balance of their ledger, and in a listing those of the enterprise that it
names, if it names one. -/
structure ShowsSubsidies (s : Service σ) (p : Principal) (store : Store) : Prop where
  fetched : ∀ x ∈ store.provided,
    s.Fetched p store (Route.subsidyPath x.uuid) (Store.isReadable p x)
      (SubsidyView.of x (store.total x.ledgerUuid)).toJson
  listed : ∀ l : SubsidyListing,
    s.Listed p store "/api/v1/subsidies/"
      (fun r q => SubsidyListing.ofPairs (queryPairs r) = .ok { l with page := q })
      SubsidyView.toJson
      ((store.provided.filter fun x => Store.isReadable p x && l.wants x).map fun x =>
        .of x (store.total x.ledgerUuid))

theorem ofPath?_subsidies : Route.ofPath? "/api/v1/subsidies/" = some .subsidies := by
  decide

theorem showsSubsidies {store : Store} (h : store.Coherent)
    (hcount : store.subsidyOrder.length ≤ Text.maxNat64) (s : Service σ) (p : Principal) :
    s.ShowsSubsidies p store where
  fetched := by
    intro x hx
    refine fetched_of_answer (Route.ofPath?_subsidyPath x.uuid) rfl .readSubsidies
      fun r w hw => ?_
    simp only [endpointAnswer, withIdentifier, Route.decodeSegment?_toString, answer_fst, hw,
      h.subsidyFor_eq p hx]
    cases Store.isReadable p x <;> rfl
  listed := by
    intro l
    refine listed_of_answer ofPath?_subsidies rfl ?_ (fun _ => rfl) fun r w q hw hq => ?_
    · rw [List.length_map]
      exact (List.length_filter_le _ _).trans ((List.length_filterMap_le _ _).trans hcount)
    · have hpage := h.subsidyPage_eq p { l with page := q }
      simp only [endpointAnswer, withQuery, hq, answer_fst, hw, hpage, Except.map]
      rfl

/-! ### Both -/

/-- **Listing shows what fetching shows, and nothing else**, whatever is stored and whoever
asks. The records that are gone through are those that are stored, in the order in which they
came, and each once. And to a principal who is but a learner at an enterprise, of its
transactions only those of the same learner are disclosed: no deposit that opened a ledger,
and none at all to a principal who is no learner of the platform.

The pages are counted within 64 bits, and no memory holds more records than that. -/
theorem listing_shows_what_fetching_shows (s : Service σ) (p : Principal) {store : Store}
    (h : store.Reachable) (hcount : store.transactionOrder.length ≤ Text.maxNat64)
    (hcount' : store.subsidyOrder.length ≤ Text.maxNat64) :
    (s.ShowsTransactions p store ∧ s.ShowsSubsidies p store) ∧
      ((∀ t, t ∈ store.appended ↔ store.transaction? t.uuid = some t) ∧
        (store.appended.map Transaction.uuid).Nodup) ∧
      ((∀ x, x ∈ store.provided ↔ store.subsidy? x.uuid = some x) ∧
        (store.provided.map Subsidy.uuid).Nodup) ∧
      ∀ t x, store.subsidyOfLedger? t.ledgerUuid = some x → p.OnlyLearnsAt x.enterprise →
        (store.discloses p t = true → ∃ n, t.learner = some n ∧ p.learner = some n) ∧
        ((∃ y b stamp, (Store.opening y b stamp).Becomes t) → store.discloses p t = false) ∧
        (p.learner = none → store.discloses p t = false) := by
  have hcoherent := (Store.Sound.of_reachable h).toCoherent
  refine ⟨⟨showsTransactions hcoherent hcount s p, showsSubsidies hcoherent hcount' s p⟩,
    ⟨fun t => hcoherent.mem_appended_iff, hcoherent.nodup_appended⟩,
    ⟨fun x => hcoherent.mem_provided_iff, hcoherent.nodup_provided⟩, ?_⟩
  intro t x hx hp
  have hown := Store.learner_of_discloses (t := t) hx hp
  refine ⟨hown, fun hdeposit => ?_, fun hnobody => ?_⟩
  · -- a deposit is nobody's, and a reversal makes it nobody else's
    obtain ⟨y, b, stamp, hbecomes⟩ := hdeposit
    have hnobody : t.learner = none := by
      rcases hbecomes with rfl | ⟨-, _, rfl⟩ <;> rfl
    rw [Bool.eq_false_iff]
    intro hshown
    obtain ⟨n, hn, -⟩ := hown hshown
    cases hnobody.symm.trans hn
  · rw [Bool.eq_false_iff]
    intro hshown
    obtain ⟨n, -, hn⟩ := hown hshown
    cases hnobody.symm.trans hn

/-! ### Two transactions -/

/-- A service where nobody has to say who they are. -/
def openHouse : Service Unit :=
  { frontDesk with credentials := { Credentials.standard with enabled := false } }

/-- The request to get what is under the path, in pages of one. -/
def onePerPage (target : String) : Http.Request where
  method := "GET"
  path := target
  query := some "page_size=1"
  headers := []
  body := ""

theorem gets_onePerPage (target : String) :
    openHouse.Gets .unrestricted (onePerPage target) target := ⟨rfl, rfl, rfl⟩

theorem listing_shows_what_fetching_shows_seats :
    (openHouse.respond (onePerPage (Route.transactionPath (.filled 4))) seatsAtHand).1.status = 200 ∧
      ∃ page : Nat → Page TransactionView,
        (openHouse.respond (onePerPage "/api/v1/transactions/") seatsAtHand).1.Says 200
          ((page 0).toJson TransactionView.toJson) ∧
        (page 0).total = 2 ∧
        ∀ items, Page.Read page 0 items → items.map TransactionView.uuid = [.filled 3, .filled 4] := by
  obtain ⟨⟨htransactions, -⟩, ⟨hstored, -⟩, -, -⟩ := listing_shows_what_fetching_shows openHouse
    .unrestricted Store.reachable_seatsReturned (by decide) (by decide)
  constructor
  · -- the seat that was taken and returned
    have ht : Store.withReversal Store.seatTaken ⟨.filled 5, ⟨0, 0⟩⟩ ∈
        Store.seatsReturned.appended := (hstored _).mpr rfl
    exact (htransactions.fetched _ ht _ _ rfl (gets_onePerPage _)).1.mpr rfl
  · obtain ⟨page, hpages, hread, hcount⟩ := htransactions.listed ⟨none, none, none, .first⟩ nofun 1
    refine ⟨page, (hpages _ _ 0 rfl (gets_onePerPage _) (by decide +kernel)).1, (hcount 0).1, ?_⟩
    intro items hitems
    rw [(hread items).mp hitems]
    decide +kernel

end Service
end Bursar
