import Bursar.Proofs.Service.Authority
import Bursar.Proofs.Text.Identifier
import Bursar.Service.Round

/-!
# The statuses of refusals

A refusal is answered with the status of an error, of the caller's or of the service's own
(`Http.IsError`), with one exception: metadata that the catalog did not give. There the
status of the catalog's answer is passed on whatever it is, as long as it can stand in an
answer (`ServiceError.isError_status_iff`), and an answer that is no success need not be an
error. A spend that fails for want of a price passes on errors of the caller only, and so
never fails with any other status (`Service.isError_of_create`).

So a lookup is refused with the status of an error exactly if the catalog, when it is asked
and refuses, does so with such a status or with a number that is none
(`Service.isError_of_lookup_iff`).
-/

namespace Bursar

/-- The status says that something went wrong, with the caller or with the service. -/
def Http.IsError (status : Nat) : Prop := 400 ≤ status ∧ status < 600

instance (status : Nat) : Decidable (Http.IsError status) := inferInstanceAs (Decidable (_ ∧ _))

open Http (IsError)

/-! ## Errors one by one -/

namespace ServiceError

theorem isError_ledgerStatus (e : LedgerError) : IsError (ledgerStatus e) := by
  cases e <;> simp [IsError, ledgerStatus]

theorem relayedStatus_http (status : Nat) (reason url : String) :
    relayedStatus (.http status reason url) = if Http.isStatus status then status else 502 := rfl

/-- What the service lays on the caller in the catalog's name is an error. -/
theorem isError_relayed_of_client {e : CatalogError} (h : e.isClientError = true) :
    IsError (relayedStatus e) := by
  cases e with
  | transport | decode => cases h
  | http status reason url =>
    have hrange : 400 ≤ status ∧ status < 500 := by
      simpa [CatalogError.isClientError, CatalogError.status?] using h
    rw [relayedStatus_http]
    split
    · exact ⟨hrange.1, by omega⟩
    · exact ⟨by decide, by decide⟩

/-- The error is no failed lookup. -/
def IsOwn (e : ServiceError) : Prop := ∀ m, e ≠ .metadata m

theorem isError_of_isOwn {e : ServiceError} (h : e.IsOwn) : IsError e.status := by
  cases e with
  | validation | fields | notFound | unauthorized | forbidden | internal => simp [IsError, status]
  | ledger e => exact isError_ledgerStatus e
  | metadata m => exact absurd rfl (h m)
  | spend e =>
    cases e with
    | ledger e => exact isError_ledgerStatus e
    | enrollment | aborted => simp [IsError, status]
    | pricing e =>
      by_cases hclient : e.isClientError = true
      · have hstatus : (ServiceError.spend (.pricing e)).status = relayedStatus e := if_pos hclient
        rw [hstatus]
        exact isError_relayed_of_client hclient
      · have hstatus : (ServiceError.spend (.pricing e)).status = 502 := if_neg hclient
        rw [hstatus]
        exact ⟨by decide, by decide⟩

/-- **An error is answered with the status of an error**, unless it passes on what is none. -/
theorem isError_status_iff (e : ServiceError) :
    IsError e.status ↔
      ∀ status reason url, e = .metadata (.catalog (.http status reason url)) →
        Http.isStatus status = true → IsError status := by
  constructor
  · rintro h status reason url rfl hstatus
    have hrelayed : (ServiceError.metadata (.catalog (.http status reason url))).status = status :=
      if_pos hstatus
    rwa [hrelayed] at h
  · intro h
    by_cases hown : e.IsOwn
    · exact isError_of_isOwn hown
    obtain ⟨m, hm⟩ := not_forall.mp hown
    obtain rfl := not_not.mp hm
    cases m with
    | contentNotFound | missingPrice => simp [IsError, status]
    | catalog e =>
      cases e with
      | transport | decode => simp [IsError, status, relayedStatus, CatalogError.status?]
      | http status reason url =>
        change IsError (if Http.isStatus status then status else 502)
        split
        · exact h status reason url rfl ‹_›
        · exact ⟨by decide, by decide⟩

end ServiceError

/-! ## Creating -/

namespace Service

open ServiceError

variable {σ : Type} {s : Service σ} {p : Principal} {w w' : World σ} {e : ServiceError}

/-- Steps fail where one of them does. -/
theorem bind_eq_error {ε α β : Type} {x : Except ε α} {f : α → Except ε β} {e : ε}
    (h : x >>= f = .error e) : x = .error e ∨ ∃ a, x = .ok a ∧ f a = .error e := by
  cases x with
  | error e' => exact .inl (by cases h; rfl)
  | ok a => exact .inr ⟨a, rfl, h⟩

theorem isOwn_of_ofBody {limit : Nat} {r : Http.Request} (h : SpendRequest.ofBody limit r = .error e) :
    e.IsOwn := by
  unfold SpendRequest.ofBody at h
  repeat' split at h
  all_goals cases h
  all_goals exact nofun

theorem isOwn_of_require {d : Decision} (h : require d = .error e) : e.IsOwn := by
  cases d with
  | allowed => cases h
  | denied => cases h; exact nofun

theorem isOwn_of_spendable {store : Store} {r : SpendRequest} (h : spendable store p r = .error e) :
    e.IsOwn := by
  unfold spendable at h
  split at h
  · cases h
    exact nofun
  · rcases bind_eq_error h with h | ⟨-, -, h⟩
    · exact isOwn_of_require h
    · cases h

theorem isOwn_of_toCommand? {r : SpendRequest} {u : Uuid} (h : r.toCommand? u = .error e) : e.IsOwn := by
  unfold SpendRequest.toCommand? at h
  repeat' split at h
  all_goals cases h
  all_goals exact nofun

theorem isOwn_of_commandOf {limit : Nat} {store : Store} {r : Http.Request}
    (h : commandOf limit store p r = .error e) : e.IsOwn := by
  rcases bind_eq_error h with h | ⟨request, -, h⟩
  · exact isOwn_of_ofBody h
  rcases bind_eq_error h with h | ⟨x, -, h⟩
  · exact isOwn_of_spendable h
  · exact isOwn_of_toCommand? h

/-- **A spend is refused with the status of an error**, whatever the collaborators do. -/
theorem isError_of_create {r : Http.Request} (h : s.createTransaction p r w = (.error e, w')) :
    IsError e.status := by
  refine isError_of_isOwn ?_
  unfold createTransaction at h
  split at h
  · rename_i hcommand
    cases h
    exact isOwn_of_commandOf hcommand
  · dsimp only at h
    split at h
    · cases h
      exact nofun
    · cases h

end Service

/-! ## Looking up metadata -/

section

variable {σ : Type} {s : Surroundings σ} {key : CacheKey} {w : World σ}

theorem World.lookup_of_hit {metadata : ContentMetadata} {cache : MetadataCache}
    (h : w.cache.get w.elapsed key = (some metadata, cache)) :
    (w.lookup s key).1 = .ok { metadata, isHit := true } := by
  simp [lookup, follow, LookupRun.result?, lookupStep, lookupInput, LookupRun.step, h]

theorem World.lookup_of_miss {cache : MetadataCache} (h : w.cache.get w.elapsed key = (none, cache)) :
    (w.lookup s key).1 =
      (LookupRun.ofAnswer (s.document key.2 key.1 w.outside).1).map fun metadata =>
        { metadata, isHit := false } := by
  cases hanswer : LookupRun.ofAnswer (s.document key.2 key.1 w.outside).1 with
  | error | ok =>
    simp [lookup, follow, LookupRun.result?, lookupStep, lookupInput, LookupRun.step, h, hanswer,
      Except.map]

/-- A lookup that fails has asked the catalog, and fails with what the answer means. -/
theorem World.ofAnswer_of_lookup {m : MetadataError} (h : (w.lookup s key).1 = .error m) :
    LookupRun.ofAnswer (s.document key.2 key.1 w.outside).1 = .error m := by
  cases hget : w.cache.get w.elapsed key with
  | mk found cache =>
    cases found with
    | some metadata =>
      rw [lookup_of_hit hget] at h
      cases h
    | none =>
      rw [lookup_of_miss hget] at h
      cases hanswer : LookupRun.ofAnswer (s.document key.2 key.1 w.outside).1 with
      | error m' =>
        rw [hanswer] at h
        cases h
        rfl
      | ok metadata =>
        rw [hanswer] at h
        cases h

end

namespace RemoteCatalog

variable {σ : Type} {c : RemoteCatalog} {t : Transport σ} {enterprise : Uuid} {content : String} {o : σ}

/-- What the catalog answers to the question for a document, if it is asked and answers. -/
def answer? (c : RemoteCatalog) (t : Transport σ) (enterprise : Uuid) (content : String) (o : σ) :
    Option Http.Response :=
  match c.call enterprise content with
  | .error _ => none
  | .ok call => (t.send call o).1.toOption

theorem fetch_of_no_answer (h : c.answer? t enterprise content o = none) :
    ∃ text, (c.fetch t enterprise content o).1 = .error (.transport text) := by
  cases hcall : c.call enterprise content with
  | error failure =>
    have hfetch : (c.fetch t enterprise content o).1 = .error failure := by rw [fetch, hcall]
    unfold call at hcall
    split at hcall
    · cases hcall
    · cases hcall
      exact ⟨_, hfetch⟩
  | ok call =>
    have hfetch : (c.fetch t enterprise content o).1 = read call.url (t.send call o).1 := by
      rw [fetch, hcall]
    simp only [answer?, hcall] at h
    cases hsent : (t.send call o).1 with
    | error failure => exact ⟨_, by rw [hfetch, hsent, read]⟩
    | ok answer =>
      rw [hsent] at h
      cases h

theorem fetch_of_answer {answer : Http.Response} (h : c.answer? t enterprise content o = some answer) :
    ∃ url, (c.fetch t enterprise content o).1 = read url (.ok answer) := by
  unfold answer? at h
  split at h
  · cases h
  · rename_i call hcall
    rw [toOption_eq_some_iff] at h
    exact ⟨call.url, by rw [fetch, hcall, ← h]⟩

end RemoteCatalog

theorem MetadataError.ofCatalog_http (status : Nat) (reason url : String) :
    ofCatalog (.http status reason url) =
      if status = 404 then .contentNotFound else .catalog (.http status reason url) := by
  simp [ofCatalog, CatalogError.status?]

/-- What the catalog's document does not give is an error of the service's own. -/
theorem isError_of_document {content : CatalogContent} {m : MetadataError}
    (h : LookupRun.ofAnswer (.ok content) = .error m) : IsError (ServiceError.metadata m).status := by
  simp only [LookupRun.ofAnswer, ContentMetadata.ofCatalog] at h
  split at h
  · cases h
    exact (ServiceError.isError_status_iff _).mpr nofun
  · cases h

/-- The failure of a lookup has the status of an error, unless the catalog's answer is no success and has
the status of none. -/
theorem RemoteCatalog.isError_of_answer {url : Url} {answer : Http.Response} {m : MetadataError}
    (h : LookupRun.ofAnswer (read url (.ok answer)) = .error m) :
    IsError (ServiceError.metadata m).status ↔
      (Http.isSuccess answer.status = false → Http.isStatus answer.status = true →
        IsError answer.status) := by
  rw [read] at h
  by_cases hsuccess : Http.isSuccess answer.status = true
  · have hown : IsError (ServiceError.metadata m).status := by
      rw [if_pos hsuccess] at h
      split at h
      · exact isError_of_document h
      · cases h
        exact (ServiceError.isError_status_iff _).mpr nofun
    exact ⟨fun _ hfailed => absurd hsuccess (by simp [hfailed]), fun _ => hown⟩
  · have hfailed : Http.isSuccess answer.status = false := Bool.eq_false_iff.mpr hsuccess
    rw [if_neg hsuccess] at h
    cases h
    rw [refusal, MetadataError.ofCatalog_http, ServiceError.isError_status_iff]
    by_cases hmissing : answer.status = 404
    · rw [if_pos hmissing, hmissing]
      exact ⟨fun _ _ _ => ⟨by decide, by decide⟩, fun _ => nofun⟩
    · rw [if_neg hmissing]
      constructor
      · exact fun hrelayed _ => hrelayed _ _ _ rfl
      · rintro hanswer status reason url ⟨⟩
        exact hanswer hfailed

namespace Service

open ServiceError

variable {σ : Type} {s : Service σ} {p : Principal} {w w' : World σ} {e : ServiceError}

/-- The caller may look up the content, and the catalog answers the question for it with the status. -/
def CatalogAnswers (r : Remotes) (t : Transport σ) (p : Principal) (content : String) (q : MetadataQuery)
    (w : World σ) (status : Nat) : Prop :=
  ∃ enterprise answer, metadataEnterprise p q = .ok enterprise ∧
    r.catalog.answer? t enterprise content w.outside = some answer ∧ answer.status = status

theorem isOwn_of_metadataEnterprise {q : MetadataQuery} (h : metadataEnterprise p q = .error e) :
    e.IsOwn := by
  rcases bind_eq_error h with h | ⟨-, -, h⟩
  · exact isOwn_of_require h
  · split at h
    · cases h
    · cases h
      exact nofun

theorem isError_of_fetch_iff {r : Remotes} {t : Transport σ} {enterprise : Uuid} {content : String}
    {q : MetadataQuery} {m : MetadataError} (hallowed : metadataEnterprise p q = .ok enterprise)
    (h : LookupRun.ofAnswer (r.catalog.fetch t enterprise content w.outside).1 = .error m) :
    IsError (ServiceError.metadata m).status ↔
      ∀ status, CatalogAnswers r t p content q w status →
        Http.isSuccess status = false → Http.isStatus status = true → IsError status := by
  have hasked {status : Nat} : CatalogAnswers r t p content q w status ↔
      ∃ answer, r.catalog.answer? t enterprise content w.outside = some answer ∧
        answer.status = status := by
    simp [CatalogAnswers, hallowed]
  cases hanswer : r.catalog.answer? t enterprise content w.outside with
  | none =>
    obtain ⟨text, hfetch⟩ := RemoteCatalog.fetch_of_no_answer hanswer
    rw [hfetch] at h
    cases h
    refine ⟨fun _ status hstatus => ?_, fun _ => (isError_status_iff _).mpr nofun⟩
    obtain ⟨answer, hanswer', -⟩ := hasked.mp hstatus
    rw [hanswer] at hanswer'
    cases hanswer'
  | some answer =>
    obtain ⟨url, hfetch⟩ := RemoteCatalog.fetch_of_answer hanswer
    rw [hfetch] at h
    rw [RemoteCatalog.isError_of_answer h]
    constructor
    · intro hfailed status hstatus
      obtain ⟨answer', hanswer', rfl⟩ := hasked.mp hstatus
      rw [hanswer] at hanswer'
      cases hanswer'
      exact hfailed
    · exact fun hall => hall answer.status (hasked.mpr ⟨answer, hanswer, rfl⟩)

/-- **A lookup is refused with the status of an error** exactly if the catalog is not asked, or gives no
answer, or answers with a success, an error or a number that is no status. -/
theorem isError_of_lookup_iff {r : Remotes} {t : Transport σ} {stamp : σ → Stamp × σ}
    (hs : s.surroundings = r.surroundings t stamp) {content : String} {q : MetadataQuery}
    (h : s.showMetadata p content q w = (.error e, w')) :
    IsError e.status ↔
      ∀ status, CatalogAnswers r t p content q w status →
        Http.isSuccess status = false → Http.isStatus status = true → IsError status := by
  unfold showMetadata at h
  split at h
  · rename_i e' hforbidden
    cases h
    refine ⟨?_, fun _ => isError_of_isOwn (isOwn_of_metadataEnterprise hforbidden)⟩
    rintro - status ⟨enterprise, answer, hallowed, -⟩
    rw [hforbidden] at hallowed
    cases hallowed
  · rename_i enterprise hallowed
    split at h
    · rename_i m _ hlookup
      cases h
      have hanswer : LookupRun.ofAnswer (r.catalog.fetch t enterprise content w.outside).1 = .error m := by
        have hfailed := World.ofAnswer_of_lookup (congrArg Prod.fst hlookup)
        rwa [hs] at hfailed
      exact isError_of_fetch_iff hallowed hanswer
    · cases h

/-- **Refusals are answered with the status of an error**, those of a spend always, whatever its price and
its enrollment come to; and those of a lookup exactly if no answer of the catalog that is no success brings
another status with it. In general an error has the status of an error unless it passes one on that is
none. -/
theorem refusals_have_error_status_iff {r : Remotes} {t : Transport σ} {stamp : σ → Stamp × σ}
    (hs : s.surroundings = r.surroundings t stamp) (p : Principal) (w : World σ) :
    (∀ req e w', s.createTransaction p req w = (.error e, w') → IsError e.status) ∧
      (∀ content q e w', s.showMetadata p content q w = (.error e, w') →
        (IsError e.status ↔
          ∀ status, CatalogAnswers r t p content q w status →
            Http.isSuccess status = false → Http.isStatus status = true → IsError status)) ∧
      ∀ e : ServiceError, IsError e.status ↔
        ∀ status reason url, e = .metadata (.catalog (.http status reason url)) →
          Http.isStatus status = true → IsError status :=
  ⟨fun _ _ _ h => isError_of_create h, fun _ _ _ _ h => isError_of_lookup_iff hs h, isError_status_iff⟩

/-! ### A catalog next door -/

/-- A catalog and an enrollment service next door. -/
def nextDoor : Remotes :=
  let base : Url :=
    { scheme := "http"
      username := ""
      password := none
      host := some "localhost"
      port := none
      isGuarded := false
      path := .slashed [[]]
      query := none
      fragment := none }
  { catalog := { base, token := none }, enrollment := { base, token := none } }

/-- A service among services that answer everything with one status and nothing else. -/
def besideAnswering (status : Nat) : Service Unit :=
  { frontDesk with
    surroundings := nextDoor.surroundings (fun _ o => (.ok (.bare status), o)) fun o =>
      (⟨.filled 6, ⟨0, 0⟩⟩, o) }

/-- The question for metadata of an enterprise. -/
def askedFor (enterprise : Uuid) : MetadataQuery := ⟨some enterprise.toString⟩

theorem metadataEnterprise_askedFor (enterprise : Uuid) :
    metadataEnterprise .unrestricted (askedFor enterprise) = .ok enterprise := by
  have hnamed : (askedFor enterprise).enterprise? = some enterprise := by
    simp [MetadataQuery.enterprise?, askedFor]
  rw [metadataEnterprise, hnamed]
  rfl

/-- Asked for a seat, the catalog next door answers with its status. -/
theorem answer?_nextDoor (status : Nat) :
    nextDoor.catalog.answer? (fun _ o => (.ok (.bare status), o)) (.filled 9) "seat" seatsAtHand.outside =
      some (.bare status) := by
  have hcall : (nextDoor.catalog.call (.filled 9) "seat").toOption.map Call.refusal? = some none := by
    decide +kernel
  obtain ⟨call, hcall, hsent⟩ := Option.map_eq_some_iff.mp hcall
  rw [RemoteCatalog.answer?, toOption_eq_some_iff.mp hcall]
  simp [Transport.send, hsent, Except.toOption]

/-- What is looked up there is refused with the catalog's status. -/
theorem showMetadata_besideAnswering {status : Nat} (h : Http.isSuccess status = false) :
    ∃ url w',
      (besideAnswering status).showMetadata .unrestricted "seat" (askedFor (.filled 9)) seatsAtHand =
        (.error (.metadata (.ofCatalog (RemoteCatalog.refusal url status))), w') := by
  obtain ⟨url, hfetch⟩ := RemoteCatalog.fetch_of_answer (answer?_nextDoor status)
  have hasked : ((besideAnswering status).surroundings.document (.filled 9) "seat" seatsAtHand.outside).1 =
      .error (RemoteCatalog.refusal url status) := by
    refine Eq.trans hfetch ?_
    simp [RemoteCatalog.read, Http.Response.bare, h]
  have hmissed : seatsAtHand.cache.get seatsAtHand.elapsed ("seat", .filled 9) = (none, .empty 0) := rfl
  have hlookup := World.lookup_of_miss (s := (besideAnswering status).surroundings) hmissed
  rw [hasked] at hlookup
  obtain ⟨w', hw'⟩ : ∃ w', seatsAtHand.lookup (besideAnswering status).surroundings ("seat", .filled 9) =
      (.error (.ofCatalog (RemoteCatalog.refusal url status)), w') := ⟨_, Prod.ext hlookup rfl⟩
  refine ⟨url, w', ?_⟩
  simp only [showMetadata, metadataEnterprise_askedFor, hw']

/-- A refused spend, and a lookup that the catalog cannot answer. -/
theorem refusals_have_error_status_iff_unavailable :
    (besideAnswering 503).surroundings = nextDoor.surroundings (fun _ o => (.ok (.bare 503), o))
        (fun o => (⟨.filled 6, ⟨0, 0⟩⟩, o)) ∧
      (∃ e w', (besideAnswering 503).createTransaction .unrestricted refund seatsAtHand = (.error e, w') ∧
        IsError e.status) ∧
      ∃ e w', (besideAnswering 503).showMetadata .unrestricted "seat" (askedFor (.filled 9)) seatsAtHand =
        (.error e, w') ∧ e.status = 503 ∧ IsError e.status := by
  obtain ⟨hcreate, hlookup, -⟩ := refusals_have_error_status_iff
    (show (besideAnswering 503).surroundings = nextDoor.surroundings (fun _ o => (.ok (.bare 503), o))
      (fun o => (⟨.filled 6, ⟨0, 0⟩⟩, o)) from rfl) .unrestricted seatsAtHand
  obtain ⟨url, w', hrefused⟩ := showMetadata_besideAnswering (show Http.isSuccess 503 = false from rfl)
  refine ⟨rfl, ⟨_, _, rfl, hcreate refund _ _ rfl⟩, ⟨_, w', hrefused, rfl, ?_⟩⟩
  refine (hlookup _ _ _ _ hrefused).mpr ?_
  rintro status ⟨enterprise, answer, hallowed, hanswer, rfl⟩ - -
  rw [metadataEnterprise_askedFor] at hallowed
  cases hallowed
  rw [answer?_nextDoor] at hanswer
  cases hanswer
  decide

/-- What is to be found elsewhere is refused with a status that says so, and that is no error. -/
theorem not_errors_only_moved :
    ¬ ∀ e w', (besideAnswering 302).showMetadata .unrestricted "seat" (askedFor (.filled 9)) seatsAtHand =
      (.error e, w') → IsError e.status := by
  intro hall
  obtain ⟨url, w', hrefused⟩ := showMetadata_besideAnswering (show Http.isSuccess 302 = false from rfl)
  have herror : IsError 302 := hall _ _ hrefused
  exact absurd herror (by decide)

end Service
end Bursar
