import Bursar.Console.Run
import Bursar.Proofs.Http.Form
import Bursar.Proofs.Json.ReadBack
import Bursar.Proofs.Ledger.DerivedKey
import Bursar.Proofs.Service.Authority

/-!
# Requests reach the service unchanged

What a command line puts into a call is what the service takes out of it. A request to
spend is an object whose five fields the service reads under the same keys
(`SpendRequest.readsBack`); the command in it has the learner as it is, and the texts
without the blanks around them (`SpendRequest.toCommand?_of_texts`). A listing is a query
whose names and values the service reads one by one (`TransactionListing.ofPairs_own`).

The base URL may have a query of its own, which stands in front: the listing is the one
that was asked for exactly if that query names none of the fields of a listing
(`TransactionListing.ofPairs_append_iff`).
-/

namespace Bursar

/-! ## Fields of queries -/

theorem valuesOf_append (field : String) (before own : List (String × String)) :
    valuesOf field (before ++ own) = valuesOf field before ++ valuesOf field own := by
  simp [valuesOf]

theorem valuesOf_pairOf_self (field : String) (value : Option String) :
    valuesOf field (Console.Client.pairOf field value) = value.toList := by
  cases value <;> simp [valuesOf, Console.Client.pairOf]

theorem valuesOf_pairOf_of_ne {field name : String} (h : name ≠ field) (value : Option String) :
    valuesOf field (Console.Client.pairOf name value) = [] := by
  cases value <;> simp [valuesOf, Console.Client.pairOf, h]

section

variable {α : Type} {field : String} {read : String → Option α} {before own : List (String × String)}
  {value : Option String} {a : Option α}

/-- A field that stands once at most is read as its value. -/
theorem fieldOf_own (hown : valuesOf field own = value.toList) (hread : value.map read = a.map some) :
    fieldOf field read own = .ok a := by
  rw [fieldOf, hown]
  cases value with
  | none =>
    cases a with
    | none => rfl
    | some a => cases hread
  | some v =>
    cases a with
    | none => cases hread
    | some a =>
      have hv : read v = some a := Option.some.inj hread
      simp [hv]

/-- What stands in front without the field does not matter to it. -/
theorem fieldOf_append_of_none (h : valuesOf field before = []) :
    fieldOf field read (before ++ own) = fieldOf field read own := by
  rw [fieldOf, fieldOf, valuesOf_append, h, List.nil_append]

/-- A field that stands can only be read if it does not stand in front as well. -/
theorem valuesOf_eq_nil_of_stands {v : String} (hown : valuesOf field own = [v])
    (h : fieldOf field read (before ++ own) = .ok a) : valuesOf field before = [] := by
  rw [fieldOf, valuesOf_append, hown] at h
  rcases hbefore : valuesOf field before with _ | ⟨w, _ | ⟨x, more⟩⟩
  · rfl
  · rw [hbefore] at h
    cases h
  · rw [hbefore] at h
    cases h

/-- A field is read as its own value only if it does not stand in front. -/
theorem valuesOf_eq_nil_of_append (hown : valuesOf field own = value.toList)
    (hread : value.map read = a.map some) (h : fieldOf field read (before ++ own) = .ok a) :
    valuesOf field before = [] := by
  cases value with
  | some v => exact valuesOf_eq_nil_of_stands hown h
  | none =>
    cases a with
    | some a => cases hread
    | none =>
      rw [fieldOf, valuesOf_append, hown, Option.toList_none, List.append_nil] at h
      split at h
      · assumption
      · split at h <;> cases h
      · cases h

end

/-! ## Listings -/

namespace TransactionListing

/-- The fields of a listing. -/
def fields : List String := ["subsidy_uuid", "lms_user_id", "content_key", "page", "page_size"]

/-- A listing is read field by field. -/
theorem ofPairs_eq_ok {pairs : List (String × String)} {subsidy : Option Uuid} {learner : Option Int}
    {contentKey : Option String} {page pageSize : Nat}
    (hsubsidy : fieldOf "subsidy_uuid" Uuid.parse? pairs = .ok subsidy)
    (hlearner : fieldOf "lms_user_id" Text.signed64? pairs = .ok learner)
    (hcontent : fieldOf "content_key" some pairs = .ok contentKey)
    (hpage : fieldOf "page" Text.unsigned64? pairs = .ok (some page))
    (hsize : fieldOf "page_size" Text.unsigned64? pairs = .ok (some pageSize)) :
    ofPairs pairs = .ok { subsidy, learner, contentKey, page := { page, pageSize } } := by
  have hpages : PageQuery.ofPairs pairs = .ok { page, pageSize } := by
    simp [PageQuery.ofPairs, hpage, hsize, bind, Except.bind, pure, Except.pure]
  simp [ofPairs, hsubsidy, hlearner, hcontent, hpages, bind, Except.bind, pure, Except.pure]

/-- Of a listing that was read, each field was read. -/
theorem fields_of_ofPairs {pairs : List (String × String)} {listing : TransactionListing}
    (h : ofPairs pairs = .ok listing) :
    fieldOf "subsidy_uuid" Uuid.parse? pairs = .ok listing.subsidy ∧
      fieldOf "lms_user_id" Text.signed64? pairs = .ok listing.learner ∧
      fieldOf "content_key" some pairs = .ok listing.contentKey ∧
      (∃ page, fieldOf "page" Text.unsigned64? pairs = .ok page) ∧
      ∃ pageSize, fieldOf "page_size" Text.unsigned64? pairs = .ok pageSize := by
  obtain ⟨subsidy, hsubsidy, h⟩ := bind_eq_ok_iff.mp h
  obtain ⟨learner, hlearner, h⟩ := bind_eq_ok_iff.mp h
  obtain ⟨contentKey, hcontent, h⟩ := bind_eq_ok_iff.mp h
  obtain ⟨pages, hpages, h⟩ := bind_eq_ok_iff.mp h
  obtain ⟨page, hpage, hpages⟩ := bind_eq_ok_iff.mp hpages
  obtain ⟨pageSize, hsize, -⟩ := bind_eq_ok_iff.mp hpages
  cases h
  exact ⟨hsubsidy, hlearner, hcontent, ⟨page, hpage⟩, ⟨pageSize, hsize⟩⟩

end TransactionListing

section

open Console.Client

variable (subsidy : Option String) (learner : Option Int) (contentKey : Option String) (page : PageQuery)

/-- In a query for a listing, each field stands with its value, and only once. -/
theorem valuesOf_transactionPairs :
    valuesOf "subsidy_uuid" (transactionPairs subsidy learner contentKey page) = subsidy.toList ∧
      valuesOf "lms_user_id" (transactionPairs subsidy learner contentKey page) =
        (learner.map Text.ofInt).toList ∧
      valuesOf "content_key" (transactionPairs subsidy learner contentKey page) = contentKey.toList ∧
      valuesOf "page" (transactionPairs subsidy learner contentKey page) =
        (some (Text.ofNat page.page)).toList ∧
      valuesOf "page_size" (transactionPairs subsidy learner contentKey page) =
        (some (Text.ofNat page.pageSize)).toList := by
  have hpages (field : String) : valuesOf field (pagePairs page) =
      (if "page" = field then [Text.ofNat page.page] else []) ++
        if "page_size" = field then [Text.ofNat page.pageSize] else [] := by
    simp only [valuesOf, pagePairs, List.filter_cons, List.filter_nil, decide_eq_true_eq]
    split <;> split <;> rfl
  simp only [transactionPairs, valuesOf_append, hpages]
  refine ⟨?_, ?_, ?_, ?_, ?_⟩ <;> simp [valuesOf_pairOf_self, valuesOf_pairOf_of_ne]

variable {subsidy learner contentKey page}

variable {wanted : Option Uuid} (hsubsidy : subsidy.map Uuid.parse? = wanted.map some)
  (hlearner : ∀ n ∈ learner, Text.Fits64 n) (hpage : page.page ≤ Text.maxNat64)
  (hsize : page.pageSize ≤ Text.maxNat64)
include hsubsidy hlearner hpage hsize

/-- **A listing is read back from its query**, behind what asks for no listing, and behind nothing else. -/
theorem TransactionListing.ofPairs_append_iff (before : List (String × String)) :
    ofPairs (before ++ transactionPairs subsidy learner contentKey page) =
        .ok { subsidy := wanted, learner, contentKey, page } ↔
      ∀ field ∈ fields, valuesOf field before = [] := by
  obtain ⟨hvsubsidy, hvlearner, hvcontent, hvpage, hvsize⟩ :=
    valuesOf_transactionPairs subsidy learner contentKey page
  have hrlearner : (learner.map Text.ofInt).map Text.signed64? = learner.map some := by
    cases learner with
    | none => rfl
    | some n => exact congrArg some (Text.signed64?_ofInt (hlearner n rfl))
  have hrpage := congrArg some (Text.unsigned64?_ofNat hpage)
  have hrsize := congrArg some (Text.unsigned64?_ofNat hsize)
  constructor
  · intro h
    obtain ⟨hsubsidy', hlearner', hcontent', ⟨page', hpage'⟩, ⟨size', hsize'⟩⟩ := fields_of_ofPairs h
    simp only [fields, List.forall_mem_cons, List.not_mem_nil, false_imp_iff, implies_true, and_true]
    refine ⟨?_, ?_, ?_, ?_, ?_⟩
    · exact valuesOf_eq_nil_of_append hvsubsidy hsubsidy hsubsidy'
    · exact valuesOf_eq_nil_of_append hvlearner hrlearner hlearner'
    · exact valuesOf_eq_nil_of_append hvcontent rfl hcontent'
    · exact valuesOf_eq_nil_of_stands hvpage hpage'
    · exact valuesOf_eq_nil_of_stands hvsize hsize'
  · intro h
    simp only [fields, List.forall_mem_cons, List.not_mem_nil, false_imp_iff, implies_true, and_true] at h
    obtain ⟨hsubsidy', hlearner', hcontent', hpage', hsize'⟩ := h
    refine ofPairs_eq_ok ?_ ?_ ?_ ?_ ?_
    · exact (fieldOf_append_of_none hsubsidy').trans (fieldOf_own hvsubsidy hsubsidy)
    · exact (fieldOf_append_of_none hlearner').trans (fieldOf_own hvlearner hrlearner)
    · exact (fieldOf_append_of_none hcontent').trans (fieldOf_own hvcontent rfl)
    · exact (fieldOf_append_of_none hpage').trans (fieldOf_own hvpage hrpage)
    · exact (fieldOf_append_of_none hsize').trans (fieldOf_own hvsize hrsize)

end

/-! ## Requests to spend -/

namespace SpendRequest

open Json.Decoder Json.Record Console.Client

/-- **A request to spend is read back from its JSON.** -/
theorem readsBack (subsidy : String) {learner : Int} (hlearner : Text.Fits64 learner)
    (contentKey policy : String) (key : Option String) :
    record.decoder.ReadsBack 1 (spendRequest subsidy learner contentKey policy key).toJson
      (spendRequest subsidy learner contentKey policy key) :=
  (readsBack_optional "subsidy_uuid" (readsBack_optionString 0 (some subsidy))).map SpendRequest.mk
    |>.seq (readsBack_optional "learner_id" ((readsBack_any_int hlearner 0).some nofun))
    |>.seq (readsBack_optional "content_key" (readsBack_optionString 0 (some contentKey)))
    |>.seq (readsBack_optional "access_policy_uuid" (readsBack_optionString 0 (some policy)))
    |>.seq (readsBack_optional "idempotency_key" (readsBack_optionString 0 key))
    |>.object (by decide)

/-- **The command of a request** has the learner as it is, and the texts without the blanks around them. -/
theorem toCommand?_of_texts (subsidy : String) {learner : Int} (hlearner : Text.Fits64 learner)
    {contentKey policy : String} (key : Option String) (x : Uuid) {p : Uuid}
    (hcontent : Text.isBlankText contentKey = false) (hpolicy : Uuid.parse? (Text.trim policy) = some p) :
    (spendRequest subsidy learner contentKey policy key).toCommand? x =
      .ok
        { subsidy := x
          learner := learner
          contentKey := Text.trim contentKey
          policy := p
          key := (key.filter fun k => !Text.isBlankText k).map fun k => ⟨Text.trim k⟩ } := by
  have hkey : (unblank key).map IdempotencyKey.mk =
      (key.filter fun k => !Text.isBlankText k).map fun k => ⟨Text.trim k⟩ := by
    rw [unblank_eq, Option.map_map]
    rfl
  exact toCommand?_eq_ok_iff.mpr ⟨rfl, ⟨_, rfl, .number hlearner⟩, ⟨_, rfl, hcontent, rfl⟩,
    ⟨_, rfl, Uuid.parse?_eq_some_iff.mp hpolicy⟩, map_unblank_eq_iff.mp hkey⟩

end SpendRequest

/-! ## Calls -/

namespace Call

variable (method : String) (url : Url) (token : Option String) (body : Option Json)

@[simp] theorem body_ofUrl : (ofUrl method url token body).body = body := by
  unfold ofUrl
  split <;> rfl

@[simp] theorem query_ofUrl : (ofUrl method url token body).url.query = url.query := by
  unfold ofUrl
  split <;> rfl

/-- A body is said to be JSON, whoever else is told about in the headers. -/
theorem saysJson_of_body {call : Call} (h : call.body.isSome = true) : saysJson call.toRequest = true := by
  have hother : Text.lowerAscii "authorization" ≠ "content-type" := by decide
  have hname : Text.lowerAscii "content-type" = "content-type" := by decide
  have hheader : call.toRequest.headerText? "content-type" = some Http.Response.jsonType := by
    have htext : Http.Response.jsonType.toList.all Http.isHeaderText = true := by decide
    have hfound : call.toRequest.header? "content-type" = some Http.Response.jsonType := by
      rw [Http.Request.header?, toRequest, headers, if_pos h]
      cases call.login <;> cases call.token <;> simp [hother, hname]
    rw [Http.Request.headerText?, hfound, Option.filter, if_pos htext]
  rw [saysJson, hheader]
  decide

/-- The service reads the request to spend in the body of the call: in the whole of it, and wherever the
body is not too long. -/
structure Brings (call : Call) (r : SpendRequest) : Prop where
  decoded : Json.decode SpendRequest.record.decoder call.toRequest.body = .ok r
  read : ∀ limit, call.toRequest.body.utf8ByteSize ≤ limit →
    SpendRequest.ofBody limit call.toRequest = .ok r

theorem brings_of_readsBack {call : Call} {j : Json} {r : SpendRequest} (hbody : call.body = some j)
    (h : SpendRequest.record.decoder.ReadsBack 1 j r) : call.Brings r := by
  have hcompact : call.toRequest.body = j.compact := by simp [toRequest, hbody]
  refine ⟨?_, fun limit hlimit => ?_⟩
  · rw [hcompact]
    exact h.decode (by decide)
  · have hjson : saysJson call.toRequest = true := saysJson_of_body (by simp [hbody])
    have hread : Json.decodeLead SpendRequest.record.decoder call.toRequest.body = .ok r := by
      rw [hcompact]
      exact h.decodeLead (by decide)
    simp [SpendRequest.ofBody, hjson, Nat.not_lt.mpr hlimit, hread]

end Call

namespace Console

namespace Client

/-- The base URL asks for no listing by itself. -/
def AsksNothing (c : Client) : Prop :=
  ∀ field ∈ TransactionListing.fields, valuesOf field (Http.Form.decode (c.base.query.getD "")) = []

theorem asksNothing_of_no_query {c : Client} (h : c.base.query = none) : c.AsksNothing := by
  intro field _
  rw [h]
  rfl

variable {c : Client} {segments : List (List Char)}

/-- Below a base with a path, segments name a URL, with the query that the base has. -/
theorem url_eq_ok (h : c.base.path = .slashed segments) (texts : List String) :
    ∃ url, c.url texts = .ok url ∧ url.query = c.base.query := by
  simp [Client.url, Url.below?, h]

theorem post_eq_ok (h : c.base.path = .slashed segments) (texts : List String) (body : Option Json) :
    ∃ call, c.post texts body = .ok call ∧ call.body = body := by
  obtain ⟨url, hurl, -⟩ := url_eq_ok h texts
  exact ⟨_, by rw [post, hurl]; rfl, Call.body_ofUrl _ _ _ _⟩

theorem get_eq_ok (h : c.base.path = .slashed segments) (texts : List String)
    (pairs : List (String × String)) :
    ∃ call, c.get texts pairs = .ok call ∧
      queryPairs call.toRequest = Http.Form.decode (c.base.query.getD "") ++ pairs := by
  obtain ⟨url, hurl, hquery⟩ := url_eq_ok h texts
  refine ⟨_, by rw [get, hurl]; rfl, ?_⟩
  rw [queryPairs, Call.toRequest, Call.query_ofUrl, Url.decode_withPairs, hquery]

end Client

/-- **Requests reach the service unchanged.** A command to spend becomes a call in whose body the service
reads just its five values, and the command that it makes of them has the learner as it is, the content
and the key without the blanks around them, and the policy that is named. A command to list becomes a
call in whose query the service reads just the listing that is asked for, whatever characters are in it;
only a base URL that itself asks for a listing could come between. -/
theorem requests_reach_the_service_unchanged (c : Client) (f : Format) {segments : List (List Char)}
    (hbase : c.base.path = .slashed segments) :
    (∀ (subsidy contentKey policy : String) (key : Option String) (learner : Int), Text.Fits64 learner →
      ∃ x r, Exchange.of c f (.createTransaction subsidy learner contentKey policy key) = .ok x ∧
        x.call.Brings r ∧ r.subsidy = some subsidy ∧ r.learner = some (.int learner) ∧
        r.contentKey = some contentKey ∧ r.policy = some policy ∧ r.key = key ∧
        ∀ u p, Text.isBlankText contentKey = false → Uuid.parse? (Text.trim policy) = some p →
          r.toCommand? u = .ok
            { subsidy := u
              learner := learner
              contentKey := Text.trim contentKey
              policy := p
              key := (key.filter fun k => !Text.isBlankText k).map fun k => ⟨Text.trim k⟩ }) ∧
    (∀ (subsidy contentKey : Option String) (learner : Option Int) (page : PageQuery)
      (wanted : Option Uuid), subsidy.map Uuid.parse? = wanted.map some → (∀ n ∈ learner, Text.Fits64 n) →
      page.page ≤ Text.maxNat64 → page.pageSize ≤ Text.maxNat64 →
      ∃ x, Exchange.of c f (.listTransactions subsidy learner contentKey page) = .ok x ∧
        (TransactionListing.ofPairs (queryPairs x.call.toRequest) =
            .ok { subsidy := wanted, learner, contentKey, page } ↔ c.AsksNothing)) := by
  constructor
  · intro subsidy contentKey policy key learner hlearner
    obtain ⟨call, hcall, hbody⟩ := Client.post_eq_ok hbase ["transactions"]
      (some (Client.spendRequest subsidy learner contentKey policy key).toJson)
    refine ⟨_, Client.spendRequest subsidy learner contentKey policy key,
      by rw [Exchange.of, hcall]; rfl, ?_, rfl, rfl, rfl, rfl, rfl, fun u p hcontent hpolicy => ?_⟩
    · exact Call.brings_of_readsBack hbody
        (SpendRequest.readsBack subsidy hlearner contentKey policy key)
    · exact SpendRequest.toCommand?_of_texts subsidy hlearner key u hcontent hpolicy
  · intro subsidy contentKey learner page wanted hsubsidy hlearner hpage hsize
    obtain ⟨call, hcall, hpairs⟩ := Client.get_eq_ok hbase ["transactions"]
      (Client.transactionPairs subsidy learner contentKey page)
    refine ⟨_, by rw [Exchange.of, hcall]; rfl, ?_⟩
    rw [hpairs]
    exact TransactionListing.ofPairs_append_iff hsubsidy hlearner hpage hsize _

/-- A service next door, and a token for it. -/
def Client.nextDoor : Client where
  base :=
    { scheme := "http"
      username := ""
      password := none
      host := some "localhost"
      port := some 8000
      isGuarded := false
      path := .slashed [[]]
      query := none
      fragment := none }
  token := some "t"

/-- The signs of queries, quotes and characters of two to four octets all arrive. -/
theorem requests_reach_the_service_unchanged_signs :
    Client.nextDoor.base.path = .slashed [[]] ∧ Text.Fits64 Text.minInt64 ∧
      (∃ x r, Exchange.of .nextDoor .json
          (.createTransaction "s" Text.minInt64 " \"a+b&c=d%41\\é€😀\n"
            " 00000000-0000-0000-0000-000000000000" (some " \tk ")) = .ok x ∧
        x.call.Brings r ∧ r.contentKey = some " \"a+b&c=d%41\\é€😀\n" ∧
        r.toCommand? Uuid.nil = .ok
          { subsidy := Uuid.nil
            learner := Text.minInt64
            contentKey := "\"a+b&c=d%41\\é€😀"
            policy := Uuid.nil
            key := some ⟨"k"⟩ }) ∧
      ∃ x, Exchange.of .nextDoor .json
          (.listTransactions (some "00000000000000000000000000000000") (some Text.minInt64)
            (some " a+b&c=d%41é€😀\n") ⟨Text.maxNat64, 0⟩) = .ok x ∧
        TransactionListing.ofPairs (queryPairs x.call.toRequest) =
          .ok
            { subsidy := some Uuid.nil
              learner := some Text.minInt64
              contentKey := some " a+b&c=d%41é€😀\n"
              page := ⟨Text.maxNat64, 0⟩ } := by
  have hlearner : Text.Fits64 Text.minInt64 := ⟨by decide, by decide⟩
  have hall := requests_reach_the_service_unchanged .nextDoor .json
    (show _ = Url.Path.slashed [[]] from rfl)
  obtain ⟨x, r, hx, hbrings, -, -, hcontent, -, -, hcommand⟩ := hall.1 "s" " \"a+b&c=d%41\\é€😀\n"
    " 00000000-0000-0000-0000-000000000000" (some " \tk ") Text.minInt64 hlearner
  obtain ⟨y, hy, hlisting⟩ := hall.2 (some "00000000000000000000000000000000") (some " a+b&c=d%41é€😀\n")
    (some Text.minInt64) ⟨Text.maxNat64, 0⟩ (some Uuid.nil) (by decide)
    (by rintro n ⟨⟩; exact hlearner) (by decide) (by decide)
  exact ⟨rfl, hlearner, ⟨x, r, hx, hbrings, hcontent, hcommand Uuid.nil Uuid.nil (by decide) (by decide)⟩,
    ⟨y, hy, hlisting.mpr (Client.asksNothing_of_no_query rfl)⟩⟩

end Console
end Bursar
