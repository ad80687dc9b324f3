import Bursar.Proofs.Service.Labels
import Bursar.Proofs.Table
import Bursar.Service.Respond

/-!
# What requests are counted under

A request is counted under the label of its path, and nothing else that a service counts has such
a label (`Service.mem_pathLabels_respond_iff`). So the labels after any number of requests are those
from before and those of the requests (`Service.mem_pathLabels_serve`). Where all of them name their
resources by identifiers in digits and hyphens, three labels are enough however many resources there
are; with `urn:uuid:` in front every resource has a label of its own
(`labels_hide_identifiers_iff`, `not_labelled_alike`).
-/

namespace Bursar

variable {σ : Type}

/-! ## Labels among the counters -/

namespace Counters

variable {c : Counters} {t : Series} {label : String}

/-- The labels of paths that something was counted under. -/
def pathLabels (c : Counters) : List String := c.keys.filterMap fun t => t.labels.lookup "path"

theorem mem_keys_count {c : Counters} {t t' : Series} : t' ∈ (c.count t).keys ↔ t' = t ∨ t' ∈ c.keys := by
  unfold count
  cases ht : c.get? t with
  | none => rw [Table.keys_insert_of_none ht, List.mem_append, List.mem_singleton, or_comm]
  | some n =>
    have hknown : t ∈ c.keys := by
      by_contra hnew
      rw [Table.get?_eq_none_iff.mpr hnew] at ht
      cases ht
    rw [Table.keys_insert_of_some ht]
    constructor
    · exact .inr
    · rintro (rfl | hmem)
      · exact hknown
      · exact hmem

theorem mem_pathLabels_count :
    label ∈ (c.count t).pathLabels ↔ t.labels.lookup "path" = some label ∨ label ∈ c.pathLabels := by
  simp only [pathLabels, List.mem_filterMap, mem_keys_count, or_and_right, exists_or, exists_eq_left]

/-- What has no label for a path adds none. -/
theorem mem_pathLabels_count_of_none (h : t.labels.lookup "path" = none) :
    label ∈ (c.count t).pathLabels ↔ label ∈ c.pathLabels := by
  rw [mem_pathLabels_count, h]
  simp

/-- **A request is counted under the label of its path.** -/
theorem mem_pathLabels_recordRequest {method path : String} {status : Nat} :
    label ∈ (c.recordRequest method path status).pathLabels ↔
      label = pathLabel path ∨ label ∈ c.pathLabels := by
  have hlookup : (requestLabels method path status).lookup "path" = some (pathLabel path) := rfl
  rw [recordRequest, mem_pathLabels_count, mem_pathLabels_count, hlookup, Option.some.injEq,
    eq_comm, ← or_assoc, or_self]

end Counters

/-! ## Everything else adds no label -/

/-- The two worlds have counted under the same labels of paths. -/
def World.SameLabels (w w' : World σ) : Prop :=
  ∀ label, label ∈ w'.counters.pathLabels ↔ label ∈ w.counters.pathLabels

namespace World

variable {w w₁ w₂ : World σ}

theorem SameLabels.refl (w : World σ) : w.SameLabels w := fun _ => Iff.rfl

theorem SameLabels.trans (h : w.SameLabels w₁) (h' : w₁.SameLabels w₂) : w.SameLabels w₂ :=
  fun label => (h' label).trans (h label)

theorem sameLabels_of_counters (h : w₁.counters = w.counters) : w.SameLabels w₁ := by
  intro label
  rw [h]

theorem sameLabels_count {t : Series} (h : t.labels.lookup "path" = none) :
    w.SameLabels (w.counting fun c => c.count t) :=
  fun _ => Counters.mem_pathLabels_count_of_none h

theorem sameLabels_recordError (w : World σ) (code : String) :
    w.SameLabels (w.counting fun c => c.recordError code) := sameLabels_count rfl

theorem sameLabels_recordSpend (w : World σ) (outcome : String) :
    w.SameLabels (w.counting fun c => c.recordSpend outcome) := sameLabels_count rfl

theorem sameLabels_recordLookup (w : World σ) (isHit : Bool) :
    w.SameLabels (w.counting fun c => c.recordLookup isHit) := sameLabels_count rfl

/-- A task whose steps count nothing counts nothing. -/
theorem counters_follow {ρ α : Type} {over? : ρ → Option α} {stuck : α}
    {advance : ρ → World σ → Option ρ × World σ} (h : ∀ run w, (advance run w).2.counters = w.counters)
    (steps : Nat) (run : ρ) (w : World σ) :
    (follow over? stuck advance steps run w).2.counters = w.counters := by
  induction steps generalizing run w with
  | zero => rfl
  | succ steps ih =>
    have hstep := h run w
    unfold follow
    cases over? run with
    | some result => rfl
    | none =>
      cases ha : advance run w with
      | mk next w' =>
        rw [ha] at hstep
        cases next with
        | none => exact hstep
        | some run' => exact (ih run' w').trans hstep

theorem counters_spend (s : Surroundings σ) (c : SpendCommand) (w : World σ) :
    (w.spend s c).2.counters = w.counters := by
  refine counters_follow (fun run w => ?_) 8 _ w
  unfold spendStep
  dsimp only
  split <;> rfl

theorem counters_reverse (s : Surroundings σ) (u : Uuid) (w : World σ) :
    (w.reverse s u).2.counters = w.counters := by
  refine counters_follow (fun run w => ?_) 5 _ w
  unfold reverseStep
  dsimp only
  split <;> rfl

theorem counters_lookup (s : Surroundings σ) (key : CacheKey) (w : World σ) :
    (w.lookup s key).2.counters = w.counters := by
  refine counters_follow (fun run w => ?_) 3 _ w
  unfold lookupStep
  dsimp only
  split <;> rfl

end World

namespace Service

open World (SameLabels)

variable {s : Service σ} {w : World σ} {r : Http.Request}

theorem sameLabels_answer (w : World σ) (result : Except ServiceError (Nat × Json)) :
    w.SameLabels (answer result w).2 := by
  cases result with
  | ok => exact .refl w
  | error e => exact w.sameLabels_recordError e.code

theorem sameLabels_withQuery {α : Type} (query : Except QueryFault α) {f : α → Http.Response × World σ}
    (h : ∀ a, w.SameLabels (f a).2) : w.SameLabels (withQuery query w f).2 := by
  cases query with
  | error => exact .refl w
  | ok a => exact h a

theorem sameLabels_withIdentifier (segment : String) {f : String → Http.Response × World σ}
    (h : ∀ id, w.SameLabels (f id).2) : w.SameLabels (withIdentifier segment w f).2 := by
  unfold withIdentifier
  cases Route.decodeSegment? segment with
  | none => exact .refl w
  | some id => exact h id

theorem sameLabels_createTransaction (s : Service σ) (p : Principal) (r : Http.Request) (w : World σ) :
    w.SameLabels (s.createTransaction p r w).2 := by
  unfold createTransaction
  cases commandOf s.settings.maxBodySize w.store p r with
  | error e => exact .refl w
  | ok c =>
    have hspend := World.sameLabels_of_counters (w.counters_spend s.surroundings c)
    have hcounted := hspend.trans
      (World.sameLabels_recordSpend _ (spendLabel (w.spend s.surroundings c).1))
    dsimp only
    split <;> exact hcounted

theorem sameLabels_reverseTransaction (s : Service σ) (p : Principal) (raw : String) (w : World σ) :
    w.SameLabels (s.reverseTransaction p raw w).2 := by
  unfold reverseTransaction
  cases reversible w.store p raw with
  | error e => exact .refl w
  | ok u =>
    have hreverse := World.sameLabels_of_counters (w.counters_reverse s.surroundings u)
    dsimp only
    split <;> rename_i hr <;> rw [hr] at hreverse <;> exact hreverse

theorem sameLabels_showMetadata (s : Service σ) (p : Principal) (content : String) (q : MetadataQuery)
    (w : World σ) : w.SameLabels (s.showMetadata p content q w).2 := by
  unfold showMetadata
  cases metadataEnterprise p q with
  | error e => exact .refl w
  | ok enterprise =>
    have hlookup := World.sameLabels_of_counters (w.counters_lookup s.surroundings (content, enterprise))
    dsimp only
    split <;> rename_i hl <;> rw [hl] at hlookup
    · exact hlookup
    · exact hlookup.trans (World.sameLabels_recordLookup _ _)

theorem sameLabels_endpointAnswer (s : Service σ) (p : Principal) (r : Http.Request) (w : World σ)
    (e : Endpoint) : w.SameLabels (s.endpointAnswer p r w e).2 := by
  cases e with
  | showBanner | showHealth => exact .refl w
  | createTransaction =>
    simp only [endpointAnswer]
    exact (s.sameLabels_createTransaction p r w).trans (sameLabels_answer _ _)
  | listTransactions | listSubsidies =>
    simp only [endpointAnswer]
    exact sameLabels_withQuery _ fun listing => sameLabels_answer _ _
  | showTransaction | showSubsidy =>
    simp only [endpointAnswer]
    exact sameLabels_withIdentifier _ fun id => sameLabels_answer _ _
  | reverseTransaction =>
    simp only [endpointAnswer]
    exact sameLabels_withIdentifier _ fun id =>
      (s.sameLabels_reverseTransaction p id w).trans (sameLabels_answer _ _)
  | showMetadata =>
    simp only [endpointAnswer]
    exact sameLabels_withIdentifier _ fun content => sameLabels_withQuery _ fun query =>
      (s.sameLabels_showMetadata p content query w).trans (sameLabels_answer _ _)

theorem sameLabels_callAnswer (s : Service σ) (caller : Option Principal) (r : Http.Request) (e : Endpoint)
    (w : World σ) : w.SameLabels (s.callAnswer caller r e w).2 := by
  cases caller with
  | some p => exact s.sameLabels_endpointAnswer p r w e
  | none =>
    cases e with
    | showBanner | showHealth => exact .refl w
    | createTransaction | listTransactions | showTransaction | reverseTransaction | showMetadata
    | listSubsidies | showSubsidy => exact w.sameLabels_recordError callerUnknown.code

theorem sameLabels_innerAnswer (s : Service σ) (r : Http.Request) (w : World σ) :
    w.SameLabels (s.innerAnswer r w).2 := by
  unfold innerAnswer
  cases s.credentials.callerOf r with
  | error e => exact w.sameLabels_recordError e.code
  | ok caller =>
    cases Route.ofPath? r.path with
    | none => exact .refl w
    | some route =>
      dsimp only
      cases route.endpoint? r.method with
      | none => exact .refl w
      | some e => exact s.sameLabels_callAnswer caller r e w

/-! ## Requests one after the other -/

/-- Whether a request is counted: one that only asks for options is not, where these are the same
for all. -/
def Counts (s : Service σ) (r : Http.Request) : Prop :=
  ¬ (s.settings.sharesOrigins = true ∧ r.method = "OPTIONS")

/-- **An answered request adds the label of its path**, if it is counted, and no other. -/
theorem mem_pathLabels_respond_iff {label : String} : label ∈ (s.respond r w).2.counters.pathLabels ↔
    (s.Counts r ∧ label = pathLabel r.path) ∨ label ∈ w.counters.pathLabels := by
  have hcounted : label ∈ (s.countedAnswer r w).2.counters.pathLabels ↔
      label = pathLabel r.path ∨ label ∈ w.counters.pathLabels :=
    Counters.mem_pathLabels_recordRequest.trans
      (or_congr_right (s.sameLabels_innerAnswer r { w with served := w.served + 1 } label))
  unfold respond Counts
  by_cases hshares : s.settings.sharesOrigins = true
  · by_cases hoptions : r.method = "OPTIONS"
    · simp [hshares, hoptions]
    · simpa [hshares, hoptions] using hcounted
  · simpa [hshares] using hcounted

/-- The world after requests were answered one after the other. -/
def serve (s : Service σ) : List Http.Request → World σ → World σ
  | [], w => w
  | r :: rs, w => s.serve rs (s.respond r w).2

/-- **After any number of requests there are the labels of those that were counted**, and those from
before. -/
theorem mem_pathLabels_serve {rs : List Http.Request} {label : String} :
    label ∈ (s.serve rs w).counters.pathLabels ↔
      (∃ r ∈ rs, s.Counts r ∧ label = pathLabel r.path) ∨ label ∈ w.counters.pathLabels := by
  induction rs generalizing w with
  | nil => simp [serve]
  | cons r rs ih =>
    rw [serve, ih, mem_pathLabels_respond_iff, List.exists_mem_cons_iff, or_assoc, or_left_comm]

end Service

/-! ## Identifiers in labels -/

/-- The request is for what the text names in a path of this kind, and the service reads the
identifier in it. -/
structure Http.Request.Names (r : Http.Request) (p : ResourcePath) (raw : String) (u : Uuid) : Prop where
  path : r.path = p.naming raw
  read : identifier? p.resource raw = .ok u

namespace Http.Request.Names

variable {r : Http.Request} {p : ResourcePath} {raw : String} {u : Uuid}

theorem spelled (h : r.Names p raw u) : Uuid.parse? (Text.trim raw) = some u :=
  identifier?_eq_ok_iff.mp h.read

/-- The service finds the resource by this very text. -/
theorem found (h : r.Names p raw u) :
    Route.ofPath? r.path = some (p.route raw) ∧ Route.decodeSegment? raw = some raw := by
  rw [h.path]
  exact ⟨p.ofPath?_naming (slash_not_mem_of_spelling h.spelled), decodeSegment?_of_spelling h.spelled⟩

theorem pathLabel_eq_iff (h : r.Names p raw u) :
    pathLabel r.path = p.naming ":id" ↔ u.SpellsInDigits raw.toList := by
  rw [h.path, p.pathLabel_eq_iff h.spelled]

/-- A label that hides some identifier hides this one. -/
theorem inDigits_of_hidden (h : r.Names p raw u) {q : ResourcePath}
    (hlabel : pathLabel r.path = q.naming ":id") :
    u.SpellsInDigits raw.toList := by
  by_contra hspelled
  rw [h.path] at hlabel
  exact p.pathLabel_ne_of_shown h.spelled hspelled q hlabel

end Http.Request.Names

/-- **Labels hide identifiers exactly as far as these are spelled in digits and hyphens.** A request
for a transaction, for the reversal of one or for a subsidy is counted under the label of its path.
The label has `:id` for the identifier exactly if the service reads this as 32 digits, bare or in
hyphenated groups, with no blanks around; then all identifiers have one label. In any other spelling
the path itself is the label, as far as it is not cut. And however many such requests a service
answers, the three labels with `:id` are enough for them exactly if all their identifiers are
spelled so. -/
theorem labels_hide_identifiers_iff (s : Service σ) (w : World σ) :
    (∀ (r : Http.Request) (p : ResourcePath) (raw : String) (u : Uuid), r.Names p raw u → s.Counts r →
      (Route.ofPath? r.path = some (p.route raw) ∧ Route.decodeSegment? raw = some raw) ∧
      (∀ label, label ∈ (s.respond r w).2.counters.pathLabels ↔
        label = pathLabel r.path ∨ label ∈ w.counters.pathLabels) ∧
      (pathLabel r.path = p.naming ":id" ↔ u.SpellsInDigits raw.toList) ∧
      (¬ u.SpellsInDigits raw.toList → pathLabel r.path = String.ofList (cutLabel r.path.toList))) ∧
    (∀ (r r' : Http.Request) (p : ResourcePath) (raw raw' : String) (u u' : Uuid), r.Names p raw u →
      r'.Names p raw' u' → u.SpellsInDigits raw.toList → u'.SpellsInDigits raw'.toList →
      pathLabel r.path = pathLabel r'.path) ∧
    ∀ rs : List Http.Request, (∀ r ∈ rs, s.Counts r ∧ ∃ p raw u, r.Names p raw u) →
      (∀ label ∈ w.counters.pathLabels, ∃ p : ResourcePath, label = p.naming ":id") →
      ((∀ label ∈ (s.serve rs w).counters.pathLabels, ∃ p : ResourcePath, label = p.naming ":id") ↔
        ∀ r ∈ rs, ∀ p raw u, r.Names p raw u → u.SpellsInDigits raw.toList) := by
  refine ⟨?_, ?_, ?_⟩
  · intro r p raw u h hcounts
    refine ⟨h.found, fun label => ?_, h.pathLabel_eq_iff, fun hspelled => ?_⟩
    · rw [Service.mem_pathLabels_respond_iff, and_iff_right hcounts]
    · rw [h.path]
      exact p.pathLabel_of_shown h.spelled hspelled
  · intro r r' p raw raw' u u' h h' hspelled hspelled'
    rw [h.pathLabel_eq_iff.mpr hspelled, h'.pathLabel_eq_iff.mpr hspelled']
  · intro rs hrs hw
    constructor
    · -- the label of each request is there
      intro hlabels r hr p raw u h
      obtain ⟨q, hq⟩ := hlabels _ (Service.mem_pathLabels_serve.mpr (.inl ⟨r, hr, (hrs r hr).1, rfl⟩))
      exact h.inDigits_of_hidden hq
    · intro hspelled label hlabel
      rcases Service.mem_pathLabels_serve.mp hlabel with ⟨r, hr, -, rfl⟩ | hbefore
      · obtain ⟨-, p, raw, u, h⟩ := hrs r hr
        exact ⟨p, h.pathLabel_eq_iff.mpr (hspelled r hr p raw u h)⟩
      · exact hw label hbefore

/-- The request to get the transaction that a text names. -/
def transactionAsked (raw : String) : Http.Request where
  method := "GET"
  path := ResourcePath.transaction.naming raw
  query := none
  headers := []
  body := ""

/-- An identifier in bare capitals. -/
def Uuid.capitals : String := "BBBBBBBBBBBBBBBBBBBBBBBBBBBBBBBB"

/-- An identifier in hyphenated groups. -/
def Uuid.groups : String := "55555555-5555-5555-5555-555555555555"

theorem labels_hide_identifiers_iff_capitals :
    (transactionAsked Uuid.capitals).Names .transaction Uuid.capitals (.filled 11) ∧
    (transactionAsked Uuid.groups).Names .transaction Uuid.groups (.filled 5) ∧
    pathLabel (transactionAsked Uuid.capitals).path = "/api/v1/transactions/:id/" ∧
    pathLabel (transactionAsked Uuid.capitals).path = pathLabel (transactionAsked Uuid.groups).path ∧
    ∀ label ∈ (Service.frontDesk.serve [transactionAsked Uuid.capitals, transactionAsked Uuid.groups]
        Service.seatsAtHand).counters.pathLabels, ∃ p : ResourcePath, label = p.naming ":id" := by
  have hcapitals : (transactionAsked Uuid.capitals).Names .transaction Uuid.capitals (.filled 11) :=
    ⟨rfl, by decide +kernel⟩
  have hgroups : (transactionAsked Uuid.groups).Names .transaction Uuid.groups (.filled 5) :=
    ⟨rfl, by decide +kernel⟩
  have hspelled := (looksLikeId_iff_spellsInDigits hcapitals.spelled).mp (by decide +kernel)
  have hspelled' := (looksLikeId_iff_spellsInDigits hgroups.spelled).mp (by decide +kernel)
  have hcounts (raw : String) : Service.frontDesk.Counts (transactionAsked raw) := by
    rintro ⟨-, hoptions⟩
    exact absurd hoptions (show "GET" ≠ "OPTIONS" by decide)
  obtain ⟨hcounted, halike, hserved⟩ := labels_hide_identifiers_iff Service.frontDesk Service.seatsAtHand
  obtain ⟨-, -, hlabel, -⟩ := hcounted _ _ _ _ hcapitals (hcounts _)
  refine ⟨hcapitals, hgroups, hlabel.mpr hspelled,
    halike _ _ _ _ _ _ _ hcapitals hgroups hspelled hspelled', ?_⟩
  refine (hserved _ ?_ nofun).mpr ?_
  · simp only [List.forall_mem_cons, List.not_mem_nil, false_implies, implies_true, and_true]
    exact ⟨⟨hcounts _, _, _, _, hcapitals⟩, hcounts _, _, _, _, hgroups⟩
  · simp only [List.forall_mem_cons, List.not_mem_nil, false_implies, implies_true, and_true]
    exact ⟨fun p raw u h => h.inDigits_of_hidden (hcapitals.pathLabel_eq_iff.mpr hspelled),
      fun p raw u h => h.inDigits_of_hidden (hgroups.pathLabel_eq_iff.mpr hspelled')⟩

/-- The name of a subsidy is read as its identifier and stands whole in the label, which is another
one for every subsidy. -/
theorem not_labelled_alike :
    (identifier? "Subsidy" (Uuid.resourceName .nil) = .ok .nil ∧
      pathLabel (ResourcePath.subsidy.naming (Uuid.resourceName .nil)) =
        "/api/v1/subsidies/urn:uuid:00000000-0000-0000-0000-000000000000/" ∧
      pathLabel (ResourcePath.subsidy.naming (Uuid.resourceName .nil)) ≠
        ResourcePath.subsidy.naming ":id") ∧
    (∀ u : Uuid, identifier? "Subsidy" u.resourceName = .ok u) ∧
    Function.Injective fun u : Uuid => pathLabel (ResourcePath.subsidy.naming u.resourceName) := by
  have hread (u : Uuid) : identifier? "Subsidy" u.resourceName = .ok u :=
    identifier?_eq_ok_iff.mpr u.parse?_resourceName
  refine ⟨⟨hread _, ?_, ?_⟩, hread, ?_⟩
  · rw [ResourcePath.pathLabel_resourceName]
    decide +kernel
  · exact ResourcePath.pathLabel_ne_of_shown _ (Uuid.parse?_resourceName _)
      (Uuid.not_spellsInDigits_resourceName _) .subsidy
  · simp only [ResourcePath.pathLabel_resourceName]
    exact ResourcePath.naming_resourceName_injective

end Bursar
