import Bursar.Proofs.Ledger.DerivedKey
import Bursar.Proofs.Service.Complaints
import Bursar.Proofs.Text.IdentifierSpelling
import Bursar.Proofs.Text.Spelling
import Bursar.Service.Request

/-!
# What a request to spend asks for

A request names its learner, its content, its policy and its key in more than one way. What it
asks for is said here apart from how it is read: `SpendRequest.Wants` relates it to a command,
`SpendRequest.Lacks` to the fields that it has to have and has not. The service gives the
command that the request wants, and refuses a request that wants none for the first thing that
is wrong with it (`SpendRequest.toCommand_decided`): missing fields all at once, then the
learner, then the policy.

Requests that only differ in how they name things (`SpendRequest.Alike`) are not told apart, so
one that is sent again in another form comes under the same key.
-/

namespace Bursar.SpendRequest

open Json (KeysSorted)

variable {r r' : SpendRequest} {subsidy : Uuid} {c : SpendCommand} {j : Json} {n : Int}
  {s t : Option String} {text : String} {l l' : Option Json}

/-! ## What a request names -/

/-- There is no text, or nothing but blanks in it. -/
def IsMissing (s : Option String) : Prop := ∀ text ∈ s, Text.isBlankText text = true

/-- The request has no value for a field that it has to have. -/
inductive Lacks (r : SpendRequest) : String → Prop
  | learner (h : r.learner = none ∨ r.learner = some .null) : r.Lacks "learner_id"
  | contentKey (h : IsMissing r.contentKey) : r.Lacks "content_key"
  | policy (h : IsMissing r.policy) : r.Lacks "access_policy_uuid"

/-- The value is an integer of 64 bits, or a text that spells one between blanks. -/
inductive NamesLearner : Json → Int → Prop
  | number {n : Int} (h : Text.Fits64 n) : NamesLearner (.number (.int n)) n
  | text {s : String} {n : Int} (hs : Text.SpellsInt (Text.trim s).toList n) (h : Text.Fits64 n) :
      NamesLearner (.string s) n

/-- The text spells the identifier between blanks. -/
def NamesUuid (s : String) (u : Uuid) : Prop := u.Spells (Text.trim s).toList

/-- The request names a learner. -/
def HasLearner (r : SpendRequest) : Prop := ∃ j ∈ r.learner, ∃ n, NamesLearner j n

/-- The request names a policy. -/
def HasPolicy (r : SpendRequest) : Prop := ∃ s ∈ r.policy, ∃ u, NamesUuid s u

/-- The command is what the request asks for, whatever subsidy it is asked of. -/
structure Wants (r : SpendRequest) (c : SpendCommand) : Prop where
  learner : ∃ j ∈ r.learner, NamesLearner j c.learner
  contentKey : ∃ s ∈ r.contentKey, Text.isBlankText s = false ∧ c.contentKey = Text.trim s
  policy : ∃ s ∈ r.policy, NamesUuid s c.policy
  key : IsMissing r.key ∧ c.key = none ∨
    ∃ s ∈ r.key, Text.isBlankText s = false ∧ c.key = some ⟨Text.trim s⟩

/-- The learners are the same value, texts that differ in the blanks around them, or names of the same
number. -/
inductive SameLearner : Option Json → Option Json → Prop
  | refl (l : Option Json) : SameLearner l l
  | text {s t : String} (h : Text.SameInside s t) : SameLearner (some (.string s)) (some (.string t))
  | number {j j' : Json} {n : Int} (h : NamesLearner j n) (h' : NamesLearner j' n) :
      SameLearner (some j) (some j')

/-- The requests only differ in how they name things. -/
structure Alike (r r' : SpendRequest) : Prop where
  subsidy : Option.Rel Text.SameInside r.subsidy r'.subsidy
  learner : SameLearner r.learner r'.learner
  contentKey : Option.Rel Text.SameInside r.contentKey r'.contentKey
  policy : Option.Rel (fun s t => Text.SameInside s t ∨ ∃ u, NamesUuid s u ∧ NamesUuid t u)
    r.policy r'.policy
  key : Option.Rel Text.SameInside r.key r'.key ∨ IsMissing r.key ∧ IsMissing r'.key

/-! ## Values one by one -/

/-- The learner as it was given, if it was. -/
def given (l : Option Json) : Option Json := l.filter fun j => !j.isNull

theorem given_eq_none_iff : given l = none ↔ l = none ∨ l = some .null := by
  rcases l with _ | j
  · simp [given]
  · cases j <;> simp [given, Option.filter, Json.isNull]

theorem given_eq_some_iff : given l = some j ↔ l = some j ∧ j ≠ .null := by
  rcases l with _ | k
  · simp [given]
  · cases k <;> simp +contextual [given, Option.filter, Json.isNull, eq_comm]

theorem NamesLearner.ne_null (h : NamesLearner j n) : j ≠ .null := by
  cases h <;> nofun

theorem learnerOf?_eq_some_iff : learnerOf? j = some n ↔ NamesLearner j n := by
  constructor
  · intro h
    unfold learnerOf? at h
    split at h
    · obtain ⟨rfl, hfits⟩ := Text.within64_eq_some_iff.mp h
      exact .number hfits
    · obtain ⟨hspelled, hfits⟩ := Text.signed64?_eq_some_iff.mp h
      exact .text hspelled hfits
    · cases h
  · intro h
    cases h with
    | number h => exact Text.within64_eq_some_iff.mpr ⟨rfl, h⟩
    | text hs h => exact Text.signed64?_eq_some_iff.mpr ⟨hs, h⟩

/-- A text counts if it is not blank, without the blanks around it. -/
theorem unblank_eq (s : Option String) :
    unblank s = (s.filter fun text => !Text.isBlankText text).map Text.trim := by
  cases s with
  | none => rfl
  | some text =>
    by_cases h : Text.isBlankText text = true
    · simp [unblank, Option.filter, Text.isEmpty_trim, h]
    · simp [unblank, Option.filter, Text.isEmpty_trim, h]

theorem unblank_eq_none_iff : unblank s = none ↔ IsMissing s := by
  rw [unblank_eq, Option.map_eq_none_iff, Option.filter_eq_none_iff]
  simp [IsMissing]

theorem unblank_eq_some_iff : unblank s = some text ↔
    ∃ u ∈ s, Text.isBlankText u = false ∧ Text.trim u = text := by
  rw [unblank_eq, Option.map_eq_some_iff]
  simp [Option.filter_eq_some_iff, and_assoc]

/-- What names an identifier is not blank. -/
theorem NamesUuid.not_blank {u : Uuid} (h : NamesUuid text u) : Text.isBlankText text = false := by
  rw [← Text.isEmpty_trim]
  by_contra hempty
  have hread := Uuid.parse?_eq_some_iff.mpr h
  rw [String.isEmpty_iff.mp (eq_true_of_ne_false hempty)] at hread
  cases hread

theorem NamesUuid.unblank {u : Uuid} (h : NamesUuid text u) :
    unblank (some text) = some (Text.trim text) :=
  unblank_eq_some_iff.mpr ⟨text, rfl, h.not_blank, rfl⟩

/-! ## Refusals and commands -/

/-- The fields that the request has to have and has not. -/
def lacked (r : SpendRequest) : List String :=
  missing
    [("learner_id", (given r.learner).isNone), ("content_key", (unblank r.contentKey).isNone),
     ("access_policy_uuid", (unblank r.policy).isNone)]

theorem mem_lacked_iff {field : String} : field ∈ r.lacked ↔ r.Lacks field := by
  have hlearner : (given r.learner).isNone = true ↔ r.learner = none ∨ r.learner = some .null := by
    rw [Option.isNone_iff_eq_none, given_eq_none_iff]
  have htext {s : Option String} : (unblank s).isNone = true ↔ IsMissing s := by
    rw [Option.isNone_iff_eq_none, unblank_eq_none_iff]
  simp only [lacked, missing, List.mem_map, List.mem_filter, List.mem_cons, List.not_mem_nil, or_false]
  constructor
  · rintro ⟨-, ⟨rfl | rfl | rfl, hmissing⟩, rfl⟩
    · exact .learner (hlearner.mp hmissing)
    · exact .contentKey (htext.mp hmissing)
    · exact .policy (htext.mp hmissing)
  · rintro (h | h | h)
    · exact ⟨_, ⟨.inl rfl, hlearner.mpr h⟩, rfl⟩
    · exact ⟨_, ⟨.inr (.inl rfl), htext.mpr h⟩, rfl⟩
    · exact ⟨_, ⟨.inr (.inr rfl), htext.mpr h⟩, rfl⟩

/-- **What is missing is looked for first.** -/
theorem toCommand?_of_lacks {field : String} (h : r.Lacks field) (subsidy : Uuid) :
    r.toCommand? subsidy = .error (.missingFields r.lacked) := by
  unfold toCommand?
  split
  · rename_i hlearner hcontent hpolicy
    change given r.learner = some _ at hlearner
    cases h with
    | learner h =>
      rw [given_eq_none_iff.mpr h] at hlearner
      cases hlearner
    | contentKey h =>
      rw [unblank_eq_none_iff.mpr h] at hcontent
      cases hcontent
    | policy h =>
      rw [unblank_eq_none_iff.mpr h] at hpolicy
      cases hpolicy
  · rfl

/-- A request that lacks nothing has a learner, a content and a policy. -/
theorem exists_of_not_lacks (h : ∀ field, ¬ r.Lacks field) : ∃ j content policy,
    given r.learner = some j ∧ unblank r.contentKey = some content ∧ unblank r.policy = some policy := by
  obtain ⟨j, hj⟩ := Option.ne_none_iff_exists'.mp fun hnone =>
    h _ (.learner (given_eq_none_iff.mp hnone))
  obtain ⟨content, hcontent⟩ := Option.ne_none_iff_exists'.mp fun hnone =>
    h _ (.contentKey (unblank_eq_none_iff.mp hnone))
  obtain ⟨policy, hpolicy⟩ := Option.ne_none_iff_exists'.mp fun hnone =>
    h _ (.policy (unblank_eq_none_iff.mp hnone))
  exact ⟨j, content, policy, hj, hcontent, hpolicy⟩

/-- What becomes of a request that lacks nothing, once its learner and its policy are read. -/
def outcome (r : SpendRequest) (subsidy : Uuid) (contentKey policy : String) :
    Option Int → Option Uuid → Except ServiceError SpendCommand
  | none, _ => .error (.wrongField "learner_id" learnerComplaint)
  | some _, none => .error (.validation (policy ++ " is not a valid access_policy_uuid"))
  | some learner, some policy =>
    .ok { subsidy, learner, contentKey, policy, key := (unblank r.key).map IdempotencyKey.mk }

theorem outcome_eq_ok_iff {content policy : String} {learner : Option Int} {u : Option Uuid} :
    r.outcome subsidy content policy learner u = .ok c ↔ learner = some c.learner ∧ u = some c.policy ∧
      c.subsidy = subsidy ∧ c.contentKey = content ∧ (unblank r.key).map IdempotencyKey.mk = c.key := by
  constructor
  · intro h
    unfold outcome at h
    split at h
    · cases h
    · cases h
    · obtain rfl := Except.ok.inj h
      exact ⟨rfl, rfl, rfl, rfl, rfl⟩
  · rintro ⟨rfl, rfl, rfl, rfl, hkey⟩
    rw [outcome, hkey]

/-- **If nothing is missing, the learner is read, then the policy.** -/
theorem toCommand?_of_given {content policy : String} (hlearner : given r.learner = some j)
    (hcontent : unblank r.contentKey = some content) (hpolicy : unblank r.policy = some policy)
    (subsidy : Uuid) :
    r.toCommand? subsidy = r.outcome subsidy content policy (learnerOf? j) (Uuid.parse? policy) := by
  have hgiven : r.learner.filter (fun j => !j.isNull) = some j := hlearner
  simp only [toCommand?, hgiven, hcontent, hpolicy]
  cases learnerOf? j with
  | none => rfl
  | some learner =>
    cases Uuid.parse? policy with
    | none => rfl
    | some u => rfl

/-- What a key comes to. -/
theorem map_unblank_eq_iff {key : Option IdempotencyKey} : (unblank s).map IdempotencyKey.mk = key ↔
    IsMissing s ∧ key = none ∨ ∃ u ∈ s, Text.isBlankText u = false ∧ key = some ⟨Text.trim u⟩ := by
  cases hs : unblank s with
  | none =>
    have hmissing := unblank_eq_none_iff.mp hs
    constructor
    · rintro rfl
      exact .inl ⟨hmissing, rfl⟩
    · rintro (⟨-, rfl⟩ | ⟨u, hu, hblank, -⟩)
      · rfl
      · rw [hmissing u hu] at hblank
        cases hblank
  | some text =>
    obtain ⟨u, hu, hblank, rfl⟩ := unblank_eq_some_iff.mp hs
    constructor
    · rintro rfl
      exact .inr ⟨u, hu, hblank, rfl⟩
    · rintro (⟨hmissing, -⟩ | ⟨v, hv, -, rfl⟩)
      · rw [hmissing u hu] at hblank
        cases hblank
      · obtain rfl := Option.mem_unique hu hv
        rfl

/-- **The command is the one that the request wants.** -/
theorem toCommand?_eq_ok_iff : r.toCommand? subsidy = .ok c ↔ c.subsidy = subsidy ∧ r.Wants c := by
  constructor
  · intro h
    by_cases hlacks : ∃ field, r.Lacks field
    · obtain ⟨field, hfield⟩ := hlacks
      rw [toCommand?_of_lacks hfield] at h
      cases h
    obtain ⟨j, content, policy, hj, hcontent, hpolicy⟩ := exists_of_not_lacks (not_exists.mp hlacks)
    rw [toCommand?_of_given hj hcontent hpolicy, outcome_eq_ok_iff] at h
    obtain ⟨hlearner, hu, hsubsidy, rfl, hkey⟩ := h
    obtain ⟨s, hs, hblank, hcontent⟩ := unblank_eq_some_iff.mp hcontent
    obtain ⟨p, hp, -, rfl⟩ := unblank_eq_some_iff.mp hpolicy
    exact ⟨hsubsidy,
      { learner := ⟨j, (given_eq_some_iff.mp hj).1, learnerOf?_eq_some_iff.mp hlearner⟩
        contentKey := ⟨s, hs, hblank, hcontent.symm⟩
        policy := ⟨p, hp, Uuid.parse?_eq_some_iff.mp hu⟩
        key := map_unblank_eq_iff.mp hkey }⟩
  · rintro ⟨hsubsidy, hwants⟩
    obtain ⟨j, hj, hlearner⟩ := hwants.learner
    obtain ⟨s, hs, hblank, hcontent⟩ := hwants.contentKey
    obtain ⟨p, hp, hpolicy⟩ := hwants.policy
    rw [toCommand?_of_given (given_eq_some_iff.mpr ⟨hj, hlearner.ne_null⟩)
      (unblank_eq_some_iff.mpr ⟨s, hs, hblank, rfl⟩) (hp ▸ hpolicy.unblank), outcome_eq_ok_iff]
    exact ⟨learnerOf?_eq_some_iff.mpr hlearner, Uuid.parse?_eq_some_iff.mpr hpolicy, hsubsidy, hcontent,
      map_unblank_eq_iff.mpr hwants.key⟩

/-- **There is a command exactly if everything is named.** -/
theorem exists_toCommand?_iff : (∃ c, r.toCommand? subsidy = .ok c) ↔
    r.HasLearner ∧ ¬ IsMissing r.contentKey ∧ r.HasPolicy := by
  constructor
  · rintro ⟨c, hc⟩
    have hwants := (toCommand?_eq_ok_iff.mp hc).2
    obtain ⟨j, hj, hlearner⟩ := hwants.learner
    obtain ⟨s, hs, hblank, -⟩ := hwants.contentKey
    obtain ⟨p, hp, hpolicy⟩ := hwants.policy
    refine ⟨⟨j, hj, _, hlearner⟩, fun hmissing => ?_, ⟨p, hp, _, hpolicy⟩⟩
    rw [hmissing s hs] at hblank
    cases hblank
  · rintro ⟨⟨j, hj, n, hlearner⟩, hcontent, ⟨p, hp, u, hpolicy⟩⟩
    obtain ⟨content, hunblank⟩ := Option.ne_none_iff_exists'.mp (mt unblank_eq_none_iff.mp hcontent)
    obtain ⟨s, hs, hblank, rfl⟩ := unblank_eq_some_iff.mp hunblank
    exact ⟨⟨subsidy, n, Text.trim s, u, _⟩, toCommand?_eq_ok_iff.mpr
      ⟨rfl, ⟨j, hj, hlearner⟩, ⟨s, hs, hblank, rfl⟩, ⟨p, hp, hpolicy⟩, map_unblank_eq_iff.mp rfl⟩⟩

theorem HasPolicy.not_missing (h : r.HasPolicy) : ¬ IsMissing r.policy := by
  obtain ⟨p, hp, u, hu⟩ := h
  intro hmissing
  have hblank := hu.not_blank
  rw [hmissing p hp] at hblank
  cases hblank

/-- A learner that is given and is none is complained about. -/
theorem toCommand?_of_no_learner (h : ∀ field, ¬ r.Lacks field) (hlearner : ¬ r.HasLearner)
    (subsidy : Uuid) : r.toCommand? subsidy = .error (.wrongField "learner_id" learnerComplaint) := by
  obtain ⟨j, content, policy, hj, hcontent, hpolicy⟩ := exists_of_not_lacks h
  have hnone : learnerOf? j = none := by
    refine Option.eq_none_iff_forall_ne_some.mpr fun n hn => hlearner ?_
    exact ⟨j, (given_eq_some_iff.mp hj).1, n, learnerOf?_eq_some_iff.mp hn⟩
  rw [toCommand?_of_given hj hcontent hpolicy, hnone, outcome]

/-- A policy that is given and is none is shown to the caller. -/
theorem toCommand?_of_no_policy (h : ∀ field, ¬ r.Lacks field) (hlearner : r.HasLearner)
    (hpolicy : ¬ r.HasPolicy) (subsidy : Uuid) : ∃ s ∈ r.policy, r.toCommand? subsidy =
      .error (.validation (Text.trim s ++ " is not a valid access_policy_uuid")) := by
  obtain ⟨j, content, policy, hj, hcontent, hgiven⟩ := exists_of_not_lacks h
  obtain ⟨s, hs, -, rfl⟩ := unblank_eq_some_iff.mp hgiven
  obtain ⟨k, hk, n, hn⟩ := hlearner
  obtain rfl := Option.mem_unique hk (given_eq_some_iff.mp hj).1
  have hnone : Uuid.parse? (Text.trim s) = none := by
    refine Option.eq_none_iff_forall_ne_some.mpr fun u hu => hpolicy ?_
    exact ⟨s, hs, u, Uuid.parse?_eq_some_iff.mp hu⟩
  refine ⟨s, hs, ?_⟩
  rw [toCommand?_of_given hj hcontent hgiven, learnerOf?_eq_some_iff.mpr hn, hnone, outcome]

/-! ## Requests that are alike -/

theorem unblank_eq_of_sameInside (h : Option.Rel Text.SameInside s t) : unblank s = unblank t := by
  cases h with
  | none => rfl
  | some h => simp only [unblank, Option.map_some, Text.sameInside_iff.mp h]

/-- Names of one learner are read alike. -/
theorem SameLearner.map_given (h : SameLearner l l') :
    (given l).map learnerOf? = (given l').map learnerOf? := by
  cases h with
  | refl => rfl
  | text h =>
    show some _ = some _
    simp only [learnerOf?, Text.sameInside_iff.mp h]
  | number h h' =>
    rw [given_eq_some_iff.mpr ⟨rfl, h.ne_null⟩, given_eq_some_iff.mpr ⟨rfl, h'.ne_null⟩, Option.map_some,
      Option.map_some, learnerOf?_eq_some_iff.mpr h, learnerOf?_eq_some_iff.mpr h']

namespace Alike

variable (h : r.Alike r')
include h

theorem unblank_key : unblank r.key = unblank r'.key := by
  rcases h.key with hkey | ⟨hmissing, hmissing'⟩
  · exact unblank_eq_of_sameInside hkey
  · rw [unblank_eq_none_iff.mpr hmissing, unblank_eq_none_iff.mpr hmissing']

/-- The policies are the same text, or spellings of the same identifier. -/
theorem unblank_policy : unblank r.policy = unblank r'.policy ∨ ∃ p p' u, unblank r.policy = some p ∧
    unblank r'.policy = some p' ∧ Uuid.parse? p = some u ∧ Uuid.parse? p' = some u := by
  have hpolicy := h.policy
  generalize r.policy = s, r'.policy = t at hpolicy
  cases hpolicy with
  | none => exact .inl rfl
  | some hsame =>
    rcases hsame with hsame | ⟨u, hu, hu'⟩
    · exact .inl (unblank_eq_of_sameInside (.some hsame))
    · exact .inr ⟨_, _, u, hu.unblank, hu'.unblank, Uuid.parse?_eq_some_iff.mpr hu,
        Uuid.parse?_eq_some_iff.mpr hu'⟩

theorem lacked_eq : r.lacked = r'.lacked := by
  have hlearner : (given r.learner).isNone = (given r'.learner).isNone := by
    rw [← Option.isNone_map (f := learnerOf?), h.learner.map_given, Option.isNone_map]
  have hpolicy : (unblank r.policy).isNone = (unblank r'.policy).isNone := by
    rcases h.unblank_policy with hsame | ⟨p, p', u, hp, hp', -⟩
    · rw [hsame]
    · rw [hp, hp']
      rfl
  rw [lacked, lacked, hlearner, hpolicy, unblank_eq_of_sameInside h.contentKey]

/-- The subsidy is read alike. -/
theorem subsidyUuid?_eq : r.subsidyUuid? = r'.subsidyUuid? := by
  have hsubsidy := h.subsidy
  unfold subsidyUuid?
  generalize r.subsidy = s, r'.subsidy = t at hsubsidy
  cases hsubsidy with
  | none => rfl
  | some hsame => simp only [Option.bind_some, Text.sameInside_iff.mp hsame]

/-- **Requests that are alike are answered alike**: with one command, or with one refusal. -/
theorem toCommand?_eq (subsidy : Uuid) : r.toCommand? subsidy = r'.toCommand? subsidy := by
  by_cases hlacks : ∃ field, r.Lacks field
  · obtain ⟨field, hfield⟩ := hlacks
    have hfield' : r'.Lacks field := by rwa [← mem_lacked_iff, ← h.lacked_eq, mem_lacked_iff]
    rw [toCommand?_of_lacks hfield, toCommand?_of_lacks hfield', h.lacked_eq]
  have hlacks' : ∀ field, ¬ r'.Lacks field := by
    intro field
    rw [← mem_lacked_iff, ← h.lacked_eq, mem_lacked_iff]
    exact not_exists.mp hlacks field
  obtain ⟨j, content, policy, hj, hcontent, hpolicy⟩ := exists_of_not_lacks (not_exists.mp hlacks)
  obtain ⟨j', content', policy', hj', hcontent', hpolicy'⟩ := exists_of_not_lacks hlacks'
  have hlearner : learnerOf? j = learnerOf? j' := by simpa [hj, hj'] using h.learner.map_given
  obtain rfl : content = content' := by
    simpa [hcontent, hcontent'] using unblank_eq_of_sameInside h.contentKey
  have houtcome : r.outcome subsidy = r'.outcome subsidy := by
    funext content policy learner? policy?
    unfold outcome
    rw [h.unblank_key]
  rw [toCommand?_of_given hj hcontent hpolicy, toCommand?_of_given hj' hcontent' hpolicy', hlearner,
    houtcome]
  rcases h.unblank_policy with hsame | ⟨p, p', u, hp, hp', hu, hu'⟩
  · obtain rfl : policy = policy' := by simpa [hpolicy, hpolicy'] using hsame
    rfl
  · obtain rfl : p = policy := by simpa [hpolicy, eq_comm] using hp
    obtain rfl : p' = policy' := by simpa [hpolicy', eq_comm] using hp'
    rw [hu, hu']
    cases learnerOf? j' with
    | none => rfl
    | some learner => rfl

end Alike

/-- **What becomes of a request to spend.** It gives the command that it wants, and gives one exactly if
it names a learner, a content and a policy. Fields that it lacks are complained about all at once, each of
them and no other; then a learner that is no integer of 64 bits; then a policy that is no identifier.
Requests that only differ in how they name things are answered alike, and their commands come under the
same key on every ledger. -/
theorem toCommand_decided (r : SpendRequest) (subsidy : Uuid) :
    (∀ c, r.toCommand? subsidy = .ok c ↔ c.subsidy = subsidy ∧ r.Wants c) ∧
    ((∃ c, r.toCommand? subsidy = .ok c) ↔
      r.HasLearner ∧ ¬ IsMissing r.contentKey ∧ ¬ IsMissing r.policy ∧ r.HasPolicy) ∧
    ((∃ field, r.Lacks field) → ∃ complaints, r.toCommand? subsidy = .error (.fields complaints) ∧
      KeysSorted complaints ∧ ∀ field texts, (field, texts) ∈ complaints ↔
        r.Lacks field ∧ texts = ["This field is required."]) ∧
    ((∀ field, ¬ r.Lacks field) → ¬ r.HasLearner →
      r.toCommand? subsidy = .error (.fields [("learner_id", ["A valid integer is required."])])) ∧
    ((∀ field, ¬ r.Lacks field) → r.HasLearner → ¬ r.HasPolicy → ∃ s ∈ r.policy,
      r.toCommand? subsidy =
        .error (.validation (Text.trim s ++ " is not a valid access_policy_uuid"))) ∧
    ∀ r', r.Alike r' → r.subsidyUuid? = r'.subsidyUuid? ∧ r.toCommand? subsidy = r'.toCommand? subsidy ∧
      ∀ c c' ledger, r.toCommand? subsidy = .ok c → r'.toCommand? subsidy = .ok c' →
        c = c' ∧ c.resolveKey ledger = c'.resolveKey ledger := by
  refine ⟨fun c => toCommand?_eq_ok_iff, ?_, ?_, ?_, ?_, ?_⟩
  · rw [exists_toCommand?_iff]
    exact ⟨fun ⟨hl, hc, hp⟩ => ⟨hl, hc, hp.not_missing, hp⟩, fun ⟨hl, hc, _, hp⟩ => ⟨hl, hc, hp⟩⟩
  · rintro ⟨field, hfield⟩
    obtain ⟨complaints, hfields, hsorted, hmem⟩ := ServiceError.missingFields_eq_fields r.lacked
    refine ⟨complaints, by rw [toCommand?_of_lacks hfield, hfields], hsorted, fun field texts => ?_⟩
    rw [hmem, mem_lacked_iff, ServiceError.fieldRequired]
  · exact fun h hlearner => toCommand?_of_no_learner h hlearner subsidy
  · exact fun h hlearner hpolicy => toCommand?_of_no_policy h hlearner hpolicy subsidy
  · intro r' h
    refine ⟨h.subsidyUuid?_eq, h.toCommand?_eq subsidy, fun c c' ledger hc hc' => ?_⟩
    rw [h.toCommand?_eq subsidy] at hc
    obtain rfl : c = c' := Except.ok.inj (hc.symm.trans hc')
    exact ⟨rfl, rfl⟩

/-- A policy. -/
def somePolicy : Uuid := ⟨List.replicate 31 (Text.lastHex 0) ++ [Text.lastHex 11], rfl⟩

/-- A request in the plainest form. -/
def plain : SpendRequest where
  subsidy := some "00000000-0000-0000-0000-00000000000a"
  learner := some (.number (.int 42))
  contentKey := some "course"
  policy := some "00000000-0000-0000-0000-00000000000b"
  key := none

/-- The same request with blanks, a sign, braces and capitals. -/
def ornate : SpendRequest where
  subsidy := some " 00000000-0000-0000-0000-00000000000a\n"
  learner := some (.string "\t+042 ")
  contentKey := some " course"
  policy := some "\x7b00000000-0000-0000-0000-00000000000B\x7d "
  key := some " \t"

/-- Both are read as one command, without a key of the caller's. -/
theorem toCommand_decided_ornate : plain.Alike ornate ∧ plain.subsidyUuid? = ornate.subsidyUuid? ∧
    plain.toCommand? Uuid.nil = .ok ⟨Uuid.nil, 42, "course", somePolicy, none⟩ ∧
    ornate.toCommand? Uuid.nil = .ok ⟨Uuid.nil, 42, "course", somePolicy, none⟩ := by
  have hsame {s t : String} (h : Text.trim s = Text.trim t) : Text.SameInside s t :=
    Text.sameInside_iff.mpr h
  have hpolicy : NamesUuid "00000000-0000-0000-0000-00000000000b" somePolicy :=
    Uuid.parse?_eq_some_iff.mp (by decide)
  have hpolicy' : NamesUuid "\x7b00000000-0000-0000-0000-00000000000B\x7d " somePolicy :=
    Uuid.parse?_eq_some_iff.mp (by decide)
  have hlearner : NamesLearner (.number (.int 42)) 42 := learnerOf?_eq_some_iff.mp (by decide)
  have hlearner' : NamesLearner (.string "\t+042 ") 42 := learnerOf?_eq_some_iff.mp (by decide)
  have halike : plain.Alike ornate :=
    { subsidy := .some (hsame (by decide))
      learner := .number hlearner hlearner'
      contentKey := .some (hsame (by decide))
      policy := .some (.inr ⟨_, hpolicy, hpolicy'⟩)
      key := .inr ⟨nofun, by rintro s ⟨⟩; decide⟩ }
  obtain ⟨hcommand, -, -, -, -, hforms⟩ := toCommand_decided plain Uuid.nil
  obtain ⟨hsubsidy, hboth, -⟩ := hforms ornate halike
  have hplain : plain.toCommand? Uuid.nil = .ok ⟨Uuid.nil, 42, "course", somePolicy, none⟩ :=
    (hcommand _).mpr ⟨rfl, ⟨_, rfl, hlearner⟩, ⟨_, rfl, by decide, by decide⟩, ⟨_, rfl, hpolicy⟩,
      .inl ⟨nofun, rfl⟩⟩
  exact ⟨halike, hsubsidy, hplain, hboth ▸ hplain⟩

end Bursar.SpendRequest
