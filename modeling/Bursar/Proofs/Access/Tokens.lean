import Bursar.Access.Credentials
import Bursar.Proofs.Access.Grants
import Bursar.Proofs.Table

/-!
# Written principals and tokens

How principals and the tokens of a configuration are written, and what is wrong with a text
that is none. A principal is a list of grants, with a learner's number and a colon in front of
it or without; a configuration is a list of entries, each a token and a principal with `=` in
between. Reading a configuration gives the principals that its text says
(`parseTokens_decided`): all of them, the last one of a token, with the grants that are written
and no others. One bad entry, one bad grant within an entry, and nothing is read at all.

Conversely, whatever principals tokens are to stand for, there is a text that says so
(`exists_parseTokens_iff`): all that cannot be written is a token with a sign of those around
it, or with blanks at its ends, and the number of a learner that does not fit.
-/

namespace Bursar

open Text (Wraps Lists FirstFault isBlank trimChars)

section

variable {ε α β : Type} {x : Except ε α}

theorem map_eq_ok_iff {f : α → β} {b : β} : x.map f = .ok b ↔ ∃ a, x = .ok a ∧ f a = b := by
  cases x <;> simp [Except.map]

theorem map_eq_error_iff {f : α → β} {e : ε} : x.map f = .error e ↔ x = .error e := by
  cases x <;> simp [Except.map]

end

namespace Principal

variable {cs user grants : List Char} {l : Option Int} {p : Principal} {e : GrantError}

/-! ## Learners -/

/-- The number of a learner, as far as it fits 64 bits, with blanks around it; or blanks only, for
nobody. -/
inductive LearnerWritten : List Char → Option Int → Prop
  | nobody {cs : List Char} (h : ∀ c ∈ cs, isBlank c = true) : LearnerWritten cs none
  | number {cs inside : List Char} {n : Int} (h : Wraps cs inside) (hn : Text.SpellsInt inside n)
      (hfits : Text.minInt64 ≤ n ∧ n ≤ Text.maxInt64) : LearnerWritten cs (some n)

/-- A character of a numeral is no blank, and no sign that parts texts of tokens. -/
theorem numeralSigns_plain : ∀ c ∈ Text.numeralSigns, isBlank c = false ∧ c ∉ accessSigns :=
  Text.forall_mem_of_all (by decide)

theorem parseLearner_of_blank (h : ∀ c ∈ cs, isBlank c = true) :
    parseLearner (String.ofList cs) = .ok none := by
  rw [parseLearner, Text.trim, String.toList_ofList, Text.trimChars_eq_nil_iff.mpr h]
  rfl

theorem parseLearner_of_not_blank (h : ¬ ∀ c ∈ cs, isBlank c = true) : parseLearner (String.ofList cs) =
    match Text.signed64? (String.ofList (trimChars cs)) with
    | some n => .ok (some n)
    | none => .error (.invalidLearner (String.ofList (trimChars cs))) := by
  have hne : ¬ (String.ofList (trimChars cs)).isEmpty = true := by
    simpa [String.isEmpty_iff, Text.trimChars_eq_nil_iff] using h
  simp only [parseLearner, Text.trim, String.toList_ofList]
  exact if_neg hne

/-- **A learner is read exactly if one is written, or nobody.** -/
theorem parseLearner_eq_ok_iff : parseLearner (String.ofList cs) = .ok l ↔ LearnerWritten cs l := by
  by_cases hblank : ∀ c ∈ cs, isBlank c = true
  · rw [parseLearner_of_blank hblank]
    constructor
    · intro h
      cases h
      exact .nobody hblank
    · intro h
      cases h with
      | nobody _ => rfl
      | @number inside n h hn _ =>
        -- a numeral is more than blanks
        have htrim : trimChars inside = [] := by
          rw [← h.trimChars_eq, Text.trimChars_eq_nil_iff.mpr hblank]
        obtain ⟨c, hc⟩ := List.exists_mem_of_ne_nil inside hn.ne_nil
        have hcblank := Text.trimChars_eq_nil_iff.mp htrim c hc
        rw [(numeralSigns_plain c (hn.mem_numeralSigns c hc)).1] at hcblank
        cases hcblank
  · rw [parseLearner_of_not_blank hblank]
    constructor
    · intro h
      split at h
      · rename_i n hn
        cases h
        obtain ⟨hspells, hfits⟩ := Text.signed64?_eq_some_iff.mp hn
        rw [String.toList_ofList] at hspells
        exact .number (Text.wraps_trimChars cs) hspells hfits
      · cases h
    · intro h
      cases h with
      | nobody h => exact absurd h hblank
      | @number inside n h hn hfits =>
        have htrim : trimChars cs = inside :=
          h.trimChars_of_no_blank fun c hc => (numeralSigns_plain c (hn.mem_numeralSigns c hc)).1
        have hread : Text.signed64? (String.ofList inside) = some n :=
          Text.signed64?_eq_some_iff.mpr ⟨by rwa [String.toList_ofList], hfits⟩
        rw [htrim, hread]

/-- Reading a learner fails over the text that is no number. -/
theorem parseLearner_eq_error_iff : parseLearner (String.ofList cs) = .error e ↔
    (∀ l, ¬ LearnerWritten cs l) ∧ e = .invalidLearner (String.ofList (trimChars cs)) := by
  simp only [← parseLearner_eq_ok_iff]
  by_cases hblank : ∀ c ∈ cs, isBlank c = true
  · simp [parseLearner_of_blank hblank]
  · rw [parseLearner_of_not_blank hblank]
    cases Text.signed64? (String.ofList (trimChars cs)) with
    | none => simp [eq_comm]
    | some n => simp

theorem LearnerWritten.not_mem (h : LearnerWritten cs l) : ∀ d ∈ accessSigns, d ∉ cs := by
  intro d hd
  have hblank := isBlank_of_mem_accessSigns d hd
  cases h with
  | nobody h =>
    intro hmem
    rw [h d hmem] at hblank
    cases hblank
  | number h hn _ =>
    refine h.not_mem hblank fun hmem => ?_
    exact (numeralSigns_plain d (hn.mem_numeralSigns d hmem)).2 hd

/-- Nobody can be written, and any number that fits. -/
theorem exists_learnerWritten_iff :
    (∃ user, LearnerWritten user l) ↔ ∀ n, l = some n → Text.minInt64 ≤ n ∧ n ≤ Text.maxInt64 := by
  constructor
  · rintro ⟨user, h⟩ n rfl
    cases h with
    | number _ _ hfits => exact hfits
  · intro h
    cases l with
    | none => exact ⟨[], .nobody nofun⟩
    | some n =>
      have hspells := Text.signed64?_eq_some_iff.mp (Text.signed64?_ofInt (h n rfl))
      exact ⟨_, .number (.refl _) hspells.1 (h n rfl)⟩

/-! ## Principals -/

/-- Grants between commas, or a learner and such grants with a colon in between. Without a learner the
identifiers are spelled without colons. -/
inductive Written : List Char → Principal → Prop
  | anonymous {cs : List Char} {gs : List Grant} (h : Lists ',' (Grant.Written Uuid.SpellsPlainly) cs gs) :
      Written cs ⟨none, gs⟩
  | named {user grants : List Char} {l : Option Int} {gs : List Grant} (hl : LearnerWritten user l)
      (h : Lists ',' (Grant.Written Uuid.Spells) grants gs) : Written (user ++ ':' :: grants) ⟨l, gs⟩

/-- What is wrong with a text that is no principal. -/
inductive Faulty : List Char → GrantError → Prop
  | learner {user grants : List Char} (hcolon : ':' ∉ user) (h : ∀ l, ¬ LearnerWritten user l) :
      Faulty (user ++ ':' :: grants) (.invalidLearner (String.ofList (trimChars user)))
  | anonymous {cs : List Char} {e : GrantError} (hcolon : ':' ∉ cs)
      (h : FirstFault ',' (Grant.Written Uuid.Spells) Grant.Faulty cs e) : Faulty cs e
  | named {user grants : List Char} {l : Option Int} {e : GrantError} (hl : LearnerWritten user l)
      (h : FirstFault ',' (Grant.Written Uuid.Spells) Grant.Faulty grants e) :
      Faulty (user ++ ':' :: grants) e

theorem isBlank_comma : isBlank ',' = false := by decide

theorem parse_of_not_mem (h : ':' ∉ cs) : parse (String.ofList cs) =
    ((pieces ',' (String.ofList cs)).mapM parseGrant).map fun gs => ⟨none, gs⟩ := by
  rw [parse, Text.splitFirstString, String.toList_ofList, Text.splitFirst_of_not_mem h]
  change ((pieces ',' (String.ofList cs)).mapM parseGrant >>= fun gs => .ok (Principal.mk none gs)) = _
  cases (pieces ',' (String.ofList cs)).mapM parseGrant <;> rfl

theorem parse_append (h : ':' ∉ user) (grants : List Char) :
    parse (String.ofList (user ++ ':' :: grants)) =
    parseLearner (String.ofList user) >>= fun l =>
      ((pieces ',' (String.ofList grants)).mapM parseGrant).map fun gs => ⟨l, gs⟩ := by
  rw [parse, Text.splitFirstString, String.toList_ofList, Text.splitFirst_append h]
  cases hlearner : parseLearner (String.ofList user) with
  | error e => simp [hlearner, Except.map, bind, Except.bind]
  | ok l =>
    cases hgrants : (pieces ',' (String.ofList grants)).mapM parseGrant <;>
      simp [hlearner, hgrants, Except.map, bind, Except.bind, pure, Except.pure]

/-- Without a colon identifiers are spelled plainly. -/
theorem lists_plainly_iff {gs : List Grant} :
    Lists ',' (Grant.Written Uuid.SpellsPlainly) cs gs ↔
      ':' ∉ cs ∧ Lists ',' (Grant.Written Uuid.Spells) cs gs := by
  constructor
  · intro h
    refine ⟨h.not_mem (by decide) (by decide) fun inside g hg => ?_, ?_⟩
    · exact hg.not_mem (by decide) (by decide) fun u inside hu => hu.not_mem
    · refine h.imp (P := fun _ => True) (fun _ _ => trivial) fun inside g _ hg => ?_
      exact hg.imp fun u inside _ hu => hu.spells
  · rintro ⟨hcolon, h⟩
    refine h.imp (P := (· ≠ ':')) (fun c hc => ?_) fun inside g hinside hg => ?_
    · rintro rfl
      exact hcolon hc
    · refine hg.imp fun u ids hids hu => hu.plainly fun hmem => ?_
      exact hinside _ (hids _ hmem) rfl

/-- **A principal is read exactly if one is written.** -/
theorem parse_eq_ok_iff : parse (String.ofList cs) = .ok p ↔ Written cs p := by
  have hread {ds : List Char} {gs : List Grant} :
    (pieces ',' (String.ofList ds)).mapM parseGrant = .ok gs ↔
      Lists ',' (Grant.Written Uuid.Spells) ds gs := Grant.readsPieces.mapM_eq_ok_iff isBlank_comma
  constructor
  · intro h
    rcases Text.cut_cases ':' cs with hcolon | ⟨user, grants, hcolon, rfl⟩
    · rw [parse_of_not_mem hcolon] at h
      obtain ⟨gs, hgs, rfl⟩ := map_eq_ok_iff.mp h
      exact .anonymous (lists_plainly_iff.mpr ⟨hcolon, hread.mp hgs⟩)
    · rw [parse_append hcolon] at h
      cases hl : parseLearner (String.ofList user) with
      | error e =>
        rw [hl] at h
        cases h
      | ok l =>
        rw [hl] at h
        obtain ⟨gs, hgs, rfl⟩ := map_eq_ok_iff.mp h
        exact .named (parseLearner_eq_ok_iff.mp hl) (hread.mp hgs)
  · intro h
    cases h with
    | anonymous h =>
      obtain ⟨hcolon, h⟩ := lists_plainly_iff.mp h
      rw [parse_of_not_mem hcolon, hread.mpr h]
      rfl
    | named hl h =>
      rw [parse_append (hl.not_mem ':' (by decide)), parseLearner_eq_ok_iff.mpr hl]
      exact map_eq_ok_iff.mpr ⟨_, hread.mpr h, rfl⟩

/-- **Reading a principal fails over what is wrong with it.** -/
theorem parse_eq_error_iff : parse (String.ofList cs) = .error e ↔ Faulty cs e := by
  have hread {ds : List Char} {e : GrantError} :
    (pieces ',' (String.ofList ds)).mapM parseGrant = .error e ↔
      FirstFault ',' (Grant.Written Uuid.Spells) Grant.Faulty ds e :=
    Grant.readsPieces.mapM_eq_error_iff isBlank_comma
  constructor
  · intro h
    rcases Text.cut_cases ':' cs with hcolon | ⟨user, grants, hcolon, rfl⟩
    · rw [parse_of_not_mem hcolon] at h
      exact .anonymous hcolon (hread.mp (map_eq_error_iff.mp h))
    · rw [parse_append hcolon] at h
      cases hl : parseLearner (String.ofList user) with
      | error e' =>
        rw [hl] at h
        cases h
        obtain ⟨hnone, rfl⟩ := parseLearner_eq_error_iff.mp hl
        exact .learner hcolon hnone
      | ok l =>
        rw [hl] at h
        exact .named (parseLearner_eq_ok_iff.mp hl) (hread.mp (map_eq_error_iff.mp h))
  · intro h
    cases h with
    | learner hcolon h =>
      rw [parse_append hcolon, parseLearner_eq_error_iff.mpr ⟨h, rfl⟩]
      rfl
    | anonymous hcolon h =>
      rw [parse_of_not_mem hcolon]
      exact map_eq_error_iff.mpr (hread.mpr h)
    | named hl h =>
      rw [parse_append (hl.not_mem ':' (by decide)), parseLearner_eq_ok_iff.mpr hl]
      exact map_eq_error_iff.mpr (hread.mpr h)

/-- Blanks at the end make no difference to a principal. -/
theorem parse_trimEnd (cs : List Char) :
    parse (String.ofList (Text.trimEnd cs)) = parse (String.ofList cs) := by
  rcases Text.cut_cases ':' cs with hcolon | ⟨user, grants, hcolon, rfl⟩
  · rw [parse_of_not_mem hcolon, parse_of_not_mem (Text.not_mem_trimEnd hcolon),
      Text.pieces_trimEnd isBlank_comma]
  · rw [Text.trimEnd_append_cons (by decide), parse_append hcolon, parse_append hcolon,
      Text.pieces_trimEnd isBlank_comma]

theorem Written.trimEnd (h : Written cs p) : Written (Text.trimEnd cs) p := by
  rw [← parse_eq_ok_iff, parse_trimEnd, parse_eq_ok_iff]
  exact h

theorem Written.not_mem (h : Written cs p) {d : Char} (hd : d ∈ accessSigns) (hcolon : d ≠ ':')
    (hcomma : d ≠ ',') (hat : d ≠ '@') : d ∉ cs := by
  have hgrants {ds : List Char} {gs : List Grant}
    (h : Lists ',' (Grant.Written Uuid.Spells) ds gs) : d ∉ ds :=
    h.not_mem (isBlank_of_mem_accessSigns d hd) hcomma fun _ _ hg => hg.not_mem_of_ne_colon hd hat hcolon
  cases h with
  | anonymous h => exact hgrants (lists_plainly_iff.mp h).2
  | named hl h =>
    intro hmem
    rcases List.mem_append.mp hmem with hmem | hmem
    · exact hl.not_mem d hd hmem
    · exact hgrants h (List.mem_of_ne_of_mem hcolon hmem)

/-- **A principal can be written if the number of its learner fits**, whatever its grants. -/
theorem exists_written_iff :
    (∃ cs, Written cs p) ↔ ∀ n, p.learner = some n → Text.minInt64 ≤ n ∧ n ≤ Text.maxInt64 := by
  rw [← exists_learnerWritten_iff]
  constructor
  · rintro ⟨cs, h⟩
    cases h with
    | anonymous _ => exact ⟨[], .nobody nofun⟩
    | named hl _ => exact ⟨_, hl⟩
  · rintro ⟨user, huser⟩
    obtain ⟨grants, hgrants⟩ : ∃ cs, Lists ',' (Grant.Written Uuid.Spells) cs p.grants :=
      Text.exists_lists_iff.mpr fun g _ => g.exists_written
    exact ⟨_, .named huser hgrants⟩

end Principal

/-! ## Tokens -/

namespace Entry

variable {cs : List Char} {token : String} {p : Principal} {entry : String × Principal} {e : GrantError}

/-- A token and a principal with `=` in between, and blanks around the token. The token holds none of the
signs around it, and starts and ends with no blank. -/
inductive Written : List Char → String × Principal → Prop
  | mk {before principal : List Char} {token : String} {p : Principal} (h : Wraps before token.toList)
      (hequals : '=' ∉ token.toList) (hsemicolon : ';' ∉ token.toList) (htrim : Text.trim token = token)
      (hp : Principal.Written principal p) : Written (before ++ '=' :: principal) (token, p)

/-- What is wrong with a text that is no entry. -/
inductive Faulty : List Char → GrantError → Prop
  | malformed {cs : List Char} (h : '=' ∉ cs) : Faulty cs (.malformed (String.ofList cs))
  | principal {before principal : List Char} {e : GrantError} (hequals : '=' ∉ before)
      (h : Principal.Faulty principal e) : Faulty (before ++ '=' :: principal) e

/-- The grants of an entry, whether or not there is a learner in front of them. -/
inductive HasGrants : List Char → List Char → Prop
  | anonymous {before grants : List Char} (hequals : '=' ∉ before) (hcolon : ':' ∉ grants) :
      HasGrants (before ++ '=' :: grants) grants
  | named {before user grants : List Char} (hequals : '=' ∉ before) (hcolon : ':' ∉ user) :
      HasGrants (before ++ '=' :: (user ++ ':' :: grants)) grants

/-- Something is wrong with the entry: it has no `=`, or no learner in front of the colon, or one piece
among its grants is none. -/
inductive Bad : List Char → Prop
  | malformed {cs : List Char} (h : '=' ∉ cs) : Bad cs
  | learner {before user grants : List Char} (hequals : '=' ∉ before) (hcolon : ':' ∉ user)
      (h : ∀ l, ¬ Principal.LearnerWritten user l) : Bad (before ++ '=' :: (user ++ ':' :: grants))
  | grant {cs grants piece : List Char} {e : GrantError} (hgrants : HasGrants cs grants)
      (hmem : piece ∈ Text.splitAll ',' grants) (hblank : ¬ ∀ c ∈ piece, isBlank c = true)
      (h : Grant.Faulty (trimChars piece) e) : Bad cs

theorem parseToken_of_not_mem (h : '=' ∉ cs) :
    parseToken (String.ofList cs) = .error (.malformed (String.ofList cs)) := by
  rw [parseToken, Text.splitFirstString, String.toList_ofList, Text.splitFirst_of_not_mem h]
  rfl

theorem parseToken_append {before : List Char} (h : '=' ∉ before) (principal : List Char) :
    parseToken (String.ofList (before ++ '=' :: principal)) =
      (Principal.parse (String.ofList principal)).map fun p => (String.ofList (trimChars before), p) := by
  rw [parseToken, Text.splitFirstString, String.toList_ofList, Text.splitFirst_append h]
  simp only [Option.map_some, Text.trim, String.toList_ofList]

theorem trimChars_toList (h : Text.trim token = token) : trimChars token.toList = token.toList := by
  have hchars := congrArg String.toList h
  rwa [Text.trim, String.toList_ofList] at hchars

/-- **An entry is read exactly if one is written.** -/
theorem parseToken_eq_ok_iff (hsemicolon : ';' ∉ cs) :
    parseToken (String.ofList cs) = .ok entry ↔ Written cs entry := by
  constructor
  · intro h
    rcases Text.cut_cases '=' cs with hequals | ⟨before, principal, hequals, rfl⟩
    · rw [parseToken_of_not_mem hequals] at h
      cases h
    · rw [parseToken_append hequals] at h
      obtain ⟨p, hp, rfl⟩ := map_eq_ok_iff.mp h
      have hbefore : ';' ∉ before := fun hmem => hsemicolon (List.mem_append_left _ hmem)
      refine .mk ?_ ?_ ?_ ?_ (Principal.parse_eq_ok_iff.mp hp)
      · rw [String.toList_ofList]
        exact Text.wraps_trimChars before
      · rw [String.toList_ofList]
        exact Text.not_mem_trimChars hequals
      · rw [String.toList_ofList]
        exact Text.not_mem_trimChars hbefore
      · rw [Text.trim, String.toList_ofList, ← (Text.wraps_trimChars before).trimChars_eq]
  · intro h
    cases h with
    | mk h hequals _ htrim hp =>
      rw [parseToken_append (h.not_mem (by decide) hequals), Principal.parse_eq_ok_iff.mpr hp,
        h.trimChars_eq]
      exact congrArg _ (congrArg (·, _) htrim)

/-- **Reading an entry fails over what is wrong with it.** -/
theorem parseToken_eq_error_iff : parseToken (String.ofList cs) = .error e ↔ Faulty cs e := by
  constructor
  · intro h
    rcases Text.cut_cases '=' cs with hequals | ⟨before, principal, hequals, rfl⟩
    · rw [parseToken_of_not_mem hequals] at h
      cases h
      exact .malformed hequals
    · rw [parseToken_append hequals] at h
      exact .principal hequals (Principal.parse_eq_error_iff.mp (map_eq_error_iff.mp h))
  · intro h
    cases h with
    | malformed h => exact parseToken_of_not_mem h
    | principal hequals h =>
      rw [parseToken_append hequals]
      exact map_eq_error_iff.mpr (Principal.parse_eq_error_iff.mpr h)

/-- The entries between semicolons are read as they are written. -/
theorem readsPieces : Text.ReadsPieces ';' parseToken Written Faulty where
  ok cs entry := parseToken_eq_ok_iff
  error cs e := parseToken_eq_error_iff
  not_mem cs entry h := by
    obtain ⟨hbefore, _, hsemicolon, _, hp⟩ := h
    intro hmem
    rcases List.mem_append.mp hmem with hmem | hmem
    · exact hbefore.not_mem (by decide) hsemicolon hmem
    · exact hp.not_mem (by decide) (by decide) (by decide) (by decide)
        (List.mem_of_ne_of_mem (by decide) hmem)
  not_blank cs entry h := by
    cases h with
    | mk _ _ _ _ _ =>
      intro hblank
      have hequals := hblank '=' (by simp)
      revert hequals
      decide
  trimmed cs entry h := by
    obtain ⟨hbefore, hequals, hsemicolon, htrim, hp⟩ := h
    rw [Text.trimChars_append_cons (by decide)]
    refine .mk ?_ hequals hsemicolon htrim hp.trimEnd
    rw [← trimChars_toList htrim, ← hbefore.trimChars_eq, ← Text.trimChars_trimStart]
    exact Text.wraps_trimChars _

/-- **A bad entry is faulty.** -/
theorem Bad.faulty (h : Bad cs) : ∃ e, Faulty cs e := by
  cases h with
  | malformed h => exact ⟨_, .malformed h⟩
  | learner hequals hcolon h => exact ⟨_, .principal hequals (.learner hcolon h)⟩
  | grant hgrants hmem hblank h =>
    obtain ⟨e, hfault⟩ := Grant.readsPieces.exists_firstFault hmem hblank h
    cases hgrants with
    | anonymous hequals hcolon => exact ⟨e, .principal hequals (.anonymous hcolon hfault)⟩
    | @named _ user _ hequals hcolon =>
      -- what is in front of the colon is at fault first
      by_cases hl : ∃ l, Principal.LearnerWritten user l
      · obtain ⟨l, hl⟩ := hl
        exact ⟨e, .principal hequals (.named hl hfault)⟩
      · exact ⟨_, .principal hequals (.learner hcolon (not_exists.mp hl))⟩

/-- The token holds none of the signs around it, starts and ends with no blank, and the number of
the learner fits 64 bits. -/
structure Writable (entry : String × Principal) : Prop where
  equals : '=' ∉ entry.1.toList
  semicolon : ';' ∉ entry.1.toList
  trimmed : Text.trim entry.1 = entry.1
  learner : ∀ n, entry.2.learner = some n → Text.minInt64 ≤ n ∧ n ≤ Text.maxInt64

theorem exists_written_iff : (∃ cs, Written cs entry) ↔ Writable entry := by
  constructor
  · rintro ⟨cs, h⟩
    obtain ⟨-, hequals, hsemicolon, htrim, hp⟩ := h
    exact ⟨hequals, hsemicolon, htrim, Principal.exists_written_iff.mp ⟨_, hp⟩⟩
  · intro h
    obtain ⟨principal, hp⟩ := Principal.exists_written_iff.mpr h.learner
    exact ⟨_, .mk (.refl _) h.equals h.semicolon h.trimmed hp⟩

end Entry

namespace Tokens

/-- The tokens of the entries, each with the principal of its last entry, and no others. -/
def AreOf (tokens : Tokens) (entries : List (String × Principal)) : Prop :=
  ∀ token, tokens.get? token = entries.reverse.lookup token

theorem get?_foldl_insert (entries : List (String × Principal)) (tokens : Tokens) (token : String) :
    (entries.foldl (fun tokens (token, p) => tokens.insert token p) tokens).get? token =
      (entries.reverse.lookup token).or (tokens.get? token) := by
  induction entries generalizing tokens with
  | nil => rfl
  | cons entry entries ih =>
    obtain ⟨token', p⟩ := entry
    rw [List.foldl_cons, ih, List.reverse_cons, List.lookup_append, Option.or_assoc, Table.get?_insert,
      List.lookup_cons, List.lookup_nil]
    by_cases htoken : token = token'
    · rw [if_pos htoken, beq_iff_eq.mpr htoken, Option.some_or]
    · rw [if_neg htoken, beq_eq_false_iff_ne.mpr htoken, Option.none_or]

theorem areOf_foldl_insert (entries : List (String × Principal)) :
    AreOf (entries.foldl (fun tokens (token, p) => tokens.insert token p) .empty) entries := by
  intro token
  rw [get?_foldl_insert, Table.get?_empty, Option.or_none]

theorem mem_of_lookup {entries : List (String × Principal)} {token : String} {p : Principal}
    (h : entries.reverse.lookup token = some p) : (token, p) ∈ entries := by
  obtain ⟨before, after, hsplit, -⟩ := List.lookup_eq_some_iff.mp h
  rw [← List.mem_reverse, hsplit]
  exact List.mem_append_right _ List.mem_cons_self

/-- Any tokens are those of the entries that are found in them. -/
theorem exists_areOf (tokens : Tokens) :
    ∃ entries, tokens.AreOf entries ∧ ∀ entry ∈ entries, tokens.get? entry.1 = some entry.2 := by
  obtain ⟨entries, hmem⟩ : ∃ entries : List (String × Principal),
      ∀ token p, (token, p) ∈ entries ↔ tokens.get? token = some p := by
    refine ⟨tokens.entries.filter fun entry => tokens.get? entry.1 = some entry.2, fun token p => ?_⟩
    rw [List.mem_filter, decide_eq_true_iff]
    exact and_iff_right_of_imp Table.mem_entries_of_get?
  refine ⟨entries, fun token => ?_, fun entry hentry => (hmem _ _).mp hentry⟩
  cases hlookup : entries.reverse.lookup token with
  | some p => exact (hmem _ _).mp (mem_of_lookup hlookup)
  | none =>
    rw [Option.eq_none_iff_forall_ne_some]
    intro p hget
    have habsent := List.lookup_eq_none_iff.mp hlookup _ (List.mem_reverse.mpr ((hmem _ _).mpr hget))
    simp at habsent

end Tokens

theorem isBlank_semicolon : isBlank ';' = false := by decide

theorem parseTokens_eq (cs : List Char) : parseTokens (String.ofList cs) =
    ((Principal.pieces ';' (String.ofList cs)).mapM parseToken).map fun entries =>
      entries.foldl (fun tokens (token, p) => tokens.insert token p) .empty := by
  rw [parseTokens]
  cases (Principal.pieces ';' (String.ofList cs)).mapM parseToken <;> rfl

/-- **A configuration is read exactly if one is written**, as the tokens of its entries. -/
theorem parseTokens_eq_ok_iff {text : String} {tokens : Tokens} : parseTokens text = .ok tokens ↔
    ∃ entries, Lists ';' Entry.Written text.toList entries ∧
      entries.foldl (fun tokens (token, p) => tokens.insert token p) .empty = tokens := by
  have hread := parseTokens_eq text.toList
  rw [String.ofList_toList] at hread
  rw [hread, map_eq_ok_iff]
  refine exists_congr fun entries => and_congr_left fun _ => ?_
  rw [← Entry.readsPieces.mapM_eq_ok_iff isBlank_semicolon, String.ofList_toList]

/-- **Reading a configuration fails over its first fault.** -/
theorem parseTokens_eq_error_iff {text : String} {e : GrantError} : parseTokens text = .error e ↔
    FirstFault ';' Entry.Written Entry.Faulty text.toList e := by
  have hread := parseTokens_eq text.toList
  rw [String.ofList_toList] at hread
  rw [hread, map_eq_error_iff, ← Entry.readsPieces.mapM_eq_error_iff isBlank_semicolon,
    String.ofList_toList]

/-- **A configuration of tokens means what it says.** However the entries are written, with blanks,
empty pieces and letters in any case, the tokens are those of the entries, each with the principal
of its last entry. No other text is read: reading fails over the first thing that is wrong, and it
does fail if there is something wrong anywhere. -/
theorem parseTokens_decided (text : String) :
    (∀ entries, Lists ';' Entry.Written text.toList entries →
      ∃ tokens, parseTokens text = .ok tokens ∧ tokens.AreOf entries) ∧
    (∀ tokens, parseTokens text = .ok tokens →
      ∃ entries, Lists ';' Entry.Written text.toList entries ∧ tokens.AreOf entries) ∧
    (∀ e, parseTokens text = .error e ↔ FirstFault ';' Entry.Written Entry.Faulty text.toList e) ∧
    (∀ entry ∈ Text.splitAll ';' text.toList, (¬ ∀ c ∈ entry, isBlank c = true) →
      Entry.Bad (trimChars entry) → ∃ e, parseTokens text = .error e) := by
  refine ⟨fun entries h => ?_, fun tokens h => ?_, fun e => parseTokens_eq_error_iff,
    fun entry hmem hblank hbad => ?_⟩
  · exact ⟨_, parseTokens_eq_ok_iff.mpr ⟨entries, h, rfl⟩, Tokens.areOf_foldl_insert entries⟩
  · obtain ⟨entries, hentries, rfl⟩ := parseTokens_eq_ok_iff.mp h
    exact ⟨entries, hentries, Tokens.areOf_foldl_insert entries⟩
  · obtain ⟨e, he⟩ := hbad.faulty
    obtain ⟨e', hfirst⟩ := Entry.readsPieces.exists_firstFault hmem hblank he
    exact ⟨e', parseTokens_eq_error_iff.mpr hfirst⟩

/-- Two writings of a token, the last of which counts, and a bad grant behind a good entry. -/
theorem parseTokens_decided_twice :
    (∃ tokens, parseTokens " t = learner@*;; t=7: OPERATOR @ * ,, " = .ok tokens ∧
      tokens.get? "t" = some ⟨some 7, [⟨.operator, .all⟩]⟩) ∧
    ∃ e, parseTokens "t=learner@*;u=:admin" = .error e := by
  constructor
  · have hentries : Lists ';' Entry.Written " t = learner@*;; t=7: OPERATOR @ * ,, ".toList
        [("t", ⟨none, [⟨.learner, .all⟩]⟩), ("t", ⟨some 7, [⟨.operator, .all⟩]⟩)] :=
      (Entry.readsPieces.mapM_eq_ok_iff (by decide)).mp (by decide)
    obtain ⟨tokens, hread, hof⟩ := (parseTokens_decided _).1 _ hentries
    exact ⟨tokens, hread, by rw [hof]; decide⟩
  · have hgrants : Entry.HasGrants (['u'] ++ '=' :: ([] ++ ':' :: "admin".toList)) "admin".toList :=
      .named (by decide) (by decide)
    have hbad : Entry.Bad "u=:admin".toList := by
      refine .grant hgrants (by decide : "admin".toList ∈ _) (fun hblank => ?_) (.malformed (by decide))
      exact absurd (hblank 'a' (by decide)) (by decide)
    refine (parseTokens_decided _).2.2.2 "u=:admin".toList (by decide) (fun hblank => ?_) hbad
    exact absurd (hblank 'u' (by decide)) (by decide)

/-- **Every configuration can be written.** Whatever principals are to stand under whatever tokens,
there is a text that is read as that, as long as each token can be written with its principal. -/
theorem exists_parseTokens_iff (tokens : Tokens) :
    (∃ text read, parseTokens text = .ok read ∧ ∀ token, read.get? token = tokens.get? token) ↔
      ∀ token p, tokens.get? token = some p → Entry.Writable (token, p) := by
  constructor
  · rintro ⟨text, read, hread, hsame⟩ token p hp
    obtain ⟨entries, hentries, rfl⟩ := parseTokens_eq_ok_iff.mp hread
    rw [← hsame, Tokens.areOf_foldl_insert] at hp
    exact Entry.exists_written_iff.mp (hentries.exists_item (Tokens.mem_of_lookup hp))
  · intro h
    obtain ⟨entries, hof, hfound⟩ := tokens.exists_areOf
    obtain ⟨cs, hcs⟩ : ∃ cs, Lists ';' Entry.Written cs entries :=
      Text.exists_lists_iff.mpr fun entry hentry =>
        Entry.exists_written_iff.mpr (h _ _ (hfound entry hentry))
    refine ⟨String.ofList cs, _, parseTokens_eq_ok_iff.mpr ⟨entries, ?_, rfl⟩, fun token => ?_⟩
    · rwa [String.toList_ofList]
    · rw [Tokens.areOf_foldl_insert, hof]

end Bursar
