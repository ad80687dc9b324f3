import Bursar.Proofs.Access.Pieces
import Bursar.Proofs.Text.IdentifierSpelling

/-!
# Written grants

How a role, a scope and a grant are written, and what is wrong with a text that is no grant,
apart from how one is read. A role is its name in any letter case, a scope a star or an
identifier, a grant the two with `@` in between, all with any blanks around them. Reading a
grant takes exactly what is written so (`Principal.parseGrant_eq_ok_iff`), and otherwise fails
over the first part that is none (`Principal.parseGrant_eq_error_iff`).

Where nobody in particular is granted something, a scope cannot hold a colon: what stands in
front of it would be taken for a learner. So only some spellings of identifiers are written
there (`Uuid.SpellsPlainly`).
-/

namespace Bursar

/-- The signs that part texts of tokens. -/
def accessSigns : List Char := [';', '=', ':', ',', '@']

theorem isBlank_of_mem_accessSigns : ∀ d ∈ accessSigns, Text.isBlank d = false :=
  Text.forall_mem_of_all (by decide)

theorem toLower_of_mem_accessSigns : ∀ d ∈ accessSigns, d.toLower = d :=
  Text.forall_mem_of_all (by decide)

/-- Of these signs only the colon is in a spelling of an identifier. -/
theorem not_mem_spellingSigns : ∀ d ∈ accessSigns, d ≠ ':' → d ∉ Uuid.spellingSigns :=
  Text.forall_mem_of_all (by decide)

/-! ## Roles -/

namespace Role

variable {cs name : List Char} {r : Role}

/-- The name of the role in any letter case, with blanks around it. -/
def Written (cs : List Char) (r : Role) : Prop :=
  ∃ name, Text.Wraps cs name ∧ name.map Char.toLower = r.toText.toList

theorem toLower_mem (h : name.map Char.toLower = r.toText.toList) :
    ∀ c ∈ name, c.toLower ∈ r.toText.toList := by
  intro c hc
  rw [← h]
  exact List.mem_map_of_mem hc

/-- Letters of a name are no blanks and no signs. -/
theorem letters_plain (r : Role) :
    ∀ c ∈ r.toText.toList, Text.isBlank c = false ∧ c ∉ accessSigns := by
  cases r <;> exact Text.forall_mem_of_all (by decide)

theorem not_blank_of_name (h : name.map Char.toLower = r.toText.toList) :
    ∀ c ∈ name, Text.isBlank c = false :=
  Text.not_blank_of_toLower_mem (fun d hd => (r.letters_plain d hd).1) (toLower_mem h)

theorem lookup_names_eq_some_iff {s : String} : names.lookup s = some r ↔ s = r.toText := by
  constructor
  · intro h
    obtain ⟨before, after, hsplit, -⟩ := List.lookup_eq_some_iff.mp h
    have hmem : (s, r) ∈ names := by simp [hsplit]
    simp only [names, List.mem_cons, Prod.mk.injEq, List.not_mem_nil, or_false] at hmem
    rcases hmem with ⟨rfl, rfl⟩ | ⟨rfl, rfl⟩ | ⟨rfl, rfl⟩ <;> rfl
  · rintro rfl
    cases r <;> decide

/-- **A role is read exactly if one is written.** -/
theorem parse?_eq_some_iff : parse? (String.ofList cs) = some r ↔ Written cs r := by
  have hname : Text.lowerAscii (Text.trim (String.ofList cs)) = r.toText ↔
      (Text.trimChars cs).map Char.toLower = r.toText.toList := by
    rw [Text.lowerAscii, Text.trim, String.toList_ofList, String.toList_ofList, ← String.toList_inj,
      String.toList_ofList]
  rw [parse?, lookup_names_eq_some_iff, hname]
  constructor
  · intro h
    exact ⟨Text.trimChars cs, Text.wraps_trimChars cs, h⟩
  · rintro ⟨name, hwraps, h⟩
    rw [hwraps.trimChars_of_no_blank (not_blank_of_name h), h]

theorem Written.not_mem (h : Written cs r) : ∀ d ∈ accessSigns, d ∉ cs := by
  intro d hd
  obtain ⟨name, hwraps, hname⟩ := h
  refine hwraps.not_mem (isBlank_of_mem_accessSigns d hd) ?_
  refine Text.not_mem_of_toLower_mem (toLower_of_mem_accessSigns d hd) ?_ (toLower_mem hname)
  intro hmem
  exact (r.letters_plain d hmem).2 hd

theorem Written.of_trimChars_eq {ds : List Char} (h : Written cs r)
    (hds : Text.trimChars ds = Text.trimChars cs) : Written ds r := by
  obtain ⟨name, hwraps, hname⟩ := h
  refine ⟨name, ?_, hname⟩
  rw [← hwraps.trimChars_of_no_blank (not_blank_of_name hname), ← hds]
  exact Text.wraps_trimChars ds

end Role

/-! ## Scopes -/

namespace Uuid

variable {u : Uuid} {cs : List Char}

/-- The characters spell the identifier without a colon. -/
inductive SpellsPlainly (u : Uuid) : List Char → Prop
  | bare {cs : List Char} (h : u.SpellsDigits cs) : u.SpellsPlainly cs
  | hyphenated {cs : List Char} (h : u.SpellsDigits cs) : u.SpellsPlainly (hyphenate cs)
  | braced {cs : List Char} (h : u.SpellsDigits cs) : u.SpellsPlainly ('\x7b' :: hyphenate cs ++ ['\x7d'])

theorem SpellsPlainly.spells (h : u.SpellsPlainly cs) : u.Spells cs := by
  cases h with
  | bare h => exact .bare h
  | hyphenated h => exact .hyphenated h
  | braced h => exact .braced h

theorem SpellsDigits.not_mem_hyphenate (h : u.SpellsDigits cs) : ':' ∉ hyphenate cs := by
  intro hmem
  rcases h.toLower_hyphenate hmem with hhyphen | ⟨d, hd⟩
  · revert hhyphen
    decide
  · revert d
    decide

theorem SpellsPlainly.not_mem (h : u.SpellsPlainly cs) : ':' ∉ cs := by
  cases h with
  | bare h =>
    intro hmem
    obtain ⟨d, hd⟩ := h.toLower hmem
    revert d
    decide
  | hyphenated h => exact h.not_mem_hyphenate
  | braced h => simp [h.not_mem_hyphenate]

/-- **Only behind `urn:uuid:` does an identifier hold a colon.** -/
theorem Spells.plainly (h : u.Spells cs) (hcolon : ':' ∉ cs) : u.SpellsPlainly cs := by
  cases h with
  | bare h => exact .bare h
  | hyphenated h => exact .hyphenated h
  | braced h => exact .braced h
  | @resource lead bare hlead h =>
    have hmem : ':' ∈ lead.map Char.toLower := by
      rw [hlead]
      decide
    obtain ⟨c, hc, hlower⟩ := List.mem_map.mp hmem
    obtain rfl : c = ':' := Text.eq_of_toLower_eq (by decide) hlower
    exact absurd (List.mem_append_left _ hc) hcolon

theorem Spells.not_blank (h : u.Spells cs) : ∀ c ∈ cs, Text.isBlank c = false :=
  Text.not_blank_of_toLower_mem (Text.forall_mem_of_all (by decide)) h.toLower_mem

end Uuid

namespace Scope

variable {ids : Uuid → List Char → Prop} {cs inside : List Char} {s : Scope}

/-- A star, or an identifier in one of the given spellings, with blanks around it. -/
inductive Written (ids : Uuid → List Char → Prop) : List Char → Scope → Prop
  | all {cs : List Char} (h : Text.Wraps cs ['*']) : Written ids cs .all
  | enterprise {cs inside : List Char} {u : Uuid} (h : Text.Wraps cs inside) (hu : ids u inside) :
      Written ids cs (.enterprise u)

theorem Written.imp {ids' : Uuid → List Char → Prop} (h : Written ids cs s)
    (hids : ∀ u inside, Text.Wraps cs inside → ids u inside → ids' u inside) : Written ids' cs s := by
  cases h with
  | all h => exact .all h
  | enterprise h hu => exact .enterprise h (hids _ _ h hu)

/-- What is written between the blanks. -/
theorem written_iff : Written Uuid.Spells cs s ↔
    (Text.trimChars cs = ['*'] ∧ s = .all) ∨ ∃ u, u.Spells (Text.trimChars cs) ∧ s = .enterprise u := by
  constructor
  · intro h
    cases h with
    | all h => exact .inl ⟨h.trimChars_of_no_blank (Text.forall_mem_of_all (by decide)), rfl⟩
    | @enterprise inside u h hu => exact .inr ⟨u, by rwa [h.trimChars_of_no_blank hu.not_blank], rfl⟩
  · rintro (⟨hstar, rfl⟩ | ⟨u, hu, rfl⟩)
    · exact .all (hstar ▸ Text.wraps_trimChars cs)
    · exact .enterprise (Text.wraps_trimChars cs) hu

theorem not_spells_star (u : Uuid) : ¬ u.Spells ['*'] := by
  intro h
  have hsign := h.toLower_mem '*' List.mem_cons_self
  revert hsign
  decide

/-- **A scope is read exactly if one is written.** -/
theorem parse?_eq_some_iff : parse? (String.ofList cs) = some s ↔ Written Uuid.Spells cs s := by
  have htrim : Text.trim (String.ofList cs) = String.ofList (Text.trimChars cs) := by
    rw [Text.trim, String.toList_ofList]
  have hstar : String.ofList (Text.trimChars cs) = "*" ↔ Text.trimChars cs = ['*'] := by
    rw [← String.toList_inj, String.toList_ofList]
    rfl
  have hread (u : Uuid) : Uuid.parse? (String.ofList (Text.trimChars cs)) = some u ↔
      u.Spells (Text.trimChars cs) := by
    rw [Uuid.parse?_eq_some_iff, String.toList_ofList]
  rw [parse?, htrim, written_iff]
  by_cases h : Text.trimChars cs = ['*']
  · rw [h] at hread
    simp [h, not_spells_star, eq_comm]
  · rw [if_neg (mt hstar.mp h), Option.map_eq_some_iff]
    simp only [hread, h, false_and, false_or, eq_comm]

theorem Written.not_mem (h : Written ids cs s) {d : Char} (hd : Text.isBlank d = false) (hstar : d ≠ '*')
    (hids : ∀ u inside, ids u inside → d ∉ inside) : d ∉ cs := by
  cases h with
  | all h => exact h.not_mem hd (by simpa using hstar)
  | enterprise h hu => exact h.not_mem hd (hids _ _ hu)

theorem Written.of_trimChars_eq {ds : List Char} (h : Written Uuid.Spells cs s)
    (hds : Text.trimChars ds = Text.trimChars cs) : Written Uuid.Spells ds s := by
  rw [written_iff, hds, ← written_iff]
  exact h

end Scope

/-! ## Grants -/

namespace Grant

variable {ids : Uuid → List Char → Prop} {cs : List Char} {g : Grant} {e : GrantError}

/-- A role and a scope with `@` in between. -/
inductive Written (ids : Uuid → List Char → Prop) : List Char → Grant → Prop
  | mk {role scope : List Char} {r : Role} {s : Scope} (hr : Role.Written role r)
      (hs : Scope.Written ids scope s) : Written ids (role ++ '@' :: scope) ⟨r, s⟩

/-- What is wrong with a text that is no grant. -/
inductive Faulty : List Char → GrantError → Prop
  | malformed {cs : List Char} (h : '@' ∉ cs) : Faulty cs (.malformed (String.ofList cs))
  | role {role scope : List Char} (hat : '@' ∉ role) (hr : ∀ r, ¬ Role.Written role r) :
      Faulty (role ++ '@' :: scope) (.unknownRole (String.ofList role))
  | scope {role scope : List Char} {r : Role} (hr : Role.Written role r)
      (hs : ∀ s, ¬ Scope.Written Uuid.Spells scope s) :
      Faulty (role ++ '@' :: scope) (.invalidScope (String.ofList scope))

end Grant

namespace Principal

variable {cs : List Char} {g : Grant} {e : GrantError}

theorem parseGrant_of_not_mem (h : '@' ∉ cs) :
    parseGrant (String.ofList cs) = .error (.malformed (String.ofList cs)) := by
  rw [parseGrant, Text.splitFirstString, String.toList_ofList, Text.splitFirst_of_not_mem h]
  rfl

theorem parseGrant_append {role scope : List Char} (h : '@' ∉ role) :
    parseGrant (String.ofList (role ++ '@' :: scope)) =
      match Role.parse? (String.ofList role), Scope.parse? (String.ofList scope) with
      | none, _ => .error (.unknownRole (String.ofList role))
      | some _, none => .error (.invalidScope (String.ofList scope))
      | some r, some s => .ok ⟨r, s⟩ := by
  rw [parseGrant, Text.splitFirstString, String.toList_ofList, Text.splitFirst_append h]
  cases hr : Role.parse? (String.ofList role) with
  | none => simp [hr]
  | some r => cases hs : Scope.parse? (String.ofList scope) <;> simp [hr, hs]

theorem not_mem_of_role {role : List Char} {r : Role} (h : Role.Written role r) : '@' ∉ role :=
  h.not_mem '@' (by decide)

/-- **A grant is read exactly if one is written.** -/
theorem parseGrant_eq_ok_iff : parseGrant (String.ofList cs) = .ok g ↔ Grant.Written Uuid.Spells cs g := by
  constructor
  · intro h
    rcases Text.cut_cases '@' cs with hat | ⟨role, scope, hat, rfl⟩
    · rw [parseGrant_of_not_mem hat] at h
      cases h
    · rw [parseGrant_append hat] at h
      split at h
      · cases h
      · cases h
      · rename_i r s hr hs
        cases h
        exact .mk (Role.parse?_eq_some_iff.mp hr) (Scope.parse?_eq_some_iff.mp hs)
  · rintro ⟨hr, hs⟩
    rw [parseGrant_append (not_mem_of_role hr), Role.parse?_eq_some_iff.mpr hr,
      Scope.parse?_eq_some_iff.mpr hs]

/-- **Reading a grant fails over what is wrong with it.** -/
theorem parseGrant_eq_error_iff : parseGrant (String.ofList cs) = .error e ↔ Grant.Faulty cs e := by
  have hrole {role : List Char} :
    Role.parse? (String.ofList role) = none ↔ ∀ r, ¬ Role.Written role r := by
    simp only [Option.eq_none_iff_forall_ne_some, ne_eq, Role.parse?_eq_some_iff]
  have hscope {scope : List Char} :
      Scope.parse? (String.ofList scope) = none ↔ ∀ s, ¬ Scope.Written Uuid.Spells scope s := by
    simp only [Option.eq_none_iff_forall_ne_some, ne_eq, Scope.parse?_eq_some_iff]
  constructor
  · intro h
    rcases Text.cut_cases '@' cs with hat | ⟨role, scope, hat, rfl⟩
    · rw [parseGrant_of_not_mem hat] at h
      cases h
      exact .malformed hat
    · rw [parseGrant_append hat] at h
      split at h
      · rename_i hr
        cases h
        exact .role hat (hrole.mp hr)
      · rename_i r hr hs
        cases h
        exact .scope (Role.parse?_eq_some_iff.mp hr) (hscope.mp hs)
      · cases h
  · intro h
    cases h with
    | malformed h => exact parseGrant_of_not_mem h
    | role hat hr => rw [parseGrant_append hat, hrole.mpr hr]
    | scope hr hs =>
      rw [parseGrant_append (not_mem_of_role hr), Role.parse?_eq_some_iff.mpr hr, hscope.mpr hs]

end Principal

namespace Grant

variable {ids : Uuid → List Char → Prop} {cs : List Char} {g : Grant} {e : GrantError}

theorem Written.not_mem (h : Written ids cs g) {d : Char} (hd : d ∈ accessSigns) (hat : d ≠ '@')
    (hids : ∀ u inside, ids u inside → d ∉ inside) : d ∉ cs := by
  obtain ⟨hr, hs⟩ := h
  have hstar : d ≠ '*' := by
    rintro rfl
    revert hd
    decide
  intro hmem
  rcases List.mem_append.mp hmem with hmem | hmem
  · exact hr.not_mem d hd hmem
  · exact hs.not_mem (isBlank_of_mem_accessSigns d hd) hstar hids (List.mem_of_ne_of_mem hat hmem)

theorem Written.imp {ids' : Uuid → List Char → Prop} (h : Written ids cs g)
    (hids : ∀ u inside, (∀ c ∈ inside, c ∈ cs) → ids u inside → ids' u inside) : Written ids' cs g := by
  obtain ⟨hr, hs⟩ := h
  refine .mk hr (hs.imp fun u inside hwraps hu => hids u inside (fun c hc => ?_) hu)
  exact List.mem_append_right _ (List.mem_cons_of_mem _ (hwraps.mem hc))

/-- A grant on itself holds no sign of those around it, except the colon of an identifier. -/
theorem Written.not_mem_of_ne_colon (h : Written Uuid.Spells cs g) {d : Char} (hd : d ∈ accessSigns)
    (hat : d ≠ '@') (hcolon : d ≠ ':') : d ∉ cs := by
  refine h.not_mem hd hat fun u inside hu => ?_
  exact Text.not_mem_of_toLower_mem (toLower_of_mem_accessSigns d hd) (not_mem_spellingSigns d hd hcolon)
    hu.toLower_mem

/-- Every grant can be written. -/
theorem exists_written (g : Grant) : ∃ cs, Written Uuid.Spells cs g := by
  have hrole : Role.Written g.role.toText.toList g.role := by
    refine ⟨_, .refl _, ?_⟩
    cases g.role <;> decide
  have hscope : Scope.Written Uuid.Spells g.scope.toText.toList g.scope := by
    cases g.scope with
    | all => exact .all (.refl _)
    | enterprise u => exact .enterprise (.refl _) (Uuid.parse?_eq_some_iff.mp (Uuid.parse?_toString u))
  exact ⟨_, .mk hrole hscope⟩

/-- The grants between commas are read as they are written. -/
theorem readsPieces :
    Text.ReadsPieces ',' Principal.parseGrant (Written Uuid.Spells) Faulty where
  ok cs g _ := Principal.parseGrant_eq_ok_iff
  error cs e := Principal.parseGrant_eq_error_iff
  not_mem cs g h := h.not_mem_of_ne_colon (by decide) (by decide) (by decide)
  not_blank cs g h := by
    obtain ⟨hr, hs⟩ := h
    intro hblank
    have hat := hblank '@' (by simp)
    revert hat
    decide
  trimmed cs g h := by
    obtain ⟨hr, hs⟩ := h
    rw [Text.trimChars_append_cons (by decide)]
    exact .mk (hr.of_trimChars_eq (Text.trimChars_trimStart _))
      (hs.of_trimChars_eq (Text.trimChars_trimEnd _))

end Grant
end Bursar
