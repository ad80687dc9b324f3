import Bursar.Decimal.Reading
import Bursar.Proofs.Text.Numeral

/-!
# Written decimals are read back

A decimal is written with all its digits and as many decimals as its scale says, and
that is what is read: the same sign, magnitude and scale (`parse_toString`). No
digit is rounded off on the way, since every run of digits in front stands for a
smaller magnitude with a smaller scale, and both are in range to the end
(`readWhole_digits`, `readFraction_digits`).

The one thing that gets lost is the minus sign of a zero (`plain`), which no number
that is read in plain notation has.
-/

namespace Bursar.Decimal

/-- A zero without a minus sign, or any other number. -/
def IsPlain (x : Decimal) : Prop := x.magnitude = 0 → x.hasMinus = false

/-- The number without the minus sign of a zero. -/
def plain (x : Decimal) : Decimal := { x with hasMinus := x.hasMinus && x.magnitude ≠ 0 }

theorem plain_of_ne_zero {x : Decimal} (h : x.magnitude ≠ 0) : x.plain = x := by
  cases x
  simp_all [plain]

theorem plain_of_isPlain {x : Decimal} (h : x.IsPlain) : x.plain = x := by
  by_cases hx : x.magnitude = 0
  · cases x
    simp_all [plain, IsPlain]
  · exact plain_of_ne_zero hx

/-! ## Runs of digits -/

/-- **Digits before the point are gathered.** -/
theorem readWhole_digits {started : Bool} {m n : Nat} {cs : List Char} (isNegative : Bool)
    (h : Text.digitsValue? m cs = some n) (hs : started = true ∨ cs ≠ []) (hn : n < bound)
    (rest : List Char) :
    readWhole isNegative started m (cs ++ rest) = readWhole isNegative true n rest := by
  induction cs generalizing m started with
  | nil =>
    obtain rfl := Option.some.inj h
    obtain rfl := hs.resolve_right fun hne => hne rfl
    rfl
  | cons c cs ih =>
    obtain ⟨d, hd, hcs⟩ := Text.digitsValue?_cons_eq_some h
    have hle := Text.le_of_digitsValue? hcs
    have hlt : m * 10 + d < bound := by omega
    rw [List.cons_append, readWhole, hd]
    simp only [hlt, if_true]
    exact ih hcs (.inl rfl)

/-- **Digits after the point are gathered, and counted.** -/
theorem readFraction_digits {started : Bool} {m n scale : Nat} {cs : List Char} (isNegative : Bool)
    (h : Text.digitsValue? m cs = some n) (hs : started = true) (hn : n < bound)
    (hscale : scale + cs.length ≤ maxScale) :
    readFraction isNegative started m scale cs = build isNegative n (scale + cs.length) := by
  induction cs generalizing m scale started with
  | nil =>
    obtain rfl := Option.some.inj h
    simp [readFraction, hs]
  | cons c cs ih =>
    obtain ⟨d, hd, hcs⟩ := Text.digitsValue?_cons_eq_some h
    have hle := Text.le_of_digitsValue? hcs
    rw [List.length_cons] at hscale ⊢
    have hfits : scale < maxScale ∧ m * 10 + d < bound := by omega
    rw [readFraction, hd]
    simp only [hfits, and_self, if_true]
    rw [ih hcs rfl (by omega), Nat.add_assoc, Nat.add_comm 1]

/-! ## Whole numbers and their decimals -/

/-- The characters of a magnitude with its point. -/
theorem toList_placePoint (n scale : Nat) :
    (placePoint n scale).toList =
      if scale = 0 then Text.digitsOnto n []
      else Text.digitsOnto (n / 10 ^ scale) [] ++
        '.' :: (Text.ofNatPadded scale (n % 10 ^ scale)).toList := by
  have hpoint : ".".toList = ['.'] := rfl
  unfold placePoint
  split
  · exact Text.toList_ofNat n
  · simp only [Nat.pow_eq, String.toList_append, Text.toList_ofNat, hpoint, List.append_assoc,
      List.singleton_append]

theorem digitsOnto_lead (n scale : Nat) :
    ∃ m rest, (placePoint n scale).toList = Text.digitsOnto m [] ++ rest := by
  rw [toList_placePoint]
  split
  · exact ⟨n, [], (List.append_nil _).symm⟩
  · exact ⟨_, _, rfl⟩

/-- **What is written with a point is read with that point.** -/
theorem readWhole_placePoint (isNegative : Bool) {n scale : Nat} (hn : n < bound)
    (hscale : scale ≤ maxScale) :
    readWhole isNegative false 0 (placePoint n scale).toList = build isNegative n scale := by
  rw [toList_placePoint]
  by_cases hzero : scale = 0
  · have hall : readWhole isNegative false 0 (Text.digitsOnto n [] ++ []) =
        readWhole isNegative true n [] :=
      readWhole_digits isNegative (Text.digitsValue?_digitsOnto n) (.inr (Text.digitsOnto_ne_nil n)) hn []
    rw [List.append_nil] at hall
    rw [if_pos hzero, hall, hzero]
    rfl
  · have hpow : 0 < 10 ^ scale := Nat.pow_pos (by decide)
    have hwhole : n / 10 ^ scale < bound := Nat.lt_of_le_of_lt (Nat.div_le_self ..) hn
    have hpoint : Text.digitValue? '.' = none := by decide
    have hlength : (Text.ofNatPadded scale (n % 10 ^ scale)).toList.length = scale :=
      Text.length_padded (Nat.pos_of_ne_zero hzero) (Nat.mod_lt _ hpow)
    -- the fraction is read onto the whole part, which gives the magnitude back
    have hsum := Text.digitsValue?_onto (Text.digitsValue?_padded scale (n % 10 ^ scale))
      (n / 10 ^ scale)
    rw [hlength, Nat.div_add_mod'] at hsum
    rw [if_neg hzero, readWhole_digits isNegative (Text.digitsValue?_digitsOnto _)
      (.inr (Text.digitsOnto_ne_nil _)) hwhole, readWhole, hpoint]
    simp only [if_true]
    rw [readFraction_digits isNegative hsum rfl hn (by omega), hlength, Nat.zero_add]

/-! ## Signs -/

theorem toList_toString (x : Decimal) :
    x.toString.toList =
      (if x.hasMinus then ['-'] else []) ++ (placePoint x.magnitude x.scale).toList := by
  unfold toString
  cases x.hasMinus <;> simp [String.toList_append]

theorem build_eq (x : Decimal) : build x.hasMinus x.magnitude x.scale = .ok x.plain := by
  simp only [build, withParts, ofParts?, dif_pos (And.intro x.magnitude_lt x.scale_le)]
  rfl

theorem readPlain_toString (x : Decimal) : readPlain x.toString.toList = .ok x.plain := by
  rw [← build_eq, toList_toString]
  cases hminus : x.hasMinus with
  | true =>
    simp only [if_true, List.singleton_append, readPlain]
    exact readWhole_placePoint true x.magnitude_lt x.scale_le
  | false =>
    -- what starts with a digit has no sign
    obtain ⟨m, rest, hlead⟩ := digitsOnto_lead x.magnitude x.scale
    have hread := readWhole_placePoint false x.magnitude_lt x.scale_le
    cases hdigits : Text.digitsOnto m [] with
    | nil => exact absurd hdigits (Text.digitsOnto_ne_nil m)
    | cons c cs =>
      have hc : Text.IsDigit c :=
        Text.isDigit_of_digitsValue? (Text.digitsValue?_digitsOnto m) c (by simp [hdigits])
      have hdash : c ≠ '-' := hc.ne (by decide)
      have hplus : c ≠ '+' := hc.ne (by decide)
      rw [hlead, hdigits, List.cons_append] at hread ⊢
      simpa [readPlain, hdash, hplus] using hread

/-! ## Reading back -/

theorem not_blank_of_mem_toString {x : Decimal} {c : Char} (h : c ∈ x.toString.toList) :
    Text.isBlank c = false := by
  have hdigits {n : Nat} {c : Char} (hc : c ∈ Text.digitsOnto n []) : Text.isBlank c = false :=
    (Text.isDigit_of_digitsValue? (Text.digitsValue?_digitsOnto n) c hc).not_blank
  have hpadded {w n : Nat} {c : Char} (hc : c ∈ (Text.ofNatPadded w n).toList) :
      Text.isBlank c = false :=
    (Text.isDigit_of_digitsValue? (Text.digitsValue?_padded w n) c hc).not_blank
  rw [toList_toString, toList_placePoint] at h
  rcases List.mem_append.mp h with h | h
  · split at h
    · obtain rfl := List.mem_singleton.mp h
      decide
    · cases h
  · split at h
    · exact hdigits h
    · rcases List.mem_append.mp h with h | h
      · exact hdigits h
      · rcases List.mem_cons.mp h with rfl | h
        · decide
        · exact hpadded h

theorem trim_toString (x : Decimal) : Text.trim x.toString = x.toString := by
  rw [Text.trim, Text.trimChars_of_no_blank fun c => not_blank_of_mem_toString,
    String.ofList_toList]

/-- **A decimal is read back from what it is written as**, but for the minus sign of a zero. -/
theorem parse_toString (x : Decimal) : parse x.toString = .ok x.plain := by
  rw [parse, parseChars, readPlain_toString]

end Bursar.Decimal
