import Bursar.Proofs.Text.Numeral
import Bursar.Proofs.Time.Calendar
import Bursar.Time.Timestamp

/-!
# Written instants are read back

An instant is written as a date, a clock time, its fraction and a `Z`. Each number stands in
a fixed width, so that a reader finds it and what follows it (`takeDigits_padded`), and the
fraction has as many digits as its nanoseconds need (`fraction_text`). What the fields name is
the instant: the day comes back from its date, and the second of the day from hours, minutes
and seconds (`ofFields?_fields`).

That is so for every clock time and for leap seconds (`IsClockTime`), as long as the year has
four digits.
-/

namespace Bursar.Timestamp

open Time

/-- The nanoseconds come after a second of the clock; only the last second of a minute is followed by
a leap second. -/
def IsClockTime (t : Timestamp) : Prop :=
  t.nanos < 1000000000 ∨ (t.nanos < 2000000000 ∧ t.seconds % 60 = 59)

/-- The text of the instant shows it: it is on the clock, in a year of four digits. -/
structure IsWritable (t : Timestamp) : Prop where
  clock : t.IsClockTime
  year : 0 ≤ t.date.year ∧ t.date.year ≤ 9999

/-! ## Numbers of a fixed width -/

variable {width n : Nat}

/-- **A number of a fixed width is taken off what follows it.** -/
theorem takeDigits_padded (hw : 0 < width) (h : n < 10 ^ width) (rest : List Char) :
    takeDigits width ((Text.ofNatPadded width n).toList ++ rest) = some (n, rest) := by
  have hlength := Text.length_padded hw h
  have hdigits := Text.isDigit_of_digitsValue? (Text.digitsValue?_padded width n)
  have hall := @Text.takeWhile_digits _ [] hdigits (by simp)
  rw [List.append_nil] at hall
  have htake : ((Text.ofNatPadded width n).toList ++ rest).take width =
      (Text.ofNatPadded width n).toList := List.take_left' hlength
  have hdrop : ((Text.ofNatPadded width n).toList ++ rest).drop width = rest := List.drop_left' hlength
  simp only [takeDigits, htake, hall, Text.natural?_padded, hlength, hdrop, Option.map_some]

theorem trimStart_padded (width n : Nat) (rest : List Char) :
    Text.trimStart ((Text.ofNatPadded width n).toList ++ rest) =
      (Text.ofNatPadded width n).toList ++ rest := by
  obtain ⟨c, cs, hcs, hc⟩ := Text.padded_eq_cons width n
  rw [hcs, List.cons_append]
  exact Text.trimStart_cons hc.not_blank _

theorem number_padded (h : n < 100) (rest : List Char) :
    number 2 ((Text.ofNatPadded 2 n).toList ++ rest) = some (n, rest) := by
  rw [number, trimStart_padded, takeDigits_padded (by decide) h]

theorem signedYear_yearText {year : Int} (h : 0 ≤ year ∧ year ≤ 9999) (rest : List Char) :
    signedYear ((yearText year).toList ++ rest) = some (year, rest) := by
  have hn : year.toNat < 10 ^ 4 := by omega
  obtain ⟨c, cs, hcs, hc⟩ := Text.padded_eq_cons 4 year.toNat
  have htaken := takeDigits_padded (by decide) hn rest
  have htrimmed := trimStart_padded 4 year.toNat rest
  rw [yearText, if_pos h, signedYear, htrimmed]
  rw [hcs, List.cons_append] at htaken ⊢
  have hyear : ((year.toNat : Nat) : Int) = year := Int.toNat_of_nonneg h.1
  split
  · rename_i heq
    exact absurd (List.cons.inj heq).1 (hc.ne (by decide))
  · rename_i heq
    exact absurd (List.cons.inj heq).1 (hc.ne (by decide))
  · rw [htaken, Option.map_some]
    exact congrArg (fun y : Int => some (y, rest)) hyear

theorem mark_cons {c : Char} (h : Text.isBlank c = false) (rest : List Char) :
    mark c (c :: rest) = some rest := by
  simp [mark, Text.trimStart_cons h]

/-! ## The fraction of a second -/

theorem fraction_padded (hw : 0 < width ∧ width ≤ 9) (h : n < 10 ^ width) {rest : List Char}
    (hrest : ∀ c ∈ rest.head?, Text.digitValue? c = none) :
    fraction ('.' :: ((Text.ofNatPadded width n).toList ++ rest)) =
      some (n * 10 ^ (9 - width), rest) := by
  have hlength := Text.length_padded hw.1 h
  have hdigits := Text.isDigit_of_digitsValue? (Text.digitsValue?_padded width n)
  have hkept : (Text.ofNatPadded width n).toList.take 9 = (Text.ofNatPadded width n).toList :=
    List.take_of_length_le (by omega)
  have hdrop : ((Text.ofNatPadded width n).toList ++ rest).drop width = rest := List.drop_left' hlength
  simp only [fraction, Text.takeWhile_digits hdigits hrest, hkept, Text.natural?_padded, hlength, hdrop,
    Option.map_some, Nat.pow_eq]

/-- **A fraction is read back from as many digits as it needs.** -/
theorem fraction_text {nanos : Nat} (h : nanos < 1000000000) (rest : List Char) :
    fraction ((fractionText nanos).toList ++ 'Z' :: rest) = some (nanos, 'Z' :: rest) := by
  have hrest : ∀ c ∈ ('Z' :: rest).head?, Text.digitValue? c = none := by
    rintro c ⟨⟩
    decide
  have hpadded {width n : Nat} (hw : 0 < width ∧ width ≤ 9) (hn : n < 10 ^ width)
      (hscale : n * 10 ^ (9 - width) = nanos) :
      fraction (("." ++ Text.ofNatPadded width n).toList ++ 'Z' :: rest) =
        some (nanos, 'Z' :: rest) := by
    rw [String.toList_append, List.append_assoc, ← hscale]
    exact fraction_padded hw hn hrest
  unfold fractionText
  split_ifs with h0 h3 h6
  · rw [h0]
    rfl
  · exact hpadded (by decide) (by omega) (by omega)
  · exact hpadded (by decide) (by omega) (by omega)
  · exact hpadded (by decide) (by omega) (by omega)

/-! ## The fields of an instant -/

variable {t : Timestamp}

/-- An instant in a year of four digits is one that there is. -/
theorem IsWritable.isInRange (h : t.IsWritable) : t.isInRange = true := by
  have hday := dayNumber_range (isValid_civilOfDay (t.seconds / 86400)) h.year
  rw [dayNumber_civilOfDay] at hday
  have hfirst : dayNumber { year := firstYear, month := 1, day := 1 } ≤ -730000 := by decide
  have hlast : 3000000 < dayNumber { year := lastYear + 1, month := 1, day := 1 } := by decide
  simp only [Timestamp.isInRange, Bool.and_eq_true, decide_eq_true_eq]
  omega

theorem IsClockTime.fields (h : t.IsClockTime) :
    t.secondOfDay / 3600 < 24 ∧ t.secondOfDay / 60 % 60 < 60 ∧
      t.secondOfDay % 60 + t.nanos / 1000000000 ≤ 60 := by
  unfold IsClockTime at h
  unfold secondOfDay
  omega

theorem date_fields (t : Timestamp) : t.date.month ≤ 12 ∧ t.date.day ≤ 31 := by
  obtain ⟨hmonth, -, hday⟩ := Date.isValid_iff.mp (isValid_civilOfDay (t.seconds / 86400))
  exact ⟨hmonth.2, Nat.le_trans hday (daysInMonth_le ..)⟩

/-- **The fields of an instant name it.** -/
theorem ofFields?_fields (h : t.IsWritable) :
    ofFields? t.date (t.secondOfDay / 3600) (t.secondOfDay / 60 % 60)
      (t.secondOfDay % 60 + t.nanos / 1000000000) (t.nanos % 1000000000) 0 = some t := by
  have hclock := h.clock
  have hvalid : t.date.isValid = true := isValid_civilOfDay _
  have hdays : dayNumber t.date = t.seconds / 86400 := dayNumber_civilOfDay _
  have hsecond : (t.secondOfDay : Int) = t.seconds % 86400 := Int.toNat_of_nonneg (by omega)
  have hfirst : firstYear ≤ t.date.year := Int.le_trans (by decide) h.year.1
  have hlast : t.date.year ≤ lastYear := Int.le_trans h.year.2 (by decide)
  generalize hleap : (if t.secondOfDay % 60 + t.nanos / 1000000000 = 60 then 1 else 0) = leap
  -- The second that is written is 60 for a leap second only.
  have hnanos : leap = t.nanos / 1000000000 := by
    unfold IsClockTime at hclock
    split at hleap <;> omega
  have hseconds : dayNumber t.date * 86400 + (t.secondOfDay / 3600 : Nat) * 3600 +
      (t.secondOfDay / 60 % 60 : Nat) * 60 +
      (t.secondOfDay % 60 + t.nanos / 1000000000 - leap : Nat) - 0 = t.seconds := by
    rw [hdays]
    omega
  have hinstant : t.nanos % 1000000000 + leap * 1000000000 = t.nanos := by omega
  rw [ofFields?, if_pos ⟨hvalid, hfirst, hlast, hclock.fields⟩]
  simp only [hleap, hseconds, hinstant, h.isInRange, if_true]

/-! ## The text of an instant -/

theorem toList_toString (t : Timestamp) :
    t.toString.toList = (yearText t.date.year).toList ++ '-' ::
      ((Text.ofNatPadded 2 t.date.month).toList ++
      '-' :: ((Text.ofNatPadded 2 t.date.day).toList ++
      'T' :: ((Text.ofNatPadded 2 (t.secondOfDay / 3600)).toList ++
      ':' :: ((Text.ofNatPadded 2 (t.secondOfDay / 60 % 60)).toList ++
      ':' :: ((Text.ofNatPadded 2 (t.secondOfDay % 60 + t.nanos / 1000000000)).toList ++
      ((fractionText (t.nanos % 1000000000)).toList ++ ['Z'])))))) := by
  have hdash : "-".toList = ['-'] := rfl
  have hcolon : ":".toList = [':'] := rfl
  simp only [toString, clockText, String.toList_append, List.append_assoc, hdash, hcolon,
    List.cons_append, List.nil_append]
  rfl

/-- **An instant is read back from its text**: in a year of four digits, to the nanosecond. -/
theorem parse?_toString (h : t.IsWritable) : parse? t.toString = some t := by
  obtain ⟨hmonth, hday⟩ := t.date_fields
  obtain ⟨hhour, hminute, hsecond⟩ := h.clock.fields
  have hnanos : t.nanos % 1000000000 < 1000000000 := Nat.mod_lt _ (by decide)
  have hdash : Text.isBlank '-' = false := by decide
  have hcolon : Text.isBlank ':' = false := by decide
  rw [parse?, toList_toString]
  refine Option.bind_eq_some_iff.mpr ⟨_, signedYear_yearText h.year _, ?_⟩
  refine Option.bind_eq_some_iff.mpr ⟨_, mark_cons hdash _, ?_⟩
  refine Option.bind_eq_some_iff.mpr ⟨_, number_padded (Nat.lt_of_le_of_lt hmonth (by decide)) _, ?_⟩
  refine Option.bind_eq_some_iff.mpr ⟨_, mark_cons hdash _, ?_⟩
  refine Option.bind_eq_some_iff.mpr ⟨_, number_padded (Nat.lt_of_le_of_lt hday (by decide)) _, ?_⟩
  -- A `T` separates the date from the clock time.
  refine (if_pos (Or.inl rfl)).trans (Option.bind_eq_some_iff.mpr ⟨_, rfl, ?_⟩)
  refine Option.bind_eq_some_iff.mpr ⟨_, number_padded (Nat.lt_trans hhour (by decide)) _, ?_⟩
  refine Option.bind_eq_some_iff.mpr ⟨_, mark_cons hcolon _, ?_⟩
  refine Option.bind_eq_some_iff.mpr ⟨_, number_padded (Nat.lt_trans hminute (by decide)) _, ?_⟩
  refine Option.bind_eq_some_iff.mpr ⟨_, mark_cons hcolon _, ?_⟩
  refine Option.bind_eq_some_iff.mpr ⟨_, number_padded (Nat.lt_of_le_of_lt hsecond (by decide)) _, ?_⟩
  refine Option.bind_eq_some_iff.mpr ⟨_, fraction_text hnanos _, ?_⟩
  refine Option.bind_eq_some_iff.mpr ⟨_, (rfl : offset ['Z'] = some (0, [])), ?_⟩
  exact ofFields?_fields h

end Bursar.Timestamp
