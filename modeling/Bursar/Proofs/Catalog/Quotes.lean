import Bursar.Catalog.Metadata
import Bursar.Proofs.Decimal.Amount
import Bursar.Proofs.Service.Wire
import Bursar.Proofs.Text.Spelling

/-!
# Whole prices are quoted without loss

A price is shown as an integer or as a double. Which of them is decided on a scaled decimal: the
digits behind the point have to be zeros, as many as there are, and what stands before the point
has to fit 64 bits. Both are properties of the amount alone (`Decimal.toNumber_eq_int_iff`), so
trailing zeros make no difference.

In the text the two are never mixed up. A double is written with a point or an exponent, whatever
its digits are (`Binary64.Layout.marked_text`), and neither is part of a numeral. So the text of a
price spells an integer exactly if the price is that integer and fits 64 bits
(`Decimal.spellsInt_text_iff`), and then it is read back as a decimal of the same amount
(`Decimal.exists_readsBack`), with fewer decimals than before if those were zeros.
-/

namespace Bursar

/-! ## Whole amounts -/

namespace Decimal

variable {x : Decimal} {n : ℤ}

theorem amount_eq_intCast_iff : x.amount = n ↔ x.coefficient = n * 10 ^ x.scale := by
  have hunit : (10 : ℚ) ^ x.scale ≠ 0 := by positivity
  rw [amount, div_eq_iff hunit]
  norm_cast

theorem natCast_pow_ten (scale : ℕ) : ((Nat.pow 10 scale : ℕ) : ℤ) = 10 ^ scale := by
  rw [Nat.pow_eq, Nat.cast_pow, Nat.cast_ofNat]

theorem isWhole_of_amount_eq (h : x.amount = n) : x.isWhole = true := by
  rw [isWhole, decide_eq_true_iff, natCast_pow_ten, amount_eq_intCast_iff.mp h]
  exact Int.mul_emod_left _ _

/-- A whole amount is what is left of it without its fraction. -/
theorem amount_eq_truncate (h : x.isWhole = true) : x.amount = x.truncate := by
  rw [isWhole, decide_eq_true_iff, natCast_pow_ten] at h
  rw [amount_eq_intCast_iff, truncate, natCast_pow_ten]
  exact (Int.tdiv_mul_cancel (Int.dvd_of_emod_eq_zero h)).symm

/-- **A price is shown as an integer exactly if it is that integer and fits 64 bits**, whatever its
scale is. -/
theorem toNumber_eq_int_iff : x.toNumber = .int n ↔ Text.Fits64 n ∧ x.amount = n := by
  have hshown : x.toNumber = .int n ↔ x.isWhole = true ∧ x.truncate = n ∧ Text.Fits64 n := by
    unfold toNumber toInt64?
    split
    · rename_i m hm
      rw [Option.ite_none_right_eq_some, Text.within64_eq_some_iff] at hm
      obtain ⟨hwhole, rfl, hfits⟩ := hm
      constructor
      · rintro ⟨⟩
        exact ⟨hwhole, rfl, hfits⟩
      · rintro ⟨-, rfl, -⟩
        rfl
    · rename_i hm
      refine ⟨nofun, fun ⟨hwhole, htruncate, hfits⟩ => ?_⟩
      rw [if_pos hwhole, Text.within64_eq_some_iff.mpr ⟨htruncate, hfits⟩] at hm
      cases hm
  rw [hshown]
  constructor
  · rintro ⟨hwhole, rfl, hfits⟩
    exact ⟨hfits, amount_eq_truncate hwhole⟩
  · rintro ⟨hfits, hamount⟩
    have hwhole := isWhole_of_amount_eq hamount
    refine ⟨hwhole, ?_, hfits⟩
    exact_mod_cast (amount_eq_truncate hwhole).symm.trans hamount

end Decimal

/-! ## What a double is written with -/

namespace Binary64

/-- A point or an exponent is written. -/
def Marked (s : String) : Prop := '.' ∈ s.toList ∨ 'e' ∈ s.toList

theorem Marked.append_left {t : String} (h : Marked t) (s : String) : Marked (s ++ t) := by
  unfold Marked at h ⊢
  simp only [String.toList_append, List.mem_append]
  exact h.imp .inr .inr

theorem Marked.append_right {s : String} (h : Marked s) (t : String) : Marked (s ++ t) := by
  unfold Marked at h ⊢
  simp only [String.toList_append, List.mem_append]
  exact h.imp .inl .inl

/-- There is a point in front of what is less than one, and one between digits that do not all
stand before it. -/
theorem marked_positional {digits : String} {exponent : Int} (h : exponent + 1 < digits.length) :
    Marked (positional digits exponent) := by
  have hpoint : Marked "." := .inl (by decide)
  have hzero : Marked "0." := .inl (by decide)
  unfold positional
  split
  · exact (hzero.append_right _).append_right _
  · have hbehind : ¬ digits.length ≤ exponent.toNat + 1 := by omega
    simp only [if_neg hbehind]
    exact (hpoint.append_left _).append_right _

theorem marked_scientific (digits : String) (exponent : Int) : Marked (scientific digits exponent) := by
  have he : Marked "e" := .inr (by decide)
  exact ((he.append_left _).append_right _).append_right _

/-- **A double is written with a point or an exponent**, whatever it is. -/
theorem Layout.marked_text {layout : Layout} {x : Float} {s : String} (h : layout.text x = some s) :
    Marked s := by
  have hfraction : Marked ".0" := .inl (by decide)
  have hzero : Marked "0.0" := .inl (by decide)
  obtain ⟨p, -, rfl⟩ := Option.map_eq_some_iff.mp h
  dsimp only
  split
  · exact hzero.append_left _
  · split
    · refine Marked.append_left ?_ _
      split
      · exact hfraction.append_left _
      · rename_i hless
        exact marked_positional (by omega)
    · exact (marked_scientific _ _).append_left _

end Binary64

/-! ## The text of a price -/

/-- No double is written as a numeral: there is a sign in its text that a numeral does not hold. -/
theorem Json.not_spellsInt_float (x : Float) (n : ℤ) :
    ¬ Text.SpellsInt (Json.numberText (.float x)).toList n := by
  intro h
  have hsigns := h.mem_numeralSigns
  cases htext : Json.floatLayout.text x with
  | none =>
    rw [Json.numberText, htext] at hsigns
    exact absurd (hsigns 'n' (by decide)) (by decide)
  | some s =>
    rw [Json.numberText, htext] at hsigns
    rcases Binary64.Layout.marked_text htext with hpoint | hexponent
    · exact absurd (hsigns '.' hpoint) (by decide)
    · exact absurd (hsigns 'e' hexponent) (by decide)

namespace Decimal

variable {x : Decimal} {n : ℤ}

/-- **The text of a price spells an integer exactly if the price is that integer and fits 64 bits.** -/
theorem spellsInt_text_iff :
    Text.SpellsInt (Json.numberText x.toNumber).toList n ↔ Text.Fits64 n ∧ x.amount = n := by
  rw [← toNumber_eq_int_iff]
  constructor
  · intro h
    cases hx : x.toNumber with
    | int m =>
      rw [hx] at h
      rw [(Text.spellsInt_ofInt m).unique h]
    | float d =>
      rw [hx] at h
      exact absurd h (Json.not_spellsInt_float d n)
  · intro h
    rw [h]
    exact Text.spellsInt_ofInt n

/-- **An integer of 64 bits is read back as a decimal of this amount.** -/
theorem exists_readsBack (h : Text.Fits64 n) (need : ℕ) :
    ∃ y : Decimal, shownDecoder.ReadsBack need (.int n) y ∧ y.amount = n := by
  have hroom : n.natAbs < bound := by
    have hbound : bound = 79228162514264337593543950336 := by decide
    obtain ⟨hlow, hhigh⟩ := h
    unfold Text.minInt64 at hlow
    unfold Text.maxInt64 at hhigh
    omega
  obtain ⟨y, hy⟩ := exists_of? hroom (Nat.zero_le maxScale)
  obtain ⟨hcoefficient, hscale⟩ := of?_eq_some hy
  refine ⟨y, ⟨⟨h.1, Int.le_trans h.2 (by decide)⟩, fun depth _ => ?_⟩, ?_⟩
  · simp [shownDecoder, Json.int, Json.raw, hy]
  · rw [amount, hcoefficient, hscale, pow_zero, div_one]

end Decimal

/-! ## The text of metadata -/

namespace ContentMetadata

/-- The text of metadata, with the price written as `price`. -/
def textWith (m : ContentMetadata) (price : String) : String :=
  String.join
    ["\x7b\x22content_uuid\x22:", Json.quote m.contentUuid.toString,
     ",\x22content_key\x22:", Json.quote m.contentKey,
     ",\x22source\x22:", Json.quote m.source,
     ",\x22content_price\x22:", price, "\x7d"]

theorem compact_toJson (m : ContentMetadata) :
    m.toJson.compact = m.textWith (Json.numberText m.price.toNumber) := by
  have huuid : "\x7b\x22content_uuid\x22:".toList =
      '\x7b' :: Json.quoteChars "content_uuid" ++ [':'] := rfl
  have hkey : ",\x22content_key\x22:".toList = ',' :: Json.quoteChars "content_key" ++ [':'] := rfl
  have hsource : ",\x22source\x22:".toList = ',' :: Json.quoteChars "source" ++ [':'] := rfl
  have hprice : ",\x22content_price\x22:".toList = ',' :: Json.quoteChars "content_price" ++ [':'] := rfl
  have hclose : "\x7d".toList = ['\x7d'] := rfl
  apply String.toList_inj.mp
  simp only [textWith, String.toList_join, List.flatMap_cons, List.flatMap_nil, huuid, hkey,
    hsource, hprice, hclose, Json.quote, Json.compact, String.toList_ofList, toJson,
    Json.compactChars, Json.compactMembers, List.append_assoc, List.cons_append, List.nil_append]

/-- **Metadata with a whole price is read back with a price of the same amount.** -/
theorem exists_readsBack {m : ContentMetadata} {n : ℤ} (hfits : Text.Fits64 n)
    (hprice : m.price.amount = n) :
    ∃ price : Decimal, record.decoder.ReadsBack 1 m.toJson { m with price } ∧
      price.amount = m.price.amount := by
  obtain ⟨price, hread, hamount⟩ := Decimal.exists_readsBack hfits 0
  refine ⟨price, ?_, hamount.trans hprice.symm⟩
  rw [toJson, Decimal.toNumber_eq_int_iff.mpr ⟨hfits, hprice⟩]
  exact (Json.Record.readsBack_required "content_uuid"
    (Json.Decoder.readsBack_uuid 0 m.contentUuid)).map mk
    |>.seq (Json.Record.readsBack_required "content_key" (Json.Decoder.readsBack_string 0 m.contentKey))
    |>.seq (Json.Record.readsBack_required "source" (Json.Decoder.readsBack_string 0 m.source))
    |>.seq (Json.Record.readsBack_required "content_price" hread)
    |>.object (by decide)

end ContentMetadata

/-- **Whole prices are quoted without loss.** The text of metadata shows an integer as the price exactly
if the price is that integer and fits 64 bits, whatever sign, digits and scale it comes with. A client
then has the identifier, the key and the source of the metadata back, and a price of the same amount. -/
theorem whole_prices_quoted_without_loss (m : ContentMetadata) :
    m.toJson.compact = m.textWith (Json.numberText m.price.toNumber) ∧
    (∀ n : ℤ, Text.SpellsInt (Json.numberText m.price.toNumber).toList n ↔
      Text.Fits64 n ∧ m.price.amount = n) ∧
    ∀ n : ℤ, Text.Fits64 n → m.price.amount = n →
      m.toJson.compact = m.textWith (Text.ofInt n) ∧
      ∃ price : Decimal, price.amount = m.price.amount ∧
        Json.decode ContentMetadata.record.decoder m.toJson.compact = .ok { m with price } ∧
        Console.Client.readAnswer ContentMetadata.record.decoder (.ok (.ofJson 200 m.toJson)) =
          .ok { m with price } := by
  refine ⟨m.compact_toJson, fun n => Decimal.spellsInt_text_iff, fun n hfits hprice => ⟨?_, ?_⟩⟩
  · rw [m.compact_toJson, Decimal.toNumber_eq_int_iff.mpr ⟨hfits, hprice⟩, Json.numberText]
  · obtain ⟨price, hread, hamount⟩ := ContentMetadata.exists_readsBack hfits hprice
    exact ⟨price, hamount, hread.decode (by decide),
      Console.Client.readAnswer_ofJson hread (by decide) (by decide)⟩

/-- The least price that is shown as an integer, with nine decimals of zeros, of content with quotes and
a line break in its key. -/
def ContentMetadata.cheapest : ContentMetadata where
  contentUuid := Uuid.nil
  contentKey := "\"k\"\n"
  source := ContentMetadata.ownSource
  price := ⟨true, 9223372036854775808000000000, 9, by decide, by decide⟩

theorem whole_prices_quoted_without_loss_cheapest :
    Text.Fits64 Text.minInt64 ∧ ContentMetadata.cheapest.price.amount = Text.minInt64 ∧
      ContentMetadata.cheapest.toJson.compact =
        ContentMetadata.cheapest.textWith (Text.ofInt Text.minInt64) ∧
      ∃ price : Decimal, price.amount = Text.minInt64 ∧
        Console.Client.readAnswer ContentMetadata.record.decoder
            (.ok (.ofJson 200 ContentMetadata.cheapest.toJson)) =
          .ok { ContentMetadata.cheapest with price } := by
  have hfits : Text.Fits64 Text.minInt64 := ⟨by decide, by decide⟩
  have hprice : ContentMetadata.cheapest.price.amount = Text.minInt64 :=
    Decimal.amount_eq_intCast_iff.mpr (by decide)
  obtain ⟨htext, price, hamount, -, hread⟩ :=
    (whole_prices_quoted_without_loss .cheapest).2.2 Text.minInt64 hfits hprice
  exact ⟨hfits, hprice, htext, price, hamount.trans hprice, hread⟩

end Bursar
