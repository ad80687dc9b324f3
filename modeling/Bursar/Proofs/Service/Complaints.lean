import Bursar.Proofs.Json.Sorted
import Bursar.Service.Error

/-!
# Complaints about fields

A refused body is answered with complaints about its fields, sorted by field
(`ServiceError.IsSorted`). However missing fields are listed, each of them is complained
about, and no other (`ServiceError.missingFields_eq_fields`).
-/

namespace Bursar

open Json

namespace ServiceError

variable {field : String} {texts : List String} {complaints : List (String × List String)}

/-- Complaints, if there are any, are sorted by field. -/
def IsSorted (e : ServiceError) : Prop := ∀ complaints, e = .fields complaints → KeysSorted complaints

theorem mem_putField {m : String × List String} (h : m ∈ putField field texts complaints) :
    m = (field, texts) ∨ m ∈ complaints := by
  induction complaints with
  | nil => exact .inl (List.mem_singleton.mp h)
  | cons c complaints ih =>
    unfold putField at h
    split at h
    · exact List.mem_cons.mp h
    split at h
    · exact (List.mem_cons.mp h).imp id (List.mem_cons_of_mem _)
    · rcases List.mem_cons.mp h with rfl | h
      · exact .inr List.mem_cons_self
      · exact (ih h).imp id (List.mem_cons_of_mem _)

/-- Complaints stay sorted when those about a field are put in. -/
theorem keysSorted_putField (h : KeysSorted complaints) (field : String) (texts : List String) :
    KeysSorted (putField field texts complaints) := by
  induction complaints with
  | nil => simp [putField, KeysSorted]
  | cons c complaints ih =>
    obtain ⟨hfirst, hrest⟩ := keysSorted_cons_iff.mp h
    unfold putField
    by_cases hlt : field < c.1
    · rw [if_pos hlt]
      refine keysSorted_cons_iff.mpr ⟨fun m hm => ?_, h⟩
      rcases List.mem_cons.mp hm with rfl | hm
      · exact hlt
      · exact hlt.trans (hfirst m hm)
    rw [if_neg hlt]
    by_cases heq : field = c.1
    · rw [if_pos heq]
      exact keysSorted_cons_iff.mpr ⟨fun m hm => heq ▸ hfirst m hm, hrest⟩
    · rw [if_neg heq]
      have hgt : c.1 < field := lt_of_le_of_ne (not_lt.mp hlt) (Ne.symm heq)
      refine keysSorted_cons_iff.mpr ⟨fun m hm => ?_, ih hrest⟩
      rcases mem_putField hm with rfl | hm
      · exact hgt
      · exact hfirst m hm

/-- The complaints about missing fields are sorted, however these are listed. -/
theorem sorted_missingFields (names : List String) : (missingFields names).IsSorted := by
  have hkeys : ∀ known, KeysSorted known →
      KeysSorted (names.foldl (fun known name => putField name [fieldRequired] known) known) := by
    induction names with
    | nil => exact fun _ h => h
    | cons name names ih => exact fun known h => ih _ (keysSorted_putField h name _)
  rintro complaints ⟨⟩
  exact hkeys [] .nil

/-! ## Missing fields -/

/-- What is put in stands there, with what was there before. -/
theorem mem_putField_iff {m : String × List String}
    (h : ∀ c ∈ complaints, c.1 = field → c.2 = texts) :
    m ∈ putField field texts complaints ↔ m = (field, texts) ∨ m ∈ complaints := by
  refine ⟨mem_putField, fun hm => ?_⟩
  induction complaints with
  | nil => exact List.mem_singleton.mpr (hm.resolve_right (List.not_mem_nil))
  | cons c complaints ih =>
    unfold putField
    split
    · exact List.mem_cons.mpr hm
    split
    · -- the same complaint stood there
      rename_i heq
      have hsame : c = (field, texts) := Prod.ext heq.symm (h c List.mem_cons_self heq.symm)
      rw [hsame, List.mem_cons, or_self_left] at hm
      exact List.mem_cons.mpr hm
    · rcases hm with hm | hm
      · exact List.mem_cons_of_mem _ (ih (fun c hc => h c (List.mem_cons_of_mem _ hc)) (.inl hm))
      · rcases List.mem_cons.mp hm with rfl | hm
        · exact List.mem_cons_self
        · exact List.mem_cons_of_mem _ (ih (fun c hc => h c (List.mem_cons_of_mem _ hc)) (.inr hm))

/-- **Each missing field is complained about**, and nothing else is. -/
theorem missingFields_eq_fields (names : List String) : ∃ complaints,
    missingFields names = .fields complaints ∧ KeysSorted complaints ∧
      ∀ field texts, (field, texts) ∈ complaints ↔ field ∈ names ∧ texts = [fieldRequired] := by
  have hnamed : ∀ known : List (String × List String), (∀ c ∈ known, c.2 = [fieldRequired]) →
      ∀ m, m ∈ names.foldl (fun known name => putField name [fieldRequired] known) known ↔
        m.1 ∈ names ∧ m.2 = [fieldRequired] ∨ m ∈ known := by
    induction names with
    | nil => simp
    | cons name names ih =>
      intro known hknown m
      have hput {c : String × List String} : c ∈ putField name [fieldRequired] known ↔
          c = (name, [fieldRequired]) ∨ c ∈ known := by
        apply mem_putField_iff
        intro c hc _
        exact hknown c hc
      have hnext : ∀ c ∈ putField name [fieldRequired] known, c.2 = [fieldRequired] := by
        intro c hc
        rcases hput.mp hc with rfl | hc
        · rfl
        · exact hknown c hc
      rw [List.foldl_cons, ih _ hnext, hput, List.mem_cons, Prod.ext_iff]
      tauto
  refine ⟨_, rfl, sorted_missingFields names _ rfl, fun field texts => ?_⟩
  rw [hnamed [] (by simp)]
  simp

end ServiceError
end Bursar
