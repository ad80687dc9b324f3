import Bursar.Console.Client
import Bursar.Proofs.Service.Complaints

/-!
# Refusals are shown in the words of the service

The body of a refusal is one of four: an object with the member `detail` or `Error`, the
complaints about fields, or a mere string. A command line that has only the text of the
body guesses which it is, and shows what is for people in it: `Console.Client.refusalText`
gives the wording of the refusal, whatever is in the wording
(`Console.Client.refusalText_body`). What is not there is "Not found." to everyone, and
complaints are shown as they came.

The complaints of a refusal are sorted by field (`ServiceError.IsSorted`); those that the
service makes are.
-/

namespace Bursar

open Json

namespace ServiceError

/-! ## Bodies -/

/-- What is shown of a refusal. -/
def shown : ServiceError → String
  | .notFound _ _ | .ledger (.notFound _) | .spend (.ledger (.notFound _)) => notFoundDetail
  | .fields complaints => (fieldsBody complaints).compact
  | e => e.message

/-- A body is a string, an object with the string as its only member, or the complaints. -/
theorem body_cases (e : ServiceError) :
    e.body = .string e.shown ∨ (∃ key ∈ ["detail", "Error"], e.body = .object [(key, .string e.shown)]) ∨
      ∃ complaints, e = .fields complaints := by
  have hdetail : "detail" ∈ ["detail", "Error"] := List.mem_cons_self
  cases e with
  | validation reason => exact .inr (.inl ⟨"Error", by simp, rfl⟩)
  | fields complaints => exact .inr (.inr ⟨complaints, rfl⟩)
  | notFound resource id => exact .inr (.inl ⟨_, hdetail, rfl⟩)
  | unauthorized reason => exact .inr (.inl ⟨_, hdetail, rfl⟩)
  | forbidden reason => exact .inr (.inl ⟨_, hdetail, rfl⟩)
  | internal reason => exact .inr (.inl ⟨_, hdetail, rfl⟩)
  | ledger e => cases e <;> exact .inr (.inl ⟨_, hdetail, rfl⟩)
  | spend e =>
    cases e with
    | ledger e => cases e <;> exact .inr (.inl ⟨_, hdetail, rfl⟩)
    | pricing e => exact .inl rfl
    | enrollment e => exact .inr (.inl ⟨_, hdetail, rfl⟩)
    | aborted detail => exact .inr (.inl ⟨_, hdetail, rfl⟩)
  | metadata e => exact .inl rfl

/-! ## Complaints in JSON -/

theorem exact_texts (texts : List String) : AllExact (texts.map .string) := by
  induction texts with
  | nil => trivial
  | cons text texts ih => exact ⟨trivial, ih⟩

theorem sorted_texts (texts : List String) : AllSorted (texts.map .string) := by
  induction texts with
  | nil => trivial
  | cons text texts ih => exact ⟨trivial, ih⟩

theorem nesting_texts (texts : List String) : nestingOfItems (texts.map .string) = 0 := by
  induction texts with
  | nil => rfl
  | cons text texts ih => simp [nestingOfItems, nesting, ih]

theorem exact_fieldsBody (complaints : List (String × List String)) : (fieldsBody complaints).IsExact := by
  rw [fieldsBody, IsExact]
  induction complaints with
  | nil => trivial
  | cons c complaints ih => exact ⟨exact_texts c.2, ih⟩

theorem sorted_fieldsBody {complaints : List (String × List String)} (h : KeysSorted complaints) :
    (fieldsBody complaints).IsSorted := by
  refine ⟨?_, ?_⟩
  · rw [KeysSorted, List.map_map]
    exact h
  · clear h
    induction complaints with
    | nil => trivial
    | cons c complaints ih => exact ⟨sorted_texts c.2, ih⟩

theorem nesting_fieldsBody (complaints : List (String × List String)) :
    (fieldsBody complaints).nesting ≤ 2 := by
  rw [fieldsBody, nesting]
  refine Nat.succ_le_succ ?_
  induction complaints with
  | nil => exact Nat.zero_le 1
  | cons c complaints ih =>
    refine Nat.max_le.mpr ⟨?_, ih⟩
    rw [nesting, nesting_texts]

/-- No complaint is a mere string. -/
theorem lookup_fieldsBody_ne {complaints : List (String × List String)} {key text : String} :
    (complaints.map fun (name, texts) => (name, Json.array (texts.map .string))).lookup key ≠
      some (.string text) := by
  intro h
  obtain ⟨before, after, hmembers, -⟩ := List.lookup_eq_some_iff.mp h
  have hmem : (key, Json.string text) ∈
      complaints.map fun (name, texts) => (name, Json.array (texts.map .string)) := by
    rw [hmembers]
    exact List.mem_append_right _ List.mem_cons_self
  obtain ⟨c, -, hc⟩ := List.mem_map.mp hmem
  cases (Prod.mk.inj hc).2

end ServiceError

/-! ## What a command line makes of a body -/

namespace Console.Client

open ServiceError

theorem refusalText_string (s : String) : refusalText (Json.string s).compact = s := by
  have hparsed : Json.parse (Json.string s).compact = .ok (.string s) :=
    parse_compact trivial trivial (Nat.zero_le _)
  rw [refusalText, hparsed]

theorem refusalText_member {key : String} (h : key ∈ ["detail", "Error"]) (s : String) :
    refusalText (Json.object [(key, .string s)]).compact = s := by
  have hparsed : Json.parse (Json.object [(key, .string s)]).compact = .ok (.object [(key, .string s)]) :=
    parse_compact ⟨trivial, trivial⟩ ⟨List.pairwise_singleton _ _, trivial, trivial⟩ (by
      have hnesting : (Json.object [(key, .string s)]).nesting = 1 := rfl
      rw [hnesting]
      decide)
  rw [refusalText, hparsed]
  simp only [List.mem_cons, List.not_mem_nil, or_false] at h
  rcases h with rfl | rfl <;> rfl

theorem refusalText_fieldsBody {complaints : List (String × List String)} (h : KeysSorted complaints) :
    refusalText (fieldsBody complaints).compact = (fieldsBody complaints).compact := by
  have hparsed : Json.parse (fieldsBody complaints).compact = .ok (fieldsBody complaints) :=
    parse_compact (exact_fieldsBody _) (sorted_fieldsBody h)
      (Nat.le_trans (nesting_fieldsBody complaints) (by decide))
  rw [refusalText, hparsed]
  dsimp only [fieldsBody]
  split
  · rename_i text htext
    rcases Option.or_eq_some_iff.mp htext with hdetail | ⟨-, herror⟩
    · exact absurd hdetail lookup_fieldsBody_ne
    · exact absurd herror lookup_fieldsBody_ne
  · rfl

theorem refusalText_body {e : ServiceError} (h : e.IsSorted) : refusalText e.body.compact = e.shown := by
  rcases e.body_cases with hbody | ⟨key, hkey, hbody⟩ | ⟨complaints, rfl⟩
  · rw [hbody, refusalText_string]
  · rw [hbody, refusalText_member hkey]
  · exact refusalText_fieldsBody (h complaints rfl)

/-- **A refusal is shown in the words of the service**: with its wording, whatever is in the wording, with
"Not found." for what is not there, and with the complaints about fields as they came. So a command line
that is answered with a refusal fails with its status and these words. -/
theorem refusals_are_shown (e : ServiceError) (h : e.IsSorted) :
    refusalText e.body.compact = e.shown ∧
      ∀ {α : Type} (d : Json.Decoder α), Http.isSuccess e.status = false →
        readAnswer d (.ok (.ofJson e.status e.body)) = .error (.refused e.status e.shown) := by
  refine ⟨refusalText_body h, fun d hstatus => ?_⟩
  have hbody : (Http.Response.ofJson e.status e.body).body = e.body.compact := rfl
  have hanswer : (Http.Response.ofJson e.status e.body).status = e.status := rfl
  rw [readAnswer, hanswer, hstatus, hbody, refusalText_body h]
  rfl

/-- A reason with quotes and controls that looks like JSON itself. -/
def quotedReason : String := "\x7b\"detail\": \"\\\n\u0001é\"\x7d"

/-- What is shown if a field called `detail` is missing, and another one. -/
def bothRequired : String :=
  "\x7b\"detail\":[\"This field is required.\"],\"learner_id\":[\"This field is required.\"]\x7d"

/-- The reason is shown as it is, and so are complaints about a field that is called like the member of
another body. -/
theorem refusals_are_shown_quoted :
    (ServiceError.spend (.enrollment (.rejected quotedReason))).IsSorted ∧
      readAnswer Json.Decoder.any
          (.ok (.ofJson 500 (ServiceError.spend (.enrollment (.rejected quotedReason))).body)) =
        .error (.refused 500 ("Enrollment rejected: " ++ quotedReason)) ∧
      (missingFields ["learner_id", "detail"]).IsSorted ∧
      readAnswer Json.Decoder.any (.ok (.ofJson 400 (missingFields ["learner_id", "detail"]).body)) =
        .error (.refused 400 bothRequired) := by
  have hreason : (ServiceError.spend (.enrollment (.rejected quotedReason))).IsSorted := nofun
  have hfields := sorted_missingFields ["learner_id", "detail"]
  have hshown : (missingFields ["learner_id", "detail"]).shown = bothRequired := by decide
  refine ⟨hreason, (refusals_are_shown _ hreason).2 Json.Decoder.any (by decide), hfields, ?_⟩
  rw [← hshown]
  exact (refusals_are_shown _ hfields).2 Json.Decoder.any (by decide)

end Console.Client
end Bursar
