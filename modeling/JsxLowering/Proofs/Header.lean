import Mathlib.Data.List.Forall2
import JsxLowering.Lowering.Header

set_option autoImplicit false

/-!
What counts as the header of a program. Its comments fall into those that lead the code and
those from the first one on that ends after the code has started; of the leading ones only
the block comments are read, and of the source only what stands in these. All that is found
in a header is found in the list of their texts.
-/

namespace JsxLowering

namespace Text

/-- The text stands in the source from the byte `start` up to the byte `stop`, and both ends
fall between two characters. -/
def StandsAt (source text : List Char) (start stop : Nat) : Prop :=
  ∃ before after, source = before ++ text ++ after ∧ byteLength before = start ∧
    byteLength before + byteLength text = stop

theorem StandsAt.slice_eq {source text : List Char} {start stop : Nat}
    (stands : StandsAt source text start stop) : slice start stop source = text := by
  obtain ⟨before, after, rfl, rfl, rfl⟩ := stands
  rw [slice, List.append_assoc, dropBytes_append, Nat.add_sub_cancel_left, takeBytes_append]

end Text

/-- A list that is cut at the first failure of a condition, where nothing after a failure
meets it again. -/
theorem takeWhile_eq_filter {α : Type} {holds : α → Bool} {values : List α}
    (closed : values.Pairwise fun first second => holds second = true → holds first = true) :
    values.takeWhile holds = values.filter holds := by
  induction values with
  | nil => rfl
  | cons value rest inductionHypothesis =>
      obtain ⟨earlier, closed⟩ := List.pairwise_cons.mp closed
      by_cases met : holds value = true
      · rw [List.takeWhile_cons_of_pos met, List.filter_cons_of_pos met,
          inductionHypothesis closed]
      · have unmet : rest.filter holds = [] := by
          apply List.filter_eq_nil_iff.mpr
          intro other membership
          exact fun later => met (earlier other membership later)
        rw [List.takeWhile_cons_of_neg met, List.filter_cons_of_neg met, unmet]

namespace Program

/-- Programs with the same directives and statements. -/
structure SameCode (first second : Program) : Prop where
  directives : first.directives = second.directives
  body : first.body = second.body

/-- The comment is in range of the source, between characters, and has the given text. -/
def Holds (program : Program) (comment : Comment) (text : List Char) : Prop :=
  Text.StandsAt program.source.toList text comment.span.start.toNat comment.span.stop.toNat

/-- The comments before the code, and those from the first one on that ends after the start of
the first directive or, without directives, of the first statement. -/
structure Leads (program : Program) (leading later : List Comment) : Prop where
  comments : program.comments = leading ++ later
  before : ∀ comment ∈ leading, ∀ start, Header.firstCode? program = some start →
    comment.span.stop ≤ start
  after : ∀ comment, later.head? = some comment →
    ∃ start, Header.firstCode? program = some start ∧ start < comment.span.stop

/-- Comments in the order in which they end, as they come when a source is read. -/
def Ordered (program : Program) : Prop :=
  program.comments.Pairwise fun first second => first.span.stop ≤ second.span.stop

instance (program : Program) : Decidable program.Ordered :=
  inferInstanceAs (Decidable (List.Pairwise _ _))

end Program

namespace Header

theorem precedesCode_iff (program : Program) (comment : Comment) :
    precedesCode program comment = true ↔
      ∀ start, firstCode? program = some start → comment.span.stop ≤ start := by
  unfold precedesCode
  cases firstCode? program <;> simp

theorem precedesCode_eq_false_iff (program : Program) (comment : Comment) :
    precedesCode program comment = false ↔
      ∃ start, firstCode? program = some start ∧ start < comment.span.stop := by
  unfold precedesCode
  cases firstCode? program <;> simp

theorem leads_iff (program : Program) (leading later : List Comment) :
    program.Leads leading later ↔ program.comments = leading ++ later ∧
      leading.all (precedesCode program) = true ∧
      later.head?.any (precedesCode program) = false := by
  constructor
  · intro leads
    refine ⟨leads.comments, List.all_eq_true.mpr ?_, ?_⟩
    · intro comment membership
      exact (precedesCode_iff program comment).mpr (leads.before comment membership)
    · cases later with
      | nil => rfl
      | cons comment rest =>
          exact (precedesCode_eq_false_iff program comment).mpr (leads.after comment rfl)
  · rintro ⟨whole, before, after⟩
    refine ⟨whole, ?_, ?_⟩
    · intro comment membership
      exact (precedesCode_iff program comment).mp (List.all_eq_true.mp before comment membership)
    · intro comment first
      rw [first] at after
      exact (precedesCode_eq_false_iff program comment).mp after

instance (program : Program) (leading later : List Comment) :
    Decidable (program.Leads leading later) :=
  decidable_of_iff _ (leads_iff program leading later).symm

theorem firstCode?_congr {first second : Program} (same : first.SameCode second) :
    firstCode? first = firstCode? second := by
  rw [firstCode?, firstCode?, same.directives, same.body]

theorem comments_of_leads {program : Program} {leading later : List Comment}
    (leads : program.Leads leading later) : comments program = leading.filter (·.block) := by
  obtain ⟨whole, before, after⟩ := (leads_iff program leading later).mp leads
  have cut : later.takeWhile (precedesCode program) = [] := by
    cases later with
    | nil => rfl
    | cons comment rest =>
        apply List.takeWhile_cons_of_neg
        simpa using after
  rw [comments, whole, List.takeWhile_append_of_pos (List.all_eq_true.mp before), cut,
    List.append_nil]

/-- Where the comments are in order, line comments do not even end the header. -/
theorem comments_of_ordered {program : Program} (ordered : program.Ordered) :
    comments program = (program.comments.filter (·.block)).filter (precedesCode program) := by
  have closed : program.comments.Pairwise fun first second =>
      precedesCode program second = true → precedesCode program first = true := by
    apply ordered.imp
    intro first second earlier preceding
    rw [precedesCode_iff] at preceding ⊢
    intro start code
    exact UInt32.le_trans earlier (preceding start code)
  rw [comments, takeWhile_eq_filter closed, List.filter_comm]

theorem commentText_of_holds {program : Program} {comment : Comment} {text : List Char}
    (holds : program.Holds comment text) : commentText program comment = text :=
  holds.slice_eq

/-- The texts of the block comments of the header. -/
def texts (program : Program) : List (List Char) :=
  (comments program).map (commentText program)

theorem findings_eq (program : Program) :
    findings program = (texts program).flatMap scanComment := by
  rw [findings, texts, List.flatMap_map]

theorem texts_eq_of_leads {first second : Program} {leading later leading' later' : List Comment}
    (left : first.Leads leading later) (right : second.Leads leading' later')
    (alike : List.Forall₂
      (fun comment other => ∃ text, first.Holds comment text ∧ second.Holds other text)
      (leading.filter (·.block)) (leading'.filter (·.block))) :
    texts first = texts second := by
  have equal : List.Forall₂ (fun comment other => commentText first comment =
      commentText second other) (leading.filter (·.block)) (leading'.filter (·.block)) := by
    apply alike.imp
    rintro comment other ⟨text, here, there⟩
    rw [commentText_of_holds here, commentText_of_holds there]
  rw [texts, texts, comments_of_leads left, comments_of_leads right, ← List.forall₂_eq_eq_eq,
    List.forall₂_map_left_iff, List.forall₂_map_right_iff]
  exact equal

theorem texts_eq_of_ordered {first second : Program} (code : first.SameCode second)
    (left : first.Ordered) (right : second.Ordered) (source : first.source = second.source)
    (blocks : first.comments.filter (·.block) = second.comments.filter (·.block)) :
    texts first = texts second := by
  have preceding : precedesCode first = precedesCode second := by
    funext comment
    rw [precedesCode, precedesCode, firstCode?_congr code]
  have text : commentText first = commentText second := by
    funext comment
    rw [commentText, commentText, source]
  rw [texts, texts, comments_of_ordered left, comments_of_ordered right, blocks, preceding, text]

end Header

end JsxLowering
