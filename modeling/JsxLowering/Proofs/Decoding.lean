import JsxLowering.Entity
import JsxLowering.Proofs.Trimming

set_option autoImplicit false

/-!
Character references and white space do not meet. White space neither opens nor closes a
reference, so that around a text it is decoded as itself, even after a reference that is left
open. A text child is trimmed in its value and in its source text apart, and yet the value stays
what its source text stands for, up to white space that the source writes as references.
-/

namespace JsxLowering

namespace Text

theorem AllBlank.notMem {gap : List Char} (blank : AllBlank gap) {c : Char}
    (solid : isBlank c = false) : c ∉ gap := by
  intro membership
  simp [blank c membership] at solid

/-- Cutting a text takes white space around it away, and what is left is the same for every text
in that white space. -/
def CutsGaps (cut : List Char → List Char) : Prop :=
  ∀ text, ∃ front back, text = front ++ cut text ++ back ∧ AllBlank front ∧ AllBlank back ∧
    ∀ other, cut (front ++ other ++ back) = cut other

theorem cutsGaps_strip (side : Side) : CutsGaps side.strip := by
  have nothing : AllBlank [] := by simp [AllBlank]
  intro text
  cases side with
  | first =>
      obtain ⟨gap, whole, blank, _⟩ := Side.first.strips_strip text
      refine ⟨gap, [], by simpa using whole, blank, nothing, ?_⟩
      intro other
      rw [List.append_nil]
      exact trimStart_append blank other
  | last =>
      obtain ⟨gap, whole, blank, _⟩ := Side.last.strips_strip text
      exact ⟨[], gap, whole, nothing, blank, trimEnd_append blank⟩

theorem trim_append_gaps {front back : List Char} (before : AllBlank front)
    (after : AllBlank back) (text : List Char) : trim (front ++ text ++ back) = trim text := by
  by_cases blank : AllBlank text
  · have whole : AllBlank (front ++ text ++ back) :=
      allBlank_append.mpr ⟨allBlank_append.mpr ⟨before, blank⟩, after⟩
    rw [trim_eq_nil_iff.mpr whole, trim_eq_nil_iff.mpr blank]
  · -- What ends the white space at the start is in the text, so that the end stays apart.
    have started : trimStart (text ++ back) = trimStart text ++ back := by
      have solid : trimStart text ≠ [] := mt trimStart_eq_nil_iff.mp blank
      unfold trimStart at solid ⊢
      rw [List.dropWhile_append, if_neg (by simpa using solid)]
    rw [trim, List.append_assoc, trimStart_append before, started, trimEnd_append after, trim]

theorem cutsGaps_trim : CutsGaps trim := by
  intro text
  obtain ⟨front, whole, before, _⟩ := Side.first.strips_strip text
  obtain ⟨back, rest, after, _⟩ := Side.last.strips_strip (trimStart text)
  refine ⟨front, back, ?_, before, after, trim_append_gaps before after⟩
  calc
    text = front ++ trimStart text := whole
    _ = front ++ (trim text ++ back) := congrArg (front ++ ·) rest
    _ = front ++ trim text ++ back := (List.append_assoc ..).symm

end Text

namespace Entity

/-! Outside of a reference every character but the ampersand stands for itself. -/

theorem decodeFrom_none_append {front : List Char} (plain : '&' ∉ front) (rest : List Char) :
    decodeFrom none (front ++ rest) = front ++ decodeFrom none rest := by
  induction front with
  | nil => rfl
  | cons c front inductionHypothesis =>
      rw [List.mem_cons, not_or] at plain
      rw [List.cons_append, decodeFrom, if_neg (Ne.symm plain.1), inductionHypothesis plain.2,
        List.cons_append]

theorem decodeFrom_none_of_notMem {text : List Char} (plain : '&' ∉ text) :
    decodeFrom none text = text := by
  simpa [decodeFrom] using decodeFrom_none_append plain []

/-- Returning a text without an ampersand at once is no more than a shortcut. -/
theorem decode_eq (text : List Char) : decode text = decodeFrom none text := by
  by_cases contained : '&' ∈ text
  · simp [decode, contained]
  · simp [decode, contained, decodeFrom_none_of_notMem contained]

theorem decodeFrom_some_of_notMem {gap : List Char} (unopened : '&' ∉ gap)
    (unclosed : ';' ∉ gap) (held : List Char) :
    decodeFrom (some held) gap = '&' :: held.reverse ++ gap := by
  induction gap generalizing held with
  | nil => simp [decodeFrom]
  | cons c gap inductionHypothesis =>
      rw [List.mem_cons, not_or] at unopened unclosed
      rw [decodeFrom, if_neg (Ne.symm unopened.1), if_neg (Ne.symm unclosed.1),
        inductionHypothesis unopened.2 unclosed.2]
      simp

/-- In every state of the scan, an end that neither opens nor closes a reference stays. -/
theorem decodeFrom_append {gap : List Char} (unopened : '&' ∉ gap) (unclosed : ';' ∉ gap)
    (held : Option (List Char)) (text : List Char) :
    decodeFrom held (text ++ gap) = decodeFrom held text ++ gap := by
  induction held, text using decodeFrom.induct with
  | case1 => simp [decodeFrom, decodeFrom_none_of_notMem unopened]
  | case2 rest opened => simp [decodeFrom, opened]
  | case3 c rest other passed => simp [decodeFrom, other, passed]
  | case4 held => simp [decodeFrom, decodeFrom_some_of_notMem unopened unclosed]
  | case5 held rest reopened => simp [decodeFrom, reopened]
  | case6 held rest decoded valid _ closed => simp [decodeFrom, valid, closed]
  | case7 held rest invalid _ closed => simp [decodeFrom, invalid, closed]
  | case8 held c rest other unfinished continued =>
      simp [decodeFrom, other, unfinished, continued]

theorem decodeFrom_some_ne_nil (held text : List Char) : decodeFrom (some held) text ≠ [] := by
  induction text generalizing held with
  | nil => simp [decodeFrom]
  | cons c rest inductionHypothesis =>
      rw [decodeFrom]
      split
      · simp
      · split
        · split <;> simp
        · exact inductionHypothesis (c :: held)

theorem decode_ne_nil {text : List Char} (nonempty : text ≠ []) : decode text ≠ [] := by
  obtain ⟨c, rest, rfl⟩ := List.exists_cons_of_ne_nil nonempty
  rw [decode_eq, decodeFrom]
  split
  · exact decodeFrom_some_ne_nil [] rest
  · simp

theorem decode_append_gaps {front back : List Char} (before : Text.AllBlank front)
    (after : Text.AllBlank back) (text : List Char) :
    decode (front ++ text ++ back) = front ++ decode text ++ back := by
  rw [decode_eq, decode_eq, List.append_assoc, decodeFrom_none_append (before.notMem rfl),
    decodeFrom_append (after.notMem rfl) (after.notMem rfl), List.append_assoc]

theorem decode_of_blank {text : List Char} (blank : Text.AllBlank text) : decode text = text := by
  rw [decode_eq, decodeFrom_none_of_notMem (blank.notMem rfl)]

/-- Cutting before decoding takes away nothing that cutting afterwards would not. -/
theorem cut_decode {cut : List Char → List Char} (cuts : Text.CutsGaps cut) (raw : List Char) :
    cut (decode raw) = cut (decode (cut raw)) := by
  obtain ⟨front, back, whole, before, after, same⟩ := cuts raw
  calc
    cut (decode raw) = cut (decode (front ++ cut raw ++ back)) := by rw [← whole]
    _ = cut (front ++ decode (cut raw) ++ back) := by rw [decode_append_gaps before after]
    _ = cut (decode (cut raw)) := same _

end Entity

namespace TextChild

/-- Trimming on a side keeps the text as it is or replaces it, so that `after` is left. -/
def Leaves (side : Side) (sole : Bool) (content after : TextChild) : Prop :=
  content.trim side sole = .keep ∧ after = content ∨ content.trim side sole = .replace after

variable {content after : TextChild}

theorem loses_of_leaves {side : Side} {sole : Bool} (solid : ¬ Text.AllBlank content.value)
    (leaves : content.Leaves side sole after) : content.Loses side after := by
  obtain ⟨result, loses, decided⟩ := trim_of_solid solid side sole
  have same : result = after := by
    rcases decided with ⟨kept, rfl⟩ | replaced <;> rcases leaves with ⟨keeps, rfl⟩ | replaces
    · rfl
    · cases kept.symm.trans replaces
    · cases keeps.symm.trans replaced
    · cases replaced.symm.trans replaces
      rfl
  exact same ▸ loses

theorem step_of_cut {cut : List Char → List Char} (cuts : Text.CutsGaps cut)
    (decoded : content.value = Entity.decode content.raw) (raw : after.raw = cut content.raw)
    (value : after.value = cut content.value) :
    after.raw = cut content.raw ∧ after.value = cut (Entity.decode after.raw) := by
  refine ⟨raw, ?_⟩
  rw [value, decoded, raw]
  exact Entity.cut_decode cuts content.raw

theorem step_of_leaves {side : Side} {sole : Bool}
    (decoded : content.value = Entity.decode content.raw)
    (solid : ¬ Text.AllBlank content.value) (leaves : content.Leaves side sole after) :
    after.raw = side.strip content.raw ∧ after.value = side.strip (Entity.decode after.raw) := by
  have loses := loses_of_leaves solid leaves
  exact step_of_cut (Text.cutsGaps_strip side) decoded loses.raw.eq_strip loses.value.eq_strip

theorem step_of_leaves_twice {between : TextChild} {alone sole : Bool}
    (decoded : content.value = Entity.decode content.raw)
    (solid : ¬ Text.AllBlank content.value) (start : content.Leaves .first alone between)
    (stop : between.Leaves .last sole after) :
    after.raw = Text.trim content.raw ∧ after.value = Text.trim (Entity.decode after.raw) := by
  have left := loses_of_leaves solid start
  have right := loses_of_leaves (left.solid solid) stop
  apply step_of_cut Text.cutsGaps_trim decoded
  · rw [right.raw.eq_strip, left.raw.eq_strip]
    rfl
  · rw [right.value.eq_strip, left.value.eq_strip]
    rfl

/-- Decoding and trimming keep step. White space around a text is decoded as itself, and nothing is
decoded to nothing. Where the value of a text is what its source text decodes to, trimming leaves
the trimmed source text and the trimmed value of that, on one side or on both; and source text that
is nothing but white space makes a blank text. -/
theorem trim_keeps_step_with_decode :
    (∀ front text back, Text.AllBlank front → Text.AllBlank back →
      Entity.decode (front ++ text ++ back) = front ++ Entity.decode text ++ back) ∧
    (∀ text, text ≠ [] → Entity.decode text ≠ []) ∧
    (∀ content : TextChild, content.value = Entity.decode content.raw →
      (¬ Text.AllBlank content.value →
        (∀ side sole after, content.Leaves side sole after →
          after.raw = side.strip content.raw ∧
            after.value = side.strip (Entity.decode after.raw)) ∧
        (∀ alone sole between after, content.Leaves .first alone between →
          between.Leaves .last sole after →
          after.raw = Text.trim content.raw ∧
            after.value = Text.trim (Entity.decode after.raw))) ∧
      (Text.AllBlank content.raw → ∀ side sole,
        content.trim side sole = if sole then .replace content.blanked else .remove)) := by
  refine ⟨fun _ text _ before after => Entity.decode_append_gaps before after text,
    fun _ => Entity.decode_ne_nil, fun content decoded => ⟨fun solid => ⟨?_, ?_⟩, ?_⟩⟩
  · exact fun side sole after leaves => step_of_leaves decoded solid leaves
  · exact fun alone sole between after start stop =>
      step_of_leaves_twice decoded solid start stop
  · intro blank side sole
    apply trim_of_blank
    rw [decoded, Entity.decode_of_blank blank]
    exact blank

/-- A text that starts with white space of which some is written as a reference, and ends with
white space after a reference that is left open. -/
def unclosed : TextChild :=
  ⟨⟨0, 12⟩, [' ', '\u00a0', 'a', ' ', '&', 'b', ' '],
    [' ', '&', '#', '1', '6', '0', ';', 'a', ' ', '&', 'b', ' ']⟩

theorem trim_keeps_step_with_decode_unclosed :
    unclosed.value = Entity.decode unclosed.raw ∧ ¬ Text.AllBlank unclosed.value ∧
    ∃ between after, unclosed.Leaves .first true between ∧ between.Leaves .last true after ∧
      after.raw = ['&', '#', '1', '6', '0', ';', 'a', ' ', '&', 'b'] ∧
      after.value = ['a', ' ', '&', 'b'] := by
  have decoded : unclosed.value = Entity.decode unclosed.raw := by decide
  have solid : ¬ Text.AllBlank unclosed.value := by
    intro blank
    exact absurd (blank 'a' (by decide)) (by decide)
  let between : TextChild :=
    ⟨⟨1, 12⟩, ['a', ' ', '&', 'b', ' '],
      ['&', '#', '1', '6', '0', ';', 'a', ' ', '&', 'b', ' ']⟩
  let after : TextChild :=
    ⟨⟨1, 11⟩, ['a', ' ', '&', 'b'], ['&', '#', '1', '6', '0', ';', 'a', ' ', '&', 'b']⟩
  have start : unclosed.Leaves .first true between := .inr (by decide)
  have stop : between.Leaves .last true after := .inr (by decide)
  obtain ⟨_, both⟩ := (trim_keeps_step_with_decode.2.2 unclosed decoded).1 solid
  obtain ⟨raw, value⟩ := both true true between after start stop
  exact ⟨decoded, solid, between, after, start, stop, raw.trans (by decide),
    value.trans (by decide)⟩

end TextChild

end JsxLowering
