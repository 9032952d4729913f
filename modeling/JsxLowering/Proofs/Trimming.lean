import Mathlib.Data.List.Basic
import Mathlib.Data.List.TakeWhile
import JsxLowering.Lowering.Child

set_option autoImplicit false

/-!
Normalising a list of children loses nothing but white space at its two ends, and never
empties a list. Text at an end is stripped of the white space on its outer side; text that is
nothing but white space goes away where another child is left, and is emptied where none is.
The start is trimmed before the end, so that it is the shortened list that the last child may
be alone in.
-/

namespace JsxLowering

namespace Text

/-- There is nothing but white space in the text. -/
def AllBlank (text : List Char) : Prop := ∀ c ∈ text, isBlank c = true

theorem allBlank_append {first second : List Char} :
    AllBlank (first ++ second) ↔ AllBlank first ∧ AllBlank second :=
  List.forall_mem_append

theorem trimStart_eq_nil_iff {text : List Char} : trimStart text = [] ↔ AllBlank text :=
  List.dropWhile_eq_nil_iff

theorem head?_trimStart {text : List Char} {c : Char} (there : (trimStart text).head? = some c) :
    isBlank c = false := by
  unfold trimStart at there
  have found := List.head?_dropWhile_not isBlank text
  rw [there] at found
  simpa using found

theorem trimStart_append {gap : List Char} (blank : AllBlank gap) (text : List Char) :
    trimStart (gap ++ text) = trimStart text :=
  List.dropWhile_append_of_pos blank

theorem trimEnd_append {gap : List Char} (blank : AllBlank gap) (text : List Char) :
    trimEnd (text ++ gap) = trimEnd text := by
  have reversed : AllBlank gap.reverse := by simpa [AllBlank] using blank
  rw [trimEnd, List.reverse_append, trimStart_append reversed, trimEnd]

end Text

namespace Side

/-- There is no white space on this side of the text. -/
def Bare : Side → List Char → Prop
  | first, text => ∀ c, text.head? = some c → Text.isBlank c = false
  | last, text => ∀ c, text.getLast? = some c → Text.isBlank c = false

/-- One text is the other without the white space on a side, and without anything else. -/
def Strips : Side → List Char → List Char → Prop
  | first, before, after => ∃ gap, before = gap ++ after ∧ Text.AllBlank gap ∧ first.Bare after
  | last, before, after => ∃ gap, before = after ++ gap ∧ Text.AllBlank gap ∧ last.Bare after

theorem strips_strip (side : Side) (text : List Char) : side.Strips text (side.strip text) := by
  have start : ∀ text : List Char, first.Strips text (Text.trimStart text) := by
    intro text
    refine ⟨text.takeWhile Text.isBlank, List.takeWhile_append_dropWhile.symm, ?_, ?_⟩
    · exact fun c membership => List.mem_takeWhile_imp membership
    · exact fun c => Text.head?_trimStart
  cases side with
  | first => exact start text
  | last =>
      obtain ⟨gap, whole, blank, edge⟩ := start text.reverse
      refine ⟨gap.reverse, ?_, ?_, ?_⟩
      · rw [strip, Text.trimEnd, ← List.reverse_append, ← whole, List.reverse_reverse]
      · exact fun c membership => blank c (List.mem_reverse.mp membership)
      · intro c there
        rw [strip, Text.trimEnd, List.getLast?_reverse] at there
        exact edge c there

/-- There is only one way to strip a text. -/
theorem Strips.eq_strip {side : Side} {before after : List Char}
    (strips : side.Strips before after) : after = side.strip before := by
  have start : ∀ text : List Char, (∀ c, text.head? = some c → Text.isBlank c = false) →
      Text.trimStart text = text := by
    intro text edge
    cases text with
    | nil => rfl
    | cons c rest => simp [Text.trimStart, edge c rfl]
  cases side with
  | first =>
      obtain ⟨gap, rfl, blank, edge⟩ := strips
      rw [strip, Text.trimStart_append blank, start after edge]
  | last =>
      obtain ⟨gap, rfl, blank, edge⟩ := strips
      rw [strip, Text.trimEnd_append blank, Text.trimEnd, start, List.reverse_reverse]
      simpa [Bare] using edge

theorem Strips.allBlank_iff {side : Side} {before after : List Char}
    (strips : side.Strips before after) : Text.AllBlank before ↔ Text.AllBlank after := by
  cases side with
  | first =>
      obtain ⟨gap, rfl, blank, _⟩ := strips
      rw [Text.allBlank_append, and_iff_right blank]
  | last =>
      obtain ⟨gap, rfl, blank, _⟩ := strips
      rw [Text.allBlank_append, and_iff_left blank]

theorem Strips.sublist {side : Side} {before after : List Char}
    (strips : side.Strips before after) : after.Sublist before := by
  cases side with
  | first =>
      obtain ⟨gap, rfl, _⟩ := strips
      exact List.sublist_append_right gap after
  | last =>
      obtain ⟨gap, rfl, _⟩ := strips
      exact List.sublist_append_left after gap

theorem Strips.byteLength_le {side : Side} {before after : List Char}
    (strips : side.Strips before after) : Text.byteLength after ≤ Text.byteLength before := by
  cases side with
  | first =>
      obtain ⟨gap, rfl, _⟩ := strips
      simp
  | last =>
      obtain ⟨gap, rfl, _⟩ := strips
      simp

@[simp]
theorem narrow_zero (side : Side) (span : Span) : side.narrow span 0 = span := by
  cases side <;> simp [narrow, Span.dropStart, Span.dropEnd]

end Side

theorem Text.trim_eq_nil_iff {text : List Char} : trim text = [] ↔ AllBlank text := by
  constructor
  · intro empty
    have nothing : AllBlank (trim text) := by simp [empty, AllBlank]
    exact (Side.first.strips_strip text).allBlank_iff.mpr
      ((Side.last.strips_strip _).allBlank_iff.mpr nothing)
  · intro blank
    rw [trim, trimStart_eq_nil_iff.mpr blank]
    rfl

namespace TextChild

/-- One text child is the other without the white space on a side. The value and the source text
lose theirs each, and the span as many bytes as the source text. -/
structure Loses (side : Side) (before after : TextChild) : Prop where
  value : side.Strips before.value after.value
  raw : side.Strips before.raw after.raw
  span : after.span =
    side.narrow before.span (Text.byteLength before.raw - Text.byteLength after.raw)

theorem Loses.solid {side : Side} {before after : TextChild} (loses : before.Loses side after)
    (solid : ¬ Text.AllBlank before.value) : ¬ Text.AllBlank after.value :=
  mt loses.value.allBlank_iff.mpr solid

theorem trim_of_blank {content : TextChild} (blank : Text.AllBlank content.value) (side : Side)
    (sole : Bool) :
    content.trim side sole = if sole then .replace content.blanked else .remove := by
  rw [trim, if_pos (Text.trim_eq_nil_iff.mpr blank)]

/-- A text with something in it is kept or replaced, and loses the white space on one side. -/
theorem trim_of_solid {content : TextChild} (solid : ¬ Text.AllBlank content.value) (side : Side)
    (sole : Bool) :
    ∃ after, Loses side content after ∧
      (content.trim side sole = .keep ∧ after = content ∨
        content.trim side sole = .replace after) := by
  have value := side.strips_strip content.value
  have raw := side.strips_strip content.raw
  rw [trim, if_neg (mt Text.trim_eq_nil_iff.mp solid)]
  dsimp only
  split
  next same =>
    rw [raw.sublist.eq_of_length same.1] at raw
    rw [value.sublist.eq_of_length same.2] at value
    exact ⟨content, ⟨value, raw, by simp⟩, .inl ⟨rfl, rfl⟩⟩
  next _ => exact ⟨_, ⟨value, raw, rfl⟩, .inr rfl⟩

end TextChild

namespace LoweredChild

/-- The child is a text of nothing but white space. -/
def IsBlank : LoweredChild → Prop
  | text content => Text.AllBlank content.value
  | _ => False

/-- What is left of a child at an end of the list, where `alone` says whether no other child is
there. -/
inductive AtEdge (side : Side) (alone : Prop) : LoweredChild → List LoweredChild → Prop where
  | expr (value : Expr) : AtEdge side alone (expr value) [expr value]
  | spread (span : Span) (argument : Expr) :
      AtEdge side alone (spread span argument) [spread span argument]
  | removed {content : TextChild} (blank : Text.AllBlank content.value) (others : ¬ alone) :
      AtEdge side alone (text content) []
  | emptied {content : TextChild} (blank : Text.AllBlank content.value) (only : alone) :
      AtEdge side alone (text content) [text ⟨⟨content.span.start, content.span.start⟩, [], []⟩]
  | trimmed {content after : TextChild} (solid : ¬ Text.AllBlank content.value)
      (loses : content.Loses side after) : AtEdge side alone (text content) [text after]

/-- What is left of a child that is the only one in the list. -/
inductive Alone : LoweredChild → LoweredChild → Prop where
  | expr (value : Expr) : Alone (expr value) (expr value)
  | spread (span : Span) (argument : Expr) : Alone (spread span argument) (spread span argument)
  | emptied {content : TextChild} (blank : Text.AllBlank content.value) :
      Alone (text content) (text ⟨⟨content.span.start, content.span.start⟩, [], []⟩)
  | trimmed {content between after : TextChild} (solid : ¬ Text.AllBlank content.value)
      (left : content.Loses .first between) (right : between.Loses .last after) :
      Alone (text content) (text after)

theorem AtEdge.eq_nil_iff {side : Side} {alone : Prop} {child : LoweredChild}
    {kept : List LoweredChild} (edge : child.AtEdge side alone kept) :
    kept = [] ↔ child.IsBlank ∧ ¬ alone := by
  cases edge with
  | expr value => simp [IsBlank]
  | spread span argument => simp [IsBlank]
  | removed blank others => simp [IsBlank, blank, others]
  | emptied blank only => simp [only]
  | trimmed solid loses => simp [IsBlank, solid]

theorem AtEdge.reverse_eq {side : Side} {alone : Prop} {child : LoweredChild}
    {kept : List LoweredChild} (edge : child.AtEdge side alone kept) : kept.reverse = kept := by
  cases edge <;> rfl

theorem trimHead_cons (side : Side) (child : LoweredChild) (rest : List LoweredChild) :
    ∃ kept, child.AtEdge side (rest = []) kept ∧ trimHead side (child :: rest) = kept ++ rest := by
  cases child with
  | expr value => exact ⟨_, .expr value, rfl⟩
  | spread span argument => exact ⟨_, .spread span argument, rfl⟩
  | text content =>
      rw [trimHead]
      by_cases blank : Text.AllBlank content.value
      · rw [TextChild.trim_of_blank blank]
        cases rest with
        | nil => exact ⟨_, .emptied blank rfl, rfl⟩
        | cons other others => exact ⟨[], .removed blank (by simp), rfl⟩
      · obtain ⟨after, loses, decided⟩ := TextChild.trim_of_solid blank side rest.isEmpty
        refine ⟨[text after], .trimmed blank loses, ?_⟩
        rcases decided with ⟨kept, rfl⟩ | replaced
        · rw [kept]
          rfl
        · rw [replaced]
          rfl

theorem trimEdge_last (front : List LoweredChild) (child : LoweredChild) :
    ∃ kept, child.AtEdge .last (front = []) kept ∧
      trimEdge .last (front ++ [child]) = front ++ kept := by
  obtain ⟨kept, edge, equal⟩ := trimHead_cons .last child front.reverse
  rw [List.reverse_eq_nil_iff] at edge
  refine ⟨kept, edge, ?_⟩
  rw [trimEdge, List.reverse_append, List.reverse_singleton, List.singleton_append, equal,
    List.reverse_append, List.reverse_reverse, edge.reverse_eq]

section

variable {holds : LoweredChild → Prop}
  (emptied : ∀ content, holds (text content) →
    holds (text ⟨⟨content.span.start, content.span.start⟩, [], []⟩))
  (trimmed : ∀ side content after, holds (text content) → content.Loses side after →
    holds (text after))

include emptied trimmed

/-! What a text keeps when it is emptied and when it is stripped is kept by a list of children. -/

theorem AtEdge.forall_mem {side : Side} {alone : Prop} {child : LoweredChild}
    {kept : List LoweredChild} (edge : child.AtEdge side alone kept) (here : holds child) :
    ∀ other ∈ kept, holds other := by
  intro other membership
  cases edge with
  | removed => cases membership
  | emptied =>
      cases List.mem_singleton.mp membership
      exact emptied _ here
  | trimmed _ loses =>
      cases List.mem_singleton.mp membership
      exact trimmed side _ _ here loses
  | _ =>
      cases List.mem_singleton.mp membership
      exact here

theorem forall_mem_trimHead (side : Side) {children : List LoweredChild}
    (each : ∀ child ∈ children, holds child) : ∀ child ∈ trimHead side children, holds child := by
  cases children with
  | nil => exact each
  | cons child rest =>
      obtain ⟨here, others⟩ := List.forall_mem_cons.mp each
      obtain ⟨kept, edge, equal⟩ := trimHead_cons side child rest
      rw [equal]
      exact List.forall_mem_append.mpr ⟨edge.forall_mem emptied trimmed here, others⟩

theorem forall_mem_trimEdge (side : Side) {children : List LoweredChild}
    (each : ∀ child ∈ children, holds child) : ∀ child ∈ trimEdge side children, holds child := by
  cases side with
  | first => exact forall_mem_trimHead emptied trimmed .first each
  | last =>
      intro child membership
      rw [trimEdge, List.mem_reverse] at membership
      refine forall_mem_trimHead emptied trimmed .last ?_ child membership
      exact fun other member => each other (List.mem_reverse.mp member)

theorem forall_mem_normalize {children : List LoweredChild}
    (each : ∀ child ∈ children, holds child) : ∀ child ∈ normalize children, holds child :=
  forall_mem_trimEdge emptied trimmed .last (forall_mem_trimEdge emptied trimmed .first each)

end

theorem AtEdge.eq_singleton {side : Side} {child : LoweredChild} {kept : List LoweredChild}
    (edge : child.AtEdge side True kept) : ∃ result, kept = [result] := by
  cases edge with
  | removed _ others => exact absurd trivial others
  | _ => exact ⟨_, rfl⟩

/-- A child that is trimmed at the start and then at the end, and stands alone both times. -/
theorem AtEdge.alone {child between result : LoweredChild}
    (start : child.AtEdge .first True [between]) (stop : between.AtEdge .last True [result]) :
    child.Alone result := by
  cases start with
  | expr value =>
      cases stop
      exact .expr value
  | spread span argument =>
      cases stop
      exact .spread span argument
  | emptied blank =>
      cases stop with
      | emptied _ => exact .emptied blank
      | trimmed solid => exact absurd (by simp [Text.AllBlank]) solid
  | trimmed solid left =>
      cases stop with
      | emptied blank => exact absurd (left.value.allBlank_iff.mpr blank) solid
      | trimmed _ right => exact .trimmed solid left right

theorem normalize_singleton (child : LoweredChild) :
    ∃ kept, child.Alone kept ∧ normalize [child] = [kept] := by
  obtain ⟨started, start, first⟩ := trimHead_cons .first child []
  rw [eq_self] at start
  obtain ⟨between, rfl⟩ := start.eq_singleton
  obtain ⟨stopped, stop, last⟩ := trimEdge_last [] between
  rw [eq_self] at stop
  obtain ⟨kept, rfl⟩ := stop.eq_singleton
  refine ⟨kept, start.alone stop, ?_⟩
  rw [normalize, trimEdge, first]
  exact last

theorem normalize_several (first : LoweredChild) (middle : List LoweredChild)
    (last : LoweredChild) :
    ∃ front back, first.AtEdge .first False front ∧ last.AtEdge .last (front ++ middle = []) back ∧
      normalize (first :: middle ++ [last]) = front ++ middle ++ back := by
  obtain ⟨front, start, started⟩ := trimHead_cons .first first (middle ++ [last])
  -- The start is never alone here, but the end is if nothing is left before it.
  have others : (middle ++ [last] = []) = False := by simp
  rw [others] at start
  obtain ⟨back, stop, stopped⟩ := trimEdge_last (front ++ middle) last
  refine ⟨front, back, start, stop, ?_⟩
  calc
    normalize (first :: middle ++ [last]) = trimEdge .last (front ++ (middle ++ [last])) :=
      congrArg (trimEdge .last) started
    _ = front ++ middle ++ back := by rw [← List.append_assoc, stopped]

theorem normalize_eq_nil_iff (children : List LoweredChild) :
    normalize children = [] ↔ children = [] := by
  constructor
  · intro empty
    rcases children with _ | ⟨first, rest⟩
    · rfl
    · rcases List.eq_nil_or_concat' rest with rfl | ⟨middle, last, rfl⟩
      · obtain ⟨kept, _, equal⟩ := normalize_singleton first
        cases equal.symm.trans empty
      · obtain ⟨front, back, _, stop, equal⟩ := normalize_several first middle last
        obtain ⟨nothing, gone⟩ := List.append_eq_nil_iff.mp (equal.symm.trans empty)
        exact absurd nothing (stop.eq_nil_iff.mp gone).2
  · rintro rfl
    rfl

/-- Normalising loses white space at the two ends only, and empties no list. A child that is the
only one stays. Of several children those in between stay as they are, the first is removed if it
is blank, and the last if it is blank and not the only one that is left then. -/
theorem normalize_trims_edges (children : List LoweredChild) :
    (normalize children = [] ↔ children = []) ∧
    (∀ child, children = [child] → ∃ kept, normalize children = [kept] ∧ child.Alone kept) ∧
    (∀ first middle last, children = first :: middle ++ [last] →
      ∃ front back, normalize children = front ++ middle ++ back ∧
        first.AtEdge .first False front ∧ last.AtEdge .last (front ++ middle = []) back ∧
        (front = [] ↔ first.IsBlank) ∧ (back = [] ↔ last.IsBlank ∧ front ++ middle ≠ [])) := by
  refine ⟨normalize_eq_nil_iff children, ?_, ?_⟩
  · rintro child rfl
    obtain ⟨kept, alone, equal⟩ := normalize_singleton child
    exact ⟨kept, equal, alone⟩
  · rintro first middle last rfl
    obtain ⟨front, back, start, stop, equal⟩ := normalize_several first middle last
    refine ⟨front, back, equal, start, stop, ?_, stop.eq_nil_iff⟩
    rw [start.eq_nil_iff, not_false_eq_true, and_true]

/-- Of two blank texts the second is left, and there is nothing in it. -/
theorem normalize_trims_edges_two_blanks :
    normalize [text ⟨⟨0, 1⟩, [' '], [' ']⟩, text ⟨⟨1, 2⟩, ['\n'], ['\n']⟩] =
      [text ⟨⟨1, 1⟩, [], []⟩] := by
  have space : Text.AllBlank [' '] := by simp [Text.AllBlank, Text.isBlank]
  have newline : Text.AllBlank ['\n'] := by simp [Text.AllBlank, Text.isBlank]
  obtain ⟨front, back, equal, _, stop, removed, _⟩ :=
    (normalize_trims_edges [text ⟨⟨0, 1⟩, [' '], [' ']⟩, text ⟨⟨1, 2⟩, ['\n'], ['\n']⟩]).2.2
      _ [] _ rfl
  cases removed.mpr space
  cases stop with
  | removed _ others => exact absurd rfl others
  | emptied _ _ => exact equal
  | trimmed solid _ => exact absurd newline solid

end LoweredChild

end JsxLowering
