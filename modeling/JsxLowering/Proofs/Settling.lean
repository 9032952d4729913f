import Mathlib.Data.List.Chain
import JsxLowering.Proofs.Trimming

set_option autoImplicit false

/-!
One pass of trimming is enough where no two texts stand side by side. Removing a blank text at an
end then brings no other text to that end. So an end is settled once it has been trimmed, trimming
the other end keeps it settled, and a list whose two ends are settled is its own normal form.
-/

namespace JsxLowering

namespace Side

theorem bare_nil (side : Side) : side.Bare [] := by
  cases side <;> simp [Bare]

variable {side : Side} {before after : List Char}

theorem Strips.bare (strips : side.Strips before after) : side.Bare after := by
  cases side with
  | first => exact strips.choose_spec.2.2
  | last => exact strips.choose_spec.2.2

theorem Bare.strip_eq (bare : side.Bare before) : side.strip before = before := by
  have nothing : Text.AllBlank [] := by simp [Text.AllBlank]
  have strips : side.Strips before before := by
    cases side with
    | first => exact ⟨[], rfl, nothing, bare⟩
    | last => exact ⟨[], (List.append_nil before).symm, nothing, bare⟩
  exact strips.eq_strip.symm

theorem Strips.bare_of_bare {other : Side} (strips : side.Strips before after)
    (bare : other.Bare before) : other.Bare after := by
  cases side with
  | first =>
      cases other with
      | first => exact strips.bare
      | last =>
          obtain ⟨gap, rfl, _⟩ := strips
          intro c there
          exact bare c (by simp [List.getLast?_append, there])
  | last =>
      cases other with
      | first =>
          obtain ⟨gap, rfl, _⟩ := strips
          intro c there
          exact bare c (by simp [List.head?_append, there])
      | last => exact strips.bare

end Side

namespace LoweredChild

/-- The child is a text. -/
def IsText : LoweredChild → Prop
  | text _ => True
  | _ => False

/-- Trimming has nothing to do at the child, where `alone` says whether no other child is there. -/
def Settled (side : Side) (alone : Prop) : LoweredChild → Prop
  | text content => side.Bare content.value ∧ side.Bare content.raw ∧
      (Text.AllBlank content.value → alone ∧ content.blanked = content)
  | _ => True

section

variable {side other : Side} {alone : Prop} {child after : LoweredChild}

theorem Settled.imp {others : Prop} (settled : child.Settled side alone)
    (weaker : alone → others) : child.Settled side others := by
  cases child with
  | text content =>
      obtain ⟨value, raw, blank⟩ := settled
      exact ⟨value, raw, fun empty => (blank empty).imp_left weaker⟩
  | _ => trivial

theorem settled_of_not_isText (other : ¬ child.IsText) : child.Settled side alone := by
  cases child with
  | text content => exact absurd trivial other
  | _ => trivial

theorem AtEdge.isText_iff (edge : child.AtEdge side alone [after]) :
    after.IsText ↔ child.IsText := by
  cases edge <;> rfl

theorem settled_emptied (span : Span) (only : alone) :
    (text ⟨⟨span.start, span.start⟩, [], []⟩).Settled side alone :=
  ⟨side.bare_nil, side.bare_nil, fun _ => ⟨only, rfl⟩⟩

theorem settled_of_solid {content : TextChild} (value : side.Bare content.value)
    (raw : side.Bare content.raw) (solid : ¬ Text.AllBlank content.value) :
    (text content).Settled side alone :=
  ⟨value, raw, fun blank => absurd blank solid⟩

theorem AtEdge.settled (edge : child.AtEdge side alone [after]) : after.Settled side alone := by
  cases edge with
  | emptied blank only => exact settled_emptied _ only
  | trimmed solid loses =>
      exact settled_of_solid loses.value.bare loses.raw.bare (loses.solid solid)
  | _ => trivial

theorem AtEdge.settled_of_settled (edge : child.AtEdge side alone [after])
    (settled : child.Settled other alone) : after.Settled other alone := by
  cases edge with
  | emptied blank only => exact settled_emptied _ only
  | trimmed solid loses =>
      obtain ⟨value, raw, _⟩ := settled
      exact settled_of_solid (loses.value.bare_of_bare value) (loses.raw.bare_of_bare raw)
        (loses.solid solid)
  | _ => trivial

theorem Settled.trimHead_eq {rest : List LoweredChild} (settled : child.Settled side (rest = [])) :
    trimHead side (child :: rest) = child :: rest := by
  cases child with
  | text content =>
      obtain ⟨value, raw, blank⟩ := settled
      rw [trimHead]
      by_cases empty : Text.AllBlank content.value
      · obtain ⟨only, same⟩ := blank empty
        simp [TextChild.trim_of_blank empty, only, same]
      · have kept : content.trim side rest.isEmpty = .keep := by
          rw [TextChild.trim, if_neg (mt Text.trim_eq_nil_iff.mp empty)]
          simp [value.strip_eq, raw.strip_eq]
        rw [kept]
  | _ => rfl

end

/-- No two texts stand side by side. -/
def Separated (children : List LoweredChild) : Prop :=
  children.IsChain fun left right => ¬ (left.IsText ∧ right.IsText)

theorem separated_reverse {children : List LoweredChild} :
    Separated children.reverse ↔ Separated children := by
  simp only [Separated, List.isChain_reverse, and_comm]

/-- Trimming has nothing to do at the head of the list. -/
def SettledHead (side : Side) : List LoweredChild → Prop
  | [] => True
  | child :: rest => child.Settled side (rest = [])

/-- Trimming has nothing to do at one end of the list. -/
def SettledOn : Side → List LoweredChild → Prop
  | .first, children => SettledHead .first children
  | .last, children => SettledHead .last children.reverse

variable {side : Side} {children : List LoweredChild}

theorem trimHead_of_settledHead (settled : SettledHead side children) :
    trimHead side children = children := by
  cases children with
  | nil => rfl
  | cons child rest => exact Settled.trimHead_eq settled

/-- The head of a list makes room for the child after it, or something is left of it. -/
theorem trimHead_cases (side : Side) (child : LoweredChild) (rest : List LoweredChild) :
    (child.IsText ∧ rest ≠ [] ∧ trimHead side (child :: rest) = rest) ∨
    ∃ after, child.AtEdge side (rest = []) [after] ∧
      trimHead side (child :: rest) = after :: rest := by
  obtain ⟨kept, edge, equal⟩ := trimHead_cons side child rest
  cases edge with
  | removed blank others => exact .inl ⟨trivial, others, equal⟩
  | expr value => exact .inr ⟨_, .expr value, equal⟩
  | spread span argument => exact .inr ⟨_, .spread span argument, equal⟩
  | emptied blank only => exact .inr ⟨_, .emptied blank only, equal⟩
  | trimmed solid loses => exact .inr ⟨_, .trimmed solid loses, equal⟩

theorem settledHead_trimHead (side : Side) (separated : Separated children) :
    SettledHead side (trimHead side children) := by
  cases children with
  | nil => trivial
  | cons child rest =>
      rcases trimHead_cases side child rest with ⟨isText, others, equal⟩ | ⟨after, edge, equal⟩
      · -- What comes to the end stood beside a text, so that it is none.
        obtain ⟨next, rest, rfl⟩ := List.exists_cons_of_ne_nil others
        have apart := (List.isChain_cons_cons.mp separated).1
        rw [equal]
        exact settled_of_not_isText fun beside => apart ⟨isText, beside⟩
      · rw [equal]
        exact edge.settled

theorem separated_trimHead (side : Side) (separated : Separated children) :
    Separated (trimHead side children) := by
  cases children with
  | nil => exact separated
  | cons child rest =>
      obtain ⟨apart, others⟩ := List.isChain_cons.mp separated
      rcases trimHead_cases side child rest with ⟨_, _, equal⟩ | ⟨after, edge, equal⟩
      · rw [equal]
        exact others
      · rw [equal, Separated, List.isChain_cons, edge.isText_iff]
        exact ⟨apart, others⟩

/-! What holds at the head of a list holds at either end. -/

theorem trimEdge_of_settledOn (settled : SettledOn side children) :
    trimEdge side children = children := by
  cases side with
  | first => exact trimHead_of_settledHead settled
  | last => rw [trimEdge, trimHead_of_settledHead settled, List.reverse_reverse]

theorem settledOn_trimEdge (side : Side) (separated : Separated children) :
    SettledOn side (trimEdge side children) := by
  cases side with
  | first => exact settledHead_trimHead .first separated
  | last =>
      rw [SettledOn, trimEdge, List.reverse_reverse]
      exact settledHead_trimHead .last (separated_reverse.mpr separated)

theorem separated_trimEdge (side : Side) (separated : Separated children) :
    Separated (trimEdge side children) := by
  cases side with
  | first => exact separated_trimHead .first separated
  | last => exact separated_reverse.mpr (separated_trimHead .last (separated_reverse.mpr separated))

theorem settledOn_first_trimEdge_last (settled : SettledOn .first children) :
    SettledOn .first (trimEdge .last children) := by
  rcases List.eq_nil_or_concat' children with rfl | ⟨front, child, rfl⟩
  · exact settled
  · obtain ⟨kept, edge, equal⟩ := trimEdge_last front child
    rw [equal]
    cases front with
    | nil =>
        -- One child is both the first and the last.
        rw [eq_self] at edge
        obtain ⟨after, rfl⟩ := edge.eq_singleton
        exact (edge.settled_of_settled (settled.imp fun _ => trivial)).imp fun _ => rfl
    | cons head others => exact settled.imp fun nothing => by simp at nothing

theorem separated_normalize (separated : Separated children) : Separated (normalize children) :=
  separated_trimEdge .last (separated_trimEdge .first separated)

theorem settledOn_normalize (separated : Separated children) (side : Side) :
    SettledOn side (normalize children) := by
  cases side with
  | first => exact settledOn_first_trimEdge_last (settledOn_trimEdge .first separated)
  | last => exact settledOn_trimEdge .last (separated_trimEdge .first separated)

theorem normalize_of_settledOn (settled : ∀ side, SettledOn side children) :
    normalize children = children := by
  rw [normalize, trimEdge_of_settledOn (settled .first), trimEdge_of_settledOn (settled .last)]

/-- Where no two texts stand side by side, one pass of trimming is enough. A text that is then first
starts with no white space and a text that is last ends with none, in its value as in its source
text, no two texts stand side by side, and a second pass changes nothing. -/
theorem normalize_settles (children : List LoweredChild) (separated : Separated children) :
    (∀ content rest, normalize children = text content :: rest →
      Side.first.Bare content.value ∧ Side.first.Bare content.raw) ∧
    (∀ front content, normalize children = front ++ [text content] →
      Side.last.Bare content.value ∧ Side.last.Bare content.raw) ∧
    Separated (normalize children) ∧
    normalize (normalize children) = normalize children := by
  have settled := settledOn_normalize separated
  refine ⟨?_, ?_, separated_normalize separated, normalize_of_settledOn settled⟩
  · intro content rest equal
    have start : SettledOn .first (text content :: rest) := equal ▸ settled .first
    exact ⟨start.1, start.2.1⟩
  · intro front content equal
    have stop := settled .last
    rw [equal, SettledOn, List.reverse_append] at stop
    exact ⟨stop.1, stop.2.1⟩

/-- A blank text, an expression, and a text with white space around it. -/
theorem normalize_settles_around_expression :
    Separated [text ⟨⟨0, 1⟩, [' '], [' ']⟩, expr (.null ⟨1, 3⟩),
      text ⟨⟨3, 6⟩, [' ', 'a', ' '], [' ', 'a', ' ']⟩] ∧
    normalize [text ⟨⟨0, 1⟩, [' '], [' ']⟩, expr (.null ⟨1, 3⟩),
      text ⟨⟨3, 6⟩, [' ', 'a', ' '], [' ', 'a', ' ']⟩] =
        [expr (.null ⟨1, 3⟩), text ⟨⟨3, 5⟩, [' ', 'a'], [' ', 'a']⟩] ∧
    normalize [expr (.null ⟨1, 3⟩), text ⟨⟨3, 5⟩, [' ', 'a'], [' ', 'a']⟩] =
      [expr (.null ⟨1, 3⟩), text ⟨⟨3, 5⟩, [' ', 'a'], [' ', 'a']⟩] := by
  have separated : Separated [text ⟨⟨0, 1⟩, [' '], [' ']⟩, expr (.null ⟨1, 3⟩),
      text ⟨⟨3, 6⟩, [' ', 'a', ' '], [' ', 'a', ' ']⟩] := by
    simp [Separated, IsText]
  exact ⟨separated, rfl, (normalize_settles _ separated).2.2.2⟩

/-- Between two texts a second pass finds white space that the first one has laid bare. -/
example :
    normalize [text ⟨⟨0, 1⟩, [' '], [' ']⟩, text ⟨⟨1, 3⟩, [' ', 'a'], [' ', 'a']⟩] =
        [text ⟨⟨1, 3⟩, [' ', 'a'], [' ', 'a']⟩] ∧
      normalize [text ⟨⟨1, 3⟩, [' ', 'a'], [' ', 'a']⟩] = [text ⟨⟨2, 3⟩, ['a'], ['a']⟩] :=
  ⟨rfl, rfl⟩

end LoweredChild

end JsxLowering
