import JsxLowering.Proofs.Pieces
import JsxLowering.Proofs.Spans

set_option autoImplicit false

/-!
Dotted paths as texts and as expressions. The pieces of a text are what it is put together from
with dots, and a text is read as a path exactly if all of them are identifier names. The path holds
these pieces and no others. So it is written as the text that it was read from, and the expression
for it, spelled from its root on, is that text again.
-/

namespace JsxLowering

theorem Text.eq_false_of_mem_pieces {cut : Char → Bool} {text piece : List Char}
    (membership : piece ∈ pieces cut text) : ∀ c ∈ piece, cut c = false := by
  induction text generalizing piece with
  | nil =>
      obtain rfl := List.mem_singleton.mp membership
      simp
  | cons d rest inductionHypothesis =>
      rw [pieces] at membership
      by_cases divides : cut d = true
      · rw [if_pos divides] at membership
        rcases List.mem_cons.mp membership with rfl | later
        · simp
        · exact inductionHypothesis later
      · rw [if_neg divides] at membership
        split at membership
        next nothing => exact absurd nothing (pieces_ne_nil cut rest)
        next first others given =>
          rcases List.mem_cons.mp membership with rfl | later
          · have before : ∀ c ∈ first, cut c = false := inductionHypothesis (by simp [given])
            exact List.forall_mem_cons.mpr ⟨by simpa using divides, before⟩
          · exact inductionHypothesis (by simp [given, later])

namespace Expr

/-- The text that an expression spells with dots, from a name on through accesses by name. -/
def dottedText? : Expr → Option String
  | identifier _ name _ => some name
  | member _ base word => base.dottedText?.map (· ++ "." ++ word.text)
  | _ => none

theorem dottedText?_ofPath (path : DottedPath) :
    (ofPath path).dottedText? = some path.toText := by
  have spelled : path.segments ≠ [] ∧
      (ofPath path).dottedText? = some (".".intercalate path.segments) := by
    apply ofPath_induction (motive := fun words object =>
      words ≠ [] ∧ object.dottedText? = some (".".intercalate words)) path
    · simp [dottedText?]
    · rintro words object segment ⟨nonempty, given⟩
      rw [String.intercalate_append_of_ne_nil nonempty (by simp)]
      simp [dottedText?, given]
  exact spelled.2

end Expr

namespace Node

/-- The node is a name without a reference or an access by name, with no place in the source. -/
def IsUnplaced : Node → Prop
  | expr (.identifier span _ bound) => span = ⟨0, 0⟩ ∧ bound = false
  | expr (.member span _ word) => span = ⟨0, 0⟩ ∧ word.span = ⟨0, 0⟩
  | _ => False

theorem length_preorder_ofPath (path : DottedPath) :
    (expr (.ofPath path)).preorder.length = path.segments.length := by
  apply Expr.ofPath_induction (motive := fun words object =>
    (expr object).preorder.length = words.length) path
  · simp [preorder_eq, Node.children, Expr.children]
  · intro words object segment given
    rw [preorder_eq]
    simp [Node.children, Expr.children, given]

theorem isUnplaced_ofPath (path : DottedPath) :
    (expr (.ofPath path)).Throughout IsUnplaced := by
  apply Expr.ofPath_induction (motive := fun _ object =>
    (expr object).Throughout IsUnplaced) path
  · exact throughout_iff.mpr ⟨⟨rfl, rfl⟩, by simp [Node.children, Expr.children]⟩
  · intro words object segment below
    exact throughout_iff.mpr ⟨⟨rfl, rfl⟩, by simpa [Node.children, Expr.children] using below⟩

end Node

namespace DottedPath

/-- The pieces of a text: with dots between them they are the text, and there is no dot in any. -/
structure PiecesOf (text : String) (pieces : List String) : Prop where
  nonempty : pieces ≠ []
  joined : ".".intercalate pieces = text
  dotless : ∀ piece ∈ pieces, '.' ∉ piece.toList

/-- The piece is the first that is no identifier name. -/
def IsFirstInvalid (pieces : List String) (piece : String) : Prop :=
  isIdentifierName piece = false ∧ ∃ front back, pieces = front ++ piece :: back ∧
    ∀ earlier ∈ front, isIdentifierName earlier = true

/-- The expression spells a text, with one node for each of its pieces and none in the source. -/
structure WritesOut (text : String) (pieces : List String) (value : Expr) : Prop where
  spelled : value.dottedText? = some text
  nodes : (Node.expr value).preorder.length = pieces.length
  unplaced : (Node.expr value).Throughout Node.IsUnplaced

theorem piecesOf_split (text : String) : PiecesOf text (split text) where
  nonempty := split_ne_nil text
  joined := intercalate_split text
  dotless := by
    intro piece membership dot
    obtain ⟨inner, given, rfl⟩ := List.mem_map.mp membership
    rw [String.toList_ofList] at dot
    exact absurd (Text.eq_false_of_mem_pieces given _ dot) (by decide)

theorem PiecesOf.eq_split {text : String} {pieces : List String}
    (given : PiecesOf text pieces) : pieces = split text := by
  apply List.map_injective_iff.mpr fun _ _ => String.toList_injective
  have dotless : ∀ piece ∈ pieces.map String.toList, '.' ∉ piece := by
    intro piece membership
    obtain ⟨word, among, rfl⟩ := List.mem_map.mp membership
    exact given.dotless word among
  rw [toList_split, ← given.joined, String.toList_intercalate]
  exact (List.splitOn_intercalate '.' dotless (by simpa using given.nonempty)).symm

theorem piecesOf_iff (text : String) (pieces : List String) :
    PiecesOf text pieces ↔ pieces = split text := by
  constructor
  · exact PiecesOf.eq_split
  · rintro rfl
    exact piecesOf_split text

/-- All that reading a text can come to. -/
theorem parse_cases (text : String) :
    text = "" ∧ parse text = .error .empty ∨
    text ≠ "" ∧ (∃ segment, (split text).find? (fun piece => !isIdentifierName piece) =
        some segment ∧ parse text = .error (.invalidSegment text segment)) ∨
    text ≠ "" ∧ (∀ piece ∈ split text, isIdentifierName piece = true) ∧
      ∃ path, parse text = .ok path := by
  unfold parse
  by_cases empty : text = ""
  · exact .inl ⟨empty, if_pos empty⟩
  · rw [if_neg empty]
    right
    split
    next segment found => exact .inl ⟨empty, segment, found, rfl⟩
    next faultless =>
      refine .inr ⟨empty, ?_, _, rfl⟩
      simpa using faultless

theorem find?_eq_some_iff_isFirstInvalid (pieces : List String) (segment : String) :
    pieces.find? (fun piece => !isIdentifierName piece) = some segment ↔
      IsFirstInvalid pieces segment := by
  rw [List.find?_eq_some_iff_append]
  simp [IsFirstInvalid]

theorem exists_parse_iff (text : String) :
    (∃ path, parse text = .ok path) ↔
      text ≠ "" ∧ ∀ piece ∈ split text, isIdentifierName piece = true := by
  rcases parse_cases text with ⟨empty, failed⟩ | ⟨_, segment, found, failed⟩ | ⟨full, valid, read⟩
  · rw [failed]
    simp [empty]
  · obtain ⟨invalid, front, back, among, _⟩ :=
      (find?_eq_some_iff_isFirstInvalid _ _).mp found
    constructor
    · rintro ⟨path, parsed⟩
      cases failed.symm.trans parsed
    · rintro ⟨_, valid⟩
      have fit := valid segment (by simp [among])
      rw [invalid] at fit
      cases fit
  · exact iff_of_true read ⟨full, valid⟩

theorem parse_eq_empty_iff (text : String) : parse text = .error .empty ↔ text = "" := by
  rcases parse_cases text with ⟨empty, failed⟩ | ⟨full, _, _, failed⟩ | ⟨full, _, _, read⟩
  · exact iff_of_true failed empty
  · simp [failed, full]
  · simp [read, full]

theorem parse_eq_invalidSegment_iff (text given segment : String) :
    parse text = .error (.invalidSegment given segment) ↔
      text ≠ "" ∧ given = text ∧ IsFirstInvalid (split text) segment := by
  rw [← find?_eq_some_iff_isFirstInvalid]
  rcases parse_cases text with ⟨empty, failed⟩ | ⟨full, other, found, failed⟩ | ⟨_, valid, _, read⟩
  · rw [failed]
    simp [empty]
  · simp [failed, full, found, eq_comm]
  · have faultless : (split text).find? (fun piece => !isIdentifierName piece) = none := by
      simpa using valid
    simp [read, faultless]

end DottedPath

/-- Dotted paths go from text to expression and back. A text has its pieces between the dots, and is
read as a path exactly if there is something in it and every piece is an identifier name. The path
holds the pieces, is written as the text and read from that again, and the expression for it spells
the text. What is read as no path is the empty text, or its first bad piece is named. -/
theorem dotted_paths_round_trip (text : String) :
    ∃ pieces, (∀ others, DottedPath.PiecesOf text others ↔ others = pieces) ∧
      ((∃ path, DottedPath.parse text = .ok path) ↔
        text ≠ "" ∧ ∀ piece ∈ pieces, isIdentifierName piece = true) ∧
      (∀ path, DottedPath.parse text = .ok path →
        path.segments = pieces ∧ pieces ≠ [] ∧ path.toText = text ∧
          DottedPath.parse path.toText = .ok path ∧
          DottedPath.WritesOut text pieces (.ofPath path)) ∧
      (DottedPath.parse text = .error .empty ↔ text = "") ∧
      ∀ given segment, DottedPath.parse text = .error (.invalidSegment given segment) ↔
        text ≠ "" ∧ given = text ∧ DottedPath.IsFirstInvalid pieces segment := by
  refine ⟨DottedPath.split text, DottedPath.piecesOf_iff text, DottedPath.exists_parse_iff text, ?_,
    DottedPath.parse_eq_empty_iff text, DottedPath.parse_eq_invalidSegment_iff text⟩
  intro path parsed
  have segments := DottedPath.segments_of_parse parsed
  have written := DottedPath.toText_of_parse parsed
  refine ⟨segments, DottedPath.split_ne_nil text, written, path.parse_toText, ?_, ?_, ?_⟩
  · rw [Expr.dottedText?_ofPath, written]
  · rw [Node.length_preorder_ofPath, segments]
  · exact Node.isUnplaced_ofPath path

theorem dotted_paths_round_trip_accented :
    ∃ path, DottedPath.parse "été.$._1" = .ok path ∧ path.segments = ["été", "$", "_1"] ∧
      path.toText = "été.$._1" ∧ (Expr.ofPath path).dottedText? = some "été.$._1" ∧
      DottedPath.parse "été..$" = .error (.invalidSegment "été..$" "") := by
  obtain ⟨pieces, unique, succeeds, reads, _⟩ := dotted_paths_round_trip "été.$._1"
  have cut : ["été", "$", "_1"] = pieces := (unique _).mp ⟨by decide, by decide, by decide⟩
  obtain ⟨path, parsed⟩ := succeeds.mpr ⟨by decide, by rw [← cut]; decide +kernel⟩
  obtain ⟨segments, _, written, _, writesOut⟩ := reads path parsed
  obtain ⟨others, alone, _, _, _, fails⟩ := dotted_paths_round_trip "été..$"
  have apart : ["été", "", "$"] = others := (alone _).mp ⟨by decide, by decide, by decide⟩
  refine ⟨path, parsed, segments.trans cut.symm, written, writesOut.spelled, ?_⟩
  refine (fails _ _).mpr ⟨by decide, rfl, by decide, ["été"], ["$"], apart.symm, ?_⟩
  decide +kernel

end JsxLowering
