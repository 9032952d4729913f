import JsxLowering.DottedPath
import JsxLowering.Lowering.Header

set_option autoImplicit false

/-!
Texts that are put together from pieces, and read as these pieces again: words with white
space between them, lines with line feeds, and the segments of a path with dots. What is
white space is never a part of a word, and no identifier name holds a dot.
-/

namespace JsxLowering

namespace Text

theorem pieces_eq (cut : Char → Bool) (text : List Char) : pieces cut text = text.splitOnP cut := by
  induction text with
  | nil => rfl
  | cons c rest inductionHypothesis =>
      rw [pieces, List.splitOnP_cons_eq_if_modifyHead, inductionHypothesis]
      split
      · rfl
      · cases pieces : rest.splitOnP cut with
        | nil => exact absurd pieces (List.splitOnP_ne_nil cut rest)
        | cons first others => rfl

theorem words_eq (text : List Char) :
    words text = (text.splitOnP isBlank).filter fun word => !word.isEmpty := by
  rw [words, pieces_eq]

@[simp]
theorem words_nil : words [] = [] := rfl

theorem words_append_cons {c : Char} (blank : isBlank c = true) (first rest : List Char) :
    words (first ++ c :: rest) = words first ++ words rest := by
  simp only [words_eq, List.splitOnP_append_cons first rest blank, List.filter_append]

theorem words_concat {c : Char} (blank : isBlank c = true) (text : List Char) :
    words (text ++ [c]) = words text := by
  rw [words_append_cons blank, words_nil, List.append_nil]

theorem words_blank_append {gap : List Char} (blank : ∀ c ∈ gap, isBlank c = true)
    (text : List Char) : words (gap ++ text) = words text := by
  induction gap with
  | nil => rfl
  | cons c gap inductionHypothesis =>
      have first : isBlank c = true := blank c (by simp)
      have rest : ∀ other ∈ gap, isBlank other = true := by
        intro other membership
        exact blank other (List.mem_cons_of_mem _ membership)
      rw [List.cons_append, ← List.nil_append (c :: (gap ++ text)), words_append_cons first,
        words_nil, List.nil_append, inductionHypothesis rest]

/-- White space divides the words of a text. -/
theorem words_append_gap {gap : List Char} (nonempty : gap ≠ [])
    (blank : ∀ c ∈ gap, isBlank c = true) (first rest : List Char) :
    words (first ++ (gap ++ rest)) = words first ++ words rest := by
  obtain ⟨c, gap, rfl⟩ := List.exists_cons_of_ne_nil nonempty
  rw [List.cons_append, words_append_cons (blank c (by simp)), words_blank_append]
  intro other membership
  exact blank other (List.mem_cons_of_mem _ membership)

theorem words_of_solid {word : List Char} (nonempty : word ≠ [])
    (solid : ∀ c ∈ word, isBlank c = false) : words word = [word] := by
  rw [words_eq, List.splitOnP_eq_singleton solid]
  simp [nonempty]

theorem lines_eq (text : List Char) : lines text = linesOfPieces (text.splitOn '\n') := by
  rw [lines, pieces_eq]
  rfl

theorem lines_append_newline {line : List Char} (unbroken : '\n' ∉ line) (rest : List Char) :
    lines (line ++ '\n' :: rest) = dropReturn line :: lines rest := by
  rw [lines_eq, lines_eq, List.splitOn_append_cons_self_of_not_mem unbroken]
  cases pieces : rest.splitOn '\n' with
  | nil => exact absurd pieces (List.splitOn_ne_nil _ rest)
  | cons first others => rfl

theorem lines_of_unbroken {line : List Char} (unbroken : '\n' ∉ line) :
    lines line = if line.isEmpty then [] else [line] := by
  rw [lines_eq, List.splitOn_eq_singleton unbroken]
  rfl

theorem dropReturn_cases (line : List Char) :
    dropReturn line = line ∨ line = dropReturn line ++ ['\r'] := by
  unfold dropReturn
  split
  next ends =>
    obtain ⟨front, rfl⟩ := List.getLast?_eq_some_iff.mp ends
    right
    rw [List.dropLast_concat]
  next _ => exact .inl rfl

/-- The code points that are white space. -/
def blankCodes : List Nat :=
  [0x09, 0x0A, 0x0B, 0x0C, 0x0D, 0x20, 0x85, 0xA0, 0x1680, 0x2000, 0x2001, 0x2002, 0x2003, 0x2004,
    0x2005, 0x2006, 0x2007, 0x2008, 0x2009, 0x200A, 0x2028, 0x2029, 0x202F, 0x205F, 0x3000]

theorem toNat_mem_blankCodes {c : Char} (blank : isBlank c = true) : c.toNat ∈ blankCodes := by
  simp only [isBlank, Bool.or_eq_true, Bool.and_eq_true, decide_eq_true_eq, beq_iff_eq] at blank
  simp only [blankCodes, List.mem_cons, List.not_mem_nil, or_false]
  omega

/-- A property that no white space has is told by the table. -/
theorem eq_false_of_blank {holds : Char → Bool}
    (table : ∀ code ∈ blankCodes, holds (Char.ofNat code) = false) {c : Char}
    (blank : isBlank c = true) : holds c = false := by
  rw [← Char.ofNat_toNat c]
  exact table c.toNat (toNat_mem_blankCodes blank)

end Text

theorem Header.not_isBlank_of_isPathChar {c : Char} (path : isPathChar c = true) :
    Text.isBlank c = false := by
  cases blank : Text.isBlank c with
  | false => rfl
  | true =>
      have unfit : isPathChar c = false := Text.eq_false_of_blank (by decide +kernel) blank
      rw [path] at unfit
      cases unfit

theorem dot_notMem_of_isIdentifierName {name : String} (valid : isIdentifierName name = true) :
    '.' ∉ name.toList := by
  unfold isIdentifierName at valid
  split at valid
  next _ => cases valid
  next first rest given =>
    simp only [Bool.and_eq_true, List.all_eq_true] at valid
    rw [given]
    intro membership
    rcases List.mem_cons.mp membership with rfl | later
    · exact absurd valid.1 (by decide +kernel)
    · exact absurd (valid.2 '.' later) (by decide +kernel)

namespace DottedPath

variable (path : DottedPath)

theorem splitOn_toText : path.toText.toList.splitOn '.' = path.segments.map String.toList := by
  have dotless : ∀ piece ∈ path.segments.map String.toList, '.' ∉ piece := by
    intro piece membership
    obtain ⟨segment, given, rfl⟩ := List.mem_map.mp membership
    exact dot_notMem_of_isIdentifierName (path.valid segment given)
  rw [toText, String.toList_intercalate]
  exact List.splitOn_intercalate '.' dotless (by simp [path.nonempty])

theorem split_toText : split path.toText = path.segments := by
  rw [split, Text.pieces_eq]
  change (path.toText.toList.splitOn '.').map String.ofList = path.segments
  simp [splitOn_toText, Function.comp_def]

theorem toText_ne_empty : path.toText ≠ "" := by
  intro empty
  have segments : path.segments = [""] := by
    rw [← split_toText, empty]
    rfl
  exact absurd (path.valid "" (by simp [segments])) (by decide)

/-- A path that is written down is read as itself. -/
theorem parse_toText : parse path.toText = .ok path := by
  have faultless : ∀ segment, (split path.toText).find? (fun segment => !isIdentifierName segment) ≠
      some segment := by
    intro segment found
    have membership : segment ∈ path.segments := by
      rw [← split_toText]
      exact List.mem_of_find?_eq_some found
    have invalid := List.find?_some found
    simp [path.valid segment membership] at invalid
  unfold parse
  rw [if_neg (toText_ne_empty path)]
  split
  next segment found => exact absurd found (faultless segment)
  next _ =>
    cases path
    simp [split_toText]

variable {path} {text : String}

theorem segments_of_parse (parsed : parse text = .ok path) : path.segments = split text := by
  unfold parse at parsed
  split at parsed
  · cases parsed
  · split at parsed
    · cases parsed
    · cases parsed
      rfl

theorem toList_split (text : String) :
    (split text).map String.toList = text.toList.splitOn '.' := by
  rw [split, Text.pieces_eq, List.map_map]
  simp [Function.comp_def, List.splitOn]

theorem intercalate_split (text : String) : ".".intercalate (split text) = text := by
  apply String.toList_injective
  rw [String.toList_intercalate, toList_split]
  exact List.intercalate_splitOn '.'

/-- A text that is read as a path is what the path is written as. -/
theorem toText_of_parse (parsed : parse text = .ok path) : path.toText = text := by
  rw [toText, segments_of_parse parsed, intercalate_split]

end DottedPath

end JsxLowering
