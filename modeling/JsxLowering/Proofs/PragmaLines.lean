import JsxLowering.Proofs.Scanning
import JsxLowering.Proofs.Trimming

set_option autoImplicit false

/-!
Which lines of a comment count. A line is searched for pragmas if its first word starts with the
letters of one, so that any other line can be taken out of a comment. The first word need not be
a pragma itself: a line that begins with a longer word and names a pragma with a path later on
counts as well, and such lines are the only ones that mislead.
-/

namespace JsxLowering

namespace Text

def retainPieces (keep : List Char → Bool) : List (List Char) → List Char
  | [] => []
  | [last] => if keep last then last else []
  | piece :: rest =>
      (if keep (dropReturn piece) then piece ++ ['\n'] else []) ++ retainPieces keep rest

/-- The text without the lines that are not kept. What ends a line goes with it. -/
def retain (keep : List Char → Bool) (text : List Char) : List Char :=
  retainPieces keep (pieces (· == '\n') text)

variable {keep : List Char → Bool}

theorem retain_eq (text : List Char) :
    retain keep text = retainPieces keep (text.splitOn '\n') := by
  rw [retain, pieces_eq]
  rfl

theorem retain_of_unbroken {line : List Char} (unbroken : '\n' ∉ line) :
    retain keep line = if keep line then line else [] := by
  rw [retain_eq, List.splitOn_eq_singleton unbroken]
  rfl

theorem retain_append_newline {line : List Char} (unbroken : '\n' ∉ line) (rest : List Char) :
    retain keep (line ++ '\n' :: rest) =
      (if keep (dropReturn line) then line ++ ['\n'] else []) ++ retain keep rest := by
  rw [retain_eq, retain_eq, List.splitOn_append_cons_self_of_not_mem unbroken]
  cases pieces : rest.splitOn '\n' with
  | nil => exact absurd pieces (List.splitOn_ne_nil _ rest)
  | cons first others => rfl

/-- Induction over a text by its lines. -/
@[elab_as_elim]
theorem lineInduction {motive : List Char → Prop}
    (last : ∀ line, '\n' ∉ line → motive line)
    (more : ∀ line rest, '\n' ∉ line → motive rest → motive (line ++ '\n' :: rest))
    (text : List Char) : motive text := by
  by_cases broken : '\n' ∈ text
  · obtain ⟨line, rest, split, unbroken⟩ := List.eq_append_cons_of_mem broken
    have shorter : rest.length < text.length := by
      rw [split, List.length_append, List.length_cons]
      omega
    rw [split]
    exact more line rest unbroken (lineInduction last more rest)
  · exact last text broken
termination_by text.length

theorem lines_retain (text : List Char) : lines (retain keep text) = (lines text).filter keep := by
  induction text using lineInduction with
  | last line unbroken =>
      rw [retain_of_unbroken unbroken, lines_of_unbroken unbroken]
      by_cases kept : keep line = true
      · rw [if_pos kept, lines_of_unbroken unbroken]
        split <;> simp [kept]
      · rw [if_neg kept]
        split <;> simp [kept, lines_of_unbroken]
  | more line rest unbroken inductionHypothesis =>
      rw [retain_append_newline unbroken, lines_append_newline unbroken, List.filter_cons]
      by_cases kept : keep (dropReturn line) = true
      · rw [if_pos kept, if_pos kept, List.append_assoc, List.singleton_append,
          lines_append_newline unbroken, inductionHypothesis]
      · rw [if_neg kept, if_neg kept, List.nil_append, inductionHypothesis]

theorem unbroken_of_mem_lines {text line : List Char} (membership : line ∈ lines text) :
    '\n' ∉ line := by
  induction text using lineInduction with
  | last other unbroken =>
      rw [lines_of_unbroken unbroken] at membership
      split at membership
      · cases membership
      · obtain rfl := List.mem_singleton.mp membership
        exact unbroken
  | more first rest unbroken inductionHypothesis =>
      rw [lines_append_newline unbroken] at membership
      rcases List.mem_cons.mp membership with rfl | later
      · rcases dropReturn_cases first with same | returned
        · rwa [same]
        · rw [returned] at unbroken
          simpa using unbroken
      · exact inductionHypothesis later

theorem headD_words_trimStart (text : List Char) :
    (words (trimStart text)).headD [] = (trimStart text).takeWhile fun c => !isBlank c := by
  have start : ∀ c, (trimStart text).head? = some c → isBlank c = false :=
    fun c => head?_trimStart
  generalize trimStart text = body at start ⊢
  cases body with
  | nil => rfl
  | cons c rest =>
      have solid : ∀ d ∈ (c :: rest).takeWhile (fun c => !isBlank c), isBlank d = false := by
        intro d membership
        simpa using List.mem_takeWhile_imp membership
      have nonempty : (c :: rest).takeWhile (fun c => !isBlank c) ≠ [] := by
        simp [start c rfl]
      have whole := List.takeWhile_append_dropWhile (p := fun c => !isBlank c) (l := c :: rest)
      have stop := List.head?_dropWhile_not (fun c => !isBlank c) (c :: rest)
      generalize (c :: rest).takeWhile (fun c => !isBlank c) = word at solid nonempty whole ⊢
      rw [← whole]
      cases remainder : (c :: rest).dropWhile fun c => !isBlank c with
      | nil => rw [List.append_nil, words_of_solid nonempty solid, List.headD_cons]
      | cons d others =>
          rw [remainder] at stop
          have blank : isBlank d = true := by simpa using stop
          rw [words_append_cons blank, words_of_solid nonempty solid]
          rfl

/-- A word without white space starts a text exactly if it starts the first word of the text. -/
theorem prefix_headD_words_iff {word : List Char} (solid : ∀ c ∈ word, isBlank c = false)
    (text : List Char) :
    word <+: (words (trimStart text)).headD [] ↔ word <+: trimStart text := by
  rw [headD_words_trimStart]
  constructor
  · exact fun front => front.trans (List.takeWhile_prefix _)
  · rintro ⟨rest, whole⟩
    rw [← whole, List.takeWhile_append_of_pos (by simpa using solid)]
    exact List.prefix_append _ _

end Text

namespace Header

/-- The first word of a comment's line, or nothing if there is none. -/
def firstWord (line : List Char) : List Char := (Text.words (lineBody line)).headD []

def beginsWithPragma (line : List Char) : Bool := (Pragma.ofWord? (firstWord line)).isSome

/-- Whether the line begins with a word that starts with the letters of a pragma. -/
def beginsLikePragma (line : List Char) : Bool := opensWithPragma (firstWord line)

def Finding.isPath : Finding → Bool
  | path _ _ => true
  | _ => false

/-- Whether a pragma and a path for it stand anywhere among the words of the line. -/
def namesPath (line : List Char) : Bool :=
  (scanWords (Text.words (lineBody line))).any Finding.isPath

/-- The line names a path after a word that is no pragma and only starts like one. -/
def misleads (line : List Char) : Bool :=
  beginsLikePragma line && !beginsWithPragma line && namesPath line

theorem beginsLikePragma_eq (line : List Char) :
    beginsLikePragma line = opensWithPragma (lineBody line) := by
  have solid (pragma : Pragma) : ∀ c ∈ pragma.word.toList, Text.isBlank c = false := by
    intro c membership
    cases blank : Text.isBlank c with
    | false => rfl
    | true => exact absurd membership (notMem_word blank pragma)
  rw [Bool.eq_iff_iff, beginsLikePragma, opensWithPragma_iff, opensWithPragma_iff]
  apply exists_congr
  intro pragma
  exact Text.prefix_headD_words_iff (solid pragma) _

theorem any_isPath_scanLine (line : List Char) :
    (scanLine line).any Finding.isPath = (beginsLikePragma line && namesPath line) := by
  rw [scanLine, ← beginsLikePragma_eq]
  cases beginsLikePragma line <;> rfl

namespace Annotations

def get (annotations : Annotations) : Pragma → Option DottedPath
  | .jsx => annotations.jsx
  | .components => annotations.components

theorem foldl_add_of_pathless {findings : List Finding}
    (pathless : findings.any Finding.isPath = false) (annotations : Annotations) :
    findings.foldl add annotations = annotations := by
  induction findings with
  | nil => rfl
  | cons finding rest inductionHypothesis =>
      rw [List.any_cons, Bool.or_eq_false_iff] at pathless
      have same : annotations.add finding = annotations := by
        cases finding with
        | path pragma path => cases pathless.1
        | _ => rfl
      rw [List.foldl_cons, same, inductionHypothesis pathless.2]

theorem foldl_add_ne_empty {findings : List Finding} {annotations : Annotations}
    (set : findings.any Finding.isPath = true ∨ annotations ≠ empty) :
    findings.foldl add annotations ≠ empty := by
  induction findings generalizing annotations with
  | nil => exact set.resolve_left (by simp)
  | cons finding rest inductionHypothesis =>
      rw [List.foldl_cons]
      apply inductionHypothesis
      rw [List.any_cons, Bool.or_eq_true] at set
      rcases set with (here | later) | before
      · right
        cases finding with
        | path pragma path => cases pragma <;> simp [add, empty]
        | _ => cases here
      · exact .inl later
      · right
        cases finding with
        | path pragma path => cases pragma <;> simp [add, empty]
        | _ => exact before

/-- Lines without a path for the scan can be taken out of a text. -/
theorem scan_retain {keep : List Char → Bool} {text : List Char}
    (pathless : ∀ line ∈ Text.lines text, keep line = false →
      (scanLine line).any Finding.isPath = false) (annotations : Annotations) :
    annotations.scan (Text.retain keep text) = annotations.scan text := by
  unfold scan scanComment
  rw [Text.lines_retain]
  generalize Text.lines text = lines at pathless
  induction lines generalizing annotations with
  | nil => rfl
  | cons line rest inductionHypothesis =>
      obtain ⟨here, later⟩ := List.forall_mem_cons.mp pathless
      rw [List.flatMap_cons, List.foldl_append]
      by_cases kept : keep line = true
      · rw [List.filter_cons_of_pos kept, List.flatMap_cons, List.foldl_append,
          inductionHypothesis _ later]
      · rw [List.filter_cons_of_neg kept, foldl_add_of_pathless (here (by simpa using kept)),
          inductionHypothesis _ later]

theorem scan_retain_beginsWithPragma {text : List Char}
    (honest : ∀ line ∈ Text.lines text, misleads line = false) (annotations : Annotations) :
    annotations.scan (Text.retain beginsWithPragma text) = annotations.scan text := by
  apply scan_retain
  intro line membership other
  have harmless := honest line membership
  rw [misleads, other, Bool.not_false, Bool.and_true] at harmless
  rw [any_isPath_scanLine, harmless]

end Annotations

theorem misleads_iff {line : List Char} (unbroken : '\n' ∉ line) :
    misleads line = true ↔ ∃ annotations : Annotations,
      annotations.scan (Text.retain beginsWithPragma line) ≠ annotations.scan line := by
  constructor
  · intro misled
    simp only [misleads, Bool.and_eq_true, Bool.not_eq_true'] at misled
    obtain ⟨⟨like, other⟩, names⟩ := misled
    -- The line is taken out whole, and an empty comment sets nothing.
    refine ⟨.empty, ?_⟩
    rw [Text.retain_of_unbroken unbroken, other]
    refine Ne.symm (Annotations.foldl_add_ne_empty (.inl ?_))
    rw [scanComment_of_unbroken unbroken, any_isPath_scanLine, like, names]
    rfl
  · rintro ⟨annotations, differ⟩
    by_contra honest
    apply differ
    apply Annotations.scan_retain_beginsWithPragma
    intro other membership
    rw [Text.lines_of_unbroken unbroken] at membership
    split at membership
    · cases membership
    · obtain rfl := List.mem_singleton.mp membership
      simpa using honest

/-- Lines count by the letters they begin with. Taking out of a comment all lines whose first word
does not start with the letters of a pragma changes no annotations. Taking out all lines whose
first word is not a pragma itself changes none either, unless one of them misleads, and a line on
its own misleads exactly if taking it out makes a difference. -/
theorem scan_counts_lines_like_pragmas (text : List Char) :
    (∀ annotations : Annotations,
      annotations.scan (Text.retain beginsLikePragma text) = annotations.scan text) ∧
    ((∀ line ∈ Text.lines text, misleads line = false) → ∀ annotations : Annotations,
      annotations.scan (Text.retain beginsWithPragma text) = annotations.scan text) ∧
    ∀ line ∈ Text.lines text, misleads line = true ↔ ∃ annotations : Annotations,
      annotations.scan (Text.retain beginsWithPragma line) ≠ annotations.scan line := by
  refine ⟨?_, Annotations.scan_retain_beginsWithPragma, ?_⟩
  · apply Annotations.scan_retain
    intro line _ unlike
    rw [any_isPath_scanLine, unlike, Bool.false_and]
  · intro line membership
    exact misleads_iff (Text.unbroken_of_mem_lines membership)

/-- A docblock with the tag of another tool, prose about a pragma, and an annotation. -/
def runtimeDocblock : List Char :=
  "/**\n * @jsxRuntime classic\r\n * See @jsx X\n * @jsx h\n */".toList

theorem scan_counts_lines_like_pragmas_runtime :
    Text.retain beginsWithPragma runtimeDocblock = " * @jsx h\n".toList ∧
    (∀ line ∈ Text.lines runtimeDocblock, misleads line = false) ∧
    Annotations.empty.scan " * @jsx h\n".toList = Annotations.empty.scan runtimeDocblock := by
  have left : Text.retain beginsWithPragma runtimeDocblock = " * @jsx h\n".toList := by
    decide +kernel
  have honest : ∀ line ∈ Text.lines runtimeDocblock, misleads line = false := by
    decide +kernel
  refine ⟨left, honest, ?_⟩
  rw [← left]
  exact (scan_counts_lines_like_pragmas runtimeDocblock).2.1 honest .empty

/-- A line that begins with the tag of another tool still sets a target. -/
theorem scan_misled_by_runtime :
    Text.retain beginsWithPragma "/* @jsxRuntime classic @jsx h */".toList = [] ∧
    Annotations.empty.scan [] = .empty ∧
    Annotations.empty.scan "/* @jsxRuntime classic @jsx h */".toList =
      ⟨some ⟨["h"], by decide, by decide⟩, none⟩ := by
  decide +kernel

end Header

end JsxLowering
