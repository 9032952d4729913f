import Mathlib.Data.List.TakeWhile
import JsxLowering.Proofs.Independence
import JsxLowering.Proofs.Scanning
import JsxLowering.Proofs.Tracing

set_option autoImplicit false

/-!
Header comments that are made of annotations and nothing else. A docblock lays out pairs of
a pragma and a path over lines, and however it does so, scanning its text finds these pairs
in their order. A program with such a header is lowered as a program without one is under
options that hold the last path of either pragma.
-/

namespace JsxLowering

namespace Docblock

/-- White space within a line, such as the carriage return before a line feed. -/
structure Spacing where
  text : List Char
  blank : ∀ c ∈ text, Text.isBlank c = true
  unbroken : '\n' ∉ text

/-- White space between two words of a line. -/
structure Gap extends Spacing where
  nonempty : text ≠ []

/-- A pragma and its path. All characters of the path can be told from the end of a comment. -/
structure Pair where
  pragma : Pragma
  gap : Gap
  path : DottedPath
  plain : ∀ c ∈ path.toText.toList, Header.isPathChar c = true

def Pair.text (pair : Pair) : List Char :=
  pair.pragma.word.toList ++ (pair.gap.text ++ pair.path.toText.toList)

def Pair.finding (pair : Pair) : Header.Finding := .path pair.pragma pair.path

/-- The pairs of one line, with white space between any two of them and maybe after the last. -/
inductive Row where
  | empty
  | last (pair : Pair)
  | more (pair : Pair) (gap : Gap) (rest : Row)

namespace Row

def text : Row → List Char
  | empty => []
  | last pair => pair.text
  | more pair gap rest => pair.text ++ (gap.text ++ rest.text)

def pairs : Row → List Pair
  | empty => []
  | last pair => [pair]
  | more pair _ rest => pair :: rest.pairs

end Row

/-- How a comment is opened. -/
inductive Opening where
  | block
  | documentation

def Opening.text : Opening → List Char
  | block => ['/', '*']
  | documentation => ['/', '*', '*']

/-- A line after the first one, which may go on with a star. -/
structure Line where
  indent : Spacing
  star : Bool
  spacing : Spacing
  row : Row

/-- What stands before the pairs of a line. -/
def Line.lead (line : Line) : List Char :=
  line.indent.text ++ ((if line.star then ['*'] else []) ++ line.spacing.text)

/-- What stands after the pairs of a line, when some more lines follow: these lines and the end
of the comment. -/
def remainder (closing : Spacing) : List Line → List Char
  | [] => closing.text ++ ['*', '/']
  | line :: rest => '\n' :: (line.lead ++ (line.row.text ++ remainder closing rest))

end Docblock

/-- A comment that is made of annotations. It is closed where its last line ends: after the
last path or the white space there, or on a line of its own if that has no pairs. -/
structure Docblock where
  opening : Docblock.Opening
  spacing : Docblock.Spacing
  first : Docblock.Row
  further : List Docblock.Line
  closing : Docblock.Spacing

namespace Docblock

def text (docblock : Docblock) : List Char :=
  docblock.opening.text ++ docblock.spacing.text ++
    (docblock.first.text ++ remainder docblock.closing docblock.further)

/-- All pairs in the order of the text. -/
def pairs (docblock : Docblock) : List Pair :=
  docblock.first.pairs ++ docblock.further.flatMap fun line => line.row.pairs

/-- The last path that is given for a pragma. -/
def path? (docblock : Docblock) (pragma : Pragma) : Option DottedPath :=
  (docblock.pairs.filter fun pair => pair.pragma = pragma).getLast?.map Pair.path

/-- The options with the paths of the docblock in place of their own. -/
def override (docblock : Docblock) (options : Options) : Options :=
  { options with
    dom := (docblock.path? .jsx).getD options.dom
    components := (docblock.path? .components).or options.components }

theorem Spacing.notMem {c : Char} (visible : Text.isBlank c = false) (spacing : Spacing) :
    c ∉ spacing.text := by
  intro membership
  rw [spacing.blank c membership] at visible
  cases visible

theorem Spacing.trimStart_append (spacing : Spacing) (rest : List Char) :
    Text.trimStart (spacing.text ++ rest) = Text.trimStart rest :=
  List.dropWhile_append_of_pos spacing.blank

/-- A lead of a line, which is taken off before the line is searched for pairs. -/
structure Introduces (lead : List Char) : Prop where
  body : ∀ rest, Header.lineBody (lead ++ '@' :: rest) = '@' :: rest
  silent : '@' ∉ lead
  unbroken : '\n' ∉ lead

theorem dropPunctuation_block (spacing : Spacing) (rest : List Char) :
    Header.dropPunctuation ('/' :: '*' :: (spacing.text ++ '@' :: rest)) =
      spacing.text ++ '@' :: rest := by
  have starless := spacing.notMem (c := '*') rfl
  cases given : spacing.text with
  | nil => rfl
  | cons c others =>
      have plain : c ≠ '*' := by
        rintro rfl
        simp [given] at starless
      simp [Header.dropPunctuation, plain]

theorem introduces_opening (opening : Opening) (spacing : Spacing) :
    Introduces (opening.text ++ spacing.text) where
  body rest := by
    have trimmed : Text.trimStart (spacing.text ++ '@' :: rest) = '@' :: rest :=
      spacing.trimStart_append _
    cases opening with
    | block =>
        calc
          Header.lineBody (Opening.block.text ++ spacing.text ++ '@' :: rest)
              = Text.trimStart
                  (Header.dropPunctuation ('/' :: '*' :: (spacing.text ++ '@' :: rest))) := by
                rw [List.append_assoc]
                rfl
          _ = Text.trimStart (spacing.text ++ '@' :: rest) := by rw [dropPunctuation_block]
          _ = '@' :: rest := trimmed
    | documentation =>
        rw [List.append_assoc]
        exact trimmed
  silent := by
    have absent := spacing.notMem (c := '@') rfl
    cases opening <;> simp [Opening.text, absent]
  unbroken := by
    have absent := spacing.unbroken
    cases opening <;> simp [Opening.text, absent]

theorem introduces_lead (line : Line) : Introduces line.lead where
  body rest := by
    have trimmed : Text.trimStart (line.spacing.text ++ '@' :: rest) = '@' :: rest :=
      line.spacing.trimStart_append _
    unfold Header.lineBody Line.lead
    rw [List.append_assoc, line.indent.trimStart_append]
    cases line.star with
    | true => exact trimmed
    | false =>
        simp only [Bool.false_eq_true, if_false, List.nil_append, trimmed]
        rfl
  silent := by
    have indent := line.indent.notMem (c := '@') rfl
    have spacing := line.spacing.notMem (c := '@') rfl
    unfold Line.lead
    cases line.star <;> simp [indent, spacing]
  unbroken := by
    have indent := line.indent.unbroken
    have spacing := line.spacing.unbroken
    unfold Line.lead
    cases line.star <;> simp [indent, spacing]

/-- What can stand after the pairs of a line up to its end. -/
inductive Ending : List Char → Prop where
  | line : Ending []
  | comment (closing : Spacing) : Ending (closing.text ++ ['*', '/'])

theorem scanWords_stop : Header.scanWords (Text.words ['*', '/']) = [] := by decide +kernel

namespace Pair

variable (pair : Pair)

theorem solid_path : ∀ c ∈ pair.path.toText.toList, Text.isBlank c = false := by
  intro c membership
  exact Header.not_isBlank_of_isPathChar (pair.plain c membership)

theorem path_ne_nil : pair.path.toText.toList ≠ [] := by
  simpa using pair.path.toText_ne_empty

theorem words_text_append (rest : List Char) :
    Text.words (pair.text ++ rest) =
      pair.pragma.word.toList :: Text.words (pair.path.toText.toList ++ rest) := by
  have word : Text.words pair.pragma.word.toList = [pair.pragma.word.toList] := by
    cases pair.pragma <;> decide +kernel
  rw [text, List.append_assoc, List.append_assoc,
    Text.words_append_gap pair.gap.nonempty pair.gap.blank, word]
  rfl

theorem findingOf_path :
    Header.findingOf pair.pragma pair.path.toText.toList = pair.finding := by
  have whole : pair.path.toText.toList.takeWhile Header.isPathChar = pair.path.toText.toList :=
    List.takeWhile_eq_self_iff.mpr pair.plain
  rw [Header.findingOf, whole, String.ofList_toList, DottedPath.parse_toText]
  rfl

theorem scanWords_last {tail : List Char} (ending : Ending tail) :
    Header.scanWords (Text.words (pair.text ++ tail)) = [pair.finding] := by
  have alone : Text.words pair.path.toText.toList = [pair.path.toText.toList] :=
    Text.words_of_solid pair.path_ne_nil pair.solid_path
  have solidStop : ∀ c ∈ ['*', '/'], Text.isBlank c = false := by simp [Text.isBlank]
  rw [words_text_append]
  cases ending with
  | line =>
      rw [List.append_nil, alone, Header.scanWords_word_cons, findingOf_path]
      rfl
  | comment closing =>
      by_cases glued : closing.text = []
      · have word : Text.words (pair.path.toText.toList ++ ['*', '/']) =
            [pair.path.toText.toList ++ ['*', '/']] := by
          apply Text.words_of_solid (by simp)
          intro c membership
          rcases List.mem_append.mp membership with path | stop
          · exact pair.solid_path c path
          · exact solidStop c stop
        have foreign : ∀ c ∈ ['*', '/'].head?, Header.isPathChar c = false := by
          rintro c ⟨⟩
          decide +kernel
        rw [glued, List.nil_append, word, Header.scanWords_word_cons,
          Header.findingOf_append _ _ _ foreign, findingOf_path]
        rfl
      · rw [Text.words_append_gap glued closing.blank, alone, List.singleton_append,
          Header.scanWords_word_cons, findingOf_path, scanWords_stop]

theorem scanWords_more (gap : Gap) (rest : List Char) :
    Header.scanWords (Text.words (pair.text ++ (gap.text ++ rest))) =
      pair.finding :: Header.scanWords (Text.words rest) := by
  rw [words_text_append, Text.words_append_gap gap.nonempty gap.blank,
    Text.words_of_solid pair.path_ne_nil pair.solid_path, List.singleton_append,
    Header.scanWords_word_cons, findingOf_path]

theorem notMem_newline : '\n' ∉ pair.text := by
  have word := Header.notMem_word (c := '\n') rfl pair.pragma
  have gap := pair.gap.unbroken
  have path : '\n' ∉ pair.path.toText.toList := by
    intro membership
    exact absurd (pair.solid_path _ membership) (by decide)
  simp [text, word, gap, path]

end Pair

namespace Row

theorem scanWords_text {tail : List Char} (ending : Ending tail) (row : Row) :
    Header.scanWords (Text.words (row.text ++ tail)) = row.pairs.map Pair.finding := by
  induction row with
  | empty =>
      cases ending with
      | line => rfl
      | comment closing =>
          rw [text, List.nil_append, Text.words_blank_append closing.blank, scanWords_stop]
          rfl
  | last pair => exact pair.scanWords_last ending
  | more pair gap rest inductionHypothesis =>
      rw [text, List.append_assoc, List.append_assoc, pair.scanWords_more, inductionHypothesis]
      rfl

theorem notMem_newline (row : Row) : '\n' ∉ row.text := by
  induction row with
  | empty => simp [text]
  | last pair => exact pair.notMem_newline
  | more pair gap rest inductionHypothesis =>
      simp [text, pair.notMem_newline, gap.unbroken, inductionHypothesis]

theorem eq_empty_or_opens (row : Row) :
    row = empty ∨ ∃ pragma : Pragma, pragma.word.toList <+: row.text := by
  cases row with
  | empty => exact .inl rfl
  | last pair => exact .inr ⟨pair.pragma, List.prefix_append _ _⟩
  | more pair gap rest =>
      exact .inr ⟨pair.pragma, (List.prefix_append _ _).trans (List.prefix_append _ _)⟩

end Row

theorem Ending.notMem {tail : List Char} (ending : Ending tail) : '@' ∉ tail := by
  cases ending with
  | line => simp
  | comment closing => simp [closing.notMem (c := '@') rfl]

/-- A line says what its pairs say. -/
theorem scanLine_row {lead tail : List Char} (introduces : Introduces lead)
    (ending : Ending tail) (row : Row) :
    Header.scanLine (lead ++ (row.text ++ tail)) = row.pairs.map Pair.finding := by
  rcases row.eq_empty_or_opens with rfl | ⟨pragma, opens⟩
  · apply Header.scanLine_of_notMem
    simp [Row.text, introduces.silent, ending.notMem]
  · have later : pragma.word.toList <+: row.text ++ tail := opens.trans (List.prefix_append _ _)
    obtain ⟨rest, start⟩ : ∃ rest, row.text ++ tail = '@' :: rest := by
      obtain ⟨rest, whole⟩ := later
      rw [← whole]
      cases pragma <;> exact ⟨_, rfl⟩
    have body : Header.lineBody (lead ++ (row.text ++ tail)) = row.text ++ tail := by
      rw [start]
      exact introduces.body rest
    rw [Header.scanLine, body, if_pos ((Header.opensWithPragma_iff _).mpr ⟨pragma, later⟩),
      row.scanWords_text ending]

theorem scanComment_lines (closing : Spacing) (further : List Line) :
    ∀ {lead : List Char}, Introduces lead → ∀ row : Row,
      Header.scanComment (lead ++ (row.text ++ remainder closing further)) =
        (row.pairs ++ further.flatMap fun line => line.row.pairs).map Pair.finding := by
  induction further with
  | nil =>
      intro lead introduces row
      have unbroken : '\n' ∉ lead ++ (row.text ++ (closing.text ++ ['*', '/'])) := by
        simp [introduces.unbroken, row.notMem_newline, closing.unbroken]
      rw [remainder, Header.scanComment_of_unbroken unbroken,
        scanLine_row introduces (.comment closing)]
      simp
  | cons line rest inductionHypothesis =>
      intro lead introduces row
      have unbroken : '\n' ∉ lead ++ row.text := by
        simp [introduces.unbroken, row.notMem_newline]
      have here := scanLine_row introduces .line row
      rw [List.append_nil] at here
      rw [remainder, ← List.append_assoc, Header.scanComment_append_newline unbroken, here,
        inductionHypothesis (introduces_lead line)]
      simp

/-- However the pairs are laid out, they are found in their order and nothing else is. -/
theorem scanComment_text (docblock : Docblock) :
    Header.scanComment docblock.text = docblock.pairs.map Pair.finding :=
  scanComment_lines docblock.closing docblock.further
    (introduces_opening docblock.opening docblock.spacing) docblock.first

theorem getLast?_filter_cons (pragma : Pragma) (pair : Pair) (rest : List Pair) :
    (((pair :: rest).filter fun pair => pair.pragma = pragma).getLast?.map Pair.path) =
      ((rest.filter fun pair => pair.pragma = pragma).getLast?.map Pair.path).or
        (if pair.pragma = pragma then some pair.path else none) := by
  by_cases same : pair.pragma = pragma
  · rw [List.filter_cons_of_pos (by simpa using same), if_pos same, List.getLast?_cons]
    cases (rest.filter fun pair => pair.pragma = pragma).getLast? <;> rfl
  · rw [List.filter_cons_of_neg (by simpa using same), if_neg same, Option.or_none]

/-- Of several paths for one pragma the last one stays. -/
theorem foldl_add (pairs : List Pair) (annotations : Header.Annotations) :
    (pairs.map Pair.finding).foldl Header.Annotations.add annotations =
      ⟨((pairs.filter fun pair => pair.pragma = .jsx).getLast?.map Pair.path).or annotations.jsx,
        ((pairs.filter fun pair => pair.pragma = .components).getLast?.map Pair.path).or
          annotations.components⟩ := by
  induction pairs generalizing annotations with
  | nil => rfl
  | cons pair rest inductionHypothesis =>
      rw [List.map_cons, List.foldl_cons, inductionHypothesis, getLast?_filter_cons,
        getLast?_filter_cons]
      cases given : pair.pragma <;>
        simp [Pair.finding, Header.Annotations.add, given]

end Docblock

namespace Program

variable {program : Program} {comment : Comment} {docblock : Docblock}

theorem texts_of_docblock (only : program.Leads [comment] []) (block : comment.block = true)
    (text : program.Holds comment docblock.text) : Header.texts program = [docblock.text] := by
  rw [Header.texts, Header.comments_of_leads only, List.filter_cons_of_pos block, List.filter_nil,
    List.map_singleton, Header.commentText_of_holds text]

theorem annotations_of_docblock (only : program.Leads [comment] []) (block : comment.block = true)
    (text : program.Holds comment docblock.text) :
    Header.annotations program = ⟨docblock.path? .jsx, docblock.path? .components⟩ := by
  rw [Header.annotations, Header.findings_eq, texts_of_docblock only block text,
    List.flatMap_singleton, docblock.scanComment_text, Docblock.foldl_add]
  simp [Docblock.path?, Header.Annotations.empty]

theorem targets_of_docblock {options : Options} (targeted : options.mode = .targeted)
    (only : program.Leads [comment] []) (block : comment.block = true)
    (text : program.Holds comment docblock.text) {plain : Program} (bare : plain.comments = []) :
    program.targets options = plain.targets (docblock.override options) := by
  have unannotated : Header.annotations plain = .empty := by
    simp [Header.annotations, Header.findings, Header.comments, bare]
  simp [targets, Targets.ofOptions, effectiveAnnotations, Docblock.override, targeted,
    annotations_of_docblock only block text, unannotated, Header.Annotations.empty]

end Program

/-- A header of annotations is nothing but options for its file. Take a docblock in any layout,
a program whose only comment it is, before its code, and a program with the same code and no
comments. In targeted mode the first one is lowered under any options to what the second one
is lowered to under these options with the last paths of the docblock, with the same
diagnostics or count, and with the same traces. -/
theorem docblock_acts_as_options (docblock : Docblock) (options : Options)
    (targeted : options.mode = .targeted) (annotated plain : Program)
    (code : annotated.SameCode plain) (comment : Comment) (block : comment.block = true)
    (only : annotated.Leads [comment] []) (text : annotated.Holds comment docblock.text)
    (bare : plain.comments = []) :
    (transform options annotated).outcome.map Lowered.content =
      (transform (docblock.override options) plain).outcome.map Lowered.content ∧
    ((transform options annotated).log.filter fun event => event.level = .trace) =
      (transform (docblock.override options) plain).log.filter
        fun event => event.level = .trace := by
  have targets := Program.targets_of_docblock targeted only block text bare
  have same : annotated.lowerBody options = plain.lowerBody (docblock.override options) := by
    rw [Program.lowerBody, Program.lowerBody, targets, code.body]
  refine ⟨Program.outcome_congr code same, ?_⟩
  rw [Program.filter_log_trace, Program.filter_log_trace, Program.postorder, Program.postorder,
    code.body]

namespace Docblock

/-- A single blank character between two words. -/
def Gap.single (c : Char) (blank : Text.isBlank c = true) (unbroken : c ≠ '\n') : Gap :=
  ⟨⟨[c], by simpa using blank, by simpa using unbroken.symm⟩, by simp⟩

/-- Three pairs on two lines, the first line closed by a carriage return. -/
def twoLines : Docblock where
  opening := .documentation
  spacing := space.toSpacing
  first := .more (pair .jsx ⟨["A", "b"], by decide, by decide⟩ (by decide +kernel))
    (.single '\r' rfl (by decide)) .empty
  further := [{
    indent := space.toSpacing
    star := true
    spacing := (Gap.single '\t' rfl (by decide)).toSpacing
    row := .more
      (pair .components ⟨["App", "UI"], by decide, by decide⟩ (by decide +kernel)) space
      (.last (pair .jsx ⟨["h", "dom"], by decide, by decide⟩ (by decide +kernel))) }]
  closing := ⟨[], by simp, by simp⟩
where
  space : Gap := .single ' ' rfl (by decide)
  pair (pragma : Pragma) (path : DottedPath)
      (plain : path.toText.toList.all Header.isPathChar = true) : Pair :=
    ⟨pragma, space, path, List.all_eq_true.mp plain⟩

end Docblock

/-- The program `<Foo><div/></Foo>` after a docblock. -/
def Program.annotated : Program where
  source := "/** @jsx A.b\r\n *\t@components App.UI @jsx h.dom*/\n<Foo><div/></Foo>;"
  comments := [{ span := ⟨0, 48⟩, block := true }]
  directives := []
  body :=
    [.expression ⟨49, 67⟩ (.markup
      (.element ⟨49, 66⟩ ⟨49, 54⟩ (.reference ⟨⟨50, 53⟩, "Foo"⟩) [] [.markup
        (.element ⟨54, 60⟩ ⟨54, 60⟩ (.intrinsic ⟨⟨55, 58⟩, "div"⟩) [] [])]))]

theorem docblock_acts_as_options_two_lines :
    let options := { Options.standard with mode := .targeted }
    let replaced := { options with
      dom := ⟨["h", "dom"], by decide, by decide⟩
      components := some ⟨["App", "UI"], by decide, by decide⟩ }
    let plain := { Program.annotated with comments := [] }
    Program.annotated.source =
        String.ofList Docblock.twoLines.text ++ "\n<Foo><div/></Foo>;" ∧
      (transform options .annotated).outcome.map Lowered.content =
        (transform replaced plain).outcome.map Lowered.content ∧
      ((transform options .annotated).log.filter fun event => event.level = .trace) =
        (transform replaced plain).log.filter fun event => event.level = .trace := by
  intro options replaced plain
  have only : Program.annotated.Leads Program.annotated.comments [] := by decide
  have text : Program.annotated.Holds { span := ⟨0, 48⟩, block := true }
      Docblock.twoLines.text := by
    refine ⟨[], "\n<Foo><div/></Foo>;".toList, ?_, rfl, ?_⟩ <;> decide +kernel
  have source : Program.annotated.source =
      String.ofList Docblock.twoLines.text ++ "\n<Foo><div/></Foo>;" := by decide +kernel
  have given : Docblock.twoLines.override options = replaced := by decide +kernel
  refine ⟨source, ?_⟩
  rw [← given]
  exact docblock_acts_as_options .twoLines options rfl .annotated plain ⟨rfl, rfl⟩ _ rfl only text
    rfl

end JsxLowering
