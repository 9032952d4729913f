import Mathlib.Data.List.TakeWhile
import JsxLowering.Proofs.PragmaLines

set_option autoImplicit false

/-!
Paths in annotations. The end of a comment may be glued to a path, so that the path is cut at the
first character of a class. The class does not hold all characters of identifier names: marks and
joiners are missing. A path with one of them is cut short, to another path or to none, and every
other path is read as it is written.
-/

namespace JsxLowering

theorem Text.mem_pieces_of_mem (cut : Char → Bool) {text : List Char} {c : Char}
    (membership : c ∈ text) : cut c = true ∨ ∃ piece ∈ pieces cut text, c ∈ piece := by
  induction text with
  | nil => cases membership
  | cons d rest inductionHypothesis =>
      rw [pieces]
      by_cases divides : cut d = true
      · rw [if_pos divides]
        rcases List.mem_cons.mp membership with rfl | later
        · exact .inl divides
        · obtain here | ⟨piece, among, inside⟩ := inductionHypothesis later
          · exact .inl here
          · exact .inr ⟨piece, List.mem_cons_of_mem _ among, inside⟩
      · rw [if_neg divides]
        split
        next nothing => exact absurd nothing (pieces_ne_nil cut rest)
        next first others given =>
          rcases List.mem_cons.mp membership with rfl | later
          · exact .inr ⟨c :: first, List.mem_cons_self, List.mem_cons_self⟩
          · obtain here | ⟨piece, among, inside⟩ := inductionHypothesis later
            · exact .inl here
            · rw [given] at among
              rcases List.mem_cons.mp among with rfl | other
              · exact .inr ⟨d :: piece, List.mem_cons_self, List.mem_cons_of_mem _ inside⟩
              · exact .inr ⟨piece, List.mem_cons_of_mem _ other, inside⟩

theorem solid_of_isIdentifierName {name : String} (valid : isIdentifierName name = true) :
    ∀ c ∈ name.toList, Text.isBlank c = false := by
  unfold isIdentifierName at valid
  split at valid
  next _ => cases valid
  next first rest given =>
    simp only [Bool.and_eq_true, List.all_eq_true] at valid
    rw [given]
    intro c membership
    cases blank : Text.isBlank c with
    | false => rfl
    | true =>
        rcases List.mem_cons.mp membership with rfl | later
        · have unfit : Text.isNameStart c = false :=
            Text.eq_false_of_blank (by decide +kernel) blank
          rw [valid.1] at unfit
          cases unfit
        · have unfit : Text.isNamePart c = false :=
            Text.eq_false_of_blank (by decide +kernel) blank
          rw [valid.2 c later] at unfit
          cases unfit

theorem DottedPath.solid_of_parse {text : String} {path : DottedPath}
    (parsed : parse text = .ok path) : ∀ c ∈ text.toList, Text.isBlank c = false := by
  intro c membership
  rcases Text.mem_pieces_of_mem (· == '.') membership with dot | ⟨piece, among, inside⟩
  · obtain rfl := beq_iff_eq.mp dot
    decide
  · have segment : String.ofList piece ∈ path.segments := by
      rw [segments_of_parse parsed]
      exact List.mem_map_of_mem among
    exact solid_of_isIdentifierName (path.valid _ segment) c (by simpa using inside)

namespace Header

/-- How the end of a comment follows a path. -/
inductive Closing where
  | spaced
  | glued

def Closing.text : Closing → List Char
  | spaced => [' ', '*', '/']
  | glued => ['*', '/']

/-- The comment that gives a path for a pragma. -/
def annotationText (pragma : Pragma) (path : String) (closing : Closing) : List Char :=
  '/' :: '*' :: '*' :: ' ' :: (pragma.word.toList ++ ' ' :: (path.toList ++ closing.text))

/-- The part of a path that is read: up to the first character that could end it. -/
def readPart (path : String) : String := String.ofList (path.toList.takeWhile isPathChar)

theorem readPart_eq_self_iff (path : String) :
    readPart path = path ↔ ∀ c ∈ path.toList, isPathChar c = true := by
  rw [readPart, ← String.toList_inj, String.toList_ofList, List.takeWhile_eq_self_iff]

section

variable {path : String} (nonempty : path.toList ≠ [])
  (solid : ∀ c ∈ path.toList, Text.isBlank c = false) (pragma : Pragma) (closing : Closing)

include nonempty solid

theorem scanWords_annotationText :
    scanWords (Text.words (pragma.word.toList ++ ' ' :: (path.toList ++ closing.text))) =
      [findingOf pragma path.toList] := by
  have first : Text.words pragma.word.toList = [pragma.word.toList] := by
    cases pragma <;> decide +kernel
  rw [Text.words_append_cons (by decide), first, List.singleton_append]
  cases closing with
  | spaced =>
      have stop : scanWords (Text.words ['*', '/']) = [] := by decide +kernel
      have words : Text.words (path.toList ++ [' ', '*', '/']) =
          path.toList :: Text.words ['*', '/'] := by
        rw [Text.words_append_cons (by decide), Text.words_of_solid nonempty solid,
          List.singleton_append]
      rw [Closing.text, words, scanWords_word_cons, stop]
  | glued =>
      have words : Text.words (path.toList ++ ['*', '/']) = [path.toList ++ ['*', '/']] := by
        apply Text.words_of_solid (by simp)
        rw [List.forall_mem_append]
        exact ⟨solid, by simp [Text.isBlank]⟩
      have foreign : ∀ c ∈ ['*', '/'].head?, isPathChar c = false := by
        rintro c ⟨⟩
        decide +kernel
      rw [Closing.text, words, scanWords_word_cons, findingOf_append pragma _ _ foreign, scanWords]

theorem scanComment_annotationText :
    scanComment (annotationText pragma path closing) = [findingOf pragma path.toList] := by
  have unbroken : '\n' ∉ annotationText pragma path closing := by
    have word := notMem_word (c := '\n') rfl pragma
    have inside : '\n' ∉ path.toList := by
      intro membership
      exact absurd (solid _ membership) (by decide)
    cases closing <;> simp [annotationText, Closing.text, word, inside]
  have body : lineBody (annotationText pragma path closing) =
      pragma.word.toList ++ ' ' :: (path.toList ++ closing.text) := by
    cases pragma <;> rfl
  have opens :
      opensWithPragma (pragma.word.toList ++ ' ' :: (path.toList ++ closing.text)) = true :=
    (opensWithPragma_iff _).mpr ⟨pragma, List.prefix_append _ _⟩
  rw [scanComment_of_unbroken unbroken, scanLine, body, if_pos opens,
    scanWords_annotationText nonempty solid]

end

namespace Annotations

theorem get_add_findingOf_self (annotations : Annotations) (pragma : Pragma) (word : List Char) :
    (annotations.add (findingOf pragma word)).get pragma =
      (DottedPath.parse (String.ofList (word.takeWhile isPathChar))).toOption.or
        (annotations.get pragma) := by
  unfold findingOf
  split
  next path parsed => cases pragma <;> simp [add, get, parsed, Except.toOption]
  next cause parsed => simp [add, parsed, Except.toOption]

theorem get_add_findingOf_of_ne (annotations : Annotations) {pragma other : Pragma}
    (different : other ≠ pragma) (word : List Char) :
    (annotations.add (findingOf pragma word)).get other = annotations.get other := by
  unfold findingOf
  split
  next path parsed => cases pragma <;> cases other <;> first | rfl | exact absurd rfl different
  next cause parsed => rfl

end Annotations

/-- Of a path in an annotation the part up to the first foreign character is read, and if that is
a path it is set for the pragma and for no other. So exactly the paths without such a character
are set as they are, in whatever state and however the comment ends. -/
theorem annotation_keeps_path_iff (text : String) (path : DottedPath)
    (parsed : DottedPath.parse text = .ok path) (pragma : Pragma) (closing : Closing) :
    (∀ annotations : Annotations,
      (annotations.scan (annotationText pragma text closing)).get pragma =
          (DottedPath.parse (readPart text)).toOption.or (annotations.get pragma) ∧
        ∀ other, other ≠ pragma →
          (annotations.scan (annotationText pragma text closing)).get other =
            annotations.get other) ∧
    ((∀ annotations : Annotations,
        (annotations.scan (annotationText pragma text closing)).get pragma = some path) ↔
      ∀ c ∈ text.toList, isPathChar c = true) := by
  have written := DottedPath.toText_of_parse parsed
  have nonempty : text.toList ≠ [] := by
    simpa [written] using path.toText_ne_empty
  have scanned (annotations : Annotations) :
      annotations.scan (annotationText pragma text closing) =
        annotations.add (findingOf pragma text.toList) := by
    rw [Annotations.scan, scanComment_annotationText nonempty (DottedPath.solid_of_parse parsed)]
    rfl
  have set (annotations : Annotations) :
      (annotations.scan (annotationText pragma text closing)).get pragma =
        (DottedPath.parse (readPart text)).toOption.or (annotations.get pragma) := by
    rw [scanned]
    exact annotations.get_add_findingOf_self pragma text.toList
  refine ⟨fun annotations => ⟨set annotations, ?_⟩, ?_⟩
  · intro other different
    rw [scanned, annotations.get_add_findingOf_of_ne different]
  · rw [← readPart_eq_self_iff]
    constructor
    · intro kept
      -- Nothing was set before, so that the path can only come from the part that is read.
      have read : (DottedPath.parse (readPart text)).toOption = some path := by
        have result := (set .empty).symm.trans (kept .empty)
        cases pragma <;> simpa [Annotations.empty, Annotations.get] using result
      cases again : DottedPath.parse (readPart text) with
      | error cause => simp [again, Except.toOption] at read
      | ok other =>
          rw [again] at read
          cases read
          rw [← DottedPath.toText_of_parse again, written]
    · intro whole annotations
      rw [set, whole, parsed]
      rfl

theorem annotation_keeps_path_components :
    let path : DottedPath := ⟨["App", "$ui2"], by decide, by decide⟩
    DottedPath.parse "App.$ui2" = .ok path ∧
    ("App.$ui2".toList.all isPathChar = true) ∧
    annotationText .components "App.$ui2" .glued = "/** @components App.$ui2*/".toList ∧
    (Annotations.empty.scan (annotationText .components "App.$ui2" .glued)).get .components =
      some path := by
  intro path
  have parsed : DottedPath.parse "App.$ui2" = .ok path := by decide +kernel
  have plain : "App.$ui2".toList.all isPathChar = true := by decide +kernel
  refine ⟨parsed, plain, by decide +kernel, ?_⟩
  exact (annotation_keeps_path_iff _ path parsed .components .glued).2.mpr
    (List.all_eq_true.mp plain) .empty

/-- A middle dot is a part of identifier names and ends a path. -/
theorem annotation_cuts_path_at_middle_dot :
    DottedPath.parse "l·l" = .ok ⟨["l·l"], by decide, by decide +kernel⟩ ∧
    (Annotations.empty.scan "/** @jsx l·l */".toList).get .jsx =
      some ⟨["l"], by decide, by decide⟩ := by
  decide +kernel

end Header

end JsxLowering
