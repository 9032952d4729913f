import JsxLowering.Proofs.Pieces

set_option autoImplicit false

/-!
How the text of a comment is scanned, line by line. White space at the end of a line makes
no difference, a carriage return included, and a line without an `@` says nothing.
-/

namespace JsxLowering.Header

theorem trimStart_concat (text : List Char) {c : Char} (blank : Text.isBlank c = true) :
    Text.trimStart (text ++ [c]) = Text.trimStart text ∨
      Text.trimStart (text ++ [c]) = Text.trimStart text ++ [c] := by
  unfold Text.trimStart
  rw [List.dropWhile_append]
  split
  next empty =>
    left
    rw [List.isEmpty_iff.mp empty]
    simp [blank]
  next _ => exact .inr rfl

theorem dropPunctuation_concat (text : List Char) {c : Char} (plain : c ≠ '*') :
    dropPunctuation (text ++ [c]) = dropPunctuation text ++ [c] := by
  fun_cases dropPunctuation text with
  | case1 rest => rfl
  | case2 rest single =>
      cases rest with
      | nil => simp [dropPunctuation, plain]
      | cons d rest => simp_all [dropPunctuation]
  | case3 rest => rfl
  | case4 =>
      rcases text with _ | ⟨d, _ | ⟨e, rest⟩⟩
      · simp [dropPunctuation, plain]
      · simp_all [dropPunctuation]
      · simp_all [dropPunctuation]

theorem lineBody_concat (line : List Char) {c : Char} (blank : Text.isBlank c = true) :
    lineBody (line ++ [c]) = lineBody line ∨ lineBody (line ++ [c]) = lineBody line ++ [c] := by
  have plain : c ≠ '*' := by
    rintro rfl
    cases blank
  unfold lineBody
  rcases trimStart_concat line blank with same | longer
  · exact .inl (by rw [same])
  · rw [longer, dropPunctuation_concat _ plain]
    exact trimStart_concat _ blank

theorem prefix_concat_iff {word text : List Char} {c : Char} (absent : c ∉ word) :
    word <+: text ++ [c] ↔ word <+: text := by
  rw [List.prefix_concat_iff]
  constructor
  · rintro (rfl | shorter)
    · simp at absent
    · exact shorter
  · exact .inr

theorem notMem_word {c : Char} (blank : Text.isBlank c = true) (pragma : Pragma) :
    c ∉ pragma.word.toList := by
  have solid : pragma.word.toList.any Text.isBlank = false := by
    cases pragma <;> decide +kernel
  intro membership
  exact List.any_eq_false.mp solid c membership blank

theorem opensWithPragma_iff (body : List Char) :
    opensWithPragma body = true ↔ ∃ pragma : Pragma, pragma.word.toList <+: body := by
  simp only [opensWithPragma, Bool.or_eq_true, List.isPrefixOf_iff_prefix]
  constructor
  · rintro (jsx | components)
    · exact ⟨.jsx, jsx⟩
    · exact ⟨.components, components⟩
  · rintro ⟨pragma, opens⟩
    cases pragma with
    | jsx => exact .inl opens
    | components => exact .inr opens

theorem opensWithPragma_concat (body : List Char) {c : Char} (blank : Text.isBlank c = true) :
    opensWithPragma (body ++ [c]) = opensWithPragma body := by
  rw [Bool.eq_iff_iff, opensWithPragma_iff, opensWithPragma_iff]
  simp only [prefix_concat_iff (notMem_word blank _)]

theorem scanWords_word_cons (pragma : Pragma) (value : List Char) (others : List (List Char)) :
    scanWords (pragma.word.toList :: value :: others) =
      findingOf pragma value :: scanWords others := by
  have known : Pragma.ofWord? pragma.word.toList = some pragma := by
    cases pragma <;> decide +kernel
  simp only [scanWords, known]

/-- What is glued to a word is cut off. -/
theorem findingOf_append (pragma : Pragma) (word rest : List Char)
    (foreign : ∀ c ∈ rest.head?, isPathChar c = false) :
    findingOf pragma (word ++ rest) = findingOf pragma word := by
  have nothing : rest.takeWhile isPathChar = [] := by
    cases rest with
    | nil => rfl
    | cons c others => simp [foreign c rfl]
  have cut : (word ++ rest).takeWhile isPathChar = word.takeWhile isPathChar := by
    rw [List.takeWhile_append, nothing, List.append_nil]
    split
    next all => exact ((List.takeWhile_prefix _).eq_of_length all).symm
    next _ => rfl
  rw [findingOf, findingOf, cut]

theorem scanLine_concat (line : List Char) {c : Char} (blank : Text.isBlank c = true) :
    scanLine (line ++ [c]) = scanLine line := by
  unfold scanLine
  rcases lineBody_concat line blank with same | longer
  · rw [same]
  · rw [longer, opensWithPragma_concat _ blank, Text.words_concat blank]

theorem scanLine_dropReturn (line : List Char) :
    scanLine (Text.dropReturn line) = scanLine line := by
  rcases Text.dropReturn_cases line with same | returned
  · rw [same]
  · calc
      scanLine (Text.dropReturn line) = scanLine (Text.dropReturn line ++ ['\r']) :=
        (scanLine_concat _ rfl).symm
      _ = scanLine line := by rw [← returned]

theorem dropPunctuation_suffix (text : List Char) : dropPunctuation text <:+ text := by
  fun_cases dropPunctuation text with
  | case1 rest => exact ⟨['/', '*', '*'], rfl⟩
  | case2 rest => exact ⟨['/', '*'], rfl⟩
  | case3 rest => exact ⟨['*'], rfl⟩
  | case4 => exact List.suffix_rfl

theorem lineBody_subset (line : List Char) : lineBody line ⊆ line := by
  have untrimmed : lineBody line ⊆ dropPunctuation (Text.trimStart line) :=
    List.dropWhile_subset _
  have trimmed : Text.trimStart line ⊆ line := List.dropWhile_subset _
  intro c membership
  exact trimmed ((dropPunctuation_suffix _).subset (untrimmed membership))

theorem scanLine_of_notMem {line : List Char} (absent : '@' ∉ line) : scanLine line = [] := by
  unfold scanLine
  apply if_neg
  intro opens
  obtain ⟨pragma, start⟩ := (opensWithPragma_iff _).mp opens
  have marked : '@' ∈ pragma.word.toList := by
    cases pragma <;> decide
  exact absent (lineBody_subset line (start.subset marked))

/-- A comment is scanned line by line. -/
theorem scanComment_append_newline {line : List Char} (unbroken : '\n' ∉ line)
    (rest : List Char) :
    scanComment (line ++ '\n' :: rest) = scanLine line ++ scanComment rest := by
  rw [scanComment, Text.lines_append_newline unbroken, List.flatMap_cons, scanLine_dropReturn]
  rfl

theorem scanComment_of_unbroken {line : List Char} (unbroken : '\n' ∉ line) :
    scanComment line = scanLine line := by
  rw [scanComment, Text.lines_of_unbroken unbroken]
  cases line with
  | nil => rfl
  | cons c rest => simp

end JsxLowering.Header
