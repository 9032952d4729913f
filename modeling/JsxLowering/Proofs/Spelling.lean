import JsxLowering.Proofs.Decoding
import JsxLowering.Proofs.Fragments
import JsxLowering.Proofs.Numeral

set_option autoImplicit false

/-!
The ways to write a text in markup. A character stands for itself, unless it is an ampersand, or it
is written as a reference by its number in one of two bases, and an ampersand also by its name.
However the characters of a text are written, decoding reads the text back. It does so in one pass:
what a reference stands for is never read as the start of another one, so that the strings of
attributes and the texts between tags are decoded once.
-/

namespace JsxLowering

namespace Entity

/-- The ways to write a character. -/
inductive Writes : Char → List Char → Prop where
  | itself {c : Char} (plain : c ≠ '&') : Writes c [c]
  | ampersand : Writes '&' ['&', 'a', 'm', 'p', ';']
  | decimal {c : Char} {digits : List Char} (numeral : Text.Numeral 10 digits c.toNat) :
      Writes c ('&' :: '#' :: (digits ++ [';']))
  | hexadecimal {c mark : Char} {digits : List Char} (marked : mark = 'x' ∨ mark = 'X')
      (numeral : Text.Numeral 16 digits c.toNat) :
      Writes c ('&' :: '#' :: mark :: (digits ++ [';']))

/-- The ways to write a text, each of its characters in some way. -/
inductive Spells : List Char → List Char → Prop where
  | nil : Spells [] []
  | cons {c : Char} {part text rest : List Char} (first : Writes c part)
      (others : Spells text rest) : Spells (c :: text) (part ++ rest)

theorem unbroken_of_number? {base number : Nat} {text : List Char}
    (read : number? base text = some number) : '&' ∉ text ∧ ';' ∉ text :=
  ⟨Text.notMem_of_number? read rfl, Text.notMem_of_number? read rfl⟩

theorem ofNumber?_toNat (c : Char) : ofNumber? c.toNat = some c := by
  have valid : c.toNat.isValidChar := c.valid
  have small : c.toNat < 0x110000 := by
    rcases valid with low | high <;> omega
  rw [ofNumber?, if_pos (by omega), Nat.mod_eq_of_lt (by omega), scalar?, dif_pos valid]
  rfl

theorem resolve?_decimal {c : Char} {digits : List Char}
    (numeral : Text.Numeral 10 digits c.toNat) :
    resolve? ('#' :: digits) = some c := by
  have read := numeral.number?_eq (by decide)
  -- The mark of the other base is no decimal digit, so that its equations do not apply.
  have lower : 'x' ∉ digits := Text.notMem_of_number? read (by decide)
  have upper : 'X' ∉ digits := Text.notMem_of_number? read (by decide)
  rw [resolve?]
  · rw [read, Option.bind_some, ofNumber?_toNat]
  · rintro rest rfl
    simp at lower
  · rintro rest rfl
    simp at upper

theorem resolve?_hexadecimal {c mark : Char} {digits : List Char}
    (marked : mark = 'x' ∨ mark = 'X') (numeral : Text.Numeral 16 digits c.toNat) :
    resolve? ('#' :: mark :: digits) = some c := by
  have read := numeral.number?_eq (Nat.le_refl 16)
  rcases marked with rfl | rfl
  · rw [resolve?, read, Option.bind_some, ofNumber?_toNat]
  · rw [resolve?, read, Option.bind_some, ofNumber?_toNat]

theorem decodeFrom_some_append {body : List Char} (unopened : '&' ∉ body) (unclosed : ';' ∉ body)
    (held rest : List Char) :
    decodeFrom (some held) (body ++ rest) = decodeFrom (some (body.reverse ++ held)) rest := by
  induction body generalizing held with
  | nil => rfl
  | cons c body inductionHypothesis =>
      rw [List.mem_cons, not_or] at unopened unclosed
      rw [List.cons_append, decodeFrom, if_neg (Ne.symm unopened.1), if_neg (Ne.symm unclosed.1),
        inductionHypothesis unopened.2 unclosed.2]
      simp

/-- A reference is read as its character, and what follows it from the start. -/
theorem decodeFrom_reference {body : List Char} {c : Char} (unopened : '&' ∉ body)
    (unclosed : ';' ∉ body) (resolved : resolve? body = some c) (rest : List Char) :
    decodeFrom none ('&' :: (body ++ ';' :: rest)) = c :: decodeFrom none rest := by
  rw [decodeFrom, if_pos rfl, decodeFrom_some_append unopened unclosed, decodeFrom,
    if_neg (by decide), if_pos rfl]
  simp [resolved]

theorem Writes.decodeFrom_append {c : Char} {part : List Char} (written : Writes c part)
    (rest : List Char) : decodeFrom none (part ++ rest) = c :: decodeFrom none rest := by
  cases written with
  | itself plain => exact decodeFrom_none_append (by simpa using Ne.symm plain) rest
  | ampersand =>
      have resolved : resolve? ['a', 'm', 'p'] = some '&' := by decide +kernel
      exact decodeFrom_reference (by decide) (by decide) resolved rest
  | @decimal _ digits numeral =>
      obtain ⟨unopened, unclosed⟩ := unbroken_of_number? (numeral.number?_eq (by decide))
      have reference := decodeFrom_reference (by simpa using unopened) (by simpa using unclosed)
        (resolve?_decimal numeral) rest
      simpa using reference
  | @hexadecimal _ mark digits marked numeral =>
      obtain ⟨unopened, unclosed⟩ := unbroken_of_number? (numeral.number?_eq (Nat.le_refl 16))
      have apart : '&' ≠ mark ∧ ';' ≠ mark := by
        rcases marked with rfl | rfl <;> decide
      have reference := decodeFrom_reference (by simpa [apart.1] using unopened)
        (by simpa [apart.2] using unclosed) (resolve?_hexadecimal marked numeral) rest
      simpa using reference

theorem Spells.decode_eq {text spelled : List Char} (spells : Spells text spelled) :
    decode spelled = text := by
  rw [Entity.decode_eq]
  induction spells with
  | nil => rfl
  | cons first _ inductionHypothesis =>
      -- No reference is open behind a written character, whatever it stands for.
      rw [first.decodeFrom_append, inductionHypothesis]

theorem Spells.ne_nil {text spelled : List Char} (spells : Spells text spelled)
    (something : text ≠ []) : spelled ≠ [] := by
  rintro rfl
  exact something spells.decode_eq.symm

end Entity

namespace Text

/-- The second text is the first without some of the white space at its ends. -/
def TrimsTo (text rest : List Char) : Prop :=
  ∃ front back, text = front ++ rest ++ back ∧ AllBlank front ∧ AllBlank back

namespace TrimsTo

theorem refl (text : List Char) : TrimsTo text text :=
  ⟨[], [], by simp, by simp [AllBlank], by simp [AllBlank]⟩

theorem trans {first second third : List Char} (left : TrimsTo first second)
    (right : TrimsTo second third) : TrimsTo first third := by
  obtain ⟨front, back, rfl, before, after⟩ := left
  obtain ⟨start, stop, rfl, started, stopped⟩ := right
  refine ⟨front ++ start, stop ++ back, by simp, ?_, ?_⟩
  · exact allBlank_append.mpr ⟨before, started⟩
  · exact allBlank_append.mpr ⟨stopped, after⟩

theorem of_strips {side : Side} {before after : List Char} (strips : side.Strips before after) :
    TrimsTo before after := by
  cases side with
  | first =>
      obtain ⟨gap, rfl, blank, _⟩ := strips
      exact ⟨gap, [], by simp, blank, by simp [AllBlank]⟩
  | last =>
      obtain ⟨gap, rfl, blank, _⟩ := strips
      exact ⟨[], gap, by simp, by simp [AllBlank], blank⟩

theorem solid {text rest : List Char} (trims : TrimsTo text rest) (solid : ¬ AllBlank text) :
    ¬ AllBlank rest := by
  obtain ⟨front, back, rfl, before, after⟩ := trims
  intro blank
  exact solid (allBlank_append.mpr ⟨allBlank_append.mpr ⟨before, blank⟩, after⟩)

end TrimsTo

end Text

namespace LoweredChild

/-! A text with something in it is never removed, and loses nothing but white space. -/

variable {content : TextChild} (solid : ¬ Text.AllBlank content.value)

include solid

theorem exists_mem_trimHead (side : Side) {children : List LoweredChild}
    (membership : text content ∈ children) :
    ∃ after, text after ∈ trimHead side children ∧
      Text.TrimsTo content.value after.value := by
  cases children with
  | nil => cases membership
  | cons child rest =>
      obtain ⟨kept, edge, equal⟩ := trimHead_cons side child rest
      rw [equal]
      rcases List.mem_cons.mp membership with rfl | later
      · cases edge with
        | removed blank _ => exact absurd blank solid
        | emptied blank _ => exact absurd blank solid
        | trimmed _ loses => exact ⟨_, by simp, .of_strips loses.value⟩
      · exact ⟨content, by simp [later], .refl _⟩

theorem exists_mem_trimEdge (side : Side) {children : List LoweredChild}
    (membership : text content ∈ children) :
    ∃ after, text after ∈ trimEdge side children ∧
      Text.TrimsTo content.value after.value := by
  cases side with
  | first => exact exists_mem_trimHead solid .first membership
  | last =>
      obtain ⟨after, there, trims⟩ :=
        exists_mem_trimHead solid .last (List.mem_reverse.mpr membership)
      exact ⟨after, List.mem_reverse.mpr there, trims⟩

theorem exists_mem_normalize {children : List LoweredChild}
    (membership : text content ∈ children) :
    ∃ after, text after ∈ normalize children ∧ Text.TrimsTo content.value after.value := by
  obtain ⟨between, started, left⟩ := exists_mem_trimEdge solid .first membership
  obtain ⟨after, stopped, right⟩ := exists_mem_trimEdge (left.solid solid) .last started
  exact ⟨after, stopped, left.trans right⟩

end LoweredChild

theorem text_mem_lowerChildren {span : Span} {value : String} {raw : Option String}
    {children : List Child} (membership : .text span value raw ∈ children) (something : value ≠ "")
    (targets : Targets) :
    .text ⟨span, Entity.decode value.toList, (raw.getD value).toList⟩ ∈
      (lowerChildren targets children).value := by
  rw [lowerChildren_eq, Report.value_map, Report.value_mapM]
  refine List.mem_flatten.mpr ⟨_, List.mem_map_of_mem membership, ?_⟩
  simp [Child.lower, textChildren, something]

/-- The texts in markup are held by the children that its array is made of. -/
theorem exists_array_of_text {content : Markup} {span : Span} {value : String}
    {raw : Option String} (held : Node.child (.text span value raw) ∈ content.children)
    (something : value ≠ "") (targets : Targets) :
    ∃ children,
      .text ⟨span, Entity.decode value.toList, (raw.getD value).toList⟩ ∈ children ∧
      Node.expr (LoweredChild.toArray content.span children) ∈
        (Node.expr (content.lower targets).value).preorder := by
  cases content with
  | element place opening tag attributes children =>
      have membership : .text span value raw ∈ children := by
        simpa [Markup.children] using held
      refine ⟨_, text_mem_lowerChildren membership something targets, ?_⟩
      have full : ¬ ∀ child ∈ children, child.IsEmptyText := fun nothing =>
        something (nothing _ membership)
      have argument := childrenArgument_of_not_all_empty targets place children full
      have below (array : Expr) : Node.expr array ∈ (Node.item (.expr array)).preorder :=
        Node.mem_preorder_of_mem_children (List.mem_singleton_self _)
      refine Node.mem_elementCall_of_argument (below _) (List.mem_cons_of_mem _ ?_)
      rw [argument]
      exact List.mem_singleton_self _
  | fragment place children =>
      have membership : .text span value raw ∈ children := by
        simpa [Markup.children] using held
      exact ⟨_, text_mem_lowerChildren membership something targets, Node.mem_preorder_self _⟩

/-- What the strings of attributes and the texts between tags spell is what the lowered program
holds in their place, a text without the white space that is trimmed from the children. -/
structure Program.ReadsSpellings (program lowered : Program) : Prop where
  strings : ∀ owner place value text,
    Node.attributeValue owner (.text place value) ∈ program.nodes →
    Entity.Spells text value.toList →
    Node.expr (.string place (String.ofList text)) ∈ lowered.nodes
  texts : ∀ content span value raw text,
    Node.markup content ∈ program.nodes →
    Node.child (.text span value raw) ∈ content.children →
    Entity.Spells text value.toList → text ≠ [] →
    ∃ children, .text ⟨span, text, (raw.getD value).toList⟩ ∈ children ∧
      Node.expr (LoweredChild.toArray content.span children) ∈ lowered.nodes ∧
      (¬ Text.AllBlank text → ∃ place rest, Text.TrimsTo text rest ∧
        .expr (.string place (String.ofList rest)) ∈
          (LoweredChild.normalize children).map LoweredChild.toItem)

theorem Program.readsSpellings {options : Options} {program : Program} {lowered : Lowered}
    (accepted : (transform options program).outcome = .ok lowered) :
    program.ReadsSpellings lowered.program where
  strings := by
    intro owner place value text membership spells
    apply mem_nodes_of_mem_lower accepted membership
    rw [← spells.decode_eq]
    exact List.mem_singleton_self _
  texts := by
    intro content span value raw text membership held spells nonempty
    have something : value ≠ "" := by
      rintro rfl
      exact spells.ne_nil nonempty rfl
    obtain ⟨children, among, array⟩ :=
      exists_array_of_text held something (program.targets options)
    rw [spells.decode_eq] at among
    refine ⟨children, among, ?_, ?_⟩
    · exact mem_nodes_of_mem_preorder array (lowered_mem_nodes accepted membership)
    · intro solid
      obtain ⟨after, left, trims⟩ := LoweredChild.exists_mem_normalize solid among
      exact ⟨after.span, after.value, trims, List.mem_map_of_mem left⟩

/-- Every text can be written with references and is read back once. Each character can be written
by its number in either base, and decoding gives back the text whatever way is chosen for each of
its characters. Without an ampersand the text is its own reading, returned at once or not. So the
strings of attributes and the texts between tags are decoded exactly once. -/
theorem spellings_are_read_once :
    (∀ c, Entity.Writes c ('&' :: '#' :: (Nat.toDigits 10 c.toNat ++ [';'])) ∧
      ∀ mark, mark = 'x' ∨ mark = 'X' →
        Entity.Writes c ('&' :: '#' :: mark :: (Nat.toDigits 16 c.toNat ++ [';']))) ∧
    (∀ text spelled, Entity.Spells text spelled → Entity.decode spelled = text) ∧
    (∀ text, '&' ∉ text →
      Entity.decode text = text ∧ Entity.decodeFrom none text = Entity.decode text) ∧
    ∀ options program lowered, (transform options program).outcome = .ok lowered →
      program.ReadsSpellings lowered.program := by
  refine ⟨?_, fun _ _ spells => spells.decode_eq, ?_, fun _ _ _ => Program.readsSpellings⟩
  · intro c
    refine ⟨.decimal (Text.numeral_toDigits (by decide) _), ?_⟩
    intro mark marked
    exact .hexadecimal marked (Text.numeral_toDigits (by decide) _)
  · intro text plain
    rw [Entity.decode_eq, Entity.decodeFrom_none_of_notMem plain]
    exact ⟨rfl, rfl⟩

/-- The element `<p title="&amp;lt;">&#38;lt&#x3B;</p>`. -/
def Markup.escapedReference : Markup :=
  .element ⟨0, 37⟩ ⟨0, 20⟩ (.intrinsic ⟨⟨1, 2⟩, "p"⟩)
    [.named ⟨3, 19⟩ (.plain ⟨⟨3, 8⟩, "title"⟩) (.text ⟨9, 19⟩ "&amp;lt;")]
    [.text ⟨20, 33⟩ "&#38;lt&#x3B;" none]

def Program.escapedReference : Program where
  source := "<p title=\"&amp;lt;\">&#38;lt&#x3B;</p>"
  comments := []
  directives := []
  body := [.expression ⟨0, 37⟩ (.markup .escapedReference)]

theorem spellings_are_read_once_escaped_reference :
    Entity.decode "&amp;lt;".toList = "&lt;".toList ∧
    Entity.decode "&#38;lt&#x3B;".toList = "&lt;".toList ∧
    ∃ lowered, (transform .standard .escapedReference).outcome = .ok lowered ∧
      Node.expr (.string ⟨9, 19⟩ "&lt;") ∈ lowered.program.nodes ∧
      ∃ children, .text ⟨⟨20, 33⟩, "&lt;".toList, "&#38;lt&#x3B;".toList⟩ ∈ children ∧
        Node.expr (LoweredChild.toArray ⟨0, 37⟩ children) ∈ lowered.program.nodes := by
  have named : Entity.Spells "&lt;".toList "&amp;lt;".toList :=
    .cons .ampersand (.cons (.itself (by decide)) (.cons (.itself (by decide))
      (.cons (.itself (by decide)) .nil)))
  have decimal : Text.Numeral 10 ['3', '8'] '&'.toNat :=
    ⟨[3, 8], by decide, by decide, .cons (.inl rfl) (.cons (.inl rfl) .nil), rfl⟩
  have hexadecimal : Text.Numeral 16 ['3', 'B'] ';'.toNat :=
    ⟨[3, 11], by decide, by decide, .cons (.inl rfl) (.cons (.inr rfl) .nil), rfl⟩
  have numbered : Entity.Spells "&lt;".toList "&#38;lt&#x3B;".toList :=
    .cons (.decimal decimal) (.cons (.itself (by decide)) (.cons (.itself (by decide))
      (.cons (.hexadecimal (.inl rfl) hexadecimal) .nil)))
  have element : Node.markup .escapedReference ∈ Program.escapedReference.nodes :=
    Program.markup_mem_nodes (List.mem_singleton_self _)
  have title : Node.attributeValue ⟨3, 19⟩ (.text ⟨9, 19⟩ "&amp;lt;") ∈
      Program.escapedReference.nodes := by
    refine Program.mem_nodes_of_mem_preorder ?_ element
    refine Node.mem_preorder_of_part ?_ List.mem_cons_self
    exact Node.mem_preorder_of_mem_children (List.mem_singleton_self _)
  obtain ⟨_, reads, _, programs⟩ := spellings_are_read_once
  have read := programs .standard .escapedReference _ rfl
  obtain ⟨children, among, array, _⟩ :=
    read.texts _ ⟨20, 33⟩ "&#38;lt&#x3B;" none _ element (by simp [Markup.escapedReference,
      Markup.children]) numbered (by decide)
  exact ⟨reads _ _ named, reads _ _ numbered, _, rfl, read.strings _ _ _ _ title named,
    children, among, array⟩

end JsxLowering
