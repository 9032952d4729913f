import JsxLowering.Proofs.Spans
import JsxLowering.Proofs.Trimming

set_option autoImplicit false

/-!
The span of a text child keeps pointing at its source text. Where the bytes of the source at
the span are those of the source text, they are so after every trim, because the span gives up
as many bytes as the source text does and on the same side. It has them to give up, so that the
offsets never wrap around, and it gives up whole characters.
-/

namespace JsxLowering

namespace Text

theorem size_utf8Encode (text : List Char) : text.utf8Encode.size = byteLength text := by
  induction text with
  | nil => rfl
  | cons c rest inductionHypothesis =>
      rw [List.utf8Encode_cons, ByteArray.size_append, inductionHypothesis,
        List.utf8Encode_singleton]
      simp

/-- The bytes of the source from `start` up to `stop` are those of the text. -/
structure BytesAt (source : String) (text : List Char) (start stop : Nat) : Prop where
  ordered : start ≤ stop
  inside : stop ≤ source.utf8ByteSize
  bytes : source.toByteArray.extract start stop = text.utf8Encode

namespace BytesAt

variable {source : String} {start stop : Nat}

theorem length {text : List Char} (located : BytesAt source text start stop) :
    start + byteLength text = stop := by
  have size := congrArg ByteArray.size located.bytes
  rw [ByteArray.size_extract, size_utf8Encode, String.size_toByteArray,
    Nat.min_eq_left located.inside] at size
  have ordered := located.ordered
  omega

theorem append_left {first second : List Char}
    (located : BytesAt source (first ++ second) start stop) :
    BytesAt source first start (start + byteLength first) := by
  have length := located.length
  rw [byteLength_append] at length
  have inside := located.inside
  refine ⟨by omega, by omega, ?_⟩
  calc
    source.toByteArray.extract start (start + byteLength first) =
        (source.toByteArray.extract start stop).extract 0 (byteLength first) := by
      rw [ByteArray.extract_extract, Nat.add_zero, Nat.min_eq_left (by omega)]
    _ = (first.utf8Encode ++ second.utf8Encode).extract 0 (byteLength first) := by
      rw [located.bytes, List.utf8Encode_append]
    _ = first.utf8Encode := ByteArray.extract_append_eq_left (size_utf8Encode first).symm

theorem append_right {first second : List Char}
    (located : BytesAt source (first ++ second) start stop) :
    BytesAt source second (start + byteLength first) stop := by
  have length := located.length
  rw [byteLength_append] at length
  refine ⟨by omega, located.inside, ?_⟩
  calc
    source.toByteArray.extract (start + byteLength first) stop =
        (source.toByteArray.extract start stop).extract (byteLength first)
          (byteLength first + byteLength second) := by
      rw [ByteArray.extract_extract, length, Nat.min_self]
    _ = (first.utf8Encode ++ second.utf8Encode).extract (byteLength first)
          (byteLength first + byteLength second) := by
      rw [located.bytes, List.utf8Encode_append]
    _ = second.utf8Encode :=
      ByteArray.extract_append_eq_right (size_utf8Encode first).symm
        (by rw [size_utf8Encode, size_utf8Encode])

theorem empty (inside : start ≤ source.utf8ByteSize) : BytesAt source [] start start :=
  ⟨Nat.le_refl _, inside, by simp⟩

theorem eq_or_isValid {text : List Char} (located : BytesAt source text start stop) :
    start = stop ∨
      (⟨start⟩ : String.Pos.Raw).IsValid source ∧ (⟨stop⟩ : String.Pos.Raw).IsValid source := by
  have encoded : (source.toByteArray.extract start stop).IsValidUTF8 := by
    rw [located.bytes]
    exact ByteArray.isValidUTF8_utf8Encode
  have ends := (String.Pos.Raw.isValidUTF8_extract_iff ⟨start⟩ ⟨stop⟩ located.ordered
    located.inside).mp encoded
  exact ends.imp_left (congrArg String.Pos.Raw.byteIdx)

/-- One end of a text is a character boundary of the source if the other is. -/
theorem isValid_iff {text : List Char} (located : BytesAt source text start stop) :
    (⟨start⟩ : String.Pos.Raw).IsValid source ↔ (⟨stop⟩ : String.Pos.Raw).IsValid source := by
  rcases located.eq_or_isValid with rfl | both
  · rfl
  · exact iff_of_true both.1 both.2

end BytesAt

end Text

/-- Both ends of the span fall between two characters of the source. -/
def Span.OnBoundaries (source : String) (span : Span) : Prop :=
  (⟨span.start.toNat⟩ : String.Pos.Raw).IsValid source ∧
    (⟨span.stop.toNat⟩ : String.Pos.Raw).IsValid source

namespace TextChild

/-- The source text is what stands in the source at the span, byte for byte. -/
def Located (source : String) (content : TextChild) : Prop :=
  Text.BytesAt source content.raw content.span.start.toNat content.span.stop.toNat

/-- How many bytes of source text are white space on a side. -/
def surplus (content : TextChild) (side : Side) : Nat :=
  Text.byteLength content.raw - Text.byteLength (side.strip content.raw)

/-- The offsets that trimming on a side computes are in range, and on character boundaries. -/
structure TrimsSafely (source : String) (side : Side) (content : TextChild) : Prop where
  shorter : Text.byteLength (side.strip content.raw) ≤ Text.byteLength content.raw
  room : content.span.start.toNat + content.surplus side ≤ content.span.stop.toNat
  length : content.surplus side ≤ content.span.stop.toNat - content.span.start.toNat
  addition : (content.span.dropStart (content.surplus side)).start.toNat =
    content.span.start.toNat + content.surplus side
  subtraction : (content.span.dropEnd (content.surplus side)).stop.toNat =
    content.span.stop.toNat - content.surplus side
  boundaries : 0 < content.surplus side → content.span.OnBoundaries source ∧
    (side.narrow content.span (content.surplus side)).OnBoundaries source

section

variable {source : String} {side : Side} {content : TextChild}

theorem Located.room (located : content.Located source) (raw : List Char) :
    content.span.start.toNat + (Text.byteLength content.raw - Text.byteLength raw) ≤
      content.span.stop.toNat := by
  have length := located.length
  omega

theorem Located.narrow (located : content.Located source) {raw : List Char}
    (strips : side.Strips content.raw raw) :
    let narrowed := side.narrow content.span (Text.byteLength content.raw - Text.byteLength raw)
    Text.BytesAt source raw narrowed.start.toNat narrowed.stop.toNat ∧
      (content.span.OnBoundaries source → narrowed.OnBoundaries source) := by
  intro narrowed
  have room := located.room raw
  have length := located.length
  cases side with
  | first =>
      obtain ⟨gap, whole, _⟩ := strips
      have start : narrowed.start.toNat = content.span.start.toNat + Text.byteLength gap := by
        refine (Span.toNat_start_dropStart room).trans ?_
        rw [whole, Text.byteLength_append, Nat.add_sub_cancel]
      have stop : narrowed.stop = content.span.stop := rfl
      unfold Located at located
      rw [whole] at located
      simp only [Span.OnBoundaries, start, stop]
      exact ⟨located.append_right, fun ends => ⟨located.append_left.isValid_iff.mp ends.1, ends.2⟩⟩
  | last =>
      obtain ⟨gap, whole, _⟩ := strips
      have start : narrowed.start = content.span.start := rfl
      have stop : narrowed.stop.toNat = content.span.start.toNat + Text.byteLength raw := by
        refine (Span.toNat_stop_dropEnd room).trans ?_
        rw [whole, Text.byteLength_append] at length ⊢
        omega
      unfold Located at located
      rw [whole] at located
      simp only [Span.OnBoundaries, start, stop]
      exact ⟨located.append_left, fun ends => ⟨ends.1, located.append_right.isValid_iff.mpr ends.2⟩⟩

theorem Located.of_loses (located : content.Located source) {after : TextChild}
    (loses : content.Loses side after) :
    after.Located source ∧ (content.span.OnBoundaries source → after.span.OnBoundaries source) := by
  rw [Located, loses.span]
  exact located.narrow loses.raw

theorem Located.emptied (located : content.Located source) :
    Located source ⟨⟨content.span.start, content.span.start⟩, [], []⟩ :=
  .empty (located.ordered.trans located.inside)

theorem Located.trimsSafely (located : content.Located source) (side : Side) :
    content.TrimsSafely source side := by
  have room : content.span.start.toNat + content.surplus side ≤ content.span.stop.toNat :=
    located.room _
  have strips := side.strips_strip content.raw
  refine ⟨strips.byteLength_le, room, by omega, Span.toNat_start_dropStart room,
    Span.toNat_stop_dropEnd room, ?_⟩
  intro something
  -- Where there is something to give up, the two ends are apart.
  have apart : content.span.start.toNat ≠ content.span.stop.toNat := by omega
  have ends : content.span.OnBoundaries source := located.eq_or_isValid.resolve_left apart
  exact ⟨ends, (located.narrow strips).2 ends⟩

end

end TextChild

namespace LoweredChild

/-- The child satisfies a condition on texts, if it is one. -/
def IfText (holds : TextChild → Prop) : LoweredChild → Prop
  | text content => holds content
  | _ => True

theorem forall_ifText_iff {holds : TextChild → Prop} {children : List LoweredChild} :
    (∀ child ∈ children, child.IfText holds) ↔
      ∀ content, text content ∈ children → holds content := by
  constructor
  · exact fun each content membership => each _ membership
  · intro each child membership
    cases child with
    | text content => exact each content membership
    | _ => trivial

section

variable {source : String} {children : List LoweredChild}

theorem located_trimEdge (side : Side)
    (located : ∀ child ∈ children, child.IfText (TextChild.Located source)) :
    ∀ child ∈ trimEdge side children, child.IfText (TextChild.Located source) := by
  refine forall_mem_trimEdge ?_ ?_ side located
  · exact fun content here => here.emptied
  · exact fun side content after here loses => (here.of_loses loses).1

theorem onBoundaries_normalize
    (located : ∀ child ∈ children, child.IfText fun content =>
      content.Located source ∧ content.span.OnBoundaries source) :
    ∀ child ∈ normalize children, child.IfText fun content =>
      content.Located source ∧ content.span.OnBoundaries source := by
  refine forall_mem_normalize ?_ ?_ located
  · rintro content ⟨here, ends⟩
    exact ⟨here.emptied, ends.1, ends.1⟩
  · rintro side content after ⟨here, ends⟩ loses
    obtain ⟨located, stay⟩ := here.of_loses loses
    exact ⟨located, stay ends⟩

end

/-- The spans of texts keep pointing at their source texts. Where they did so in the list, they do
so in the normalised list, and both ends stay on character boundaries. Nothing that is computed on
the way is out of range, on either side of any text before and after the start is trimmed. -/
theorem normalize_keeps_location (source : String) (children : List LoweredChild)
    (located : ∀ content, text content ∈ children → content.Located source) :
    (∀ content, text content ∈ normalize children → content.Located source) ∧
    ((∀ content, text content ∈ children → content.span.OnBoundaries source) →
      ∀ content, text content ∈ normalize children → content.span.OnBoundaries source) ∧
    (∀ stage ∈ [children, trimEdge .first children], ∀ content, text content ∈ stage →
      ∀ side, content.TrimsSafely source side) := by
  have before := forall_ifText_iff.mpr located
  have started := located_trimEdge .first before
  refine ⟨forall_ifText_iff.mp (located_trimEdge .last started), ?_, ?_⟩
  · intro ends content membership
    have both := forall_ifText_iff.mpr fun content member =>
      And.intro (located content member) (ends content member)
    exact (onBoundaries_normalize both (text content) membership).2
  · intro stage among content membership
    have here : content.Located source := by
      rcases List.mem_pair.mp among with rfl | rfl
      · exact located content membership
      · exact started (text content) membership
    exact here.trimsSafely

/-- A text between tags that starts with a blank of three bytes and ends with two of which one is
written as a reference. -/
def spaced : TextChild :=
  ⟨⟨3, 15⟩, ['\u3000', 'é', '\u00a0', ' '],
    ['\u3000', 'é', '&', 'n', 'b', 's', 'p', ';', ' ']⟩

theorem normalize_keeps_location_spaced :
    spaced.Located "<b>\u3000é&nbsp; </b>" ∧
      normalize [text spaced] = [text ⟨⟨6, 14⟩, ['é'], ['é', '&', 'n', 'b', 's', 'p', ';']⟩] ∧
      TextChild.Located "<b>\u3000é&nbsp; </b>"
        ⟨⟨6, 14⟩, ['é'], ['é', '&', 'n', 'b', 's', 'p', ';']⟩ := by
  have located : spaced.Located "<b>\u3000é&nbsp; </b>" :=
    ⟨by decide, by decide, by decide +kernel⟩
  have trimmed : normalize [text spaced] =
      [text ⟨⟨6, 14⟩, ['é'], ['é', '&', 'n', 'b', 's', 'p', ';']⟩] := by
    rfl
  refine ⟨located, trimmed, ?_⟩
  refine (normalize_keeps_location _ [text spaced] ?_).1 _ (by rw [trimmed]; simp)
  intro content membership
  cases List.mem_singleton.mp membership
  exact located

end LoweredChild

end JsxLowering
