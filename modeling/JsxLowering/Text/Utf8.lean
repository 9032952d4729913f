set_option autoImplicit false

/-!
Positions in a text count the bytes of its UTF-8 form. The functions here measure
and cut a list of characters in that unit. A cut that falls inside a character
moves back to its start.
-/

namespace JsxLowering.Text

def byteLength : List Char → Nat
  | [] => 0
  | c :: rest => c.utf8Size + byteLength rest

@[simp] theorem byteLength_nil : byteLength [] = 0 := rfl

@[simp] theorem byteLength_cons (c : Char) (rest : List Char) :
    byteLength (c :: rest) = c.utf8Size + byteLength rest := rfl

@[simp] theorem byteLength_append (left right : List Char) :
    byteLength (left ++ right) = byteLength left + byteLength right := by
  induction left with
  | nil => simp
  | cons c rest ih => simp [ih, Nat.add_assoc]

/-- The text after its first `count` bytes. -/
def dropBytes : Nat → List Char → List Char
  | _, [] => []
  | count, c :: rest =>
      if c.utf8Size ≤ count then dropBytes (count - c.utf8Size) rest else c :: rest

/-- The first `count` bytes of the text. -/
def takeBytes : Nat → List Char → List Char
  | _, [] => []
  | count, c :: rest =>
      if c.utf8Size ≤ count then c :: takeBytes (count - c.utf8Size) rest else []

/-- The bytes from `start` up to, not including, `stop`. -/
def slice (start stop : Nat) (text : List Char) : List Char :=
  takeBytes (stop - start) (dropBytes start text)

theorem dropBytes_append (left right : List Char) :
    dropBytes (byteLength left) (left ++ right) = right := by
  induction left with
  | nil =>
      cases right with
      | nil => rfl
      | cons c rest =>
          have positive := c.utf8Size_pos
          have : ¬ c.utf8Size ≤ 0 := by omega
          simp [dropBytes, this]
  | cons c rest ih => simp [dropBytes, ih]

theorem takeBytes_append (left right : List Char) :
    takeBytes (byteLength left) (left ++ right) = left := by
  induction left with
  | nil =>
      cases right with
      | nil => rfl
      | cons c rest =>
          have positive := c.utf8Size_pos
          have : ¬ c.utf8Size ≤ 0 := by omega
          simp [takeBytes, this]
  | cons c rest ih => simp [takeBytes, ih]

def utf16Units (c : Char) : Nat := if c.toNat < 0x10000 then 1 else 2

end JsxLowering.Text
