set_option autoImplicit false

/-!
Bytes written with sixty-four characters, six bits to a character.
-/

namespace JsxLowering.Text

def base64Alphabet : List Char :=
  "ABCDEFGHIJKLMNOPQRSTUVWXYZabcdefghijklmnopqrstuvwxyz0123456789+/".toList

def base64Digit (value : Nat) : Char := base64Alphabet.getD value '='

/-- Writes three bytes with four characters. One or two bytes at the end are filled up. -/
def base64 : List UInt8 → List Char
  | [] => []
  | [first] =>
      let bits := first.toNat * 65536
      [base64Digit (bits / 262144), base64Digit (bits / 4096 % 64), '=', '=']
  | [first, second] =>
      let bits := first.toNat * 65536 + second.toNat * 256
      [base64Digit (bits / 262144), base64Digit (bits / 4096 % 64),
        base64Digit (bits / 64 % 64), '=']
  | first :: second :: third :: rest =>
      let bits := first.toNat * 65536 + second.toNat * 256 + third.toNat
      base64Digit (bits / 262144) :: base64Digit (bits / 4096 % 64) ::
        base64Digit (bits / 64 % 64) :: base64Digit (bits % 64) :: base64 rest

end JsxLowering.Text
