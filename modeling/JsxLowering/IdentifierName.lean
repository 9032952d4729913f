import JsxLowering.Text.IdentifierChars

set_option autoImplicit false

/-!
Identifier names: the words that may follow a dot or stand as a plain property key.
Reserved words are identifier names too.
-/

namespace JsxLowering

def isIdentifierName (name : String) : Bool :=
  match name.toList with
  | [] => false
  | first :: rest => Text.isNameStart first && rest.all Text.isNamePart

end JsxLowering
