set_option autoImplicit false

/-!
How tight the operators of expressions bind.
-/

namespace JsxLowering

inductive Strength where
  | lowest
  | comma
  | yield
  | assign
  | conditional
  | coalesce
  | logicalOr
  | logicalAnd
  | bitOr
  | bitXor
  | bitAnd
  | equality
  | comparison
  | shift
  | add
  | multiply
  | power
  | unary
  | postfixed
  | constructed
  | atomic
  deriving DecidableEq

namespace Strength

def rank : Strength → Nat
  | lowest => 0
  | comma => 1
  | yield => 2
  | assign => 3
  | conditional => 4
  | coalesce => 5
  | logicalOr => 6
  | logicalAnd => 7
  | bitOr => 8
  | bitXor => 9
  | bitAnd => 10
  | equality => 11
  | comparison => 12
  | shift => 13
  | add => 14
  | multiply => 15
  | power => 16
  | unary => 17
  | postfixed => 18
  | constructed => 19
  | atomic => 20

def ofOperator (operator : String) : Strength :=
  if operator = "??" then coalesce
  else if operator = "||" then logicalOr
  else if operator = "&&" then logicalAnd
  else if operator = "|" then bitOr
  else if operator = "^" then bitXor
  else if operator = "&" then bitAnd
  else if ["==", "!=", "===", "!=="].contains operator then equality
  else if ["<<", ">>", ">>>"].contains operator then shift
  else if operator = "+" || operator = "-" then add
  else if ["*", "/", "%"].contains operator then multiply
  else if operator = "**" then power
  else comparison

end Strength

end JsxLowering
