import Mathlib.Data.List.Forall2
import Mathlib.Data.Nat.Digits.Lemmas
import JsxLowering.Entity

set_option autoImplicit false

/-!
Numbers as texts. A numeral is what its digits stand for in a base, whatever the case of its
letters and however many zeros are in front. A number can always be written as one, and a text is
the numeral of one number at most, which is the number that is read from it.
-/

namespace JsxLowering.Text

open Entity (digit? numberFrom? number?)

/-- The character is the digit for a value. Letters may be of either case. -/
def IsDigitOf (value : Nat) (c : Char) : Prop :=
  c = value.digitChar ∨ c = value.digitChar.toUpper

/-- The text writes a number in a base, with any number of zeros in front. -/
def Numeral (base : Nat) (text : List Char) (number : Nat) : Prop :=
  ∃ values : List Nat, values ≠ [] ∧ (∀ value ∈ values, value < base) ∧
    List.Forall₂ IsDigitOf values text ∧ Nat.ofDigits base values.reverse = number

theorem digit?_of_isDigitOf {base value : Nat} {c : Char} (digit : IsDigitOf value c)
    (below : value < base) (bound : base ≤ 16) : digit? base c = some value := by
  have table : ∀ value < 16, digit? 16 value.digitChar = some value ∧
      digit? 16 value.digitChar.toUpper = some value := by decide
  have widest : digit? 16 c = some value := by
    rcases digit with rfl | rfl
    · exact (table value (by omega)).1
    · exact (table value (by omega)).2
  unfold digit? at widest ⊢
  rw [Option.filter_eq_some_iff] at widest ⊢
  exact ⟨widest.1, by simpa using below⟩

theorem numberFrom?_of_digits {base : Nat} (bound : base ≤ 16) {values : List Nat}
    {text : List Char} (digits : List.Forall₂ IsDigitOf values text)
    (below : ∀ value ∈ values, value < base) (start : Nat) :
    numberFrom? base start text =
      some (values.foldl (fun number value => value + base * number) start) := by
  induction digits generalizing start with
  | nil => rfl
  | cons digit _ inductionHypothesis =>
      obtain ⟨here, later⟩ := List.forall_mem_cons.mp below
      rw [numberFrom?, digit?_of_isDigitOf digit here bound, List.foldl_cons]
      simp only
      rw [inductionHypothesis later, Nat.add_comm, Nat.mul_comm]

theorem Numeral.number?_eq {base number : Nat} {text : List Char}
    (numeral : Numeral base text number) (bound : base ≤ 16) : number? base text = some number := by
  obtain ⟨values, nonempty, below, digits, rfl⟩ := numeral
  have something : text ≠ [] := by
    rintro rfl
    exact nonempty (List.forall₂_nil_right_iff.mp digits)
  rw [number?, if_neg (by simpa using something), numberFrom?_of_digits bound digits below,
    Nat.ofDigits_eq_foldr, List.foldr_reverse]
  rfl

theorem numeral_of_lt {base value : Nat} (below : value < base) :
    Numeral base [value.digitChar] value :=
  ⟨[value], by simp, by simpa using below, .cons (.inl rfl) .nil, by simp⟩

theorem Numeral.concat {base number value : Nat} {text : List Char}
    (numeral : Numeral base text number) (below : value < base) :
    Numeral base (text ++ [value.digitChar]) (base * number + value) := by
  obtain ⟨values, _, before, digits, rfl⟩ := numeral
  refine ⟨values ++ [value], by simp, ?_, ?_, ?_⟩
  · exact List.forall_mem_append.mpr ⟨before, by simpa using below⟩
  · exact List.rel_append digits (.cons (.inl rfl) .nil)
  · rw [List.reverse_append, List.reverse_singleton, List.singleton_append, Nat.ofDigits_cons]
    exact Nat.add_comm _ _

theorem numeral_toDigits {base : Nat} (proper : 1 < base) (number : Nat) :
    Numeral base (Nat.toDigits base number) number := by
  induction number using Nat.strongRecOn with
  | ind number inductionHypothesis =>
      by_cases single : number < base
      · rw [Nat.toDigits_of_lt_base single]
        exact numeral_of_lt single
      · have smaller : number / base < number := Nat.div_lt_self (by omega) proper
        have last : number % base < base := Nat.mod_lt _ (by omega)
        have whole := (inductionHypothesis _ smaller).concat last
        rw [Nat.div_add_mod] at whole
        rwa [Nat.toDigits_of_base_le proper (by omega)]

theorem isSome_digit?_of_numberFrom? {base start number : Nat} {text : List Char}
    (read : numberFrom? base start text = some number) :
    ∀ c ∈ text, (digit? base c).isSome = true := by
  induction text generalizing start with
  | nil => simp
  | cons d rest inductionHypothesis =>
      rw [numberFrom?] at read
      split at read
      next value found => exact List.forall_mem_cons.mpr ⟨by simp [found], inductionHypothesis read⟩
      next _ => cases read

theorem notMem_of_number? {base number : Nat} {text : List Char}
    (read : number? base text = some number) {c : Char} (foreign : digit? base c = none) :
    c ∉ text := by
  intro membership
  unfold number? at read
  split at read
  · cases read
  · have digit := isSome_digit?_of_numberFrom? read c membership
    simp [foreign] at digit

theorem Numeral.unique {base number other : Nat} {text : List Char}
    (numeral : Numeral base text number) (again : Numeral base text other) (bound : base ≤ 16) :
    number = other :=
  Option.some.inj ((numeral.number?_eq bound).symm.trans (again.number?_eq bound))

end JsxLowering.Text
