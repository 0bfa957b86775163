import Mathlib.Algebra.Ring.Int.Defs

/-! Integers written in decimal, and read back from their digits. -/

namespace Decimal

/-- The decimal digits of an integer, behind a sign if it is negative. -/
def format : Int → List Char
  | .ofNat n => Nat.toDigits 10 n
  | .negSucc n => '-' :: Nat.toDigits 10 (n + 1)

/-- At least one digit, and nothing but digits. -/
def parseNat (text : List Char) : Option Nat :=
  if text ≠ [] ∧ text.all Char.isDigit then some (Nat.ofDigitChars 10 text 0) else none

/-- Digits behind an optional sign. -/
def parse : List Char → Option Int
  | '-' :: text => (parseNat text).map fun n => -(n : Int)
  | '+' :: text => (parseNat text).map fun n => (n : Int)
  | text => (parseNat text).map fun n => (n : Int)

/-- A text is refused when its value has no place in a machine word. -/
def parse64 (text : List Char) : Option Int64 :=
  ((parse text).filter fun n => -2 ^ 63 ≤ n ∧ n < 2 ^ 63).map Int64.ofInt

theorem parseNat_toDigits (n : Nat) : parseNat (Nat.toDigits 10 n) = some n := by
  have nonempty : Nat.toDigits 10 n ≠ [] := List.ne_nil_of_length_pos Nat.length_toDigits_pos
  have digits : (Nat.toDigits 10 n).all Char.isDigit := by
    rw [List.all_eq_true]
    exact fun c member => Nat.isDigit_of_mem_toDigits (by decide) (by decide) member
  simp [parseNat, nonempty, digits, Nat.ofDigitChars_toDigits]

theorem isDigit_of_mem_format {n : Int} {c : Char} (member : c ∈ format n) :
    c = '-' ∨ c.isDigit := by
  cases n with
  | ofNat n => exact .inr (Nat.isDigit_of_mem_toDigits (by decide) (by decide) member)
  | negSucc n =>
    rcases List.mem_cons.mp member with sign | digit
    · exact .inl sign
    · exact .inr (Nat.isDigit_of_mem_toDigits (by decide) (by decide) digit)

theorem parse_format (n : Int) : parse (format n) = some n := by
  cases n with
  | negSucc n => simp [format, parse, parseNat_toDigits, Int.negSucc_eq]
  | ofNat n =>
    -- The text starts with a digit, so that neither sign is looked for.
    have unsigned : ∀ c ∈ Nat.toDigits 10 n, c ≠ '-' ∧ c ≠ '+' := by
      intro c member
      have digit := Nat.isDigit_of_mem_toDigits (by decide) (by decide) member
      constructor <;> rintro rfl <;> simp at digit
    simp only [format]
    unfold parse
    split
    · rename_i same
      exact absurd rfl (unsigned '-' (by simp [same])).1
    · rename_i same
      exact absurd rfl (unsigned '+' (by simp [same])).2
    · simp [parseNat_toDigits]

theorem parse64_format (n : Int64) : parse64 (format n.toInt) = some n := by
  have inside : -2 ^ 63 ≤ n.toInt ∧ n.toInt < 2 ^ 63 := ⟨n.le_toInt, n.toInt_lt⟩
  rw [parse64, parse_format, Option.filter_some, if_pos (decide_eq_true inside), Option.map_some,
    Int64.ofInt_toInt]

end Decimal
