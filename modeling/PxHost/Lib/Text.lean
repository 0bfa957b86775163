import Mathlib.Algebra.Ring.Nat

/-! Texts as a runtime with UTF-16 strings cuts, trims and measures them. -/

namespace Text

/-- White space and line ends, which surround a text and are trimmed. -/
def isBlank (c : Char) : Bool :=
  c.toNat ∈ [0x09, 0x0A, 0x0B, 0x0C, 0x0D, 0x20, 0xA0, 0x1680, 0x2028, 0x2029, 0x202F, 0x205F,
    0x3000, 0xFEFF] || (0x2000 ≤ c.toNat && c.toNat ≤ 0x200A)

def trim (text : String) : String :=
  String.ofList ((text.toList.dropWhile isBlank).reverse.dropWhile isBlank).reverse

/-- The parts between the separators; a text without one is its only part. -/
def split (separator : Char) (text : String) : List String :=
  (text.toList.splitOn separator).map String.ofList

/-- A character beyond the basic plane counts twice. -/
def length (text : String) : Nat :=
  (text.toList.map fun c => if c.toNat < 0x10000 then 1 else 2).sum

end Text
