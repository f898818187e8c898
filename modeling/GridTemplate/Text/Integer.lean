-- Whole numbers as people write them: an optional sign and then decimal digits. They are read at
-- once, or one digit at a time with the sign on each of them.

namespace GridTemplate

/-- The number that decimal digits spell. There has to be at least one digit and nothing else. -/
def digitsValue? (chars : List Char) : Option Nat :=
  if chars ≠ [] ∧ chars.all Char.isDigit = true then some (Nat.ofDigitChars 10 chars 0) else none

/-- The number that an optional sign and digits spell. -/
def signedValue? : List Char → Option Int
  | '+' :: digits => (digitsValue? digits).map fun n => (n : Int)
  | '-' :: digits => (digitsValue? digits).map fun n => -(n : Int)
  | digits => (digitsValue? digits).map fun n => (n : Int)

/-- Whether a number fits into 32 bits with a sign. -/
def FitsInt32 (n : Int) : Prop := -2147483648 ≤ n ∧ n ≤ 2147483647

instance (n : Int) : Decidable (FitsInt32 n) := by unfold FitsInt32; infer_instance

/-- The signed number of at most 32 bits that a text spells. Leading zeros do not matter. -/
def int32Value? (text : String) : Option Int :=
  (signedValue? text.toList).filter fun n => decide (FitsInt32 n)

/-! ## Digits one at a time -/

/-- The sign that may stand in front of digits. -/
inductive Sign
  | none
  | plus
  | minus
  deriving DecidableEq, Repr

/-- The number with the sign. -/
def Sign.apply : Sign → Nat → Int
  | .minus, n => -(n : Int)
  | _, n => n

/-- The sign in front of characters, if there is one, and the characters behind it. -/
def splitSign : List Char → Sign × List Char
  | '+' :: digits => (.plus, digits)
  | '-' :: digits => (.minus, digits)
  | digits => (.none, digits)

/-- A number, as long as it fits into 32 bits with a sign. -/
def fitInt32? (n : Int) : Option Int := if FitsInt32 n then some n else none

/-- The number read so far and the next digit. Both steps have to fit. -/
def pushSignedDigit? (sign : Sign) (n : Int) (c : Char) : Option Int :=
  if c.isDigit then
    (fitInt32? (n * 10)).bind fun tens => fitInt32? (tens + sign.apply (c.toNat - '0'.toNat))
  else none

/-- The signed number of at most 32 bits that a text spells, read one digit at a time. -/
def int32ByDigits? (text : String) : Option Int :=
  let (sign, digits) := splitSign text.toList
  if digits = [] then none else digits.foldlM (pushSignedDigit? sign) 0

end GridTemplate
