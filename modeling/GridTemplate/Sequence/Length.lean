-- How many elements a list has: a number known beforehand, or as many as can be read.
import GridTemplate.Error

namespace GridTemplate

/-- The greatest number of elements that a list may have. -/
def maxSequenceLength : Nat := 10000

/-- The declared length of a list. -/
inductive SequenceLength
  /-- As many elements as can be read. -/
  | unbounded
  /-- Exactly this many elements. -/
  | exact (length : Nat)
  deriving DecidableEq, Repr

namespace SequenceLength

/-- The length that a count declares. Minus one stands for a length that is not known. -/
def ofCount (count : Int) : Except Error SequenceLength :=
  if count = -1 then .ok .unbounded
  else if 0 ≤ count then .ok (.exact count.toNat)
  else .error (.invalidLength count)

/-- The length in words. -/
def label : SequenceLength → String
  | .unbounded => "Unbounded"
  | .exact length => "Exact(" ++ toString length ++ ")"

end SequenceLength

end GridTemplate
