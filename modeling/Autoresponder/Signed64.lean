/-!
# Signed numbers of 64 bits

The range of the whole numbers that files, tables and servers keep. A number outside it is not kept
as a whole number.
-/

namespace Autoresponder.Signed64

def least : Int := Int64.minValue.toInt

def greatest : Int := Int64.maxValue.toInt

/-- Sixty-four bits are enough for `n` and its sign. -/
def holds (n : Int) : Bool := least ≤ n && n ≤ greatest

theorem holds_iff {n : Int} :
    holds n = true ↔ -9223372036854775808 ≤ n ∧ n ≤ 9223372036854775807 := by
  rw [holds, Bool.and_eq_true, decide_eq_true_iff, decide_eq_true_iff]
  exact Iff.rfl

end Autoresponder.Signed64
