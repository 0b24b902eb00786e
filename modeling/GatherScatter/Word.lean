/-! # Machine words -/

namespace GatherScatter

def wordLimit : Nat := Nat.pow 2 64

def wordMax : Nat := wordLimit - 1

/-- The product of two words, or the largest word when it does not fit. -/
def saturatingMul (a b : Nat) : Nat := min (a * b) wordMax

def elementBytes : Nat := 8

theorem wordMax_eq : wordMax = 18446744073709551615 := rfl

theorem wordMax_add_one : wordMax + 1 = wordLimit := rfl

theorem saturatingMul_le (a b : Nat) : saturatingMul a b ≤ wordMax := Nat.min_le_right _ _

theorem saturatingMul_of_lt {a b : Nat} (h : a * b < wordLimit) : saturatingMul a b = a * b := by
  unfold saturatingMul wordMax
  omega

end GatherScatter
