import GatherScatter.Decimal.Binary64
/-! # Fixed-place decimals -/

namespace GatherScatter.Decimal

def roundHalfEven (num den : Nat) : Nat :=
  let q := num / den
  let r := num % den
  if den < 2 * r then q + 1
  else if 2 * r = den ∧ q % 2 = 1 then q + 1
  else q

def scaledUnits (places mantissa : Nat) (exponent : Int) : Nat :=
  match exponent with
  | .ofNat e => mantissa * Nat.pow 2 e * Nat.pow 10 places
  | .negSucc e => roundHalfEven (mantissa * Nat.pow 10 places) (Nat.pow 2 (e + 1))

def padDigits (width n : Nat) : String :=
  let digits := Nat.repr n
  String.ofList (List.replicate (width - digits.length) '0') ++ digits

def unitsText (places units : Nat) : String :=
  let whole := Nat.repr (units / Nat.pow 10 places)
  if places = 0 then whole
  else whole ++ "." ++ padDigits places (units % Nat.pow 10 places)

/-- A double written with `places` digits after the point. -/
def fixed (places : Nat) (x : Float) : String :=
  match decode x with
  | .nan => "NaN"
  | .infinite negative => if negative then "-inf" else "inf"
  | .finite negative m e =>
    (if negative then "-" else "") ++ unitsText places (scaledUnits places m e)

theorem roundHalfEven_exact (a d : Nat) (hd : 0 < d) : roundHalfEven (a * d) d = a := by
  unfold roundHalfEven
  rw [Nat.mul_mod_left, Nat.mul_div_cancel _ hd]
  simp only [Nat.mul_zero, Nat.not_lt_zero, if_false]
  split
  · omega
  · rfl

end GatherScatter.Decimal
