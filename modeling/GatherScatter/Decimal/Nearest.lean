/-! # The double nearest a decimal -/

namespace GatherScatter.Decimal

def scaledDiv (n d : Nat) (k : Int) : Nat × Nat × Nat :=
  let num := n * Nat.pow 2 (-k).toNat
  let den := d * Nat.pow 2 k.toNat
  (num / den, num % den, den)

def binaryExponent (n d : Nat) : Int :=
  let k : Int := (Nat.log2 n : Int) - (Nat.log2 d : Int) - 52
  let k := if (scaledDiv n d k).1 < Nat.pow 2 52 then k - 1 else k
  max k (-1074)

/-- The double nearest `m · 10^e`, ties to even. A value of at least `10 ^ 310` is infinite
and one below `10 ^ -330` is zero, so such exponents need no large powers. -/
def nearest (m : Nat) (e : Int) : Float :=
  if m = 0 then 0
  else
    let digits : Int := (Nat.toDigits 10 m).length
    if 310 < e + digits then 1 / 0
    else if e + digits < -330 then 0
    else
      let n := m * Nat.pow 10 e.toNat
      let d := Nat.pow 10 (-e).toNat
      let k := binaryExponent n d
      let (q, rem, den) := scaledDiv n d k
      let up := den < 2 * rem ∨ (2 * rem = den ∧ q % 2 = 1)
      let q := if up then q + 1 else q
      let (q, k) := if q = Nat.pow 2 53 then (Nat.pow 2 52, k + 1) else (q, k)
      if 971 < k then 1 / 0
      else (q.toUInt64.toFloat).scaleB k

theorem nearest_zero (e : Int) : nearest 0 e = 0 := rfl

end GatherScatter.Decimal
