import GatherScatter.Decimal.Binary64
/-! # The shortest decimal text that reads back as a double -/

namespace GatherScatter.Decimal

def digitCount (n : Nat) : Nat := (Nat.toDigits 10 n).length

def leadExponent (n d : Nat) : Int :=
  let a : Int := (digitCount n : Int) - (digitCount d : Int)
  if d * Nat.pow 10 a.toNat ≤ n * Nat.pow 10 (-a).toNat then a else a - 1

structure Digits where
  digits : Nat
  exponent : Int
  deriving DecidableEq, Repr

/-- The decimals that read back as the double `m · 2^e`: those in its rounding interval. -/
def roundsBack (m : Nat) (e : Int) (d : Digits) : Bool :=
  -- Both sides are scaled to integers: the decimal by `10^-q` and `2^(2-e)`, the bounds by
  -- the same factors.
  let low := if m = Nat.pow 2 52 ∧ -1074 < e then 4 * m - 1 else 4 * m - 2
  let high := 4 * m + 2
  let value := d.digits * Nat.pow 10 d.exponent.toNat * Nat.pow 2 (2 - e).toNat
  let scale := Nat.pow 10 (-d.exponent).toNat * Nat.pow 2 (e - 2).toNat
  if m % 2 = 0 then low * scale ≤ value ∧ value ≤ high * scale
  else low * scale < value ∧ value < high * scale

def nearestWith (m : Nat) (e : Int) (k : Nat) : Option Digits :=
  let xn := m * Nat.pow 2 e.toNat
  let xd := Nat.pow 2 (-e).toNat
  let q := leadExponent xn xd - (k - 1 : Nat)
  let num := xn * Nat.pow 10 (-q).toNat
  let den := xd * Nat.pow 10 q.toNat
  let below : Digits := ⟨num / den, q⟩
  let above : Digits := ⟨num / den + 1, q⟩
  let rem := num % den
  let down := roundsBack m e below
  let up := rem ≠ 0 && roundsBack m e above
  if up && (!down || den ≤ 2 * rem) then some above
  else if down then some below
  else none

def trimZeros : Nat → Digits → Digits
  | 0, d => d
  | fuel + 1, d =>
    if d.digits ≠ 0 ∧ d.digits % 10 = 0 then trimZeros fuel ⟨d.digits / 10, d.exponent + 1⟩
    else d

/-- The shortest decimal that reads back as `m · 2^e`, for a positive `m`. Seventeen
significant digits always suffice for a double. -/
def shortest (m : Nat) (e : Int) : Digits :=
  let found := ((List.range 17).findSome? fun i => nearestWith m e (i + 1)).getD ⟨m, 0⟩
  trimZeros (digitCount found.digits) found

def zeros (n : Nat) : List Char := List.replicate n '0'

/-- The structural text of a double. -/
def debugText (x : Float) : String :=
  match decode x with
  | .nan => "NaN"
  | .infinite negative => if negative then "-inf" else "inf"
  | .finite negative m e =>
    let sign := if negative then "-" else ""
    if m = 0 then sign ++ "0.0"
    else
      let d := shortest m e
      let ds := Nat.toDigits 10 d.digits
      let point : Int := d.exponent + ds.length
      let magnitude := x.abs
      if magnitude < 1e-4 || 1e16 ≤ magnitude then
        let fractionPart := if ds.length ≤ 1 then [] else '.' :: ds.drop 1
        sign ++ String.ofList (ds.take 1 ++ fractionPart) ++ "e" ++ toString (point - 1)
      else if point ≤ 0 then sign ++ String.ofList (['0', '.'] ++ zeros (-point).toNat ++ ds)
      else if ds.length ≤ point.toNat then
        sign ++ String.ofList (ds ++ zeros (point.toNat - ds.length) ++ ['.', '0'])
      else sign ++ String.ofList (ds.take point.toNat ++ '.' :: ds.drop point.toNat)

theorem trimZeros_zero (d : Digits) : trimZeros 0 d = d := rfl

end GatherScatter.Decimal
