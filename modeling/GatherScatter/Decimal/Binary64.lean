/-! # Doubles by their bits -/

namespace GatherScatter.Decimal

inductive Binary64 where
  | nan
  | infinite (negative : Bool)
  | finite (negative : Bool) (mantissa : Nat) (exponent : Int)
  deriving DecidableEq, Repr

/-- The meaning of the 64 bits of a double. Subnormals have exponent `-1074` and no hidden bit. -/
def decodeBits (bits : Nat) : Binary64 :=
  let negative : Bool := bits / Nat.pow 2 63 % 2 == 1
  let field : Nat := bits / Nat.pow 2 52 % Nat.pow 2 11
  let fraction : Nat := bits % Nat.pow 2 52
  if field = Nat.pow 2 11 - 1 then
    if fraction = 0 then .infinite negative else .nan
  else if field = 0 then .finite negative fraction (-1074)
  else .finite negative (fraction + Nat.pow 2 52) (Int.ofNat field - 1075)

def decode (x : Float) : Binary64 := decodeBits x.toBits.toNat

theorem decodeBits_zero : decodeBits 0 = .finite false 0 (-1074) := by
  decide +kernel

end GatherScatter.Decimal
