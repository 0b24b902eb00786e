import GatherScatter.Random.ChaCha
/-! # Seeding a key from a 64-bit number -/

namespace GatherScatter.Random

def multiplier : UInt64 := 6364136223846793005

def increment : UInt64 := 11634580027462260723

def rotr (x : UInt32) (r : UInt32) : UInt32 := (x >>> r) ||| (x <<< (32 - r))

def output (state : UInt64) : UInt32 :=
  let folded := (((state >>> 18) ^^^ state) >>> 27).toUInt32
  rotr folded (state >>> 59).toUInt32

def outputs (state : UInt64) : Nat → List UInt32
  | 0 => []
  | n + 1 =>
    let next := state * multiplier + increment
    output next :: outputs next n

theorem length_outputs (s : UInt64) (n : Nat) : (outputs s n).length = n := by
  induction n generalizing s with
  | zero => rfl
  | succ n ih => simp [outputs, ih]

/-- The key of a 64-bit seed: the generator's first eight words. -/
def keyOfSeed (seed : Nat) : Vector UInt32 8 :=
  ⟨(outputs seed.toUInt64 8).toArray, by simp [length_outputs]⟩

end GatherScatter.Random
