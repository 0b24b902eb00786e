import GatherScatter.Pattern.Basic
/-! # Pattern generators -/

namespace GatherScatter

namespace Generate

/-! ## Mostly stride one -/

def pairGaps (locations gaps : List Nat) : List (Nat × Nat) :=
  match gaps with
  | [g] => locations.map (fun l => (l, g))
  | _ => locations.zip gaps

def firstRepeat? : List (Nat × Nat) → Option Nat
  | a :: b :: rest => if a.1 = b.1 then some a.1 else firstRepeat? (b :: rest)
  | _ => none

def stepsFrom : List (Nat × Nat) → Nat → Nat → List Nat
  | _, _, 0 => []
  | [], _, n + 1 => List.replicate (n + 1) 1
  | (l, g) :: bs, i, n + 1 =>
    if l = i then g :: stepsFrom bs (i + 1) n else 1 :: stepsFrom ((l, g) :: bs) (i + 1) n

def runningSums : Nat → List Nat → List Nat
  | acc, [] => [acc]
  | acc, s :: ss => acc :: runningSums (acc + s) ss

/-- A mostly-stride-one index list of `len` indices with gaps at the given locations, after
its checks in order. -/
def strideOne (a : Allocator) (len : Nat) (locations gaps : List Nat) :
    Except PatternFault (List Nat) := do
  if len = 0 then throw .strideOneEmpty
  if locations = [] then throw .noGapLocation
  if gaps.length ≠ 1 ∧ gaps.length ≠ locations.length then
    throw (.gapCount locations.length gaps.length)
  let breaks := (pairGaps locations gaps).mergeSort (fun a b => a.1 ≤ b.1)
  if let some l := firstRepeat? breaks then throw (.repeatedLocation l)
  if let some b := breaks.find? (fun b => b.1 = 0 || len ≤ b.1) then
    throw (.locationOutOfRange b.1 len)
  match a.reserve "pattern" len with
  | .error s => throw (.refused s)
  | .ok () => pure ()
  -- The running sum only grows, so it leaves the word range exactly when its last value does:
  -- one per position without a break, plus every gap.
  if wordLimit ≤ (len - 1 - breaks.length) + (breaks.map (·.2)).foldr (· + ·) 0 then
    throw .strideOneOverflow
  pure (runningSums 0 (stepsFrom breaks 1 (len - 1)))

/-! ## Uniform stride -/

/-- The first `len` multiples of `stride`. The checks, in order: a positive length, the last
multiple within a word, the index buffer granted. -/
def uniform (a : Allocator) (len stride : Nat) : Except PatternFault (List Nat) := do
  if len = 0 then throw .uniformEmpty
  if wordLimit ≤ (len - 1) * stride then throw .uniformOverflow
  match a.reserve "pattern" len with
  | .error s => throw (.refused s)
  | .ok () => pure ()
  pure ((List.range len).map (· * stride))

/-! ## Repetition -/

def shiftedCopies (base : List Nat) (delta count : Nat) : List Nat :=
  (List.range count).flatMap fun j => base.map (· + j * delta)

/-- The first range rule that the copies break, copy by copy, shift before indices. -/
def firstOverflow (base : List Nat) (delta count : Nat) : Option PatternFault :=
  let top := base.foldl max 0
  if delta = 0 then
    if wordLimit ≤ top ∧ 0 < count then some .indexOverflow else none
  else
    let firstIndex := (wordLimit - top + delta - 1) / delta
    let firstOffset := (wordLimit + delta - 1) / delta
    if firstIndex < count then
      some (if firstIndex < firstOffset then .indexOverflow else .offsetOverflow)
    else none

/-- The base repeated `count` times, copy `j` shifted by `j * delta`. The checks, in order: at least
one copy, the total length within a word, the index buffer granted, then each copy in turn. -/
def repeatShifted (a : Allocator) (base : List Nat) (delta count : Nat) :
    Except PatternFault (List Nat) := do
  if count = 0 then throw .zeroCount
  if wordLimit ≤ base.length * count then throw .lengthOverflow
  match a.reserve "pattern" (base.length * count) with
  | .error s => throw (.refused s)
  | .ok () => pure ()
  if let some f := firstOverflow base delta count then throw f
  pure (shiftedCopies base delta count)

end Generate

end GatherScatter
