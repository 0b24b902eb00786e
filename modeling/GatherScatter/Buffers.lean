import GatherScatter.Pattern.Basic
import GatherScatter.Random.Seed
import GatherScatter.Journal
/-! # Buffers filled from one seeded key stream, dense values first -/

namespace GatherScatter

structure Buffers where
  dense : Array Float
  sparse : Array Float

namespace Buffers

/-- The value a stream word gives: the word shifted right by one place, as a double. -/
def sample (w : UInt32) : Float := (w >>> 1).toFloat

def draw (seed start count : Nat) : Array Float :=
  ((Random.words (Random.keyOfSeed seed) start count).map sample).toArray

/-- Buffers for a pattern: the dense buffer is asked for first, then the sparse buffer; each is
filled from the stream of `seed`, dense values first. -/
def allocate (a : Allocator) (p : Pattern) (seed : Nat) : Except Shortfall Buffers := do
  a.reserve "dense buffer" p.length
  a.reserve "sparse buffer" p.sparseLength
  pure ⟨draw seed 0 p.length, draw seed p.length p.sparseLength⟩

def granted (a : Allocator) (p : Pattern) : Nat :=
  match a.reserve "dense buffer" p.length, a.reserve "sparse buffer" p.sparseLength with
  | .error _, _ => 0
  | .ok (), .error _ => 1
  | .ok (), .ok () => 2

def records (a : Allocator) (p : Pattern) : List Record :=
  let note (name : String) (n : Nat) : Record :=
    ⟨.trace, .buffers, s!"allocated {name}: {n} elements", []⟩
  [note "dense buffer" p.length, note "sparse buffer" p.sparseLength].take (granted a p)

def bytes (b : Buffers) : Nat := (b.dense.size + b.sparse.size) * elementBytes

theorem size_draw (seed start count : Nat) : (draw seed start count).size = count := by
  simp [draw, Random.length_words]

/-- The dense request is made first: refused, nothing is granted; granted, the sparse request
decides whether the buffers are drawn. -/
theorem allocate_cases (a : Allocator) (p : Pattern) (seed : Nat) :
    (∃ s, a.reserve "dense buffer" p.length = .error s ∧ allocate a p seed = .error s ∧
        granted a p = 0) ∨
      (∃ s, a.reserve "dense buffer" p.length = .ok () ∧
        a.reserve "sparse buffer" p.sparseLength = .error s ∧ allocate a p seed = .error s ∧
        granted a p = 1) ∨
      (a.reserve "dense buffer" p.length = .ok () ∧
        a.reserve "sparse buffer" p.sparseLength = .ok () ∧
        allocate a p seed = .ok ⟨draw seed 0 p.length, draw seed p.length p.sparseLength⟩ ∧
        granted a p = 2) := by
  unfold allocate granted
  cases a.reserve "dense buffer" p.length with
  | error s => exact .inl ⟨s, rfl, rfl, rfl⟩
  | ok u =>
    cases u
    cases a.reserve "sparse buffer" p.sparseLength with
    | error s => exact .inr (.inl ⟨s, rfl, rfl, rfl, rfl⟩)
    | ok v =>
      cases v
      exact .inr (.inr ⟨rfl, rfl, rfl, rfl⟩)

end Buffers

end GatherScatter
