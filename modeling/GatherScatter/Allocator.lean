import GatherScatter.Word
/-! # Buffer requests, refused past the largest object size or by the allocator -/

namespace GatherScatter

inductive Refusal where
  | capacity
  | exhausted
  deriving DecidableEq, Repr

def Refusal.message : Refusal → String
  | .capacity =>
    "memory allocation failed because the computed capacity exceeded the collection's maximum"
  | .exhausted => "memory allocation failed because the memory allocator returned an error"

structure Shortfall where
  buffer : String
  bytes : Nat
  refusal : Refusal
  deriving DecidableEq, Repr

def objectLimit : Nat := Nat.pow 2 63 - 1

/-- A memory allocator, known by its answer to each request for a block of so many bytes: whether
it supplies one. -/
structure Allocator where
  supplies : Nat → Bool

namespace Allocator

def upTo (limit : Nat) : Allocator := ⟨fun bytes => decide (bytes ≤ limit)⟩

/-- Whether a buffer of `n` elements can be had from the allocator, and if not, why. -/
def refusalFor (a : Allocator) (n : Nat) : Option Refusal :=
  if objectLimit < n * elementBytes then some .capacity
  else if n ≠ 0 ∧ a.supplies (n * elementBytes) = false then some .exhausted
  else none

/-- Asks the allocator for a buffer of `n` elements named `buffer`. -/
def reserve (a : Allocator) (buffer : String) (n : Nat) : Except Shortfall Unit :=
  match a.refusalFor n with
  | some r => .error ⟨buffer, saturatingMul n elementBytes, r⟩
  | none => .ok ()

variable {a : Allocator} {buffer : String} {n : Nat}

theorem refusalFor_eq_none_iff :
    a.refusalFor n = none ↔
      n * elementBytes ≤ objectLimit ∧ (n = 0 ∨ a.supplies (n * elementBytes) = true) := by
  unfold refusalFor
  by_cases hcap : objectLimit < n * elementBytes
  · rw [if_pos hcap]
    simp only [reduceCtorEq, false_iff, not_and]
    intro hle
    omega
  · rw [if_neg hcap]
    have hle : n * elementBytes ≤ objectLimit := Nat.le_of_not_lt hcap
    -- the allocator is asked only for a positive number of elements
    cases hs : a.supplies (n * elementBytes) <;> by_cases h0 : n = 0 <;> simp [h0, hle]

@[simp] theorem reserve_eq_ok_iff : a.reserve buffer n = .ok () ↔ a.refusalFor n = none := by
  unfold reserve
  cases a.refusalFor n with
  | some r => simp
  | none => simp

theorem reserve_eq_error_iff {sh : Shortfall} :
    a.reserve buffer n = .error sh ↔
      ∃ r, a.refusalFor n = some r ∧ sh = ⟨buffer, saturatingMul n elementBytes, r⟩ := by
  unfold reserve
  split
  · rename_i r hr
    simp only [Except.error.injEq, hr, Option.some.injEq, exists_eq_left']
    exact eq_comm
  · rename_i hr
    simp [hr]

theorem bytes_le_of_reserve (h : a.reserve buffer n = .ok ()) : n * elementBytes ≤ objectLimit :=
  (refusalFor_eq_none_iff.mp (reserve_eq_ok_iff.mp h)).1

end Allocator

end GatherScatter
