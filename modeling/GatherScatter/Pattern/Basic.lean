import GatherScatter.Pattern.Fault
/-! # Patterns -/

namespace GatherScatter

/-- A nonempty list of sparse indices and its largest index. -/
structure Pattern where
  indices : List Nat
  maxIndex : Nat
  maxIndex_mem : maxIndex ∈ indices
  le_maxIndex : ∀ i ∈ indices, i ≤ maxIndex
  maxIndex_lt : maxIndex + 1 < wordLimit

namespace Pattern

/-- Builds the pattern of an index list: the list must be nonempty and its largest index below the
largest word. -/
def ofIndices? (xs : List Nat) : Except PatternFault Pattern :=
  match h : xs.max? with
  | none => .error .empty
  | some m =>
    if hm : m + 1 < wordLimit then
      .ok ⟨xs, m, (List.max?_eq_some_iff.mp h).1, (List.max?_eq_some_iff.mp h).2, hm⟩
    else .error (.indexTooLarge m)

def length (p : Pattern) : Nat := p.indices.length

def sparseLength (p : Pattern) : Nat := p.maxIndex + 1

def render (p : Pattern) : String := ", ".intercalate (p.indices.map Nat.repr)

def adjacentRepeat : List Nat → Bool
  | a :: b :: rest => a == b || adjacentRepeat (b :: rest)
  | _ => false

/-- Whether some sparse slot is named by two positions of the pattern: after sorting, two
neighbours are equal. -/
def hasDuplicates (p : Pattern) : Bool := adjacentRepeat (p.indices.mergeSort (· ≤ ·))

def describe (p : Pattern) : String :=
  s!"Pattern \x7b indices: [{p.render}], max: {p.maxIndex} \x7d"

theorem length_pos (p : Pattern) : 0 < p.length :=
  List.length_pos_of_mem p.maxIndex_mem

theorem lt_sparseLength (p : Pattern) {i : Nat} (h : i ∈ p.indices) : i < p.sparseLength :=
  Nat.lt_succ_of_le (p.le_maxIndex i h)

theorem indices_of_ofIndices? {xs : List Nat} {p : Pattern} (h : ofIndices? xs = .ok p) :
    p.indices = xs := by
  unfold ofIndices? at h
  split at h
  · simp at h
  · split at h
    · simp only [Except.ok.injEq] at h
      subst h
      rfl
    · simp at h

end Pattern

end GatherScatter
