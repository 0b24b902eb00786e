import GatherScatter.Proofs.ExplicitList
/-! # Building a pattern -/

namespace GatherScatter

namespace Pattern

/-! ## What every pattern satisfies -/

theorem indices_ne_nil (p : Pattern) : p.indices ≠ [] := List.ne_nil_of_mem p.maxIndex_mem

theorem isEmpty_indices (p : Pattern) : p.indices.isEmpty = false :=
  List.isEmpty_eq_false_iff.mpr p.indices_ne_nil

theorem sparseLength_lt (p : Pattern) : p.sparseLength < wordLimit := p.maxIndex_lt

theorem lt_wordMax (p : Pattern) {i : Nat} (h : i ∈ p.indices) : i < wordMax := by
  have hle := p.le_maxIndex i h
  have hlt := p.maxIndex_lt
  unfold wordMax
  omega

/-! ## What the build accepts -/

theorem max?_lt_iff {xs : List Nat} {m : Nat} (h : xs.max? = some m) :
    m < wordMax ↔ ∀ i ∈ xs, i < wordMax := by
  obtain ⟨hmem, hle⟩ := List.max?_eq_some_iff.mp h
  constructor
  · intro hm i hi
    exact Nat.lt_of_le_of_lt (hle i hi) hm
  · intro hall
    exact hall m hmem

theorem exists_ofIndices?_iff (xs : List Nat) :
    (∃ p, ofIndices? xs = .ok p) ↔ xs ≠ [] ∧ ∀ i ∈ xs, i < wordMax := by
  constructor
  · -- A pattern built keeps the list, so the list has what every pattern has.
    rintro ⟨p, hp⟩
    rw [← indices_of_ofIndices? hp]
    exact ⟨p.indices_ne_nil, fun i hi => p.lt_wordMax hi⟩
  · rintro ⟨hne, hall⟩
    obtain ⟨m, hmax⟩ := Option.ne_none_iff_exists'.mp (mt List.max?_eq_none_iff.mp hne)
    have hm : m + 1 < wordLimit := by
      have := (max?_lt_iff hmax).mpr hall
      unfold wordMax at this
      omega
    obtain ⟨p, hp, -⟩ := ofIndices?_of_max? hmax hm
    exact ⟨p, hp⟩

theorem ofIndices?_eq_error {xs : List Nat} {e : PatternFault} (h : ofIndices? xs = .error e) :
    (xs = [] ∧ e = .empty) ∨ ∃ m, xs.max? = some m ∧ wordMax ≤ m ∧ e = .indexTooLarge m := by
  unfold ofIndices? at h
  split at h
  · rename_i hmax
    exact .inl ⟨List.max?_eq_none_iff.mp hmax, (Except.error.inj h).symm⟩
  · rename_i m hmax
    split at h
    · cases h
    · rename_i hm
      refine .inr ⟨m, hmax, ?_, (Except.error.inj h).symm⟩
      unfold wordMax
      omega

/-- A list builds a pattern exactly when it is nonempty with every index below the largest word. -/
theorem ofIndices?_contract (xs : List Nat) :
    ((∃ p, ofIndices? xs = .ok p) ↔ xs ≠ [] ∧ ∀ i ∈ xs, i < wordMax) ∧
    (∀ p, ofIndices? xs = .ok p →
      p.indices = xs ∧ p.length = xs.length ∧ 0 < p.length ∧ p.indices.isEmpty = false ∧
      xs.max? = some p.maxIndex ∧ p.maxIndex ∈ xs ∧ p.sparseLength = p.maxIndex + 1 ∧
      p.sparseLength < wordLimit ∧ ∀ i ∈ xs, i < p.sparseLength) ∧
    (∀ e, ofIndices? xs = .error e →
      ((xs = [] ∧ e = .empty) ∨ ∃ m, xs.max? = some m ∧ wordMax ≤ m ∧ e = .indexTooLarge m) ∧
      ∃ reason, e.toFault = .configuration reason) ∧
    ∀ q : Pattern, ofIndices? q.indices = .ok q := by
  refine ⟨exists_ofIndices?_iff xs, fun p hp => ?_, fun e he => ⟨ofIndices?_eq_error he, ?_⟩,
    ofIndices?_indices⟩
  · obtain rfl := indices_of_ofIndices? hp
    exact ⟨rfl, rfl, p.length_pos, p.isEmpty_indices, p.max?_indices, p.maxIndex_mem, rfl,
      p.sparseLength_lt, fun i hi => p.lt_sparseLength hi⟩
  · -- Building from a list asks for no buffer, so no refusal is an allocation fault.
    have hne : ∀ sh, e ≠ .refused sh := fun sh hsh => ofIndices?_ne_refused xs sh (hsh ▸ he)
    exact ⟨e.reason, PatternFault.toFault_of_ne_refused hne⟩

theorem largest_index_sparse_length :
    (∃ p, ofIndices? [wordMax - 1] = .ok p ∧ p.sparseLength = wordMax) ∧
    ofIndices? [0, wordMax] = .error (.indexTooLarge wordMax) ∧
    ∃ reason, (PatternFault.indexTooLarge wordMax).toFault = .configuration reason := by
  obtain ⟨hiff, hok, -, -⟩ := ofIndices?_contract [wordMax - 1]
  obtain ⟨p, hp⟩ := hiff.mpr ⟨List.cons_ne_nil _ _, by decide⟩
  obtain ⟨-, -, -, -, hmax, -, hsparse, -⟩ := hok p hp
  have hrefused : ofIndices? [0, wordMax] = .error (.indexTooLarge wordMax) := rfl
  obtain ⟨-, -, herr, -⟩ := ofIndices?_contract [0, wordMax]
  refine ⟨⟨p, hp, ?_⟩, hrefused, (herr _ hrefused).2⟩
  rw [List.max?_singleton, Option.some.injEq] at hmax
  rw [hsparse, ← hmax]
  decide

end Pattern

end GatherScatter
