import GatherScatter.Proofs.Lifecycle

/-! # A gather followed by a scatter puts every value back -/

namespace GatherScatter

namespace Kernel

variable {p : List Nat}

theorem setIfInBounds_of_getElem? {s : Array Float} {j : Nat} {v : Float} (h : s[j]? = some v) :
    s.setIfInBounds j v = s := by
  have hj : j < s.size := by
    rcases Nat.lt_or_ge j s.size with hj | hj
    · exact hj
    · rw [Array.getElem?_eq_none hj] at h
      cases h
  rw [Array.getElem?_eq_getElem hj, Option.some.injEq] at h
  subst h
  simp [Array.setIfInBounds, hj]

theorem storeAll_of_holds (stores : List (Nat × Float)) (s : Array Float)
    (h : ∀ st ∈ stores, st.1 < s.size → s[st.1]? = some st.2) : storeAll stores s = s := by
  induction stores with
  | nil => rfl
  | cons st rest ih =>
    obtain ⟨j, v⟩ := st
    have hstep : storeAll ((j, v) :: rest) s = storeAll rest (s.setIfInBounds j v) := rfl
    have hkeep : s.setIfInBounds j v = s := by
      by_cases hj : j < s.size
      · exact setIfInBounds_of_getElem? (h (j, v) List.mem_cons_self hj)
      · simp [Array.setIfInBounds, hj]
    rw [hstep, hkeep]
    exact ih fun st hst => h st (List.mem_cons_of_mem _ hst)

theorem foldl_scatter_of_holds (order : List Nat) (b : Buffers)
    (h : ∀ i ∈ order, p.getD i 0 < b.sparse.size →
      b.sparse[p.getD i 0]? = some (b.dense.getD i 0)) :
    order.foldl (storeAt .scatter p) b = b := by
  rw [foldl_scatter, storeAll_of_holds]
  intro st hst
  obtain ⟨i, hi, rfl⟩ := List.mem_map.mp hst
  exact h i hi

theorem getElem?_foldl_gather_perm {order : List Nat} {m : Nat} (h : order.Perm (List.range m))
    (b : Buffers) (hm : m ≤ b.dense.size) {j : Nat} (hj : j < m) :
    (order.foldl (storeAt .gather p) b).dense[j]? = some (b.sparse.getD (p.getD j 0) 0) := by
  rw [getElem?_foldl_gather, if_pos (h.mem_iff.mpr (List.mem_range.mpr hj)),
    Array.getElem?_eq_getElem (show j < b.dense.size by omega), Option.map_some]

end Kernel

/-- A gather and then a scatter through one pattern put every value of the sparse buffer back. -/
theorem gather_then_scatter_restores (p : List Nat) (d s : Array Float) (hd : d.size = p.length)
    (hs : ∀ j ∈ p, j < s.size) (e₁ e₂ : Engine) {o₁ o₂ : List Nat}
    (h₁ : e₁.Admits p.length o₁) (h₂ : e₂.Admits p.length o₂) :
    ∃ g, Kernel.gather.runIn p o₁ ⟨d, s⟩ = some g ∧ Kernel.scatter.runIn p o₂ g = some g ∧
      g.sparse = s ∧ g.dense.size = p.length ∧
      ∀ i (hi : i < p.length), g.dense[i]? = s[p[i]]? := by
  have hin : ∀ i < p.length, p.getD i 0 < s.size := fun i hi => by
    rw [List.getD_eq_getElem p 0 hi]
    exact hs _ (List.getElem_mem hi)
  have hp₁ := h₁.perm
  have hp₂ := h₂.perm
  -- Neither run stops: every position of either order names a slot.
  have hgo : ∀ order : List Nat, order.Perm (List.range p.length) →
      order.any (fun i => s.size ≤ p.getD i 0) = false := by
    intro order horder
    simp only [List.any_eq_false, decide_eq_true_eq, Nat.not_le]
    intro i hi
    exact hin i (List.mem_range.mp (horder.mem_iff.mp hi))
  set g := o₁.foldl (Kernel.storeAt .gather p) ⟨d, s⟩ with hg
  have hsparse : g.sparse = s := Kernel.sparse_foldl_gather o₁ _
  have hsize : g.dense.size = p.length := by
    rw [(Kernel.size_foldl_storeAt .gather o₁ _).1]
    exact hd
  -- Each position holds the value of the slot it names.
  have hread : ∀ i < p.length, g.dense[i]? = s[p.getD i 0]? := by
    intro i hi
    rw [Kernel.getElem?_foldl_gather_perm hp₁ _ (by simp [hd]) hi, Array.getD_eq_getD_getElem?,
      Array.getElem?_eq_getElem (hin i hi), Option.getD_some]
  refine ⟨g, ?_, ?_, hsparse, hsize, fun i hi => ?_⟩
  · rw [Kernel.runIn_eq, hgo o₁ hp₁]
    rfl
  · rw [Kernel.runIn_eq, hsparse, hgo o₂ hp₂, if_neg Bool.false_ne_true,
      Kernel.foldl_scatter_of_holds]
    intro i hi _
    have hlt := List.mem_range.mp (hp₂.mem_iff.mp hi)
    rw [hsparse, Array.getD_eq_getD_getElem?, hread i hlt,
      Array.getElem?_eq_getElem (hin i hlt), Option.getD_some]
  · rw [hread i hi, List.getD_eq_getElem p 0 hi]

theorem gather_scatter_repeated_slot :
    (#[5.0, 6.0, 7.0] : Array Float).size = [1, 1, 0].length ∧
      (∀ j ∈ [1, 1, 0], j < (#[0.5, 2.5] : Array Float).size) ∧
      (Engine.parallel (some 2)).Admits [1, 1, 0].length [2, 0, 1] ∧
      (Engine.parallel none).Admits [1, 1, 0].length [1, 2, 0] ∧
      ∃ g, Kernel.gather.runIn [1, 1, 0] [2, 0, 1] ⟨#[5.0, 6.0, 7.0], #[0.5, 2.5]⟩ = some g ∧
        Kernel.scatter.runIn [1, 1, 0] [1, 2, 0] g = some g ∧ g.sparse = #[0.5, 2.5] ∧
        g.dense.size = [1, 1, 0].length ∧
        ∀ i (hi : i < [1, 1, 0].length),
          g.dense[i]? = (#[0.5, 2.5] : Array Float)[[1, 1, 0][i]]? := by
  have h₁ : (Engine.parallel (some 2)).Admits [1, 1, 0].length [2, 0, 1] := by
    show List.Perm _ _
    decide
  have h₂ : (Engine.parallel none).Admits [1, 1, 0].length [1, 2, 0] := by
    show List.Perm _ _
    decide
  exact ⟨by decide, by decide, h₁, h₂,
    gather_then_scatter_restores [1, 1, 0] #[5.0, 6.0, 7.0] #[0.5, 2.5] (by decide) (by decide)
      (.parallel (some 2)) (.parallel none) h₁ h₂⟩

end GatherScatter
