import GatherScatter.Engine
import Mathlib.Data.List.Nodup
import Mathlib.Data.List.GetD

/-! # Kernels whose stores take effect in any order -/

namespace GatherScatter

@[ext] theorem Buffers.ext {a c : Buffers} (hd : a.dense = c.dense) (hs : a.sparse = c.sparse) :
    a = c := by
  cases a; cases c; simp_all

namespace Kernel

variable {p : List Nat} {b : Buffers} {i : Nat}

/-! ## One store -/

@[simp] theorem sparse_storeAt_gather : (storeAt .gather p b i).sparse = b.sparse := rfl

@[simp] theorem dense_storeAt_scatter : (storeAt .scatter p b i).dense = b.dense := rfl

@[simp] theorem size_sparse_storeAt (k : Kernel) :
    (storeAt k p b i).sparse.size = b.sparse.size := by
  cases k <;> simp [storeAt]

@[simp] theorem size_dense_storeAt (k : Kernel) : (storeAt k p b i).dense.size = b.dense.size := by
  cases k <;> simp [storeAt]

/-! ## A run in some order -/

theorem runIn_eq (k : Kernel) (p order : List Nat) (b : Buffers) :
    runIn k p order b = if order.any (fun i => b.sparse.size ≤ p.getD i 0) then none
      else some (order.foldl (storeAt k p) b) := by
  induction order generalizing b with
  | nil => rfl
  | cons i rest ih =>
    unfold runIn at ih ⊢
    by_cases h : b.sparse.size ≤ p.getD i 0
    · simp only [List.foldlM_cons, h, if_true, Option.bind_eq_bind, Option.bind_none,
        List.any_cons, decide_true, Bool.true_or]
    · simp only [List.foldlM_cons, h, if_false, Option.bind_eq_bind, Option.bind_some, ih,
        size_sparse_storeAt, List.any_cons, decide_false, Bool.false_or, List.foldl_cons]

theorem size_foldl_storeAt (k : Kernel) (order : List Nat) (b : Buffers) :
    (order.foldl (storeAt k p) b).dense.size = b.dense.size ∧
      (order.foldl (storeAt k p) b).sparse.size = b.sparse.size := by
  induction order generalizing b with
  | nil => exact ⟨rfl, rfl⟩
  | cons i rest ih =>
    rw [List.foldl_cons]
    obtain ⟨hd, hs⟩ := ih (storeAt k p b i)
    exact ⟨hd.trans (size_dense_storeAt k), hs.trans (size_sparse_storeAt k)⟩

theorem size_runIn {k : Kernel} {order : List Nat} {r : Buffers} (h : runIn k p order b = some r) :
    r.dense.size = b.dense.size ∧ r.sparse.size = b.sparse.size := by
  rw [runIn_eq] at h
  split at h
  · cases h
  · cases h
    exact size_foldl_storeAt k order b

theorem runIn_isSome {k : Kernel} {order : List Nat}
    (h : ∀ i ∈ order, p.getD i 0 < b.sparse.size) : ∃ r, runIn k p order b = some r := by
  have hany : order.any (fun i => b.sparse.size ≤ p.getD i 0) = false := by
    simp only [List.any_eq_false, decide_eq_true_eq, Nat.not_le]
    exact h
  rw [runIn_eq, hany]
  exact ⟨_, rfl⟩

theorem getElem?_foldl_gather (order : List Nat) (b : Buffers) (j : Nat) :
    (order.foldl (storeAt .gather p) b).dense[j]? =
      if j ∈ order then b.dense[j]?.map (fun _ => b.sparse.getD (p.getD j 0) 0)
      else b.dense[j]? := by
  induction order generalizing b with
  | nil => simp
  | cons i rest ih =>
    rw [List.foldl_cons, ih]
    simp only [storeAt, Array.getElem?_setIfInBounds, List.mem_cons]
    by_cases hji : j = i
    · subst hji
      by_cases hj : j < b.dense.size <;> by_cases hr : j ∈ rest <;> simp [hr, hj]
    · by_cases hr : j ∈ rest <;> simp [hr, hji, Ne.symm hji]

theorem sparse_foldl_gather (order : List Nat) (b : Buffers) :
    (order.foldl (storeAt .gather p) b).sparse = b.sparse := by
  induction order generalizing b with
  | nil => rfl
  | cons i rest ih => rw [List.foldl_cons, ih]; rfl

theorem foldl_scatter (order : List Nat) (b : Buffers) :
    order.foldl (storeAt .scatter p) b =
      { b with
        sparse := storeAll (order.map fun i => (p.getD i 0, b.dense.getD i 0)) b.sparse } := by
  induction order generalizing b with
  | nil => rfl
  | cons i rest ih => rw [List.foldl_cons, ih]; rfl

theorem getElem?_storeAll (stores : List (Nat × Float)) (s : Array Float) (k : Nat) :
    (storeAll stores s)[k]? =
      s[k]?.map fun v => (((stores.filter (·.1 = k)).getLast?).map (·.2)).getD v := by
  induction stores generalizing s with
  | nil => simp [storeAll]
  | cons st rest ih =>
    obtain ⟨j, v⟩ := st
    have hstep : storeAll ((j, v) :: rest) s = storeAll rest (s.setIfInBounds j v) := rfl
    rw [hstep, ih, Array.getElem?_setIfInBounds]
    by_cases hjk : j = k
    · subst hjk
      by_cases hj : j < s.size
      · cases hlast : (rest.filter (·.1 = j)).getLast? <;>
          simp [hj, hlast, List.getLast?_cons]
      · simp [hj]
    · simp [hjk]

theorem getElem?_foldl_scatter (order : List Nat) (b : Buffers) (k : Nat) :
    (order.foldl (storeAt .scatter p) b).sparse[k]? =
      b.sparse[k]?.map fun v =>
        ((order.filter fun i => p.getD i 0 = k).getLast?.map (b.dense.getD · 0)).getD v := by
  rw [foldl_scatter, getElem?_storeAll, List.filter_map, List.getLast?_map, Option.map_map]
  rfl

/-! ## The serial engine -/

theorem getElem?_gatherInto (p : List Nat) (d s : Array Float) (j : Nat) :
    (gatherInto p d s)[j]? =
      if j < min d.size p.length then d[j]?.map (fun _ => s.getD (p.getD j 0) 0) else d[j]? := by
  unfold gatherInto
  simp only [Array.getElem?_append, List.size_toArray, List.length_map, List.length_take,
    List.getElem?_toArray, List.getElem?_map, List.getElem?_take, Array.getElem?_extract]
  by_cases hj : j < min d.size p.length
  · have hd : j < d.size := by omega
    have hp : j < p.length := by omega
    simp [hj, hd, hp, List.getD_eq_getElem?_getD]
  · by_cases hd : j < d.size
    · simp [hj, hd, show j - min d.size p.length < d.size - min d.size p.length by omega,
        show min d.size p.length + (j - min d.size p.length) = j by omega]
    · simp [hj, hd, show ¬ j - min d.size p.length < d.size - min d.size p.length by omega]

theorem zip_eq_map_range (p : List Nat) (d : Array Float) :
    p.zip d.toList = (List.range (min d.size p.length)).map fun i => (p.getD i 0, d.getD i 0) := by
  apply List.ext_getElem
  · simp [Nat.min_comm]
  · intro n h₁ h₂
    have hn : n < min d.size p.length := by simpa using h₂
    simp [List.getD_eq_getElem?_getD, Array.getD_eq_getD_getElem?,
      List.getElem?_eq_getElem (show n < p.length by omega),
      Array.getElem?_eq_getElem (show n < d.size by omega)]

theorem foldl_range (k : Kernel) (p : List Nat) (b : Buffers) :
    (List.range (min b.dense.size p.length)).foldl (storeAt k p) b = apply k p b := by
  cases k with
  | gather =>
    ext1
    · apply Array.ext_getElem?
      intro j
      rw [getElem?_foldl_gather, apply, getElem?_gatherInto]
      simp only [List.mem_range]
    · exact sparse_foldl_gather _ b
  | scatter => rw [foldl_scatter, apply, scatterInto, zip_eq_map_range]

theorem firstOutOfBounds_eq_none_iff (p : List Nat) (n s : Nat) :
    firstOutOfBounds p n s = none ↔ ∀ i < min n p.length, p.getD i 0 < s := by
  unfold firstOutOfBounds
  rw [Option.map_eq_none_iff, List.find?_eq_none]
  constructor
  · intro h i hi
    have hmem : p.getD i 0 ∈ p.take n := by
      rw [List.getD_eq_getElem p 0 (show i < p.length by omega)]
      exact List.mem_iff_getElem.mpr ⟨i, by simp; omega, by simp⟩
    simpa using h _ hmem
  · intro h x hx
    obtain ⟨i, hi, rfl⟩ := List.mem_iff_getElem.mp hx
    have hlt := h i (by simpa using hi)
    simp only [List.length_take] at hi
    rw [List.getD_eq_getElem p 0 (show i < p.length by omega)] at hlt
    simp only [List.getElem_take, decide_eq_true_eq, Nat.not_le]
    exact hlt

theorem runIn_range (k : Kernel) (p : List Nat) (b : Buffers) :
    runIn k p (List.range (min b.dense.size p.length)) b = (run k p b).toOption := by
  rw [runIn_eq, foldl_range]
  have hiff : (List.range (min b.dense.size p.length)).any
      (fun i => b.sparse.size ≤ p.getD i 0) = false ↔
      firstOutOfBounds p b.dense.size b.sparse.size = none := by
    rw [firstOutOfBounds_eq_none_iff]
    simp only [List.any_eq_false, List.mem_range, decide_eq_true_eq, Nat.not_le]
  unfold run
  cases h : firstOutOfBounds p b.dense.size b.sparse.size with
  | some e =>
    have hany : (List.range (min b.dense.size p.length)).any
        (fun i => b.sparse.size ≤ p.getD i 0) = true := by
      cases hb : (List.range (min b.dense.size p.length)).any
          (fun i => b.sparse.size ≤ p.getD i 0)
      · rw [hiff.mp hb] at h
        cases h
      · rfl
    rw [hany]
    rfl
  | none =>
    rw [hiff.mpr h]
    rfl

/-! ## Any order -/

theorem dense_foldl_scatter (order : List Nat) (b : Buffers) :
    (order.foldl (storeAt .scatter p) b).dense = b.dense := by
  rw [foldl_scatter]

theorem runIn_gather_perm {order : List Nat} {m : Nat} (h : order.Perm (List.range m))
    (b : Buffers) : runIn .gather p order b = runIn .gather p (List.range m) b := by
  rw [runIn_eq, runIn_eq, h.any_eq]
  split
  · rfl
  · congr 1
    ext1
    · apply Array.ext_getElem?
      intro j
      rw [getElem?_foldl_gather, getElem?_foldl_gather]
      simp only [h.mem_iff]
    · rw [sparse_foldl_gather, sparse_foldl_gather]

theorem getLast?_eq_of_perm {l₁ l₂ : List Nat} (h : l₁.Perm l₂)
    (hu : ∀ a ∈ l₂, ∀ c ∈ l₂, a = c) : l₁.getLast? = l₂.getLast? := by
  cases h₂ : l₂.getLast? with
  | none =>
    rw [List.getLast?_eq_none_iff] at h₂ ⊢
    subst h₂
    exact h.eq_nil
  | some c =>
    have hc := List.mem_of_getLast? h₂
    cases h₁ : l₁.getLast? with
    | none =>
      rw [List.getLast?_eq_none_iff] at h₁
      subst h₁
      rw [← h.nil_eq] at hc
      cases hc
    | some a => rw [hu a (h.mem_iff.mp (List.mem_of_getLast? h₁)) c hc]

theorem writer_unique {m : Nat} (hm : m ≤ p.length) (hnd : (p.take m).Nodup) (k : Nat) :
    ∀ a ∈ (List.range m).filter (fun i => p.getD i 0 = k),
      ∀ c ∈ (List.range m).filter (fun i => p.getD i 0 = k), a = c := by
  intro a ha c hc
  simp only [List.mem_filter, List.mem_range, decide_eq_true_eq] at ha hc
  have hla : a < (p.take m).length := by simp; omega
  have hlc : c < (p.take m).length := by simp; omega
  have hpa : (p.take m)[a] = p.getD a 0 := by
    rw [List.getElem_take, List.getD_eq_getElem p 0 (show a < p.length by omega)]
  have hpc : (p.take m)[c] = p.getD c 0 := by
    rw [List.getElem_take, List.getD_eq_getElem p 0 (show c < p.length by omega)]
  exact (hnd.getElem_inj_iff).mp (by rw [hpa, hpc, ha.2, hc.2])

theorem runIn_scatter_perm {order : List Nat} {m : Nat} (h : order.Perm (List.range m))
    (hm : m ≤ p.length) (hnd : (p.take m).Nodup) (b : Buffers) :
    runIn .scatter p order b = runIn .scatter p (List.range m) b := by
  rw [runIn_eq, runIn_eq, h.any_eq]
  split
  · rfl
  · congr 1
    ext1
    · rw [dense_foldl_scatter, dense_foldl_scatter]
    · apply Array.ext_getElem?
      intro k
      rw [getElem?_foldl_scatter, getElem?_foldl_scatter,
        getLast?_eq_of_perm (h.filter _) (writer_unique hm hnd k)]

end Kernel

/-! ## Every order of the stores -/

/-- What a kernel's stores do when they take effect in `order`. -/
def OrderedStores (p : List Nat) (d s : Array Float) (order : List Nat) : Prop :=
  let m := min d.size p.length
  let outOfBounds := ∃ i < m, s.size ≤ p.getD i 0
  (∀ k : Kernel, k.runIn p (List.range m) ⟨d, s⟩ = (k.run p ⟨d, s⟩).toOption) ∧
  (Kernel.gather.runIn p order ⟨d, s⟩ = none ↔ outOfBounds) ∧
  (Kernel.scatter.runIn p order ⟨d, s⟩ = none ↔ outOfBounds) ∧
  (∀ r, Kernel.gather.runIn p order ⟨d, s⟩ = some r →
    r.sparse = s ∧ ∀ j, r.dense[j]? = if j < m then s[p.getD j 0]? else d[j]?) ∧
  Kernel.gather.runIn p order ⟨d, s⟩ = (Kernel.gather.run p ⟨d, s⟩).toOption ∧
  (∀ r, Kernel.scatter.runIn p order ⟨d, s⟩ = some r →
    r.dense = d ∧ ∀ k, r.sparse[k]? = s[k]?.map fun v =>
      ((order.filter fun i => p.getD i 0 = k).getLast?.map (d.getD · 0)).getD v) ∧
  ((p.take m).Nodup →
    Kernel.scatter.runIn p order ⟨d, s⟩ = (Kernel.scatter.run p ⟨d, s⟩).toOption)

/-- Every order of a kernel's stores, as the threads of a parallel engine may take them, does
what `OrderedStores` says. -/
theorem orderedStores_of_perm (p : List Nat) (d s : Array Float) (order : List Nat)
    (horder : order.Perm (List.range (min d.size p.length))) : OrderedStores p d s order := by
  have hserial := fun k => Kernel.runIn_range k p ⟨d, s⟩
  have hm : min d.size p.length ≤ p.length := Nat.min_le_right _ _
  -- Both kernels stop on the same condition, since the sparse length never changes.
  have hstop : ∀ k : Kernel, k.runIn p order ⟨d, s⟩ = none ↔
      ∃ i < min d.size p.length, s.size ≤ p.getD i 0 := by
    intro k
    rw [Kernel.runIn_eq, horder.any_eq]
    simp only [List.any_eq_true, List.mem_range, decide_eq_true_eq]
    split
    · simp_all
    · simp_all
  refine ⟨hserial, hstop .gather, hstop .scatter, ?gather, ?same, ?scatter, ?unique⟩
  case gather =>
    intro r hr
    rw [Kernel.runIn_eq] at hr
    split at hr
    · cases hr
    · rename_i hin
      cases hr
      refine ⟨Kernel.sparse_foldl_gather _ _, fun j => ?_⟩
      rw [Kernel.getElem?_foldl_gather]
      simp only [horder.mem_iff, List.mem_range]
      split
      · rename_i hj
        have hlt : p.getD j 0 < s.size := by
          simp only [horder.any_eq, List.any_eq_true, List.mem_range, decide_eq_true_eq,
            not_exists, not_and, Nat.not_le] at hin
          exact hin j hj
        have hd : j < d.size := by omega
        show Option.map (fun _ => s.getD (p.getD j 0) 0) d[j]? = s[p.getD j 0]?
        rw [Array.getElem?_eq_getElem hd, Option.map_some, Array.getD_eq_getD_getElem?,
          Array.getElem?_eq_getElem hlt, Option.getD_some]
      · rfl
  case same => rw [Kernel.runIn_gather_perm horder, hserial]
  case scatter =>
    intro r hr
    rw [Kernel.runIn_eq] at hr
    split at hr
    · cases hr
    · cases hr
      exact ⟨Kernel.dense_foldl_scatter _ _, fun k => Kernel.getElem?_foldl_scatter _ _ k⟩
  case unique =>
    intro hnd
    rw [Kernel.runIn_scatter_perm horder hm hnd, hserial]

theorem orderedStores_reversed :
    ([2, 1, 0] : List Nat).Perm (List.range (min #[1.0, 2.0, 3.0].size [1, 0, 1].length)) ∧
      OrderedStores [1, 0, 1] #[1.0, 2.0, 3.0] #[0.0, 0.0] [2, 1, 0] :=
  ⟨by decide, orderedStores_of_perm _ _ _ _ (by decide)⟩

end GatherScatter
