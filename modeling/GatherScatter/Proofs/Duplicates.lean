import Mathlib
import GatherScatter.Proofs.Lifecycle

/-! # Repeated indices and the warning of an unspecified writer -/

theorem List.not_nodup_iff_exists_getElem {α : Type} {l : List α} :
    ¬l.Nodup ↔ ∃ i j, ∃ (hi : i < l.length) (hj : j < l.length), i ≠ j ∧ l[i] = l[j] := by
  rw [List.nodup_iff_injective_get, Function.not_injective_iff]
  constructor
  · rintro ⟨⟨i, hi⟩, ⟨j, hj⟩, hget, hne⟩
    exact ⟨i, j, hi, hj, fun h => hne (Fin.ext h), hget⟩
  · rintro ⟨i, j, hi, hj, hne, heq⟩
    exact ⟨⟨i, hi⟩, ⟨j, hj⟩, heq, fun h => hne (Fin.val_eq_of_eq h)⟩

namespace GatherScatter

namespace Pattern

/-! ## Neighbours in a sorted list -/

theorem adjacentRepeat_iff {l : List Nat} (h : l.Pairwise (· ≤ ·)) :
    adjacentRepeat l = true ↔ ¬l.Nodup := by
  induction l with
  | nil => simp [adjacentRepeat]
  | cons a rest ih =>
    cases rest with
    | nil => simp [adjacentRepeat]
    | cons b rest =>
      obtain ⟨ha, hrest⟩ := List.pairwise_cons.mp h
      -- The head is at most every later entry, so it occurs again only as its neighbour.
      have hmem : a ∈ b :: rest ↔ a = b := by
        refine ⟨fun hm => ?_, fun hab => hab ▸ List.mem_cons_self⟩
        rcases List.mem_cons.mp hm with hab | hm
        · exact hab
        · have := ha b List.mem_cons_self
          have := (List.pairwise_cons.mp hrest).1 a hm
          omega
      rw [adjacentRepeat, Bool.or_eq_true, beq_iff_eq, ih hrest, List.nodup_cons (a := a), hmem,
        not_and_or, not_not]

/-- Any sorted arrangement of a list has two equal neighbours exactly when the list repeats an
entry, so the answer does not depend on how the sort orders equal entries. -/
theorem adjacentRepeat_of_perm {l xs : List Nat} (hs : l.Pairwise (· ≤ ·)) (hperm : l.Perm xs) :
    adjacentRepeat l = true ↔ ¬xs.Nodup := by
  rw [adjacentRepeat_iff hs, hperm.nodup_iff]

theorem hasDuplicates_iff_not_nodup (p : Pattern) : p.hasDuplicates = true ↔ ¬p.indices.Nodup :=
  adjacentRepeat_of_perm (List.pairwise_mergeSort' (· ≤ ·) _) (List.mergeSort_perm _ _)

end Pattern

/-! ## The warning of a setup -/

theorem Buffers.level_of_mem_records {a : Allocator} {p : Pattern} {r : Record}
    (h : r ∈ Buffers.records a p) :
    r.level = .trace := by
  unfold Buffers.records at h
  rcases List.mem_cons.mp (List.mem_of_mem_take h) with rfl | h
  · rfl
  · rw [List.mem_singleton.mp h]

theorem filter_warn_eq_nil {rs : List Record} (h : ∀ r ∈ rs, r.level ≠ .warn) :
    rs.filter (·.level == .warn) = [] :=
  List.filter_eq_nil_iff.mpr fun r hr => by simpa using h r hr

theorem filter_warn_records (a : Allocator) (p : Pattern) :
    (Buffers.records a p).filter (·.level == .warn) = [] :=
  filter_warn_eq_nil fun _ hr => by rw [Buffers.level_of_mem_records hr]; decide

namespace Bench

/-- The warnings of a setup: the one warning of an unspecified writer when the setup succeeds on a
parallel scatter through a pattern that repeats an index, and none otherwise. -/
theorem setup_warnings (b : Bench) (seed : Nat) (m : Machine) :
    (b.setup seed m).2.filter (·.level == .warn) =
      if (b.setup seed m).1.isOk ∧ b.backend = .parallel ∧ b.kernel = .scatter ∧
          b.plan.pattern.hasDuplicates
      then [⟨.warn, .bench, unspecifiedWriterWarning, []⟩] else [] := by
  unfold setup
  cases b.ready with
  | true => simp
  | false =>
    simp only [Bool.false_eq_true, if_false]
    cases Buffers.allocate m.allocator b.plan.pattern seed with
    | error s => simp [filter_warn_records]
    | ok buffers =>
      cases hc : Engine.create m.poolRefusal b.backend b.plan.threads with
      | error f => simp [filter_warn_records, List.filter_append]
      | ok engine =>
        -- Besides the warning, the records are traces, an info record and debug records.
        cases engine <;>
          by_cases hw :
            b.backend = .parallel ∧ b.kernel = .scatter ∧ b.plan.pattern.hasDuplicates <;>
          simp [hw, filter_warn_records, List.filter_append]

end Bench

/-! ## Orders of the stores -/

theorem Engine.races_of_create {pool : Option Nat → Option String} {backend : Backend}
    {threads : Option Nat} {e : Engine} {k : Kernel}
    (h : Engine.create pool backend threads = .ok e) (hrace : e.races k = true) :
    backend = .parallel ∧ k = .scatter := by
  rcases Engine.create_eq_ok h with ⟨-, rfl⟩ | ⟨hpar, -, -, rfl⟩
  · cases hrace
  · cases k with
    | gather => cases hrace
    | scatter => exact ⟨hpar, rfl⟩

theorem Engine.runIn_of_admits {e : Engine} {k : Kernel} {p order : List Nat}
    (hrace : e.races k = true → p.Nodup) (h : e.Admits p.length order) (b : Buffers) :
    k.runIn p order b = k.runIn p (List.range p.length) b := by
  cases e with
  | serial => rw [show order = List.range p.length from h]
  | parallel t =>
    cases k with
    | gather => exact Kernel.runIn_gather_perm h b
    | scatter =>
      have hnd : (p.take p.length).Nodup := by
        rw [List.take_length]
        exact hrace rfl
      exact Kernel.runIn_scatter_perm h le_rfl hnd b

theorem perm_erase_append {m i : Nat} (hi : i < m) :
    ((List.range m).erase i ++ [i]).Perm (List.range m) :=
  List.perm_append_comm.trans (List.perm_cons_erase (List.mem_range.mpr hi)).symm

namespace Kernel

theorem runIn_of_lt {k : Kernel} {p order : List Nat} {b : Buffers}
    (h : ∀ i ∈ order, p.getD i 0 < b.sparse.size) :
    k.runIn p order b = some (order.foldl (storeAt k p) b) := by
  have hany : order.any (fun i => b.sparse.size ≤ p.getD i 0) = false := by
    simp only [List.any_eq_false, decide_eq_true_eq, Nat.not_le]
    exact h
  rw [runIn_eq, hany]
  rfl

theorem scatter_last {p : List Nat} {b : Buffers} {i : Nat} (hi : i < p.length)
    (hin : ∀ x ∈ p, x < b.sparse.size) :
    ∃ r, Kernel.scatter.runIn p ((List.range p.length).erase i ++ [i]) b = some r ∧
      r.sparse[p.getD i 0]? = some (b.dense.getD i 0) := by
  have hslot : ∀ j < p.length, p.getD j 0 < b.sparse.size := fun j hj =>
    hin _ (List.getD_eq_getElem p 0 hj ▸ List.getElem_mem hj)
  have hin' : ∀ j ∈ (List.range p.length).erase i ++ [i], p.getD j 0 < b.sparse.size :=
    fun j hj => hslot j (List.mem_range.mp ((perm_erase_append hi).mem_iff.mp hj))
  refine ⟨_, runIn_of_lt hin', ?_⟩
  -- Position `i` is the last of the writers of its slot.
  have hlast : (((List.range p.length).erase i ++ [i]).filter
      (fun j => p.getD j 0 = p.getD i 0)).getLast? = some i := by
    simp [List.filter_append]
  rw [getElem?_foldl_scatter, hlast, Array.getElem?_eq_getElem (hslot i hi)]
  rfl

end Kernel

/-- A setup warns of an unspecified writer exactly for a parallel scatter through a repeated
index, and exactly then can two orders of the stores leave one slot two values. -/
theorem repeated_index_warning :
    (∀ p : Pattern, p.hasDuplicates = true ↔
      ∃ i j, ∃ (hi : i < p.indices.length) (hj : j < p.indices.length),
        i ≠ j ∧ p.indices[i] = p.indices[j]) ∧
    (∀ (b : Bench) (seed : Nat) (m : Machine), (b.setup seed m).2.filter (·.level == .warn) =
      if (b.setup seed m).1.isOk ∧ b.backend = .parallel ∧ b.kernel = .scatter ∧
          b.plan.pattern.hasDuplicates
      then [⟨.warn, .bench, unspecifiedWriterWarning, []⟩] else []) ∧
    (∀ (b b' : Bench) (seed : Nat) (m : Machine) (st : Stage), (b.setup seed m).1 = .ok b' →
      b'.stage = some st →
      let p := b.plan.pattern.indices
      let warned := b.backend = .parallel ∧ b.kernel = .scatter ∧ b.plan.pattern.hasDuplicates
      (¬warned → ∀ (bufs : Buffers) (order : List Nat), st.engine.Admits p.length order →
        b.kernel.runIn p order bufs = b.kernel.runIn p (List.range p.length) bufs) ∧
      (warned → ∃ i j, i ≠ j ∧ p.getD i 0 = p.getD j 0 ∧ ∃ o₁ o₂,
        st.engine.Admits p.length o₁ ∧ st.engine.Admits p.length o₂ ∧
        ∀ bufs : Buffers, (∀ x ∈ p, x < bufs.sparse.size) → ∃ r₁ r₂,
          b.kernel.runIn p o₁ bufs = some r₁ ∧ b.kernel.runIn p o₂ bufs = some r₂ ∧
          r₁.sparse[p.getD i 0]? = some (bufs.dense.getD i 0) ∧
          r₂.sparse[p.getD i 0]? = some (bufs.dense.getD j 0))) := by
  refine ⟨fun p => (Pattern.hasDuplicates_iff_not_nodup p).trans
    List.not_nodup_iff_exists_getElem, Bench.setup_warnings, ?_⟩
  intro b b' seed m st hs hst
  obtain ⟨-, buffers, engine, -, hcreate, rfl⟩ := Bench.setup_eq_ok_iff.mp hs
  cases hst
  dsimp only
  constructor
  · intro hwarn bufs order horder
    refine Engine.runIn_of_admits (fun hrace => ?_) horder bufs
    -- A racing engine is a parallel scatter, so the pattern cannot repeat an index.
    obtain ⟨hpar, hk⟩ := Engine.races_of_create hcreate hrace
    by_contra hnd
    exact hwarn ⟨hpar, hk, (Pattern.hasDuplicates_iff_not_nodup _).mpr hnd⟩
  · rintro ⟨hpar, hk, hdup⟩
    obtain ⟨i, j, hi, hj, hij, heq⟩ :=
      List.not_nodup_iff_exists_getElem.mp ((Pattern.hasDuplicates_iff_not_nodup _).mp hdup)
    have hgetD : b.plan.pattern.indices.getD j 0 = b.plan.pattern.indices.getD i 0 := by
      rw [List.getD_eq_getElem _ 0 hi, List.getD_eq_getElem _ 0 hj, heq]
    rcases Engine.create_eq_ok hcreate with ⟨hser, -⟩ | ⟨-, -, -, rfl⟩
    · rw [hpar] at hser
      cases hser
    refine ⟨i, j, hij, hgetD.symm, _, _, perm_erase_append hi, perm_erase_append hj, ?_⟩
    intro bufs hin
    rw [hk]
    obtain ⟨r₁, hr₁, hs₁⟩ := Kernel.scatter_last hi hin
    obtain ⟨r₂, hr₂, hs₂⟩ := Kernel.scatter_last hj hin
    exact ⟨r₁, r₂, hr₁, hr₂, hs₁, hgetD ▸ hs₂⟩

end GatherScatter
