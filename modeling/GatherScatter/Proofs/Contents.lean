import Mathlib
import GatherScatter.Proofs.Lifecycle
/-! # What the buffers hold after runs -/

namespace GatherScatter

namespace Kernel

variable {p order : List Nat} {d0 s0 : Array Float} {b r : Buffers}

theorem mem_iff_getD {j : Nat} : j ∈ p ↔ ∃ i < p.length, p.getD i 0 = j := by
  rw [List.mem_iff_getElem]
  constructor
  · rintro ⟨i, hi, rfl⟩
    exact ⟨i, hi, List.getD_eq_getElem p 0 hi⟩
  · rintro ⟨i, hi, rfl⟩
    exact ⟨i, hi, (List.getD_eq_getElem p 0 hi).symm⟩

theorem filter_eq_nil_of_not_mem (horder : order.Perm (List.range p.length)) {j : Nat}
    (hj : j ∉ p) : order.filter (fun i => p.getD i 0 = j) = [] := by
  rw [List.filter_eq_nil_iff]
  intro i hi hij
  have hlt := List.mem_range.mp (horder.mem_iff.mp hi)
  exact hj (mem_iff_getD.mpr ⟨i, hlt, of_decide_eq_true hij⟩)

/-! ## Runs from earlier runs -/

/-- Buffers from which a run gives what it gives from `d0` and `s0`. -/
def RunsAs (k : Kernel) (p : List Nat) (d0 s0 : Array Float) (b : Buffers) : Prop :=
  match k with
  | .gather => b.sparse = s0 ∧ b.dense.size = d0.size
  | .scatter => b.dense = d0 ∧ b.sparse.size = s0.size ∧ ∀ j, j ∉ p → b.sparse[j]? = s0[j]?

theorem runsAs_self (k : Kernel) : RunsAs k p d0 s0 ⟨d0, s0⟩ := by
  cases k with
  | gather => exact ⟨rfl, rfl⟩
  | scatter => exact ⟨rfl, rfl, fun _ _ => rfl⟩

theorem runIn_of_runsAs {k : Kernel} (h : RunsAs k p d0 s0 b) (hd0 : d0.size = p.length)
    (horder : order.Perm (List.range p.length)) :
    runIn k p order b = runIn k p order ⟨d0, s0⟩ := by
  cases k with
  | gather =>
    obtain ⟨hs, hd⟩ := h
    rw [runIn_eq, runIn_eq, hs]
    split
    · rfl
    · congr 1
      ext1
      · apply Array.ext_getElem?
        intro j
        rw [getElem?_foldl_gather, getElem?_foldl_gather, hs]
        simp only [horder.mem_iff, List.mem_range]
        by_cases hj : j < p.length
        · -- the position is rewritten from `s0` whatever it held
          have hjb : j < b.dense.size := by omega
          have hjd : j < d0.size := by omega
          simp only [hj, if_true, Array.getElem?_eq_getElem hjb, Array.getElem?_eq_getElem hjd,
            Option.map_some]
        · have hjb : b.dense.size ≤ j := by omega
          have hjd : d0.size ≤ j := by omega
          simp only [hj, if_false, Array.getElem?_eq_none hjb, Array.getElem?_eq_none hjd]
      · rw [sparse_foldl_gather, sparse_foldl_gather, hs]
  | scatter =>
    obtain ⟨hd, hs, hfree⟩ := h
    rw [runIn_eq, runIn_eq, hs]
    split
    · rfl
    · congr 1
      ext1
      · rw [dense_foldl_scatter, dense_foldl_scatter, hd]
      · apply Array.ext_getElem?
        intro j
        rw [getElem?_foldl_scatter, getElem?_foldl_scatter, hd]
        cases hlast : (order.filter fun i => p.getD i 0 = j).getLast? with
        | none =>
          -- no position writes the slot, so the pattern does not name it
          have hj : j ∉ p := by
            intro hj
            obtain ⟨i, hi, hij⟩ := mem_iff_getD.mp hj
            have hmem : i ∈ order.filter fun i => p.getD i 0 = j :=
              List.mem_filter.mpr ⟨horder.mem_iff.mpr (List.mem_range.mpr hi), decide_eq_true hij⟩
            rw [List.getLast?_eq_none_iff] at hlast
            rw [hlast] at hmem
            cases hmem
          simp [hfree j hj]
        | some i =>
          by_cases hj : j < s0.size
          · have hjb : j < b.sparse.size := by omega
            simp [Array.getElem?_eq_getElem hj, Array.getElem?_eq_getElem hjb]
          · have hjb : b.sparse.size ≤ j := by omega
            simp [Array.getElem?_eq_none (Nat.le_of_not_lt hj), Array.getElem?_eq_none hjb]

theorem runsAs_of_runIn {k : Kernel} (horder : order.Perm (List.range p.length))
    (h : runIn k p order ⟨d0, s0⟩ = some r) : RunsAs k p d0 s0 r := by
  rw [runIn_eq] at h
  split at h
  · cases h
  · cases h
    have hsize := @size_foldl_storeAt p k order ⟨d0, s0⟩
    cases k with
    | gather => exact ⟨sparse_foldl_gather _ _, hsize.1⟩
    | scatter =>
      refine ⟨dense_foldl_scatter _ _, hsize.2, fun j hj => ?_⟩
      rw [getElem?_foldl_scatter, filter_eq_nil_of_not_mem horder hj]
      simp

/-! ## One run from the setup's buffers -/

/-- What the buffers hold after runs from `d0` and `s0`: a gather's dense slots their sources,
a scatter's repeated slots the value of one of their writers. -/
def Settled (k : Kernel) (p : List Nat) (d0 s0 : Array Float) (b : Buffers) : Prop :=
  match k with
  | .gather => b.sparse = s0 ∧ b.dense.size = p.length ∧
      ∀ i (hi : i < p.length), b.dense[i]? = s0[p[i]]?
  | .scatter => b.dense = d0 ∧ b.sparse.size = s0.size ∧ (∀ j, j ∉ p → b.sparse[j]? = s0[j]?) ∧
      ∀ j ∈ p, ∃ i, ∃ hi : i < p.length, p[i] = j ∧ b.sparse[j]? = d0[i]?

theorem scatter_slot {j : Nat} (hd0 : d0.size = p.length) (hs0 : ∀ j ∈ p, j < s0.size)
    (horder : order.Perm (List.range p.length))
    (h : runIn .scatter p order ⟨d0, s0⟩ = some r) (hj : j ∈ p) :
    ∃ i, ∃ hi : i < p.length, (order.filter fun i => p.getD i 0 = j).getLast? = some i ∧
      p[i] = j ∧ r.sparse[j]? = d0[i]? := by
  rw [runIn_eq] at h
  split at h
  · cases h
  · cases h
    obtain ⟨i, hi, hij⟩ := mem_iff_getD.mp hj
    have hne : order.filter (fun i => p.getD i 0 = j) ≠ [] := List.ne_nil_of_mem
      (List.mem_filter.mpr ⟨horder.mem_iff.mpr (List.mem_range.mpr hi), decide_eq_true hij⟩)
    obtain ⟨last, hlast⟩ := Option.isSome_iff_exists.mp (List.getLast?_isSome.mpr hne)
    obtain ⟨hlo, hlj⟩ := List.mem_filter.mp (List.mem_of_getLast? hlast)
    have hl : last < p.length := List.mem_range.mp (horder.mem_iff.mp hlo)
    refine ⟨last, hl, hlast, ?_, ?_⟩
    · rw [← List.getD_eq_getElem p 0 hl]
      exact of_decide_eq_true hlj
    · have hjs : j < s0.size := hs0 j hj
      rw [getElem?_foldl_scatter, hlast]
      show Option.map _ s0[j]? = d0[last]?
      rw [Array.getElem?_eq_getElem hjs, Option.map_some, Option.map_some, Option.getD_some,
        Array.getD_eq_getD_getElem?, Array.getElem?_eq_getElem (hd0 ▸ hl), Option.getD_some]

theorem settled_of_runIn {k : Kernel} (hd0 : d0.size = p.length) (hs0 : ∀ j ∈ p, j < s0.size)
    (horder : order.Perm (List.range p.length)) (h : runIn k p order ⟨d0, s0⟩ = some r) :
    Settled k p d0 s0 r := by
  have hruns := runsAs_of_runIn horder h
  cases k with
  | gather =>
    obtain ⟨hs, hd⟩ := hruns
    refine ⟨hs, hd.trans hd0, fun i hi => ?_⟩
    rw [runIn_eq] at h
    split at h
    · cases h
    · cases h
      have hlt : p[i] < s0.size := hs0 _ (List.getElem_mem hi)
      rw [getElem?_foldl_gather, if_pos (horder.mem_iff.mpr (List.mem_range.mpr hi))]
      show Option.map _ d0[i]? = s0[p[i]]?
      rw [Array.getElem?_eq_getElem (hd0 ▸ hi), Option.map_some, List.getD_eq_getElem p 0 hi,
        Array.getD_eq_getD_getElem?, Array.getElem?_eq_getElem hlt, Option.getD_some]
  | scatter =>
    obtain ⟨hd, hs, hfree⟩ := hruns
    refine ⟨hd, hs, hfree, fun j hj => ?_⟩
    obtain ⟨i, hi, -, hij, hv⟩ := scatter_slot hd0 hs0 horder h hj
    exact ⟨i, hi, hij, hv⟩

theorem mem_of_settled {k : Kernel} (h : Settled k p d0 s0 r) {v : Float}
    (hv : v ∈ r.dense ∨ v ∈ r.sparse) : v ∈ d0 ∨ v ∈ s0 := by
  cases k with
  | gather =>
    obtain ⟨hs, hd, hread⟩ := h
    rcases hv with hv | hv
    · obtain ⟨i, hi⟩ := Array.mem_iff_getElem?.mp hv
      have hlt : i < p.length := hd ▸ (Array.getElem?_eq_some_iff.mp hi).1
      rw [hread i hlt] at hi
      exact .inr (Array.mem_of_getElem? hi)
    · exact .inr (hs ▸ hv)
  | scatter =>
    obtain ⟨hd, -, hfree, hwritten⟩ := h
    rcases hv with hv | hv
    · exact .inl (hd ▸ hv)
    · obtain ⟨j, hj⟩ := Array.mem_iff_getElem?.mp hv
      by_cases hjp : j ∈ p
      · obtain ⟨i, -, -, hi⟩ := hwritten j hjp
        rw [hi] at hj
        exact .inl (Array.mem_of_getElem? hj)
      · rw [hfree j hjp] at hj
        exact .inr (Array.mem_of_getElem? hj)

/-! ## The serial order -/

theorem runIn_range_eq_apply (k : Kernel) (hd0 : d0.size = p.length)
    (hs0 : ∀ j ∈ p, j < s0.size) :
    runIn k p (List.range p.length) ⟨d0, s0⟩ = some (apply k p ⟨d0, s0⟩) := by
  have h : runIn k p (List.range (min d0.size p.length)) ⟨d0, s0⟩ =
      (run k p ⟨d0, s0⟩).toOption := runIn_range k p ⟨d0, s0⟩
  have hnone : firstOutOfBounds p d0.size s0.size = none := by
    rw [firstOutOfBounds_eq_none_iff]
    intro i hi
    have hi' : i < p.length := by omega
    rw [List.getD_eq_getElem p 0 hi']
    exact hs0 _ (List.getElem_mem hi')
  rw [hd0, Nat.min_self] at h
  rw [h]
  simp [run, hnone]

theorem le_of_getLast?_filter_range {f : Nat → Bool} {m i : Nat}
    (h : ((List.range m).filter f).getLast? = some i) : ∀ i' < m, f i' = true → i' ≤ i := by
  induction m with
  | zero => intro i' hi'; omega
  | succ m ih =>
    intro i' hi' hf
    rw [List.range_succ, List.filter_append] at h
    by_cases hm : f m = true
    · rw [List.filter_singleton, hm, cond_true, List.getLast?_append_of_ne_nil _ (by simp)] at h
      simp only [List.getLast?_singleton, Option.some.injEq] at h
      omega
    · have hm' : f m = false := by simpa using hm
      rw [List.filter_singleton, hm', cond_false, List.append_nil] at h
      have hne : i' ≠ m := fun he => hm (he ▸ hf)
      exact ih h i' (by omega) hf

end Kernel

theorem Buffers.sample_of_mem_draw {seed start count : Nat} {v : Float}
    (h : v ∈ Buffers.draw seed start count) : ∃ w : UInt32, w.toNat < 2 ^ 31 ∧ v = w.toFloat := by
  unfold Buffers.draw at h
  obtain ⟨w, -, rfl⟩ := List.mem_map.mp (List.mem_toArray.mp h)
  refine ⟨w >>> 1, ?_, rfl⟩
  have hw := w.toNat_lt
  rw [UInt32.toNat_shiftRight, Nat.shiftRight_eq_div_pow]
  show w.toNat / 2 ^ 1 < 2 ^ 31
  omega

/-! ## Every sequence of operations after the setup -/

/-- A bench set up from `d0` and `s0`: its buffers are those before any run and settled after. -/
structure Bench.FilledFrom (plan : Plan) (k : Kernel) (e : Engine) (d0 s0 : Array Float)
    (runs : Nat) (b : Bench) : Prop where
  plan_eq : b.plan = plan
  kernel_eq : b.kernel = k
  buffers : ∃ buffers, b.stage = some ⟨buffers, e⟩ ∧
    (runs = 0 ∧ buffers = ⟨d0, s0⟩ ∨
      0 < runs ∧ ∃ order, e.Admits plan.pattern.length order ∧
        k.runIn plan.pattern.indices order ⟨d0, s0⟩ = some buffers)

namespace Bench.FilledFrom

variable {plan : Plan} {k : Kernel} {e : Engine} {d0 s0 : Array Float} {n : Nat} {b b' : Bench}

theorem step (h : b.FilledFrom plan k e d0 s0 n) (hd0 : d0.size = plan.pattern.length)
    {op : Op} (hs : Step b op b') :
    b'.FilledFrom plan k e d0 s0 (n + if op.isRun then 1 else 0) := by
  obtain ⟨buffers, hst, hbuf⟩ := h.buffers
  rcases hs.eq_or with ⟨rfl, hfail⟩ | ⟨seed, m, rfl, hsetup⟩ |
      ⟨timed, elapsed, order, rfl, horder, hrun⟩
  · -- a bench that is set up is left only by operations other than runs
    have hop : op.isRun = false := by
      cases hr : op.isRun
      · rfl
      · rw [hfail hr] at hst
        cases hst
    simpa [hop] using h
  · rw [(Bench.setup_eq_ok_iff.mp hsetup).1] at hst
    cases hst
  · obtain ⟨st, buffers', hst', -, hdsize, -, hrunIn, -, rfl⟩ := Bench.runChecked_eq_ok hrun
    rw [hst] at hst'
    cases hst'
    have hord : e.Admits plan.pattern.length order := by
      have hadm := horder ⟨buffers, e⟩ hst
      rwa [hdsize, Nat.min_self, h.plan_eq] at hadm
    have hruns : Kernel.RunsAs k plan.pattern.indices d0 s0 buffers := by
      rcases hbuf with ⟨-, rfl⟩ | ⟨-, order0, hord0, hrun0⟩
      · exact Kernel.runsAs_self k
      · exact Kernel.runsAs_of_runIn hord0.perm hrun0
    rw [h.kernel_eq, h.plan_eq, Kernel.runIn_of_runsAs hruns hd0 hord.perm] at hrunIn
    exact ⟨h.plan_eq, h.kernel_eq, buffers', rfl, .inr ⟨by simp [Op.isRun], order, hord, hrunIn⟩⟩

end Bench.FilledFrom

theorem Reach.filledFrom {plan : Plan} {k : Kernel} {e : Engine} {d0 s0 : Array Float}
    {b1 b : Bench} {ops : List Op} (h1 : b1.FilledFrom plan k e d0 s0 0)
    (hd0 : d0.size = plan.pattern.length) (h : Reach b1 ops b) :
    b.FilledFrom plan k e d0 s0 (ops.countP Op.isRun) := by
  induction h with
  | nil => exact h1
  | @snoc ops op _ _ _ hs ih =>
    have := ih.step hd0 hs
    rw [List.countP_append, List.countP_singleton]
    cases hop : op.isRun <;> simpa [hop] using this

/-- After a setup from `seed`, the buffers are those drawn until the first run and settled after
it, whatever the runs and the orders of their stores. -/
theorem Reach.buffers_after_runs {backend : Backend} {plan : Plan} {seed : Nat} {m : Machine}
    {b0 b1 b : Bench} {ops : List Op} (hconf : Bench.configure backend plan = .ok b0)
    (hsetup : (b0.setup seed m).1 = .ok b1) (hreach : Reach b1 ops b) :
    ∃ d0 s0 st, Buffers.allocate m.allocator plan.pattern seed = .ok ⟨d0, s0⟩ ∧ b.stage = some st ∧
      (ops.countP Op.isRun = 0 → st.buffers = ⟨d0, s0⟩) ∧
      (0 < ops.countP Op.isRun →
        Kernel.Settled b.kernel plan.pattern.indices d0 s0 st.buffers ∧
        (backend = .serial →
          st.buffers = b.kernel.apply plan.pattern.indices ⟨d0, s0⟩ ∧
          (b.kernel = .scatter → ∀ j ∈ plan.pattern.indices, ∃ i,
            ∃ hi : i < plan.pattern.indices.length, plan.pattern.indices[i] = j ∧
              st.buffers.sparse[j]? = d0[i]? ∧
              ∀ i' (hi' : i' < plan.pattern.indices.length), plan.pattern.indices[i'] = j →
                i' ≤ i))) ∧
      ∀ v, v ∈ st.buffers.dense ∨ v ∈ st.buffers.sparse →
        (v ∈ d0 ∨ v ∈ s0) ∧ ∃ w : UInt32, w.toNat < 2 ^ 31 ∧ v = w.toFloat := by
  obtain ⟨kernel, rfl⟩ := Bench.configure_eq_ok hconf
  obtain ⟨-, ⟨d0, s0⟩, engine, halloc, hcreate, rfl⟩ := Bench.setup_eq_ok_iff.mp hsetup
  -- the buffers drawn at setup
  obtain ⟨hd, hs⟩ := Buffers.mk.inj (Buffers.allocate_eq_ok halloc)
  have hd0 : d0.size = plan.pattern.length := by rw [hd, Buffers.size_draw]
  have hs0 : ∀ j ∈ plan.pattern.indices, j < s0.size := by
    intro j hj
    rw [hs, Buffers.size_draw]
    exact plan.pattern.lt_sparseLength hj
  have hdrawn : ∀ v, v ∈ d0 ∨ v ∈ s0 → ∃ w : UInt32, w.toNat < 2 ^ 31 ∧ v = w.toFloat := by
    rintro v (hv | hv)
    · exact Buffers.sample_of_mem_draw (hd ▸ hv)
    · exact Buffers.sample_of_mem_draw (hs ▸ hv)
  have h1 : Bench.FilledFrom plan kernel engine d0 s0 0
      { backend, kernel, plan, stage := some ⟨⟨d0, s0⟩, engine⟩ } :=
    ⟨rfl, rfl, ⟨d0, s0⟩, rfl, .inl ⟨rfl, rfl⟩⟩
  obtain ⟨-, hkernel, buffers, hst, hruns⟩ := hreach.filledFrom h1 hd0
  refine ⟨d0, s0, ⟨buffers, engine⟩, halloc, hst, ?initial, ?settled, ?values⟩
  case initial =>
    intro h0
    rcases hruns with ⟨-, rfl⟩ | ⟨hpos, -⟩
    · rfl
    · omega
  case settled =>
    intro hpos
    rcases hruns with ⟨h0, -⟩ | ⟨-, order, hord, hrun⟩
    · omega
    rw [hkernel]
    refine ⟨Kernel.settled_of_runIn hd0 hs0 hord.perm hrun, fun hserial => ?_⟩
    -- the serial engine takes the serial order
    subst hserial
    have he : engine = .serial := by
      rw [Engine.create_serial, Except.ok.injEq] at hcreate
      exact hcreate.symm
    subst he
    have horder : order = List.range plan.pattern.length := hord
    subst horder
    refine ⟨(Option.some.inj ((Kernel.runIn_range_eq_apply kernel hd0 hs0).symm.trans hrun)).symm,
      fun hscatter => ?_⟩
    subst hscatter
    intro j hj
    obtain ⟨i, hi, hlast, hij, hv⟩ := Kernel.scatter_slot hd0 hs0 hord.perm hrun hj
    refine ⟨i, hi, hij, hv, fun i' hi' hij' => Kernel.le_of_getLast?_filter_range hlast i' hi' ?_⟩
    rw [List.getD_eq_getElem _ 0 hi', hij']
    exact decide_eq_true rfl
  case values =>
    intro v hv
    have hmem : v ∈ d0 ∨ v ∈ s0 := by
      rcases hruns with ⟨-, rfl⟩ | ⟨-, order, hord, hrun⟩
      · exact hv
      · exact Kernel.mem_of_settled (Kernel.settled_of_runIn hd0 hs0 hord.perm hrun) hv
    exact ⟨hmem, hdrawn v hmem⟩

theorem buffers_after_two_serial_runs :
    ∃ b0 b1 b, Bench.configure .serial
        { kernel := "gather", pattern := ⟨[1, 0, 1], 1, by decide, by decide, by decide⟩ } =
        .ok b0 ∧
      (b0.setup 7 (.withMemory 1 64)).1 = .ok b1 ∧
      Reach b1 [.run true 0.001, .run false 0.002] b ∧
      ∃ st, b.stage = some st ∧
        st.buffers = b.kernel.apply [1, 0, 1] ⟨Buffers.draw 7 0 3, Buffers.draw 7 3 2⟩ := by
  obtain ⟨b0, hconf⟩ : ∃ b0, Bench.configure .serial
      { kernel := "gather", pattern := ⟨[1, 0, 1], 1, by decide, by decide, by decide⟩ } =
      .ok b0 := ⟨_, by rfl⟩
  have h0 := Bench.Sound.of_configure hconf
  have hdrawn : Buffers.allocate (Machine.withMemory 1 64).allocator
      ⟨[1, 0, 1], 1, by decide, by decide, by decide⟩ 7 =
      .ok ⟨Buffers.draw 7 0 3, Buffers.draw 7 3 2⟩ := by rfl
  obtain ⟨b1, hs1, hstep1, hready⟩ := Bench.exists_setup hconf 7 (.withMemory 1 64) ⟨_, hdrawn⟩ rfl
  have r1 : Reach b0 [.setup 7 (.withMemory 1 64)] b1 := Reach.nil.snoc hstep1
  -- two runs, each from a sound bench that is set up
  obtain ⟨b2, hrun2⟩ := (r1.sound h0).exists_run (by decide) hready true 0.001
  have r2 := r1.snoc hrun2
  obtain ⟨b3, hrun3⟩ := (r2.sound h0).exists_run (by decide) ((Reach.nil.snoc hrun2).ready hready)
    false 0.002
  have r3 : Reach b1 [.run true 0.001, .run false 0.002] b3 := (Reach.nil.snoc hrun2).snoc hrun3
  obtain ⟨d0, s0, st, halloc, hst, -, hruns, -⟩ := Reach.buffers_after_runs hconf hs1 r3
  rw [hdrawn, Except.ok.injEq] at halloc
  rw [halloc]
  exact ⟨b0, b1, b3, hconf, hs1, r3, st, hst, ((hruns (by decide)).2 rfl).1⟩

end GatherScatter
