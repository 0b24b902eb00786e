import GatherScatter.Lifecycle
import GatherScatter.Proofs.Compile
import GatherScatter.Proofs.Stores
/-! # Every reachable bench is sound -/

namespace GatherScatter

theorem Engine.admits_range (e : Engine) (m : Nat) : e.Admits m (List.range m) := by
  cases e with
  | serial => rfl
  | parallel t => exact List.Perm.refl _

theorem Engine.Admits.perm {e : Engine} {m : Nat} {order : List Nat} (h : e.Admits m order) :
    order.Perm (List.range m) := by
  cases e with
  | serial =>
    rw [show order = List.range m from h]
  | parallel t => exact h

theorem Buffers.allocate_eq_ok {a : Allocator} {p : Pattern} {seed : Nat} {b : Buffers}
    (h : Buffers.allocate a p seed = .ok b) :
    b = ⟨Buffers.draw seed 0 p.length, Buffers.draw seed p.length p.sparseLength⟩ := by
  rcases Buffers.allocate_cases a p seed with ⟨s, -, ha, -⟩ | ⟨s, -, -, ha, -⟩ | ⟨-, -, ha, -⟩
  · rw [ha] at h; cases h
  · rw [ha] at h; cases h
  · rw [ha] at h
    exact (Except.ok.inj h).symm

/-! ## One operation -/

namespace Bench

theorem configure_eq_ok {backend : Backend} {plan : Plan} {b : Bench}
    (h : configure backend plan = .ok b) : ∃ kernel, b = { backend, kernel, plan } := by
  obtain ⟨k, -, -, -, rfl⟩ := configure_eq_ok_iff.mp h
  exact ⟨k, rfl⟩

/-- A setup succeeds exactly on a bench not yet set up whose buffers are granted and whose engine
comes up; it gives the bench the buffers filled from the seed and the engine. -/
theorem setup_eq_ok_iff {b b' : Bench} {seed : Nat} {m : Machine} :
    (b.setup seed m).1 = .ok b' ↔ b.stage = none ∧ ∃ buffers engine,
      Buffers.allocate m.allocator b.plan.pattern seed = .ok buffers ∧
      Engine.create m.poolRefusal b.backend b.plan.threads = .ok engine ∧
      b' = { b with stage := some ⟨buffers, engine⟩ } := by
  cases hr : b.ready with
  | true =>
    have hst : b.stage ≠ none := fun h => by simp [ready_eq_false_iff.mpr h] at hr
    simp [setup_of_ready hr, hst]
  | false =>
    rw [setup_fst_of_not_ready hr, ready_eq_false_iff.mp hr]
    simp only [true_and]
    cases ha : Buffers.allocate m.allocator b.plan.pattern seed with
    | error s => simp
    | ok buffers =>
      cases hc : Engine.create m.poolRefusal b.backend b.plan.threads with
      | error f => simp
      | ok engine =>
        simp only [mapError_ok, ok_bind, Except.ok.injEq, exists_and_left, exists_eq_left',
          pure, Except.pure]
        exact eq_comm

theorem create_error_of_configure {backend : Backend} {plan : Plan} {b : Bench}
    {pool : Option Nat → Option String} {f : Fault} (h : configure backend plan = .ok b)
    (hf : Engine.create pool backend plan.threads = .error f) :
    ∃ reason, pool plan.threads = some reason ∧ f = Engine.poolFault reason := by
  obtain ⟨-, -, hs, ht, -⟩ := configure_eq_ok_iff.mp h
  rcases Engine.create_eq_error hf with ⟨-, h0, -⟩ | ⟨-, -, hpool⟩ | ⟨rfl, -⟩
  · exact absurd h0 ht
  · exact hpool
  · cases hs

theorem create_of_configure {backend : Backend} {plan : Plan} {b : Bench}
    {pool : Option Nat → Option String} (h : configure backend plan = .ok b)
    (hpool : pool plan.threads = none) :
    ∃ engine, Engine.create pool backend plan.threads = .ok engine := by
  cases hc : Engine.create pool backend plan.threads with
  | ok engine => exact ⟨engine, rfl⟩
  | error f =>
    obtain ⟨reason, hr, -⟩ := create_error_of_configure h hc
    rw [hpool] at hr
    cases hr

theorem exists_setup {backend : Backend} {plan : Plan} {b0 : Bench}
    (hconf : configure backend plan = .ok b0) (seed : Nat) (m : Machine)
    (hgrant : ∃ buffers, Buffers.allocate m.allocator plan.pattern seed = .ok buffers)
    (hpool : m.poolRefusal plan.threads = none) :
    ∃ b1, (b0.setup seed m).1 = .ok b1 ∧ Step b0 (.setup seed m) b1 ∧ b1.ready = true := by
  obtain ⟨buffers, halloc⟩ := hgrant
  obtain ⟨engine, hcreate⟩ := create_of_configure hconf hpool
  obtain ⟨kernel, rfl⟩ := configure_eq_ok hconf
  have hs : (Bench.setup { backend, kernel, plan } seed m).1 =
      .ok { backend, kernel, plan, stage := some ⟨buffers, engine⟩ } :=
    setup_eq_ok_iff.mpr ⟨rfl, buffers, engine, halloc, hcreate, rfl⟩
  refine ⟨_, hs, ?_, rfl⟩
  simpa [hs] using Step.setup { backend, kernel, plan } seed m

theorem runChecked_eq_ok {b b' : Bench} {timed : Bool} {elapsed : Float} {order : List Nat}
    (h : b.runChecked timed elapsed order = some (.ok b')) :
    ∃ st buffers, b.stage = some st ∧ b.coordinator.barriers < wordMax ∧
      st.buffers.dense.size = b.plan.pattern.length ∧
      st.buffers.sparse.size = b.plan.pattern.sparseLength ∧
      b.kernel.runIn b.plan.pattern.indices order st.buffers = some buffers ∧
      (timed = true → b.tally.timedRuns < wordMax) ∧
      b' = { b with coordinator := b.coordinator.barrier,
                    timer := { running := false, last := elapsed },
                    tally := if timed then b.tally.record elapsed else b.tally,
                    stage := some { st with buffers } } := by
  unfold runChecked at h
  split at h
  · cases h
  · rename_i st hst
    dsimp only at h
    split at h
    · cases h
    · rename_i hbar
      split at h
      · cases h
      · rename_i hsize
        split at h
        · rename_i buffers _ hrun _
          split at h
          · cases h
          · rename_i htimed
            cases h
            refine ⟨st, buffers, hst, Nat.lt_of_not_le hbar, ?_, ?_, hrun, ?_, rfl⟩
            · exact Decidable.of_not_not fun hd => hsize (.inl hd)
            · exact Decidable.of_not_not fun hs => hsize (.inr hs)
            · intro ht
              exact Nat.lt_of_not_le fun hle => htimed ⟨ht, hle⟩
        · cases h

theorem runChecked_eq_error {b : Bench} {timed : Bool} {elapsed : Float} {order : List Nat}
    {f : Fault} (h : b.runChecked timed elapsed order = some (.error f)) : b.stage = none := by
  unfold runChecked at h
  split at h
  · assumption
  · dsimp only at h
    split at h
    · cases h
    · split at h
      · cases h
      · split at h
        · split at h
          · cases h
          · cases h
        · cases h

theorem runChecked_of_sized {b : Bench} {st : Stage} {timed : Bool} {elapsed : Float}
    {order : List Nat} (hst : b.stage = some st) (hbar : b.coordinator.barriers < wordMax)
    (htimed : timed = true → b.tally.timedRuns < wordMax)
    (hd : st.buffers.dense.size = b.plan.pattern.length)
    (hs : st.buffers.sparse.size = b.plan.pattern.sparseLength)
    (horder : ∀ i ∈ order, i < b.plan.pattern.length) :
    ∃ b', b.runChecked timed elapsed order = some (.ok b') := by
  -- every position of the order names a slot, since the sparse buffer reaches past every index
  have hin : ∀ i ∈ order, b.plan.pattern.indices.getD i 0 < st.buffers.sparse.size := by
    intro i hi
    have hlt : i < b.plan.pattern.indices.length := horder i hi
    rw [hs, List.getD_eq_getElem _ 0 hlt]
    exact b.plan.pattern.lt_sparseLength (List.getElem_mem hlt)
  obtain ⟨buffers, hrun⟩ := Kernel.runIn_isSome (k := b.kernel) hin
  unfold runChecked
  rw [hst]
  dsimp only
  rw [if_neg (Nat.not_le_of_lt hbar), if_neg (by omega), hrun]
  have hnot : ¬(timed = true ∧ wordMax ≤ b.tally.timedRuns) := fun ⟨ht, hle⟩ =>
    Nat.not_le_of_lt (htimed ht) hle
  have hstop : b.timer.start.stop elapsed = .ok { running := false, last := elapsed } := rfl
  simp only [hstop, if_neg hnot]
  exact ⟨_, rfl⟩

end Bench

/-- A step keeps the bench, or is a setup that succeeds, or a run that returns a bench. -/
theorem Step.eq_or {b b' : Bench} {op : Op} (h : Step b op b') :
    (b' = b ∧ (op.isRun = true → b.stage = none)) ∨
      (∃ seed m, op = .setup seed m ∧ (b.setup seed m).1 = .ok b') ∨
      ∃ timed elapsed order, op = .run timed elapsed ∧
        (∀ st, b.stage = some st →
          st.engine.Admits (min st.buffers.dense.size b.plan.pattern.length) order) ∧
        b.runChecked timed elapsed order = some (.ok b') := by
  cases h with
  | setup seed m =>
    cases hs : (b.setup seed m).1 with
    | error f => exact .inl ⟨by simp, fun h => by cases h⟩
    | ok b'' => exact .inr (.inl ⟨seed, m, rfl, by simp [hs]⟩)
  | @run timed elapsed r order horder hrun =>
    cases r with
    | error f => exact .inl ⟨rfl, fun _ => Bench.runChecked_eq_error hrun⟩
    | ok b'' => exact .inr (.inr ⟨timed, elapsed, order, rfl, horder, hrun⟩)
  | @keep op hkeep =>
    refine .inl ⟨rfl, fun hrun => ?_⟩
    cases op <;> cases hkeep <;> cases hrun

/-! ## The invariant -/

/-- What holds of a bench configured for `plan` after at most `runs` runs. -/
structure Bench.Sound (plan : Plan) (runs : Nat) (b : Bench) : Prop where
  plan_eq : b.plan = plan
  timer_stopped : b.timer.running = false
  barriers_le : b.coordinator.barriers ≤ runs
  timedRuns_le : b.tally.timedRuns ≤ runs
  sized : ∀ st, b.stage = some st → st.buffers.dense.size = plan.pattern.length ∧
    st.buffers.sparse.size = plan.pattern.sparseLength

namespace Bench.Sound

variable {plan : Plan} {n : Nat} {b b' : Bench}

theorem mono (h : b.Sound plan n) {n' : Nat} (hn : n ≤ n') : b.Sound plan n' :=
  { h with barriers_le := Nat.le_trans h.barriers_le hn
           timedRuns_le := Nat.le_trans h.timedRuns_le hn }

theorem of_configure {backend : Backend} (h : configure backend plan = .ok b) : b.Sound plan 0 := by
  obtain ⟨kernel, rfl⟩ := configure_eq_ok h
  exact ⟨rfl, rfl, Nat.le_refl 0, Nat.le_refl 0, fun st hst => by cases hst⟩

theorem setup (h : b.Sound plan n) {seed : Nat} {m : Machine} (hs : (b.setup seed m).1 = .ok b') :
    b'.Sound plan n := by
  obtain ⟨-, buffers, engine, halloc, -, rfl⟩ := setup_eq_ok_iff.mp hs
  refine { h with sized := ?_ }
  rintro st ⟨⟩
  -- the buffers are drawn with the pattern's lengths
  rw [Buffers.allocate_eq_ok halloc, ← h.plan_eq]
  exact ⟨Buffers.size_draw _ _ _, Buffers.size_draw _ _ _⟩

theorem run (h : b.Sound plan n) {timed : Bool} {elapsed : Float} {order : List Nat}
    (hr : b.runChecked timed elapsed order = some (.ok b')) : b'.Sound plan (n + 1) := by
  obtain ⟨st, buffers, hst, -, -, -, hrun, -, rfl⟩ := runChecked_eq_ok hr
  have hsize := Kernel.size_runIn hrun
  refine ⟨h.plan_eq, rfl, ?_, ?_, ?_⟩
  · exact Nat.succ_le_succ h.barriers_le
  · cases timed
    · exact Nat.le_succ_of_le h.timedRuns_le
    · exact Nat.succ_le_succ h.timedRuns_le
  · rintro st' ⟨⟩
    obtain ⟨hd, hs⟩ := h.sized st hst
    exact ⟨hsize.1.trans hd, hsize.2.trans hs⟩

theorem sizes_of_ready (h : b.Sound plan n) (hr : b.ready = true) :
    b.dense.size = plan.pattern.length ∧ b.sparse.size = plan.pattern.sparseLength := by
  cases hst : b.stage with
  | none => simp [ready_eq_false_iff.mpr hst] at hr
  | some st =>
    obtain ⟨hd, hs⟩ := h.sized st hst
    simp [dense, sparse, hst, hd, hs]

theorem step (h : b.Sound plan n) {op : Op} (hs : Step b op b') :
    b'.Sound plan (n + if op.isRun then 1 else 0) := by
  rcases hs.eq_or with ⟨rfl, -⟩ | ⟨seed, m, rfl, hsetup⟩ | ⟨timed, elapsed, order, rfl, -, hrun⟩
  · exact h.mono (Nat.le_add_right _ _)
  · exact h.setup hsetup
  · exact h.run hrun

theorem runChecked_ok (h : b.Sound plan n) (hn : n < wordMax) {st : Stage}
    (hst : b.stage = some st) {timed : Bool} {elapsed : Float} {order : List Nat}
    (horder : ∀ i ∈ order, i < plan.pattern.length) :
    ∃ b', b.runChecked timed elapsed order = some (.ok b') := by
  obtain ⟨hd, hs⟩ := h.sized st hst
  rw [← h.plan_eq] at hd hs horder
  exact runChecked_of_sized hst (by have := h.barriers_le; omega)
    (fun _ => by have := h.timedRuns_le; omega) hd hs horder

theorem runChecked_ne_none (h : b.Sound plan n) (hn : n < wordMax) {timed : Bool}
    {elapsed : Float} {order : List Nat}
    (horder : ∀ st, b.stage = some st →
      st.engine.Admits (min st.buffers.dense.size plan.pattern.length) order) :
    b.runChecked timed elapsed order ≠ none := by
  cases hst : b.stage with
  | none =>
    unfold runChecked
    rw [hst]
    exact Option.some_ne_none _
  | some st =>
    -- an admitted order takes the positions paired with the dense buffer, which are the pattern's
    obtain ⟨hd, -⟩ := h.sized st hst
    have hin : ∀ i ∈ order, i < plan.pattern.length := by
      intro i hi
      have hm := (horder st hst).perm.mem_iff.mp hi
      rwa [List.mem_range, hd, Nat.min_self] at hm
    obtain ⟨b', hb'⟩ := h.runChecked_ok hn hst hin
    rw [hb']
    exact Option.some_ne_none _

theorem exists_run (h : b.Sound plan n) (hn : n < wordMax) (hr : b.ready = true) (timed : Bool)
    (elapsed : Float) : ∃ b', Step b (.run timed elapsed) b' := by
  obtain ⟨st, hst⟩ := Option.isSome_iff_exists.mp hr
  obtain ⟨hd, -⟩ := h.sized st hst
  have horder : ∀ st', b.stage = some st' →
      st'.engine.Admits (min st'.buffers.dense.size b.plan.pattern.length)
        (List.range plan.pattern.length) := by
    rintro st' hst'
    rw [hst] at hst'
    cases hst'
    rw [h.plan_eq, hd, Nat.min_self]
    exact Engine.admits_range _ _
  obtain ⟨b', hb'⟩ := h.runChecked_ok hn hst (fun i hi => List.mem_range.mp hi)
  exact ⟨_, Step.run _ horder hb'⟩

end Bench.Sound

/-! ## Every sequence of operations -/

namespace Reach

variable {b0 b b' : Bench} {ops ops' : List Op}

theorem append (h : Reach b0 ops b) (h' : Reach b ops' b') : Reach b0 (ops ++ ops') b' := by
  induction h' with
  | nil => simpa using h
  | snoc _ hs ih => simpa [List.append_assoc] using ih.snoc hs

/-- The invariant holds of every bench reached from a sound one, counting the runs taken. -/
theorem sound {plan : Plan} {n : Nat} (h0 : b0.Sound plan n) (h : Reach b0 ops b) :
    b.Sound plan (n + ops.countP Op.isRun) := by
  induction h with
  | nil => simpa using h0
  | @snoc ops op _ _ _ hs ih =>
    have := ih.step hs
    rw [List.countP_append, List.countP_singleton, ← Nat.add_assoc]
    cases hop : op.isRun <;> simpa [hop] using this

theorem ready (h : Reach b ops b') (hb : b.ready = true) : b'.ready = true := by
  induction h with
  | nil => exact hb
  | snoc _ hs ih =>
    rcases hs.eq_or with ⟨rfl, -⟩ | ⟨seed, m, -, hsetup⟩ | ⟨timed, elapsed, order, -, -, hrun⟩
    · exact ih
    · have hnone := (Bench.setup_eq_ok_iff.mp hsetup).1
      simp [Bench.ready_eq_false_iff.mpr hnone] at ih
    · obtain ⟨-, -, -, -, -, -, -, -, rfl⟩ := Bench.runChecked_eq_ok hrun
      rfl

end Reach

/-- Every bench reached from a configured one is sound, and in fewer than `2 ^ 64` runs no run
stops the program, whatever order its stores take. -/
theorem Reach.safe {backend : Backend} {plan : Plan} {b0 b : Bench} {ops : List Op}
    (hconf : Bench.configure backend plan = .ok b0) (hreach : Reach b0 ops b) :
    b.plan = plan ∧ b.timer.running = false ∧
    ((b.stage = none ∧ b.dense = #[] ∧ b.sparse = #[]) ∨
      (b.ready = true ∧ b.dense.size = plan.pattern.length ∧
        b.sparse.size = plan.pattern.sparseLength ∧
        ∀ i ∈ plan.pattern.indices, i < b.sparse.size)) ∧
    (∀ ops' b', Reach b ops' b' → b.ready = true →
      b'.ready = true ∧ b'.dense.size = b.dense.size ∧ b'.sparse.size = b.sparse.size) ∧
    (ops.countP Op.isRun < wordMax → ∀ timed elapsed order,
      (∀ st, b.stage = some st →
        st.engine.Admits (min st.buffers.dense.size plan.pattern.length) order) →
      b.runChecked timed elapsed order ≠ none) := by
  have h0 := Bench.Sound.of_configure hconf
  have h : b.Sound plan (ops.countP Op.isRun) := by simpa using hreach.sound h0
  refine ⟨h.plan_eq, h.timer_stopped, ?buffers, ?kept, ?runs⟩
  case buffers =>
    cases hst : b.stage with
    | none => exact .inl ⟨rfl, by simp [Bench.dense, hst], by simp [Bench.sparse, hst]⟩
    | some st =>
      have hready : b.ready = true := Bench.ready_eq_true_iff.mpr ⟨st, hst⟩
      obtain ⟨hd, hs⟩ := h.sizes_of_ready hready
      refine .inr ⟨hready, hd, hs, fun i hi => ?_⟩
      rw [hs]
      exact plan.pattern.lt_sparseLength hi
  case kept =>
    intro ops' b' hreach' hready
    have h' := (hreach.append hreach').sound h0
    have hready' := hreach'.ready hready
    obtain ⟨hd, hs⟩ := h.sizes_of_ready hready
    obtain ⟨hd', hs'⟩ := h'.sizes_of_ready hready'
    exact ⟨hready', hd'.trans hd.symm, hs'.trans hs.symm⟩
  case runs =>
    intro hn timed elapsed order horder
    exact h.runChecked_ne_none hn horder

theorem runs_safe_after_setup_and_run :
    ∃ b0 b, Bench.configure .serial
        { kernel := "gather", pattern := ⟨[1, 0, 1], 1, by decide, by decide, by decide⟩ } =
        .ok b0 ∧
      Reach b0 [.setup 7 (.withMemory 1 64), .run true 0.001, .report] b ∧
      b.runChecked false 0 (List.range 3) ≠ none := by
  obtain ⟨b0, hconf⟩ : ∃ b0, Bench.configure .serial
      { kernel := "gather", pattern := ⟨[1, 0, 1], 1, by decide, by decide, by decide⟩ } =
      .ok b0 := ⟨_, by rfl⟩
  have h0 := Bench.Sound.of_configure hconf
  -- the setup draws buffers of lengths 3 and 2 and brings up the serial engine
  obtain ⟨b1, -, hs1, hready⟩ := Bench.exists_setup hconf 7 (.withMemory 1 64) ⟨_, by rfl⟩ rfl
  have r1 : Reach b0 [.setup 7 (.withMemory 1 64)] b1 := Reach.nil.snoc hs1
  obtain ⟨b2, hrun⟩ := (r1.sound h0).exists_run (by decide) hready
    true 0.001
  have r3 : Reach b0 [.setup 7 (.withMemory 1 64), .run true 0.001, .report] b2 :=
    (r1.snoc hrun).snoc (Step.keep b2 rfl)
  have h3 := r3.sound h0
  refine ⟨b0, b2, hconf, r3, (Reach.safe hconf r3).2.2.2.2 (by decide) false 0 (List.range 3) ?_⟩
  intro st hst
  rw [(h3.sized st hst).1]
  exact Engine.admits_range _ _

end GatherScatter
