import Mathlib
import GatherScatter.Proofs.Lifecycle
/-! # What failed operations leave behind, and what sequences of operations count -/

namespace GatherScatter

/-! ## Buffers and engines that are refused -/

namespace Buffers

variable {a : Allocator} {p : Pattern} {seed : Nat}

theorem allocate_eq_error {s : Shortfall} (h : allocate a p seed = .error s) :
    (a.reserve "dense buffer" p.length = .error s ∧ granted a p = 0) ∨
      (a.reserve "dense buffer" p.length = .ok () ∧
        a.reserve "sparse buffer" p.sparseLength = .error s ∧ granted a p = 1) := by
  rcases allocate_cases a p seed with ⟨s', hd, ha, hg⟩ | ⟨s', hd, hs, ha, hg⟩ | ⟨-, -, ha, -⟩
  · rw [ha] at h
    cases h
    exact .inl ⟨hd, hg⟩
  · rw [ha] at h
    cases h
    exact .inr ⟨hd, hs, hg⟩
  · rw [ha] at h; cases h

theorem granted_of_allocate_eq_ok {b : Buffers} (h : allocate a p seed = .ok b) :
    granted a p = 2 := by
  rcases allocate_cases a p seed with ⟨s, -, ha, -⟩ | ⟨s, -, -, ha, -⟩ | ⟨-, -, -, hg⟩
  · rw [ha] at h; cases h
  · rw [ha] at h; cases h
  · exact hg

end Buffers

theorem Shortfall.toFault_of_reserve {a : Allocator} {name : String} {n : Nat} {s : Shortfall}
    (h : a.reserve name n = .error s) :
    s.toFault = .allocation name (saturatingMul n elementBytes) s.refusal.message := by
  obtain ⟨r, -, rfl⟩ := Allocator.reserve_eq_error_iff.mp h
  rfl

theorem Kernel.parse_error_isConfiguration {s : String} {f : Fault}
    (h : Kernel.parse s = .error f) : f.isConfiguration = true := by
  unfold Kernel.parse at h
  split at h <;> cases h
  rfl

namespace Bench

variable {b b' : Bench} {timed : Bool} {elapsed : Float}

theorem runChecked_of_not_ready (h : b.ready = false) (order : List Nat) :
    b.runChecked timed elapsed order = some (.error notSetUp) := by
  simp [runChecked, ready_eq_false_iff.mp h]

variable {seed : Nat} {m : Machine}

theorem setup_of_allocate_eq_error {s : Shortfall} (hr : b.ready = false)
    (h : Buffers.allocate m.allocator b.plan.pattern seed = .error s) :
    (b.setup seed m).1 = .error s.toFault := by
  rw [setup_fst_of_not_ready hr, h]
  rfl

/-- A first setup that fails was refused the dense buffer, with no buffer granted, or the sparse
buffer, with one granted, or its engine, with both granted. -/
theorem setup_eq_error {f : Fault} (hr : b.ready = false) (h : (b.setup seed m).1 = .error f) :
    (∃ r : Refusal, f = .allocation "dense buffer"
        (saturatingMul b.plan.pattern.length elementBytes) r.message ∧ b.setupGrants m = 0) ∨
      (∃ r : Refusal, f = .allocation "sparse buffer"
        (saturatingMul b.plan.pattern.sparseLength elementBytes) r.message ∧
        b.setupGrants m = 1) ∨
      (f.isConfiguration = true ∧ Engine.create m.poolRefusal b.backend b.plan.threads = .error f ∧
        b.setupGrants m = 2) := by
  rw [setupGrants_of_not_ready hr]
  cases ha : Buffers.allocate m.allocator b.plan.pattern seed with
  | error s =>
    rw [setup_of_allocate_eq_error hr ha] at h
    cases h
    rcases Buffers.allocate_eq_error ha with ⟨hd, hg⟩ | ⟨-, hs, hg⟩
    · exact .inl ⟨s.refusal, Shortfall.toFault_of_reserve hd, hg⟩
    · exact .inr (.inl ⟨s.refusal, Shortfall.toFault_of_reserve hs, hg⟩)
  | ok buffers =>
    rw [setup_fst_of_not_ready hr, ha] at h
    cases hc : Engine.create m.poolRefusal b.backend b.plan.threads with
    | error f' =>
      rw [hc] at h
      cases h
      exact .inr (.inr ⟨Engine.create_error_isConfiguration hc, rfl,
        Buffers.granted_of_allocate_eq_ok ha⟩)
    | ok engine => rw [hc] at h; cases h

theorem setupGrants_of_setup_eq_ok (h : (b.setup seed m).1 = .ok b') : b.setupGrants m = 2 := by
  obtain ⟨hst, buffers, engine, ha, -, -⟩ := setup_eq_ok_iff.mp h
  rw [setupGrants_of_not_ready (ready_eq_false_iff.mpr hst)]
  exact Buffers.granted_of_allocate_eq_ok ha

theorem ready_of_setup_eq_ok (h : (b.setup seed m).1 = .ok b') : b'.ready = true := by
  obtain ⟨-, buffers, engine, -, -, rfl⟩ := setup_eq_ok_iff.mp h
  rfl

theorem setup_ne_twice (hr : b.ready = false) :
    (b.setup seed m).1 ≠ .error (.configuration "setup called twice on the same context") := by
  intro h
  rcases setup_eq_error hr h with ⟨r, hf, -⟩ | ⟨r, hf, -⟩ | ⟨-, hc, -⟩
  · cases hf
  · cases hf
  -- no engine fault reads as the second setup's: the three differ in their first words
  · rcases Engine.create_eq_error hc with ⟨-, -, hf⟩ | ⟨-, -, reason, -, hf⟩ | ⟨-, hf⟩
    · simp at hf
    · exact Engine.poolFault_ne_configuration (by decide) hf.symm
    · simp [Engine.notCompiled, Backend.name, toString] at hf

theorem configure_checks (backend : Backend) (plan : Plan) :
    (∀ e, Kernel.parse plan.kernel = .error e → configure backend plan = .error e) ∧
    ((∃ k, Kernel.parse plan.kernel = .ok k) → Capabilities.built.supports backend = false →
      configure backend plan = .error (Engine.notCompiled backend)) ∧
    ((∃ k, Kernel.parse plan.kernel = .ok k) → Capabilities.built.supports backend = true →
      plan.threads = some 0 →
      configure backend plan = .error (.configuration "thread count must be at least 1")) ∧
    (∀ f, configure backend plan = .error f → f.isConfiguration = true) ∧
    (∀ b, configure backend plan = .ok b →
      b.stage = none ∧ b.tally.timedRuns = 0 ∧ b.coordinator.barriers = 0) := by
  refine ⟨fun e he => configure_of_parse_error he, fun ⟨k, hk⟩ hs => ?_,
    fun ⟨k, hk⟩ hs ht => ?_, fun f hf => ?_, fun b hb => ?_⟩
  · rw [configure_of_parse_ok hk, if_pos hs]
  · rw [configure_of_parse_ok hk, if_neg (by simp [hs]), if_pos ht]
  · cases hk : Kernel.parse plan.kernel with
    | error e =>
      rw [configure_of_parse_error hk] at hf
      cases hf
      exact Kernel.parse_error_isConfiguration hk
    | ok k =>
      rw [configure_of_parse_ok hk] at hf
      split_ifs at hf
      · cases hf
        unfold Engine.notCompiled
        rfl
      · cases hf
        rfl
  · obtain ⟨kernel, rfl⟩ := configure_eq_ok hb
    exact ⟨rfl, rfl, rfl⟩

end Bench

/-! ## What a step does when its operation fails or succeeds -/

namespace Step

variable {b b' : Bench} {op : Op}

theorem eq_of_succeeds_eq_false (hs : Step b op b') (h : op.succeeds b = false) : b' = b := by
  cases hs with
  | setup seed m =>
    rw [Op.succeeds_setup] at h
    cases hr : (b.setup seed m).1 with
    | error f => rfl
    | ok b'' => rw [hr] at h; cases h
  | run order horder hrun =>
    rw [Op.succeeds_run] at h
    rw [Bench.runChecked_of_not_ready h] at hrun
    cases hrun
    rfl
  | keep hkeep => rfl

theorem run_succeeds {timed : Bool} {elapsed : Float} (hs : Step b (.run timed elapsed) b')
    (h : (Op.run timed elapsed).succeeds b = true) :
    b'.coordinator.barriers = b.coordinator.barriers + 1 ∧
      b'.tally = if timed then b.tally.record elapsed else b.tally := by
  rcases hs.eq_or with ⟨rfl, hnone⟩ | ⟨seed, m, hop, -⟩ | ⟨timed', elapsed', order, hop, -, hrun⟩
  · rw [Op.succeeds_run, Bench.ready_eq_true_iff, hnone rfl] at h
    simp at h
  · cases hop
  · cases hop
    obtain ⟨-, -, -, -, -, -, -, -, rfl⟩ := Bench.runChecked_eq_ok hrun
    exact ⟨rfl, rfl⟩

theorem setup_succeeds {seed : Nat} {m : Machine} (hs : Step b (.setup seed m) b')
    (h : (Op.setup seed m).succeeds b = true) : (b.setup seed m).1 = .ok b' := by
  cases hs with
  | setup =>
    rw [Op.succeeds_setup] at h
    cases hr : (b.setup seed m).1 with
    | error f => rw [hr] at h; cases h
    | ok b'' => rfl
  | keep hkeep => cases hkeep

theorem plan_eq (hs : Step b op b') : b'.plan = b.plan := by
  rcases hs.eq_or with ⟨rfl, -⟩ | ⟨_, _, -, hsetup⟩ | ⟨_, _, _, -, -, hrun⟩
  · rfl
  · obtain ⟨-, buffers, engine, -, -, rfl⟩ := Bench.setup_eq_ok_iff.mp hsetup
    rfl
  · obtain ⟨-, -, -, -, -, -, -, -, rfl⟩ := Bench.runChecked_eq_ok hrun
    rfl

theorem counters (hs : Step b op b') :
    b'.coordinator.barriers =
        b.coordinator.barriers + (if op.isRun && op.succeeds b then 1 else 0) ∧
      b'.tally.timedRuns =
        b.tally.timedRuns + (if op.isTimedRun && op.succeeds b then 1 else 0) := by
  by_cases hok : op.succeeds b = true
  · cases op with
    | setup seed m =>
      rcases hs.eq_or with ⟨rfl, -⟩ | ⟨_, _, hop, hsetup⟩ | ⟨_, _, _, hop, -, -⟩
      · simp [Op.isRun, Op.isTimedRun]
      · cases hop
        obtain ⟨-, buffers, engine, -, -, rfl⟩ := Bench.setup_eq_ok_iff.mp hsetup
        simp [Op.isRun, Op.isTimedRun]
      · cases hop
    | run timed elapsed =>
      obtain ⟨hbar, htally⟩ := hs.run_succeeds hok
      cases timed <;> simp [Op.isRun, Op.isTimedRun, hok, hbar, htally, Tally.record]
    | synchronize | writeSetup | report | measurement =>
      cases hs
      simp [Op.isRun, Op.isTimedRun]
  · rw [hs.eq_of_succeeds_eq_false (Bool.eq_false_iff.mpr hok)]
    simp [hok]

end Step

/-! ## Sequences of operations -/

namespace Trace

variable {b0 b : Bench} {h : List (Bench × Op)}

theorem counters (ht : Trace b0 h b) :
    b.coordinator.barriers =
        b0.coordinator.barriers + h.countP (fun x => x.2.isRun && x.2.succeeds x.1) ∧
      b.tally.timedRuns =
        b0.tally.timedRuns + h.countP (fun x => x.2.isTimedRun && x.2.succeeds x.1) := by
  induction ht with
  | nil => simp
  | snoc _ hs ih =>
    obtain ⟨hbar, htimed⟩ := hs.counters
    rw [List.countP_append, List.countP_append, List.countP_singleton, List.countP_singleton,
      hbar, htimed, ih.1, ih.2]
    dsimp only
    exact ⟨by omega, by omega⟩

theorem plan_eq (ht : Trace b0 h b) : b.plan = b0.plan := by
  induction ht with
  | nil => rfl
  | snoc _ hs ih => exact hs.plan_eq.trans ih

theorem ready_of_mem (ht : Trace b0 h b) (hready : b0.ready = true) :
    (∀ x ∈ h, x.1.ready = true) ∧ b.ready = true := by
  induction ht with
  | nil => exact ⟨by simp, hready⟩
  | snoc _ hs ih =>
    refine ⟨fun x hx => ?_, (Reach.nil.snoc hs).ready ih.2⟩
    rcases List.mem_append.mp hx with hx | hx
    · exact ih.1 x hx
    · rw [List.mem_singleton] at hx
      exact hx ▸ ih.2

theorem countP_of_ready (hready : ∀ x ∈ h, x.1.ready = true) :
    h.countP (fun x => x.2.isRun && x.2.succeeds x.1) = (h.map Prod.snd).countP Op.isRun ∧
      h.countP (fun x => x.2.isTimedRun && x.2.succeeds x.1) =
        (h.map Prod.snd).countP Op.isTimedRun := by
  -- on a bench that is set up every run returns, and a timed run is a run
  have hrun : ∀ x ∈ h, x.2.isRun = true → x.2.succeeds x.1 = true := by
    rintro ⟨b1, op⟩ hx hr
    cases op <;> simp only [Op.isRun, Bool.false_eq_true] at hr
    rw [Op.succeeds_run]
    exact hready _ hx
  have htimed : ∀ x ∈ h, x.2.isTimedRun = true → x.2.isRun = true := by
    rintro ⟨b1, op⟩ - ht
    cases op <;> simp_all [Op.isRun, Op.isTimedRun]
  rw [List.countP_map, List.countP_map]
  constructor
  · refine List.countP_congr fun x hx => ?_
    cases hr : x.2.isRun
    · simpa using hr
    · simpa [hrun x hx hr] using hr
  · refine List.countP_congr fun x hx => ?_
    cases ht : x.2.isTimedRun
    · simpa using ht
    · simpa [hrun x hx (htimed x hx ht)] using ht

theorem counters_of_ready (ht : Trace b0 h b) (hready : b0.ready = true) :
    b.coordinator.barriers = b0.coordinator.barriers + (h.map Prod.snd).countP Op.isRun ∧
      b.tally.timedRuns = b0.tally.timedRuns + (h.map Prod.snd).countP Op.isTimedRun := by
  obtain ⟨hbar, htimed⟩ := ht.counters
  obtain ⟨hruns, htimedRuns⟩ := countP_of_ready (ht.ready_of_mem hready).1
  exact ⟨hruns ▸ hbar, htimedRuns ▸ htimed⟩

end Trace

/-! ## Failed operations and counted runs -/

/-- An operation that fails leaves the bench as it was; a first setup that fails was refused a
buffer or its engine, after as many buffers as were granted, and can be tried again. -/
theorem Step.failed_operation_keeps_bench :
    (∀ b op b', Step b op b' → op.succeeds b = false → b' = b) ∧
    (∀ (b : Bench) timed elapsed, b.ready = false →
      b.run timed elapsed = (.error Bench.notSetUp, []) ∧ Bench.notSetUp.isConfiguration = true ∧
      ∀ order, b.runChecked timed elapsed order = some (.error Bench.notSetUp)) ∧
    (∀ (b : Bench) seed m, b.ready = true →
      b.setup seed m = (.error (.configuration "setup called twice on the same context"), []) ∧
      b.setupGrants m = 0) ∧
    (∀ (b : Bench) seed m f, b.ready = false → (b.setup seed m).1 = .error f →
      ((∃ r : Refusal, f = .allocation "dense buffer"
          (saturatingMul b.plan.pattern.length elementBytes) r.message ∧ b.setupGrants m = 0) ∨
        (∃ r : Refusal, f = .allocation "sparse buffer"
          (saturatingMul b.plan.pattern.sparseLength elementBytes) r.message ∧
          b.setupGrants m = 1) ∨
        (f.isConfiguration = true ∧
          Engine.create m.poolRefusal b.backend b.plan.threads = .error f ∧ b.setupGrants m = 2)) ∧
      ∀ seed' m', (b.setup seed' m').1 ≠
        .error (.configuration "setup called twice on the same context")) ∧
    (∀ (b b' : Bench) seed m, (b.setup seed m).1 = .ok b' → b.setupGrants m = 2) ∧
    (∀ backend (plan : Plan),
      (∀ e, Kernel.parse plan.kernel = .error e → Bench.configure backend plan = .error e) ∧
      ((∃ k, Kernel.parse plan.kernel = .ok k) → Capabilities.built.supports backend = false →
        Bench.configure backend plan = .error (Engine.notCompiled backend)) ∧
      ((∃ k, Kernel.parse plan.kernel = .ok k) → Capabilities.built.supports backend = true →
        plan.threads = some 0 →
        Bench.configure backend plan = .error (.configuration "thread count must be at least 1")) ∧
      (∀ f, Bench.configure backend plan = .error f → f.isConfiguration = true) ∧
      (∀ b, Bench.configure backend plan = .ok b →
        b.stage = none ∧ b.tally.timedRuns = 0 ∧ b.coordinator.barriers = 0)) := by
  refine ⟨fun b op b' hs h => hs.eq_of_succeeds_eq_false h, fun b timed elapsed hr => ?_,
    fun b seed m hr => ⟨Bench.setup_of_ready hr, Bench.setupGrants_of_ready hr⟩,
    fun b seed m f hr h => ⟨Bench.setup_eq_error hr h, fun _ _ => Bench.setup_ne_twice hr⟩,
    fun b b' seed m h => Bench.setupGrants_of_setup_eq_ok h, Bench.configure_checks⟩
  exact ⟨Bench.run_of_not_ready hr, rfl, Bench.runChecked_of_not_ready hr⟩

theorem sparse_refusal_keeps_bench :
    ∃ b0 : Bench, Bench.configure .serial
        { kernel := "scatter", pattern := ⟨[0, 2 ^ 55], 2 ^ 55, by decide, by decide, by decide⟩ } =
        .ok b0 ∧
      Step b0 (.setup 1 (.withMemory 1 64)) b0 ∧ b0.setupGrants (.withMemory 1 64) = 1 ∧
      (b0.setup 1 (.withMemory 1 64)).1 = .error (.allocation "sparse buffer"
        (saturatingMul (2 ^ 55 + 1) 8) Refusal.exhausted.message) ∧
      b0.run true 0 = (.error Bench.notSetUp, []) := by
  obtain ⟨b0, hconf⟩ : ∃ b0, Bench.configure .serial
      { kernel := "scatter", pattern := ⟨[0, 2 ^ 55], 2 ^ 55, by decide, by decide, by decide⟩ } =
      .ok b0 := ⟨_, by rfl⟩
  have hr : b0.ready = false := by
    obtain ⟨_, rfl⟩ := Bench.configure_eq_ok hconf
    rfl
  have hlen : b0.plan.pattern.length = 2 ∧ b0.plan.pattern.sparseLength = 2 ^ 55 + 1 := by
    obtain ⟨_, rfl⟩ := Bench.configure_eq_ok hconf
    exact ⟨rfl, rfl⟩
  -- the 16 bytes of the dense buffer are supplied; the sparse buffer's 2 ^ 58 + 8 are within the
  -- largest object size, and the allocator refuses them
  have hdense : (Machine.withMemory 1 64).allocator.reserve "dense buffer" 2 = .ok () :=
    Allocator.reserve_eq_ok_iff.2 (by decide)
  have hsparse : (Machine.withMemory 1 64).allocator.reserve "sparse buffer" (2 ^ 55 + 1) =
      .error ⟨"sparse buffer", saturatingMul (2 ^ 55 + 1) elementBytes, .exhausted⟩ := by
    rfl
  have halloc : Buffers.allocate (Machine.withMemory 1 64).allocator b0.plan.pattern 1 =
      .error ⟨"sparse buffer", saturatingMul (2 ^ 55 + 1) elementBytes, .exhausted⟩ := by
    rw [Buffers.allocate, hlen.1, hlen.2, hdense, hsparse]
    rfl
  have hsetup : (b0.setup 1 (.withMemory 1 64)).1 = _ := Bench.setup_of_allocate_eq_error hr halloc
  have hgrants : b0.setupGrants (.withMemory 1 64) = 1 := by
    rw [Bench.setupGrants_of_not_ready hr, Buffers.granted, hlen.1, hlen.2, hdense, hsparse]
  have hkeep := Step.failed_operation_keeps_bench
  have hstep := Step.setup b0 1 (.withMemory 1 64)
  rw [hkeep.1 _ _ _ hstep (by rw [Op.succeeds_setup, hsetup]; rfl)] at hstep
  exact ⟨_, hconf, hstep, hgrants, hsetup, (hkeep.2.1 _ true 0 hr).1⟩

/-- The tally counts the timed runs that returned and the coordinator all runs that returned. -/
theorem Trace.tally_counts_runs {backend : Backend} {plan : Plan} {b0 : Bench} {c : Coordinator}
    (hconf : Bench.configure backend plan = .ok b0) (hc : c.barriers = 0) :
    (∀ h b, Trace (b0.withCoordinator c) h b →
      b.tally.timedRuns = h.countP (fun x => x.2.isTimedRun && x.2.succeeds x.1) ∧
      b.coordinator.barriers = h.countP (fun x => x.2.isRun && x.2.succeeds x.1) ∧
      b.teardown.1 = .ok b.tally) ∧
    (∀ b b' timed elapsed, Step b (.run timed elapsed) b' →
      (Op.run timed elapsed).succeeds b = true →
      b'.tally = if timed then b.tally.record elapsed else b.tally) ∧
    (∀ seed m b1, Step (b0.withCoordinator c) (.setup seed m) b1 →
      (Op.setup seed m).succeeds (b0.withCoordinator c) = true →
      ∀ (e0 : Float) (es : List Float) h b, Trace b1 h b →
        h.map Prod.snd = .run false e0 :: es.map (Op.run true) → es.length = plan.nruns →
        b.tally.timedRuns = plan.nruns ∧ b.measurement.nruns = b.tally.timedRuns ∧
        b.coordinator.barriers = plan.nruns + 1) := by
  obtain ⟨kernel, rfl⟩ := Bench.configure_eq_ok hconf
  refine ⟨fun h b ht => ?_, fun b b' timed elapsed hs hok => (hs.run_succeeds hok).2, ?_⟩
  · obtain ⟨hbar, htimed⟩ := ht.counters
    refine ⟨?_, ?_, rfl⟩
    · rw [htimed]
      simp
    · rw [hbar]
      simp [hc]
  · intro seed m b1 hs1 hok e0 es h b ht hops hlen
    -- the setup passes no barrier and counts no run; from it on, every run returns
    have hready := Bench.ready_of_setup_eq_ok (hs1.setup_succeeds hok)
    obtain ⟨hbar1, htimed1⟩ := hs1.counters
    obtain ⟨hbar, htimed⟩ := ht.counters_of_ready hready
    have hruns : (Op.run false e0 :: es.map (Op.run true)).countP Op.isRun = plan.nruns + 1 := by
      simp only [List.countP_cons, List.countP_map, Function.comp_def, Op.isRun, List.countP_true,
        if_true, hlen]
    have htimedRuns :
        (Op.run false e0 :: es.map (Op.run true)).countP Op.isTimedRun = plan.nruns := by
      simp only [List.countP_cons, List.countP_map, Function.comp_def, Op.isTimedRun,
        List.countP_true, Bool.false_eq_true, if_false, Nat.add_zero, hlen]
    have hplan : b.plan = plan := ht.plan_eq.trans hs1.plan_eq
    rw [hops, hruns] at hbar
    rw [hops, htimedRuns] at htimed
    simp only [Op.isRun, Op.isTimedRun, Bool.false_and, Bool.false_eq_true, if_false,
      Bench.coordinator_withCoordinator, Bench.tally_withCoordinator, hc] at hbar1 htimed1
    have hcount : b.tally.timedRuns = plan.nruns := by omega
    refine ⟨hcount, ?_, by omega⟩
    rw [hcount, Bench.measurement_nruns, hplan]

theorem warmup_and_timed_runs_counted :
    ∃ b0 b1 h b, Bench.configure .serial
        { kernel := "gather", pattern := ⟨[1, 0, 1], 1, by decide, by decide, by decide⟩,
          nruns := 2 } = .ok b0 ∧
      Step (b0.withCoordinator {}) (.setup 7 (.withMemory 1 64)) b1 ∧ Trace b1 h b ∧
      h.map Prod.snd = [.run false 0.5, .run true 0.25, .run true 0.25] ∧
      b.tally.timedRuns = 2 ∧ b.measurement.nruns = 2 ∧ b.coordinator.barriers = 3 := by
  obtain ⟨b0, hconf⟩ : ∃ b0, Bench.configure .serial
      { kernel := "gather", pattern := ⟨[1, 0, 1], 1, by decide, by decide, by decide⟩,
        nruns := 2 } = .ok b0 := ⟨_, by rfl⟩
  have hb : b0.withCoordinator {} = b0 := by
    obtain ⟨_, rfl⟩ := Bench.configure_eq_ok hconf
    rfl
  have h0 := Bench.Sound.of_configure hconf
  obtain ⟨b1, hs1, hstep1, hready⟩ := Bench.exists_setup hconf 7 (.withMemory 1 64) ⟨_, by rfl⟩ rfl
  -- the warm-up run and two timed runs, each from a sound bench that is set up
  have h1 := h0.setup hs1
  obtain ⟨b2, hr2⟩ := h1.exists_run (by decide) hready false 0.5
  have h2 := h1.step hr2
  have hready2 := (Reach.nil.snoc hr2).ready hready
  obtain ⟨b3, hr3⟩ := h2.exists_run (by decide) hready2 true 0.25
  have h3 := h2.step hr3
  have hready3 := (Reach.nil.snoc hr3).ready hready2
  obtain ⟨b4, hr4⟩ := h3.exists_run (by decide) hready3 true 0.25
  have ht : Trace b1 [(b1, .run false 0.5), (b2, .run true 0.25), (b3, .run true 0.25)] b4 :=
    ((Trace.nil.snoc hr2).snoc hr3).snoc hr4
  have hsucc : (Op.setup 7 (.withMemory 1 64)).succeeds (b0.withCoordinator {}) = true := by
    rw [hb, Op.succeeds_setup, hs1]
    rfl
  obtain ⟨hcount, hnruns, hbar⟩ := (Trace.tally_counts_runs hconf rfl).2.2 7 (.withMemory 1 64) b1
    (hb ▸ hstep1) hsucc 0.5 [0.25, 0.25] _ _ ht rfl rfl
  exact ⟨b0, b1, _, b4, hconf, hb ▸ hstep1, ht, rfl, hcount, hnruns.trans hcount, hbar⟩

end GatherScatter
