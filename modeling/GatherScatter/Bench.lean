import GatherScatter.Engine
import GatherScatter.Coordinator
import GatherScatter.Timer
import GatherScatter.Report
import GatherScatter.Journal
import GatherScatter.Decimal.Shortest
/-!
# A benchmark's lifecycle

A bench is configured, set up once, run and torn down; each step that logs returns its
records beside its result.
-/

namespace GatherScatter

/-- What to run: the kernel's name (read when configuring), the pattern and the run
parameters. No thread count means one thread per processor. -/
structure Plan where
  kernel : String
  pattern : Pattern
  nruns : Nat := 1
  verbosity : Nat := 0
  threads : Option Nat := none
  deviceIndex : Nat := 0

structure Tally where
  seconds : Float := 0
  timedRuns : Nat := 0

def Tally.record (t : Tally) (elapsed : Float) : Tally :=
  ⟨t.seconds + elapsed, t.timedRuns + 1⟩

def Tally.describe (t : Tally) : String :=
  s!"RunResult \x7b seconds: {Decimal.debugText t.seconds}, timed_runs: {t.timedRuns} \x7d"

structure Stage where
  buffers : Buffers
  engine : Engine

/-- A configured benchmark: backend, kernel, plan, coordinator, the timer of its runs, tally, and
the stage once set up. -/
structure Bench where
  backend : Backend
  kernel : Kernel
  plan : Plan
  coordinator : Coordinator := {}
  timer : Timer := {}
  tally : Tally := {}
  stage : Option Stage := none

def unspecifiedWriterWarning : String :=
  "pattern repeats sparse indices; parallel scatter leaves an unspecified writer in each " ++
    "repeated slot"

namespace Bench

/-- A bench for a plan on a backend. The kernel's name must read as a kernel, the backend
must be built in and a given thread count must be at least one. -/
def configure (backend : Backend) (plan : Plan) : Except Fault Bench := do
  let kernel ← Kernel.parse plan.kernel
  if !Capabilities.built.supports backend then throw (Engine.notCompiled backend)
  if plan.threads = some 0 then throw (.configuration "thread count must be at least 1")
  pure { backend, kernel, plan }

def configuredRecord (b : Bench) : Record :=
  ⟨.debug, .bench, s!"configured {b.backend.name} {b.kernel.name} over " ++
    s!"{b.plan.pattern.length} indices (nruns={b.plan.nruns})", []⟩

def withCoordinator (b : Bench) (c : Coordinator) : Bench := { b with coordinator := c }

def engine? (b : Bench) : Option Engine := b.stage.map (·.engine)

def ready (b : Bench) : Bool := b.stage.isSome

def sizeSummary (b : Bench) : String :=
  let p := b.plan.pattern
  s!"Pattern Array Size: {p.length}\tDense Array Size: {p.length}\t" ++
    s!"Sparse Array Size: {p.sparseLength}\tMax Pattern Val: {p.maxIndex}"

/-- Sets up the buffers from a seed and brings up the engine on a machine, once; its records
are the buffers', the allocation's, the thread count's, the warning's and the sizes'. -/
def setup (b : Bench) (seed : Nat) (m : Machine) : Except Fault Bench × List Record :=
  if b.ready then (.error (.configuration "setup called twice on the same context"), [])
  else
    let p := b.plan.pattern
    let traces := Buffers.records m.allocator p
    match Buffers.allocate m.allocator p seed with
    | .error s => (.error s.toFault, traces)
    | .ok buffers =>
      let allocated : Record := ⟨.info, .bench, s!"allocated dense ({buffers.dense.size} " ++
        s!"elements) and sparse ({buffers.sparse.size} elements) buffers, seed {seed}", []⟩
      match Engine.create m.poolRefusal b.backend b.plan.threads with
      | .error f => (.error f, traces ++ [allocated])
      | .ok engine =>
        let threads : List Record := match engine with
          | .parallel t =>
            [⟨.debug, .threads, s!"parallel backend using {t.getD m.cpus} threads", []⟩]
          | .serial => []
        let warning : List Record :=
          if b.backend = .parallel ∧ b.kernel = .scatter ∧ p.hasDuplicates then
            [⟨.warn, .bench, unspecifiedWriterWarning, []⟩]
          else []
        (.ok { b with stage := some ⟨buffers, engine⟩ },
          traces ++ allocated :: threads ++ warning ++ [⟨.debug, .bench, b.sizeSummary, []⟩])

def setupGrants (b : Bench) (m : Machine) : Nat :=
  if b.ready then 0 else Buffers.granted m.allocator b.plan.pattern

def notSetUp : Fault := .configuration "run called before setup"

/-- Runs the kernel once over the buffers, after the coordinator passes a barrier, with the
timer started. A bench that is not set up does not run. -/
def execute (b : Bench) : Except Fault Bench :=
  match b.stage with
  | none => .error notSetUp
  | some st =>
    .ok { b with coordinator := b.coordinator.barrier, timer := b.timer.start,
                 stage := some { st with buffers := Kernel.apply b.kernel b.plan.pattern.indices
                                                      st.buffers } }

def finish (b : Bench) (timed : Bool) (elapsed : Float) : Bench × List Record :=
  let engine := match b.engine? with
    | some e => e.name
    | none => Engine.serial.name
  ({ b with timer := { running := false, last := elapsed },
            tally := if timed then b.tally.record elapsed else b.tally },
    [⟨.trace, .bench, s!"{engine} {b.kernel.name} took {Decimal.fixed 6 elapsed} s", []⟩])

def run (b : Bench) (timed : Bool) (elapsed : Float) : Except Fault Bench × List Record :=
  match b.execute with
  | .error f => (.error f, [])
  | .ok b => let (b, records) := b.finish timed elapsed; (.ok b, records)

def setupBanner (b : Bench) : String :=
  if b.ready ∧ 1 ≤ b.plan.verbosity then s!"Spatter {b.backend.displayName} Setup\n" else ""

def measurement (b : Bench) : Report :=
  { nruns := b.plan.nruns, patternLength := b.plan.pattern.length, seconds := b.tally.seconds }

def report (b : Bench) : String :=
  (if 1 ≤ b.plan.verbosity then s!"Spatter {b.backend.displayName} Report\n" else "") ++
  (if 3 ≤ b.plan.verbosity then b.sizeSummary ++ "\n" else "") ++
  b.measurement.render

def display (b : Bench) : String :=
  (if 1 ≤ b.plan.verbosity then s!"Kernel: {b.kernel.name}\n" else "") ++
  (if 2 ≤ b.plan.verbosity then s!"Pattern: {b.plan.pattern.render}\n" else "")

def dense (b : Bench) : Array Float := (b.stage.map (·.buffers.dense)).getD #[]

def sparse (b : Bench) : Array Float := (b.stage.map (·.buffers.sparse)).getD #[]

def teardownRecord (b : Bench) : Record :=
  ⟨.debug, .bench, s!"context torn down after {b.tally.timedRuns} timed runs", []⟩

/-- Tears the bench down. A host engine has nothing to bring back first, so the tally is given
back, with the teardown's record; the buffers go with the bench. -/
def teardown (b : Bench) : Except Fault Tally × List Record := (.ok b.tally, [b.teardownRecord])

def describe (b : Bench) : String :=
  s!"ExecutionContext \x7b backend: {b.backend.describe}, kernel: {b.kernel.describe}, " ++
    s!"pattern_len: {b.plan.pattern.length}, ready: {b.ready}, result: {b.tally.describe} \x7d"

/-! ## Small laws -/

section Laws

variable {b : Bench} {backend : Backend} {plan : Plan} {seed : Nat} {m : Machine}

@[simp] theorem ready_eq_false_iff : b.ready = false ↔ b.stage = none := by
  cases h : b.stage <;> simp [ready, h]

theorem ready_eq_true_iff : b.ready = true ↔ ∃ st, b.stage = some st :=
  Option.isSome_iff_exists

theorem configure_of_parse_error {e : Fault} (h : Kernel.parse plan.kernel = .error e) :
    configure backend plan = .error e := by
  simp only [configure, h]
  rfl

theorem configure_of_parse_ok {k : Kernel} (h : Kernel.parse plan.kernel = .ok k) :
    configure backend plan =
      if Capabilities.built.supports backend = false then .error (Engine.notCompiled backend)
      else if plan.threads = some 0 then .error (.configuration "thread count must be at least 1")
      else .ok { backend, kernel := k, plan } := by
  cases hs : Capabilities.built.supports backend <;>
    by_cases ht : plan.threads = some 0 <;> simp [configure, h, hs, ht] <;> rfl

theorem configure_eq_ok_iff {b : Bench} :
    configure backend plan = .ok b ↔ ∃ k, Kernel.parse plan.kernel = .ok k ∧
      Capabilities.built.supports backend = true ∧ plan.threads ≠ some 0 ∧
      b = { backend, kernel := k, plan } := by
  cases hk : Kernel.parse plan.kernel with
  | error e => simp [configure_of_parse_error hk]
  | ok k =>
    rw [configure_of_parse_ok hk]
    cases hs : Capabilities.built.supports backend <;>
      by_cases ht : plan.threads = some 0 <;> simp [ht, eq_comm]

@[simp] theorem setup_of_ready (h : b.ready = true) :
    b.setup seed m = (.error (.configuration "setup called twice on the same context"), []) := by
  simp [setup, h]

/-- A first setup draws the buffers, then brings the engine up; a refusal of either is its
fault. -/
theorem setup_fst_of_not_ready (h : b.ready = false) :
    (b.setup seed m).1 =
      ((Buffers.allocate m.allocator b.plan.pattern seed).mapError Shortfall.toFault >>=
        fun buffers => Engine.create m.poolRefusal b.backend b.plan.threads >>= fun engine =>
          pure { b with stage := some ⟨buffers, engine⟩ }) := by
  unfold setup
  rw [if_neg (by simp [h])]
  dsimp only
  cases Buffers.allocate m.allocator b.plan.pattern seed with
  | error s => rfl
  | ok buffers =>
    cases Engine.create m.poolRefusal b.backend b.plan.threads with
    | error f => rfl
    | ok engine => rfl

@[simp] theorem setupGrants_of_ready (h : b.ready = true) : b.setupGrants m = 0 := by
  simp [setupGrants, h]

@[simp] theorem setupGrants_of_not_ready (h : b.ready = false) :
    b.setupGrants m = Buffers.granted m.allocator b.plan.pattern := by
  simp [setupGrants, h]

@[simp] theorem execute_of_stage_none (h : b.stage = none) : b.execute = .error notSetUp := by
  simp [execute, h]

theorem run_of_not_ready {timed : Bool} {elapsed : Float} (h : b.ready = false) :
    b.run timed elapsed = (.error notSetUp, []) := by
  simp [run, execute_of_stage_none (ready_eq_false_iff.mp h)]

theorem isOk_run (b : Bench) (timed : Bool) (elapsed : Float) :
    (b.run timed elapsed).1.isOk = b.ready := by
  cases hst : b.stage with
  | none => simp [run_of_not_ready (ready_eq_false_iff.mpr hst), Except.isOk, Except.toBool, ready,
      hst]
  | some st => simp [run, execute, hst, ready, Except.isOk, Except.toBool]

@[simp] theorem measurement_nruns : b.measurement.nruns = b.plan.nruns := rfl

@[simp] theorem plan_withCoordinator (c : Coordinator) : (b.withCoordinator c).plan = b.plan := rfl

@[simp] theorem stage_withCoordinator (c : Coordinator) :
    (b.withCoordinator c).stage = b.stage := rfl

@[simp] theorem tally_withCoordinator (c : Coordinator) :
    (b.withCoordinator c).tally = b.tally := rfl

@[simp] theorem coordinator_withCoordinator (c : Coordinator) :
    (b.withCoordinator c).coordinator = c := rfl

end Laws

theorem configure_kernel {backend : Backend} {plan : Plan} {b : Bench}
    (h : configure backend plan = .ok b) : Kernel.parse plan.kernel = .ok b.kernel := by
  unfold configure at h
  cases hk : Kernel.parse plan.kernel with
  | error e => rw [hk] at h; cases h
  | ok k =>
    simp only [hk] at h
    split at h
    · cases h
    · split at h
      · cases h
      · cases h; rfl

end Bench

end GatherScatter
