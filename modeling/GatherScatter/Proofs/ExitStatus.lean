import GatherScatter.Cli.Console
import GatherScatter.Proofs.Compile

/-! # The exit status names the failure -/

namespace GatherScatter.Cli

def Failure.IsFault (e : Failure) : Prop := ∃ context f, e = .fault context f

theorem Fault.exitCode_bounds (f : Fault) : 2 ≤ f.exitCode ∧ f.exitCode ≤ 5 := by
  cases f <;> simp [Fault.exitCode]

/-! ## Computations that leave standard output as they found it -/

/-- A computation on the console that leaves standard output as full or as open as it was. -/
def KeepsOutput {β : Type} (act : Simulated β) : Prop := ∀ c, (act.run c).2.full = c.full

namespace KeepsOutput

theorem pure {β : Type} (b : β) : KeepsOutput (pure b : Simulated β) := fun _ => rfl

theorem bind {β γ : Type} {act : Simulated β} {k : β → Simulated γ} (h : KeepsOutput act)
    (hk : ∀ b, KeepsOutput (k b)) : KeepsOutput (act >>= k) := by
  intro c
  show ((k (act.run c).1).run (act.run c).2).2.full = c.full
  rw [hk _ _, h c]

theorem forM {β : Type} {f : β → Simulated PUnit} (hf : ∀ b, KeepsOutput (f b)) :
    ∀ bs : List β, KeepsOutput (bs.forM f)
  | [] => KeepsOutput.pure _
  | b :: bs => KeepsOutput.bind (hf b) fun _ => forM hf bs

end KeepsOutput

theorem keepsOutput_readFile (path : String) : KeepsOutput (Console.host.readFile path) :=
  fun _ => rfl

theorem keepsOutput_writeErr (text : String) : KeepsOutput (Console.host.writeErr text) :=
  fun _ => rfl

theorem keepsOutput_clock : KeepsOutput Console.host.clock := fun _ => rfl

theorem keepsOutput_emit (f : Filter) (r : Record) : KeepsOutput (emit Console.host f r) := by
  unfold emit
  split
  · exact keepsOutput_writeErr _
  · exact KeepsOutput.pure _

theorem keepsOutput_emitAll (f : Filter) (rs : List Record) :
    KeepsOutput (emitAll Console.host f rs) :=
  KeepsOutput.forM (keepsOutput_emit f) rs

/-! ## Runs that stop only with a fault -/

/-- A run that, on a console whose standard output takes writes, leaves it taking them and stops,
if it stops, with a fault. -/
def FaultsOnly {α : Type} (x : Run Simulated α) : Prop :=
  ∀ c : Console, c.full = false →
    (x.run.run c).2.full = false ∧ ∀ e, (x.run.run c).1 = .error e → e.IsFault

theorem run_run_bind {α β : Type} (x : Run Simulated α) (f : α → Run Simulated β) (c : Console) :
    (x >>= f).run.run c = match x.run.run c with
      | (.ok a, c') => (f a).run.run c'
      | (.error e, c') => (.error e, c') := by
  simp only [ExceptT.run_bind, StateT.run_bind]
  rcases x.run.run c with ⟨_ | a, c'⟩ <;> rfl

namespace FaultsOnly

theorem pure {α : Type} (a : α) : FaultsOnly (pure a : Run Simulated α) :=
  fun _ hc => ⟨hc, fun _ h => by cases h⟩

theorem throw {α : Type} {e : Failure} (he : e.IsFault) :
    FaultsOnly (throw e : Run Simulated α) :=
  fun _ hc => ⟨hc, fun _ h => by cases h; exact he⟩

theorem bind {α β : Type} {x : Run Simulated α} {f : α → Run Simulated β} (hx : FaultsOnly x)
    (hf : ∀ a, FaultsOnly (f a)) : FaultsOnly (x >>= f) := by
  intro c hc
  obtain ⟨hfull, hfault⟩ := hx c hc
  rw [run_run_bind]
  rcases hr : x.run.run c with ⟨_ | a, c'⟩
  · rw [hr] at hfull hfault
    exact ⟨hfull, fun e he => by cases he; exact hfault _ rfl⟩
  · rw [hr] at hfull
    exact hf a c' hfull

theorem lift {β : Type} {act : Simulated β} (h : KeepsOutput act) :
    FaultsOnly (liftM act : Run Simulated β) :=
  fun c hc => ⟨(h c).trans hc, fun _ he => by cases he⟩

theorem orStop {α : Type} (context : List String) (r : Except Fault α) :
    FaultsOnly (orStop context r : Run Simulated α) := by
  cases r with
  | ok a => exact FaultsOnly.pure a
  | error f => exact FaultsOnly.throw ⟨context, f, rfl⟩

theorem ite {α : Type} (b : Bool) {x y : Run Simulated α} (hx : FaultsOnly x)
    (hy : FaultsOnly y) : FaultsOnly (if b = true then x else y) := by
  cases b
  · exact hy
  · exact hx

end FaultsOnly

theorem run_writeOut_of_open {c : Console} (hc : c.full = false) (text : String) :
    (liftM (Console.host.writeOut text) : Run Simulated (Except String Unit)).run.run c =
      (.ok (.ok ()), { c with stdout := c.stdout ++ text }) := by
  obtain ⟨files, full, stdout, stderr, ticks⟩ := c
  cases hc
  rfl

theorem faultsOnly_present (text : String) : FaultsOnly (present Console.host text) := by
  unfold present
  split
  · exact FaultsOnly.pure ()
  · intro c hc
    rw [run_run_bind, run_writeOut_of_open hc]
    exact FaultsOnly.pure () _ hc

theorem faultsOnly_presentIf {α : Type} (root : Bool) (text : String)
    {rest : Unit → Run Simulated α} (h : ∀ u, FaultsOnly (rest u)) :
    FaultsOnly (if root = true then present Console.host text >>= rest else rest ()) :=
  .ite root (.bind (faultsOnly_present text) h) (h ())

/-! ## The steps of the benchmark -/

theorem faultsOnly_runOnce (f : Filter) (b : Bench) (timed : Bool) :
    FaultsOnly (runOnce Console.host f b timed) := by
  unfold runOnce
  refine .bind (.lift keepsOutput_clock) fun start => ?_
  cases b.execute with
  | error e => exact .throw ⟨[], e, rfl⟩
  | ok b =>
    refine .bind (.lift keepsOutput_clock) fun stop => ?_
    split
    exact .bind (.lift (keepsOutput_emitAll f _)) fun _ => .pure _

theorem faultsOnly_timedRuns (f : Filter) (n : Nat) (b : Bench) :
    FaultsOnly (timedRuns Console.host f n b) := by
  induction n generalizing b with
  | zero => exact .pure b
  | succ n ih => exact .bind (faultsOnly_runOnce f b true) ih

theorem faultsOnly_loadSettings (inv : Invocation) (o : Options) :
    FaultsOnly (loadSettings Console.host inv o) := by
  unfold loadSettings
  -- Each way of getting the base settings ends in the same settling of the options over them.
  extract_lets settle
  have hsettle : ∀ base, FaultsOnly (settle base) := fun base =>
    .bind (.orStop _ _) fun s => .bind (.orStop _ _) fun _ => .pure s
  cases o.config with
  | none => exact .bind (.orStop _ _) hsettle
  | some path =>
    refine .bind (.lift (keepsOutput_readFile path)) fun read => ?_
    cases read with
    | error reason => exact .bind (.throw ⟨_, _, rfl⟩) hsettle
    | ok text => exact .bind (.orStop _ _) hsettle

theorem faultsOnly_benchmark (inv : Invocation) (f : Filter) (o : Options) :
    FaultsOnly (benchmark Console.host inv f o) := by
  unfold benchmark
  refine .bind (faultsOnly_loadSettings inv o) fun s => ?_
  extract_lets log
  have hlog : ∀ r, FaultsOnly (log r) := fun r => .lift (keepsOutput_emit f r)
  refine .bind (hlog _) fun _ => .bind (hlog _) fun _ => ?_
  split
  refine .bind (.lift (keepsOutput_emitAll f _)) fun _ => .bind (.orStop _ _) fun p => ?_
  -- Each of the do block's join points is the rest of the benchmark after one of the root's
  -- writes: it is named, shown to keep the invariant, and then both ways into it are.
  extract_lets configured
  have hconfigured : ∀ coordinator, FaultsOnly (configured coordinator) := by
    intro coordinator
    simp -zeta only [configured]
    refine .bind (.orStop _ _) fun b => .bind (hlog _) fun _ => ?_
    extract_lets b' root setUp
    have hsetUp : ∀ u, FaultsOnly (setUp u) := by
      intro u
      simp -zeta only [setUp]
      refine .bind (.lift (keepsOutput_emitAll f _)) fun _ => .bind (.orStop _ _) fun b => ?_
      extract_lets timed
      have htimed : ∀ u, FaultsOnly (timed u) := by
        intro u
        simp -zeta only [timed]
        refine .bind (faultsOnly_runOnce f b false) fun b =>
          .bind (faultsOnly_timedRuns f _ b) fun b => ?_
        extract_lets finish
        have hfinish : ∀ u, FaultsOnly (finish u) := fun u =>
          .bind (.lift (keepsOutput_emitAll f _)) fun _ => .bind (.orStop _ _) fun _ => hlog _
        exact faultsOnly_presentIf _ _ hfinish
      exact faultsOnly_presentIf _ _ htimed
    exact faultsOnly_presentIf _ _ hsetUp
  exact .ite _ (.bind (.orStop _ _) hconfigured) (.bind (.pure _) hconfigured)

/-! ## The program's exit status -/

theorem Failure.exitCode_pos (e : Failure) : 0 < e.exitCode := by
  cases e with
  | fault context f => exact Nat.lt_of_lt_of_le (by decide) (Fault.exitCode_bounds f).1
  | output reason => exact Nat.one_pos

theorem Failure.exitCode_eq_one_iff (e : Failure) :
    e.exitCode = 1 ↔ ∃ reason, e = .output reason := by
  cases e with
  | fault context f =>
    have := (Fault.exitCode_bounds f).1
    simp only [Failure.exitCode, reduceCtorEq, exists_false, iff_false]
    omega
  | output reason => simp [Failure.exitCode]

/-- How the benchmark ends when the program runs it on a console: after the log filter's notices
have been written to standard error. -/
def benchmarkOutcome (inv : Invocation) (o : Options) (c : Console) : Except Failure Unit :=
  let chosen := Filter.choose (inv.env "RUST_LOG") o.logLevel
  ((benchmark Console.host inv chosen.1 o).run.run
    ((chosen.2.forM fun n => Console.host.writeErr (n ++ "\n")).run c).2).1

theorem simulate_status (inv : Invocation) (c : Console) {o : Options}
    (h : readCommandLine inv.args inv.env = .run o) :
    (simulate inv c).1 = match benchmarkOutcome inv o c with
      | .ok () => 0
      | .error e => e.exitCode := by
  unfold simulate program benchmarkOutcome
  rw [h]
  have hId : ∀ {α β : Type} (x : Id α) (g : α → Id β), x >>= g = g x := fun _ _ => rfl
  simp only [StateT.run_bind, hId]
  generalize StateT.run (ExceptT.run _) _ = run
  rcases run with ⟨_ | ⟨⟩, c'⟩ <;> rfl

theorem benchmarkOutcome_of_open {inv : Invocation} {o : Options} {c : Console}
    (hc : c.full = false) {e : Failure} (he : benchmarkOutcome inv o c = .error e) : e.IsFault := by
  have hnotices := KeepsOutput.forM (fun n => keepsOutput_writeErr (n ++ "\n"))
    (Filter.choose (inv.env "RUST_LOG") o.logLevel).2 c
  exact (faultsOnly_benchmark inv _ o _ (hnotices.trans hc)).2 e he

/-- The exit status is 0 exactly when the benchmark finishes, else that of its failure. -/
theorem exit_status_reports_failure (inv : Invocation) (c : Console) {o : Options}
    (h : readCommandLine inv.args inv.env = .run o) :
    ((simulate inv c).1 = 0 ↔ benchmarkOutcome inv o c = .ok ()) ∧
    (∀ e, benchmarkOutcome inv o c = .error e → (simulate inv c).1 = e.exitCode) ∧
    ((simulate inv c).1 = 1 ↔ ∃ reason, benchmarkOutcome inv o c = .error (.output reason)) ∧
    (c.full = false → ∀ e, benchmarkOutcome inv o c = .error e →
      ∃ context f, e = .fault context f ∧ 2 ≤ f.exitCode ∧ f.exitCode ≤ 5) := by
  have hstatus := simulate_status inv c h
  refine ⟨?_, fun e he => by rw [hstatus, he], ?_, fun hc e he => ?_⟩
  · rw [hstatus]
    cases benchmarkOutcome inv o c with
    | ok u => simp
    | error e => simp [Nat.pos_iff_ne_zero.mp (Failure.exitCode_pos e)]
  · rw [hstatus]
    cases benchmarkOutcome inv o c with
    | ok u => simp
    | error e => simp [Failure.exitCode_eq_one_iff]
  · obtain ⟨context, f, rfl⟩ := benchmarkOutcome_of_open hc he
    exact ⟨context, f, rfl, Fault.exitCode_bounds f⟩

theorem defaults_never_exit_generic :
    readCommandLine [] (fun _ => none) = .run {} ∧
      (simulate ⟨[], fun _ => none, .withMemory 1 64⟩ {}).1 ≠ 1 := by
  have h : readCommandLine [] (fun _ => none) = .run {} := by rfl
  obtain ⟨-, -, hone, hfault⟩ :=
    exit_status_reports_failure ⟨[], fun _ => none, .withMemory 1 64⟩ {} h
  refine ⟨h, fun hs => ?_⟩
  obtain ⟨reason, hr⟩ := hone.mp hs
  obtain ⟨context, f, he, -⟩ := hfault rfl _ hr
  cases he

end GatherScatter.Cli
