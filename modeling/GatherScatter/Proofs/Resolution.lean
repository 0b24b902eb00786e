import GatherScatter.Cli.Console
import GatherScatter.Proofs.Compile

/-! # Where each setting comes from -/

namespace GatherScatter

def layered {α : Type} (flag env : Option α) (file : α) : α := flag.getD (env.getD file)

namespace Settings

def envNumber (env : Environment) (key : String) (limit : Nat) : Option Nat :=
  (env key).bind fun v => (readOverride key limit v).toOption

def envBackend (env : Environment) : Option Backend :=
  (env "SPATTER_BACKEND").bind fun v => (Backend.parse v).toOption

def layers (file : Settings) (env : Environment) (o : Cli.Options) : Settings where
  backend := layered (o.backend.bind fun b => (Backend.parse b).toOption) (envBackend env)
    file.backend
  kernel := layered o.kernel (env "SPATTER_KERNEL") file.kernel
  pattern := layered o.pattern (env "SPATTER_PATTERN") file.pattern
  delta := layered o.delta (envNumber env "SPATTER_DELTA" wordLimit) file.delta
  count := layered (o.count.map some) ((envNumber env "SPATTER_COUNT" wordLimit).map some)
    file.count
  nruns := layered o.nruns (envNumber env "SPATTER_NRUNS" wordLimit) file.nruns
  verbosity := layered o.verbosity (envNumber env "SPATTER_VERBOSITY" 256) file.verbosity
  seed := layered o.seed (envNumber env "SPATTER_SEED" wordLimit) file.seed
  threads := layered o.threads (envNumber env "SPATTER_THREADS" wordLimit) file.threads
  deviceIndex := layered o.deviceIndex (envNumber env "SPATTER_DEVICE_INDEX" wordLimit)
    file.deviceIndex
  distributed := o.distributed || ((env "SPATTER_DISTRIBUTED").map switchedOn).getD file.distributed

/-- What loading gives over the file's settings: option over environment over file. -/
def resolution (file : Settings) (env : Environment) (o : Cli.Options) (context : List String) :
    Except Cli.Failure Settings :=
  match applyEnv env file with
  | .error e => .error (.fault context (.settings e))
  | .ok _ =>
    match o.backend.map Backend.parse with
    | some (.error f) => .error (.fault [] f)
    | _ =>
      match (layers file env o).validate with
      | .error e => .error (.fault [] (.settings e))
      | .ok () => .ok (layers file env o)

/-! ## The environment's layer -/

def backendOverride (env : Environment) (current : Backend) : Except SettingsFault Backend :=
  match env "SPATTER_BACKEND" with
  | some v =>
    match Backend.parse v with
    | .ok b => .ok b
    | .error e => .error (.badOverride "SPATTER_BACKEND" v e.message)
  | none => .ok current

def countOverride (env : Environment) (current : Option Nat) :
    Except SettingsFault (Option Nat) :=
  match env "SPATTER_COUNT" with
  | some v => some <$> readOverride "SPATTER_COUNT" wordLimit v
  | none => .ok current

theorem applyEnv_eq (env : Environment) (s : Settings) : applyEnv env s = (do
    let backend ← backendOverride env s.backend
    let delta ← overrideNat env "SPATTER_DELTA" wordLimit s.delta
    let count ← countOverride env s.count
    let nruns ← overrideNat env "SPATTER_NRUNS" wordLimit s.nruns
    let verbosity ← overrideNat env "SPATTER_VERBOSITY" 256 s.verbosity
    let seed ← overrideNat env "SPATTER_SEED" wordLimit s.seed
    let threads ← overrideNat env "SPATTER_THREADS" wordLimit s.threads
    let deviceIndex ← overrideNat env "SPATTER_DEVICE_INDEX" wordLimit s.deviceIndex
    pure { backend, kernel := (env "SPATTER_KERNEL").getD s.kernel,
           pattern := (env "SPATTER_PATTERN").getD s.pattern, delta, count, nruns, verbosity, seed,
           threads, deviceIndex,
           distributed := ((env "SPATTER_DISTRIBUTED").map switchedOn).getD s.distributed }) := by
  unfold applyEnv backendOverride countOverride
  -- The written overrides match on three variables before reading the rest; once those three are
  -- fixed, both sides are the same reads.
  rcases hB : env "SPATTER_BACKEND" with _ | vB
  · rcases hD : env "SPATTER_DISTRIBUTED" with _ | vD <;>
      rcases hC : env "SPATTER_COUNT" with _ | vC <;>
      simp only [*, Option.map_some, Option.map_none, Option.getD_some, Option.getD_none] <;>
      rfl
  · cases hP : Backend.parse vB <;>
      rcases hD : env "SPATTER_DISTRIBUTED" with _ | vD <;>
      rcases hC : env "SPATTER_COUNT" with _ | vC <;>
      simp only [*, Option.map_some, Option.map_none, Option.getD_some, Option.getD_none] <;>
      rfl

theorem backendOverride_eq_ok {env : Environment} {current b : Backend}
    (h : backendOverride env current = .ok b) : b = (envBackend env).getD current := by
  unfold backendOverride at h
  unfold envBackend
  cases hv : env "SPATTER_BACKEND" with
  | none =>
    simp only [hv, Except.ok.injEq] at h
    simp [h]
  | some v =>
    cases hp : Backend.parse v with
    | error e => simp [hv, hp] at h
    | ok b' =>
      simp only [hv, hp, Except.ok.injEq] at h
      simp [h, hp]

theorem countOverride_eq_ok {env : Environment} {current count : Option Nat}
    (h : countOverride env current = .ok count) :
    count = ((envNumber env "SPATTER_COUNT" wordLimit).map some).getD current := by
  unfold countOverride at h
  unfold envNumber
  cases hv : env "SPATTER_COUNT" with
  | none =>
    simp only [hv, Except.ok.injEq] at h
    simp [h]
  | some v =>
    cases hr : readOverride "SPATTER_COUNT" wordLimit v with
    | error e => simp [hv, hr, Functor.map, Except.map] at h
    | ok n =>
      simp only [hv, hr, Functor.map, Except.map, Except.ok.injEq] at h
      subst h
      simp [hr]

theorem overrideNat_eq_ok {env : Environment} {key : String} {limit cur n : Nat}
    (h : overrideNat env key limit cur = .ok n) : n = (envNumber env key limit).getD cur := by
  unfold overrideNat at h
  unfold envNumber
  cases hv : env key with
  | none =>
    simp only [hv, Except.ok.injEq] at h
    simp [h]
  | some v =>
    simp only [hv] at h
    simp [h]

theorem applyEnv_eq_ok {env : Environment} {s s' : Settings} (h : applyEnv env s = .ok s') :
    s' = { backend := (envBackend env).getD s.backend
           kernel := (env "SPATTER_KERNEL").getD s.kernel
           pattern := (env "SPATTER_PATTERN").getD s.pattern
           delta := (envNumber env "SPATTER_DELTA" wordLimit).getD s.delta
           count := ((envNumber env "SPATTER_COUNT" wordLimit).map some).getD s.count
           nruns := (envNumber env "SPATTER_NRUNS" wordLimit).getD s.nruns
           verbosity := (envNumber env "SPATTER_VERBOSITY" 256).getD s.verbosity
           seed := (envNumber env "SPATTER_SEED" wordLimit).getD s.seed
           threads := (envNumber env "SPATTER_THREADS" wordLimit).getD s.threads
           deviceIndex := (envNumber env "SPATTER_DEVICE_INDEX" wordLimit).getD s.deviceIndex
           distributed := ((env "SPATTER_DISTRIBUTED").map switchedOn).getD s.distributed } := by
  rw [applyEnv_eq] at h
  simp only [bind_eq_ok] at h
  obtain ⟨backend, hb, delta, hd, count, hc, nruns, hn, verbosity, hv, seed, hs, threads, ht,
    device, hdev, h⟩ := h
  cases h
  rw [backendOverride_eq_ok hb, countOverride_eq_ok hc, overrideNat_eq_ok hd, overrideNat_eq_ok hn,
    overrideNat_eq_ok hv, overrideNat_eq_ok hs, overrideNat_eq_ok ht, overrideNat_eq_ok hdev]

end Settings

/-! ## The options' layer -/

namespace Cli.Options

variable {o : Options} {s : Settings}

theorem applyTo_eq_error {f : Fault} :
    o.applyTo s = .error f ↔ o.backend.map Backend.parse = some (.error f) := by
  unfold applyTo
  cases hb : o.backend with
  | none => simp [pure, Except.pure]
  | some name =>
    cases hp : Backend.parse name with
    | error e => simp [hp, Functor.map, Except.map]
    | ok b => simp [hp, Functor.map, Except.map]

theorem applyTo_eq_ok {s' : Settings} (h : o.applyTo s = .ok s') :
    s' = { s with
      backend := (o.backend.bind fun b => (Backend.parse b).toOption).getD s.backend
      kernel := o.kernel.getD s.kernel
      pattern := o.pattern.getD s.pattern
      delta := o.delta.getD s.delta
      count := (o.count.map some).getD s.count
      nruns := o.nruns.getD s.nruns
      verbosity := o.verbosity.getD s.verbosity
      seed := o.seed.getD s.seed
      threads := o.threads.getD s.threads
      deviceIndex := o.deviceIndex.getD s.deviceIndex
      distributed := s.distributed || o.distributed } := by
  unfold applyTo at h
  cases hb : o.backend with
  | none =>
    simp only [hb, pure, Except.pure, ok_bind, Except.ok.injEq] at h
    subst h
    cases o.count <;> simp
  | some name =>
    cases hp : Backend.parse name with
    | error e => simp [hb, hp, Functor.map, Except.map] at h
    | ok b =>
      simp only [hb, hp, pure, Except.pure, ok_bind, Except.ok.injEq] at h
      subst h
      cases o.count <;> simp [hp]

end Cli.Options

namespace Settings

theorem layers_of_ok {file s₁ s₂ : Settings} {env : Environment} {o : Cli.Options}
    (henv : applyEnv env file = .ok s₁) (hopt : o.applyTo s₁ = .ok s₂) :
    s₂ = layers file env o := by
  rw [Cli.Options.applyTo_eq_ok hopt, applyEnv_eq_ok henv]
  unfold layers layered
  congr 1
  -- The process group is asked for by either source, in either order.
  exact Bool.or_comm _ _

theorem resolution_eq (file : Settings) (env : Environment) (o : Cli.Options)
    (context : List String) :
    resolution file env o context =
      match applyEnv env file with
      | .error e => .error (.fault context (.settings e))
      | .ok base =>
        match o.applyTo base with
        | .error f => .error (.fault [] f)
        | .ok s =>
          match s.validate with
          | .error e => .error (.fault [] (.settings e))
          | .ok () => .ok s := by
  unfold resolution
  cases henv : applyEnv env file with
  | error e => rfl
  | ok base =>
    dsimp only
    cases hopt : o.applyTo base with
    | error f => simp only [Cli.Options.applyTo_eq_error.mp hopt]
    | ok s =>
      rw [← layers_of_ok henv hopt]
      -- The backend option reads, for the options went through.
      cases hback : o.backend.map Backend.parse with
      | none => rfl
      | some r =>
        cases r with
        | ok b => rfl
        | error f =>
          rw [← Cli.Options.applyTo_eq_error, hopt] at hback
          cases hback

end Settings

namespace Cli

section

variable {m : Type → Type} [Monad m] [LawfulMonad m]

theorem run_orStop_bind {α β : Type} (context : List String) (r : Except Fault α)
    (f : α → Run m β) :
    (orStop context r >>= f).run = match r with
      | .ok a => (f a).run
      | .error e => pure (.error (.fault context e)) := by
  cases r with
  | ok a => simp [orStop]
  | error e => simp [orStop]

theorem run_settle (o : Options) (context : List String) (r : Except Fault Settings) :
    (do
      let base ← orStop context r
      let s ← orStop [] (o.applyTo base)
      orStop [] (Except.mapError Fault.settings s.validate)
      pure s : Run m Settings).run =
    pure (match r with
      | .error e => .error (.fault context e)
      | .ok base =>
        match o.applyTo base with
        | .error f => .error (.fault [] f)
        | .ok s =>
          match s.validate with
          | .error e => .error (.fault [] (.settings e))
          | .ok () => .ok s) := by
  rw [run_orStop_bind]
  cases r with
  | error e => rfl
  | ok base =>
    dsimp only
    rw [run_orStop_bind]
    cases o.applyTo base with
    | error f => rfl
    | ok s =>
      dsimp only
      rw [run_orStop_bind]
      cases s.validate with
      | error e => rfl
      | ok u => rfl

/-- Loading layers each setting, option over environment over file, and then checks them. -/
theorem loadSettings_resolution (host : Host m) (inv : Invocation) (o : Options) :
    (loadSettings host inv o).run =
      match o.config with
      | none => pure (Settings.resolution {} inv.env o [])
      | some path =>
        (fun read => match read with
          | .error reason =>
            .error (.fault [s!"failed to load config {path}"] (.settings (.unreadable reason)))
          | .ok text =>
            match Settings.ofToml? text with
            | .error e => .error (.fault [s!"failed to load config {path}"] (.settings e))
            | .ok file => Settings.resolution file inv.env o [s!"failed to load config {path}"]) <$>
          host.readFile path := by
  unfold loadSettings
  cases hc : o.config with
  | none =>
    simp only
    rw [run_settle, Settings.resolution_eq]
    cases Settings.applyEnv inv.env {} <;> rfl
  | some path =>
    simp only [ExceptT.run_bind, liftM, monadLift, MonadLift.monadLift, ExceptT.run_lift,
      map_eq_pure_bind, bind_assoc, pure_bind]
    refine bind_congr fun read => ?_
    cases read with
    | error reason =>
      dsimp only
      rw [ExceptT.run_bind, ExceptT.run_throw, pure_bind]
    | ok text =>
      dsimp only
      rw [run_settle]
      unfold Settings.loadToml
      cases Settings.ofToml? text with
      | error e => rfl
      | ok file =>
        dsimp only
        rw [ok_bind, Settings.resolution_eq]
        cases Settings.applyEnv inv.env file <;> rfl

end

theorem loadSettings_defaults_with_runs :
    (loadSettings Console.host ⟨[], fun _ => none, .withMemory 1 64⟩
      { nruns := some 5 }).run =
      pure (Settings.resolution {} (fun _ => none) { nruns := some 5 } []) :=
  loadSettings_resolution Console.host ⟨[], fun _ => none, .withMemory 1 64⟩ { nruns := some 5 }

end Cli

end GatherScatter
