import GatherScatter.Proofs.Resolution
import GatherScatter.Proofs.Validation
import GatherScatter.Proofs.ExplicitList
/-! # Environment overrides, variable by variable -/

namespace GatherScatter

namespace Settings

/-! ## Reading one variable -/

def ReadsAs (limit : Nat) (v : String) (n : Nat) : Prop :=
  Text.Numeral (Text.trim v).toList n ∧ n < limit

/-- A setting after an optional override: what the variable's value reads as when the variable is
set, else the setting as it was. -/
def Takes {α : Type} (read : String → α → Prop) (given : Option String) (before after : α) : Prop :=
  match given with
  | some v => read v after
  | none => after = before

theorem exists_takes_iff {α : Type} {read : String → α → Prop} {given : Option String}
    {before : α} : (∃ a, Takes read given before a) ↔ ∀ v, given = some v → ∃ a, read v a := by
  cases given with
  | none => simp [Takes]
  | some v => simp [Takes]

theorem takes_getD (given : Option String) (before : String) :
    Takes (fun v t => t = v) given before (given.getD before) := by
  cases given <;> rfl

theorem readOverride_eq_ok_iff (key : String) {v : String} {limit n : Nat} :
    readOverride key limit v = .ok n ↔ ReadsAs limit v n := by
  unfold readOverride ReadsAs
  rw [← Text.readUnsigned_eq_ok_iff]
  cases Text.readUnsigned limit (Text.trim v) <;> simp

theorem readOverride_eq_error {key v : String} {limit : Nat} {e : SettingsFault}
    (h : readOverride key limit v = .error e) :
    (¬ ∃ n, ReadsAs limit v n) ∧ ∃ reason, e = .badOverride key v reason := by
  refine ⟨fun ⟨n, hn⟩ => ?_, ?_⟩
  · rw [← readOverride_eq_ok_iff key, h] at hn
    cases hn
  · unfold readOverride at h
    cases hr : Text.readUnsigned limit (Text.trim v) with
    | ok n => simp [hr] at h
    | error r =>
      simp only [hr, Except.error.injEq] at h
      exact ⟨r.message, h.symm⟩

theorem overrideNat_eq_ok_iff {env : Environment} {key : String} {limit cur n : Nat} :
    overrideNat env key limit cur = .ok n ↔ Takes (ReadsAs limit) (env key) cur n := by
  unfold overrideNat Takes
  cases env key with
  | none => simp [eq_comm]
  | some v => exact readOverride_eq_ok_iff key

theorem overrideNat_eq_error {env : Environment} {key : String} {limit cur : Nat}
    {e : SettingsFault} (h : overrideNat env key limit cur = .error e) :
    ∃ v, env key = some v ∧ (¬ ∃ n, ReadsAs limit v n) ∧
      ∃ reason, e = .badOverride key v reason := by
  unfold overrideNat at h
  cases hv : env key with
  | none => simp [hv] at h
  | some v =>
    rw [hv] at h
    exact ⟨v, rfl, readOverride_eq_error h⟩

theorem backendOverride_eq_ok_iff {env : Environment} {cur b : Backend} :
    backendOverride env cur = .ok b ↔
      Takes (fun v b => Backend.parse v = .ok b) (env "SPATTER_BACKEND") cur b := by
  unfold backendOverride Takes
  cases env "SPATTER_BACKEND" with
  | none => simp [eq_comm]
  | some v => cases hp : Backend.parse v <;> simp [hp]

theorem backendOverride_eq_error {env : Environment} {cur : Backend} {e : SettingsFault}
    (h : backendOverride env cur = .error e) :
    ∃ v, env "SPATTER_BACKEND" = some v ∧ (¬ ∃ b, Backend.parse v = .ok b) ∧
      ∃ reason, e = .badOverride "SPATTER_BACKEND" v reason := by
  unfold backendOverride at h
  cases hv : env "SPATTER_BACKEND" with
  | none => simp [hv] at h
  | some v =>
    cases hp : Backend.parse v with
    | ok b => simp [hv, hp] at h
    | error f =>
      simp only [hv, hp, Except.error.injEq] at h
      exact ⟨v, rfl, by simp [hp], f.message, h.symm⟩

theorem countOverride_eq_ok_iff {env : Environment} {cur count : Option Nat} :
    countOverride env cur = .ok count ↔
      Takes (fun v c => ∃ n, ReadsAs wordLimit v n ∧ c = some n) (env "SPATTER_COUNT") cur
        count := by
  unfold countOverride Takes
  cases env "SPATTER_COUNT" with
  | none => simp [eq_comm]
  | some v =>
    simp only [← readOverride_eq_ok_iff "SPATTER_COUNT"]
    cases readOverride "SPATTER_COUNT" wordLimit v <;> simp [Functor.map, Except.map, eq_comm]

theorem countOverride_eq_error {env : Environment} {cur : Option Nat} {e : SettingsFault}
    (h : countOverride env cur = .error e) :
    ∃ v, env "SPATTER_COUNT" = some v ∧ (¬ ∃ n, ReadsAs wordLimit v n) ∧
      ∃ reason, e = .badOverride "SPATTER_COUNT" v reason := by
  unfold countOverride at h
  cases hv : env "SPATTER_COUNT" with
  | none => simp [hv] at h
  | some v =>
    cases hr : readOverride "SPATTER_COUNT" wordLimit v with
    | ok n => simp [hv, hr, Functor.map, Except.map] at h
    | error r =>
      simp only [hv, hr, Functor.map, Except.map, Except.error.injEq] at h
      subst h
      exact ⟨v, rfl, readOverride_eq_error hr⟩

theorem switchedOn_iff (v : String) :
    switchedOn v = true ↔ Text.asciiLower v ∈ ["1", "true", "yes"] := by
  unfold switchedOn
  split <;> simp_all

/-! ## Steps that stop at the first failure -/

section Fold

variable {α β ε : Type} {f : β → α → Except ε β}

theorem map_eq_error {γ : Type} {g : β → γ} {x : Except ε β} {e : ε} :
    g <$> x = .error e ↔ x = .error e := by
  cases x <;> simp [Functor.map, Except.map]

theorem exists_map_eq_ok {γ : Type} {g : β → γ} {x : Except ε β} :
    (∃ y, g <$> x = .ok y) ↔ ∃ b, x = .ok b := by
  cases x <;> simp [Functor.map, Except.map]

theorem exists_foldlM_eq_ok_iff {P : α → Prop} (hf : ∀ a b, (∃ b', f b a = .ok b') ↔ P a) :
    ∀ (xs : List α) (b : β), (∃ r, xs.foldlM f b = .ok r) ↔ ∀ a ∈ xs, P a := by
  intro xs
  induction xs with
  | nil => simp [pure, Except.pure]
  | cons a xs ih =>
    intro b
    simp only [List.foldlM_cons, bind_eq_ok, List.forall_mem_cons]
    constructor
    · rintro ⟨r, b', hb', hr⟩
      exact ⟨(hf a b).mp ⟨b', hb'⟩, (ih b').mp ⟨r, hr⟩⟩
    · rintro ⟨ha, hrest⟩
      obtain ⟨b', hb'⟩ := (hf a b).mpr ha
      obtain ⟨r, hr⟩ := (ih b').mpr hrest
      exact ⟨r, b', hb', hr⟩

theorem foldlM_eq_error {xs : List α} {b : β} {e : ε} (h : xs.foldlM f b = .error e) :
    ∃ pre a post t, xs = pre ++ a :: post ∧ pre.foldlM f b = .ok t ∧ f t a = .error e := by
  induction xs generalizing b with
  | nil => cases h
  | cons a xs ih =>
    rw [List.foldlM_cons] at h
    rcases bind_eq_error h with ha | ⟨b', hb', hrest⟩
    · exact ⟨[], a, xs, b, rfl, rfl, ha⟩
    · obtain ⟨pre, a', post, t, rfl, hpre, ht⟩ := ih hrest
      refine ⟨a :: pre, a', post, t, rfl, ?_, ht⟩
      rw [List.foldlM_cons, hb', ok_bind]
      exact hpre

end Fold

/-! ## The variables in their order -/

/-- The environment variables that override settings. -/
inductive Override where
  | backend | kernel | pattern | delta | count | nruns | verbosity | seed | threads | deviceIndex
  | distributed
  deriving DecidableEq, Repr

namespace Override

def all : List Override :=
  [.backend, .kernel, .pattern, .delta, .count, .nruns, .verbosity, .seed, .threads, .deviceIndex,
    .distributed]

def key : Override → String
  | .backend => "SPATTER_BACKEND"
  | .kernel => "SPATTER_KERNEL"
  | .pattern => "SPATTER_PATTERN"
  | .delta => "SPATTER_DELTA"
  | .count => "SPATTER_COUNT"
  | .nruns => "SPATTER_NRUNS"
  | .verbosity => "SPATTER_VERBOSITY"
  | .seed => "SPATTER_SEED"
  | .threads => "SPATTER_THREADS"
  | .deviceIndex => "SPATTER_DEVICE_INDEX"
  | .distributed => "SPATTER_DISTRIBUTED"

def Accepts : Override → String → Prop
  | .backend, v => ∃ b, Backend.parse v = .ok b
  | .verbosity, v => ∃ n, ReadsAs 256 v n
  | .delta, v | .count, v | .nruns, v | .seed, v | .threads, v | .deviceIndex, v =>
    ∃ n, ReadsAs wordLimit v n
  | .kernel, _ | .pattern, _ | .distributed, _ => True

def Readable (o : Override) (env : Environment) : Prop := ∀ v, env o.key = some v → o.Accepts v

def apply (env : Environment) : Override → Settings → Except SettingsFault Settings
  | .backend, s => (fun b => { s with backend := b }) <$> backendOverride env s.backend
  | .kernel, s => pure { s with kernel := (env "SPATTER_KERNEL").getD s.kernel }
  | .pattern, s => pure { s with pattern := (env "SPATTER_PATTERN").getD s.pattern }
  | .delta, s =>
    (fun n => { s with delta := n }) <$> overrideNat env "SPATTER_DELTA" wordLimit s.delta
  | .count, s => (fun c => { s with count := c }) <$> countOverride env s.count
  | .nruns, s =>
    (fun n => { s with nruns := n }) <$> overrideNat env "SPATTER_NRUNS" wordLimit s.nruns
  | .verbosity, s =>
    (fun n => { s with verbosity := n }) <$> overrideNat env "SPATTER_VERBOSITY" 256 s.verbosity
  | .seed, s => (fun n => { s with seed := n }) <$> overrideNat env "SPATTER_SEED" wordLimit s.seed
  | .threads, s =>
    (fun n => { s with threads := n }) <$> overrideNat env "SPATTER_THREADS" wordLimit s.threads
  | .deviceIndex, s =>
    (fun n => { s with deviceIndex := n }) <$>
      overrideNat env "SPATTER_DEVICE_INDEX" wordLimit s.deviceIndex
  | .distributed, s =>
    pure { s with distributed := ((env "SPATTER_DISTRIBUTED").map switchedOn).getD s.distributed }

variable {env : Environment}

theorem exists_map_overrideNat {key : String} {limit cur : Nat} {g : Nat → Settings} :
    (∃ s', g <$> overrideNat env key limit cur = .ok s') ↔
      ∀ v, env key = some v → ∃ n, ReadsAs limit v n := by
  rw [exists_map_eq_ok]
  simp only [overrideNat_eq_ok_iff]
  exact exists_takes_iff

theorem exists_apply_iff (o : Override) (s : Settings) :
    (∃ s', o.apply env s = .ok s') ↔ o.Readable env := by
  cases o with
  | backend =>
    rw [apply, exists_map_eq_ok]
    simp only [backendOverride_eq_ok_iff]
    exact exists_takes_iff
  | count =>
    rw [apply, exists_map_eq_ok]
    simp only [countOverride_eq_ok_iff, exists_takes_iff]
    exact forall_congr' fun v => imp_congr_right fun _ =>
      ⟨fun ⟨_, n, hn, _⟩ => ⟨n, hn⟩, fun ⟨n, hn⟩ => ⟨some n, n, hn, rfl⟩⟩
  | delta | nruns | verbosity | seed | threads | deviceIndex => exact exists_map_overrideNat
  | kernel | pattern | distributed => exact ⟨fun _ _ _ => trivial, fun _ => ⟨_, rfl⟩⟩

theorem apply_eq_error {o : Override} {s : Settings} {e : SettingsFault}
    (h : o.apply env s = .error e) :
    ∃ v reason, env o.key = some v ∧ ¬ o.Accepts v ∧ e = .badOverride o.key v reason := by
  cases o with
  | backend =>
    obtain ⟨v, hv, hno, reason, rfl⟩ := backendOverride_eq_error (map_eq_error.mp h)
    exact ⟨v, reason, hv, hno, rfl⟩
  | count =>
    obtain ⟨v, hv, hno, reason, rfl⟩ := countOverride_eq_error (map_eq_error.mp h)
    exact ⟨v, reason, hv, hno, rfl⟩
  | delta | nruns | verbosity | seed | threads | deviceIndex =>
    obtain ⟨v, hv, hno, reason, rfl⟩ := overrideNat_eq_error (map_eq_error.mp h)
    exact ⟨v, reason, hv, hno, rfl⟩
  | kernel | pattern | distributed => cases h

end Override

theorem applyEnv_eq_foldlM (env : Environment) (s : Settings) :
    applyEnv env s = Override.all.foldlM (fun s o => o.apply env s) s := by
  rw [applyEnv_eq]
  simp only [Override.all, List.foldlM_cons, List.foldlM_nil, Override.apply, map_eq_pure_bind,
    bind_assoc, pure_bind, bind_pure]

/-! ## What applied overrides give -/

/-- The settings `s'` are `s` with the environment's overrides: each variable that is set gives its
field what its value reads as, and each field whose variable is not set keeps its value. -/
structure Overridden (env : Environment) (s s' : Settings) : Prop where
  backend : Takes (fun v b => Backend.parse v = .ok b) (env "SPATTER_BACKEND") s.backend s'.backend
  kernel : Takes (fun v k => k = v) (env "SPATTER_KERNEL") s.kernel s'.kernel
  pattern : Takes (fun v t => t = v) (env "SPATTER_PATTERN") s.pattern s'.pattern
  delta : Takes (ReadsAs wordLimit) (env "SPATTER_DELTA") s.delta s'.delta
  count : Takes (fun v c => ∃ n, ReadsAs wordLimit v n ∧ c = some n) (env "SPATTER_COUNT") s.count
    s'.count
  nruns : Takes (ReadsAs wordLimit) (env "SPATTER_NRUNS") s.nruns s'.nruns
  verbosity : Takes (ReadsAs 256) (env "SPATTER_VERBOSITY") s.verbosity s'.verbosity
  seed : Takes (ReadsAs wordLimit) (env "SPATTER_SEED") s.seed s'.seed
  threads : Takes (ReadsAs wordLimit) (env "SPATTER_THREADS") s.threads s'.threads
  deviceIndex : Takes (ReadsAs wordLimit) (env "SPATTER_DEVICE_INDEX") s.deviceIndex s'.deviceIndex
  distributed : Takes (fun v d => (d = true ↔ Text.asciiLower v ∈ ["1", "true", "yes"]))
    (env "SPATTER_DISTRIBUTED") s.distributed s'.distributed

theorem takes_switchedOn (given : Option String) (before : Bool) :
    Takes (fun v d => (d = true ↔ Text.asciiLower v ∈ ["1", "true", "yes"])) given before
      ((given.map switchedOn).getD before) := by
  cases given with
  | none => rfl
  | some v => exact switchedOn_iff v

theorem overridden_of_applyEnv {env : Environment} {s s' : Settings}
    (h : applyEnv env s = .ok s') : Overridden env s s' := by
  rw [applyEnv_eq] at h
  simp only [bind_eq_ok] at h
  obtain ⟨backend, hb, delta, hd, count, hc, nruns, hn, verbosity, hv, seed, hs, threads, ht,
    device, hdev, h⟩ := h
  cases h
  exact ⟨backendOverride_eq_ok_iff.mp hb, takes_getD _ _, takes_getD _ _,
    overrideNat_eq_ok_iff.mp hd, countOverride_eq_ok_iff.mp hc, overrideNat_eq_ok_iff.mp hn,
    overrideNat_eq_ok_iff.mp hv, overrideNat_eq_ok_iff.mp hs, overrideNat_eq_ok_iff.mp ht,
    overrideNat_eq_ok_iff.mp hdev, takes_switchedOn _ _⟩

theorem exists_applyEnv_iff (env : Environment) (s : Settings) :
    (∃ s', applyEnv env s = .ok s') ↔ ∀ o ∈ Override.all, o.Readable env := by
  rw [applyEnv_eq_foldlM]
  exact exists_foldlM_eq_ok_iff (fun o s => Override.exists_apply_iff o s) _ _

theorem applyEnv_eq_error {env : Environment} {s : Settings} {e : SettingsFault}
    (h : applyEnv env s = .error e) :
    ∃ pre o post v reason, Override.all = pre ++ o :: post ∧ (∀ o' ∈ pre, o'.Readable env) ∧
      env o.key = some v ∧ ¬ o.Accepts v ∧ e = .badOverride o.key v reason := by
  rw [applyEnv_eq_foldlM] at h
  obtain ⟨pre, o, post, t, hall, hpre, ho⟩ := foldlM_eq_error h
  -- The variables before the failing one were all applied, so each of them could be read.
  have hread : ∀ o' ∈ pre, o'.Readable env :=
    (exists_foldlM_eq_ok_iff (fun o s => Override.exists_apply_iff o s) pre s).mp ⟨t, hpre⟩
  obtain ⟨v, reason, hv, hno, he⟩ := Override.apply_eq_error ho
  exact ⟨pre, o, post, v, reason, hall, hread, hv, hno, he⟩

/-! ## Settings from the environment alone -/

theorem validate_eq_error {s : Settings} {e : SettingsFault} :
    s.validate = .error e ↔
      (∃ f, Kernel.parse s.kernel = .error f ∧ e = .invalid f.message) ∨
      (∃ k, Kernel.parse s.kernel = .ok k) ∧
        (Text.trim s.pattern = "" ∧ e = .invalid "pattern must not be empty" ∨
          Text.trim s.pattern ≠ "" ∧
            (s.nruns = 0 ∧ e = .invalid "nruns must be > 0" ∨
              s.nruns ≠ 0 ∧ s.count = some 0 ∧ e = .invalid "count must be > 0")) := by
  unfold validate
  cases hk : Kernel.parse s.kernel with
  | error f =>
    simp [throw, throwThe, MonadExceptOf.throw]
    exact eq_comm
  | ok k =>
    simp only [String.isEmpty_iff]
    -- The first check that fails throws its own words, and the later ones are not reached.
    split_ifs <;> simp_all [throw, throwThe, MonadExceptOf.throw, pure, Except.pure] <;>
      exact eq_comm

theorem fromEnv_eq_ok_iff {env : Environment} {s : Settings} :
    fromEnv env = .ok s ↔ applyEnv env {} = .ok s ∧ s.validate = .ok () := by
  unfold fromEnv
  simp only [bind_eq_ok]
  constructor
  · rintro ⟨s', hs', ⟨⟩, hv, hpure⟩
    cases hpure
    exact ⟨hs', hv⟩
  · rintro ⟨hs, hv⟩
    exact ⟨s, hs, (), hv, rfl⟩

/-- The overrides apply exactly when every variable that is set can be read. -/
theorem applyEnv_contract (env : Environment) (s : Settings) :
    ((∃ s', applyEnv env s = .ok s') ↔ ∀ o ∈ Override.all, o.Readable env) ∧
    (∀ s', applyEnv env s = .ok s' → Overridden env s s') ∧
    (∀ e, applyEnv env s = .error e →
      ∃ pre o post v reason, Override.all = pre ++ o :: post ∧ (∀ o' ∈ pre, o'.Readable env) ∧
        env o.key = some v ∧ ¬ o.Accepts v ∧ e = .badOverride o.key v reason) ∧
    (∀ s', fromEnv env = .ok s' ↔ applyEnv env {} = .ok s' ∧
      (∃ k, Kernel.parse s'.kernel = .ok k) ∧ Text.trim s'.pattern ≠ "" ∧ s'.nruns ≠ 0 ∧
        s'.count ≠ some 0) ∧
    ∀ (s' : Settings) (e : SettingsFault), s'.validate = .error e ↔
      (∃ f, Kernel.parse s'.kernel = .error f ∧ e = .invalid f.message) ∨
      (∃ k, Kernel.parse s'.kernel = .ok k) ∧
        (Text.trim s'.pattern = "" ∧ e = .invalid "pattern must not be empty" ∨
          Text.trim s'.pattern ≠ "" ∧
            (s'.nruns = 0 ∧ e = .invalid "nruns must be > 0" ∨
              s'.nruns ≠ 0 ∧ s'.count = some 0 ∧ e = .invalid "count must be > 0")) := by
  refine ⟨exists_applyEnv_iff env s, fun _ h => overridden_of_applyEnv h,
    fun _ h => applyEnv_eq_error h, fun s' => ?_, fun _ _ => validate_eq_error⟩
  rw [fromEnv_eq_ok_iff, validate_eq_ok]

theorem test_overrides_apply_or_name_delta :
    (∃ s', fromEnv (Environment.ofList [("SPATTER_BACKEND", "parallel"), ("SPATTER_NRUNS", "25"),
        ("SPATTER_DISTRIBUTED", "yes")]) = .ok s' ∧
      s'.backend = .parallel ∧ s'.nruns = 25 ∧ s'.distributed = true) ∧
    applyEnv (Environment.ofList [("SPATTER_DELTA", "-3")]) {} =
      .error (.badOverride "SPATTER_DELTA" "-3" "invalid digit found in string") ∧
    ¬ Override.delta.Accepts "-3" := by
  obtain ⟨-, -, -, hfrom, -⟩ := applyEnv_contract (Environment.ofList
    [("SPATTER_BACKEND", "parallel"), ("SPATTER_NRUNS", "25"), ("SPATTER_DISTRIBUTED", "yes")]) {}
  have happly : applyEnv (Environment.ofList [("SPATTER_BACKEND", "parallel"),
      ("SPATTER_NRUNS", "25"), ("SPATTER_DISTRIBUTED", "yes")]) {} =
      .ok { backend := .parallel, nruns := 25, distributed := true } := by rfl
  have hchecks : Text.trim "UNIFORM:8:1" ≠ "" := by decide
  have hfailed : applyEnv (Environment.ofList [("SPATTER_DELTA", "-3")]) {} =
      .error (.badOverride "SPATTER_DELTA" "-3" "invalid digit found in string") := by rfl
  obtain ⟨-, -, hfail, -, -⟩ := applyEnv_contract (Environment.ofList [("SPATTER_DELTA", "-3")]) {}
  obtain ⟨pre, o, post, v, reason, -, -, -, hno, he⟩ := hfail _ hfailed
  -- The fault names the delta's variable, so the step that failed is the delta's.
  simp only [SettingsFault.badOverride.injEq] at he
  obtain ⟨hkey, rfl, -⟩ := he
  have ho : o = .delta := by
    revert hkey
    cases o <;> decide
  subst ho
  exact ⟨⟨_, (hfrom _).mpr ⟨happly, ⟨.gather, rfl⟩, hchecks, by decide, by decide⟩, rfl, rfl, rfl⟩,
    hfailed, hno⟩

end Settings

end GatherScatter
