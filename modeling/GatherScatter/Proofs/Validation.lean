import GatherScatter.Cli.Program
import GatherScatter.Proofs.Outcomes
/-! # Settings that pass their checks reach no thread-count fault -/

namespace GatherScatter

namespace Settings

theorem validate_eq_ok {s : Settings} :
    s.validate = .ok () ↔ (∃ k, Kernel.parse s.kernel = .ok k) ∧
      Text.trim s.pattern ≠ "" ∧ s.nruns ≠ 0 ∧ s.count ≠ some 0 := by
  unfold validate
  cases hk : Kernel.parse s.kernel with
  | error e => simp
  | ok k =>
    simp only [String.isEmpty_iff, Except.ok.injEq, exists_eq', true_and]
    split_ifs <;> simp_all [throw, throwThe, MonadExceptOf.throw, pure, Except.pure]

theorem threadCount?_of_zero {s : Settings} (h : s.threads = 0) : s.threadCount? = none := by
  simp [threadCount?, h]

end Settings

theorem Engine.notCompiled_ne_threads (backend : Backend) :
    Engine.notCompiled backend ≠ .configuration "thread count must be at least 1" := by
  cases backend <;>
    simp only [Engine.notCompiled, Backend.name, ne_eq, Fault.configuration.injEq] <;> decide

theorem Bench.configure_of_checks (backend : Backend) {plan : Plan} {k : Kernel}
    (hk : Kernel.parse plan.kernel = .ok k) (ht : plan.threads ≠ some 0) :
    Bench.configure backend plan =
      if Capabilities.built.supports backend then .ok { backend, kernel := k, plan }
      else .error (Engine.notCompiled backend) := by
  rw [Bench.configure_of_parse_ok hk, if_neg ht]
  cases Capabilities.built.supports backend <;> rfl

theorem Engine.create_ne_threads {pool : Option Nat → Option String} {backend : Backend}
    {threads : Option Nat} (ht : threads ≠ some 0) :
    Engine.create pool backend threads ≠
      .error (.configuration "thread count must be at least 1") := by
  intro hf
  rcases Engine.create_eq_error hf with ⟨-, h0, -⟩ | ⟨-, -, reason, -, hpool⟩ | ⟨-, hcuda⟩
  · exact ht h0
  · exact Engine.poolFault_ne_configuration (by decide) hpool.symm
  · exact Engine.notCompiled_ne_threads .cuda hcuda.symm

/-- Valid settings reach no thread-count fault: configuring fails only for a backend not built
in, and a setup only for a buffer or for a pool the machine cannot start. -/
theorem Settings.configure_of_validate {s : Settings} (hvalid : s.validate = .ok ()) (p : Pattern) :
    (∃ k, Kernel.parse (s.plan p).kernel = .ok k) ∧ (s.plan p).threads ≠ some 0 ∧
    (s.threads = 0 → (s.plan p).threads = none) ∧
    ((∃ b, Bench.configure s.backend (s.plan p) = .ok b) ↔
      Capabilities.built.supports s.backend = true) ∧
    (Capabilities.built.supports s.backend = true ↔ s.backend = .serial ∨ s.backend = .parallel) ∧
    (∀ f, Bench.configure s.backend (s.plan p) = .error f → f = Engine.notCompiled s.backend) ∧
    Bench.configure s.backend (s.plan p) ≠
      .error (.configuration "thread count must be at least 1") ∧
    (∀ pool, Engine.create pool s.backend (s.plan p).threads ≠
      .error (.configuration "thread count must be at least 1")) ∧
    (∀ pool, s.threads = 0 → s.backend = .parallel →
      Engine.create pool s.backend (s.plan p).threads =
        match pool none with
        | some reason => .error (Engine.poolFault reason)
        | none => .ok (.parallel none)) ∧
    (∀ b, Bench.configure s.backend (s.plan p) = .ok b →
      (∀ pool f, Engine.create pool s.backend (s.plan p).threads = .error f →
        ∃ reason, pool (s.plan p).threads = some reason ∧ f = Engine.poolFault reason) ∧
      ∀ seed m f, (b.setup seed m).1 = .error f →
        (∃ buffer bytes reason, f = .allocation buffer bytes reason) ∨
        ∃ reason, m.poolRefusal (s.plan p).threads = some reason ∧
          f = Engine.poolFault reason) := by
  -- the plan carries the kernel's name as checked and a thread count that is never zero
  obtain ⟨k, hk⟩ := (Settings.validate_eq_ok.mp hvalid).1
  have hk' : Kernel.parse (s.plan p).kernel = .ok k := hk
  have ht : (s.plan p).threads ≠ some 0 := s.threadCount?_ne_zero
  have hconf := Bench.configure_of_checks s.backend hk' ht
  -- configuring fails only for a backend not built in
  have herror : ∀ f, Bench.configure s.backend (s.plan p) = .error f →
      f = Engine.notCompiled s.backend := by
    intro f hf
    rw [hconf] at hf
    split at hf
    · cases hf
    · cases hf
      rfl
  refine ⟨⟨k, hk'⟩, ht, Settings.threadCount?_of_zero, ?_, ?_, herror, fun hf => ?_,
    fun _ => Engine.create_ne_threads ht, fun pool h0 hb => ?_, fun b hb => ?_⟩
  · rw [hconf]
    cases Capabilities.built.supports s.backend <;> simp
  · cases s.backend <;> decide
  · exact Engine.notCompiled_ne_threads s.backend (herror _ hf).symm
  · show Engine.create pool s.backend s.threadCount? = _
    rw [hb, Settings.threadCount?_of_zero h0]
    exact Engine.create_parallel (by simp)
  · have hcreate : ∀ pool f, Engine.create pool s.backend (s.plan p).threads = .error f →
        ∃ reason, pool (s.plan p).threads = some reason ∧ f = Engine.poolFault reason :=
      fun pool f hf => Bench.create_error_of_configure hb hf
    refine ⟨hcreate, fun seed m f hf => ?_⟩
    obtain ⟨kernel, rfl⟩ := Bench.configure_eq_ok hb
    -- a refused buffer, or an engine refused only its pool
    rcases Bench.setup_eq_error rfl hf with ⟨r, hf, -⟩ | ⟨r, hf, -⟩ | ⟨-, hc, -⟩
    · exact .inl ⟨_, _, _, hf⟩
    · exact .inl ⟨_, _, _, hf⟩
    · exact .inr (hcreate m.poolRefusal f hc)

theorem parallel_settings_use_every_processor :
    ({ backend := .parallel } : Settings).validate = .ok () ∧
      (∃ b, Bench.configure .parallel
        (({ backend := .parallel } : Settings).plan ⟨[0], 0, by decide, by decide, by decide⟩) =
          .ok b) ∧
      Engine.create (Machine.withMemory 4 64).poolRefusal .parallel
        (({ backend := .parallel } : Settings).plan
          ⟨[0], 0, by decide, by decide, by decide⟩).threads = .ok (.parallel none) := by
  have hvalid : ({ backend := .parallel } : Settings).validate = .ok () := by rfl
  obtain ⟨-, -, -, hconf, -, -, -, -, hall, -⟩ :=
    Settings.configure_of_validate hvalid ⟨[0], 0, by decide, by decide, by decide⟩
  exact ⟨hvalid, hconf.mpr rfl, hall _ rfl rfl⟩

end GatherScatter
