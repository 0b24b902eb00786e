import Mathlib
import GatherScatter.Selector
/-! # Reading kernel and backend names -/

namespace GatherScatter

namespace Text

/-! ## ASCII case -/

theorem toNat_toLower (c : Char) :
    c.toLower.toNat = if 65 ≤ c.toNat ∧ c.toNat ≤ 90 then c.toNat + 32 else c.toNat := by
  have hrange : (c.val ≥ 'A'.val ∧ c.val ≤ 'Z'.val) ↔ 65 ≤ c.toNat ∧ c.toNat ≤ 90 := by
    simp [UInt32.le_iff_toNat_le, Char.toNat_val]
  unfold Char.toLower
  split
  · rename_i h
    have hn := hrange.1 h
    rw [if_pos hn]
    simp [Char.toNat_mk, UInt32.toNat_add]
    omega
  · rename_i h
    rw [if_neg (mt hrange.2 h)]

theorem toNat_toUpper (c : Char) :
    c.toUpper.toNat = if 97 ≤ c.toNat ∧ c.toNat ≤ 122 then c.toNat - 32 else c.toNat := by
  have hrange : ('a'.val ≤ c.val ∧ c.val ≤ 'z'.val) ↔ 97 ≤ c.toNat ∧ c.toNat ≤ 122 := by
    simp [UInt32.le_iff_toNat_le, Char.toNat_val]
  unfold Char.toUpper
  split
  · rename_i h
    have hn := hrange.1 h
    rw [if_pos hn]
    simp [Char.toNat_mk, UInt32.toNat_add]
    omega
  · rename_i h
    rw [if_neg (mt hrange.2 h)]

theorem toLower_eq_toLower_iff (c d : Char) :
    c.toLower = d.toLower ↔ c = d ∨ c = d.toUpper ∨ d = c.toUpper := by
  simp only [← Char.toNat_inj, toNat_toLower, toNat_toUpper]
  split_ifs <;> omega

/-- `t` spells `w` up to ASCII case: as long, and at each position the same character or the
other case of the same ASCII letter. -/
def AsciiCaseVariant (t w : String) : Prop :=
  List.Forall₂ (fun c d => c = d ∨ c = d.toUpper ∨ d = c.toUpper) t.toList w.toList

instance : DecidableRel AsciiCaseVariant := fun t w =>
  inferInstanceAs (Decidable (List.Forall₂ _ t.toList w.toList))

theorem asciiLower_eq_asciiLower_iff (t w : String) :
    asciiLower t = asciiLower w ↔ AsciiCaseVariant t w := by
  rw [asciiLower, asciiLower, String.ofList_inj, ← List.forall₂_eq_eq_eq,
    List.forall₂_map_left_iff, List.forall₂_map_right_iff, AsciiCaseVariant]
  simp only [toLower_eq_toLower_iff]

example : AsciiCaseVariant "GaThEr" "gather" := by decide

example : ¬ AsciiCaseVariant "ſerial" "serial" := by decide

end Text

/-! ## Kernels -/

namespace Kernel

theorem asciiLower_name (k : Kernel) : Text.asciiLower k.name = k.name := by
  cases k <;> rfl

theorem parse_eq_ok_iff_asciiLower {s : String} {k : Kernel} :
    parse s = .ok k ↔ Text.asciiLower (Text.trim s) = k.name := by
  unfold parse
  split <;> cases k <;> simp_all [Kernel.name]

theorem parse_eq_ok_iff (s : String) (k : Kernel) :
    parse s = .ok k ↔ Text.AsciiCaseVariant (Text.trim s) k.name := by
  rw [parse_eq_ok_iff_asciiLower, ← Text.asciiLower_eq_asciiLower_iff, asciiLower_name]

theorem parse_eq_error_iff {s : String} {f : Fault} :
    parse s = .error f ↔ (∀ k : Kernel, ¬ Text.AsciiCaseVariant (Text.trim s) k.name) ∧
      f = .configuration ("invalid kernel type '" ++ Text.asciiLower (Text.trim s) ++
        "', expected 'gather' or 'scatter'") := by
  simp only [← parse_eq_ok_iff]
  unfold parse
  -- the reader's last branch refuses; in each other branch it reads a name and both sides fail
  split
  case h_3 =>
    simp only [Except.error.injEq, reduceCtorEq, not_false_eq_true, implies_true, true_and]
    exact eq_comm
  all_goals simp

theorem parse_name (k : Kernel) : parse k.name = .ok k := by
  cases k <;> rfl

example : parse "\u3000GaThEr\u00A0" = .ok .gather := rfl

end Kernel

/-! ## Backends -/

namespace Backend

theorem asciiLower_name (b : Backend) : Text.asciiLower b.name = b.name := by
  cases b <;> rfl

theorem parse_eq_ok_iff_asciiLower {s : String} {b : Backend} :
    parse s = .ok b ↔ Text.asciiLower (Text.trim s) = b.name ∨
      (b = .parallel ∧ Text.asciiLower (Text.trim s) = "openmp") := by
  unfold parse
  split <;> cases b <;> simp_all [Backend.name]

theorem parse_eq_ok_iff (s : String) (b : Backend) :
    parse s = .ok b ↔ Text.AsciiCaseVariant (Text.trim s) b.name ∨
      (b = .parallel ∧ Text.AsciiCaseVariant (Text.trim s) "openmp") := by
  have hopenmp : Text.asciiLower "openmp" = "openmp" := rfl
  rw [parse_eq_ok_iff_asciiLower, ← Text.asciiLower_eq_asciiLower_iff, asciiLower_name,
    ← Text.asciiLower_eq_asciiLower_iff, hopenmp]

theorem parse_eq_error_iff {s : String} {f : Fault} :
    parse s = .error f ↔ ((∀ b : Backend, ¬ Text.AsciiCaseVariant (Text.trim s) b.name) ∧
      ¬ Text.AsciiCaseVariant (Text.trim s) "openmp") ∧
      f = .configuration ("unknown backend '" ++ Text.asciiLower (Text.trim s) ++
        "', expected one of serial, parallel, cuda") := by
  -- no name is spelled exactly when no backend is read
  have hnone : ((∀ b : Backend, ¬ Text.AsciiCaseVariant (Text.trim s) b.name) ∧
      ¬ Text.AsciiCaseVariant (Text.trim s) "openmp") ↔ ∀ b, ¬ parse s = .ok b := by
    simp only [parse_eq_ok_iff, not_or, not_and]
    constructor
    · rintro ⟨hname, hopenmp⟩ b
      exact ⟨hname b, fun _ => hopenmp⟩
    · intro h
      exact ⟨fun b => (h b).1, (h .parallel).2 rfl⟩
  rw [hnone]
  unfold parse
  split
  case h_5 =>
    simp only [Except.error.injEq, reduceCtorEq, not_false_eq_true, implies_true, true_and]
    exact eq_comm
  all_goals simp

theorem parse_name (b : Backend) : parse b.name = .ok b := by
  cases b <;> rfl

example : parse "\u2028 OpenMP\n" = .ok .parallel := rfl

end Backend

/-! ## Reading names -/

/-- Kernel and backend names are read trimmed of blanks and up to ASCII case. -/
theorem selector_names_read_up_to_ascii_case :
    (∀ s k, Kernel.parse s = .ok k ↔ Text.AsciiCaseVariant (Text.trim s) k.name) ∧
    (∀ s b, Backend.parse s = .ok b ↔ Text.AsciiCaseVariant (Text.trim s) b.name ∨
      (b = .parallel ∧ Text.AsciiCaseVariant (Text.trim s) "openmp")) ∧
    (∀ s, (∀ k : Kernel, ¬ Text.AsciiCaseVariant (Text.trim s) k.name) →
      ∃ reason, Kernel.parse s = .error (.configuration reason) ∧
        (Fault.configuration reason).exitCode = 2) ∧
    (∀ s, (∀ b : Backend, ¬ Text.AsciiCaseVariant (Text.trim s) b.name) →
      ¬ Text.AsciiCaseVariant (Text.trim s) "openmp" →
      ∃ reason, Backend.parse s = .error (.configuration reason) ∧
        (Fault.configuration reason).exitCode = 2) ∧
    (∀ k, Kernel.parse k.name = .ok k) ∧ (∀ b, Backend.parse b.name = .ok b) := by
  refine ⟨Kernel.parse_eq_ok_iff, Backend.parse_eq_ok_iff, ?kernel, ?backend,
    Kernel.parse_name, Backend.parse_name⟩
  case kernel =>
    intro s hnone
    exact ⟨_, Kernel.parse_eq_error_iff.2 ⟨hnone, rfl⟩, rfl⟩
  case backend =>
    intro s hnone hopenmp
    exact ⟨_, Backend.parse_eq_error_iff.2 ⟨⟨hnone, hopenmp⟩, rfl⟩, rfl⟩

theorem zero_width_space_kernel_refused :
    (∀ k : Kernel, ¬ Text.AsciiCaseVariant (Text.trim "\u200Bgather") k.name) ∧
      ∃ reason, Kernel.parse "\u200Bgather" = .error (.configuration reason) ∧
        (Fault.configuration reason).exitCode = 2 := by
  have hnone : ∀ k : Kernel, ¬ Text.AsciiCaseVariant (Text.trim "\u200Bgather") k.name := by
    intro k
    cases k <;> decide
  exact ⟨hnone, selector_names_read_up_to_ascii_case.2.2.1 _ hnone⟩

end GatherScatter
