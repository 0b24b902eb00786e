import Mathlib
import GatherScatter.Proofs.Rendering

/-! # Uniform stride -/

namespace GatherScatter

theorem toNat_ofNat_mul_ofNat {a b : Nat} (h : a * b < wordLimit) :
    (UInt64.ofNat a * UInt64.ofNat b).toNat = a * b := by
  have hlim : wordLimit = 2 ^ 64 := rfl
  rw [UInt64.toNat_mul, UInt64.toNat_ofNat', UInt64.toNat_ofNat']
  rcases Nat.eq_zero_or_pos a with rfl | ha
  · simp
  rcases Nat.eq_zero_or_pos b with rfl | hb
  · simp
  -- Both factors are at most the product, so no reduction changes anything.
  have hab : a ≤ a * b := Nat.le_mul_of_pos_right a hb
  have hba : b ≤ a * b := Nat.le_mul_of_pos_left b ha
  rw [Nat.mod_eq_of_lt (show a < 2 ^ 64 by omega), Nat.mod_eq_of_lt (show b < 2 ^ 64 by omega),
    Nat.mod_eq_of_lt (show a * b < 2 ^ 64 by omega)]

namespace Generate

theorem uniform_eq_ok_iff {a : Allocator} {len stride : Nat} {v : List Nat} :
    uniform a len stride = .ok v ↔ 1 ≤ len ∧ (len - 1) * stride ≤ wordMax ∧
      a.reserve "pattern" len = .ok () ∧ v = (List.range len).map (· * stride) := by
  have hword := wordMax_add_one
  unfold uniform
  simp only [throw_bind]
  by_cases h0 : len = 0
  · simp [h0]
  by_cases hover : wordLimit ≤ (len - 1) * stride
  · simp only [h0, hover, if_true, if_false, reduceCtorEq, false_iff]
    omega
  cases hr : a.reserve "pattern" len with
  | error s => simp [h0, hover]
  | ok u =>
    simp only [h0, hover, if_false, pure, Except.pure, Except.ok.injEq, true_and]
    constructor
    · rintro rfl
      exact ⟨by omega, by omega, rfl⟩
    · rintro ⟨-, -, rfl⟩
      rfl

theorem mul_le_of_lt {len stride i : Nat} (hi : i < len) : i * stride ≤ (len - 1) * stride :=
  Nat.mul_le_mul_right stride (by omega)

theorem max?_multiples {len : Nat} (stride : Nat) (h : 1 ≤ len) :
    ((List.range len).map (· * stride)).max? = some ((len - 1) * stride) := by
  rw [List.max?_eq_some_iff]
  refine ⟨List.mem_map.mpr ⟨len - 1, List.mem_range.mpr (by omega), rfl⟩, ?_⟩
  intro x hx
  obtain ⟨i, hi, rfl⟩ := List.mem_map.mp hx
  exact mul_le_of_lt (List.mem_range.mp hi)

end Generate

/-! ## The notation of a uniform pattern -/

def uniformText (len stride : Nat) : String := "UNIFORM:" ++ len.repr ++ ":" ++ stride.repr

section Text

variable {a : Allocator} {len stride : Nat}

theorem toList_uniformText :
    (uniformText len stride).toList =
      "UNIFORM".toList ++
        ':' :: [':'].intercalate [Nat.toDigits 10 len, Nat.toDigits 10 stride] := by
  simp [uniformText, Nat.toList_repr]

theorem not_colon_of_mem_toDigits {c : Char} {n : Nat} (h : c ∈ Nat.toDigits 10 n) : c ≠ ':' := by
  rintro rfl
  exact absurd (Text.isDigit_of_mem_toDigits_ten h) (by decide)

theorem trim_uniformText : Text.trim (uniformText len stride) = uniformText len stride := by
  obtain ⟨d, hd⟩ := Option.isSome_iff_exists.mp
    (List.getLast?_isSome.mpr (Nat.toDigits_ne_nil (n := stride) (b := 10)))
  have hlast : (uniformText len stride).toList.getLast? = some d := by
    have hsplit : (uniformText len stride).toList =
        ("UNIFORM:".toList ++ Nat.toDigits 10 len ++ [':']) ++ Nat.toDigits 10 stride := by
      simp [uniformText, Nat.toList_repr]
    rw [hsplit, List.getLast?_append_of_ne_nil _ Nat.toDigits_ne_nil, hd]
  have hdigit := Text.isBlank_of_isDigit
    (Text.isDigit_of_mem_toDigits_ten (List.mem_of_getLast? hd))
  have hkeep := @Text.trimChars_eq_self (uniformText len stride).toList
    (by rw [toList_uniformText]; simp; decide) (by rw [hlast]; simpa using hdigit)
  rw [Text.trim, hkeep, String.ofList_toList]

theorem splitOnce_uniformText :
    Text.splitOnce ':' (uniformText len stride) =
      some ("UNIFORM", String.ofList ([':'].intercalate
        [Nat.toDigits 10 len, Nat.toDigits 10 stride])) := by
  unfold Text.splitOnce
  rw [toList_uniformText]
  simp

theorem split_fields :
    Text.split ':'
        (String.ofList ([':'].intercalate [Nat.toDigits 10 len, Nat.toDigits 10 stride])) =
      [len.repr, stride.repr] := by
  have hnot : ∀ l ∈ [Nat.toDigits 10 len, Nat.toDigits 10 stride], ':' ∉ l := by
    intro l hl hmem
    simp only [List.mem_cons, List.not_mem_nil, or_false] at hl
    rcases hl with rfl | rfl <;> exact not_colon_of_mem_toDigits hmem rfl
  rw [Text.split, String.toList_ofList, Text.splitChars_eq_splitOn,
    List.splitOn_intercalate ':' hnot (by simp)]
  rfl

theorem readField_repr (what : Field) {n : Nat} (h : n < wordLimit) :
    readField what n.repr = .ok n :=
  @readField_blank_toDigits what [] (by simp) n h

theorem baseIndices_uniformText (hlen : len < wordLimit) (hstride : stride < wordLimit) :
    baseIndices a (uniformText len stride) = Generate.uniform a len stride := by
  unfold baseIndices
  simp only [trim_uniformText, splitOnce_uniformText, split_fields]
  have hname : Text.asciiUpper (Text.trim "UNIFORM") = "UNIFORM" := by decide
  rw [hname]
  simp only [readField_repr _ hlen, readField_repr _ hstride, ok_bind]

theorem compilePattern_uniformText_eq_ok (hlen : len < wordLimit) (hstride : stride < wordLimit)
    {p : Pattern} :
    compilePattern a (uniformText len stride) = .ok p ↔ 1 ≤ len ∧ (len - 1) * stride ≤ wordMax - 1 ∧
      a.reserve "pattern" len = .ok () ∧ p.indices = (List.range len).map (· * stride) := by
  have hword := wordMax_add_one
  constructor
  · intro hp
    obtain ⟨b, hb, -, -, -, -, hidx⟩ := Compiler.compile_eq_ok hp
    rw [baseIndices_uniformText hlen hstride] at hb
    obtain ⟨h1, -, hres, rfl⟩ := Generate.uniform_eq_ok_iff.mp hb
    have hidx : p.indices = (List.range len).map (· * stride) := by
      rw [hidx]
      show Generate.shiftedCopies _ 0 1 = _
      simp [Generate.shiftedCopies]
    -- The largest multiple is the pattern's largest index, which leaves room for the sparse length.
    have hmax : p.maxIndex = (len - 1) * stride := by
      have h := Generate.max?_multiples stride h1
      rw [← hidx, p.max?_indices] at h
      exact Option.some.inj h
    have hlt := p.maxIndex_lt
    exact ⟨h1, by omega, hres, hidx⟩
  · rintro ⟨h1, hmax, hres, hidx⟩
    have hv : Generate.uniform a len stride = .ok ((List.range len).map (· * stride)) :=
      Generate.uniform_eq_ok_iff.mpr ⟨h1, by omega, hres, rfl⟩
    have hkeep : Generate.repeatShifted a ((List.range len).map (· * stride)) 0 1 =
        .ok ((List.range len).map (· * stride)) :=
      Generate.repeatShifted_zero_one (Generate.max?_multiples stride h1) (by omega)
        (by simpa using hres)
    rw [compilePattern_eq, baseIndices_uniformText hlen hstride, hv, ok_bind, hkeep, ok_bind,
      ← hidx, Pattern.ofIndices?_indices]

end Text

/-- Uniform gives the multiples of the stride exactly when they fit in a word. -/
theorem uniform_contract (a : Allocator) (len stride : Nat) :
    ((∃ v, Generate.uniform a len stride = .ok v) ↔
      1 ≤ len ∧ (len - 1) * stride ≤ wordMax ∧ a.reserve "pattern" len = .ok ()) ∧
    (∀ v, Generate.uniform a len stride = .ok v → v.length = len ∧
      ∀ i < len, v[i]? = some (i * stride) ∧ i * stride ≤ wordMax ∧
        (UInt64.ofNat i * UInt64.ofNat stride).toNat = i * stride) ∧
    (len < wordLimit → stride < wordLimit →
      ((∃ p, compilePattern a (uniformText len stride) = .ok p) ↔
        1 ≤ len ∧ (len - 1) * stride ≤ wordMax - 1 ∧ a.reserve "pattern" len = .ok ()) ∧
      ∀ p, compilePattern a (uniformText len stride) = .ok p →
        p.indices = (List.range len).map (· * stride)) := by
  have hword := wordMax_add_one
  refine ⟨⟨fun ⟨v, hv⟩ => ?_, fun ⟨h1, hmax, hres⟩ => ?_⟩, fun v hv => ?_, fun hlen hstride => ?_⟩
  · obtain ⟨h1, hmax, hres, -⟩ := Generate.uniform_eq_ok_iff.mp hv
    exact ⟨h1, hmax, hres⟩
  · exact ⟨_, Generate.uniform_eq_ok_iff.mpr ⟨h1, hmax, hres, rfl⟩⟩
  · obtain ⟨-, hmax, -, rfl⟩ := Generate.uniform_eq_ok_iff.mp hv
    refine ⟨by simp, fun i hi => ?_⟩
    -- Every product of the fill is at most the largest multiple, which the guard bounded.
    have hle : i * stride ≤ wordMax := (Generate.mul_le_of_lt hi).trans hmax
    exact ⟨by simp [hi], hle, toNat_ofNat_mul_ofNat (by omega)⟩
  · refine ⟨⟨fun ⟨p, hp⟩ => ?_, fun ⟨h1, hmax, hres⟩ => ?_⟩, fun p hp => ?_⟩
    · obtain ⟨h1, hmax, hres, -⟩ := (compilePattern_uniformText_eq_ok hlen hstride).mp hp
      exact ⟨h1, hmax, hres⟩
    · -- The multiples make a pattern, since their largest leaves room for the sparse length.
      obtain ⟨p, -, hidx⟩ := Pattern.ofIndices?_of_max? (Generate.max?_multiples stride h1)
        (by omega)
      exact ⟨p, (compilePattern_uniformText_eq_ok hlen hstride).mpr ⟨h1, hmax, hres, hidx⟩⟩
    · exact ((compilePattern_uniformText_eq_ok hlen hstride).mp hp).2.2.2

end GatherScatter
