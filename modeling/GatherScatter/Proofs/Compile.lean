import GatherScatter.Proofs.Repetition
import GatherScatter.Pattern.Notation

/-! # What the compiler accepts, and what it builds -/

namespace GatherScatter

/-! ## Faults of `Except` computations -/

@[simp] theorem throw_bind {ε α β : Type} (e : ε) (f : α → Except ε β) :
    (throw e >>= f : Except ε β) = .error e := rfl

@[simp] theorem error_bind {ε α β : Type} (e : ε) (f : α → Except ε β) :
    (Except.error e >>= f : Except ε β) = .error e := rfl

@[simp] theorem ok_bind {ε α β : Type} (a : α) (f : α → Except ε β) :
    (Except.ok a >>= f : Except ε β) = f a := rfl

@[simp] theorem isOk_ok {ε α : Type} (a : α) : (Except.ok a : Except ε α).isOk = true := rfl

@[simp] theorem isOk_error {ε α : Type} (e : ε) : (Except.error e : Except ε α).isOk = false := rfl

@[simp] theorem toOption_ok {ε α : Type} (a : α) : (Except.ok a : Except ε α).toOption = some a :=
  rfl

@[simp] theorem toOption_error {ε α : Type} (e : ε) :
    (Except.error e : Except ε α).toOption = none := rfl

@[simp] theorem mapError_ok {ε ε' α : Type} (f : ε → ε') (a : α) :
    (Except.ok a : Except ε α).mapError f = .ok a := rfl

@[simp] theorem mapError_error {ε ε' α : Type} (f : ε → ε') (e : ε) :
    (Except.error e : Except ε α).mapError f = .error (f e) := rfl

theorem bind_eq_ok {ε α β : Type} {x : Except ε α} {f : α → Except ε β} {b : β} :
    x >>= f = .ok b ↔ ∃ a, x = .ok a ∧ f a = .ok b := by
  cases x with
  | error e => simp
  | ok a => simp

theorem bind_eq_error {ε α β : Type} {x : Except ε α} {f : α → Except ε β} {e : ε}
    (h : x >>= f = .error e) : x = .error e ∨ ∃ a, x = .ok a ∧ f a = .error e := by
  cases x with
  | error e' => cases h; exact .inl rfl
  | ok a => exact .inr ⟨a, rfl, h⟩

theorem mapM_error {α β ε : Type} {f : α → Except ε β} {xs : List α} {e : ε}
    (h : xs.mapM f = .error e) : ∃ x ∈ xs, f x = .error e := by
  induction xs with
  | nil => cases h
  | cons x xs ih =>
    simp only [List.mapM_cons] at h
    cases hx : f x with
    | error e' =>
      rw [hx] at h
      cases h
      exact ⟨x, List.mem_cons_self, hx⟩
    | ok y =>
      rw [hx, ok_bind] at h
      cases hxs : xs.mapM f with
      | error e' =>
        rw [hxs, error_bind] at h
        cases h
        obtain ⟨z, hz, hfz⟩ := ih hxs
        exact ⟨z, List.mem_cons_of_mem _ hz, hfz⟩
      | ok ys => rw [hxs] at h; cases h

/-! ## Refused requests -/

variable {a : Allocator}

theorem reserve_eq_error {name : String} {n : Nat} {sh : Shortfall}
    (h : a.reserve name n = .error sh) :
    sh = ⟨name, min (n * elementBytes) wordMax, sh.refusal⟩ ∧ a.refusalFor n = some sh.refusal := by
  obtain ⟨r, hr, rfl⟩ := Allocator.reserve_eq_error_iff.mp h
  exact ⟨rfl, hr⟩

namespace Generate

theorem strideOne_refused {len : Nat} {locations gaps : List Nat} {sh : Shortfall}
    (h : strideOne a len locations gaps = .error (.refused sh)) :
    a.reserve "pattern" len = .error sh := by
  unfold strideOne at h
  simp only [throw_bind] at h
  -- Every branch but the buffer request fails with a fault of another kind, or succeeds.
  repeat' split at h
  all_goals cases h <;> assumption

theorem uniform_refused {len stride : Nat} {sh : Shortfall}
    (h : uniform a len stride = .error (.refused sh)) : a.reserve "pattern" len = .error sh := by
  unfold uniform at h
  simp only [throw_bind] at h
  repeat' split at h
  all_goals cases h <;> assumption

theorem repeatShifted_refused {base : List Nat} {delta count : Nat} {sh : Shortfall}
    (h : repeatShifted a base delta count = .error (.refused sh)) :
    a.reserve "pattern" (base.length * count) = .error sh := by
  unfold repeatShifted at h
  simp only [throw_bind] at h
  repeat' split at h
  all_goals cases h <;> try assumption
  -- The copies' faults are range faults.
  rcases firstOverflow_range ‹_› with h | h <;> cases h

theorem repeatShifted_eq_ok {base : List Nat} {delta count : Nat} {l : List Nat} :
    repeatShifted a base delta count = .ok l ↔ count ≠ 0 ∧ base.length * count < wordLimit ∧
      a.reserve "pattern" (base.length * count) = .ok () ∧ firstOverflow base delta count = none ∧
      l = shiftedCopies base delta count := by
  unfold repeatShifted
  simp only [throw_bind]
  by_cases h0 : count = 0
  · simp [h0]
  by_cases hl : wordLimit ≤ base.length * count
  · simp only [h0, hl, if_true, if_false, reduceCtorEq, false_iff]
    omega
  have hlt : base.length * count < wordLimit := Nat.lt_of_not_le hl
  cases hr : a.reserve "pattern" (base.length * count) with
  | error s => simp [h0, hl]
  | ok u =>
    cases hf : firstOverflow base delta count with
    | some f => simp [h0, hl]
    | none => simp [h0, hl, hlt, pure, Except.pure, eq_comm]

end Generate

theorem readField_ne_refused (what : Field) (text : String) (sh : Shortfall) :
    readField what text ≠ .error (.refused sh) := by
  unfold readField
  dsimp only
  split
  · simp
  · split <;> simp

theorem readList_ne_refused (what : Field) (text : String) (sh : Shortfall) :
    readList what text ≠ .error (.refused sh) := by
  unfold readList
  split
  · simp
  · intro h
    obtain ⟨piece, -, hpiece⟩ := mapM_error h
    exact readField_ne_refused what piece sh hpiece

theorem baseIndices_refused {spec : String} {sh : Shortfall}
    (h : baseIndices a spec = .error (.refused sh)) : ∃ n, a.reserve "pattern" n = .error sh := by
  unfold baseIndices at h
  dsimp only at h
  split at h
  · exact absurd h (readList_ne_refused _ _ sh)
  · split at h
    · split at h
      · rcases bind_eq_error h with h | ⟨len, -, h⟩
        · exact absurd h (readField_ne_refused _ _ sh)
        rcases bind_eq_error h with h | ⟨locations, -, h⟩
        · exact absurd h (readList_ne_refused _ _ sh)
        rcases bind_eq_error h with h | ⟨gaps, -, h⟩
        · exact absurd h (readList_ne_refused _ _ sh)
        exact ⟨_, Generate.strideOne_refused h⟩
      · cases h
    · split at h
      · rcases bind_eq_error h with h | ⟨len, -, h⟩
        · exact absurd h (readField_ne_refused _ _ sh)
        rcases bind_eq_error h with h | ⟨stride, -, h⟩
        · exact absurd h (readField_ne_refused _ _ sh)
        exact ⟨_, Generate.uniform_refused h⟩
      · cases h
    · cases h

theorem PatternFault.toFault_of_ne_refused {e : PatternFault} (h : ∀ sh, e ≠ .refused sh) :
    e.toFault = .configuration e.reason := by
  unfold PatternFault.toFault
  split
  · exact absurd rfl (h _)
  · rfl

/-! ## Building the pattern -/

namespace Pattern

theorem max?_indices (p : Pattern) : p.indices.max? = some p.maxIndex :=
  List.max?_eq_some_iff.mpr ⟨p.maxIndex_mem, p.le_maxIndex⟩

theorem ofIndices?_of_max? {xs : List Nat} {m : Nat} (h : xs.max? = some m)
    (hm : m + 1 < wordLimit) : ∃ p, ofIndices? xs = .ok p ∧ p.indices = xs := by
  unfold ofIndices?
  split
  · simp_all
  · rename_i m' h'
    rw [h] at h'
    cases h'
    rw [dif_pos hm]
    exact ⟨_, rfl, rfl⟩

theorem ofIndices?_ne_refused (xs : List Nat) (sh : Shortfall) :
    ofIndices? xs ≠ .error (.refused sh) := by
  unfold ofIndices?
  split
  · simp
  · split <;> simp

theorem maxIndex_of_shifted {p : Pattern} {base : List Nat} {delta count m : Nat}
    (hidx : p.indices = Generate.shiftedCopies base delta count) (hm : base.max? = some m)
    (hc : 0 < count) : p.maxIndex = m + (count - 1) * delta := by
  have h := Generate.max?_shiftedCopies delta hm hc
  rw [← hidx, max?_indices] at h
  exact Option.some.inj h

end Pattern

namespace Compiler

theorem compile_eq (c : Compiler) (a : Allocator) (spec : String) :
    c.compile a spec =
      (baseIndices a spec >>= fun b => Generate.repeatShifted a b c.delta c.repetitions) >>=
        Pattern.ofIndices? := rfl

theorem compile_eq_ok {c : Compiler} {spec : String} {p : Pattern}
    (h : c.compile a spec = .ok p) :
    ∃ b, baseIndices a spec = .ok b ∧ c.repetitions ≠ 0 ∧
      b.length * c.repetitions < wordLimit ∧
      a.reserve "pattern" (b.length * c.repetitions) = .ok () ∧
      Generate.firstOverflow b c.delta c.repetitions = none ∧
      p.indices = Generate.shiftedCopies b c.delta c.repetitions := by
  rw [compile_eq, bind_eq_ok] at h
  obtain ⟨l, hl, hp⟩ := h
  obtain ⟨b, hb, hr⟩ := bind_eq_ok.mp hl
  obtain ⟨h0, hlen, hres, hnone, rfl⟩ := Generate.repeatShifted_eq_ok.mp hr
  exact ⟨b, hb, h0, hlen, hres, hnone, Pattern.indices_of_ofIndices? hp⟩

theorem compile_refused {c : Compiler} {spec : String} {sh : Shortfall}
    (h : c.compile a spec = .error (.refused sh)) : ∃ n, a.reserve "pattern" n = .error sh := by
  rw [compile_eq] at h
  rcases bind_eq_error h with h | ⟨l, -, h⟩
  · rcases bind_eq_error h with h | ⟨b, -, h⟩
    · exact baseIndices_refused h
    · exact ⟨_, Generate.repeatShifted_refused h⟩
  · exact absurd h (Pattern.ofIndices?_ne_refused l sh)

end Compiler

/-- The compiler's checks are those of the repetition loop, in order; it builds the base repeated
with the delta, and its only fault that is no configuration fault is a refused index buffer. -/
theorem compile_contract (a : Allocator) (spec : String) (d : Nat) (c : Option Nat) :
    (let copies := match c with
      | some n => n
      | none => if 0 < d then 1024 else 1
    let result := ({ delta := d, count := c } : Compiler).compile a spec
    result = (baseIndices a spec >>= fun b => Generate.repeatLoop a b d copies) >>=
        Pattern.ofIndices? ∧
    ((∃ p, result = .ok p) ↔ ∃ b m, baseIndices a spec = .ok b ∧ b.max? = some m ∧
        1 ≤ copies ∧ b.length * copies ≤ wordMax ∧
        a.reserve "pattern" (b.length * copies) = .ok () ∧ m + (copies - 1) * d ≤ wordMax - 1) ∧
    (∀ p b m, result = .ok p → baseIndices a spec = .ok b → b.max? = some m →
        p.length = b.length * copies ∧ p.maxIndex = m + (copies - 1) * d ∧
        ∀ j < copies, ∀ k (hk : k < b.length),
          p.indices[j * b.length + k]? = some (b[k] + j * d)) ∧
    (∀ e, result = .error e →
        (e.toFault = .configuration e.reason ∧ ∀ sh, e ≠ .refused sh) ∨
        ∃ n r, e = .refused ⟨"pattern", min (n * elementBytes) wordMax, r⟩ ∧
          a.refusalFor n = some r ∧
          e.toFault = .allocation "pattern" (min (n * elementBytes) wordMax) r.message)) := by
  intro copies result
  have hrep : ({ delta := d, count := c } : Compiler).repetitions = copies := by
    cases c <;> rfl
  clear_value copies
  have hword := wordMax_add_one
  have hbig : 1 ≤ wordMax := by simp [wordMax_eq]
  refine ⟨?order, ?success, ?shape, ?faults⟩
  case order =>
    show Compiler.compile _ a spec = _
    rw [Compiler.compile_eq, hrep]
    simp only [Generate.repeatShifted_eq_repeatLoop]
  case success =>
    constructor
    · rintro ⟨p, hp⟩
      obtain ⟨b, hb, h0, hlen, hres, -, hidx⟩ := Compiler.compile_eq_ok hp
      rw [hrep] at h0 hlen hres hidx
      dsimp only at hidx
      -- The base is not empty: the pattern's largest index lies in one of its copies.
      obtain ⟨j, -, i, hi, -⟩ := Generate.mem_shiftedCopies.mp (hidx ▸ p.maxIndex_mem)
      obtain ⟨m, hm⟩ := Option.isSome_iff_exists.mp (List.isSome_max?_of_mem hi)
      have hmax := Pattern.maxIndex_of_shifted hidx hm (Nat.pos_of_ne_zero h0)
      have hlt := p.maxIndex_lt
      exact ⟨b, m, hb, hm, Nat.pos_of_ne_zero h0, by omega, hres, by omega⟩
    · rintro ⟨b, m, hb, hm, h1, hlen, hres, hfit⟩
      have hnone : Generate.firstOverflow b d copies = none :=
        (Generate.firstOverflow_eq_none_iff d hm h1).mpr (by omega)
      have hr : Generate.repeatShifted a b d copies = .ok (Generate.shiftedCopies b d copies) :=
        Generate.repeatShifted_eq_ok.mpr ⟨by omega, by omega, hres, hnone, rfl⟩
      obtain ⟨p, hp, -⟩ :=
        Pattern.ofIndices?_of_max? (Generate.max?_shiftedCopies d hm h1)
          (by omega)
      refine ⟨p, ?_⟩
      show Compiler.compile _ a spec = _
      rw [Compiler.compile_eq, hrep, hb, ok_bind, hr, ok_bind, hp]
  case shape =>
    intro p b m hp hb hm
    obtain ⟨b', hb', h0, -, -, -, hidx⟩ := Compiler.compile_eq_ok hp
    rw [hb] at hb'
    cases hb'
    rw [hrep] at h0 hidx
    dsimp only at hidx
    refine ⟨?_, Pattern.maxIndex_of_shifted hidx hm (Nat.pos_of_ne_zero h0), ?_⟩
    · rw [Pattern.length, hidx, Generate.length_shiftedCopies]
    · intro j hj k hk
      rw [hidx]
      exact Generate.getElem?_shiftedCopies b d hj hk
  case faults =>
    intro e he
    by_cases hr : ∃ sh, e = .refused sh
    · obtain ⟨sh, rfl⟩ := hr
      obtain ⟨n, hn⟩ := Compiler.compile_refused he
      obtain ⟨hsh, hlim⟩ := reserve_eq_error hn
      refine .inr ⟨n, sh.refusal, congrArg _ hsh, hlim, ?_⟩
      rw [hsh]
      rfl
    · have hne : ∀ sh, e ≠ .refused sh := fun sh h => hr ⟨sh, h⟩
      exact .inl ⟨PatternFault.toFault_of_ne_refused hne, hne⟩

end GatherScatter
