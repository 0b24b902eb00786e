import GatherScatter.Pattern.Generator

/-! # Repetition with a delta -/

namespace GatherScatter.Generate

/-! ## The loop as written -/

def copyChecked (base : List Nat) (delta j : Nat) : Except PatternFault (List Nat) :=
  if wordLimit ≤ j * delta then .error .offsetOverflow
  else base.mapM fun i =>
    if wordLimit ≤ i + j * delta then .error .indexOverflow else .ok (i + j * delta)

def copiesChecked (base : List Nat) (delta count : Nat) : Except PatternFault (List Nat) :=
  List.flatten <$> (List.range count).mapM (copyChecked base delta)

/-- The repetition with its checks in the order the loop makes them: the count, the total length,
the index buffer, then every copy in turn. -/
def repeatLoop (a : Allocator) (base : List Nat) (delta count : Nat) :
    Except PatternFault (List Nat) := do
  if count = 0 then throw .zeroCount
  if wordLimit ≤ base.length * count then throw .lengthOverflow
  match a.reserve "pattern" (base.length * count) with
  | .error s => throw (.refused s)
  | .ok () => pure ()
  copiesChecked base delta count

def copyFault (base : List Nat) (delta j : Nat) : Option PatternFault :=
  if wordLimit ≤ j * delta then some .offsetOverflow
  else if base.any (fun i => wordLimit ≤ i + j * delta) then some .indexOverflow
  else none

/-! ## The largest base index -/

theorem le_foldl_max (xs : List Nat) (acc : Nat) :
    acc ≤ xs.foldl max acc ∧ ∀ i ∈ xs, i ≤ xs.foldl max acc := by
  induction xs generalizing acc with
  | nil => simp
  | cons x xs ih =>
    obtain ⟨hacc, hall⟩ := ih (max acc x)
    refine ⟨by simp only [List.foldl_cons] at hacc ⊢; omega, ?_⟩
    intro i hi
    rcases List.mem_cons.mp hi with rfl | hi
    · simp only [List.foldl_cons] at hacc ⊢; omega
    · exact hall i hi

theorem foldl_max_mem (xs : List Nat) (acc : Nat) :
    xs.foldl max acc = acc ∨ xs.foldl max acc ∈ xs := by
  induction xs generalizing acc with
  | nil => simp
  | cons x xs ih =>
    rcases ih (max acc x) with h | h
    · simp only [List.foldl_cons, h, List.mem_cons]
      omega
    · exact .inr (List.mem_cons_of_mem _ h)

theorem foldl_max_of_max? {xs : List Nat} {m : Nat} (h : xs.max? = some m) :
    xs.foldl max 0 = m := by
  obtain ⟨hm, hle⟩ := List.max?_eq_some_iff.mp h
  have hge := (le_foldl_max xs 0).2 m hm
  rcases foldl_max_mem xs 0 with h0 | hmem
  · have := hle m hm
    omega
  · have := hle _ hmem
    omega

theorem any_overflow_iff (base : List Nat) {s : Nat} (hs : s < wordLimit) :
    base.any (fun i => wordLimit ≤ i + s) = true ↔ wordLimit ≤ base.foldl max 0 + s := by
  simp only [List.any_eq_true, decide_eq_true_eq]
  constructor
  · rintro ⟨i, hi, hle⟩
    have := (le_foldl_max base 0).2 i hi
    omega
  · intro h
    rcases foldl_max_mem base 0 with h0 | hmem
    · omega
    · exact ⟨_, hmem, h⟩

/-! ## The closed form is the scan over the copies -/

theorem copyFault_eq (base : List Nat) (delta j : Nat) :
    copyFault base delta j =
      if wordLimit ≤ j * delta then some .offsetOverflow
      else if wordLimit ≤ base.foldl max 0 + j * delta then some .indexOverflow else none := by
  unfold copyFault
  by_cases h : wordLimit ≤ j * delta
  · simp [h]
  · simp only [h, if_false, any_overflow_iff base (Nat.lt_of_not_le h)]

theorem ceilDiv_le_iff (x c : Nat) {d : Nat} (hd : 0 < d) : (x + d - 1) / d ≤ c ↔ x ≤ c * d := by
  rw [Nat.div_le_iff_le_mul_add_pred hd, Nat.mul_comm]
  omega

theorem firstOverflow_eq_findSome (base : List Nat) (delta count : Nat) :
    firstOverflow base delta count = (List.range count).findSome? (copyFault base delta) := by
  induction count with
  | zero => unfold firstOverflow; split <;> simp
  | succ c ih =>
    rw [List.range_succ, List.findSome?_append, ← ih, List.findSome?_singleton, copyFault_eq]
    unfold firstOverflow
    by_cases hd : delta = 0
    · -- Every copy is the base itself: the first one fails or none does.
      subst hd
      have hw : wordLimit ≠ 0 := by simp [wordLimit]
      by_cases ht : wordLimit ≤ base.foldl max 0 <;> by_cases hc : 0 < c <;> simp [hw, ht, hc]
    · have hpos : 0 < delta := Nat.pos_of_ne_zero hd
      simp only [hd, if_false]
      generalize base.foldl max 0 = top
      -- `fi` is the first copy whose largest index overflows, `fo` the first whose shift does.
      have hfi := ceilDiv_le_iff (wordLimit - top) c hpos
      have hfo := ceilDiv_le_iff wordLimit c hpos
      generalize (wordLimit - top + delta - 1) / delta = fi at hfi ⊢
      generalize (wordLimit + delta - 1) / delta = fo at hfo ⊢
      rcases Nat.lt_trichotomy fi c with h | rfl | h
      · simp [h, Nat.lt_succ_of_lt h]
      · by_cases hw : wordLimit ≤ fi * delta
        · simp [hw, show ¬ fi < fo by omega]
        · simp [hw, show fi < fo by omega, show wordLimit ≤ top + fi * delta by omega]
      · simp [show ¬ fi < c + 1 by omega, show ¬ fi < c by omega,
          show ¬ wordLimit ≤ c * delta by omega, show ¬ wordLimit ≤ top + c * delta by omega]

theorem firstOverflow_range {base : List Nat} {delta count : Nat} {f : PatternFault}
    (h : firstOverflow base delta count = some f) : f = .indexOverflow ∨ f = .offsetOverflow := by
  rw [firstOverflow_eq_findSome] at h
  obtain ⟨j, -, hj⟩ := List.exists_of_findSome?_eq_some h
  unfold copyFault at hj
  split at hj
  · cases hj; exact .inr rfl
  · split at hj
    · cases hj; exact .inl rfl
    · cases hj

theorem mapM_shift (base : List Nat) (s : Nat) :
    base.mapM (fun i => if wordLimit ≤ i + s then Except.error PatternFault.indexOverflow
      else .ok (i + s)) =
      if base.any (fun i => wordLimit ≤ i + s) then .error .indexOverflow
      else .ok (base.map (· + s)) := by
  induction base with
  | nil => rfl
  | cons i is ih =>
    by_cases h : wordLimit ≤ i + s
    · simp [h]; rfl
    · simp [h, ih]
      split <;> rfl

theorem copyChecked_eq (base : List Nat) (delta j : Nat) :
    copyChecked base delta j =
      (copyFault base delta j).elim (.ok (base.map (· + j * delta))) .error := by
  unfold copyChecked copyFault
  rw [mapM_shift]
  split
  · rfl
  · split <;> rfl

theorem mapM_guarded {α β ε : Type} (g : α → Option ε) (h : α → β) (xs : List α) :
    xs.mapM (fun a => (g a).elim (Except.ok (h a)) Except.error) =
      (xs.findSome? g).elim (Except.ok (xs.map h)) Except.error := by
  induction xs with
  | nil => rfl
  | cons a as ih =>
    cases hg : g a with
    | some e => simp [hg]; rfl
    | none =>
      simp only [List.mapM_cons, hg, ih, List.findSome?_cons]
      cases as.findSome? g <;> rfl

theorem copiesChecked_eq (base : List Nat) (delta count : Nat) :
    copiesChecked base delta count =
      (firstOverflow base delta count).elim (.ok (shiftedCopies base delta count)) .error := by
  unfold copiesChecked shiftedCopies
  rw [funext (copyChecked_eq base delta), mapM_guarded, firstOverflow_eq_findSome]
  cases (List.range count).findSome? (copyFault base delta) <;> rfl

/-- The repetition computes what the loop computes, the same first fault included. -/
theorem repeatShifted_eq_repeatLoop (a : Allocator) (base : List Nat) (delta count : Nat) :
    repeatShifted a base delta count = repeatLoop a base delta count := by
  unfold repeatShifted repeatLoop
  rw [copiesChecked_eq]
  cases firstOverflow base delta count <;> rfl

/-! ## What the copies hold -/

theorem mem_shiftedCopies {base : List Nat} {delta count x : Nat} :
    x ∈ shiftedCopies base delta count ↔ ∃ j < count, ∃ i ∈ base, x = i + j * delta := by
  simp [shiftedCopies, eq_comm]

theorem shiftedCopies_succ (base : List Nat) (delta count : Nat) :
    shiftedCopies base delta (count + 1) =
      shiftedCopies base delta count ++ base.map (· + count * delta) := by
  simp [shiftedCopies, List.range_succ]

theorem length_shiftedCopies (base : List Nat) (delta count : Nat) :
    (shiftedCopies base delta count).length = base.length * count := by
  induction count with
  | zero => rfl
  | succ c ih => rw [shiftedCopies_succ, List.length_append, ih, List.length_map, Nat.mul_succ]

theorem getElem?_shiftedCopies (base : List Nat) (delta : Nat) {count j k : Nat}
    (hj : j < count) (hk : k < base.length) :
    (shiftedCopies base delta count)[j * base.length + k]? = some (base[k] + j * delta) := by
  induction count with
  | zero => omega
  | succ c ih =>
    have hlen : (shiftedCopies base delta c).length = c * base.length := by
      rw [length_shiftedCopies, Nat.mul_comm]
    rw [shiftedCopies_succ]
    rcases Nat.lt_succ_iff_lt_or_eq.mp hj with hj | rfl
    · -- An earlier copy: the index lies in the copies before the last.
      have := Nat.mul_le_mul_right base.length (Nat.succ_le_of_lt hj)
      rw [Nat.succ_mul] at this
      rw [List.getElem?_append_left (by omega), ih hj]
    · rw [List.getElem?_append_right (by omega), hlen, Nat.add_sub_cancel_left]
      simp [hk]

theorem max?_shiftedCopies {base : List Nat} (delta : Nat) {count m : Nat} (hm : base.max? = some m)
    (hc : 0 < count) : (shiftedCopies base delta count).max? = some (m + (count - 1) * delta) := by
  obtain ⟨hmem, hle⟩ := List.max?_eq_some_iff.mp hm
  rw [List.max?_eq_some_iff]
  refine ⟨mem_shiftedCopies.mpr ⟨count - 1, by omega, m, hmem, rfl⟩, ?_⟩
  intro x hx
  obtain ⟨j, hj, i, hi, rfl⟩ := mem_shiftedCopies.mp hx
  have := hle i hi
  have := Nat.mul_le_mul_right delta (show j ≤ count - 1 by omega)
  omega

theorem firstOverflow_eq_none_iff {base : List Nat} (delta : Nat) {count m : Nat}
    (hm : base.max? = some m) (hc : 0 < count) :
    firstOverflow base delta count = none ↔ m + (count - 1) * delta < wordLimit := by
  rw [firstOverflow_eq_findSome, List.findSome?_eq_none_iff]
  simp only [List.mem_range, copyFault_eq, foldl_max_of_max? hm]
  constructor
  · intro h
    have := h (count - 1) (by omega)
    split at this
    · simp at this
    · split at this
      · simp at this
      · omega
  · intro h j hj
    have := Nat.mul_le_mul_right delta (show j ≤ count - 1 by omega)
    simp [show ¬ wordLimit ≤ j * delta by omega, show ¬ wordLimit ≤ m + j * delta by omega]

end GatherScatter.Generate
