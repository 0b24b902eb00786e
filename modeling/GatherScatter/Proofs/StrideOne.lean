import GatherScatter.Proofs.Compile
import Mathlib

/-! # Mostly stride one -/

namespace GatherScatter.Generate

/-! ## The loop as written -/

def nextIf (ahead : List (Nat × Nat)) (i : Nat) : Nat × List (Nat × Nat) :=
  match ahead with
  | (l, g) :: rest => if l = i then (g, rest) else (1, ahead)
  | [] => (1, [])

/-- The state of the loop: the breaks still ahead of the cursor, the last index, and the indices
so far. -/
structure Scan where
  ahead : List (Nat × Nat)
  last : Nat
  out : List Nat

def Scan.step (s : Scan) (i : Nat) : Except PatternFault Scan :=
  let (step, ahead) := nextIf s.ahead i
  if wordLimit ≤ s.last + step then .error .strideOneOverflow
  else .ok ⟨ahead, s.last + step, s.out ++ [s.last + step]⟩

def sortedBreaks (locations gaps : List Nat) : List (Nat × Nat) :=
  (pairGaps locations gaps).mergeSort (fun a b => a.1 ≤ b.1)

def breaksChecked (a : Allocator) (len : Nat) (locations gaps : List Nat) :
    Except PatternFault (List (Nat × Nat)) := do
  if len = 0 then throw .strideOneEmpty
  if locations = [] then throw .noGapLocation
  if gaps.length ≠ 1 ∧ gaps.length ≠ locations.length then
    throw (.gapCount locations.length gaps.length)
  let breaks := sortedBreaks locations gaps
  if let some l := firstRepeat? breaks then throw (.repeatedLocation l)
  if let some b := breaks.find? (fun b => b.1 = 0 || len ≤ b.1) then
    throw (.locationOutOfRange b.1 len)
  match a.reserve "pattern" len with
  | .error s => throw (.refused s)
  | .ok () => pure breaks

def strideOneLoop (a : Allocator) (len : Nat) (locations gaps : List Nat) :
    Except PatternFault (List Nat) := do
  let breaks ← breaksChecked a len locations gaps
  let s ← (List.range' 1 (len - 1)).foldlM Scan.step ⟨breaks, 0, [0]⟩
  pure s.out

theorem strideOne_eq (a : Allocator) (len : Nat) (locations gaps : List Nat) :
    strideOne a len locations gaps = breaksChecked a len locations gaps >>= fun breaks =>
      if wordLimit ≤ (len - 1 - breaks.length) + (breaks.map (·.2)).sum then
        .error .strideOneOverflow
      else .ok (runningSums 0 (stepsFrom breaks 1 (len - 1))) := by
  unfold strideOne breaksChecked
  by_cases h0 : len = 0
  · simp [h0]
  by_cases hl : locations = []
  · simp [h0, hl]
  by_cases hg : gaps.length ≠ 1 ∧ gaps.length ≠ locations.length
  · simp [h0, hl, hg]
  simp only [h0, hl, hg, if_false]
  cases hr : firstRepeat? (sortedBreaks locations gaps) with
  | some l => simp [sortedBreaks] at hr; simp [hr]
  | none =>
    simp only [sortedBreaks] at hr
    simp only [hr]
    cases hf : (sortedBreaks locations gaps).find? (fun b => b.1 = 0 || len ≤ b.1) with
    | some b => simp only [sortedBreaks] at hf; simp [hf]
    | none =>
      simp only [sortedBreaks] at hf
      simp only [hf]
      cases a.reserve "pattern" len <;> rfl

/-! ## What the arguments prescribe -/

def gapAt (locations gaps : List Nat) (i : Nat) : Nat :=
  if i ∈ locations then
    if gaps.length = 1 then gaps.getD 0 0 else gaps.getD (locations.idxOf i) 0
  else 1

/-- Arguments that pass every check made before the indices are built. -/
structure Admissible (a : Allocator) (len : Nat) (locations gaps : List Nat) : Prop where
  pos : 0 < len
  located : locations ≠ []
  paired : gaps.length = 1 ∨ gaps.length = locations.length
  distinct : locations.Nodup
  inRange : ∀ l ∈ locations, 0 < l ∧ l < len
  granted : a.reserve "pattern" len = .ok ()

/-- The steps `f` that breaks prescribe, the breaks strictly increasing in location: each break's
gap at its location, and one elsewhere. -/
structure Prescribes (bs : List (Nat × Nat)) (f : Nat → Nat) : Prop where
  sorted : bs.Pairwise (fun a b => a.1 < b.1)
  gap : ∀ b ∈ bs, f b.1 = b.2
  unit : ∀ j, (∀ b ∈ bs, b.1 ≠ j) → f j = 1

section Breaks

variable {a : Allocator} {locations gaps : List Nat}

theorem keys_pairGaps (h : gaps.length = 1 ∨ gaps.length = locations.length) :
    (pairGaps locations gaps).map (·.1) = locations := by
  unfold pairGaps
  split
  · simp [Function.comp_def]
  · rename_i hne
    have hlen : gaps.length = locations.length := by
      rcases h with h | h
      · obtain ⟨g, rfl⟩ := List.length_eq_one_iff.mp h
        exact absurd rfl (hne g)
      · exact h
    exact List.map_fst_zip (by omega)

theorem perm_keys_sortedBreaks (h : gaps.length = 1 ∨ gaps.length = locations.length) :
    ((sortedBreaks locations gaps).map (·.1)).Perm locations := by
  have hkeys := ((List.mergeSort_perm (pairGaps locations gaps) fun a b => a.1 ≤ b.1).map (·.1))
  rwa [keys_pairGaps h] at hkeys

theorem pairwise_sortedBreaks (locations gaps : List Nat) :
    (sortedBreaks locations gaps).Pairwise (fun a b => a.1 ≤ b.1) :=
  List.pairwise_mergeSort' (fun a b : Nat × Nat => a.1 ≤ b.1) _

theorem firstRepeat?_eq_none_iff {bs : List (Nat × Nat)} (h : bs.Pairwise (fun a b => a.1 ≤ b.1)) :
    firstRepeat? bs = none ↔ (bs.map (·.1)).Nodup := by
  induction bs with
  | nil => simp [firstRepeat?]
  | cons a rest ih =>
    cases rest with
    | nil => simp [firstRepeat?]
    | cons b rest =>
      obtain ⟨ha, hrest⟩ := List.pairwise_cons.mp h
      have hb : ∀ c ∈ rest, b.1 ≤ c.1 := (List.pairwise_cons.mp hrest).1
      by_cases hab : a.1 = b.1
      · simp [firstRepeat?, hab]
      · -- `a` comes strictly before `b`, so before every later break.
        have hnot : a.1 ∉ (b :: rest).map (·.1) := by
          simp only [List.map_cons, List.mem_cons, List.mem_map, not_or, not_exists, not_and]
          refine ⟨hab, fun c hc hca => ?_⟩
          have := ha c (List.mem_cons_of_mem _ hc)
          have := hb c hc
          have := ha b List.mem_cons_self
          omega
        rw [show firstRepeat? (a :: b :: rest) = firstRepeat? (b :: rest) by
            simp [firstRepeat?, hab], ih hrest]
        show _ ↔ (a.1 :: (b :: rest).map (·.1)).Nodup
        rw [List.nodup_cons]
        exact ⟨fun hn => ⟨hnot, hn⟩, fun hn => hn.2⟩

theorem pairwise_lt_of_nodup {bs : List (Nat × Nat)} (h : bs.Pairwise (fun a b => a.1 ≤ b.1))
    (hn : (bs.map (·.1)).Nodup) : bs.Pairwise (fun a b => a.1 < b.1) :=
  (h.and (List.pairwise_map.mp hn)).imp fun hab => Nat.lt_of_le_of_ne hab.1 hab.2

theorem find?_eq_none_iff {bs : List (Nat × Nat)} {len : Nat} :
    bs.find? (fun b => b.1 = 0 || len ≤ b.1) = none ↔ ∀ b ∈ bs, 0 < b.1 ∧ b.1 < len := by
  simp only [List.find?_eq_none, Bool.or_eq_true, decide_eq_true_eq, not_or]
  exact forall₂_congr fun _ _ => by omega

theorem prescribes_sortedBreaks (hp : gaps.length = 1 ∨ gaps.length = locations.length)
    (hd : locations.Nodup) : Prescribes (sortedBreaks locations gaps) (gapAt locations gaps) := by
  have hperm := perm_keys_sortedBreaks hp
  have hmem : ∀ b, b ∈ sortedBreaks locations gaps ↔ b ∈ pairGaps locations gaps :=
    fun b => (List.mergeSort_perm _ _).mem_iff
  refine ⟨pairwise_lt_of_nodup (pairwise_sortedBreaks _ _) (hperm.nodup_iff.mpr hd), ?_, ?_⟩
  · intro b hb
    rw [hmem] at hb
    unfold pairGaps at hb
    split at hb
    · obtain ⟨l, hl, rfl⟩ := List.mem_map.mp hb
      simp [gapAt, hl]
    · rename_i g hne
      obtain ⟨n, hn, rfl⟩ := List.mem_iff_getElem.mp hb
      have hnl : n < locations.length := by simp at hn; omega
      have hng : n < gaps.length := by simp at hn; omega
      have h1 : gaps.length ≠ 1 := fun h1 => by
        obtain ⟨g, rfl⟩ := List.length_eq_one_iff.mp h1
        exact hne g rfl
      simp only [List.getElem_zip, gapAt, List.getElem_mem, if_true, h1, if_false,
        List.Nodup.idxOf_getElem hd n hnl, List.getD_eq_getElem gaps 0 hng]
  · intro j hj
    have hjl : j ∉ locations := by
      rw [← hperm.mem_iff]
      simp only [List.mem_map, not_exists, not_and]
      exact fun b hb hbj => hj b hb hbj
    simp [gapAt, hjl]

theorem breaksChecked_eq_ok_iff {len : Nat} {bs : List (Nat × Nat)} :
    breaksChecked a len locations gaps = .ok bs ↔
      Admissible a len locations gaps ∧ bs = sortedBreaks locations gaps := by
  -- Each check reads as a property of the locations, through the sorted breaks' locations.
  have hdistinct : (gaps.length = 1 ∨ gaps.length = locations.length) →
      (firstRepeat? (sortedBreaks locations gaps) = none ↔ locations.Nodup) := fun hp => by
    rw [firstRepeat?_eq_none_iff (pairwise_sortedBreaks _ _), (perm_keys_sortedBreaks hp).nodup_iff]
  have hrange : (gaps.length = 1 ∨ gaps.length = locations.length) →
      ((sortedBreaks locations gaps).find? (fun b => b.1 = 0 || len ≤ b.1) = none ↔
        ∀ l ∈ locations, 0 < l ∧ l < len) := fun hp => by
    rw [find?_eq_none_iff]
    have hkeys := fun l : Nat => @List.Perm.mem_iff _ l _ _ (perm_keys_sortedBreaks hp)
    constructor
    · intro h l hl
      obtain ⟨b, hb, rfl⟩ := List.mem_map.mp ((hkeys l).mpr hl)
      exact h b hb
    · intro h b hb
      exact h b.1 ((hkeys b.1).mp (List.mem_map_of_mem hb))
  unfold breaksChecked
  constructor
  · intro h
    by_cases h0 : len = 0
    · simp [h0] at h
    by_cases hl : locations = []
    · simp [h0, hl] at h
    by_cases hg : gaps.length ≠ 1 ∧ gaps.length ≠ locations.length
    · simp [h0, hl, hg] at h
    have hp : gaps.length = 1 ∨ gaps.length = locations.length := by omega
    simp only [h0, hl, hg, if_false, throw_bind] at h
    cases hr : firstRepeat? (sortedBreaks locations gaps) with
    | some l => simp [hr] at h
    | none =>
      cases hf : (sortedBreaks locations gaps).find? (fun b => b.1 = 0 || len ≤ b.1) with
      | some b => simp [hr, hf] at h
      | none =>
        cases hres : a.reserve "pattern" len with
        | error e => simp [hr, hf, hres] at h
        | ok u =>
          simp only [hr, hf, hres] at h
          exact ⟨⟨Nat.pos_of_ne_zero h0, hl, hp, (hdistinct hp).mp hr, (hrange hp).mp hf, hres⟩,
            (Except.ok.inj h).symm⟩
  · rintro ⟨hadm, rfl⟩
    have hr := (hdistinct hadm.paired).mpr hadm.distinct
    have hf := (hrange hadm.paired).mpr hadm.inRange
    have hg : ¬(gaps.length ≠ 1 ∧ gaps.length ≠ locations.length) := by
      have := hadm.paired
      omega
    simp only [Nat.pos_iff_ne_zero.mp hadm.pos, hadm.located, hg, if_false, throw_bind, hr, hf,
      hadm.granted]
    rfl

end Breaks

/-! ## Running sums -/

theorem length_runningSums (acc : Nat) (ss : List Nat) :
    (runningSums acc ss).length = ss.length + 1 := by
  induction ss generalizing acc with
  | nil => rfl
  | cons s ss ih => simp [runningSums, ih]

theorem eq_runningSums_iff {v : List Nat} {acc : Nat} {ss : List Nat} :
    v = runningSums acc ss ↔ v.length = ss.length + 1 ∧ v[0]? = some acc ∧
      ∀ k (hk : k < ss.length), v[k + 1]? = v[k]?.map (· + ss[k]) := by
  induction ss generalizing acc v with
  | nil =>
    constructor
    · rintro rfl
      simp [runningSums]
    · rintro ⟨hlen, h0, -⟩
      obtain ⟨x, rfl⟩ := List.length_eq_one_iff.mp hlen
      simp only [List.getElem?_cons_zero, Option.some.injEq] at h0
      rw [h0]
      rfl
  | cons s ss ih =>
    constructor
    · rintro rfl
      refine ⟨length_runningSums _ _, rfl, fun k hk => ?_⟩
      cases k with
      | zero => cases ss <;> rfl
      | succ k =>
        have := (@ih (runningSums (acc + s) ss) (acc + s)).mp rfl |>.2.2 k (by simp at hk; omega)
        simpa [runningSums] using this
    · rintro ⟨hlen, h0, hstep⟩
      obtain ⟨x, w, rfl⟩ := List.exists_cons_of_length_eq_add_one hlen
      simp only [List.getElem?_cons_zero, Option.some.injEq] at h0
      subst h0
      -- The rest starts one step on, and takes the remaining steps.
      have hw : w = runningSums (x + s) ss := by
        refine ih.mpr ⟨by simpa using hlen, ?_, fun k hk => ?_⟩
        · have h := hstep 0 (by simp)
          rw [List.getElem_cons_zero] at h
          simpa using h
        · have h := hstep (k + 1) (by simp; omega)
          rw [List.getElem_cons_succ] at h
          simpa using h
      rw [hw]
      rfl

theorem eq_runningSums_steps_iff (f : Nat → Nat) {len : Nat} (hlen : 0 < len) (v : List Nat) :
    v = runningSums 0 ((List.range' 1 (len - 1)).map f) ↔
      v.length = len ∧ v[0]? = some 0 ∧
        ∀ k, k + 1 < len → v[k + 1]? = v[k]?.map (· + f (k + 1)) := by
  rw [eq_runningSums_iff]
  simp only [List.length_map, List.length_range', List.getElem_map, List.getElem_range',
    Nat.one_mul, Nat.add_comm 1]
  constructor
  · rintro ⟨hl, h0, hk⟩
    exact ⟨by omega, h0, fun k hk' => hk k (by omega)⟩
  · rintro ⟨hl, h0, hk⟩
    exact ⟨by omega, h0, fun k hk' => hk k (by omega)⟩

theorem runningSums_concat (acc : Nat) (ss : List Nat) (x : Nat) :
    runningSums acc (ss ++ [x]) = runningSums acc ss ++ [acc + ss.sum + x] := by
  induction ss generalizing acc with
  | nil => rfl
  | cons s ss ih =>
    simp only [List.cons_append, runningSums, ih, List.sum_cons, List.cons.injEq, true_and]
    congr 2
    omega

theorem bounds_of_mem_runningSums {acc x : Nat} {ss : List Nat} (h : x ∈ runningSums acc ss) :
    acc ≤ x ∧ x ≤ acc + ss.sum := by
  induction ss generalizing acc with
  | nil =>
    simp only [runningSums, List.mem_singleton] at h
    omega
  | cons s ss ih =>
    simp only [runningSums, List.mem_cons] at h
    rcases h with rfl | h
    · simp
    · have := ih h
      simp only [List.sum_cons]
      omega

theorem pairwise_runningSums (acc : Nat) (ss : List Nat) :
    (runningSums acc ss).Pairwise (· ≤ ·) := by
  induction ss generalizing acc with
  | nil => simp [runningSums]
  | cons s ss ih =>
    refine List.pairwise_cons.mpr ⟨fun x hx => ?_, ih _⟩
    have := (bounds_of_mem_runningSums hx).1
    omega

theorem getLast?_runningSums (acc : Nat) (ss : List Nat) :
    (runningSums acc ss).getLast? = some (acc + ss.sum) := by
  induction ss generalizing acc with
  | nil => simp [runningSums]
  | cons s ss ih =>
    cases ss with
    | nil => simp [runningSums]
    | cons t ss =>
      rw [show runningSums acc (s :: t :: ss) = acc :: runningSums (acc + s) (t :: ss) from rfl,
        List.getLast?_cons, ih]
      simp [Nat.add_assoc]

theorem max?_runningSums (acc : Nat) (ss : List Nat) :
    (runningSums acc ss).max? = some (acc + ss.sum) :=
  List.max?_eq_some_iff.mpr ⟨List.mem_of_getLast? (getLast?_runningSums acc ss),
    fun _ hx => (bounds_of_mem_runningSums hx).2⟩

/-! ## The steps between positions -/

section Steps

variable {f : Nat → Nat}

theorem stepsFrom_eq_map {bs : List (Nat × Nat)} {i n : Nat}
    (hs : bs.Pairwise (fun a b => a.1 < b.1)) (hin : ∀ b ∈ bs, i ≤ b.1 ∧ b.1 < i + n)
    (hgap : ∀ b ∈ bs, f b.1 = b.2)
    (hunit : ∀ j, i ≤ j → j < i + n → (∀ b ∈ bs, b.1 ≠ j) → f j = 1) :
    stepsFrom bs i n = (List.range' i n).map f := by
  induction n generalizing bs i with
  | zero => rfl
  | succ n ih =>
    cases bs with
    | nil =>
      symm
      rw [stepsFrom, List.eq_replicate_iff]
      refine ⟨by simp, fun x hx => ?_⟩
      obtain ⟨j, hj, rfl⟩ := List.mem_map.mp hx
      rw [List.mem_range'_1] at hj
      exact hunit j hj.1 hj.2 (by simp)
    | cons b bs =>
      obtain ⟨l, g⟩ := b
      obtain ⟨hb, hrest⟩ := List.pairwise_cons.mp hs
      have hl := hin (l, g) List.mem_cons_self
      rw [stepsFrom, List.range'_succ, List.map_cons]
      by_cases hli : l = i
      · -- The cursor's head sits at `i`: its gap is the step, and the rest lie beyond.
        subst hli
        rw [if_pos rfl, hgap _ List.mem_cons_self]
        congr 1
        refine ih hrest (fun c hc => ?_) (fun c hc => hgap c (List.mem_cons_of_mem _ hc))
          (fun j hj hjn hne => hunit j (by omega) (by omega) ?_)
        · have := hb c hc
          have := hin c (List.mem_cons_of_mem _ hc)
          omega
        · intro c hc
          rcases List.mem_cons.mp hc with rfl | hc
          · simp only [ne_eq]
            omega
          · exact hne c hc
      · -- No break sits at `i`: the step is one, and every break lies beyond.
        have hfree : f i = 1 := hunit i le_rfl (by omega) fun c hc => by
          rcases List.mem_cons.mp hc with rfl | hc
          · exact hli
          · have := hb c hc
            omega
        rw [if_neg hli, hfree]
        congr 1
        refine ih hs (fun c hc => ?_) hgap (fun j hj hjn hne => hunit j (by omega) (by omega) hne)
        rcases List.mem_cons.mp hc with rfl | hc
        · omega
        · have := hb c hc
          have := hin c (List.mem_cons_of_mem _ hc)
          omega

theorem sum_stepsFrom {bs : List (Nat × Nat)} {i n : Nat}
    (hs : bs.Pairwise (fun a b => a.1 < b.1)) (hin : ∀ b ∈ bs, i ≤ b.1 ∧ b.1 < i + n) :
    (stepsFrom bs i n).sum + bs.length = n + (bs.map (·.2)).sum ∧ bs.length ≤ n := by
  induction n generalizing bs i with
  | zero =>
    cases bs with
    | nil => simp [stepsFrom]
    | cons b bs =>
      have := hin b List.mem_cons_self
      omega
  | succ n ih =>
    cases bs with
    | nil => simp [stepsFrom]
    | cons b bs =>
      obtain ⟨l, g⟩ := b
      obtain ⟨hb, hrest⟩ := List.pairwise_cons.mp hs
      have hl := hin (l, g) List.mem_cons_self
      by_cases hli : l = i
      · subst hli
        obtain ⟨hsum, hlen⟩ := @ih bs (l + 1) hrest fun c hc => by
          have := hb c hc
          have := hin c (List.mem_cons_of_mem _ hc)
          omega
        rw [stepsFrom, if_pos rfl]
        simp only [List.sum_cons, List.length_cons, List.map_cons]
        omega
      · obtain ⟨hsum, hlen⟩ := @ih ((l, g) :: bs) (i + 1) hs fun c hc => by
          rcases List.mem_cons.mp hc with rfl | hc
          · omega
          · have := hb c hc
            have := hin c (List.mem_cons_of_mem _ hc)
            omega
        rw [stepsFrom, if_neg hli]
        simp only [List.sum_cons, List.length_cons, List.map_cons] at hsum hlen ⊢
        omega

end Steps

/-! ## The cursor -/

theorem nextIf_filter {bs : List (Nat × Nat)} {k step : Nat}
    (hs : bs.Pairwise (fun a b => a.1 < b.1)) (hgap : ∀ b ∈ bs, b.1 = k + 1 → b.2 = step)
    (hunit : (∀ b ∈ bs, b.1 ≠ k + 1) → step = 1) :
    nextIf (bs.filter (fun b => k < b.1)) (k + 1) = (step, bs.filter (fun b => k + 1 < b.1)) := by
  induction bs with
  | nil => simp [nextIf, hunit]
  | cons b bs ih =>
    obtain ⟨l, g⟩ := b
    obtain ⟨hb, hrest⟩ := List.pairwise_cons.mp hs
    -- Every later break lies beyond the head.
    have hall : ∀ m, m ≤ l → bs.filter (fun b => m < b.1) = bs := fun m hm =>
      List.filter_eq_self.mpr fun c hc => by
        have := hb c hc
        simp only [decide_eq_true_eq]
        omega
    rcases Nat.lt_trichotomy l (k + 1) with hlt | heq | hgt
    · have h1 : ¬k < l := by omega
      have h2 : ¬k + 1 < l := by omega
      simp only [List.filter_cons, h1, h2, decide_false, Bool.false_eq_true, if_false]
      refine ih hrest (fun c hc => hgap c (List.mem_cons_of_mem _ hc)) fun hne => hunit ?_
      intro c hc
      rcases List.mem_cons.mp hc with rfl | hc
      · simp only [ne_eq]
        omega
      · exact hne c hc
    · subst heq
      have hstep : g = step := hgap (k + 1, g) List.mem_cons_self rfl
      simp only [List.filter_cons, Nat.lt_add_one, decide_true, if_true, Nat.lt_irrefl,
        decide_false, Bool.false_eq_true, if_false, hall k (by omega), hall (k + 1) le_rfl, nextIf,
        hstep]
    · have h1 : k < l := by omega
      have hone : step = 1 := hunit fun c hc => by
        rcases List.mem_cons.mp hc with rfl | hc
        · simp only [ne_eq]
          omega
        · have := hb c hc
          omega
      simp only [List.filter_cons, h1, hgt, decide_true, if_true, hall k (by omega),
        hall (k + 1) (by omega), nextIf, if_neg (Nat.ne_of_gt hgt), hone]

def Scan.after (bs : List (Nat × Nat)) (f : Nat → Nat) (k : Nat) : Scan :=
  ⟨bs.filter (fun b => k < b.1), ((List.range' 1 k).map f).sum,
    runningSums 0 ((List.range' 1 k).map f)⟩

section Loop

variable {bs : List (Nat × Nat)} {f : Nat → Nat}

theorem map_range'_succ (f : Nat → Nat) (k : Nat) :
    (List.range' 1 (k + 1)).map f = (List.range' 1 k).map f ++ [f (k + 1)] := by
  rw [List.range'_concat, List.map_append, List.map_singleton, Nat.one_mul, Nat.add_comm 1 k]

theorem Scan.step_after (h : Prescribes bs f) (k : Nat) :
    (Scan.after bs f k).step (k + 1) =
      if wordLimit ≤ ((List.range' 1 (k + 1)).map f).sum then .error .strideOneOverflow
      else .ok (Scan.after bs f (k + 1)) := by
  have hcursor := @nextIf_filter bs k (f (k + 1)) h.sorted
    (fun b hb hbk => hbk ▸ (h.gap b hb).symm) (h.unit (k + 1))
  unfold Scan.step Scan.after
  rw [hcursor, map_range'_succ, List.sum_append, List.sum_singleton, runningSums_concat,
    Nat.zero_add]

theorem sum_map_range'_le (f : Nat → Nat) {a b : Nat} (h : a ≤ b) :
    ((List.range' 1 a).map f).sum ≤ ((List.range' 1 b).map f).sum := by
  obtain ⟨c, rfl⟩ := Nat.exists_eq_add_of_le h
  rw [← List.range'_append_1, List.map_append, List.sum_append]
  omega

theorem Scan.foldlM_after (h : Prescribes bs f) {k : Nat}
    (hk : ((List.range' 1 k).map f).sum < wordLimit) (n : Nat) :
    (List.range' (k + 1) n).foldlM Scan.step (Scan.after bs f k) =
      if wordLimit ≤ ((List.range' 1 (k + n)).map f).sum then .error .strideOneOverflow
      else .ok (Scan.after bs f (k + n)) := by
  induction n generalizing k with
  | zero => simp [Nat.not_le.mpr hk, pure, Except.pure]
  | succ n ih =>
    rw [List.range'_succ, List.foldlM_cons, Scan.step_after h]
    by_cases hover : wordLimit ≤ ((List.range' 1 (k + 1)).map f).sum
    · -- This pass overflows, and so does the last sum, which is no smaller.
      have hlast := sum_map_range'_le f (show k + 1 ≤ k + (n + 1) by omega)
      rw [if_pos hover, if_pos (by omega)]
      rfl
    · rw [if_neg hover]
      show (List.range' (k + 1 + 1) n).foldlM Scan.step (Scan.after bs f (k + 1)) = _
      rw [ih (Nat.lt_of_not_le hover), show k + 1 + n = k + (n + 1) by omega]

end Loop

/-! ## What mostly stride one builds -/

section Contract

variable {a : Allocator} {len : Nat} {locations gaps : List Nat}

theorem inRange_sortedBreaks (h : Admissible a len locations gaps) :
    ∀ b ∈ sortedBreaks locations gaps, 1 ≤ b.1 ∧ b.1 < 1 + (len - 1) := fun b hb => by
  have := h.inRange b.1 ((perm_keys_sortedBreaks h.paired).mem_iff.mp (List.mem_map_of_mem hb))
  omega

theorem strideOne_of_admissible (h : Admissible a len locations gaps) :
    strideOne a len locations gaps =
      if wordLimit ≤ ((List.range' 1 (len - 1)).map (gapAt locations gaps)).sum then
        .error .strideOneOverflow
      else .ok (runningSums 0 ((List.range' 1 (len - 1)).map (gapAt locations gaps))) := by
  have hp := prescribes_sortedBreaks h.paired h.distinct
  have hin := inRange_sortedBreaks h
  have hsteps := stepsFrom_eq_map hp.sorted hin hp.gap fun j _ _ => hp.unit j
  obtain ⟨hsum, hlen⟩ := sum_stepsFrom hp.sorted hin
  rw [hsteps] at hsum
  -- The closed form's total, one per position without a break plus every gap, is the sum of
  -- the steps.
  have htotal : len - 1 - (sortedBreaks locations gaps).length +
      ((sortedBreaks locations gaps).map (·.2)).sum =
      ((List.range' 1 (len - 1)).map (gapAt locations gaps)).sum := by
    omega
  rw [strideOne_eq, breaksChecked_eq_ok_iff.mpr ⟨h, rfl⟩, ok_bind, hsteps, htotal]

theorem strideOne_eq_ok {v : List Nat} (hv : strideOne a len locations gaps = .ok v) :
    Admissible a len locations gaps ∧
      ((List.range' 1 (len - 1)).map (gapAt locations gaps)).sum ≤ wordMax ∧
      v = runningSums 0 ((List.range' 1 (len - 1)).map (gapAt locations gaps)) := by
  have hword := wordMax_add_one
  cases hb : breaksChecked a len locations gaps with
  | error e =>
    rw [strideOne_eq, hb] at hv
    cases hv
  | ok bs =>
    obtain ⟨h, rfl⟩ := breaksChecked_eq_ok_iff.mp hb
    rw [strideOne_of_admissible h] at hv
    split at hv
    · cases hv
    · exact ⟨h, by omega, (Except.ok.inj hv).symm⟩

theorem Scan.start_eq_after (h : Admissible a len locations gaps) :
    (⟨sortedBreaks locations gaps, 0, [0]⟩ : Scan) =
      Scan.after (sortedBreaks locations gaps) (gapAt locations gaps) 0 := by
  unfold Scan.after
  rw [List.filter_eq_self.mpr fun b hb => by
    have := (inRange_sortedBreaks h b hb).1
    simp only [decide_eq_true_eq]
    omega]
  rfl

theorem strideOneLoop_of_admissible (h : Admissible a len locations gaps) :
    strideOneLoop a len locations gaps =
      if wordLimit ≤ ((List.range' 1 (len - 1)).map (gapAt locations gaps)).sum then
        .error .strideOneOverflow
      else .ok (runningSums 0 ((List.range' 1 (len - 1)).map (gapAt locations gaps))) := by
  have hp := prescribes_sortedBreaks h.paired h.distinct
  unfold strideOneLoop
  rw [breaksChecked_eq_ok_iff.mpr ⟨h, rfl⟩, ok_bind, Scan.start_eq_after h,
    Scan.foldlM_after hp (by simp [wordLimit]) (len - 1), Nat.zero_add]
  split <;> rfl

theorem strideOneLoop_eq (a : Allocator) (len : Nat) (locations gaps : List Nat) :
    strideOneLoop a len locations gaps = strideOne a len locations gaps := by
  cases hb : breaksChecked a len locations gaps with
  | error e =>
    unfold strideOneLoop
    rw [strideOne_eq, hb]
    rfl
  | ok bs =>
    obtain ⟨h, rfl⟩ := breaksChecked_eq_ok_iff.mp hb
    rw [strideOneLoop_of_admissible h, strideOne_of_admissible h]

end Contract

/-- Mostly stride one builds indices exactly on admissible arguments: the running sums of the
gaps, where position `i` steps by `gapAt locations gaps i`. -/
theorem strideOne_contract (a : Allocator) (len : Nat) (locations gaps : List Nat) :
    let step := gapAt locations gaps
    let total := ((List.range' 1 (len - 1)).map step).sum
    (∀ v, strideOne a len locations gaps = .ok v ↔
      Admissible a len locations gaps ∧ total ≤ wordMax ∧ v.length = len ∧ v[0]? = some 0 ∧
        ∀ k, k + 1 < len → v[k + 1]? = v[k]?.map (· + step (k + 1))) ∧
    (∀ v, strideOne a len locations gaps = .ok v →
      v.Pairwise (· ≤ ·) ∧ v.getLast? = some total ∧ v.max? = some total) ∧
    strideOneLoop a len locations gaps = strideOne a len locations gaps ∧
    (Admissible a len locations gaps → total ≤ wordMax → ∀ k < len, ∃ s,
      (List.range' 1 k).foldlM Scan.step ⟨sortedBreaks locations gaps, 0, [0]⟩ = .ok s ∧
        s.ahead = (sortedBreaks locations gaps).filter (fun b => k < b.1) ∧
        s.last = ((List.range' 1 k).map step).sum) := by
  dsimp only
  have hword := wordMax_add_one
  refine ⟨fun v => ⟨fun hv => ?_, fun ⟨h, htotal, hv⟩ => ?_⟩, fun v hv => ?_,
    strideOneLoop_eq a len locations gaps, fun h htotal k hk => ?_⟩
  · obtain ⟨h, htotal, rfl⟩ := strideOne_eq_ok hv
    exact ⟨h, htotal, (eq_runningSums_steps_iff _ h.pos _).mp rfl⟩
  · rw [strideOne_of_admissible h, if_neg (by omega), (eq_runningSums_steps_iff _ h.pos v).mpr hv]
  · obtain ⟨-, -, rfl⟩ := strideOne_eq_ok hv
    exact ⟨pairwise_runningSums _ _, by rw [getLast?_runningSums, Nat.zero_add],
      by rw [max?_runningSums, Nat.zero_add]⟩
  · -- The passes over `1 .. k` stay within the word range, since the total does.
    have hle := sum_map_range'_le (gapAt locations gaps) (show k ≤ len - 1 by omega)
    refine ⟨Scan.after (sortedBreaks locations gaps) (gapAt locations gaps) k, ?_, rfl, rfl⟩
    rw [Scan.start_eq_after h, Scan.foldlM_after (prescribes_sortedBreaks h.paired h.distinct)
      (by simp [wordLimit]) k,
      Nat.zero_add, if_neg (by omega)]

end GatherScatter.Generate
