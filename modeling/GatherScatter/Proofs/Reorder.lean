import Mathlib
import GatherScatter.Proofs.StrideOne

/-! # Mostly stride one does not depend on the order of its locations -/

namespace GatherScatter.Generate

/-! ## Mostly stride one with any sort -/

def strideOneChecks (len : Nat) (locations gaps : List Nat) : Except PatternFault Unit := do
  if len = 0 then throw .strideOneEmpty
  if locations = [] then throw .noGapLocation
  if gaps.length ≠ 1 ∧ gaps.length ≠ locations.length then
    throw (.gapCount locations.length gaps.length)

def strideOneSorted (a : Allocator) (len : Nat) (breaks : List (Nat × Nat)) :
    Except PatternFault (List Nat) := do
  if let some l := firstRepeat? breaks then throw (.repeatedLocation l)
  if let some b := breaks.find? (fun b => b.1 = 0 || len ≤ b.1) then
    throw (.locationOutOfRange b.1 len)
  match a.reserve "pattern" len with
  | .error s => throw (.refused s)
  | .ok () => pure ()
  if wordLimit ≤ (len - 1 - breaks.length) + (breaks.map (·.2)).foldr (· + ·) 0 then
    throw .strideOneOverflow
  pure (runningSums 0 (stepsFrom breaks 1 (len - 1)))

/-- A sort that arranges breaks by location, leaving breaks of one location in any order. -/
def SortsByLocation (sort : List (Nat × Nat) → List (Nat × Nat)) : Prop :=
  ∀ bs, (sort bs).Perm bs ∧ (sort bs).Pairwise (fun a b => a.1 ≤ b.1)

def strideOneBy (a : Allocator) (sort : List (Nat × Nat) → List (Nat × Nat)) (len : Nat)
    (locations gaps : List Nat) : Except PatternFault (List Nat) :=
  strideOneChecks len locations gaps >>= fun _ =>
    strideOneSorted a len (sort (pairGaps locations gaps))

theorem strideOne_eq_strideOneBy (a : Allocator) (len : Nat) (locations gaps : List Nat) :
    strideOne a len locations gaps =
      strideOneBy a (·.mergeSort (fun a b => a.1 ≤ b.1)) len locations gaps := by
  unfold strideOne strideOneBy strideOneChecks
  by_cases h0 : len = 0
  · simp [h0]
  by_cases hl : locations = []
  · simp [h0, hl]
  by_cases hg : gaps.length ≠ 1 ∧ gaps.length ≠ locations.length
  · simp [h0, hl, hg]
  simp only [h0, hl, hg, if_false]
  rfl

/-! ## Breaks sorted by location -/

theorem firstRepeat?_congr {bs bs' : List (Nat × Nat)} (h : bs.map (·.1) = bs'.map (·.1)) :
    firstRepeat? bs = firstRepeat? bs' := by
  induction bs generalizing bs' with
  | nil =>
    cases bs' with
    | nil => rfl
    | cons _ _ => cases h
  | cons a rest ih =>
    cases bs' with
    | nil => cases h
    | cons a' rest' =>
      obtain ⟨ha, hrest⟩ := List.cons.inj h
      cases rest with
      | nil =>
        cases rest' with
        | nil => rfl
        | cons _ _ => cases hrest
      | cons b rest =>
        cases rest' with
        | nil => cases hrest
        | cons b' rest' =>
          have hb : b.1 = b'.1 := (List.cons.inj hrest).1
          show (if a.1 = b.1 then some a.1 else firstRepeat? (b :: rest)) =
            (if a'.1 = b'.1 then some a'.1 else firstRepeat? (b' :: rest'))
          rw [show a.1 = a'.1 from ha, hb, ih hrest]

theorem keys_eq_of_perm {bs bs' : List (Nat × Nat)} (hperm : bs.Perm bs')
    (hs : bs.Pairwise (fun a b => a.1 ≤ b.1)) (hs' : bs'.Pairwise (fun a b => a.1 ≤ b.1)) :
    bs.map (·.1) = bs'.map (·.1) :=
  (hperm.map _).eq_of_pairwise' (List.pairwise_map.mpr hs) (List.pairwise_map.mpr hs')

theorem strideOneSorted_perm {a : Allocator} {len : Nat} {bs bs' : List (Nat × Nat)}
    (hperm : bs.Perm bs')
    (hs : bs.Pairwise (fun a b => a.1 ≤ b.1)) (hs' : bs'.Pairwise (fun a b => a.1 ≤ b.1)) :
    strideOneSorted a len bs = strideOneSorted a len bs' := by
  have hkeys := keys_eq_of_perm hperm hs hs'
  cases hr : firstRepeat? bs with
  | some l =>
    -- A repeated location is found in the locations, which both list alike.
    have hr' : firstRepeat? bs' = some l := (firstRepeat?_congr hkeys).symm.trans hr
    simp [strideOneSorted, hr, hr']
  | none =>
    -- No location repeats, so both are strictly sorted by location and therefore equal.
    have hnd := (firstRepeat?_eq_none_iff hs).mp hr
    have hnd' : (bs'.map (·.1)).Nodup := hkeys ▸ hnd
    have heq : bs = bs' := hperm.eq_of_pairwise (fun _ _ _ _ hab hba => by omega)
      (pairwise_lt_of_nodup hs hnd) (pairwise_lt_of_nodup hs' hnd')
    rw [heq]

theorem sortsByLocation_mergeSort :
    SortsByLocation (·.mergeSort (fun a b => a.1 ≤ b.1)) :=
  fun bs =>
    ⟨List.mergeSort_perm _ _, List.pairwise_mergeSort' (fun a b : Nat × Nat => a.1 ≤ b.1) bs⟩

theorem strideOneBy_eq {a : Allocator} {sort sort' : List (Nat × Nat) → List (Nat × Nat)}
    (hsort : SortsByLocation sort) (hsort' : SortsByLocation sort') {len : Nat}
    {locations gaps locations' gaps' : List Nat}
    (hchecks : strideOneChecks len locations' gaps' = strideOneChecks len locations gaps)
    (hpairs : (pairGaps locations' gaps').Perm (pairGaps locations gaps)) :
    strideOneBy a sort len locations' gaps' = strideOneBy a sort' len locations gaps := by
  unfold strideOneBy
  rw [hchecks, strideOneSorted_perm ((hsort _).1.trans (hpairs.trans (hsort' _).1.symm))
    (hsort _).2 (hsort' _).2]

/-! ## Locations listed in another order -/

section Reorder

variable {locations gaps order : List Nat}

theorem map_getD_range (xs : List Nat) : (List.range xs.length).map (xs.getD · 0) = xs := by
  apply List.ext_getElem (by simp)
  intro i h₁ h₂
  simp [List.getD_eq_getElem?_getD, h₂]

theorem zip_eq_map_range_getD (h : gaps.length = locations.length) :
    locations.zip gaps =
      (List.range locations.length).map fun i => (locations.getD i 0, gaps.getD i 0) := by
  conv_lhs => rw [← map_getD_range locations, ← map_getD_range gaps, h]
  rw [List.zip_map']

theorem pairGaps_of_length_eq (h : gaps.length = locations.length) :
    pairGaps locations gaps = locations.zip gaps := by
  unfold pairGaps
  split
  · -- One gap for one location.
    obtain ⟨l, rfl⟩ := List.length_eq_one_iff.mp h.symm
    rfl
  · rfl

theorem pairGaps_reorder (horder : order.Perm (List.range locations.length))
    (h : gaps.length = locations.length) :
    (pairGaps (order.map (locations.getD · 0)) (order.map (gaps.getD · 0))).Perm
      (pairGaps locations gaps) := by
  rw [pairGaps_of_length_eq (by simp), pairGaps_of_length_eq h, List.zip_map',
    zip_eq_map_range_getD h]
  exact horder.map _

theorem pairGaps_reorder_one (horder : order.Perm (List.range locations.length))
    (h : gaps.length = 1) :
    (pairGaps (order.map (locations.getD · 0)) gaps).Perm (pairGaps locations gaps) := by
  obtain ⟨g, rfl⟩ := List.length_eq_one_iff.mp h
  simp only [pairGaps, List.map_map]
  conv_rhs => rw [← map_getD_range locations, List.map_map]
  exact horder.map _

theorem strideOneChecks_reorder {len : Nat} {gaps' : List Nat}
    (horder : order.Perm (List.range locations.length)) (hgaps : gaps'.length = gaps.length) :
    strideOneChecks len (order.map (locations.getD · 0)) gaps' =
      strideOneChecks len locations gaps := by
  have hlen : (order.map (locations.getD · 0)).length = locations.length := by
    rw [List.length_map, horder.length_eq, List.length_range]
  have hnil : order.map (locations.getD · 0) = [] ↔ locations = [] := by
    rw [← List.length_eq_zero_iff, hlen, List.length_eq_zero_iff]
  unfold strideOneChecks
  simp only [hlen, hgaps, hnil]

end Reorder

/-- Listing the gap locations in another order gives the same indices or the same fault. -/
theorem strideOne_reorder (a : Allocator) (len : Nat) (locations gaps order : List Nat)
    (horder : order.Perm (List.range locations.length)) :
    (gaps.length = locations.length →
      strideOne a len (order.map (locations.getD · 0)) (order.map (gaps.getD · 0)) =
        strideOne a len locations gaps) ∧
    (gaps.length = 1 →
      strideOne a len (order.map (locations.getD · 0)) gaps = strideOne a len locations gaps) ∧
    (∀ sort, SortsByLocation sort →
      strideOneBy a sort len locations gaps = strideOne a len locations gaps) := by
  simp only [strideOne_eq_strideOneBy]
  refine ⟨fun h => ?_, fun h => ?_, fun sort hsort => ?_⟩
  · exact strideOneBy_eq sortsByLocation_mergeSort sortsByLocation_mergeSort
      (strideOneChecks_reorder horder (by simp [horder.length_eq, h]))
      (pairGaps_reorder horder h)
  · exact strideOneBy_eq sortsByLocation_mergeSort sortsByLocation_mergeSort
      (strideOneChecks_reorder horder rfl) (pairGaps_reorder_one horder h)
  · exact strideOneBy_eq hsort sortsByLocation_mergeSort rfl (List.Perm.refl _)

theorem swapped_locations_same_indices :
    ([1, 0] : List Nat).Perm (List.range [2, 3].length) ∧
      strideOne (.upTo 64) 8 [3, 2] [22, 20] = strideOne (.upTo 64) 8 [2, 3] [20, 22] :=
  ⟨by decide, (strideOne_reorder (.upTo 64) 8 [2, 3] [20, 22] [1, 0] (by decide)).1 rfl⟩

end GatherScatter.Generate
