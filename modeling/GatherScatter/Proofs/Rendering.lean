import GatherScatter.Proofs.Compile
import Mathlib.Data.List.DropRight

/-! # A pattern's text reads back as the pattern -/

/-! ## Joined lists -/

namespace List

theorem forall_mem_intercalate {α : Type} {P : α → Prop} {sep : List α} {ps : List (List α)}
    (hsep : ∀ x ∈ sep, P x) (hps : ∀ p ∈ ps, ∀ x ∈ p, P x) :
    ∀ x ∈ sep.intercalate ps, P x := by
  induction ps with
  | nil => simp
  | cons p ps ih =>
    cases ps with
    | nil => simpa using hps p
    | cons q qs =>
      intro x hx
      rw [intercalate_cons_cons, mem_append, mem_append] at hx
      rcases hx with (hx | hx) | hx
      · exact hps p mem_cons_self x hx
      · exact hsep x hx
      · exact ih (fun r hr => hps r (mem_cons_of_mem _ hr)) x hx

theorem getLast?_intercalate {α : Type} (sep : List α) {ps : List (List α)}
    (hps : ∀ p ∈ ps, p ≠ []) (hne : ps ≠ []) :
    (sep.intercalate ps).getLast? = (ps.getLast hne).getLast? := by
  induction ps with
  | nil => exact absurd rfl hne
  | cons p ps ih =>
    cases ps with
    | nil => simp
    | cons q qs =>
      have hlast := ih (fun r hr => hps r (mem_cons_of_mem _ hr)) (cons_ne_nil q qs)
      have hsome : ((q :: qs).getLast (cons_ne_nil q qs)).getLast?.isSome := by
        rw [getLast?_isSome]
        exact hps _ (mem_cons_of_mem _ (getLast_mem _))
      rw [intercalate_cons_cons, getLast?_append, hlast, getLast_cons (cons_ne_nil q qs)]
      obtain ⟨y, hy⟩ := Option.isSome_iff_exists.mp hsome
      rw [hy]
      rfl

theorem intercalate_cons_eq {α : Type} (sep : α) (ws p : List α) (ps : List (List α)) :
    (sep :: ws).intercalate (p :: ps) = [sep].intercalate (p :: ps.map (ws ++ ·)) := by
  induction ps generalizing p with
  | nil => simp
  | cons q qs ih =>
    rw [intercalate_cons_cons, ih, map_cons, intercalate_cons_cons]
    cases qs <;> simp

end List

namespace GatherScatter

namespace Text

/-! ## Decimal numerals -/

theorem isDigit_of_mem_toDigits_ten {c : Char} {n : Nat} (h : c ∈ Nat.toDigits 10 n) :
    c.isDigit = true :=
  Nat.isDigit_of_mem_toDigits (by decide) (by decide) h

theorem digitValue?_of_isDigit {c : Char} (h : c.isDigit = true) :
    digitValue? c = some (c.toNat - '0'.toNat) := by
  simp only [Char.isDigit, Bool.and_eq_true, decide_eq_true_eq] at h
  simp only [digitValue?, Char.le_def]
  rw [if_pos h]

theorem readDigits_of_isDigit (limit : Nat) {cs : List Char} (hcs : ∀ c ∈ cs, c.isDigit = true)
    {acc : Nat} (hlt : Nat.ofDigitChars 10 cs acc < limit) :
    readDigits limit acc cs = .ok (Nat.ofDigitChars 10 cs acc) := by
  induction cs generalizing acc with
  | nil => rfl
  | cons c cs ih =>
    have hc := hcs c List.mem_cons_self
    rw [Nat.ofDigitChars_cons] at hlt ⊢
    have hgrow := @Nat.ofDigitChars_eq_ofDigitChars_zero cs (10 * acc + (c.toNat - '0'.toNat))
    have hpow : 1 ≤ 10 ^ cs.length := Nat.one_le_pow _ _ (by decide)
    have hle : acc * 10 + (c.toNat - '0'.toNat) < limit := by
      have := Nat.le_mul_of_pos_left (10 * acc + (c.toNat - '0'.toNat)) hpow
      omega
    simp only [readDigits, digitValue?_of_isDigit hc, if_pos hle]
    rw [Nat.mul_comm acc 10]
    exact ih (fun x hx => hcs x (List.mem_cons_of_mem _ hx)) hlt

theorem readUnsigned_repr {limit n : Nat} (h : n < limit) : readUnsigned limit n.repr = .ok n := by
  have hdig : ∀ x ∈ Nat.toDigits 10 n, x.isDigit = true :=
    fun x hx => isDigit_of_mem_toDigits_ten hx
  unfold readUnsigned
  rw [Nat.toList_repr]
  obtain ⟨c, cs, hcs⟩ := List.exists_cons_of_ne_nil (Nat.toDigits_ne_nil (n := n) (b := 10))
  have hplus : c ≠ '+' := by
    rintro rfl
    exact absurd (hdig '+' (hcs ▸ List.mem_cons_self)) (by decide)
  rw [hcs]
  simp only [readUnsignedChars, if_neg hplus]
  rw [← hcs, readDigits_of_isDigit limit hdig (by rwa [Nat.ofDigitChars_ten_toDigits]),
    Nat.ofDigitChars_ten_toDigits]

/-! ## Blanks and pieces -/

theorem isBlank_of_isDigit {c : Char} (h : c.isDigit = true) : isBlank c = false := by
  simp only [Char.isDigit, Bool.and_eq_true, decide_eq_true_eq] at h
  have h1 : 48 ≤ c.toNat := h.1
  have h2 : c.toNat ≤ 57 := h.2
  simp [isBlank]
  omega

theorem trimChars_eq_rdropWhile (cs : List Char) :
    trimChars cs = (cs.dropWhile isBlank).rdropWhile isBlank := rfl

theorem trimChars_eq_self {cs : List Char} (hhead : ∀ c ∈ cs.head?, isBlank c = false)
    (hlast : ∀ c ∈ cs.getLast?, isBlank c = false) : trimChars cs = cs := by
  rw [trimChars_eq_rdropWhile]
  cases cs with
  | nil => rfl
  | cons c rest =>
    rw [List.dropWhile_cons_of_neg (by simpa using hhead c rfl), List.rdropWhile_eq_self_iff]
    intro hne
    simpa using hlast _ (List.getLast?_eq_some_getLast hne)

theorem trimChars_blank_append {ws cs : List Char} (hws : ∀ c ∈ ws, isBlank c = true)
    (hcs : ∀ c ∈ cs, isBlank c = false) : trimChars (ws ++ cs) = cs := by
  rw [trimChars_eq_rdropWhile, List.dropWhile_append_of_pos hws, ← trimChars_eq_rdropWhile]
  exact trimChars_eq_self (fun c hc => hcs c (List.mem_of_mem_head? hc))
    (fun c hc => hcs c (List.mem_of_mem_getLast? hc))

theorem splitChars_eq_splitOn (sep : Char) (cs : List Char) :
    splitChars sep cs = cs.splitOn sep := by
  induction cs with
  | nil => rfl
  | cons c cs ih =>
    rw [List.splitOn_cons_eq_if_modifyHead, splitChars, ← ih]
    by_cases h : c = sep
    · simp [h]
    · simp only [h, if_false, beq_iff_eq]
      cases hs : splitChars sep cs with
      | nil => exact absurd hs (splitChars_ne_nil sep cs)
      | cons p ps => rfl

end Text

/-! ## The joined text of an index list -/

/-- The pieces of indices joined by a comma and the blanks `ws`: the first numeral, then each
further numeral after the blanks. -/
def numeralPieces (ws : List Char) : List Nat → List (List Char)
  | [] => []
  | x :: xs => Nat.toDigits 10 x :: xs.map fun i => ws ++ Nat.toDigits 10 i

section Joined

variable {ws : List Char} {x : Nat} {xs : List Nat}

theorem toList_joined :
    ((String.ofList (',' :: ws)).intercalate ((x :: xs).map Nat.repr)).toList =
      [','].intercalate (numeralPieces ws (x :: xs)) := by
  rw [String.toList_intercalate, String.toList_ofList, List.map_map, List.map_cons,
    List.intercalate_cons_eq]
  simp [numeralPieces, Function.comp_def]

theorem exists_of_mem_numeralPieces {q : List Char} (hq : q ∈ numeralPieces ws (x :: xs)) :
    ∃ w i, (w = [] ∨ w = ws) ∧ q = w ++ Nat.toDigits 10 i := by
  rcases List.mem_cons.mp hq with rfl | hq
  · exact ⟨[], x, .inl rfl, rfl⟩
  · obtain ⟨i, -, rfl⟩ := List.mem_map.mp hq
    exact ⟨ws, i, .inr rfl, rfl⟩

theorem head?_joined : ∃ d, d.isDigit = true ∧
    ([','].intercalate (numeralPieces ws (x :: xs))).head? = some d := by
  obtain ⟨d, ds, hds⟩ := List.exists_cons_of_ne_nil (Nat.toDigits_ne_nil (n := x) (b := 10))
  refine ⟨d, Text.isDigit_of_mem_toDigits_ten (hds ▸ List.mem_cons_self), ?_⟩
  simp [numeralPieces, hds, List.intercalate_cons_cons_left]

theorem getLast?_joined : ∃ d, d.isDigit = true ∧
    ([','].intercalate (numeralPieces ws (x :: xs))).getLast? = some d := by
  have hpieces : numeralPieces ws (x :: xs) ≠ [] := List.cons_ne_nil _ _
  have hnil : ∀ q ∈ numeralPieces ws (x :: xs), q ≠ [] := by
    intro q hq
    obtain ⟨w, i, -, rfl⟩ := exists_of_mem_numeralPieces hq
    simp
  obtain ⟨w, i, -, hwi⟩ := exists_of_mem_numeralPieces (List.getLast_mem hpieces)
  obtain ⟨d, hd⟩ := Option.isSome_iff_exists.mp
    (List.getLast?_isSome.mpr (Nat.toDigits_ne_nil (n := i) (b := 10)))
  refine ⟨d, Text.isDigit_of_mem_toDigits_ten (List.mem_of_mem_getLast? hd), ?_⟩
  rw [List.getLast?_intercalate _ hnil hpieces, hwi,
    List.getLast?_append_of_ne_nil _ Nat.toDigits_ne_nil, hd]

theorem trim_joined :
    Text.trim ((String.ofList (',' :: ws)).intercalate ((x :: xs).map Nat.repr)) =
      (String.ofList (',' :: ws)).intercalate ((x :: xs).map Nat.repr) := by
  obtain ⟨d, hd, hhead⟩ := @head?_joined ws x xs
  obtain ⟨e, he, hlast⟩ := @getLast?_joined ws x xs
  have hends := Text.trimChars_eq_self
    (by rw [hhead]; simpa using Text.isBlank_of_isDigit hd)
    (by rw [hlast]; simpa using Text.isBlank_of_isDigit he)
  rw [Text.trim, toList_joined, hends, ← toList_joined, String.ofList_toList]

variable (hws : ∀ c ∈ ws, Text.isBlank c = true)
include hws

theorem ne_of_mem_numeralPieces {q : List Char} (hq : q ∈ numeralPieces ws (x :: xs)) {c : Char}
    (hc : c ∈ q) : c ≠ ',' ∧ c ≠ ':' := by
  obtain ⟨w, i, hw, rfl⟩ := exists_of_mem_numeralPieces hq
  rcases List.mem_append.mp hc with hc | hc
  · have hb : Text.isBlank c = true := by
      rcases hw with rfl | rfl
      · cases hc
      · exact hws c hc
    constructor <;> rintro rfl <;> exact absurd hb (by decide)
  · have hd := Text.isDigit_of_mem_toDigits_ten hc
    constructor <;> rintro rfl <;> exact absurd hd (by decide)

theorem splitOnce_joined :
    Text.splitOnce ':' ((String.ofList (',' :: ws)).intercalate ((x :: xs).map Nat.repr)) =
      none := by
  have hnot : ∀ c ∈ [','].intercalate (numeralPieces ws (x :: xs)), c ≠ ':' :=
    List.forall_mem_intercalate (by simp)
      (fun q hq c hc => (ne_of_mem_numeralPieces hws hq hc).2)
  unfold Text.splitOnce
  rw [toList_joined, if_neg (fun h => hnot ':' h rfl)]

theorem split_joined :
    Text.split ',' ((String.ofList (',' :: ws)).intercalate ((x :: xs).map Nat.repr)) =
      (numeralPieces ws (x :: xs)).map String.ofList := by
  have hnot : ∀ q ∈ numeralPieces ws (x :: xs), ',' ∉ q :=
    fun q hq h => (ne_of_mem_numeralPieces hws hq h).1 rfl
  rw [Text.split, Text.splitChars_eq_splitOn, toList_joined,
    List.splitOn_intercalate ',' hnot (List.cons_ne_nil _ _)]

end Joined

theorem readField_blank_toDigits (what : Field) {ws : List Char}
    (hws : ∀ c ∈ ws, Text.isBlank c = true) {i : Nat} (hi : i < wordLimit) :
    readField what (String.ofList (ws ++ Nat.toDigits 10 i)) = .ok i := by
  have hdig : ∀ c ∈ Nat.toDigits 10 i, Text.isBlank c = false := fun c hc =>
    Text.isBlank_of_isDigit (Text.isDigit_of_mem_toDigits_ten hc)
  have htrim : Text.trim (String.ofList (ws ++ Nat.toDigits 10 i)) = i.repr := by
    rw [Text.trim, String.toList_ofList, Text.trimChars_blank_append hws hdig]
    rfl
  have hne : i.repr.isEmpty = false := by
    rw [Bool.eq_false_iff, ne_eq, String.isEmpty_iff]
    exact Nat.repr_ne_empty
  unfold readField
  simp only [htrim, hne, Bool.false_eq_true, if_false, Text.readUnsigned_repr hi]

theorem mapM_readField_numeralPieces (what : Field) {ws : List Char}
    (hws : ∀ c ∈ ws, Text.isBlank c = true) {xs : List Nat}
    (hlt : ∀ i ∈ xs, i < wordLimit) :
    ((numeralPieces ws xs).map String.ofList).mapM (readField what) = .ok xs := by
  cases xs with
  | nil => rfl
  | cons x xs =>
    have hx := @readField_blank_toDigits what [] (by simp) x (hlt x List.mem_cons_self)
    rw [List.nil_append] at hx
    have hrest : ∀ ys : List Nat, (∀ i ∈ ys, i < wordLimit) →
        (ys.map fun i => String.ofList (ws ++ Nat.toDigits 10 i)).mapM (readField what) =
          .ok ys := by
      intro ys hys
      induction ys with
      | nil => rfl
      | cons y ys ih =>
        rw [List.map_cons, List.mapM_cons,
          readField_blank_toDigits what hws (hys y List.mem_cons_self),
          ih (fun i hi => hys i (List.mem_cons_of_mem _ hi))]
        rfl
    simp only [numeralPieces, List.map_cons, List.map_map, List.mapM_cons, hx, Function.comp_def,
      hrest xs (fun i hi => hlt i (List.mem_cons_of_mem _ hi))]
    rfl

theorem baseIndices_joined (a : Allocator) {ws : List Char}
    (hws : ∀ c ∈ ws, Text.isBlank c = true) {xs : List Nat} (hne : xs ≠ [])
    (hlt : ∀ i ∈ xs, i < wordLimit) :
    baseIndices a ((String.ofList (',' :: ws)).intercalate (xs.map Nat.repr)) = .ok xs := by
  obtain ⟨x, xs', rfl⟩ := List.exists_cons_of_ne_nil hne
  have htrim := @trim_joined ws x xs'
  have hempty : (Text.trim ((String.ofList (',' :: ws)).intercalate
      ((x :: xs').map Nat.repr))).isEmpty = false := by
    rw [Bool.eq_false_iff, ne_eq, String.isEmpty_iff, htrim, ← String.toList_inj, toList_joined]
    intro h
    obtain ⟨d, -, hhead⟩ := @head?_joined ws x xs'
    rw [h] at hhead
    cases hhead
  unfold baseIndices
  simp only [htrim, splitOnce_joined hws]
  unfold readList
  rw [hempty, split_joined hws]
  exact mapM_readField_numeralPieces .index hws hlt

/-! ## Patterns -/

theorem Pattern.ofIndices?_indices (p : Pattern) : Pattern.ofIndices? p.indices = .ok p := by
  unfold Pattern.ofIndices?
  split
  · rename_i h
    rw [p.max?_indices] at h
    cases h
  · rename_i m h
    rw [p.max?_indices] at h
    cases h
    rw [dif_pos p.maxIndex_lt]

theorem Generate.repeatShifted_zero_one {a : Allocator} {xs : List Nat} {m : Nat}
    (hm : xs.max? = some m) (hlt : m < wordLimit) (hres : a.reserve "pattern" xs.length = .ok ()) :
    Generate.repeatShifted a xs 0 1 = .ok xs := by
  -- a granted buffer fits in the largest object, so its length fits in a word
  have hobj := Allocator.bytes_le_of_reserve hres
  have hlen : xs.length * 1 < wordLimit := by
    unfold elementBytes objectLimit at hobj
    unfold wordLimit
    simp only [Nat.pow_eq] at *
    omega
  have hnone : Generate.firstOverflow xs 0 1 = none :=
    (Generate.firstOverflow_eq_none_iff 0 hm Nat.one_pos).mpr (by omega)
  refine Generate.repeatShifted_eq_ok.mpr ⟨Nat.one_ne_zero, hlen, ?_, hnone, ?_⟩
  · rwa [Nat.mul_one]
  · simp [Generate.shiftedCopies]

theorem Generate.repeatShifted_one {a : Allocator} (p : Pattern)
    (hres : a.reserve "pattern" p.length = .ok ()) :
    Generate.repeatShifted a p.indices 0 1 = .ok p.indices :=
  Generate.repeatShifted_zero_one p.max?_indices (by have := p.maxIndex_lt; omega) hres

theorem compilePattern_eq (a : Allocator) (spec : String) :
    compilePattern a spec =
      (baseIndices a spec >>= fun b => Generate.repeatShifted a b 0 1) >>= Pattern.ofIndices? := by
  show Compiler.compile {} _ _ = _
  rw [Compiler.compile_eq]
  rfl

theorem compilePattern_joined {a : Allocator} {ws : List Char}
    (hws : ∀ c ∈ ws, Text.isBlank c = true) (p : Pattern)
    (hres : a.reserve "pattern" p.length = .ok ()) :
    compilePattern a ((String.ofList (',' :: ws)).intercalate (p.indices.map Nat.repr)) =
      .ok p := by
  have hbase := baseIndices_joined a hws (List.ne_nil_of_mem p.maxIndex_mem)
    (fun i hi => by have := p.le_maxIndex i hi; have := p.maxIndex_lt; omega)
  rw [compilePattern_eq, hbase, ok_bind, Generate.repeatShifted_one p hres, ok_bind,
    Pattern.ofIndices?_indices]

theorem Compiler.reserve_of_compile {c : Compiler} {a : Allocator} {spec : String} {p : Pattern}
    (h : c.compile a spec = .ok p) : a.reserve "pattern" p.length = .ok () := by
  obtain ⟨b, -, -, -, hres, -, hidx⟩ := Compiler.compile_eq_ok h
  rw [Pattern.length, hidx, Generate.length_shiftedCopies]
  exact hres

/-- A pattern's text compiles back to the pattern when the index buffer is granted. -/
theorem compilePattern_render (a : Allocator) :
    (∀ p : Pattern, a.reserve "pattern" p.length = .ok () → compilePattern a p.render = .ok p) ∧
    (∀ p : Pattern, a.reserve "pattern" p.length = .ok () →
      compilePattern a (",".intercalate (p.indices.map Nat.repr)) = .ok p) ∧
    (∀ (c : Compiler) (spec : String) (p : Pattern), c.compile a spec = .ok p →
      compilePattern a p.render = .ok p) := by
  have hspace : ∀ c ∈ [' '], Text.isBlank c = true := by simp [Text.isBlank_space]
  have hrender : ∀ p : Pattern, compilePattern a p.render = compilePattern a
      ((String.ofList [',', ' ']).intercalate (p.indices.map Nat.repr)) := fun p => rfl
  refine ⟨fun p hres => ?_, fun p hres => ?_, fun c spec p hp => ?_⟩
  · rw [hrender]
    exact compilePattern_joined hspace p hres
  · exact @compilePattern_joined a [] (by simp) p hres
  · rw [hrender]
    exact compilePattern_joined hspace p (Compiler.reserve_of_compile hp)

theorem uniform_render_compiles_back :
    ∃ p : Pattern, p.indices = [0, 7, 14] ∧
      (Allocator.upTo 24).reserve "pattern" p.length = .ok () ∧
      compilePattern (.upTo 24) "UNIFORM:3:7" = .ok p ∧ p.render = "0, 7, 14" ∧
      compilePattern (.upTo 24) p.render = .ok p ∧
      compilePattern (.upTo 24) (",".intercalate (p.indices.map Nat.repr)) = .ok p := by
  have hres : (Allocator.upTo 24).reserve "pattern" 3 = .ok () := by decide
  refine ⟨⟨[0, 7, 14], 14, by decide, by decide, by decide⟩, rfl, hres, by rfl, by decide,
    (compilePattern_render _).1 _ hres, (compilePattern_render _).2.1 _ hres⟩

end GatherScatter
