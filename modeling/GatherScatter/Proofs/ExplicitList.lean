import Mathlib
import GatherScatter.Proofs.Rendering

/-! # Explicit index lists -/

namespace List.Forall₂

variable {α β : Type} {R : α → β → Prop} {l₁ : List α} {l₂ : List β}

theorem exists_mem_of_mem_left (h : Forall₂ R l₁ l₂) : ∀ a ∈ l₁, ∃ b ∈ l₂, R a b := by
  induction h with
  | nil => simp
  | cons hab _ ih =>
    intro x hx
    rcases List.mem_cons.mp hx with rfl | hx
    · exact ⟨_, List.mem_cons_self, hab⟩
    · obtain ⟨y, hy, hxy⟩ := ih x hx
      exact ⟨y, List.mem_cons_of_mem _ hy, hxy⟩

theorem exists_mem_of_mem_right (h : Forall₂ R l₁ l₂) : ∀ b ∈ l₂, ∃ a ∈ l₁, R a b := by
  induction h with
  | nil => simp
  | cons hab _ ih =>
    intro y hy
    rcases List.mem_cons.mp hy with rfl | hy
    · exact ⟨_, List.mem_cons_self, hab⟩
    · obtain ⟨x, hx, hxy⟩ := ih y hy
      exact ⟨x, List.mem_cons_of_mem _ hx, hxy⟩

end List.Forall₂

namespace GatherScatter

namespace Text

/-! ## Numerals -/

/-- `t` is a numeral of `v`: an optional `+`, then one or more ASCII digits whose decimal value
is `v`. -/
def Numeral (t : List Char) (v : Nat) : Prop :=
  ∃ ds : List Char, (t = ds ∨ t = '+' :: ds) ∧ ds ≠ [] ∧ (∀ c ∈ ds, c.isDigit = true) ∧
    Nat.ofDigitChars 10 ds 0 = v

theorem isDigit_of_digitValue? {c : Char} {d : Nat} (h : digitValue? c = some d) :
    c.isDigit = true ∧ d = c.toNat - '0'.toNat := by
  unfold digitValue? at h
  split at h
  · rename_i hc
    cases h
    refine ⟨?_, rfl⟩
    simp only [Char.isDigit, Bool.and_eq_true, decide_eq_true_eq]
    exact hc
  · cases h

theorem readDigits_eq_ok {limit acc n : Nat} {cs : List Char}
    (h : readDigits limit acc cs = .ok n) :
    (∀ c ∈ cs, c.isDigit = true) ∧ n = Nat.ofDigitChars 10 cs acc := by
  induction cs generalizing acc with
  | nil =>
    cases h
    exact ⟨by simp, rfl⟩
  | cons c cs ih =>
    simp only [readDigits] at h
    split at h
    · cases h
    · rename_i d hd
      obtain ⟨hdig, rfl⟩ := isDigit_of_digitValue? hd
      split at h
      · obtain ⟨hall, rfl⟩ := ih h
        refine ⟨fun x hx => ?_, ?_⟩
        · rcases List.mem_cons.mp hx with rfl | hx
          · exact hdig
          · exact hall x hx
        · rw [Nat.ofDigitChars_cons, Nat.mul_comm]
      · cases h

theorem readDigits_tooLarge {limit : Nat} {cs : List Char} (hcs : ∀ c ∈ cs, c.isDigit = true) :
    ∀ {acc : Nat}, acc < limit → limit ≤ Nat.ofDigitChars 10 cs acc →
      readDigits limit acc cs = .error .tooLarge := by
  induction cs with
  | nil =>
    intro acc hacc hle
    exact absurd hle (Nat.not_le.mpr hacc)
  | cons c cs ih =>
    intro acc hacc hle
    rw [Nat.ofDigitChars_cons] at hle
    simp only [readDigits, digitValue?_of_isDigit (hcs c List.mem_cons_self)]
    split
    · rename_i hnext
      exact ih (fun x hx => hcs x (List.mem_cons_of_mem _ hx)) hnext (by rwa [Nat.mul_comm])
    · rfl

theorem ne_plus_of_isDigit {c : Char} (h : c.isDigit = true) : c ≠ '+' := by
  rintro rfl
  exact absurd h (by decide)

theorem readUnsigned_eq_ok_iff {limit v : Nat} {s : String} :
    readUnsigned limit s = .ok v ↔ Numeral s.toList v ∧ v < limit := by
  unfold readUnsigned
  generalize s.toList = t
  constructor
  · intro h
    have hlt : v < limit := lt_of_readUnsigned (s := String.ofList t) (by
      unfold readUnsigned
      rwa [String.toList_ofList])
    refine ⟨?_, hlt⟩
    cases t with
    | nil => cases h
    | cons c rest =>
      simp only [readUnsignedChars] at h
      -- The digits are what is left once a leading `+` is dropped.
      split at h
      · cases h
      · rename_i d ds hds
        obtain ⟨hall, rfl⟩ := readDigits_eq_ok h
        refine ⟨d :: ds, ?_, List.cons_ne_nil d ds, hall, rfl⟩
        by_cases hc : c = '+'
        · rw [if_pos hc] at hds
          exact .inr (by rw [hc, hds])
        · rw [if_neg hc] at hds
          exact .inl hds
  · rintro ⟨⟨ds, ht | ht, hne, hall, rfl⟩, hlt⟩
    · obtain ⟨d, ds', rfl⟩ := List.exists_cons_of_ne_nil hne
      subst ht
      simp only [readUnsignedChars, if_neg (ne_plus_of_isDigit (hall d List.mem_cons_self))]
      exact readDigits_of_isDigit limit hall hlt
    · obtain ⟨d, ds', rfl⟩ := List.exists_cons_of_ne_nil hne
      subst ht
      simp only [readUnsignedChars, if_true]
      exact readDigits_of_isDigit limit hall hlt

theorem readUnsigned_tooLarge {limit v : Nat} {s : String} (h : Numeral s.toList v)
    (hv : limit ≤ v) (hpos : 0 < limit) : readUnsigned limit s = .error .tooLarge := by
  unfold readUnsigned
  obtain ⟨ds, ht | ht, hne, hall, rfl⟩ := h
  all_goals
    obtain ⟨d, ds', rfl⟩ := List.exists_cons_of_ne_nil hne
    rw [ht]
  · simp only [readUnsignedChars, if_neg (ne_plus_of_isDigit (hall d List.mem_cons_self))]
    exact readDigits_tooLarge hall hpos hv
  · simp only [readUnsignedChars, if_true]
    exact readDigits_tooLarge hall hpos hv

theorem Numeral.unique {t : List Char} {v w : Nat} (hv : Numeral t v) (hw : Numeral t w) :
    v = w := by
  -- Read with a limit above both values, the text gives each of them.
  have hv' : readUnsigned (v + w + 1) (String.ofList t) = .ok v :=
    readUnsigned_eq_ok_iff.mpr ⟨by rwa [String.toList_ofList], by omega⟩
  have hw' : readUnsigned (v + w + 1) (String.ofList t) = .ok w :=
    readUnsigned_eq_ok_iff.mpr ⟨by rwa [String.toList_ofList], by omega⟩
  exact Except.ok.inj (hv'.symm.trans hw')

/-! ## Trimming and cutting -/

theorem head?_trimChars {cs : List Char} : ∀ c ∈ (trimChars cs).head?, isBlank c = false := by
  intro c hc
  rw [trimChars_eq_rdropWhile] at hc
  obtain ⟨rest, hrest⟩ := List.rdropWhile_prefix isBlank (cs.dropWhile isBlank)
  have hne : cs.dropWhile isBlank ≠ [] := by
    rintro hnil
    rw [hnil] at hrest
    simp_all
  have hhead : (cs.dropWhile isBlank).head? = some c := by
    rw [← hrest, List.head?_append, Option.mem_def.mp hc]
    rfl
  rw [← List.head_dropWhile_not isBlank hne]
  exact (Option.some.inj ((List.head?_eq_some_head hne).symm.trans hhead)).symm ▸ rfl

theorem getLast?_trimChars {cs : List Char} :
    ∀ c ∈ (trimChars cs).getLast?, isBlank c = false := by
  intro c hc
  rw [trimChars_eq_rdropWhile] at hc
  have hne : (cs.dropWhile isBlank).rdropWhile isBlank ≠ [] := by
    rintro hnil
    rw [hnil] at hc
    cases hc
  rw [List.getLast?_eq_some_getLast hne] at hc
  cases Option.some.inj hc
  simpa using List.rdropWhile_last_not isBlank _ hne

theorem trim_trim (s : String) : trim (trim s) = trim s := by
  rw [trim, trim, String.toList_ofList, trimChars_eq_self head?_trimChars getLast?_trimChars]

theorem length_splitChars (sep : Char) (cs : List Char) :
    (splitChars sep cs).length = cs.count sep + 1 := by
  rw [splitChars_eq_splitOn]
  induction cs with
  | nil => rfl
  | cons c cs ih =>
    rw [List.splitOn_cons_eq_if_modifyHead]
    by_cases h : c = sep
    · simp [h, ih]
    · simp [h, ih]

theorem splitOnce_eq_none {sep : Char} {s : String} (h : sep ∉ s.toList) :
    splitOnce sep s = none := by
  unfold splitOnce
  rw [if_neg h]

theorem split_ne_nil (sep : Char) (s : String) : split sep s ≠ [] := by
  simpa [split] using splitChars_ne_nil sep s.toList

theorem Numeral.ne_nil {t : List Char} {v : Nat} (h : Numeral t v) : t ≠ [] := by
  obtain ⟨ds, ht | ht, hne, -, -⟩ := h
  · rwa [ht]
  · rw [ht]
    exact List.cons_ne_nil _ _

end Text

/-! ## Reading fields and lists -/

theorem mapM_eq_ok_iff {α β ε : Type} {f : α → Except ε β} {xs : List α} {ys : List β} :
    xs.mapM f = .ok ys ↔ List.Forall₂ (fun x y => f x = .ok y) xs ys := by
  induction xs generalizing ys with
  | nil =>
    rw [List.mapM_nil, List.forall₂_nil_left_iff]
    exact ⟨fun h => (Except.ok.inj h).symm, fun h => h ▸ rfl⟩
  | cons x xs ih =>
    rw [List.mapM_cons, bind_eq_ok, List.forall₂_cons_left_iff]
    constructor
    · rintro ⟨y, hy, hrest⟩
      obtain ⟨ys', hys', hys⟩ := bind_eq_ok.mp hrest
      exact ⟨y, ys', hy, ih.mp hys', (Except.ok.inj hys).symm⟩
    · rintro ⟨y, ys', hy, hrest, rfl⟩
      exact ⟨y, hy, bind_eq_ok.mpr ⟨ys', ih.mpr hrest, rfl⟩⟩

theorem exists_mapM_eq_ok {α β ε : Type} {f : α → Except ε β} {xs : List α}
    (h : ∀ x ∈ xs, ∃ y, f x = .ok y) : ∃ ys, xs.mapM f = .ok ys := by
  induction xs with
  | nil => exact ⟨[], rfl⟩
  | cons x xs ih =>
    obtain ⟨y, hy⟩ := h x List.mem_cons_self
    obtain ⟨ys, hys⟩ := ih fun z hz => h z (List.mem_cons_of_mem _ hz)
    exact ⟨y :: ys, mapM_eq_ok_iff.mpr (.cons hy (mapM_eq_ok_iff.mp hys))⟩

theorem readField_eq_ok_iff {what : Field} {text : String} {v : Nat} :
    readField what text = .ok v ↔ Text.Numeral (Text.trim text).toList v ∧ v < wordLimit := by
  unfold readField
  dsimp only
  by_cases hempty : (Text.trim text).isEmpty = true
  · -- A blank field is no numeral: a numeral has a digit.
    have hnil : (Text.trim text).toList = [] :=
      String.toList_eq_nil_iff.mpr (String.isEmpty_iff.mp hempty)
    rw [if_pos hempty]
    simp only [reduceCtorEq, false_iff, not_and]
    exact fun h => absurd hnil h.ne_nil
  · rw [if_neg hempty, ← Text.readUnsigned_eq_ok_iff]
    cases Text.readUnsigned wordLimit (Text.trim text) <;> simp

theorem readField_tooLarge {what : Field} {text : String} {v : Nat}
    (h : Text.Numeral (Text.trim text).toList v) (hv : wordLimit ≤ v) :
    readField what text = .error (.badNumber what (Text.trim text) .tooLarge) := by
  have hne : (Text.trim text).isEmpty = false := by
    rw [Bool.eq_false_iff, ne_eq, String.isEmpty_iff, ← String.toList_eq_nil_iff]
    exact h.ne_nil
  unfold readField
  dsimp only
  rw [hne, if_neg Bool.false_ne_true, Text.readUnsigned_tooLarge h hv (by decide)]

theorem readList_eq_ok_iff {what : Field} {text : String} {vs : List Nat} :
    readList what text = .ok vs ↔ Text.trim text ≠ "" ∧
      List.Forall₂ (fun q v => readField what q = .ok v) (Text.split ',' text) vs := by
  unfold readList
  by_cases hempty : (Text.trim text).isEmpty = true
  · rw [if_pos hempty]
    simp [String.isEmpty_iff.mp hempty]
  · rw [if_neg hempty, mapM_eq_ok_iff]
    simp only [ne_eq, ← String.isEmpty_iff, hempty, Bool.false_eq_true, not_false_eq_true,
      true_and]

theorem exists_piece_of_readList {t : String} {vs : List Nat} (h : readList .index t = .ok vs)
    {v : Nat} (hv : v ∈ vs) :
    ∃ q ∈ Text.split ',' t, Text.Numeral (Text.trim q).toList v ∧ v < wordLimit := by
  obtain ⟨q, hq, hqv⟩ := (readList_eq_ok_iff.mp h).2.exists_mem_of_mem_right v hv
  exact ⟨q, hq, readField_eq_ok_iff.mp hqv⟩

theorem exists_readList {t : String} (hne : Text.trim t ≠ "")
    (h : ∀ q ∈ Text.split ',' t, ∃ v, Text.Numeral (Text.trim q).toList v ∧ v < wordLimit) :
    ∃ vs, readList .index t = .ok vs := by
  obtain ⟨vs, hvs⟩ := exists_mapM_eq_ok (f := readField .index) fun q hq => by
    obtain ⟨v, hv⟩ := h q hq
    exact ⟨v, readField_eq_ok_iff.mpr hv⟩
  exact ⟨vs, readList_eq_ok_iff.mpr ⟨hne, mapM_eq_ok_iff.mp hvs⟩⟩

theorem Pattern.ofIndices?_of_max?_large {xs : List Nat} {m : Nat} (h : xs.max? = some m)
    (hm : wordLimit ≤ m + 1) : Pattern.ofIndices? xs = .error (.indexTooLarge m) := by
  unfold Pattern.ofIndices?
  split
  · simp_all
  · rename_i m' h'
    rw [h] at h'
    cases h'
    rw [dif_neg (Nat.not_lt.mpr hm)]

/-! ## Explicit lists through the compiler -/

theorem ne_nil_of_readList {what : Field} {t : String} {vs : List Nat}
    (h : readList what t = .ok vs) : vs ≠ [] := by
  intro hnil
  have hlen := (readList_eq_ok_iff.mp h).2.length_eq
  rw [hnil, List.length_nil, List.length_eq_zero_iff] at hlen
  exact Text.split_ne_nil ',' t hlen

theorem repeatShifted_of_readList {a : Allocator} {t : String} {vs : List Nat}
    (h : readList .index t = .ok vs)
    (hgrant : a.reserve "pattern" (Text.split ',' t).length = .ok ()) :
    Generate.repeatShifted a vs 0 1 = .ok vs := by
  obtain ⟨-, hpieces⟩ := readList_eq_ok_iff.mp h
  obtain ⟨m, hm⟩ := Option.isSome_iff_exists.mp
    (List.isSome_max?_of_mem (List.getLast_mem (ne_nil_of_readList h)))
  obtain ⟨q, -, hq⟩ := hpieces.exists_mem_of_mem_right m (List.max?_eq_some_iff.mp hm).1
  exact Generate.repeatShifted_zero_one hm (readField_eq_ok_iff.mp hq).2
    (hpieces.length_eq ▸ hgrant)

section Explicit

variable {a : Allocator} {s : String} (hcolon : ':' ∉ (Text.trim s).toList)
include hcolon

theorem compilePattern_of_no_colon :
    compilePattern a s =
      (readList .index (Text.trim s) >>= fun b => Generate.repeatShifted a b 0 1) >>=
        Pattern.ofIndices? := by
  rw [compilePattern_eq]
  unfold baseIndices
  simp only [Text.splitOnce_eq_none hcolon]

variable (hgrant : a.reserve "pattern" (Text.split ',' (Text.trim s)).length = .ok ())
include hgrant

theorem compilePattern_explicit :
    compilePattern a s = readList .index (Text.trim s) >>= Pattern.ofIndices? := by
  rw [compilePattern_of_no_colon hcolon]
  cases hvs : readList .index (Text.trim s) with
  | error e => rfl
  | ok vs => rw [ok_bind, ok_bind, repeatShifted_of_readList hvs hgrant, ok_bind]

theorem numerals_of_compilePattern_explicit {p : Pattern} (hp : compilePattern a s = .ok p) :
    Text.trim s ≠ "" ∧ ∀ q ∈ Text.split ',' (Text.trim s),
      ∃ v, Text.Numeral (Text.trim q).toList v ∧ v ≤ wordMax - 1 := by
  have hword := wordMax_add_one
  rw [compilePattern_explicit hcolon hgrant] at hp
  obtain ⟨vs, hvs, hp⟩ := bind_eq_ok.mp hp
  have hidx := Pattern.indices_of_ofIndices? hp
  obtain ⟨hne, hpieces⟩ := readList_eq_ok_iff.mp hvs
  refine ⟨by rwa [Text.trim_trim] at hne, fun q hq => ?_⟩
  obtain ⟨v, hv, hqv⟩ := hpieces.exists_mem_of_mem_left q hq
  have hle := p.le_maxIndex v (hidx ▸ hv)
  have hlt := p.maxIndex_lt
  exact ⟨v, (readField_eq_ok_iff.mp hqv).1, by omega⟩

theorem exists_compilePattern_explicit (hne : Text.trim s ≠ "")
    (hall : ∀ q ∈ Text.split ',' (Text.trim s),
      ∃ v, Text.Numeral (Text.trim q).toList v ∧ v ≤ wordMax - 1) :
    ∃ p, compilePattern a s = .ok p := by
  have hword := wordMax_add_one
  have hbig : 1 ≤ wordMax := by simp [wordMax_eq]
  obtain ⟨vs, hvs⟩ := exists_readList (by rwa [Text.trim_trim]) fun q hq => by
    obtain ⟨v, hv, hle⟩ := hall q hq
    exact ⟨v, hv, by omega⟩
  -- Every value is its piece's numeral, so it is at most `2 ^ 64 - 2`.
  have hbound : ∀ v ∈ vs, v ≤ wordMax - 1 := by
    intro v hv
    obtain ⟨q, hq, hqv, -⟩ := exists_piece_of_readList hvs hv
    obtain ⟨w, hqw, hle⟩ := hall q hq
    rwa [hqv.unique hqw]
  obtain ⟨m, hm⟩ := Option.isSome_iff_exists.mp
    (List.isSome_max?_of_mem (List.getLast_mem (ne_nil_of_readList hvs)))
  have hmle := hbound m (List.max?_eq_some_iff.mp hm).1
  obtain ⟨p, hp, -⟩ := Pattern.ofIndices?_of_max? hm (by omega)
  exact ⟨p, by rw [compilePattern_explicit hcolon hgrant, hvs, ok_bind, hp]⟩

theorem indices_of_compilePattern_explicit {p : Pattern} (hp : compilePattern a s = .ok p) :
    List.Forall₂ (fun q v => Text.Numeral (Text.trim q).toList v)
        (Text.split ',' (Text.trim s)) p.indices ∧
      p.length = (Text.trim s).toList.count ',' + 1 := by
  rw [compilePattern_explicit hcolon hgrant] at hp
  obtain ⟨vs, hvs, hp⟩ := bind_eq_ok.mp hp
  have hpieces := (readList_eq_ok_iff.mp hvs).2
  rw [Pattern.indices_of_ofIndices? hp]
  refine ⟨hpieces.imp fun q v h => (readField_eq_ok_iff.mp h).1, ?_⟩
  rw [Pattern.length, Pattern.indices_of_ofIndices? hp, ← hpieces.length_eq, Text.split,
    List.length_map, Text.length_splitChars]

theorem compilePattern_explicit_wordMax (hne : Text.trim s ≠ "")
    (hall : ∀ q ∈ Text.split ',' (Text.trim s),
      ∃ v, Text.Numeral (Text.trim q).toList v ∧ v < wordLimit)
    (hmax : ∃ q ∈ Text.split ',' (Text.trim s), Text.Numeral (Text.trim q).toList wordMax) :
    compilePattern a s = .error (.indexTooLarge wordMax) := by
  have hword := wordMax_add_one
  obtain ⟨q, hq, hqmax⟩ := hmax
  obtain ⟨vs, hvs⟩ := exists_readList (by rwa [Text.trim_trim]) hall
  -- The piece of value `2 ^ 64 - 1` gives the largest index.
  obtain ⟨v, hv, hqv⟩ := (readList_eq_ok_iff.mp hvs).2.exists_mem_of_mem_left q hq
  obtain ⟨hnum, -⟩ := readField_eq_ok_iff.mp hqv
  rw [hnum.unique hqmax] at hv
  have hm : vs.max? = some wordMax := List.max?_eq_some_iff.mpr ⟨hv, fun w hw => by
    obtain ⟨-, -, -, hlt⟩ := exists_piece_of_readList hvs hw
    omega⟩
  rw [compilePattern_explicit hcolon hgrant, hvs, ok_bind,
    Pattern.ofIndices?_of_max?_large hm (by omega)]

theorem toFault_of_compilePattern_explicit {e : PatternFault} (he : compilePattern a s = .error e) :
    e.toFault = .configuration e.reason := by
  refine PatternFault.toFault_of_ne_refused fun sh hsh => ?_
  subst hsh
  rw [compilePattern_explicit hcolon hgrant] at he
  -- A refusal comes from the reader or from the pattern, and neither refuses.
  rcases bind_eq_error he with hvs | ⟨vs, -, hp⟩
  · exact readList_ne_refused _ _ sh hvs
  · exact Pattern.ofIndices?_ne_refused vs sh hp

end Explicit

/-- A list of numerals compiles exactly when it is not blank and every piece is a numeral below
the largest word, to the pattern of those numbers. -/
theorem explicit_list_contract (a : Allocator) (s : String) (hcolon : ':' ∉ (Text.trim s).toList)
    (hgrant : a.reserve "pattern" (Text.split ',' (Text.trim s)).length = .ok ()) :
    let pieces := Text.split ',' (Text.trim s)
    ((∃ p, compilePattern a s = .ok p) ↔ Text.trim s ≠ "" ∧
        ∀ q ∈ pieces, ∃ v, Text.Numeral (Text.trim q).toList v ∧ v ≤ wordMax - 1) ∧
    (∀ p, compilePattern a s = .ok p →
        List.Forall₂ (fun q v => Text.Numeral (Text.trim q).toList v) pieces p.indices ∧
        p.length = (Text.trim s).toList.count ',' + 1) ∧
    (Text.trim s ≠ "" →
        (∀ q ∈ pieces, ∃ v, Text.Numeral (Text.trim q).toList v ∧ v < wordLimit) →
        (∃ q ∈ pieces, Text.Numeral (Text.trim q).toList wordMax) →
        compilePattern a s = .error (.indexTooLarge wordMax)) ∧
    (∀ q ∈ pieces, ∀ v, Text.Numeral (Text.trim q).toList v → wordLimit ≤ v →
        readField .index q = .error (.badNumber .index (Text.trim q) .tooLarge)) ∧
    (∀ e, compilePattern a s = .error e → e.toFault = .configuration e.reason) := by
  intro pieces
  refine ⟨⟨?accepted, ?reads⟩, ?values, ?largest, ?tooLarge, ?faults⟩
  case accepted =>
    rintro ⟨p, hp⟩
    exact numerals_of_compilePattern_explicit hcolon hgrant hp
  case reads =>
    rintro ⟨hne, hall⟩
    exact exists_compilePattern_explicit hcolon hgrant hne hall
  case values => exact fun p hp => indices_of_compilePattern_explicit hcolon hgrant hp
  case largest => exact compilePattern_explicit_wordMax hcolon hgrant
  case tooLarge => exact fun q _ v hv hlarge => readField_tooLarge hv hlarge
  case faults => exact fun e he => toFault_of_compilePattern_explicit hcolon hgrant he

theorem padded_list_with_sign_compiles :
    ':' ∉ (Text.trim " 4, +0 ,9 ").toList ∧
      (Allocator.upTo 24).reserve "pattern" (Text.split ',' (Text.trim " 4, +0 ,9 ")).length =
        .ok () ∧
      ∃ p, compilePattern (.upTo 24) " 4, +0 ,9 " = .ok p := by
  have hcolon : ':' ∉ (Text.trim " 4, +0 ,9 ").toList := by decide
  have hgrant : (Allocator.upTo 24).reserve "pattern"
      (Text.split ',' (Text.trim " 4, +0 ,9 ")).length = .ok () := by
    decide
  have hpieces : Text.split ',' (Text.trim " 4, +0 ,9 ") = ["4", " +0 ", "9"] := by decide
  refine ⟨hcolon, hgrant, (explicit_list_contract _ _ hcolon hgrant).1.mpr ⟨by decide, ?_⟩⟩
  rw [hpieces]
  intro q hq
  simp only [List.mem_cons, List.not_mem_nil, or_false] at hq
  rcases hq with rfl | rfl | rfl
  · exact ⟨4, ⟨['4'], .inl (by decide), by simp, by simp, by decide⟩, by decide⟩
  · exact ⟨0, ⟨['0'], .inr (by decide), by simp, by simp, by decide⟩, by decide⟩
  · exact ⟨9, ⟨['9'], .inl (by decide), by simp, by simp, by decide⟩, by decide⟩

end GatherScatter
