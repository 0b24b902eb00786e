import GatherScatter.Proofs.Contents
import GatherScatter.Proofs.WordDoubles
/-! # Buffers drawn from one key stream, dense values first -/

namespace GatherScatter

namespace Random

/-- The key stream's word at position `k`: word `k % 16` of the block with counter `k / 16`. -/
def wordAt (key : Vector UInt32 8) (k : Nat) : UInt32 := (block key (k / 16))[k % 16]

theorem getElem?_blockWords (key : Vector UInt32 8) (first n j : Nat) :
    (blockWords key first n)[j]? =
      if j < 16 * n then some (wordAt key (16 * first + j)) else none := by
  induction n generalizing first j with
  | zero => simp [blockWords]
  | succ n ih =>
    rw [blockWords, List.getElem?_append, Vector.length_toList, ih]
    by_cases hj : j < 16
    · -- Within the first block a word keeps its place.
      have hdiv : (16 * first + j) / 16 = first := by omega
      have hmod : (16 * first + j) % 16 = j := by omega
      simp [hj, wordAt, hdiv, hmod, show j < 16 * (n + 1) by omega]
    · -- Past it, the rest of the stream starts one block later.
      have hpos : 16 * (first + 1) + (j - 16) = 16 * first + j := by omega
      have hlt : j - 16 < 16 * n ↔ j < 16 * (n + 1) := by omega
      simp only [hj, if_false, hpos, hlt]

theorem getElem?_words (key : Vector UInt32 8) (start count i : Nat) :
    (words key start count)[i]? = if i < count then some (wordAt key (start + i)) else none := by
  unfold words
  rw [List.getElem?_take, List.getElem?_drop, getElem?_blockWords]
  by_cases hi : i < count
  · -- The blocks asked for reach past the last word wanted.
    have hin : start % 16 + i < 16 * ((start + count + 15) / 16 - start / 16) := by omega
    have hpos : 16 * (start / 16) + (start % 16 + i) = start + i := by omega
    simp [hi, hin, hpos]
  · simp [hi]

theorem words_eq_map_range (key : Vector UInt32 8) (start count : Nat) :
    words key start count = (List.range count).map (fun i => wordAt key (start + i)) := by
  apply List.ext_getElem?
  intro i
  rw [getElem?_words, List.getElem?_map]
  by_cases hi : i < count <;> simp [hi]

end Random

namespace Buffers

theorem toList_draw (seed start count : Nat) :
    (draw seed start count).toList = (List.range count).map
      fun i => sample (Random.wordAt (Random.keyOfSeed seed) (start + i)) := by
  simp [draw, Random.words_eq_map_range]

theorem draw_prefix_of_le (seed start : Nat) {m m' : Nat} (h : m ≤ m') :
    (draw seed start m).toList <+: (draw seed start m').toList := by
  obtain ⟨k, rfl⟩ := Nat.exists_eq_add_of_le h
  rw [toList_draw, toList_draw, List.range_add, List.map_append]
  exact List.prefix_append _ _

theorem reserve_of_allocate_eq_ok {a : Allocator} {p : Pattern} {seed : Nat} {b : Buffers}
    (h : allocate a p seed = .ok b) :
    a.reserve "dense buffer" p.length = .ok () ∧
      a.reserve "sparse buffer" p.sparseLength = .ok () := by
  rcases allocate_cases a p seed with ⟨s, -, ha, -⟩ | ⟨s, -, -, ha, -⟩ | ⟨hd, hs, -, -⟩
  · rw [ha] at h; cases h
  · rw [ha] at h; cases h
  · exact ⟨hd, hs⟩

theorem bytes_of_allocate_eq_ok {a : Allocator} {p : Pattern} {seed : Nat} {b : Buffers}
    (h : allocate a p seed = .ok b) :
    b.bytes = (p.length + p.sparseLength) * elementBytes ∧ b.bytes < wordLimit := by
  obtain ⟨hd, hs⟩ := reserve_of_allocate_eq_ok h
  have hdense := Allocator.bytes_le_of_reserve hd
  have hsparse := Allocator.bytes_le_of_reserve hs
  have hsize : b.bytes = (p.length + p.sparseLength) * elementBytes := by
    rw [allocate_eq_ok h, bytes, size_draw, size_draw]
  refine ⟨hsize, ?_⟩
  have hobject : objectLimit = 2 ^ 63 - 1 := rfl
  have hword : wordLimit = 2 ^ 64 := rfl
  rw [hobject] at hdense hsparse
  rw [hsize, hword, Nat.add_mul]
  omega

/-- Granted buffers are the seed's stream words, dense values first, each shifted and made an
exact double. -/
theorem allocate_one_stream {a : Allocator} {p : Pattern} {seed : Nat} {b : Buffers}
    (h : allocate a p seed = .ok b) :
    b.dense.toList = (List.range p.length).map
        (fun i => (Random.wordAt (Random.keyOfSeed seed) i >>> 1).toFloat) ∧
    b.sparse.toList = (List.range p.sparseLength).map
        (fun j => (Random.wordAt (Random.keyOfSeed seed) (p.length + j) >>> 1).toFloat) ∧
    (∀ v ∈ b.dense.toList ++ b.sparse.toList, ∃ w : UInt32, w.toNat < 2 ^ 31 ∧ v = w.toFloat ∧
      ∃ s : Nat, Decimal.decode v = .finite false (w.toNat * 2 ^ s) (-(s : Int))) ∧
    b.bytes = (p.length + p.sparseLength) * elementBytes ∧ b.bytes < wordLimit ∧
    ∀ (a' : Allocator) (q : Pattern) (c : Buffers), allocate a' q seed = .ok c →
      q.length = p.length →
      c.dense = b.dense ∧
        (c.sparse.toList <+: b.sparse.toList ∨ b.sparse.toList <+: c.sparse.toList) := by
  have hb := allocate_eq_ok h
  obtain ⟨hbytes, hfits⟩ := bytes_of_allocate_eq_ok h
  refine ⟨?dense, ?sparse, ?values, hbytes, hfits, ?others⟩
  case dense => simp [hb, toList_draw, sample]
  case sparse => simp [hb, toList_draw, sample]
  case values =>
    -- Each value is a word below `2 ^ 31` made a double, and that conversion is exact.
    intro v hv
    rw [hb] at hv
    have hdrawn : v ∈ draw seed 0 p.length ∨ v ∈ draw seed p.length p.sparseLength := by
      rcases List.mem_append.mp hv with hv | hv
      · exact .inl (Array.mem_toList_iff.mp hv)
      · exact .inr (Array.mem_toList_iff.mp hv)
    obtain ⟨w, hw, rfl⟩ := hdrawn.elim sample_of_mem_draw sample_of_mem_draw
    exact ⟨w, hw, rfl, Decimal.decode_toFloat w⟩
  case others =>
    -- Another pattern of the same length draws the same dense values and then its sparse values
    -- from the same position.
    intro a' q c hc hlen
    rw [allocate_eq_ok hc, hb, hlen]
    refine ⟨rfl, ?_⟩
    rcases Nat.le_total q.sparseLength p.sparseLength with hle | hle
    · exact .inl (draw_prefix_of_le seed p.length hle)
    · exact .inr (draw_prefix_of_le seed p.length hle)

theorem equal_lengths_share_dense_values :
    ∃ b c, allocate (.upTo 128) ⟨[3, 0, 7], 7, by decide, by decide, by decide⟩ 1 = .ok b ∧
      allocate (.upTo 128) ⟨[0, 5, 9], 9, by decide, by decide, by decide⟩ 1 = .ok c ∧
      c.dense = b.dense ∧
      (c.sparse.toList <+: b.sparse.toList ∨ b.sparse.toList <+: c.sparse.toList) := by
  have hb : allocate (.upTo 128) ⟨[3, 0, 7], 7, by decide, by decide, by decide⟩ 1 =
      .ok ⟨draw 1 0 3, draw 1 3 8⟩ := by rfl
  have hc : allocate (.upTo 128) ⟨[0, 5, 9], 9, by decide, by decide, by decide⟩ 1 =
      .ok ⟨draw 1 0 3, draw 1 3 10⟩ := by rfl
  obtain ⟨-, -, -, -, -, hsame⟩ := allocate_one_stream hb
  exact ⟨_, _, hb, hc, hsame _ _ _ hc rfl⟩

end Buffers

end GatherScatter
