import DemandRouting.Performance.Percentile
import DemandRouting.Proofs.Number.Rounding

namespace DemandRouting.Percentile

open Number Float.Model Float.Model.UnpackedFloat

theorem ascending_perm (samples : List UInt64) : (ascending samples).Perm samples :=
  List.mergeSort_perm _ _

theorem ascending_pairwise (samples : List UInt64) :
    (ascending samples).Pairwise (· ≤ ·) := by
  have htrans : ∀ a b c : UInt64, decide (a ≤ b) = true → decide (b ≤ c) = true →
      decide (a ≤ c) = true := by
    intro a b c hab hbc
    rw [decide_eq_true_eq] at hab hbc ⊢
    exact UInt64.le_trans hab hbc
  have htotal : ∀ a b : UInt64, (decide (a ≤ b) || decide (b ≤ a)) = true := by
    intro a b
    simpa using UInt64.le_total a b
  exact (List.pairwise_mergeSort htrans htotal samples).imp of_decide_eq_true

theorem ascending_eq_of_perm {samples samples' : List UInt64} (h : samples.Perm samples') :
    ascending samples = ascending samples' := by
  have hperm := (ascending_perm samples).trans (h.trans (ascending_perm samples').symm)
  exact hperm.eq_of_pairwise (fun _ _ _ _ => UInt64.le_antisymm) (ascending_pairwise samples)
    (ascending_pairwise samples')

theorem p95?_perm {samples samples' : List UInt64} (h : samples.Perm samples') :
    p95? samples = p95? samples' := by
  rw [p95?, p95?, ascending_eq_of_perm h, h.length_eq]

theorem p95_perm {samples samples' : List UInt64} (h : samples.Perm samples') :
    p95 samples = p95 samples' := by
  rw [p95, p95, p95?_perm h]

-- Where the percentile stands in ascending order.
def position (n : Nat) : Nat := min (rankOf n - 1) (n - 1)

-- At most that many samples are smaller, and more than that many are not greater.
structure IsRanked (samples : List UInt64) (x : UInt64) : Prop where
  mem : x ∈ samples
  below : samples.countP (· < x) ≤ position samples.length
  upTo : position samples.length < samples.countP (· ≤ x)

-- Around its position, an ascending list has what is smaller in front and what is greater behind.
theorem countP_of_pairwise {sorted : List UInt64} (h : sorted.Pairwise (· ≤ ·)) {i : Nat}
    {x : UInt64} (hx : sorted[i]? = some x) :
    sorted.countP (· < x) ≤ i ∧ i < sorted.countP (· ≤ x) := by
  induction sorted generalizing i with
  | nil => simp at hx
  | cons first sorted ih =>
    obtain ⟨hfirst, hsorted⟩ := List.pairwise_cons.mp h
    cases i with
    | zero =>
      obtain rfl : first = x := by simpa using hx
      have hbelow : (first :: sorted).countP (· < first) = 0 := by
        rw [List.countP_eq_zero]
        intro y hy
        have hle : first ≤ y := by
          rcases List.mem_cons.mp hy with rfl | hy
          · exact UInt64.le_refl y
          · exact hfirst y hy
        simpa using hle
      have hupTo : 0 < (first :: sorted).countP (· ≤ first) :=
        List.countP_pos_iff.mpr ⟨first, by simp, by simp⟩
      exact ⟨by omega, hupTo⟩
    | succ i =>
      rw [List.getElem?_cons_succ] at hx
      obtain ⟨hbelow, hupTo⟩ := ih hsorted hx
      have hle : first ≤ x := hfirst x (List.mem_of_getElem? hx)
      rw [List.countP_cons, List.countP_cons, if_pos (decide_eq_true hle)]
      constructor
      · split <;> omega
      · omega

theorem position_lt {n : Nat} (h : 0 < n) : position n < n := by
  unfold position
  omega

theorem p95?_isRanked {samples : List UInt64} (h : samples ≠ []) :
    ∃ x, p95? samples = some x ∧ IsRanked samples x := by
  have hperm := ascending_perm samples
  have hpos := position_lt (List.length_pos_iff.mpr h)
  obtain ⟨x, hx⟩ : ∃ x, (ascending samples)[position samples.length]? = some x := by
    rw [← hperm.length_eq] at hpos ⊢
    exact ⟨_, List.getElem?_eq_getElem hpos⟩
  obtain ⟨hbelow, hupTo⟩ := countP_of_pairwise (ascending_pairwise samples) hx
  rw [hperm.countP_eq] at hbelow hupTo
  exact ⟨x, hx, hperm.mem_iff.mp (List.mem_of_getElem? hx), hbelow, hupTo⟩

theorem p95_nil : p95 [] = 0.0 := by simp [p95, p95?, ascending]

theorem p95_of_some {samples : List UInt64} {x : UInt64} (h : p95? samples = some x) :
    p95 samples = x.toFloat := by
  rw [p95, h, Option.map_some, Option.getD_some]

-- The percentile without any sorting: the sample of that rank, and zero where there is none.
structure IsNearestRank (samples : List UInt64) (p : Float) : Prop where
  empty : samples = [] → p = 0.0
  ranked : samples ≠ [] → ∃ x, IsRanked samples x ∧ p = x.toFloat

theorem p95_isNearestRank (samples : List UInt64) : IsNearestRank samples (p95 samples) where
  empty h := by rw [h, p95_nil]
  ranked h := by
    obtain ⟨x, hx, hranked⟩ := p95?_isRanked h
    exact ⟨x, hranked, p95_of_some hx⟩

-- The mantissa of 95 hundredths, 8 twentieths of its last place short of 19 twentieths.
def hundredths : Nat := 8556839292003942

theorem full_hundredths : Full hundredths := ⟨by decide, by decide⟩

theorem unpack_hundredths :
    (0.95 : Float).toModel.unpack =
      .finite .positive hundredths (-53) full_hundredths.positive := by
  rfl

section Product

-- The product is `m` places, `2 ^ d` of which make one, and was `2 ^ j` times as long before it was
-- rounded to them.
variable {n k m d i j rank : Nat} (hscale : 2 ^ d * 2 ^ j = 2 ^ k * 2 ^ 53)

include hscale

-- 95 hundredths that are no whole number are a twentieth above the next lower one at least, and the
-- product loses far less than that.
theorem reaches_of_near (hshort : 13 ≤ k) (hi : i ≤ 53) (hbelow : n * 2 ^ k < 2 ^ 53)
    (habove : m ≤ rank * 2 ^ d)
    (hnear : 2 * (n * 2 ^ k * hundredths) ≤ 2 * (m * 2 ^ j) + 2 ^ i) : 19 * n ≤ 20 * rank := by
  by_contra hlow
  have hlow : (20 * rank + 1) * 2 ^ k ≤ 19 * n * 2 ^ k := Nat.mul_le_mul_right _ (by omega)
  have hplaces : 2 ^ 13 ≤ 2 ^ k := Nat.pow_le_pow_right (by decide) hshort
  have hlost : 2 ^ i ≤ 2 ^ 53 := Nat.pow_le_pow_right (by decide) hi
  have hsize : m * 2 ^ j ≤ rank * 2 ^ k * 2 ^ 53 := by
    calc m * 2 ^ j ≤ rank * 2 ^ d * 2 ^ j := Nat.mul_le_mul_right _ habove
      _ = rank * 2 ^ k * 2 ^ 53 := by rw [Nat.mul_assoc, hscale, Nat.mul_assoc]
  rw [Nat.add_mul, Nat.one_mul, Nat.mul_assoc, Nat.mul_assoc] at hlow
  rw [hundredths] at hnear
  omega

-- Nor is it rounded past a whole number that 95 hundredths do not exceed.
theorem least_of_near (hij : i ≤ j) (hleast : rank * 2 ^ d < m + 2 ^ d)
    (hnear : 2 * (m * 2 ^ j) ≤ 2 * (n * 2 ^ k * hundredths) + 2 ^ i) :
    20 * rank < 19 * n + 20 := by
  by_contra hhigh
  obtain ⟨lower, rfl⟩ : ∃ lower, rank = lower + 1 := ⟨rank - 1, by omega⟩
  have hhigh : 19 * n * 2 ^ k ≤ 20 * lower * 2 ^ k := Nat.mul_le_mul_right _ (by omega)
  rw [Nat.mul_assoc, Nat.mul_assoc] at hhigh
  rw [hundredths] at hnear
  have hpast : 2 * m * 2 ^ j ≤ (2 * (lower * 2 ^ d) + 1) * 2 ^ j := by
    calc 2 * m * 2 ^ j ≤ 2 * (n * 2 ^ k * 8556839292003942) + 2 ^ i := by
          rw [Nat.mul_assoc]
          exact hnear
      _ ≤ 2 * (lower * 2 ^ k * 2 ^ 53) + 2 ^ j := by
          apply Nat.add_le_add _ (Nat.pow_le_pow_right (by decide) hij)
          omega
      _ = (2 * (lower * 2 ^ d) + 1) * 2 ^ j := by
          rw [Nat.mul_assoc lower, ← hscale]
          ring
  have hpast := Nat.le_of_mul_le_mul_right hpast (Nat.two_pow_pos j)
  rw [Nat.succ_mul] at hleast
  omega

end Product

-- The least rank that 95 hundredths of the samples do not exceed.
theorem rankOf_bounds {n : Nat} (hpos : 0 < n) (h : n < 2 ^ 40) :
    19 * n ≤ 20 * rankOf n ∧ 20 * rankOf n < 19 * n + 20 := by
  obtain ⟨k, hshort, hk, hfull⟩ := exists_full hpos h (by decide)
  obtain ⟨m, i, j, hm, hi, hj, hproduct, hless, hmore⟩ :=
    mul_near hfull full_hundredths (unpack_ofNat (by omega) hfull) unpack_hundredths (by omega)
      (by omega)
  obtain ⟨d, hd⟩ : ∃ d, d + j = k + 53 := ⟨k + 53 - j, by omega⟩
  have hscale : 2 ^ d * 2 ^ j = 2 ^ k * 2 ^ 53 := by rw [← Nat.pow_add, ← Nat.pow_add, hd]
  have hexponent : -(k : Int) + -53 + j = -d := by omega
  rw [hexponent] at hproduct
  obtain ⟨habove, hleast⟩ := ceilNat_bounds hm hproduct
  exact ⟨reaches_of_near hscale (by omega) hi hfull.below habove hless,
    least_of_near hscale (by omega) hleast hmore⟩

theorem rankOf_eq {n : Nat} (hpos : 0 < n) (h : n < 2 ^ 40) : rankOf n = (19 * n + 19) / 20 := by
  obtain ⟨hreaches, hleast⟩ := rankOf_bounds hpos h
  omega

-- There are as many samples as the rank says, so that no bound on the place acts.
theorem position_add_one {n : Nat} (hpos : 0 < n) (h : n < 2 ^ 40) : position n + 1 = rankOf n := by
  obtain ⟨hreaches, hleast⟩ := rankOf_bounds hpos h
  unfold position
  omega

-- One of the samples, with 95 hundredths of them up to it and less than that below it.
structure IsP95 (samples : List UInt64) (x : UInt64) : Prop where
  mem : x ∈ samples
  upTo : 19 * samples.length ≤ 20 * samples.countP (· ≤ x)
  below : 20 * samples.countP (· < x) < 19 * samples.length

theorem IsRanked.isP95 {samples : List UInt64} {x : UInt64} (h : IsRanked samples x)
    (hshort : samples.length < 2 ^ 40) : IsP95 samples x := by
  have hpos : 0 < samples.length := List.length_pos_of_mem h.mem
  obtain ⟨hreaches, hleast⟩ := rankOf_bounds hpos hshort
  have hposition := position_add_one hpos hshort
  have hupTo := h.upTo
  have hbelow := h.below
  exact ⟨h.mem, by omega, by omega⟩

-- Of two such samples the greater one would have all that is up to the smaller one below it, and
-- that is 95 hundredths of them already.
theorem IsP95.le {samples : List UInt64} {x y : UInt64} (hx : IsP95 samples x)
    (hy : IsP95 samples y) : y ≤ x := by
  by_contra hnot
  have hxy : x < y := UInt64.not_le.mp hnot
  have hcount : samples.countP (· ≤ x) ≤ samples.countP (· < y) := by
    apply List.countP_mono_left
    intro z _ hz
    rw [decide_eq_true_eq] at hz ⊢
    exact UInt64.lt_of_le_of_lt hz hxy
  have hupTo := hx.upTo
  have hbelow := hy.below
  omega

theorem IsP95.eq {samples : List UInt64} {x y : UInt64} (hx : IsP95 samples x)
    (hy : IsP95 samples y) : x = y :=
  UInt64.le_antisymm (hy.le hx) (hx.le hy)

-- The rank of the percentile is 95 hundredths of the samples, rounded up, and names a place of the
-- list, so that neither bound on the index acts. The sample there is the only one with 95
-- hundredths of the samples up to it and less than that below it, in whatever order they come.
theorem p95?_isOnlyP95 {samples : List UInt64} (hne : samples ≠ [])
    (hshort : samples.length < 2 ^ 40) :
    position samples.length < samples.length ∧
      position samples.length + 1 = rankOf samples.length ∧
      rankOf samples.length = (19 * samples.length + 19) / 20 ∧
      p95? samples = (ascending samples)[position samples.length]? ∧
      ∃ x, p95? samples = some x ∧ p95 samples = x.toFloat ∧ IsP95 samples x ∧
        (∀ y, IsP95 samples y → y = x) ∧
        ∀ samples', samples.Perm samples' → p95? samples' = some x := by
  have hpos : 0 < samples.length := List.length_pos_iff.mpr hne
  obtain ⟨x, hx, hranked⟩ := p95?_isRanked hne
  have hp95 : IsP95 samples x := hranked.isP95 hshort
  refine ⟨position_lt hpos, position_add_one hpos hshort, rankOf_eq hpos hshort, rfl, x,
    hx, p95_of_some hx, hp95, fun y hy => hy.eq hp95, fun samples' hperm => ?_⟩
  rw [← p95?_perm hperm, hx]

-- Of twenty samples the last but one in ascending order, and not the last.
def twentySamples : List UInt64 :=
  [40, 7, 19, 3, 250, 40, 12, 0, 33, 90, 18, 7, 61, 25, 4, 40, 18446744073709551615, 9, 71, 15]

theorem p95?_isOnlyP95_twentySamples :
    twentySamples ≠ [] ∧ twentySamples.length < 2 ^ 40 ∧ rankOf twentySamples.length = 19 ∧
      p95? twentySamples = some 250 ∧ p95? twentySamples.reverse = some 250 := by
  have hne : twentySamples ≠ [] := by decide
  have hshort : twentySamples.length < 2 ^ 40 := by decide
  obtain ⟨-, -, hrank, -, x, hx, -, -, honly, hperm⟩ := p95?_isOnlyP95 hne hshort
  have hp95 : IsP95 twentySamples 250 := ⟨by decide, by decide, by decide⟩
  obtain rfl : 250 = x := honly 250 hp95
  exact ⟨hne, hshort, hrank, hx, hperm _ twentySamples.reverse_perm.symm⟩

end DemandRouting.Percentile
