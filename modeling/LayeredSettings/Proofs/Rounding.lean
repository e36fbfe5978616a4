import LayeredSettings.Binary64.Basic
import Mathlib.Tactic.Ring

set_option autoImplicit false

/-! # Whole numbers in binary64

`Binary64.nearest n` is the whole number that the format has for `n`: `n` itself below `2 ^ 53`, and
beyond that the nearest number of 53 binary digits with zeros behind them. Sums and products of whole
numbers are those of arithmetic, rounded by `nearest` (`Shows.add`, `Shows.mul`), and `nearest`
changes a number by at most its share of one in `2 ^ 53` (`nearest_error`). -/

namespace LayeredSettings.Binary64

/-! ## Division to the nearest -/

theorem roundDiv_mul_right (num den : Nat) {c : Nat} (hc : 0 < c) :
    roundDiv (num * c) (den * c) = roundDiv num den := by
  have hlt : den * c < 2 * (num % den * c) ↔ den < 2 * (num % den) := by
    rw [← Nat.mul_assoc, Nat.mul_lt_mul_right hc]
  have heq : 2 * (num % den * c) = den * c ↔ 2 * (num % den) = den := by
    rw [← Nat.mul_assoc, Nat.mul_left_inj (Nat.ne_of_gt hc)]
  simp only [roundDiv, Nat.mul_div_mul_right _ _ hc, Nat.mul_mod_mul_right, hlt, heq]

theorem roundDiv_one (n : Nat) : roundDiv n 1 = n := by
  simp [roundDiv, Nat.mod_one]

theorem div_le_roundDiv (num den : Nat) : num / den ≤ roundDiv num den := by
  unfold roundDiv
  dsimp only
  split <;> omega

/-- A rounded quotient is off by at most half of the divisor. -/
theorem roundDiv_error (num : Nat) {den : Nat} (hden : 0 < den) :
    2 * num ≤ 2 * (roundDiv num den * den) + den
      ∧ 2 * (roundDiv num den * den) ≤ 2 * num + den := by
  have hsplit := Nat.div_add_mod' num den
  have hrem := Nat.mod_lt num hden
  unfold roundDiv
  dsimp only
  split
  · rw [Nat.add_mul, Nat.one_mul]
    omega
  · omega

/-! ## The nearest whole number -/

/-- The whole number of 53 binary digits, with zeros behind them, that is nearest to `n`. -/
def nearest (n : Nat) : Nat :=
  roundDiv n (2 ^ (Nat.log2 n - 52)) * 2 ^ (Nat.log2 n - 52)

theorem log2_mono {n k : Nat} (h : n ≤ k) : Nat.log2 n ≤ Nat.log2 k := by
  by_cases hn : n = 0
  · simp [hn]
  · have hk : k ≠ 0 := by omega
    exact (Nat.le_log2 hk).2 (Nat.le_trans (Nat.log2_self_le hn) h)

theorem log2_mul_two_pow {n : Nat} (hn : n ≠ 0) (j : Nat) :
    Nat.log2 (n * 2 ^ j) = Nat.log2 n + j := by
  have hpos : 0 < 2 ^ j := Nat.two_pow_pos j
  rw [Nat.log2_eq_iff (Nat.mul_ne_zero hn (Nat.ne_of_gt hpos)), Nat.pow_add, Nat.add_right_comm,
    Nat.pow_add]
  exact ⟨Nat.mul_le_mul_right _ (Nat.log2_self_le hn), Nat.mul_lt_mul_of_pos_right Nat.lt_log2_self hpos⟩

/-- Numbers of at most 53 binary digits are in the format. -/
theorem nearest_of_lt {n : Nat} (h : n < 2 ^ 53) : nearest n = n := by
  have hlog : Nat.log2 n - 52 = 0 := by
    by_cases hn : n = 0
    · simp [hn]
    · have := (Nat.log2_lt hn).2 h
      omega
  rw [nearest, hlog, Nat.pow_zero, roundDiv_one, Nat.mul_one]

theorem two_pow_log2_le {n : Nat} (h : 2 ^ 53 ≤ n) :
    2 ^ Nat.log2 n = 2 ^ 52 * 2 ^ (Nat.log2 n - 52) ∧ 2 ^ 52 * 2 ^ (Nat.log2 n - 52) ≤ n := by
  have hn : n ≠ 0 := by omega
  have hlog : 53 ≤ Nat.log2 n := (Nat.le_log2 hn).2 h
  have hpow : 2 ^ Nat.log2 n = 2 ^ 52 * 2 ^ (Nat.log2 n - 52) := by
    rw [← Nat.pow_add, Nat.add_sub_cancel' (by omega)]
  exact ⟨hpow, hpow ▸ Nat.log2_self_le hn⟩

/-- **Rounding loses little.** It changes a whole number by at most one part in `2 ^ 53`. -/
theorem nearest_error (n : Nat) :
    (2 ^ 53 - 1) * n ≤ 2 ^ 53 * nearest n ∧ 2 ^ 53 * nearest n ≤ (2 ^ 53 + 1) * n := by
  by_cases h : n < 2 ^ 53
  · rw [nearest_of_lt h]
    omega
  · obtain ⟨-, hle⟩ := two_pow_log2_le (Nat.le_of_not_lt h)
    have herror := roundDiv_error n (Nat.two_pow_pos (Nat.log2 n - 52))
    rw [nearest]
    omega

theorem two_pow_log2_le_nearest {n : Nat} (hn : n ≠ 0) : 2 ^ Nat.log2 n ≤ nearest n := by
  by_cases h : n < 2 ^ 53
  · rw [nearest_of_lt h]
    exact Nat.log2_self_le hn
  · obtain ⟨hpow, hle⟩ := two_pow_log2_le (Nat.le_of_not_lt h)
    have hquotient : 2 ^ 52 ≤ n / 2 ^ (Nat.log2 n - 52) :=
      (Nat.le_div_iff_mul_le (Nat.two_pow_pos _)).2 hle
    rw [hpow, nearest]
    exact Nat.mul_le_mul_right _ (Nat.le_trans hquotient (div_le_roundDiv _ _))

/-- Rounding keeps the number of binary digits, or adds one. -/
theorem log2_le_log2_nearest (n : Nat) : Nat.log2 n ≤ Nat.log2 (nearest n) := by
  by_cases hn : n = 0
  · simp [hn]
  · have hpow := two_pow_log2_le_nearest hn
    have hne : nearest n ≠ 0 := Nat.ne_of_gt (Nat.lt_of_lt_of_le (Nat.two_pow_pos _) hpow)
    exact (Nat.le_log2 hne).2 hpow

/-! ## Whole numbers and what stands for them -/

/-- The whole number `n` is `m * 2 ^ e`. -/
def Counts (m : Nat) (e : Int) (n : Nat) : Prop :=
  m * 2 ^ e.toNat = n * 2 ^ (-e).toNat

/-- The number is the whole number `n`, or it is infinite because `n` is far beyond the range. -/
inductive Shows : Binary64 → Nat → Prop where
  | finite {m n : Nat} {e : Int} (counts : Counts m e n) : Shows (.finite false m e) n
  | infinite {n : Nat} (large : 1000 ≤ Nat.log2 n) : Shows (.infinite false) n

/-- A whole number, counted in steps that are no longer than those of the number and than one. -/
theorem counts_iff {m n : Nat} {e base : Int} (he : base ≤ e) (hbase : base ≤ 0) :
    Counts m e n ↔ m * 2 ^ (e - base).toNat = n * 2 ^ (-base).toNat := by
  unfold Counts
  by_cases h : 0 ≤ e
  · have hleft : (e - base).toNat = e.toNat + (-base).toNat := by omega
    have hzero : (-e).toNat = 0 := by omega
    rw [hleft, hzero, Nat.pow_add, ← Nat.mul_assoc, Nat.pow_zero, Nat.mul_one,
      Nat.mul_left_inj (Nat.ne_of_gt (Nat.two_pow_pos _))]
  · have hright : (-base).toNat = (-e).toNat + (e - base).toNat := by omega
    have hzero : e.toNat = 0 := by omega
    rw [hright, hzero, Nat.pow_add, ← Nat.mul_assoc, Nat.pow_zero, Nat.mul_one,
      Nat.mul_left_inj (Nat.ne_of_gt (Nat.two_pow_pos _))]

theorem counts_double {m n : Nat} {e : Int} : Counts (2 * m) e n ↔ Counts m (e + 1) n := by
  have hbase : min e 0 ≤ e := Int.min_le_left e 0
  have hnonpos : min e 0 ≤ 0 := Int.min_le_right e 0
  have hstep : (e + 1 - min e 0).toNat = (e - min e 0).toNat + 1 := by omega
  rw [counts_iff hbase hnonpos, counts_iff (by omega : min e 0 ≤ e + 1) hnonpos, hstep, Nat.pow_succ,
    Nat.mul_comm 2 m, Nat.mul_assoc, Nat.mul_comm 2]

/-- Only zero counts as zero. -/
theorem Counts.eq_zero_iff {m n : Nat} {e : Int} (h : Counts m e n) : m = 0 ↔ n = 0 := by
  have hsame : m * 2 ^ e.toNat = 0 ↔ n * 2 ^ (-e).toNat = 0 := by rw [h]
  have hpow : ∀ j : Nat, 2 ^ j ≠ 0 := fun j => Nat.ne_of_gt (Nat.two_pow_pos j)
  simpa only [Nat.mul_eq_zero, hpow, or_false] using hsame

/-- Numbers are added when they are counted in the same steps. -/
theorem Counts.add {m l n k : Nat} {e f : Int} (hm : Counts m e n) (hl : Counts l f k) :
    Counts (m * 2 ^ (e - min e f).toNat + l * 2 ^ (f - min e f).toNat) (min e f) (n + k) := by
  let base := min (min e f) 0
  have hlow : base ≤ min e f := Int.min_le_left _ _
  have hbase : base ≤ 0 := Int.min_le_right _ _
  have hsteps : ∀ g : Int, min e f ≤ g →
      (g - base).toNat = (g - min e f).toNat + (min e f - base).toNat := by
    intro g hg
    omega
  rw [counts_iff (by omega : base ≤ e) hbase, hsteps e (by omega), Nat.pow_add] at hm
  rw [counts_iff (by omega : base ≤ f) hbase, hsteps f (by omega), Nat.pow_add] at hl
  rw [counts_iff hlow hbase, Nat.add_mul, Nat.add_mul, Nat.mul_assoc, Nat.mul_assoc, hm, hl]

theorem Counts.mul {m l n k : Nat} {e f : Int} (hm : Counts m e n) (hl : Counts l f k) :
    Counts (m * l) (e + f) (n * k) := by
  let low := min e 0
  let base := min f 0
  have hlow : low ≤ e ∧ low ≤ 0 := ⟨Int.min_le_left _ _, Int.min_le_right _ _⟩
  have hbase : base ≤ f ∧ base ≤ 0 := ⟨Int.min_le_left _ _, Int.min_le_right _ _⟩
  have hleft : (e + f - (low + base)).toNat = (e - low).toNat + (f - base).toNat := by omega
  have hright : (-(low + base)).toNat = (-low).toNat + (-base).toNat := by omega
  rw [counts_iff hlow.1 hlow.2] at hm
  rw [counts_iff hbase.1 hbase.2] at hl
  rw [counts_iff (by omega : low + base ≤ e + f) (by omega), hleft, hright, Nat.pow_add,
    Nat.pow_add, Nat.mul_mul_mul_comm, hm, hl, Nat.mul_mul_mul_comm]

/-! ## Rounding a ratio that is whole -/

section Ratio

variable {n : Nat} (hn : n ≠ 0) (j : Nat)
include hn

theorem stepExponent_of_whole : stepExponent (n * 2 ^ j) (2 ^ j) = (Nat.log2 n : Int) - 52 := by
  have htop : (Nat.log2 (n * 2 ^ j) : Int) - (Nat.log2 (2 ^ j) : Int) = Nat.log2 n := by
    rw [log2_mul_two_pow hn, Nat.log2_two_pow]
    omega
  have hreach : powLeRatio (Nat.log2 n) (n * 2 ^ j) (2 ^ j) = true := by
    rw [powLeRatio, if_pos (Int.natCast_nonneg _), decide_eq_true_iff, Int.toNat_natCast, Nat.mul_comm]
    exact Nat.mul_le_mul_right _ (Nat.log2_self_le hn)
  unfold stepExponent
  dsimp only
  rw [htop, hreach, if_pos rfl, leastExponent]
  omega

/-- The significand that a whole number is rounded to. -/
theorem counts_significand {e : Int} (he : e = (Nat.log2 n : Int) - 52) :
    Counts
      (if 0 ≤ e then roundDiv (n * 2 ^ j) (2 ^ j * twoPow e.toNat)
        else roundDiv (n * 2 ^ j * twoPow (-e).toNat) (2 ^ j)) e (nearest n) := by
  have hpos : 0 < 2 ^ j := Nat.two_pow_pos j
  unfold Counts
  by_cases h : 0 ≤ e
  · have hsteps : e.toNat = Nat.log2 n - 52 := by omega
    have hzero : (-e).toNat = 0 := by omega
    rw [if_pos h, Nat.mul_comm (2 ^ j), roundDiv_mul_right _ _ hpos, hzero, Nat.pow_zero, Nat.mul_one,
      hsteps]
    rfl
  · have hlog : Nat.log2 n < 53 := by omega
    have hsmall : nearest n = n := nearest_of_lt ((Nat.log2_lt hn).1 hlog)
    have hzero : e.toNat = 0 := by omega
    have hswap : n * 2 ^ j * twoPow (-e).toNat = n * twoPow (-e).toNat * 2 ^ j := by ring
    have hscaled := roundDiv_mul_right (n * twoPow (-e).toNat) 1 hpos
    rw [Nat.one_mul, roundDiv_one] at hscaled
    rw [if_neg h, hswap, hscaled, hsmall, hzero, Nat.pow_zero, Nat.mul_one]
    rfl

end Ratio

/-- A whole number that is given as a ratio is rounded to the nearest one of the format. -/
theorem shows_ofRatio (n j : Nat) : Shows (ofRatio false (n * 2 ^ j) (2 ^ j)) (nearest n) := by
  by_cases hn : n = 0
  · have hzero : ofRatio false (n * 2 ^ j) (2 ^ j) = zero false := by simp [ofRatio, hn]
    rw [hzero, hn, nearest_of_lt (by decide)]
    exact .finite (by simp [Counts])
  · have hne : n * 2 ^ j ≠ 0 := Nat.mul_ne_zero hn (Nat.ne_of_gt (Nat.two_pow_pos j))
    have hstep := stepExponent_of_whole hn j
    have hcounts := counts_significand hn j hstep
    have large : ∀ e : Int, (Nat.log2 n : Int) - 52 ≤ e → e ≤ (Nat.log2 n : Int) - 51 →
        greatestExponent < e → 1000 ≤ Nat.log2 (nearest n) := by
      intro e _ hhigh hrange
      have hlog := log2_le_log2_nearest n
      unfold greatestExponent at hrange
      omega
    unfold ofRatio
    rw [if_neg hne]
    generalize stepExponent (n * 2 ^ j) (2 ^ j) = e at hstep hcounts
    dsimp only
    generalize (if 0 ≤ e then roundDiv (n * 2 ^ j) (2 ^ j * twoPow e.toNat)
      else roundDiv (n * 2 ^ j * twoPow (-e).toNat) (2 ^ j)) = m at hcounts
    -- Rounding up may carry into one more binary digit; the number stays the same.
    by_cases hcarry : m = 2 * leastNormal
    · rw [if_pos hcarry]
      dsimp only
      rw [hcarry, counts_double] at hcounts
      split
      · next hrange => exact .infinite (large _ (by omega) (by omega) hrange)
      · exact .finite hcounts
    · rw [if_neg hcarry]
      dsimp only
      split
      · next hrange => exact .infinite (large _ (by omega) (by omega) hrange)
      · exact .finite hcounts

theorem shows_ofNat (n : Nat) : Shows (ofRatio false n 1) (nearest n) := by
  have hratio := shows_ofRatio n 0
  rwa [Nat.pow_zero, Nat.mul_one] at hratio

theorem ofInt_natCast (n : Nat) : ofInt n = ofRatio false n 1 := by
  have hsign : decide ((n : Int) < 0) = false := by simp
  rw [ofInt, hsign, Int.natAbs_natCast]

theorem shows_ofInt (n : Nat) : Shows (ofInt n) (nearest n) :=
  ofInt_natCast n ▸ shows_ofNat n

/-- A number that is scaled to a whole one is rounded to the nearest of the format. -/
theorem shows_ofScaled {m n : Nat} {e : Int} (h : Counts m e n) :
    Shows (ofScaled false m e) (nearest n) := by
  unfold Counts at h
  unfold ofScaled
  by_cases he : 0 ≤ e
  · have hzero : (-e).toNat = 0 := by omega
    rw [hzero, Nat.pow_zero, Nat.mul_one] at h
    rw [if_pos he]
    exact h ▸ shows_ofNat _
  · have hzero : e.toNat = 0 := by omega
    rw [hzero, Nat.pow_zero, Nat.mul_one] at h
    rw [if_neg he, h]
    exact shows_ofRatio n (-e).toNat

/-! ## Arithmetic -/

namespace Shows

variable {x y : Binary64} {n k : Nat}

theorem large_of_le (large : 1000 ≤ Nat.log2 n) (h : n ≤ k) : 1000 ≤ Nat.log2 (nearest k) :=
  Nat.le_trans large (Nat.le_trans (log2_mono h) (log2_le_log2_nearest k))

/-- The sum of whole numbers is their sum, rounded. -/
theorem add (hx : Shows x n) (hy : Shows y k) : Shows (x.add y) (nearest (n + k)) := by
  cases hx with
  | infinite large =>
    -- The other term only adds to what was beyond the range already.
    have hsum := large_of_le large (Nat.le_add_right n k)
    cases hy with
    | infinite _ => exact .infinite hsum
    | finite _ => exact .infinite hsum
  | @finite m _ e hm =>
    cases hy with
    | infinite large => exact .infinite (large_of_le large (Nat.le_add_left k n))
    | @finite l _ f hl =>
      have hsum := hm.add hl
      have haligned : aligned (min e f) false m e + aligned (min e f) false l f
          = ((m * 2 ^ (e - min e f).toNat + l * 2 ^ (f - min e f).toNat : Nat) : Int) := by
        rw [Int.natCast_add]
        rfl
      unfold Binary64.add
      dsimp only
      rw [haligned]
      generalize m * 2 ^ (e - min e f).toNat + l * 2 ^ (f - min e f).toNat = sum at hsum
      by_cases hzero : sum = 0
      · rw [if_pos (by rw [hzero]; rfl), hsum.eq_zero_iff.1 hzero, nearest_of_lt (by decide)]
        exact .finite (by simp [Counts])
      · have hsign : decide ((sum : Int) < 0) = false := by simp
        rw [if_neg (by omega), hsign, Int.natAbs_natCast]
        exact shows_ofScaled hsum

/-- The product of whole numbers is their product, rounded. -/
theorem mul (hx : Shows x n) (hy : Shows y k) (hk : 0 < k) (hrange : Nat.log2 k < 1000) :
    Shows (x.mul y) (nearest (n * k)) := by
  cases hy with
  | infinite large => omega
  | @finite l _ f hl =>
    cases hx with
    | infinite large =>
      have hne : l ≠ 0 := fun hzero => Nat.ne_of_gt hk (hl.eq_zero_iff.1 hzero)
      simp only [Binary64.mul, if_neg hne]
      exact .infinite (large_of_le large (Nat.le_mul_of_pos_right n hk))
    | @finite m _ e hm => exact shows_ofScaled (hm.mul hl)

/-! ## Tests and conversions -/

theorem isFinite (hx : Shows x n) (hrange : Nat.log2 n < 1000) : x.isFinite = true := by
  cases hx with
  | finite _ => rfl
  | infinite large => omega

theorem exceeds_iff (hx : Shows x n) (bound : Nat) (hrange : Nat.log2 bound < 1000) :
    x.exceeds bound = true ↔ bound < n := by
  cases hx with
  | infinite large =>
    have hlt : bound < n := by
      by_contra hle
      have := log2_mono (Nat.le_of_not_lt hle)
      omega
    simp [exceeds, hlt]
  | @finite m _ e hm =>
    have hlow : min e 0 ≤ e ∧ min e 0 ≤ 0 := ⟨Int.min_le_left _ _, Int.min_le_right _ _⟩
    rw [counts_iff hlow.1 hlow.2] at hm
    have hleft : aligned (min e 0) false 1 0 * (bound : Int)
        = ((bound * 2 ^ (-min e 0).toNat : Nat) : Int) := by
      simp only [aligned, Bool.false_eq_true, if_false, Nat.one_mul, Int.zero_sub, Int.natCast_mul]
      exact Int.mul_comm _ _
    have hright : aligned (min e 0) false m e = ((n * 2 ^ (-min e 0).toNat : Nat) : Int) := by
      rw [← hm]
      rfl
    unfold exceeds
    dsimp only
    rw [hleft, hright, decide_eq_true_iff, Int.ofNat_lt,
      Nat.mul_lt_mul_right (Nat.two_pow_pos _)]

theorem rounded_eq {m : Nat} {e : Int} (h : Counts m e n) : rounded false m e = n := by
  unfold Counts at h
  unfold rounded
  by_cases he : 0 ≤ e
  · have hzero : (-e).toNat = 0 := by omega
    rw [hzero, Nat.pow_zero, Nat.mul_one] at h
    simp only [if_pos he, Bool.false_eq_true, if_false]
    exact congrArg Nat.cast h
  · have hzero : e.toNat = 0 := by omega
    rw [hzero, Nat.pow_zero, Nat.mul_one] at h
    have hhalf : (2 * m + 2 ^ (-e).toNat) / 2 ^ ((-e).toNat + 1) = n := by
      have hpos : 0 < 2 ^ (-e).toNat := Nat.two_pow_pos _
      have hsum : 2 * m + 2 ^ (-e).toNat = (2 * n + 1) * 2 ^ (-e).toNat := by
        rw [h]
        ring
      rw [hsum, Nat.pow_succ, Nat.mul_comm (2 ^ (-e).toNat) 2, Nat.mul_div_mul_right _ _ hpos]
      omega
    simp only [if_neg he, Bool.false_eq_true, if_false]
    exact congrArg Nat.cast hhalf

/-- A whole number is converted as it is, up to the end of the range. -/
theorem roundToUnsigned64_eq (hx : Shows x n) :
    x.roundToUnsigned64 = min n (Word.unsigned64 - 1) := by
  have hend : ((Word.unsigned64 : Int) - 1) = ((Word.unsigned64 - 1 : Nat) : Int) := rfl
  cases hx with
  | infinite large =>
    have hlarge : Word.unsigned64 - 1 ≤ n := by
      by_contra hlt
      have hlog := log2_mono (Nat.le_of_not_le hlt)
      have hword : Nat.log2 (Word.unsigned64 - 1) = 63 := by decide +kernel
      omega
    rw [Nat.min_eq_right hlarge]
    rfl
  | finite counts =>
    simp only [roundToUnsigned64, toRange, rounded_eq counts, clamp]
    omega

end Shows

end LayeredSettings.Binary64
