import Mathlib
import PolicyBridge.Proofs.Value.Floats

/-! Floats as rational numbers. Those that are finite compare as the numbers they are, and the float
of an integer is as near to it as any finite float. -/

namespace PolicyBridge

open Float.Model UnpackedFloat

section Values

def unpackedValue : UnpackedFloat → ℚ
  | .finite s m e _ => s.apply m * 2 ^ e
  | _ => 0

def floatValue (x : Float) : ℚ := unpackedValue x.toModel.unpack

structure Canonical (m : Nat) (e : Int) : Prop where
  fits : m < 2 ^ 53
  least : -1074 ≤ e
  full : -1074 < e → 2 ^ 52 ≤ m

variable {m n : Nat} {e f : Int}

lemma value_positive (h : 0 < m) : unpackedValue (.finite .positive m e h) = m * 2 ^ e := by
  simp [unpackedValue, Sign.apply]

lemma value_negative (h : 0 < m) : unpackedValue (.finite .negative m e h) = -(m * 2 ^ e) := by
  simp [unpackedValue, Sign.apply]

lemma value_zero (s : Sign) : unpackedValue (.zero s) = 0 := rfl

lemma magnitude_pos (h : 0 < m) : (0 : ℚ) < m * 2 ^ e := by
  have hm : (0 : ℚ) < m := by exact_mod_cast h
  positivity

lemma compare_neg (p q : ℚ) : compare (-p) (-q) = (compare p q).swap := by
  rw [← Std.OrientedCmp.eq_swap]
  rcases lt_trichotomy p q with h | rfl | h
  · rw [compare_gt_iff_gt.mpr h, compare_gt_iff_gt.mpr (neg_lt_neg h)]
  · rw [compare_eq_iff_eq.mpr rfl, compare_eq_iff_eq.mpr rfl]
  · rw [compare_lt_iff_lt.mpr h, compare_lt_iff_lt.mpr (neg_lt_neg h)]

lemma Canonical.below (hm : Canonical m e) (hn : Canonical n f) (h : e < f) :
    (m * 2 ^ e : ℚ) < n * 2 ^ f := by
  have hf : (2 ^ 52 : ℚ) ≤ n := by exact_mod_cast hn.full (by have := hm.least; omega)
  calc (m * 2 ^ e : ℚ) < 2 ^ 53 * 2 ^ e := by gcongr; exact_mod_cast hm.fits
    _ = 2 ^ 52 * 2 ^ (e + 1) := by rw [zpow_add₀ two_ne_zero]; ring
    _ ≤ n * 2 ^ f := by gcongr; exacts [one_le_two, h]

lemma Canonical.compare (hm : Canonical m e) (hn : Canonical n f) :
    compare (m * 2 ^ e : ℚ) (n * 2 ^ f) = (compare e f).then (compare m n) := by
  rcases lt_trichotomy e f with h | rfl | h
  · rw [compare_lt_iff_lt.mpr h, compare_lt_iff_lt.mpr (hm.below hn h)]
    rfl
  · have hp : (0 : ℚ) < 2 ^ e := by positivity
    rw [compare_eq_iff_eq.mpr (rfl : e = e), Ordering.eq_then]
    rcases lt_trichotomy m n with h | rfl | h
    · rw [compare_lt_iff_lt.mpr h, compare_lt_iff_lt]
      gcongr
    · rw [compare_eq_iff_eq.mpr rfl, compare_eq_iff_eq.mpr rfl]
    · rw [compare_gt_iff_gt.mpr h, compare_gt_iff_gt]
      show (n * 2 ^ e : ℚ) < m * 2 ^ e
      gcongr
  · rw [compare_gt_iff_gt.mpr h, compare_gt_iff_gt.mpr (hn.below hm h)]
    rfl

inductive Held : UnpackedFloat → Prop
  | infinity (s : Sign) : Held (.infinity s)
  | notANumber : Held .notANumber
  | zero (s : Sign) : Held (.zero s)
  | finite {s : Sign} {m : Nat} {e : Int} {h : 0 < m} : Canonical m e → Held (.finite s m e h)

lemma held_unpack (b : BitVec Format.binary64.numBits) : Held (UnpackedFloat.unpack .binary64 b) := by
  have hv : (unpackMantissa b).toNat < 2 ^ 52 := (unpackMantissa b).isLt
  have he : (unpackExponent b).toNat < 2 ^ 11 := (unpackExponent b).isLt
  fun_cases UnpackedFloat.unpack with
  | case1 => exact .infinity _
  | case2 => exact .notANumber
  | case3 => exact .zero _
  | case4 mvec evec e svec s _ hevec hmvec =>
    have hz : evec.toNat = 0 := by rw [hevec]; rfl
    refine .finite ⟨hv.trans (by norm_num), ?_, fun h => ?_⟩
    · change (-1074 : Int) ≤ (evec.toNat : Int) - 1075 + 1
      omega
    · change (-1074 : Int) < (evec.toNat : Int) - 1075 + 1 at h
      omega
  | case5 mvec evec e svec s hevec hevec' =>
    have hp : 0 < evec.toNat := by
      rw [Nat.pos_iff_ne_zero]
      exact fun h => hevec' (BitVec.eq_of_toNat_eq h)
    have hm : (1#1 ++ mvec).toNat = 2 ^ 52 + mvec.toNat := by
      rw [BitVec.toNat_append, ← Nat.shiftLeft_add_eq_or_of_lt mvec.isLt]
      rfl
    refine .finite ⟨?_, ?_, fun _ => ?_⟩
    · rw [hm]
      exact Nat.add_lt_add_left hv (2 ^ 52)
    · change (-1074 : Int) ≤ (evec.toNat : Int) - 1075
      omega
    · rw [hm]
      exact Nat.le_add_right _ _

lemma Held.compare {u v : UnpackedFloat} (hu : Held u) (hv : Held v) (hx : u.isFinite = true)
    (hy : v.isFinite = true) :
    u.compare v = some (Ord.compare (unpackedValue u) (unpackedValue v)) := by
  cases hu with
  | infinity s => cases hx
  | notANumber => cases hx
  | zero s =>
    cases hv with
    | infinity s => cases hy
    | notANumber => cases hy
    | zero t => rw [value_zero, value_zero, compare_eq_iff_eq.mpr rfl]; rfl
    | @finite t n f hn hf =>
      have hp := magnitude_pos (e := f) hn
      cases t with
      | positive => rw [value_zero, value_positive, compare_lt_iff_lt.mpr hp]; rfl
      | negative =>
        rw [value_zero, value_negative, compare_gt_iff_gt.mpr (neg_lt_zero.mpr hp)]; rfl
  | @finite s m e hm he =>
    have hp := magnitude_pos (e := e) hm
    cases hv with
    | infinity s => cases hy
    | notANumber => cases hy
    | zero t =>
      cases s with
      | positive => rw [value_zero, value_positive, compare_gt_iff_gt.mpr hp]; rfl
      | negative =>
        rw [value_zero, value_negative, compare_lt_iff_lt.mpr (neg_lt_zero.mpr hp)]; rfl
    | @finite t n f hn hf =>
      have hq := magnitude_pos (e := f) hn
      cases s <;> cases t
      · rw [value_negative, value_negative, compare_neg, he.compare hf]; rfl
      · rw [value_negative, value_positive, compare_lt_iff_lt.mpr (by linarith)]; rfl
      · rw [value_negative, value_positive, compare_gt_iff_gt.mpr (by linarith)]; rfl
      · rw [value_positive, value_positive, he.compare hf]; rfl

lemma compareFloats_finite {x y : Float} (hx : x.isFinite = true) (hy : y.isFinite = true) :
    compareFloats x y = some (compare (floatValue x) (floatValue y)) := by
  rw [compareFloats_eq]
  exact (held_unpack _).compare (held_unpack _) hx hy

end Values

section Rounding

def Displays (em : ExtendedMantissa) (x : ℚ) : Prop :=
  ∃ rest : ℚ, x = em.mantissa + (cond em.roundBit (1 / 2) 0 + rest) ∧ 0 ≤ rest ∧ rest < 1 / 2 ∧
    (em.stickyBit = true ↔ 0 < rest)

variable {em : ExtendedMantissa} {x : ℚ} {m k : Nat}

lemma displays_exact (m : Nat) : Displays (.ofMantissaAndAccuracy m .exact) m :=
  ⟨0, by simp [ExtendedMantissa.ofMantissaAndAccuracy], le_rfl, by norm_num,
    by simp [ExtendedMantissa.ofMantissaAndAccuracy]⟩

lemma Displays.shiftRightOne (h : Displays em x) : Displays em.shiftRightOne (x / 2) := by
  obtain ⟨m, r, s⟩ := em
  obtain ⟨rest, rfl, h0, h1, hs⟩ := h
  have hc : (m : ℚ) / 2 = (m / 2 : ℕ) + cond (m % 2 != 0) (1 / 2) 0 := by
    have hd : ((m % 2 : ℕ) : ℚ) + 2 * ((m / 2 : ℕ) : ℚ) = m := by exact_mod_cast Nat.mod_add_div m 2
    rcases Nat.mod_two_eq_zero_or_one m with hm | hm <;> rw [hm] at hd ⊢ <;> push_cast at hd <;>
      simp <;> linarith
  refine ⟨(cond r (1 / 2) 0 + rest) / 2, ?_, ?_, ?_, ?_⟩
  · rw [add_div, hc]
    exact add_assoc _ _ _
  · cases r <;> simp <;> linarith
  · cases r <;> simp <;> linarith
  · change (r || s) = true ↔ _
    cases r with
    | true => simp; linarith
    | false => simpa using hs

lemma Displays.shiftRight (h : Displays em x) (k : Nat) : Displays (em >>> k) (x / 2 ^ k) := by
  change Displays (k.repeat ExtendedMantissa.shiftRightOne em) _
  induction k with
  | zero => simpa [Nat.repeat] using h
  | succ k ih =>
    rw [pow_succ, ← div_div]
    exact ih.shiftRightOne

lemma Displays.mantissa_le (h : Displays em x) : (em.mantissa : ℚ) ≤ x ∧ x < em.mantissa + 1 := by
  obtain ⟨rest, rfl, h0, h1, -⟩ := h
  cases em.roundBit <;> simp <;> constructor <;> linarith

lemma rounded_between (em : ExtendedMantissa) :
    em.mantissa ≤ em.roundedMantissa ∧ em.roundedMantissa ≤ em.mantissa + 1 := by
  obtain ⟨m, r, s⟩ := em
  have hm := Nat.mod_lt m two_pos
  cases r <;> cases s <;> simp [ExtendedMantissa.roundedMantissa, ExtendedMantissa.accuracy,
    Accuracy.roundToNearestEven]
  omega

lemma Displays.rounded (h : Displays em x) : |(em.roundedMantissa : ℚ) - x| ≤ 1 / 2 := by
  obtain ⟨m, r, s⟩ := em
  obtain ⟨rest, rfl, h0, h1, hs⟩ := h
  rw [abs_le]
  cases r with
  | false =>
    have hr : ExtendedMantissa.roundedMantissa ⟨m, false, s⟩ = m := by cases s <;> rfl
    rw [hr]
    simp
    constructor <;> linarith
  | true =>
    cases s with
    | false =>
      have hr : ExtendedMantissa.roundedMantissa ⟨m, true, false⟩ = m + m % 2 := rfl
      have hz : rest = 0 := le_antisymm (not_lt.mp fun hp => Bool.false_ne_true (hs.mpr hp)) h0
      rw [hr, hz]
      rcases Nat.mod_two_eq_zero_or_one m with hm | hm <;> rw [hm] <;> norm_num
    | true =>
      have hr : ExtendedMantissa.roundedMantissa ⟨m, true, true⟩ = m + 1 := rfl
      rw [hr]
      push_cast
      simp
      constructor <;> linarith

variable {R : Nat} {u : ℚ}

lemma near_units {n v : ℚ} (hu : 0 < u) (hR : |R * u - n| ≤ u / 2) (hv : ∃ z : ℤ, v = z * u) :
    |R * u - n| ≤ |v - n| := by
  obtain ⟨z, rfl⟩ := hv
  by_cases hz : z = R
  · rw [hz]
    exact le_rfl
  have h1 : (1 : ℚ) ≤ |(z : ℚ) - R| := by exact_mod_cast Int.one_le_abs (sub_ne_zero.mpr hz)
  have h2 : u ≤ |z * u - R * u| := by
    rw [← sub_mul, abs_mul, abs_of_pos hu]
    exact le_mul_of_one_le_left hu.le h1
  have h3 := abs_sub_le (z * u) n (R * u)
  rw [abs_sub_comm n] at h3
  linarith

lemma near_floats {n : ℚ} {k f : Int} {z : ℤ} (hR : |R * (2 : ℚ) ^ k - n| ≤ 2 ^ k / 2)
    (hn : 2 ^ 52 * 2 ^ k ≤ n) (hz : |z| ≤ 2 ^ 53) :
    |R * (2 : ℚ) ^ k - n| ≤ |z * 2 ^ f - n| := by
  have hk : (0 : ℚ) < 2 ^ k := by positivity
  by_cases hf : k ≤ f
  · refine near_units hk hR ⟨z * 2 ^ (f - k).toNat, ?_⟩
    push_cast
    rw [mul_assoc, ← zpow_natCast, ← zpow_add₀ two_ne_zero]
    congr
    omega
  · -- all that is finer lies below the least number of this size
    have hb : (z * 2 ^ f : ℚ) ≤ 2 ^ 52 * 2 ^ k := by
      have hz : (z : ℚ) ≤ 2 ^ 53 := by exact_mod_cast (le_abs_self z).trans hz
      calc (z * 2 ^ f : ℚ) ≤ 2 ^ 53 * 2 ^ f := by gcongr
        _ = 2 ^ 52 * 2 ^ (f + 1) := by rw [zpow_add₀ two_ne_zero]; ring
        _ ≤ 2 ^ 52 * 2 ^ k := by gcongr; exacts [one_le_two, not_le.mp hf]
    have hl : |R * (2 : ℚ) ^ k - n| ≤ |2 ^ 52 * 2 ^ k - n| := by
      exact near_units hk hR ⟨2 ^ 52, by norm_num⟩
    rw [abs_of_nonpos (sub_nonpos.mpr hn)] at hl
    rw [abs_of_nonpos (by linarith : (z * 2 ^ f - n : ℚ) ≤ 0)]
    linarith

lemma targetExponent_eq {m : Nat} {e : Int} (h : -1022 ≤ m.log2 + e) :
    Format.binary64.targetExponent (totalExponent m e) = m.log2 + e - 52 := by
  change max ((m.log2 : Int) + 1 + e - 53) (-1074) = _
  omega

lemma log2_bounds {m b : Nat} (hl : 2 ^ b ≤ m) (hu : m < 2 ^ (b + 1)) : m.log2 = b := by
  have hm : m ≠ 0 := by have := Nat.two_pow_pos b; omega
  exact (Nat.log2_eq_iff hm).mpr ⟨hl, hu⟩

lemma shiftToTarget_eq {m : Nat} {e : Int} (h : -1022 ≤ m.log2 + e) (hm : 52 ≤ m.log2) :
    shiftToTargetExponent .binary64 m e .exact =
      (ExtendedMantissa.ofMantissaAndAccuracy m .exact >>> (m.log2 - 52), m.log2 + e - 52) := by
  unfold shiftToTargetExponent shiftToExponent
  rw [targetExponent_eq h]
  have hs : ((m.log2 : Int) + e - 52 - e).toNat = m.log2 - 52 := by omega
  have hd : e + ((m.log2 - 52 : Nat) : Int) = m.log2 + e - 52 := by omega
  simp only [hs, hd]

lemma shiftToTarget_settled {R : Nat} {k : Int} (hl : 2 ^ 52 ≤ R) (hu : R ≤ 2 ^ 53)
    (hk : -1074 ≤ k) : ∃ em f, shiftToTargetExponent .binary64 R k .exact = (em, f) ∧
      em.mantissa.log2 = 52 ∧ k ≤ f ∧ f ≤ k + 1 ∧
        (em.mantissa : ℚ) * 2 ^ f = (R : ℚ) * 2 ^ k := by
  rcases hu.lt_or_eq with hu | rfl
  · have hg : R.log2 = 52 := log2_bounds hl hu
    have hk' : (R.log2 : Int) + k - 52 = k := by omega
    rw [shiftToTarget_eq (by omega) hg.ge, hk', hg]
    exact ⟨_, k, rfl, hg, le_rfl, by omega, rfl⟩
  · have hg : (2 ^ 53 : Nat).log2 = 53 := Nat.log2_two_pow
    have hk' : ((2 ^ 53 : Nat).log2 : Int) + k - 52 = k + 1 := by omega
    rw [shiftToTarget_eq (by omega) (by omega), hk', hg]
    refine ⟨⟨2 ^ 52, false, false⟩, k + 1, rfl, Nat.log2_two_pow, by omega, le_rfl, ?_⟩
    rw [zpow_add₀ two_ne_zero]
    push_cast
    ring

lemma size {m j : Nat} (hj : m.log2 = 52 + j) :
    (2 : ℚ) ^ 52 * 2 ^ j ≤ m ∧ (m : ℚ) < 2 ^ 53 * 2 ^ j := by
  have hm : m ≠ 0 := by rintro rfl; cases hj.trans (Nat.add_comm 52 j)
  have hl : 2 ^ (52 + j) ≤ m := hj ▸ Nat.log2_self_le hm
  have hu : m < 2 ^ (53 + j) := (Nat.log2_lt hm).mp (by omega)
  constructor
  · exact_mod_cast pow_add 2 52 j ▸ hl
  · exact_mod_cast pow_add 2 53 j ▸ hu

lemma first_shift {m j R : Nat} (hj : m.log2 = 52 + j)
    (hR : (ExtendedMantissa.ofMantissaAndAccuracy m .exact >>> j).roundedMantissa = R) :
    2 ^ 52 ≤ R ∧ R ≤ 2 ^ 53 ∧ |(R : ℚ) * 2 ^ j - m| ≤ 2 ^ j / 2 := by
  obtain ⟨hlo, hhi⟩ := size hj
  have hp : (0 : ℚ) < 2 ^ j := by positivity
  have hd := (displays_exact m).shiftRight j
  have hb := rounded_between (ExtendedMantissa.ofMantissaAndAccuracy m .exact >>> j)
  have hn := hd.rounded
  obtain ⟨hfl, hfu⟩ := hd.mantissa_le
  rw [hR] at hb hn
  refine ⟨?_, ?_, ?_⟩
  · have h : (2 : ℚ) ^ 52 < (_ : ℕ) + 1 := ((le_div_iff₀ hp).mpr hlo).trans_lt hfu
    exact (Nat.lt_succ_iff.mp (by exact_mod_cast h)).trans hb.1
  · have h : ((_ : ℕ) : ℚ) < 2 ^ 53 := hfl.trans_lt ((div_lt_iff₀ hp).mpr hhi)
    exact hb.2.trans (by exact_mod_cast h)
  · have hr : (R : ℚ) * 2 ^ j - m = (R - m / 2 ^ j) * 2 ^ j := by field_simp
    rw [hr, abs_mul, abs_of_pos hp]
    linarith [mul_le_mul_of_nonneg_right hn hp.le]

lemma roundWithAccuracy_near {m : Nat} {e : Int} {s : Sign} (hm : 52 ≤ m.log2) (he : -1074 ≤ e) :
    ∃ n f hn, roundWithAccuracy .binary64 s m e .exact = .finite s n f hn ∧ n.log2 = 52 ∧
      -1074 ≤ f ∧ f ≤ m.log2 + e - 51 ∧ ∀ z : ℤ, ∀ g : Int, |z| ≤ 2 ^ 53 →
        |(n : ℚ) * 2 ^ f - (m : ℚ) * 2 ^ e| ≤ |(z : ℚ) * 2 ^ g - (m : ℚ) * 2 ^ e| := by
  obtain ⟨j, hj⟩ := Nat.exists_eq_add_of_le hm
  have hk : (m.log2 : Int) + e - 52 = e + j := by omega
  unfold roundWithAccuracy
  rw [shiftToTarget_eq (by omega) hm, hk, hj, Nat.add_sub_cancel_left]
  dsimp only
  generalize hR : (ExtendedMantissa.ofMantissaAndAccuracy m .exact >>> j).roundedMantissa = R
  obtain ⟨hl, hu, hn⟩ := first_shift hj hR
  obtain ⟨em, f, hs, hg, hkf, hfk, hv⟩ := shiftToTarget_settled (k := e + j) hl hu (by omega)
  have hz : em.mantissa ≠ 0 := by intro h; rw [h] at hg; cases hg
  simp only [hs, dif_neg hz]
  refine ⟨em.mantissa, f, Nat.pos_of_ne_zero hz, rfl, hg, by omega, by omega, fun z g hz => ?_⟩
  have hp : (0 : ℚ) < 2 ^ e := by positivity
  have hq : (2 : ℚ) ^ (e + j) = 2 ^ j * 2 ^ e := by
    rw [zpow_add₀ two_ne_zero, zpow_natCast, mul_comm]
  rw [hv]
  refine near_floats ?_ ?_ hz
  · rw [hq, ← mul_assoc, ← sub_mul, abs_mul, abs_of_pos hp]
    linarith [mul_le_mul_of_nonneg_right hn hp.le]
  · rw [hq, ← mul_assoc]
    exact mul_le_mul_of_nonneg_right (size hj).1 hp.le

lemma log2_shifted {n : Nat} (hn : n ≠ 0) (d : Nat) : (n <<< d).log2 = n.log2 + d := by
  rw [Nat.shiftLeft_eq]
  apply log2_bounds
  · rw [pow_add]
    exact Nat.mul_le_mul_right _ (Nat.log2_self_le hn)
  · rw [add_right_comm, pow_add]
    exact Nat.mul_lt_mul_of_pos_right Nat.lt_log2_self (Nat.two_pow_pos d)

lemma round_eq {n d : Nat} (s : Sign)
    (hd : ((0 : Int) - (n.log2 + 0 - 52)).toNat = d) : UnpackedFloat.round .binary64 s n 0 =
      roundWithAccuracy .binary64 s (n <<< d) (0 - d) .exact := by
  unfold UnpackedFloat.round decreaseExponent
  rw [targetExponent_eq (by omega)]
  simp only [hd]

lemma round_near {n : Nat} {s : Sign} (hn : n ≠ 0) (hb : n < 2 ^ 64) :
    ∃ m e hm, UnpackedFloat.round .binary64 s n 0 = .finite s m e hm ∧ m.log2 = 52 ∧
      -1074 ≤ e ∧ e ≤ 971 ∧
        ∀ z : ℤ, ∀ g : Int, |z| ≤ 2 ^ 53 → |(m : ℚ) * 2 ^ e - n| ≤ |(z : ℚ) * 2 ^ g - n| := by
  have hl : n.log2 < 64 := (Nat.log2_lt hn).mpr hb
  generalize hd : ((0 : Int) - (n.log2 + 0 - 52)).toNat = d
  have hg := log2_shifted hn d
  obtain ⟨m, e, hm, hr, hm2, h1, h2, hs⟩ :=
    roundWithAccuracy_near (m := n <<< d) (e := 0 - d) (s := s) (by omega) (by omega)
  have hv : ((n <<< d : ℕ) : ℚ) * 2 ^ (0 - d : Int) = n := by
    rw [Nat.shiftLeft_eq, zero_sub, zpow_neg, zpow_natCast]
    push_cast
    field_simp
  rw [hv] at hs
  exact ⟨m, e, hm, (round_eq s hd).trans hr, hm2, h1, by omega, hs⟩

end Rounding

section Packing

variable {f : Format} {s : Sign} {m : Nat} {e : Int} {hm : 0 < m}

lemma finite_congr {t : Sign} {n : Nat} {g : Int} {hn : 0 < n} (hs : s = t) (h : m = n)
    (he : e = g) : UnpackedFloat.finite s m e hm = .finite t n g hn := by
  subst hs h he
  rfl

lemma implicit_bit {b : Nat} (hg : m.log2 = b) (hm : 0 < m) :
    (1#1 ++ BitVec.ofNat b m).toNat = m := by
  have hl : 2 ^ b ≤ m := hg ▸ Nat.log2_self_le hm.ne'
  have hu : m < 2 ^ (b + 1) := (Nat.log2_lt hm.ne').mp (by omega)
  have hr : m % 2 ^ b = m - 2 ^ b := by
    rw [pow_succ] at hu
    rw [Nat.mod_eq_sub_mod hl, Nat.mod_eq_of_lt (by omega)]
  rw [BitVec.toNat_append, ← Nat.shiftLeft_add_eq_or_of_lt (BitVec.ofNat b m).isLt,
    Nat.shiftLeft_eq, BitVec.toNat_ofNat, BitVec.toNat_ofNat, hr]
  omega

lemma unpack_pack {b : Nat} (hb : 0 < b) (hu : b + 1 < 2 ^ f.exponentBits)
    (he : (b : Int) = e + f.exponentBias + f.mantissaBitsWithoutImplicit)
    (hg : m.log2 = f.mantissaBitsWithoutImplicit) :
    UnpackedFloat.unpack f (UnpackedFloat.pack f (.finite s m e hm)) = .finite s m e hm := by
  have hc : (e + f.exponentBias + f.mantissaBitsWithoutImplicit).toNat = b := by omega
  have hx : (BitVec.ofNat f.exponentBits b).toNat = b := Nat.mod_eq_of_lt (by omega)
  unfold UnpackedFloat.pack
  dsimp only
  rw [hc, if_neg (by omega), if_pos (by rw [hg, Nat.add_comm]; rfl)]
  refine (if_neg ?_).trans ((if_neg ?_).trans (finite_congr ?_ ?_ ?_))
  · rw [unpackExponent_packComponents]
    intro h
    rw [h, BitVec.neg_one_eq_allOnes, BitVec.toNat_allOnes] at hx
    omega
  · rw [unpackExponent_packComponents]
    intro h
    rw [h] at hx
    exact hb.ne (by simpa using hx)
  · rw [unpackSign_packComponents, Sign.ofBitVec_toBitVec]
  · rw [unpackMantissa_packComponents, implicit_bit hg hm]
  · rw [unpackExponent_packComponents, hx]
    omega

end Packing

section Nearest

lemma Held.units {u : UnpackedFloat} (h : Held u) :
    ∃ (z : ℤ) (g : Int), |z| ≤ 2 ^ 53 ∧ unpackedValue u = (z : ℚ) * 2 ^ g := by
  cases h with
  | @finite s m e h hc =>
    have hz : |s.apply (m : Int)| = m := by cases s <;> simp [Sign.apply]
    exact ⟨s.apply m, e, hz.trans_le (by exact_mod_cast hc.fits.le), rfl⟩
  | _ => exact ⟨0, 0, by norm_num, by simp [unpackedValue]⟩

/-- It is finite, and as near as any number of a float's precision. -/
structure Nearest (u : UnpackedFloat) (n : Int) : Prop where
  finite : u.isFinite = true
  near : ∀ z : ℤ, ∀ g : Int, |z| ≤ 2 ^ 53 → |unpackedValue u - n| ≤ |(z : ℚ) * 2 ^ g - n|

lemma nearest_round {n : Nat} (s : Sign) (hn : n ≠ 0) (hb : n < 2 ^ 64) :
    Nearest (Float.Model.pack (.round .binary64 s n 0)).unpack (s.apply n) := by
  obtain ⟨m, e, hm, hr, hg, h1, h2, hs⟩ := round_near (s := s) hn hb
  obtain ⟨b, hb⟩ : ∃ b : Nat, e + 1075 = b := ⟨(e + 1075).toNat, by omega⟩
  have hu : (Float.Model.pack (.finite s m e hm)).unpack = .finite s m e hm :=
    unpack_pack (b := b) (by omega) (by change b + 1 < 2048; omega)
      (by change (b : Int) = e + (1023 : Nat) + (52 : Nat); omega) hg
  rw [hr, hu]
  refine ⟨rfl, fun z g hz => ?_⟩
  cases s with
  | positive =>
    rw [value_positive]
    exact hs z g hz
  | negative =>
    have h := hs (-z) g (by rwa [abs_neg])
    have hn : ((Sign.negative.apply n : ℤ) : ℚ) = -n := by simp [Sign.apply]
    have hv (p q : ℚ) : |-p - q| = |p - -q| := by rw [← abs_neg, neg_sub', neg_neg]
    rw [Int.cast_neg, neg_mul, hv] at h
    rwa [value_negative, hn, hv, neg_neg]

lemma nearest_ofInt {n : Int} (hb : n.natAbs < 2 ^ 64) :
    Nearest (Float.Model.pack (.ofInt .binary64 n)).unpack n := by
  unfold UnpackedFloat.ofInt UnpackedFloat.normalize
  rcases lt_trichotomy n 0 with h | rfl | h
  · rw [compare_lt_iff_lt.mpr h]
    have hn := nearest_round (n := (-n).toNat) .negative (by omega) (by omega)
    rwa [Sign.apply, Int.toNat_of_nonneg (by omega), neg_neg] at hn
  · have hz : unpackedValue (Float.Model.pack (.zero .positive)).unpack = 0 := rfl
    refine ⟨rfl, fun z g _ => ?_⟩
    change |unpackedValue (Float.Model.pack (.zero .positive)).unpack - _| ≤ _
    rw [hz, Int.cast_zero, sub_zero, abs_zero]
    exact abs_nonneg _
  · rw [compare_gt_iff_gt.mpr h]
    have hn := nearest_round (n := n.toNat) .positive (by omega) (by omega)
    rwa [Sign.apply, Int.toNat_of_nonneg (by omega)] at hn

lemma Nearest.le {x : Float} {n : Int} (h : Nearest x.toModel.unpack n) (y : Float) :
    |floatValue x - n| ≤ |floatValue y - n| := by
  have hy : Held y.toModel.unpack := held_unpack _
  obtain ⟨z, g, hz, hv⟩ := hy.units
  have hn := h.near z g hz
  rwa [← hv] at hn

lemma toFloat_near (n : UInt64) (y : Float) :
    |floatValue n.toFloat - (n.toNat : Int)| ≤ |floatValue y - (n.toNat : Int)| := by
  have hn : Nearest n.toFloat.toModel.unpack n.toNat := nearest_ofInt (by have := n.toNat_lt; omega)
  exact hn.le y

variable (i : Int64)

lemma nearest_floatOfInteger : Nearest (floatOfInteger i).toModel.unpack i.toInt := by
  refine nearest_ofInt ?_
  have := i.toInt_lt
  have := i.le_toInt
  omega

lemma isFinite_floatOfInteger : (floatOfInteger i).isFinite = true :=
  (nearest_floatOfInteger i).finite

lemma floatOfInteger_near (y : Float) :
    |floatValue (floatOfInteger i) - i.toInt| ≤ |floatValue y - i.toInt| :=
  (nearest_floatOfInteger i).le y

lemma floatOfInteger_exact {y : Float} (h : floatValue y = i.toInt) :
    floatValue (floatOfInteger i) = i.toInt := by
  have hn := floatOfInteger_near i y
  rw [h, sub_self, abs_zero] at hn
  exact sub_eq_zero.mp (abs_nonpos_iff.mp hn)

lemma floatOfInteger_mono {i j : Int64} (h : i ≤ j) :
    floatValue (floatOfInteger i) ≤ floatValue (floatOfInteger j) := by
  rcases (Int64.le_iff_toInt_le.mp h).eq_or_lt with he | hlt
  · rw [Int64.toInt_inj.mp he]
  by_contra hgt
  -- the integers would lie on the wrong sides of the middle of their floats
  have hi := floatOfInteger_near i (floatOfInteger j)
  have hj := floatOfInteger_near j (floatOfInteger i)
  have hlt : (i.toInt : ℚ) < j.toInt := by exact_mod_cast hlt
  rw [not_le] at hgt
  have hp := mul_pos (sub_pos.mpr hgt) (sub_pos.mpr hlt)
  rw [← sq_le_sq] at hi hj
  linarith only [hi, hj, hp]

end Nearest

end PolicyBridge
