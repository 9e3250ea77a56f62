import Mathlib.Tactic
import PolicyBridge.Value.Basic

namespace PolicyBridge

open Float.Model UnpackedFloat

section Unpacked

lemma magnitude_swap (e e' : Int) (m m' : Nat) : ((compare e e').then (compare m m')).swap =
    (compare e' e).then (compare m' m) := by
  rw [Ordering.swap_then, ← Std.OrientedCmp.eq_swap, ← Std.OrientedCmp.eq_swap]

lemma unpacked_compare_swap (a b : UnpackedFloat) :
    (a.compare b).map Ordering.swap = b.compare a := by
  cases a with
  | notANumber => cases b <;> rfl
  | infinity s =>
    cases s <;> cases b with
    | infinity t => cases t <;> rfl
    | _ => rfl
  | zero s =>
    cases b with
    | infinity t | finite t _ _ _ => cases t <;> rfl
    | _ => rfl
  | finite s m e _ =>
    cases b with
    | finite t n f _ =>
      have h := magnitude_swap e f m n
      cases s <;> cases t
      · refine congrArg some ?_
        rw [h, ← magnitude_swap e f m n, Ordering.swap_swap]
      · rfl
      · rfl
      · exact congrArg some h
    | infinity t => cases s <;> cases t <;> rfl
    | _ => cases s <;> rfl

lemma ordered_iff {o : Ordering} : some o = none ↔ false = true ∨ false = true := by simp

lemma unpacked_compare_eq_none_iff (a b : UnpackedFloat) :
    a.compare b = none ↔ a.isNaN = true ∨ b.isNaN = true := by
  cases a with
  | notANumber => exact iff_of_true rfl (.inl rfl)
  | infinity s =>
    cases b with
    | notANumber => cases s <;> exact iff_of_true rfl (.inr rfl)
    | infinity t => cases s <;> cases t <;> exact ordered_iff
    | _ => cases s <;> exact ordered_iff
  | zero s =>
    cases b with
    | notANumber => exact iff_of_true rfl (.inr rfl)
    | infinity t | finite t _ _ _ => cases t <;> exact ordered_iff
    | _ => exact ordered_iff
  | finite s m e _ =>
    cases b with
    | notANumber => cases s <;> exact iff_of_true rfl (.inr rfl)
    | infinity t | finite t _ _ _ => cases s <;> cases t <;> exact ordered_iff
    | _ => cases s <;> exact ordered_iff

end Unpacked

section Floats

variable (x y : Float)

lemma float_lt_iff : x < y ↔ x.toModel.compare y.toModel = some .lt := by
  change decide (x.toModel.lt y.toModel = true) = true ↔ _
  rw [decide_eq_true_iff]
  exact beq_iff_eq

lemma float_beq_iff : (x == y) = true ↔ x.toModel.compare y.toModel = some .eq := by
  change (x.toModel.compare y.toModel == some .eq) = true ↔ _
  exact beq_iff_eq

lemma compareFloats_eq : compareFloats x y = x.toModel.compare y.toModel := by
  have hs : (x.toModel.compare y.toModel).map Ordering.swap = y.toModel.compare x.toModel :=
    unpacked_compare_swap _ _
  simp only [compareFloats, float_lt_iff, float_beq_iff, ← hs]
  cases x.toModel.compare y.toModel with
  | none => rfl
  | some o => cases o <;> rfl

lemma compareFloats_eq_lt_iff : compareFloats x y = some .lt ↔ x < y := by
  rw [compareFloats_eq, float_lt_iff]

lemma compareFloats_eq_eq_iff : compareFloats x y = some .eq ↔ (x == y) = true := by
  rw [compareFloats_eq, float_beq_iff]

lemma compareFloats_swap : (compareFloats x y).map Ordering.swap = compareFloats y x := by
  rw [compareFloats_eq, compareFloats_eq]
  exact unpacked_compare_swap _ _

lemma compareFloats_eq_none_iff : compareFloats x y = none ↔ x.isNaN = true ∨ y.isNaN = true := by
  rw [compareFloats_eq]
  exact unpacked_compare_eq_none_iff _ _

end Floats

section Nearest

variable {f : Format}

lemma isNaN_unpack {b : BitVec f.numBits}
    (h : unpackExponent b = -1#_ → unpackMantissa b = 0#_) : (unpack f b).isNaN = false := by
  by_cases he : unpackExponent b = -1#_
  · exact congrArg UnpackedFloat.isNaN ((if_pos he).trans (if_pos (h he)))
  refine (congrArg UnpackedFloat.isNaN (if_neg he)).trans ?_
  by_cases hz : unpackExponent b = 0#_
  · refine (congrArg UnpackedFloat.isNaN (if_pos hz)).trans ?_
    by_cases hm : unpackMantissa b = 0#_
    · exact congrArg UnpackedFloat.isNaN (dif_pos hm)
    · exact congrArg UnpackedFloat.isNaN (dif_neg hm)
  · exact congrArg UnpackedFloat.isNaN (if_neg hz)

lemma isNaN_components {s : Sign} {e : BitVec f.exponentBits}
    {m : BitVec f.mantissaBitsWithoutImplicit} (h : e = -1#_ → m = 0#_) :
    (unpack f (packComponents f s e m)).isNaN = false := by
  refine isNaN_unpack ?_
  rw [unpackExponent_packComponents, unpackMantissa_packComponents]
  exact h

lemma isNaN_infinity (s : Sign) :
    (UnpackedFloat.unpack f (packedInfinity f s)).isNaN = false :=
  isNaN_components fun _ => rfl

lemma isNaN_pack {u : UnpackedFloat} (h : u.isNaN = false) :
    (UnpackedFloat.unpack f (UnpackedFloat.pack f u)).isNaN = false := by
  cases u with
  | notANumber => cases h
  | infinity s => exact isNaN_infinity s
  | zero s => exact isNaN_components fun _ => rfl
  | finite s m e hm =>
    unfold UnpackedFloat.pack
    dsimp only
    split_ifs with ho hl
    · exact isNaN_infinity s
    · refine isNaN_components fun he => absurd (congrArg BitVec.toNat he) ?_
      rw [BitVec.toNat_ofNat, BitVec.neg_one_eq_allOnes, BitVec.toNat_allOnes]
      rw [Nat.mod_eq_of_lt (by omega)]
      omega
    · refine isNaN_components fun he => absurd (congrArg BitVec.toNat he) ?_
      rw [BitVec.toNat_zero, BitVec.neg_one_eq_allOnes, BitVec.toNat_allOnes]
      have hp : 1 < 2 ^ f.exponentBits := Nat.one_lt_two_pow (Nat.ne_of_gt f.he)
      omega

lemma isNaN_round (s : Sign) (m : Nat) (e : Int) : (UnpackedFloat.round f s m e).isNaN = false := by
  have hd (m : Nat) (u : ¬ m = 0 → UnpackedFloat) (hu : ∀ h, (u h).isNaN = false) :
      (if h : m = 0 then .zero s else u h).isNaN = false := by
    by_cases h : m = 0
    · exact congrArg UnpackedFloat.isNaN (dif_pos h)
    · exact (congrArg UnpackedFloat.isNaN (dif_neg h)).trans (hu h)
  exact hd _ _ fun _ => rfl

lemma isNaN_ofInt (n : Int) : (UnpackedFloat.ofInt f n).isNaN = false := by
  unfold UnpackedFloat.ofInt UnpackedFloat.normalize
  cases compare n 0 with
  | eq => rfl
  | _ => exact isNaN_round _ _ _

lemma isNaN_floatOfInteger (i : Int64) : (floatOfInteger i).isNaN = false :=
  isNaN_pack (isNaN_ofInt _)

end Nearest

end PolicyBridge
