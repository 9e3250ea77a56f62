import Mathlib.Tactic
import PolicyBridge.Proofs.Dispatch.Comparing
import PolicyBridge.Proofs.Value.Rounding

/-! The operators on numbers, as rational numbers. An integer beside a float is rounded to one, and
this is all that sets the answers apart from the order of the numbers. -/

namespace PolicyBridge

variable {S Obj : Type}

def Operator.relates : Operator → ℚ → ℚ → Bool
  | .eq, p, q => p = q
  | .neq, p, q => p ≠ q
  | .lt, p, q => p < q
  | .leq, p, q => p ≤ q
  | .gt, p, q => q < p
  | .geq, p, q => q ≤ p

namespace Term

inductive IsNumber : Term → Prop
  | integer (i : Int64) : IsNumber (.integer i)
  | float {x : Float} : x.isFinite = true → IsNumber (.float x)

def exactly : Term → ℚ
  | .integer i => i.toInt
  | .float x => floatValue x
  | _ => 0

def beside : Term → Term → ℚ
  | .integer i, .float _ => floatValue (floatOfInteger i)
  | a, _ => a.exactly

/-- Two integers, the greater one first, with a float between them that both are rounded to. -/
def Blurred (a b c : Term) : Prop :=
  ∃ i y j, a = .integer i ∧ b = .float y ∧ c = .integer j ∧ j < i ∧
    floatValue (floatOfInteger i) = floatValue y ∧ floatValue (floatOfInteger j) = floatValue y

structure Counts (a b : Term) : Prop where
  alike : a.kind = b.kind → a.beside b = a.exactly
  float : a.kind = "Float" → a.beside b = a.exactly
  fits : (∃ y : Float, floatValue y = a.exactly) → a.beside b = a.exactly
  near : ∀ y : Float, |a.beside b - a.exactly| ≤ |floatValue y - a.exactly|

variable {a b c : Term}

lemma counts (ha : a.IsNumber) (hb : b.IsNumber) : a.Counts b := by
  have hs : a.beside b = a.exactly → a.Counts b := fun h =>
    ⟨fun _ => h, fun _ => h, fun _ => h, fun y => by rw [h, sub_self, abs_zero]; exact abs_nonneg _⟩
  cases ha with
  | float => exact hs rfl
  | integer i =>
    cases hb with
    | integer => exact hs rfl
    | float =>
      refine ⟨by simp [kind], by simp [kind], ?_, floatOfInteger_near i⟩
      rintro ⟨y, hy⟩
      exact floatOfInteger_exact i hy

lemma compare_integers (i j : Int64) : compare i j = compare (i.toInt : ℚ) j.toInt := by
  rcases lt_trichotomy i.toInt j.toInt with h | h | h
  · rw [Std.compare_eq_lt.mpr (Int64.lt_iff_toInt_lt.mpr h),
      compare_lt_iff_lt.mpr (Int.cast_lt.mpr h)]
  · rw [Int64.toInt_inj.mp h, Std.compare_eq_iff_eq.mpr rfl, compare_eq_iff_eq.mpr rfl]
  · rw [Std.compare_eq_gt.mpr (Int64.lt_iff_toInt_lt.mpr h),
      compare_gt_iff_gt.mpr (Int.cast_lt.mpr h)]

lemma IsNumber.read (h : a.IsNumber) (r : Registry Obj) :
    ∃ v : HostValue Obj, Marshal.fromTerm r a = .ok v := by
  cases h with
  | integer i => exact ⟨.integer i, rfl⟩
  | float => exact ⟨.float _, rfl⟩

lemma IsNumber.compareScalars (ha : a.IsNumber) (hb : b.IsNumber) (r : Registry Obj)
    {v w : HostValue Obj} (hv : Marshal.fromTerm r a = .ok v) (hw : Marshal.fromTerm r b = .ok w) :
    v.compareScalars? w = some (some (compare (a.beside b) (b.beside a))) := by
  cases ha with
  | integer i =>
    cases hv
    cases hb with
    | integer j =>
      cases hw
      exact congrArg (some ∘ some) (compare_integers i j)
    | float hy =>
      cases hw
      exact congrArg some (compareFloats_finite (isFinite_floatOfInteger i) hy)
  | float hx =>
    cases hv
    cases hb with
    | integer j =>
      cases hw
      exact congrArg some (compareFloats_finite hx (isFinite_floatOfInteger j))
    | float hy =>
      cases hw
      exact congrArg some (compareFloats_finite hx hy)

lemma Blurred.leq_false (h : a.Blurred b c) : ¬ a.beside c ≤ c.beside a := by
  obtain ⟨i, y, j, rfl, rfl, rfl, hlt, -, -⟩ := h
  exact not_le.mpr (Int.cast_lt.mpr (Int64.lt_iff_toInt_lt.mp hlt))

lemma leq_trans_iff (ha : a.IsNumber) (hb : b.IsNumber) (hc : c.IsNumber)
    (hab : a.beside b ≤ b.beside a) (hbc : b.beside c ≤ c.beside b) :
    a.beside c ≤ c.beside a ↔ ¬ a.Blurred b c := by
  refine ⟨fun hle hbl => hbl.leq_false hle, fun hbl => ?_⟩
  have mono {i j : Int64} (h : (i.toInt : ℚ) ≤ j.toInt) :
      floatValue (floatOfInteger i) ≤ floatValue (floatOfInteger j) :=
    floatOfInteger_mono (Int64.le_iff_toInt_le.mpr (Int.cast_le.mp h))
  cases ha with
  | integer i =>
    cases hc with
    | integer k =>
      cases hb with
      | integer j => exact le_trans (α := ℚ) hab hbc
      | @float y hy =>
        refine not_lt.mp fun hlt => hbl ?_
        have hki := mono hlt.le
        exact ⟨i, y, k, rfl, rfl, rfl, Int64.lt_iff_toInt_lt.mpr (Int.cast_lt.mp hlt),
          le_antisymm hab (hbc.trans hki), le_antisymm (hki.trans hab) hbc⟩
    | float hz =>
      cases hb with
      | integer j => exact (mono hab).trans hbc
      | float hy => exact le_trans (α := ℚ) hab hbc
  | float hx =>
    cases hc with
    | integer k =>
      cases hb with
      | integer j => exact hab.trans (mono hbc)
      | float hy => exact le_trans (α := ℚ) hab hbc
    | float hz =>
      cases hb with
      | integer j => exact le_trans (α := ℚ) hab hbc
      | float hy => exact le_trans (α := ℚ) hab hbc

end Term

lemma Operator.holds_compare (o : Operator) (p q : ℚ) :
    o.holds (some (compare p q)) = o.relates p q := by
  rcases lt_trichotomy p q with h | rfl | h
  · rw [compare_lt_iff_lt.mpr h]
    cases o <;> simp [holds, relates, h, h.le, h.ne, h.not_gt, h.not_ge]
  · rw [compare_eq_iff_eq.mpr rfl]
    cases o <;> simp [holds, relates]
  · rw [compare_gt_iff_gt.mpr h]
    cases o <;> simp [holds, relates, h, h.le, h.ne', h.not_gt, h.not_ge]

namespace Work

variable [IdSource S] {w : Work S Obj} {a b c : Term}

lemma says_number (ha : a.IsNumber) (hb : b.IsNumber) (o : Operator) :
    w.Says (.externalOp · o [a, b]) (o.relates (a.beside b) (b.beside a)) := by
  obtain ⟨v, hv⟩ := ha.read w.registry
  obtain ⟨x, hx⟩ := hb.read w.registry
  rw [← Operator.holds_compare]
  exact says_op hv hx (ha.compareScalars hb w.registry hv hx)

lemma Says.unique {q : UInt64 → Event} {p r : Bool} (hp : w.Says q p) (hr : w.Says q r) : p = r := by
  cases (hp 0).symm.trans (hr 0)
  rfl

lemma says_leq_iff (ha : a.IsNumber) (hb : b.IsNumber) :
    w.Says (.externalOp · .leq [a, b]) true ↔ a.beside b ≤ b.beside a := by
  have h := says_number (w := w) ha hb .leq
  constructor
  · intro ht
    exact of_decide_eq_true (h.unique ht)
  · intro hle
    rwa [Operator.relates, decide_eq_true hle] at h

/-- Every operator on finite numbers is answered as their values compare, an integer beside a float
counting as the float nearest to it. So the answers to less or equal are transitive, but for two
integers in the wrong order that are rounded to one float, with this float between them. -/
theorem numbers_compare_rounded (w : Work S Obj) (a b c : Term) (ha : a.IsNumber) (hb : b.IsNumber)
    (hc : c.IsNumber) :
    (∀ o, w.Says (.externalOp · o [a, b]) (o.relates (a.beside b) (b.beside a))) ∧
      a.Counts b ∧ b.Counts a ∧
        (w.Says (.externalOp · .leq [a, b]) true → w.Says (.externalOp · .leq [b, c]) true →
          (w.Says (.externalOp · .leq [a, c]) true ↔ ¬ a.Blurred b c)) := by
  refine ⟨says_number ha hb, Term.counts ha hb, Term.counts hb ha, fun hab hbc => ?_⟩
  rw [says_leq_iff ha hb] at hab
  rw [says_leq_iff hb hc] at hbc
  rw [says_leq_iff ha hc]
  exact Term.leq_trans_iff ha hb hc hab hbc

section Samples

def odd : Term := .integer 9007199254740993

def near : Term := .float 9007199254740992

def even : Term := .integer 9007199254740992

lemma near_isNumber : near.IsNumber := .float (by decide)

lemma floatOfInteger_odd : floatOfInteger 9007199254740993 = 9007199254740992 := by decide

lemma floatOfInteger_even : floatOfInteger 9007199254740992 = 9007199254740992 := by decide

lemma odd_near : odd.beside near = near.beside odd := congrArg floatValue floatOfInteger_odd

lemma near_even : near.beside even = even.beside near :=
  congrArg floatValue floatOfInteger_even.symm

lemma near_exactly : near.exactly = 9007199254740992 := by
  have h : (9007199254740992 : Float).toModel.unpack =
      .finite .positive 4503599627370496 1 (by decide) := rfl
  change floatValue 9007199254740992 = _
  rw [floatValue, h, value_positive]
  norm_num

lemma odd_exactly : odd.exactly = 9007199254740993 := by
  have h : (9007199254740993 : Int64).toInt = 9007199254740993 := by decide
  change ((9007199254740993 : Int64).toInt : ℚ) = _
  rw [h]
  norm_num

theorem numbers_compare_rounded_odd :
    odd.IsNumber ∧ near.IsNumber ∧ even.IsNumber ∧
      bench.Says (.externalOp · .leq [odd, near]) true ∧
        bench.Says (.externalOp · .leq [near, even]) true ∧
          ¬ bench.Says (.externalOp · .leq [odd, even]) true := by
  have ho : odd.IsNumber := .integer _
  have he : even.IsNumber := .integer _
  obtain ⟨-, -, -, ht⟩ := numbers_compare_rounded bench odd near even ho near_isNumber he
  have h1 := (says_leq_iff (w := bench) ho near_isNumber).mpr odd_near.le
  have h2 := (says_leq_iff (w := bench) near_isNumber he).mpr near_even.le
  have hb : odd.Blurred near even :=
    ⟨_, _, _, rfl, rfl, rfl, by decide, odd_near, near_even.symm⟩
  exact ⟨ho, near_isNumber, he, h1, h2, fun h => (ht h1 h2).mp h hb⟩

/-- Less or equal is not transitive, and two numbers that differ are told to be equal. -/
theorem numbers_not_compared_exactly :
    bench.Says (.externalOp · .leq [odd, near]) true ∧
      bench.Says (.externalOp · .leq [near, even]) true ∧
        bench.Says (.externalOp · .leq [odd, even]) false ∧
          odd.exactly ≠ near.exactly ∧ bench.Says (.externalOp · .eq [odd, near]) true := by
  have ho : odd.IsNumber := .integer _
  have he : even.IsNumber := .integer _
  have hq := says_number (w := bench) ho near_isNumber .eq
  have hl := says_number (w := bench) ho he .leq
  refine ⟨(says_leq_iff ho near_isNumber).mpr odd_near.le,
    (says_leq_iff near_isNumber he).mpr near_even.le, ?_, ?_, ?_⟩
  · have hf : ¬ odd.beside even ≤ even.beside odd := by decide
    rwa [Operator.relates, decide_eq_false hf] at hl
  · rw [odd_exactly, near_exactly]
    norm_num
  · rwa [Operator.relates, decide_eq_true odd_near] at hq

end Samples

end Work

end PolicyBridge
