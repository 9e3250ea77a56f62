import Mathlib.Tactic
import PolicyBridge.Proofs.Dispatch.Ranking
import PolicyBridge.Proofs.Value.Floats

namespace PolicyBridge

variable {S Obj : Type}

namespace Operator

def converse : Operator → Operator
  | .lt => .gt
  | .gt => .lt
  | .leq => .geq
  | .geq => .leq
  | o => o

/-- What the operators say of two operands and of the same ones the other way round, of which one
may be no number. -/
structure Coherent (here there : Operator → Bool) (unordered : Prop) : Prop where
  neq : here .neq = !here .eq
  leq : here .leq = (here .lt || here .eq)
  geq : here .geq = (here .gt || here .eq)
  converse : ∀ o, there o.converse = here o
  ordered : ¬ unordered → ∃! o, o ∈ [lt, eq, gt] ∧ here o = true
  unordered : unordered → ∀ o, here o = true ↔ o = .neq

lemma holds_converse (o : Operator) (c : Option Ordering) :
    o.converse.holds (c.map Ordering.swap) = o.holds c := by
  cases c with
  | none => cases o <;> rfl
  | some c => cases o <;> cases c <;> rfl

lemma holds_one (c : Ordering) : ∃! o, o ∈ [lt, eq, gt] ∧ holds o (some c) = true := by
  cases c with
  | lt => exact ⟨lt, by decide, by rintro ⟨⟩ <;> decide⟩
  | eq => exact ⟨eq, by decide, by rintro ⟨⟩ <;> decide⟩
  | gt => exact ⟨gt, by decide, by rintro ⟨⟩ <;> decide⟩

lemma holds_lt_iff {c : Option Ordering} : holds .lt c = true ↔ c = some .lt := by
  cases c with
  | none => decide
  | some c => cases c <;> decide

lemma holds_eq_iff {c : Option Ordering} : holds .eq c = true ↔ c = some .eq :=
  decide_eq_true_iff

lemma holds_parts (c : Option Ordering) : holds .neq c = !holds .eq c ∧
    holds .leq c = (holds .lt c || holds .eq c) ∧ holds .geq c = (holds .gt c || holds .eq c) := by
  cases c with
  | none => decide
  | some c => cases c <;> decide

lemma holds_coherent (c : Option Ordering) :
    Coherent (·.holds c) (·.holds (c.map Ordering.swap)) (c = none) := by
  obtain ⟨hn, hl, hg⟩ := holds_parts c
  refine ⟨hn, hl, hg, fun o => holds_converse o c, fun hc => ?_, ?_⟩
  · obtain ⟨c, rfl⟩ := Option.ne_none_iff_exists'.mp hc
    exact holds_one c
  · rintro rfl o
    cases o <;> decide

end Operator

namespace HostValue

def IsNumber : HostValue Obj → Prop
  | .integer _ | .float _ => True
  | _ => False

def IsNaN : HostValue Obj → Prop
  | .float x => x.isNaN = true
  | _ => False

inductive Comparable : HostValue Obj → HostValue Obj → Prop
  | numbers {a b : HostValue Obj} : a.IsNumber → b.IsNumber → Comparable a b
  | strings (s t : String) : Comparable (.string s) (.string t)
  | booleans (a b : Bool) : Comparable (.boolean a) (.boolean b)

def Below : HostValue Obj → HostValue Obj → Prop
  | .integer i, .integer j => i < j
  | .integer i, .float y => floatOfInteger i < y
  | .float x, .integer j => x < floatOfInteger j
  | .float x, .float y => x < y
  | .string s, .string t => s < t
  | .boolean a, .boolean b => a < b
  | _, _ => False

def Level : HostValue Obj → HostValue Obj → Prop
  | .integer i, .integer j => i = j
  | .integer i, .float y => (floatOfInteger i == y) = true
  | .float x, .integer j => (x == floatOfInteger j) = true
  | .float x, .float y => (x == y) = true
  | .string s, .string t => s = t
  | .boolean a, .boolean b => a = b
  | _, _ => False

structure Compares (a b : HostValue Obj) (c : Option Ordering) : Prop where
  here : a.compareScalars? b = some c
  there : b.compareScalars? a = some (c.map Ordering.swap)
  none : c = none ↔ a.IsNaN ∨ b.IsNaN
  below : c = some .lt ↔ a.Below b
  level : c = some .eq ↔ a.Level b

variable {a b : HostValue Obj}

lemma compares_floats {x y : Float} (hab : a.compareScalars? b = some (compareFloats x y))
    (hba : b.compareScalars? a = some (compareFloats y x))
    (hn : a.IsNaN ∨ b.IsNaN ↔ x.isNaN = true ∨ y.isNaN = true) (hl : a.Below b ↔ x < y)
    (he : a.Level b ↔ (x == y) = true) : Compares a b (compareFloats x y) := by
  refine ⟨hab, ?_, ?_, ?_, ?_⟩
  · rw [compareFloats_swap, hba]
  · rw [compareFloats_eq_none_iff, hn]
  · rw [compareFloats_eq_lt_iff, hl]
  · rw [compareFloats_eq_eq_iff, he]

lemma compares_total {α : Type} [Ord α] [Std.OrientedOrd α] {x y : α}
    (hab : a.compareScalars? b = some (some (compare x y)))
    (hba : b.compareScalars? a = some (some (compare y x))) (hn : ¬ (a.IsNaN ∨ b.IsNaN))
    (hl : a.Below b ↔ compare x y = .lt) (he : a.Level b ↔ compare x y = .eq) :
    Compares a b (some (compare x y)) := by
  refine ⟨hab, ?_, iff_of_false nofun hn, ?_, ?_⟩
  · rw [hba, Option.map_some, ← Std.OrientedOrd.eq_swap]
  · rw [hl, Option.some_inj]
  · rw [he, Option.some_inj]

lemma isNumber_cases (h : a.IsNumber) : (∃ i, a = .integer i) ∨ ∃ x, a = .float x := by
  cases a with
  | integer i => exact .inl ⟨i, rfl⟩
  | float x => exact .inr ⟨x, rfl⟩
  | _ => cases h

lemma Comparable.compares (h : Comparable a b) : ∃ c, Compares a b c := by
  have hi (i : Int64) : False ↔ (floatOfInteger i).isNaN = true :=
    iff_of_false id (by rw [isNaN_floatOfInteger]; exact Bool.false_ne_true)
  cases h with
  | strings s t =>
    exact ⟨_, compares_total rfl rfl (by simp [IsNaN]) compareOfLessAndEq_eq_lt.symm
      Std.compare_eq_iff_eq.symm⟩
  | booleans a b =>
    have hl : ∀ a b : Bool, a < b ↔ compare a b = .lt := by decide
    exact ⟨_, compares_total rfl rfl (by simp [IsNaN]) (hl a b) Std.compare_eq_iff_eq.symm⟩
  | numbers ha hb =>
    rcases isNumber_cases ha with ⟨i, rfl⟩ | ⟨x, rfl⟩ <;>
      rcases isNumber_cases hb with ⟨j, rfl⟩ | ⟨y, rfl⟩
    · exact ⟨_, compares_total rfl rfl (by simp [IsNaN]) Std.compare_eq_lt.symm
        Std.compare_eq_iff_eq.symm⟩
    · exact ⟨_, compares_floats rfl rfl (or_congr (hi i) .rfl) .rfl .rfl⟩
    · exact ⟨_, compares_floats rfl rfl (or_congr .rfl (hi j)) .rfl .rfl⟩
    · exact ⟨_, compares_floats rfl rfl .rfl .rfl .rfl⟩

end HostValue

namespace Registry

variable {r : Registry Obj} {a b : HostValue Obj} {l t : Term} {c : Option Ordering}

lemma compareTerms_of_read (o : Operator) (ha : Marshal.fromTerm r l = .ok a)
    (hb : Marshal.fromTerm r t = .ok b) :
    r.compareTerms o [l, t] = r.compareValues o a b := by
  rw [compareTerms, ha, hb]
  rfl

lemma compareValues_of_scalars (o : Operator) (h : a.compareScalars? b = some c) :
    r.compareValues o a b = .ok (o.holds c) := by
  unfold compareValues
  split
  · cases h
  · rw [h]

end Registry

namespace Work

variable [IdSource S]

lemma says_op {w : Work S Obj} {o : Operator} {l r : Term} {a b : HostValue Obj}
    {c : Option Ordering} (ha : Marshal.fromTerm w.registry l = .ok a)
    (hb : Marshal.fromTerm w.registry r = .ok b) (h : a.compareScalars? b = some c) :
    w.Says (.externalOp · o [l, r]) (o.holds c) := by
  intro callId
  rw [Dispatching.dispatch_op, Registry.compareTerms_of_read o ha hb,
    Registry.compareValues_of_scalars o h]
  rfl

/-- Operators on numbers, texts and truth values are always answered. Their answers fit each other
and those on the operands the other way round; exactly one of less, equal and greater holds unless
one of the operands is no number, when nothing but unequal does. -/
theorem scalar_operators_cohere (w : Work S Obj) (l r : Term) (a b : HostValue Obj)
    (ha : Marshal.fromTerm w.registry l = .ok a) (hb : Marshal.fromTerm w.registry r = .ok b)
    (hab : a.Comparable b) : ∃ here there : Operator → Bool,
      (∀ o, w.Says (.externalOp · o [l, r]) (here o)) ∧
      (∀ o, w.Says (.externalOp · o [r, l]) (there o)) ∧
      Operator.Coherent here there (a.IsNaN ∨ b.IsNaN) ∧
      (here .lt = true ↔ a.Below b) ∧ (here .eq = true ↔ a.Level b) := by
  obtain ⟨c, hc⟩ := hab.compares
  refine ⟨(·.holds c), (·.holds (c.map Ordering.swap)), fun o => says_op ha hb hc.here,
    fun o => says_op hb ha hc.there, ?_, ?_, ?_⟩
  · have h := Operator.holds_coherent c
    rwa [hc.none] at h
  · rw [← hc.below, Operator.holds_lt_iff]
  · rw [← hc.level, Operator.holds_eq_iff]

section Samples

def bench : Work Counter Unit := ⟨⟨⟨1⟩, .empty, none⟩, .fresh⟩

theorem scalar_operators_cohere_rounded :
    let l : Term := .integer 9007199254740993
    let r : Term := .float 9007199254740992
    let a : HostValue Unit := .integer 9007199254740993
    let b : HostValue Unit := .float 9007199254740992
    Marshal.fromTerm bench.registry l = .ok a ∧ Marshal.fromTerm bench.registry r = .ok b ∧
      a.Comparable b ∧ bench.Says (.externalOp · .eq [l, r]) true ∧
      bench.Says (.externalOp · .neq [l, r]) false := by
  intro l r a b
  have hab : a.Comparable b := .numbers trivial trivial
  obtain ⟨here, there, hh, -, hc, -, he⟩ := scalar_operators_cohere bench l r a b rfl rfl hab
  have ht : here .eq = true := he.mpr (by decide : (floatOfInteger _ == _) = true)
  have hn : here .neq = false := by rw [hc.neq, ht]; rfl
  exact ⟨rfl, rfl, hab, ht ▸ hh .eq, hn ▸ hh .neq⟩

end Samples

end Work

end PolicyBridge
