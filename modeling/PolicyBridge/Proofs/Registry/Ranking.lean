import Mathlib.Tactic
import PolicyBridge.Dispatch.Compare
import PolicyBridge.Proofs.Registry.Builders
import PolicyBridge.Proofs.Registry.Entries

namespace PolicyBridge

variable {Obj : Type}

namespace Class

def outranks (c : Class Obj) (left right : String) : Bool :=
  match c.specificity left, c.specificity right with
  | some l, some r => l < r
  | _, _ => false

def LeadsOrder (c : Class Obj) : Prop := c.order.head? = some c.name

variable {c : Class Obj} {l r tag : String}

lemma isSubclassOf_eq (c : Class Obj) (tag : String) :
    c.isSubclassOf tag = (c.specificity tag).isSome := by
  rw [isSubclassOf, specificity, List.findIdx?_isSome, Bool.eq_iff_iff]
  simp

lemma getElem?_of_specificity {k : Nat} (h : c.specificity tag = some k) :
    c.order[k]? = some tag := by
  obtain ⟨hk, ht, -⟩ := List.findIdx?_eq_some_iff_getElem.mp h
  rw [List.getElem?_eq_getElem hk, of_decide_eq_true ht]

lemma outranks_iff : c.outranks l r = true ↔
    ∃ i j, c.specificity l = some i ∧ c.specificity r = some j ∧ i < j := by
  unfold outranks
  cases c.specificity l <;> cases c.specificity r <;> simp

lemma isSubclassOf_of_outranks (h : c.outranks l r = true) :
    c.isSubclassOf l = true ∧ c.isSubclassOf r = true := by
  obtain ⟨i, j, hi, hj, -⟩ := outranks_iff.mp h
  rw [isSubclassOf_eq, isSubclassOf_eq, hi, hj]
  exact ⟨rfl, rfl⟩

lemma outranks_irrefl (c : Class Obj) (tag : String) : ¬ c.outranks tag tag = true := by
  intro h
  obtain ⟨i, j, hi, hj, hlt⟩ := outranks_iff.mp h
  rw [hi] at hj
  cases hj
  exact Nat.lt_irrefl _ hlt

lemma outranks_trans {m : String} (h : c.outranks l m = true) (h' : c.outranks m r = true) :
    c.outranks l r = true := by
  obtain ⟨i, j, hi, hj, hij⟩ := outranks_iff.mp h
  obtain ⟨j', k, hj', hk, hjk⟩ := outranks_iff.mp h'
  obtain rfl := Option.some.inj (hj.symm.trans hj')
  exact outranks_iff.mpr ⟨i, k, hi, hk, hij.trans hjk⟩

lemma outranks_trichotomous (hl : c.isSubclassOf l = true) (hr : c.isSubclassOf r = true) :
    c.outranks l r = true ∨ l = r ∨ c.outranks r l = true := by
  rw [isSubclassOf_eq] at hl hr
  obtain ⟨i, hi⟩ := Option.isSome_iff_exists.mp hl
  obtain ⟨j, hj⟩ := Option.isSome_iff_exists.mp hr
  rcases lt_trichotomy i j with hlt | rfl | hlt
  · exact .inl (outranks_iff.mpr ⟨i, j, hi, hj, hlt⟩)
  · have he := (getElem?_of_specificity hi).symm.trans (getElem?_of_specificity hj)
    exact .inr (.inl (Option.some.inj he))
  · exact .inr (.inr (outranks_iff.mpr ⟨j, i, hj, hi, hlt⟩))

lemma specificity_name (h : c.LeadsOrder) : c.specificity c.name = some 0 := by
  obtain ⟨rest, hr⟩ := List.head?_eq_some_iff.mp h
  simp [specificity, hr, List.findIdx?_cons]

lemma isSubclassOf_name (h : c.LeadsOrder) : c.isSubclassOf c.name = true := by
  rw [isSubclassOf_eq, specificity_name h]
  rfl

lemma name_outranks (h : c.LeadsOrder) (ht : c.isSubclassOf tag = true) (hn : tag ≠ c.name) :
    c.outranks c.name tag = true := by
  have h₀ := specificity_name h
  rcases outranks_trichotomous (isSubclassOf_name h) ht with hlt | he | hlt
  · exact hlt
  · exact absurd he.symm hn
  · obtain ⟨i, j, -, hj, hij⟩ := outranks_iff.mp hlt
    rw [h₀] at hj
    cases hj
    exact absurd hij (Nat.not_lt_zero i)

lemma head?_addSpecializers {order : List String} {n : String} (h : order.head? = some n)
    (parents : List String) : (parents.foldl addSpecializer order).head? = some n := by
  induction parents generalizing order with
  | nil => exact h
  | cons p parents ih =>
    refine ih ?_
    rw [addSpecializer]
    split
    · exact h
    · rw [List.head?_append, h]
      rfl

end Class

lemma ClassPart.add_leadsOrder (p : ClassPart Obj) {c : Class Obj} (h : c.LeadsOrder) :
    (p.add c).LeadsOrder := by
  cases p with
  | specializers parents => exact Class.head?_addSpecializers rfl parents
  | _ => exact h

lemma Blueprint.build_leadsOrder (b : Blueprint Obj) : b.build.LeadsOrder := by
  have hs : b.start.LeadsOrder := by
    unfold start
    cases b.type <;> rfl
  have hf (parts : List (ClassPart Obj)) {c : Class Obj} (h : c.LeadsOrder) :
      (parts.foldl (fun c p => p.add c) c).LeadsOrder := by
    induction parts generalizing c with
    | nil => exact h
    | cons p parts ih => exact ih (p.add_leadsOrder h)
  exact hf b.parts hs

namespace Registry

structure Ranked (r : Registry Obj) : Prop extends Coherent r where
  leads : ∀ n c, r.class? n = some c → c.LeadsOrder

variable {r r' : Registry Obj} {c : Class Obj} {id : UInt64} {x : Entry Obj}

namespace Ranked

lemma empty : Ranked (empty : Registry Obj) := ⟨.empty, nofun⟩

lemma of_same (h : Ranked r) (hs : SameClasses r r') : Ranked r' := by
  refine ⟨h.toCoherent.of_same hs, fun n c => ?_⟩
  rw [hs.class?]
  exact h.leads n c

lemma registerClass (h : Ranked r) (hc : c.LeadsOrder) : Ranked (r.registerClass c) := by
  refine ⟨h.toCoherent.registerClass c, fun n d hd => ?_⟩
  rw [class?_registerClass] at hd
  split at hd
  · cases hd
    exact hc
  · exact h.leads n d hd

end Ranked

lemma classFor?_reference (r : Registry Obj) (id : UInt64) (x : Entry Obj) :
    r.classFor? (x.reference id) = r.classFor? x.object := by
  unfold Entry.reference
  cases x.owner <;> rfl

section Questions

variable (hx : r.live? id = some x) (hc : r.classFor? x.object = some c)

include hx hc

lemma isa_of_live (constructor : Option Term) (repr classRepr : Option String) (tag : String) :
    r.isa (.external id constructor repr classRepr) tag = .ok (c.isSubclassOf tag) := by
  rw [isa, lookup_of_live _ _ hx]
  dsimp only [Bind.bind, Except.bind, Pure.pure, Except.pure]
  rw [classFor?_reference, hc]

lemma isSubSpecializer_of_live (left right : String) :
    r.isSubSpecializer id left right = .ok (c.outranks left right) := by
  rw [isSubSpecializer, lookup_of_live _ _ hx]
  dsimp only [Bind.bind, Except.bind, Pure.pure, Except.pure]
  rw [classFor?_reference, hc]
  rfl

end Questions

lemma isSubclass_of_named (hc : r.class? c.name = some c) (hl : c.LeadsOrder) (tag : String) :
    r.isSubclass c.name tag = c.isSubclassOf tag := by
  rw [isSubclass, hc]
  by_cases ht : c.name = tag
  · simp [← ht, Class.isSubclassOf_name hl]
  · simp [ht]

end Registry

end PolicyBridge
