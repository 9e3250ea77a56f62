import Mathlib.Tactic
import PolicyBridge.Proofs.Dispatch.Drawing
import PolicyBridge.Proofs.Marshal.Reading
import PolicyBridge.Proofs.Registry.Builders

/-! A registry in which like classes stand under the same names. What is read from it is the same,
as hooks are only run on receivers of the type that their class is for. -/

namespace PolicyBridge

variable {Obj : Type}

lemma rel_cases {α β : Type} {R : α → β → Prop} {x : Option α} {y : Option β}
    (h : Option.Rel R x y) : x = none ∧ y = none ∨ ∃ a b, x = some a ∧ y = some b ∧ R a b := by
  cases h with
  | none => exact .inl ⟨rfl, rfl⟩
  | some h => exact .inr ⟨_, _, rfl, rfl, h⟩

lemma isSome_rel {α β : Type} {R : α → β → Prop} {x : Option α} {y : Option β}
    (h : Option.Rel R x y) : y.isSome = x.isSome := by
  cases h <;> rfl

namespace Class.Alike

variable {c d : Class Obj} (h : c.Alike d)

include h

lemma defines? (member : String) (kind : MemberKind) :
    d.defines? member kind = c.defines? member kind := by
  have ha : d.hasAttribute member = c.hasAttribute member := isSome_rel (h.attributes member)
  have hm : d.hasMethod member = c.hasMethod member := isSome_rel (h.methods member)
  rw [Class.defines?, ha, hm, Class.defines?]

lemma runMember (member : String) (kind : MemberKind) {i : Instance Obj}
    (hi : i.hostType = c.receiver) (args : Args Obj) :
    Dispatching.runMember d member kind i args = Dispatching.runMember c member kind i args := by
  cases kind
  · unfold Dispatching.runMember
    rcases rel_cases (h.attributes member) with ⟨hc, hd⟩ | ⟨f, g, hc, hd, hfg⟩
    · simp only [hc, hd, h.name]
    · simp only [hc, hd, h.name, hfg i hi]
  · unfold Dispatching.runMember
    rcases rel_cases (h.methods member) with ⟨hc, hd⟩ | ⟨f, g, hc, hd, hfg⟩
    · simp only [hc, hd, h.name]
    · simp only [hc, hd, h.name, hfg i hi]

end Class.Alike

namespace Registry

def recast (classes : Dict String (Class Obj)) (r : Registry Obj) : Registry Obj :=
  { r with byName := classes }

structure Recasts (classes : Dict String (Class Obj)) (r : Registry Obj) : Prop where
  coherent : Coherent r
  alike : ∀ n, Option.Rel Class.Alike (r.class? n) (classes.find? n)

namespace Recasts

variable {classes : Dict String (Class Obj)} {r r' : Registry Obj}

lemma of_same (h : Recasts classes r) (hn : r'.byName = r.byName) (ht : r'.byType = r.byType) :
    Recasts classes r' := by
  have hs : SameClasses r r' := ⟨hn, ht⟩
  refine ⟨h.coherent.of_same hs, fun n => ?_⟩
  rw [hs.class?]
  exact h.alike n

variable (h : Recasts classes r)

include h

lemma class?_cases (n : String) :
    r.class? n = none ∧ (r.recast classes).class? n = none ∨
      ∃ c d, r.class? n = some c ∧ (r.recast classes).class? n = some d ∧ c.Alike d :=
  rel_cases (h.alike n)

lemma classFor?_cases (i : Instance Obj) :
    r.classFor? i = none ∧ (r.recast classes).classFor? i = none ∨
      ∃ c d, r.classFor? i = some c ∧ (r.recast classes).classFor? i = some d ∧ c.Alike d ∧
        i.hostType = c.receiver := by
  have hb (r : Registry Obj) :
      r.classFor? i = (r.byType.find? i.hostType.name).bind r.class? := rfl
  cases ht : r.byType.find? i.hostType.name with
  | none =>
    refine .inl ⟨?_, ?_⟩
    · rw [hb, ht]
      rfl
    · exact (hb _).trans (by rw [recast, ht]; rfl)
  | some n =>
    have hi : r.classFor? i = r.class? n := by
      rw [hb, ht]
      rfl
    have hi' : (r.recast classes).classFor? i = (r.recast classes).class? n :=
      (hb _).trans (by rw [recast, ht]; rfl)
    rw [hi, hi']
    rcases h.class?_cases n with hn | ⟨c, d, hc, hd, hcd⟩
    · exact .inl hn
    · exact .inr ⟨c, d, hc, hd, hcd, (h.coherent.receiver (hi.trans hc)).symm⟩

lemma classOf_cases (i : Instance Obj) :
    (∃ e, r.classOf i = .error e ∧ (r.recast classes).classOf i = .error e) ∨
      ∃ c d, r.classOf i = .ok c ∧ (r.recast classes).classOf i = .ok d ∧ c.Alike d ∧
        i.hostType = c.receiver := by
  unfold classOf
  rcases h.classFor?_cases i with ⟨hc, hd⟩ | ⟨c, d, hc, hd, hcd⟩
  · exact .inl ⟨noClass i, by rw [hc], by rw [hd]⟩
  · exact .inr ⟨c, d, by rw [hc], by rw [hd], hcd⟩

lemma classRepr (i : Instance Obj) :
    Marshal.classRepr (r.recast classes) i = Marshal.classRepr r i := by
  unfold Marshal.classRepr
  rcases h.classFor?_cases i with ⟨hc, hd⟩ | ⟨c, d, hc, hd, hcd, -⟩
  · rw [hc, hd]
  · rw [hc, hd]
    exact hcd.name

lemma isa (t : Term) (tag : String) : (r.recast classes).isa t tag = r.isa t tag := by
  cases t with
  | external id _ _ _ =>
    change ((r.lookup id).bind fun i => _) = (r.lookup id).bind fun i => _
    cases r.lookup id with
    | error e => rfl
    | ok i =>
      refine congrArg Except.ok ?_
      rcases h.classFor?_cases i with ⟨hc, hd⟩ | ⟨c, d, hc, hd, hcd, -⟩
      · rw [hc, hd]
      · rw [hc, hd]
        exact congrArg (List.contains · tag) hcd.order
  | _ => rfl

lemma isSubSpecializer (id : UInt64) (left right : String) :
    (r.recast classes).isSubSpecializer id left right = r.isSubSpecializer id left right := by
  change ((r.lookup id).bind fun i => _) = (r.lookup id).bind fun i => _
  cases r.lookup id with
  | error e => rfl
  | ok i =>
    refine congrArg Except.ok ?_
    rcases h.classFor?_cases i with ⟨hc, hd⟩ | ⟨c, d, hc, hd, hcd, -⟩
    · rw [hc, hd]
    · rw [hc, hd]
      dsimp only
      unfold Class.specificity
      rw [hcd.order]

lemma isSubclass (left right : String) :
    (r.recast classes).isSubclass left right = r.isSubclass left right := by
  unfold Registry.isSubclass
  rcases h.class?_cases left with ⟨hc, hd⟩ | ⟨c, d, hc, hd, hcd⟩
  · rw [hc, hd]
  · rw [hc, hd]
    dsimp only
    unfold Class.isSubclassOf
    rw [hcd.order]

lemma instancesEqual (left right : Instance Obj) :
    (r.recast classes).instancesEqual left right = r.instancesEqual left right := by
  unfold Registry.instancesEqual
  split
  · rfl
  rcases h.classFor?_cases left with ⟨hc, hd⟩ | ⟨c, d, hc, hd, hcd, ht⟩
  · rw [hc, hd]
  · rw [hc, hd]
    dsimp only
    rcases rel_cases hcd.equality with ⟨he, he'⟩ | ⟨f, g, he, he', hfg⟩
    · rw [he, he']
    · rw [he, he']
      dsimp only
      rw [hcd.name, hfg left ht]

lemma unify (left right : UInt64) : (r.recast classes).unify left right = r.unify left right := by
  change ((r.lookup left).bind fun i => (r.lookup right).bind fun j => _) =
    (r.lookup left).bind fun i => (r.lookup right).bind fun j => _
  simp only [h.instancesEqual]

lemma compareInstances (o : Operator) (left right : Instance Obj) :
    (r.recast classes).compareInstances o left right = r.compareInstances o left right := by
  unfold Registry.compareInstances
  rw [h.instancesEqual]
  split
  · rfl
  · rfl
  rcases h.classOf_cases left with ⟨e, hc, hd⟩ | ⟨c, d, hc, hd, hcd, ht⟩
  · rw [hc, hd]
  · rw [hc, hd]
    simp only [Bind.bind, Except.bind]
    rcases rel_cases hcd.ordering with ⟨he, he'⟩ | ⟨f, g, he, he', hfg⟩
    · rw [he, he']
      simp only [unordered, hcd.name]
    · rw [he, he']
      dsimp only
      rw [hcd.name, hfg left ht]

lemma compareValues (o : Operator) (left right : HostValue Obj) :
    (r.recast classes).compareValues o left right = r.compareValues o left right := by
  unfold Registry.compareValues
  split
  · exact h.compareInstances o _ _
  · rfl

omit h in
lemma fromTerm (t : Term) : Marshal.fromTerm (r.recast classes) t = Marshal.fromTerm r t :=
  Marshal.fromTerm_congr t fun _ _ => rfl

omit h in
lemma fromTerms (ts : List Term) :
    Marshal.fromTerms (r.recast classes) ts = Marshal.fromTerms r ts :=
  Marshal.fromTerms_congr ts fun _ _ => rfl

lemma compareTerms (o : Operator) (ts : List Term) :
    (r.recast classes).compareTerms o ts = r.compareTerms o ts := by
  unfold Registry.compareTerms
  simp only [fromTerm, h.compareValues]

lemma stepsOf (v : HostValue Obj) :
    Dispatching.stepsOf (r.recast classes) v = Dispatching.stepsOf r v := by
  cases v with
  | object i =>
    unfold Dispatching.stepsOf
    rcases h.classOf_cases i with ⟨e, hc, hd⟩ | ⟨c, d, hc, hd, hcd, ht⟩
    · dsimp only
      rw [hc, hd]
    · dsimp only
      rw [hc, hd]
      simp only [Bind.bind, Except.bind]
      rcases rel_cases hcd.iterator with ⟨he, he'⟩ | ⟨f, g, he, he', hfg⟩
      · rw [he, he']
        simp only [Dispatching.notIterable, hcd.name]
      · rw [he, he']
        dsimp only
        rw [hcd.name, hfg i ht]
  | _ => rfl

lemma construct (t : Term) : Dispatching.construct (r.recast classes) t =
    (Dispatching.construct r t).map fun x => (x.1, x.2.recast classes) := by
  cases t with
  | call name args kwargs =>
    have hb (r : Registry Obj) : Dispatching.construct r (.call name args kwargs) =
        (Dispatching.refuseKeywords kwargs name).bind fun _ =>
          (Dispatching.namedClass r name).bind fun c =>
            (Dispatching.constructorOf c name).bind fun f =>
              (Marshal.fromTerms r args).bind fun args =>
                ((f args).guarded c.name "new").bind fun o => .ok (r.build o c.receiver) := rfl
    rw [hb, hb]
    cases Dispatching.refuseKeywords kwargs name with
    | error e => rfl
    | ok u =>
      simp only [Except.bind, Dispatching.namedClass, Dispatching.constructorOf, fromTerms]
      rcases h.class?_cases name with ⟨hc, hd⟩ | ⟨c, d, hc, hd, hcd⟩
      · rw [hc, hd]
        rfl
      · rw [hc, hd]
        dsimp only
        rw [hcd.construct, hcd.name, hcd.receiver]
        cases c.construct with
        | none => rfl
        | some f =>
          cases Marshal.fromTerms r args with
          | error e => rfl
          | ok args =>
            dsimp only
            cases (f args).guarded c.name "new" <;> rfl
  | _ => rfl

lemma findMember? (member : String) (kind : MemberKind) (order : List String) :
    (r.findMember? member kind order = none ∧
        (r.recast classes).findMember? member kind order = none) ∨
      ∃ c d found, r.findMember? member kind order = some (c, found) ∧
        (r.recast classes).findMember? member kind order = some (d, found) ∧ c.Alike d := by
  induction order with
  | nil => exact .inl ⟨rfl, rfl⟩
  | cons name order ih =>
    unfold Registry.findMember?
    rcases h.class?_cases name with ⟨hc, hd⟩ | ⟨c, d, hc, hd, hcd⟩
    · rw [hc, hd]
      exact ih
    · rw [hc, hd]
      dsimp only
      rw [hcd.defines?]
      cases c.defines? member kind with
      | none => exact ih
      | some found => exact .inr ⟨c, d, found, rfl, rfl, hcd⟩

lemma furnish (id : UInt64) (t : Term) : Dispatching.furnish (r.recast classes) id t =
    (Dispatching.furnish r id t).map (recast classes) := by
  cases hc : Dispatching.construct r t with
  | error e =>
    have hd : Dispatching.construct (r.recast classes) t = .error e := by
      rw [h.construct, hc]
      rfl
    rw [Dispatching.furnish, hd, Dispatching.furnish, hc]
    rfl
  | ok x =>
    have hd : Dispatching.construct (r.recast classes) t = .ok (x.1, x.2.recast classes) := by
      rw [h.construct, hc]
      rfl
    rw [Dispatching.furnish_of_built hd, Dispatching.furnish_of_built hc]
    change ite (x.2.entries.contains id = true) _ _ =
      Except.map _ (ite (x.2.entries.contains id = true) _ _)
    split <;> rfl

end Recasts

end Registry

end PolicyBridge
