import Mathlib.Tactic
import PolicyBridge.Proofs.Dispatch.Ranking
import PolicyBridge.Proofs.Registry.Referring

/-! Equality of host objects. Asked of their ids or by an operator on terms it is one relation, and
an equivalence if the host's own comparisons are, although only the left object's class is asked. -/

namespace PolicyBridge

variable {S Obj : Type}

structure Equating (p : Obj → Prop) (f : Obj → Obj → Outcome Bool) : Prop where
  answers : ∀ x y, p x → p y → ∃ b, f x y = .value b
  refl : ∀ x, p x → f x x = .value true
  symm : ∀ x y, p x → p y → f x y = .value true → f y x = .value true
  trans : ∀ x y z, p x → p y → p z → f x y = .value true → f y z = .value true →
    f x z = .value true

section Hooks

def Class.ComparesBy (p : (Obj → Obj → Outcome Bool) → Prop) (c : Class Obj) : Prop :=
  ∀ eq, c.equality = some eq → ∃ f, p f ∧ ∀ i j, i.hostType = c.receiver →
    eq i j = if j.hostType = c.receiver then f i.object j.object else .value false

variable {p q : (Obj → Obj → Outcome Bool) → Prop} {c : Class Obj}

lemma Class.ComparesBy.mono (h : c.ComparesBy p) (hpq : ∀ f, p f → q f) : c.ComparesBy q := by
  intro eq he
  obtain ⟨f, hf, heq⟩ := h eq he
  exact ⟨f, hpq f hf, heq⟩

lemma ClassPart.add_comparesBy (part : ClassPart Obj) (h : c.ComparesBy p)
    (hp : ∀ f, part = .equality f → p f) : (part.add c).ComparesBy p := by
  cases part with
  | equality f =>
    rintro _ ⟨⟩
    exact ⟨f, hp f rfl, fun i j hi => if_pos hi⟩
  | _ => exact h

lemma Blueprint.build_comparesBy (b : Blueprint Obj) :
    b.build.ComparesBy fun f => .equality f ∈ b.parts := by
  have hf (p : (Obj → Obj → Outcome Bool) → Prop) (parts : List (ClassPart Obj)) {c : Class Obj}
      (h : c.ComparesBy p) (hp : ∀ f, .equality f ∈ parts → p f) :
      (parts.foldl (fun c part => part.add c) c).ComparesBy p := by
    induction parts generalizing c with
    | nil => exact h
    | cons part parts ih =>
      refine ih (part.add_comparesBy h ?_) fun f hf => hp f (List.mem_cons_of_mem _ hf)
      rintro f rfl
      exact hp f List.mem_cons_self
  have hs : b.start.equality = none := by
    unfold start
    cases b.type <;> rfl
  refine hf _ b.parts (fun eq he => ?_) fun f hf => hf
  rw [hs] at he
  cases he

end Hooks

def Term.Names (t : Term) (id : UInt64) : Prop :=
  ∃ constructor repr classRepr, t = .external id constructor repr classRepr

namespace Registry

def Among (P : Instance Obj → Prop) (t : HostType) (o : Obj) : Prop :=
  ∃ i, P i ∧ i.hostType = t ∧ i.object = o

structure Compares (r : Registry Obj) (P : Instance Obj → Prop) : Prop where
  coherent : Coherent r
  agree : ∀ i j, P i → P j → i.identity = j.identity →
    i.object = j.object ∧ i.hostType = j.hostType
  hooks : ∀ n c, r.class? n = some c → c.ComparesBy (Equating (Among P c.receiver))

structure Sorts (r : Registry Obj) (P : Instance Obj → Prop) (t : HostType)
    (Like : Instance Obj → Instance Obj → Prop) : Prop where
  like : Equivalence fun i j : {i // P i ∧ i.hostType = t} => Like i j
  answers : ∀ i j, P i → P j → i.hostType = t →
    ∃ b, r.instancesEqual i j = .ok b ∧ (b = true ↔ j.hostType = t ∧ Like i j)

variable {r : Registry Obj} {P : Instance Obj → Prop} {i j k : Instance Obj}

lemma instancesEqual_of_same (h : i.sameObject j = true) : r.instancesEqual i j = .ok true :=
  if_pos h

lemma instancesEqual_of_unhooked (h : (r.classFor? i).bind Class.equality = none) :
    r.instancesEqual i j = .ok (i.sameObject j) := by
  unfold instancesEqual
  cases i.sameObject j with
  | true => rfl
  | false =>
    cases hc : r.classFor? i with
    | none => rfl
    | some c =>
      have he : c.equality = none := by simpa [hc] using h
      simp only [he, Bool.false_eq_true, if_false]

lemma Sorts.equal_iff {t : HostType} {Like : Instance Obj → Instance Obj → Prop}
    (h : r.Sorts P t Like) (hi : P i) (hj : P j) (ht : i.hostType = t) :
    r.instancesEqual i j = .ok true ↔ j.hostType = t ∧ Like i j := by
  obtain ⟨b, hb, hiff⟩ := h.answers i j hi hj ht
  rw [hb, ← hiff]
  exact ⟨Except.ok.inj, congrArg _⟩

namespace Compares

variable (h : r.Compares P)

include h

lemma hook_of_type {eq : Instance Obj → Instance Obj → Outcome Bool}
    (he : (r.classFor? i).bind Class.equality = some eq) :
    ∃ c f, Equating (Among P i.hostType) f ∧ ∀ i' j, i'.hostType = i.hostType →
      i'.sameObject j = false → r.instancesEqual i' j =
        if j.hostType = i.hostType then (f i'.object j.object).guarded c "==" else .ok false := by
  obtain ⟨c, hc, he⟩ := Option.bind_eq_some_iff.mp he
  obtain ⟨f, hf, heq⟩ := h.hooks _ c (h.coherent.sound hc).1 eq he
  rw [h.coherent.receiver hc] at hf heq
  refine ⟨c.name, f, hf, fun i' j hi hs => ?_⟩
  have hc' : r.classFor? i' = some c := by
    rw [← hc, classFor?, hi, classFor?]
  rw [Dispatching.instancesEqual_of_equates ⟨hs, hc', he⟩, heq i' j hi]
  split <;> rfl

lemma sorts_by_identity {t : HostType}
    (hn : ∀ i : Instance Obj, i.hostType = t → (r.classFor? i).bind Class.equality = none) :
    r.Sorts P t fun i j => i.identity = j.identity := by
  refine ⟨⟨fun _ => rfl, Eq.symm, Eq.trans⟩, fun i j hi hj hit => ?_⟩
  refine ⟨i.sameObject j, instancesEqual_of_unhooked (hn i hit), fun hs => ?_, fun hs => ?_⟩
  · have hij := of_decide_eq_true hs
    exact ⟨(h.agree i j hi hj hij).2.symm.trans hit, hij⟩
  · exact decide_eq_true hs.2

lemma sorts_by_hook {t : HostType} {f : Obj → Obj → Outcome Bool} {c : String}
    (hf : Equating (Among P t) f) (hh : ∀ i j, i.hostType = t → i.sameObject j = false →
      r.instancesEqual i j =
        if j.hostType = t then (f i.object j.object).guarded c "==" else .ok false) :
    r.Sorts P t fun i j => f i.object j.object = .value true := by
  have hm (i : {i // P i ∧ i.hostType = t}) : Among P t i.1.object := ⟨i, i.2.1, i.2.2, rfl⟩
  refine ⟨⟨fun i => hf.refl _ (hm i), fun {i j} => hf.symm _ _ (hm i) (hm j),
    fun {i j k} => hf.trans _ _ _ (hm i) (hm j) (hm k)⟩, fun i j hi hj hit => ?_⟩
  have hi' : Among P t i.object := ⟨i, hi, hit, rfl⟩
  cases hs : i.sameObject j with
  | true =>
    -- the hook does not run, but would give the same
    obtain ⟨ho, ht⟩ := h.agree i j hi hj (of_decide_eq_true hs)
    refine ⟨true, instancesEqual_of_same hs, fun _ => ⟨ht.symm.trans hit, ?_⟩, fun _ => rfl⟩
    rw [← ho]
    exact hf.refl _ hi'
  | false =>
    rw [hh i j hit hs]
    by_cases hjt : j.hostType = t
    · obtain ⟨b, hb⟩ := hf.answers _ _ hi' ⟨j, hj, hjt, rfl⟩
      rw [if_pos hjt, hb]
      exact ⟨b, rfl, by simp [hjt]⟩
    · rw [if_neg hjt]
      exact ⟨false, rfl, by simp [hjt]⟩

lemma sorted (t : HostType) : ∃ Like, r.Sorts P t Like := by
  by_cases hn : ∀ i : Instance Obj, i.hostType = t → (r.classFor? i).bind Class.equality = none
  · exact ⟨_, h.sorts_by_identity hn⟩
  · simp only [not_forall] at hn
    obtain ⟨i, rfl, he⟩ := hn
    obtain ⟨eq, he⟩ := Option.ne_none_iff_exists'.mp he
    obtain ⟨c, f, hf, hh⟩ := h.hook_of_type he
    exact ⟨_, h.sorts_by_hook hf hh⟩

lemma answers (hi : P i) (hj : P j) : ∃ b, r.instancesEqual i j = .ok b := by
  obtain ⟨Like, hl⟩ := h.sorted i.hostType
  obtain ⟨b, hb, -⟩ := hl.answers i j hi hj rfl
  exact ⟨b, hb⟩

lemma equal_symm (hi : P i) (hj : P j) (hij : r.instancesEqual i j = .ok true) :
    r.instancesEqual j i = .ok true := by
  obtain ⟨Like, hl⟩ := h.sorted i.hostType
  obtain ⟨ht, hij⟩ := (hl.equal_iff hi hj rfl).mp hij
  have hji : Like j i := hl.like.symm (x := ⟨i, hi, rfl⟩) (y := ⟨j, hj, ht⟩) hij
  exact (hl.equal_iff hj hi ht).mpr ⟨rfl, hji⟩

lemma equal_trans (hi : P i) (hj : P j) (hk : P k) (hij : r.instancesEqual i j = .ok true)
    (hjk : r.instancesEqual j k = .ok true) : r.instancesEqual i k = .ok true := by
  obtain ⟨Like, hl⟩ := h.sorted i.hostType
  obtain ⟨ht, hij⟩ := (hl.equal_iff hi hj rfl).mp hij
  obtain ⟨ht', hjk⟩ := (hl.equal_iff hj hk ht).mp hjk
  have hik : Like i k :=
    hl.like.trans (x := ⟨i, hi, rfl⟩) (y := ⟨j, hj, ht⟩) (z := ⟨k, hk, ht'⟩) hij hjk
  exact (hl.equal_iff hi hk rfl).mpr ⟨ht', hik⟩

end Compares

section Asking

variable {a b : UInt64} {left right : Term}

lemma unify_of_lookups (hi : r.lookup a = .ok i) (hj : r.lookup b = .ok j) :
    r.unify a b = r.instancesEqual i j := by
  rw [unify, hi, hj]
  rfl

lemma compareTerms_of_names (hl : left.Names a) (hr : right.Names b) (o : Operator) :
    r.compareTerms o [left, right] =
      (r.lookup a).bind fun i => (r.lookup b).bind fun j => r.compareInstances o i j := by
  obtain ⟨_, _, _, rfl⟩ := hl
  obtain ⟨_, _, _, rfl⟩ := hr
  simp only [compareTerms, Marshal.fromTerm]
  cases r.lookup a with
  | error x => rfl
  | ok i => cases r.lookup b <;> rfl

lemma compareTerms_eq (hl : left.Names a) (hr : right.Names b) :
    r.compareTerms .eq [left, right] = r.unify a b :=
  compareTerms_of_names hl hr .eq

lemma compareTerms_neq (hl : left.Names a) (hr : right.Names b) :
    r.compareTerms .neq [left, right] = (r.unify a b).map not := by
  rw [compareTerms_of_names hl hr]
  change _ = ((r.lookup a).bind fun i => (r.lookup b).bind fun j => r.instancesEqual i j).map not
  cases r.lookup a with
  | error x => rfl
  | ok i =>
    cases r.lookup b with
    | error x => rfl
    | ok j =>
      change (r.instancesEqual i j).bind _ = (r.instancesEqual i j).map not
      cases r.instancesEqual i j <;> rfl

lemma lookup_of_live_id (h : r.live? a ≠ none) : ∃ i, r.lookup a = .ok i := by
  obtain ⟨e, he⟩ := Option.ne_none_iff_exists'.mp h
  exact ⟨_, lookup_of_live _ _ he⟩

lemma Compares.unifies (h : r.Compares fun i => ∃ id, r.lookup id = .ok i) :
    ∃ same : UInt64 → UInt64 → Bool,
      (∀ a b, r.live? a ≠ none → r.live? b ≠ none → r.unify a b = .ok (same a b)) ∧
        Equivalence fun a b : {id // r.live? id ≠ none} => same a b = true := by
  let same (a b : UInt64) : Bool := (r.unify a b).toOption.getD false
  have hs {a b : UInt64} {i j : Instance Obj} (hi : r.lookup a = .ok i) (hj : r.lookup b = .ok j) :
      r.unify a b = .ok (same a b) ∧ (same a b = true ↔ r.instancesEqual i j = .ok true) := by
    obtain ⟨x, hx⟩ := h.answers ⟨a, hi⟩ ⟨b, hj⟩
    have hu := (unify_of_lookups hi hj).trans hx
    have hsame : same a b = x := by simp only [same, hu, Except.toOption, Option.getD_some]
    rw [hu, hx, hsame]
    exact ⟨rfl, congrArg _, Except.ok.inj⟩
  refine ⟨same, fun a b ha hb => ?_, fun a => ?_, fun {a b} hab => ?_, fun {a b c} hab hbc => ?_⟩
  · obtain ⟨i, hi⟩ := lookup_of_live_id ha
    obtain ⟨j, hj⟩ := lookup_of_live_id hb
    exact (hs hi hj).1
  · obtain ⟨i, hi⟩ := lookup_of_live_id a.2
    exact (hs hi hi).2.mpr (instancesEqual_of_same (decide_eq_true rfl))
  · obtain ⟨i, hi⟩ := lookup_of_live_id a.2
    obtain ⟨j, hj⟩ := lookup_of_live_id b.2
    exact (hs hj hi).2.mpr (h.equal_symm ⟨a, hi⟩ ⟨b, hj⟩ ((hs hi hj).2.mp hab))
  · obtain ⟨i, hi⟩ := lookup_of_live_id a.2
    obtain ⟨j, hj⟩ := lookup_of_live_id b.2
    obtain ⟨k, hk⟩ := lookup_of_live_id c.2
    exact (hs hi hk).2.mpr (h.equal_trans ⟨a, hi⟩ ⟨b, hj⟩ ⟨c, hk⟩ ((hs hi hj).2.mp hab)
      ((hs hj hk).2.mp hbc))

end Asking

/-- The class was built, and what it compares the live objects of its type by is an equivalence. -/
def Trusts (r : Registry Obj) (c : Class Obj) : Prop :=
  ∃ b : Blueprint Obj, b.build = c ∧ ∀ f, .equality f ∈ b.parts →
    Equating (Among (fun i => ∃ id, r.lookup id = .ok i) c.receiver) f

end Registry

section Answers

variable [IdSource S]

def Work.Gives (w : Work S Obj) (question : UInt64 → Event) (x : Except Error Bool) : Prop :=
  ∀ callId, Dispatching.dispatch (question callId) w = (x.map (Dispatching.boolean callId), w)

lemma Work.gives_unify (w : Work S Obj) (a b : UInt64) :
    w.Gives (.externalUnify · a b) (w.registry.unify a b) :=
  fun callId => Dispatching.dispatch_unify callId a b w

lemma Work.gives_op (w : Work S Obj) (o : Operator) (args : List Term) :
    w.Gives (.externalOp · o args) (w.registry.compareTerms o args) :=
  fun callId => Dispatching.dispatch_op callId o args w

end Answers

namespace Registering

variable {T : Type} [IdSource S] [IdSource T]

lemma Refers.compares {brought : Nat → Obj × HostType} {source : S} {cs : List (Registering Obj)}
    (h : Refers brought source cs)
    (hc : ∀ c, .registerClass c ∈ cs → (reached source cs).registry.Trusts c) :
    (reached source cs).registry.Compares
      fun i => ∃ id, (reached source cs).registry.lookup id = .ok i := by
  refine ⟨reached_coherent source cs, ?_, fun n c hn => ?_⟩
  · rintro i j ⟨a, hi⟩ ⟨b, hj⟩ hij
    exact h.agree hi hj hij
  · obtain ⟨b, rfl, hb⟩ := hc c (registered_of_class? hn)
    exact b.build_comparesBy.mono hb

/-- Whatever was done to the registry, unifying two ids and the operators on terms for them tell the
same of equality, or fail the same. And if references of one identity were only ever handed in for
one object, and no class compares the live objects of its type but by an equivalence that does not
fail, then unifying live ids is answered, and is an equivalence: among objects of all types, with a
class or without, with an equality or without, and however often an object is held. -/
theorem equality_is_one_relation (source : S) (cs : List (Registering Obj)) (w : Work T Obj)
    (hw : w.registry = (reached source cs).registry) :
    (∀ a b, ∃ x, w.Gives (.externalUnify · a b) x ∧
      ∀ left right : Term, left.Names a → right.Names b →
        w.Gives (.externalOp · .eq [left, right]) x ∧
          w.Gives (.externalOp · .neq [left, right]) (x.map not)) ∧
    ∀ brought, Refers brought source cs →
      (∀ c, .registerClass c ∈ cs → w.registry.Trusts c) →
      ∃ same : UInt64 → UInt64 → Bool,
        (∀ a b, w.registry.live? a ≠ none → w.registry.live? b ≠ none →
          w.Says (.externalUnify · a b) (same a b)) ∧
        Equivalence fun a b : {id // w.registry.live? id ≠ none} => same a b = true := by
  refine ⟨fun a b => ?_, fun brought hb hc => ?_⟩
  · refine ⟨_, w.gives_unify a b, fun left right hl hr => ⟨?_, ?_⟩⟩
    · rw [← Registry.compareTerms_eq hl hr]
      exact w.gives_op .eq _
    · rw [← Registry.compareTerms_neq hl hr]
      exact w.gives_op .neq _
  · rw [hw] at hc
    have hu := (hb.compares hc).unifies
    rw [← hw] at hu
    obtain ⟨same, hs, he⟩ := hu
    refine ⟨same, fun a b ha hb callId => ?_, he⟩
    rw [Dispatching.dispatch_unify, hs a b ha hb]
    rfl

section Samples

def account : Blueprint Bool :=
  ⟨"Account", some ⟨"Account"⟩,
    [.constructor fun _ => .value true, .equality fun x y => .value (x == y)]⟩

def possessions : Nat → Bool × HostType
  | 0 => (true, ⟨"Account"⟩)
  | _ => (true, ⟨"Robot"⟩)

def possession (n : Nat) : Instance Bool :=
  ⟨(possessions n).1, (possessions n).2, .brought n, none⟩

def built : Instance Bool := ⟨true, ⟨"Account"⟩, .built 0, none⟩

def household : List (Registering Bool) :=
  [.registerClass account.build, .register (possession 0) .host, .register (possession 1) .host,
    .makeExternal 9 (.call "Account" [] none), .lookup 9, .register built .query]

lemma household_refers : Refers possessions (⟨1⟩ : Counter) household := by
  have hp (n : Nat) (cs : List (Registering Bool)) :
      Known possessions (⟨1⟩ : Counter) cs (possession n) := .own n none
  have hg : GaveOut (⟨1⟩ : Counter) (household.take 5) built := ⟨household.take 4, 9, [], rfl, rfl⟩
  have h : Refers possessions (⟨1⟩ : Counter) [.registerClass account.build] := .concat .nil nofun
  have h : Refers possessions (⟨1⟩ : Counter) (household.take 3) := by
    refine .concat (.concat h ?_) ?_ <;> rintro i ⟨⟩
    · exact hp 0 _
    · exact hp 1 _
  have h : Refers possessions (⟨1⟩ : Counter) (household.take 5) := by
    refine .concat (.concat h ?_) ?_ <;> rintro i ⟨⟩
  refine .concat h ?_
  rintro i ⟨⟩
  exact .given none hg

lemma account_trusted (r : Registry Bool) : r.Trusts account.build := by
  refine ⟨account, rfl, fun f hf => ?_⟩
  have hf : f = fun x y => .value (x == y) := by simpa [account] using hf
  have hv {x y : Bool} : f x y = .value true ↔ x = y := by simp [hf]
  refine ⟨fun x y _ _ => ⟨x == y, by rw [hf]⟩, fun x _ => hv.mpr rfl,
    fun x y _ _ h => hv.mpr (hv.mp h).symm, fun x y z _ _ _ h h' => hv.mpr ?_⟩
  exact (hv.mp h).trans (hv.mp h')

theorem equality_is_one_relation_household :
    let w := reached (⟨1⟩ : Counter) household
    Refers possessions (⟨1⟩ : Counter) household ∧
      (∀ c, .registerClass c ∈ household → w.registry.Trusts c) ∧
      w.Says (.externalUnify · 1 9) true ∧ w.Says (.externalUnify · 9 2) false ∧
      ∃ same : UInt64 → UInt64 → Bool,
        (∀ a b, w.registry.live? a ≠ none → w.registry.live? b ≠ none →
          w.Says (.externalUnify · a b) (same a b)) ∧
        Equivalence fun a b : {id // w.registry.live? id ≠ none} => same a b = true := by
  intro w
  have hc : ∀ c, .registerClass c ∈ household → w.registry.Trusts c := by
    intro c hc
    have hc : c = account.build := by simpa [household] using hc
    rw [hc]
    exact account_trusted w.registry
  refine ⟨household_refers, hc, fun _ => rfl, fun _ => rfl, ?_⟩
  exact (equality_is_one_relation (⟨1⟩ : Counter) household w rfl).2 possessions household_refers hc

end Samples

end Registering

end PolicyBridge
