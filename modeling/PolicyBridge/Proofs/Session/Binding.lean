import Mathlib.Tactic
import PolicyBridge.Proofs.Marshal.Enlisting
import PolicyBridge.Proofs.Marshal.RoundTrip
import PolicyBridge.Proofs.Native.Sending
import PolicyBridge.Proofs.Query.Borrowing
import PolicyBridge.Proofs.Registry.Classes
import PolicyBridge.Proofs.Session.Constants
import PolicyBridge.Script.Library

namespace PolicyBridge

variable {E Q Obj : Type}

namespace Desk

open HostValue

variable [IdSource E] {d d' : Desk E Obj} {vs : List (HostValue Obj)} {n : Nat}

lemma Takes.frees (hn : n ≤ vs.countP isNew) (hf : d.Fresh vs) :
    d.registry.Frees (IdSource.upcoming n d.source) := by
  obtain ⟨k, hk⟩ := Nat.exists_eq_add_of_le hn
  rw [Fresh, fated, hk, IdSource.upcoming_add] at hf
  exact hf.left

lemma Takes.borrows (h : Takes n d d') (hn : n ≤ vs.countP isNew) (ha : d.allocated = [])
    (hf : d.Fresh vs) : d.registry.Borrows d'.allocated d'.registry := by
  rw [h.allocated, ha]
  exact (Registry.Borrows.refl _).gains h.gains (frees hn hf).2

end Desk

namespace Session

open HostValue

/-- The ids that the new objects among some values get are new to the session: they are given once,
and none is live or kept for a constant. -/
structure Fresh [IdSource E] (s : Session E Obj) (vs : List (HostValue Obj)) : Prop where
  desk : s.desk.Fresh vs
  unkept : ∀ id ∈ s.desk.fated vs, ∀ name, id ∉ s.keptFor name

structure Unmoved (s s' : Session E Obj) : Prop where
  live : ∀ id, s'.registry.live? id = s.registry.live? id
  constants : s'.constants = s.constants

structure Rebound (name : String) (ids : List UInt64) (objects : List (Instance Obj))
    (s s' : Session E Obj) : Prop where
  live : ids.map s'.registry.live? = objects.map fun i => some ⟨i, .query⟩
  kept : ∀ n, s'.keptFor n = if n = name then ids else s.keptFor n
  others : ∀ id, id ∉ ids →
    s'.registry.live? id = if id ∈ s.keptFor name then none else s.registry.live? id

lemma keptFor_binding (s : Session E Obj) (name : String) (ids : List UInt64) (n : String) :
    (s.binding name ids).keptFor n = if n = name then ids else s.keptFor n := by
  have hk : (s.binding name ids).keptFor n = ((s.constants.insert name ids).find? n).getD [] := rfl
  rw [hk, Dict.find?_insert]
  split <;> rfl

lemma live?_releasing (s : Session E Obj) (ids : List UInt64) (id : UInt64) :
    (s.releasing ids).registry.live? id = if id ∈ ids then none else s.registry.live? id :=
  Marshal.live?_releaseAll s.registry ids id

section Constants

variable [Engine E Q] {s : Session E Obj} {d : Desk E Obj} {v : HostValue Obj}

lemma unmoved_of_released {vs : List (HostValue Obj)} {n : Nat} (ht : Desk.Takes n s.desk d)
    (hn : n ≤ vs.countP isNew) (hf : s.desk.Fresh vs) (e : E) :
    s.Unmoved (((s.withDesk d).withSource e).releasing d.allocated) := by
  have hb := (ht.borrows hn rfl hf).repaid
  exact ⟨fun id => hb.kept id List.not_mem_nil, rfl⟩

lemma rebound_of_accepted (hf : s.Fresh v.leaves) {t : Term}
    (hd : Marshal.toTerm v s.desk = (.ok t, d)) (e : E) (name : String) :
    s.Rebound name (s.desk.fated v.leaves) (newObjects v.leaves)
      (((s.withDesk d).withSource e).binding name d.allocated) := by
  have hc := Marshal.toTerm_crosses v s.desk
  have he := Marshal.toTerm_enlists v s.desk t d hd
  rw [hd] at hc
  obtain ⟨ht, -⟩ := hc
  have ha : d.allocated = s.desk.fated v.leaves := ht.allocated
  have hl : (s.desk.fated v.leaves).map d.registry.live? =
      (newObjects v.leaves).map fun i => some ⟨i, .query⟩ := by
    have hlen := length_newObjects v.leaves
    have h := Marshal.live?_enlistAll s.desk (newObjects v.leaves)
      (by rw [hlen]; exact hf.desk)
    rw [hlen, ← he] at h
    exact h
  have hr (id : UInt64) : (((s.withDesk d).withSource e).binding name d.allocated).registry.live? id =
      if id ∈ s.keptFor name then none else d.registry.live? id := live?_releasing _ _ id
  refine ⟨?_, fun n => ?_, fun id hid => ?_⟩
  · rw [← hl]
    apply List.map_congr_left
    intro id hid
    -- the former value is let go of last, and none of the new ids was kept for it
    rw [hr, if_neg (hf.unkept id hid name)]
  · rw [keptFor_binding, ha]
    rfl
  · have hk : d.registry.live? id = s.registry.live? id := ht.gains.kept id hid
    rw [hr, hk]

/-- If the ids that its value gets are new to the session, a constant is bound with them, and only
what it was bound to before is let go of; or it is not bound and nothing has moved. -/
theorem constant_bound_or_unmoved (s : Session E Obj) (name : String) (v : HostValue Obj)
    (hf : s.Fresh v.leaves) :
    match registerConstant name v s with
    | (.ok _, s') => s.Rebound name (s.desk.fated v.leaves) (newObjects v.leaves) s'
    | (.error _, s') => s.Unmoved s' := by
  obtain ⟨n, hn, ht⟩ := Marshal.toTerm_takes v s.desk
  rcases hd : Marshal.toTerm v s.desk with ⟨x | t, d⟩ <;> rw [hd] at ht
  · rw [registerConstant_of_unmarshalable hd]
    exact unmoved_of_released ht hn hf.desk d.source
  rcases hc : (Engine.registerConstant name t : EngineCall E Unit) d.source with ⟨x | u, e⟩
  · rw [registerConstant_of_refused hd hc]
    exact unmoved_of_released ht hn hf.desk e
  · rw [registerConstant_of_accepted hd hc]
    exact rebound_of_accepted hf hd e name

end Constants

section ConstantSamples

def staffed : Session Tape Unit :=
  (registerConstant "staff" (.object Marshal.ada) (new ⟨⟨1⟩, []⟩ .standard)).2

def colleagues : HostValue Unit := .list [.object Marshal.bob, .map [("head", .object Marshal.ada)]]

lemma staffed_fresh : staffed.Fresh colleagues.leaves := by
  have hk (name : String) : staffed.keptFor name = if "staff" = name then [1] else [] := by
    have hc : staffed.constants = [("staff", [1])] := rfl
    rw [keptFor, hc, Dict.find?, Dict.find?]
    split <;> rfl
  have hd : staffed.desk.fated colleagues.leaves = [2, 3] := rfl
  refine ⟨Marshal.frees_of_all (by decide) (by decide), fun id hid name hn => ?_⟩
  rw [hk] at hn
  rw [hd] at hid
  split at hn
  · rw [List.mem_singleton.mp hn] at hid
    revert hid
    decide
  · cases hn

theorem constant_bound_or_unmoved_staff :
    staffed.Fresh colleagues.leaves ∧ staffed.Rebound "staff" [2, 3] [Marshal.bob, Marshal.ada]
      (registerConstant "staff" colleagues staffed).2 :=
  ⟨staffed_fresh, constant_bound_or_unmoved staffed "staff" colleagues staffed_fresh⟩

end ConstantSamples

section Classes

variable [Engine E Q] [ClassObject Obj]

def standIn (s : Session E Obj) : Instance Obj :=
  (s.registry.build ClassObject.object (ClassObject.hostType Obj)).1

structure Enrolls (c : Class Obj) (s s' : Session E Obj) : Prop where
  named : ∀ n, s'.registry.class? n = if n = c.name then some c else s.registry.class? n
  typed : ∀ i, s'.registry.classFor? i = (s.registry.registerClass c).classFor? i

lemma live?_enrolled (s : Session E Obj) (c : Class Obj) (id : UInt64) :
    (s.enrolled c).registry.live? id =
      if id = (IdSource.next s.shared.host.source).1 then some ⟨s.standIn, .host⟩
      else s.registry.live? id :=
  Registry.live?_register _ _ _ _ _

lemma enrolls_of_classes {s s' : Session E Obj} {c : Class Obj}
    (hn : s'.registry.byName = (s.enrolled c).registry.byName)
    (ht : s'.registry.byType = (s.enrolled c).registry.byType) : s.Enrolls c s' := by
  have hc (n : String) : s'.registry.class? n = (s.registry.registerClass c).class? n := by
    rw [Registry.class?, hn]
    rfl
  refine ⟨fun n => (hc n).trans (Registry.class?_registerClass s.registry c n), fun i => ?_⟩
  rw [Registry.classFor?, ht, funext hc]
  rfl

/-- Whatever the engine says to its name, a class is registered and the object that stands for it is
live. Refused, the name stays bound as it was; accepted, it is bound to that object. -/
theorem class_enrolled_regardless (s : Session E Obj) (c : Class Obj) :
    let id := (IdSource.next s.shared.host.source).1
    match registerClass c s with
    | (.ok _, s') => s.Enrolls c s' ∧
      (∀ n, s'.keptFor n = if n = c.name then [id] else s.keptFor n) ∧
      ∀ x, s'.registry.live? x = if x ∈ s.keptFor c.name then none
        else if x = id then some ⟨s.standIn, .host⟩ else s.registry.live? x
    | (.error _, s') => s.Enrolls c s' ∧ s'.constants = s.constants ∧
      ∀ x, s'.registry.live? x = if x = id then some ⟨s.standIn, .host⟩ else s.registry.live? x := by
  intro id
  have hl := live?_enrolled s c
  rw [registerClass_eq]
  rcases hc : (Engine.registerConstant c.name (classTerm id c.name) : EngineCall E Unit)
    (s.enrolled c).shared.host.source with ⟨x | u, e⟩
  · rw [bindConstant_of_refused hc]
    exact ⟨enrolls_of_classes rfl rfl, rfl, hl⟩
  · rw [bindConstant_of_accepted hc]
    obtain ⟨entries, he⟩ := Marshal.releaseAll_eq (s.enrolled c).registry (s.keptFor c.name)
    have hr : (((s.enrolled c).withSource e).binding c.name [id]).registry =
        { (s.enrolled c).registry with entries } := he
    refine ⟨enrolls_of_classes (by rw [hr]) (by rw [hr]), keptFor_binding _ _ _, fun x => ?_⟩
    have hx : (((s.enrolled c).withSource e).binding c.name [id]).registry.live? x =
        if x ∈ s.keptFor c.name then none else (s.enrolled c).registry.live? x :=
      live?_releasing _ _ x
    rw [hx, hl]

end Classes

end Session

namespace NativeEngine

variable {L : Type} [Library L]

lemma registerConstant_of_refused {name : String} (hn : '\x00' ∉ name.toList)
    {e : NativeEngine L}
    (h : ∀ v, (Library.registerConstant e.pointer ⟨name, hn⟩ v e.library).1 = false) (t : Term) :
    ∃ f e', (Engine.registerConstant name t : EngineCall (NativeEngine L) Unit) e =
      (.error f, e') := by
  rw [(constant_screens name t).eq_send hn]
  exact ⟨_, _, check_of_false (h _)⟩

end NativeEngine

namespace Session

section ClassSamples

def user : Class Unit := .forType "User" ⟨"Alpha"⟩

def strict : Script.Library :=
  { Script.Library.empty none with
    engines := [(0, ⟨[], [], [("User", some "cannot bind User")], none, 1⟩)] }

def forbidding : Session (NativeEngine Script.Library) Unit := new ⟨strict, 0⟩ .standard

/-- A class that could not be registered is found all the same, and one object more is live. -/
theorem refused_class_enrolled :
    (∃ x, (registerClass user forbidding).1 = .error x) ∧
      ¬ (∀ id, (registerClass user forbidding).2.registry.live? id = forbidding.registry.live? id) ∧
      ¬ (∀ n, (registerClass user forbidding).2.registry.class? n = forbidding.registry.class? n) ∧
      ¬ ∀ i, (registerClass user forbidding).2.registry.classFor? i =
        forbidding.registry.classFor? i := by
  let e := (forbidding.enrolled user).shared.host.source
  have hn : '\x00' ∉ "User".toList := by decide
  have hl (v : CText) : (Library.registerConstant e.pointer ⟨"User", hn⟩ v e.library).1 = false :=
    rfl
  obtain ⟨f, e', hc⟩ := NativeEngine.registerConstant_of_refused hn hl (classTerm 1 "User")
  have hb : bindConstant "User" (classTerm 1 "User") [1] (forbidding.enrolled user) = _ :=
    bindConstant_of_refused hc
  have hr := (registerClass_eq (s := forbidding) user).trans hb
  rw [hr]
  refine ⟨⟨_, rfl⟩, fun h => ?_, fun h => ?_, fun h => ?_⟩
  · cases h 1
  · cases h "User"
  · cases h Marshal.ada

end ClassSamples

end Session

end PolicyBridge
