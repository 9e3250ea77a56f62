import Mathlib.Tactic
import PolicyBridge.Proofs.Registry.Classes

/-! Classes as they are built, call by call. Their hooks refuse receivers of other types, and what
they refuse them with makes no difference to receivers of their own. -/

namespace PolicyBridge

variable {Obj : Type}

inductive ClassPart (Obj : Type) where
  | constructor (f : Args Obj → Outcome Obj)
  | getter (name : String) (f : Obj → Outcome (HostValue Obj))
  | method (name : String) (f : Obj → Args Obj → Outcome (HostValue Obj))
  | instanceMethod (name : String) (f : Method Obj)
  | specializers (parents : List String)
  | iterator (f : Obj → Outcome (Steps Obj))
  | equality (f : Obj → Obj → Outcome Bool)
  | ordering (f : Obj → Obj → Outcome (Option Ordering))

/-- How a class is built; one that has no type is abstract. -/
structure Blueprint (Obj : Type) where
  name : String
  type : Option HostType
  parts : List (ClassPart Obj)

namespace Class

def SameOn {α : Type} (t : HostType) (f g : Instance Obj → α) : Prop :=
  ∀ i, i.hostType = t → g i = f i

structure Alike (c d : Class Obj) : Prop where
  name : d.name = c.name
  receiver : d.receiver = c.receiver
  isAbstract : d.isAbstract = c.isAbstract
  order : d.order = c.order
  construct : d.construct = c.construct
  attributes : ∀ m, Option.Rel (SameOn c.receiver) (c.attributes.find? m) (d.attributes.find? m)
  methods : ∀ m, Option.Rel (SameOn c.receiver) (c.methods.find? m) (d.methods.find? m)
  equality : Option.Rel (SameOn c.receiver) c.equality d.equality
  ordering : Option.Rel (SameOn c.receiver) c.ordering d.ordering
  iterator : Option.Rel (SameOn c.receiver) c.iterator d.iterator

lemma Alike.refl (c : Class Obj) : c.Alike c := by
  have hs {α : Type} (o : Option (Instance Obj → α)) : Option.Rel (SameOn c.receiver) o o := by
    cases o with
    | none => exact .none
    | some f => exact .some fun _ _ => rfl
  exact ⟨rfl, rfl, rfl, rfl, rfl, fun _ => hs _, fun _ => hs _, hs _, hs _, hs _⟩

def onlyReceiver (x : Error) (c : Class Obj) (i : Instance Obj) (f : Obj → Outcome α) : Outcome α :=
  if i.hostType = c.receiver then f i.object else .failed x

lemma onReceiver_same {c d : Class Obj} (h : d.receiver = c.receiver) (x : Error) (member : String)
    (f : Instance Obj → Obj → Outcome α) : SameOn c.receiver
      (fun i => c.onReceiver member i (f i)) (fun i => d.onlyReceiver x i (f i)) := by
  intro i hi
  dsimp only
  rw [onReceiver, onlyReceiver, h, if_pos hi, if_pos hi]

lemma find?_insert_rel {κ α β : Type} [LT κ] [DecidableLT κ] [DecidableEq κ] {R : α → β → Prop}
    {d : Dict κ α} {d' : Dict κ β} {a : α} {b : β} (hd : ∀ k, Option.Rel R (d.find? k) (d'.find? k))
    (hab : R a b) (k k' : κ) :
    Option.Rel R ((d.insert k a).find? k') ((d'.insert k b).find? k') := by
  rw [Dict.find?_insert, Dict.find?_insert]
  split
  · exact .some hab
  · exact hd k'

end Class

namespace ClassPart

open PolicyBridge.Class

def add : ClassPart Obj → Class Obj → Class Obj
  | .constructor f => withConstructor f
  | .getter name f => addAttribute name f
  | .method name f => addMethod name f
  | .instanceMethod name f => addInstanceMethod name f
  | .specializers parents => withSpecializers parents
  | .iterator f => withIterator f
  | .equality f => withEquality f
  | .ordering f => withOrdering f

def addRefusing (x : Error) (p : ClassPart Obj) (c : Class Obj) : Class Obj :=
  match p with
  | .getter name f =>
    { c with attributes := c.attributes.insert name fun i => c.onlyReceiver x i f }
  | .method name f =>
    { c with methods := c.methods.insert name fun i args => c.onlyReceiver x i fun o => f o args }
  | .iterator f => { c with iterator := some fun i => c.onlyReceiver x i f }
  | .equality f => { c with equality := some fun l r => c.onlyReceiver x l fun o =>
      if r.hostType = c.receiver then f o r.object else .value false }
  | .ordering f => { c with ordering := some fun l r => c.onlyReceiver x l fun o =>
      if r.hostType = c.receiver then f o r.object else .value none }
  | p => p.add c

lemma add_alike (p : ClassPart Obj) {c d : Class Obj} (h : c.Alike d) (x : Error) :
    (p.add c).Alike (p.addRefusing x d) := by
  have hr := h.receiver
  cases p with
  | constructor f => exact { h with construct := rfl }
  | getter name f =>
    have hs := onReceiver_same hr x name fun _ => f
    exact { h with attributes := find?_insert_rel h.attributes hs name }
  | method name f =>
    have hs (i : Instance Obj) (hi : i.hostType = c.receiver) :
        (fun args => d.onlyReceiver x i fun o => f o args) =
          fun args => c.onReceiver name i fun o => f o args :=
      funext fun args => onReceiver_same hr x name (fun _ o => f o args) i hi
    exact { h with methods := find?_insert_rel h.methods hs name }
  | instanceMethod name f =>
    have hs : SameOn c.receiver f f := fun _ _ => rfl
    exact { h with methods := find?_insert_rel h.methods hs name }
  | specializers parents =>
    have ho : parents.foldl addSpecializer [d.name] = parents.foldl addSpecializer [c.name] := by
      rw [h.name]
    exact { h with order := ho }
  | iterator f =>
    have hs := onReceiver_same hr x "__iter__" fun _ => f
    exact { h with iterator := .some hs }
  | equality f =>
    refine { h with equality := .some fun i hi => funext fun j => ?_ }
    rw [hr]
    exact onReceiver_same hr x "==" (fun _ o =>
      if j.hostType = c.receiver then f o j.object else .value false) i hi
  | ordering f =>
    refine { h with ordering := .some fun i hi => funext fun j => ?_ }
    rw [hr]
    exact onReceiver_same hr x "<" (fun _ o =>
      if j.hostType = c.receiver then f o j.object else .value none) i hi

end ClassPart

namespace Blueprint

variable (b : Blueprint Obj)

def start : Class Obj :=
  match b.type with
  | some t => .forType b.name t
  | none => .abstractOf b.name

def build : Class Obj := b.parts.foldl (fun c p => p.add c) b.start

def refusing (x : Error) : Class Obj := b.parts.foldl (fun c p => p.addRefusing x c) b.start

lemma foldl_alike {c d : Class Obj} (h : c.Alike d) (x : Error) (parts : List (ClassPart Obj)) :
    (parts.foldl (fun c p => p.add c) c).Alike (parts.foldl (fun c p => p.addRefusing x c) d) := by
  induction parts generalizing c d with
  | nil => exact h
  | cons p parts ih => exact ih (p.add_alike h x)

lemma build_alike (x : Error) : b.build.Alike (b.refusing x) :=
  foldl_alike (Class.Alike.refl b.start) x b.parts

def registered (bs : List (Blueprint Obj)) : Registry Obj := .registerAll (bs.map build)

def registeredRefusing (x : Error) (bs : List (Blueprint Obj)) : Registry Obj :=
  .registerAll (bs.map fun b => b.refusing x)

lemma registered_alike (bs : List (Blueprint Obj)) (x : Error) (n : String) :
    Option.Rel Class.Alike ((registered bs).class? n) ((registeredRefusing x bs).class? n) := by
  induction bs using List.reverseRecOn with
  | nil => exact (.none : Option.Rel Class.Alike none none)
  | append_singleton bs b ih =>
    have hb := b.build_alike x
    rw [registered, registeredRefusing, List.map_append, List.map_append, List.map_singleton,
      List.map_singleton, Registry.registerAll_concat, Registry.registerAll_concat,
      Registry.class?_registerClass, Registry.class?_registerClass, hb.name]
    split
    · exact .some hb
    · exact ih

end Blueprint

end PolicyBridge
