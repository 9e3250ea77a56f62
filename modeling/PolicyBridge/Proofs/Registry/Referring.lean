import Mathlib.Tactic
import PolicyBridge.Proofs.Registry.Classes
import PolicyBridge.Proofs.Registry.Pinning

namespace PolicyBridge

variable {S Obj : Type}

structure Objects (Obj : Type) where
  brought : Nat → Obj × HostType
  built : List (Obj × HostType)

namespace Objects

def find? (os : Objects Obj) : Identity → Option (Obj × HostType)
  | .brought n => some (os.brought n)
  | .built n => os.built[n]?

def add (os : Objects Obj) (o : Obj) (t : HostType) : Objects Obj :=
  { os with built := os.built ++ [(o, t)] }

def Has (os : Objects Obj) (i : Instance Obj) : Prop :=
  os.find? i.identity = some (i.object, i.hostType)

variable {os : Objects Obj} {i j : Instance Obj}

lemma Has.agree (hi : os.Has i) (hj : os.Has j) (h : i.identity = j.identity) :
    i.object = j.object ∧ i.hostType = j.hostType := by
  rw [Has, h] at hi
  exact Prod.mk.inj (Option.some.inj (hi.symm.trans hj))

lemma Has.add (h : os.Has i) (o : Obj) (t : HostType) : (os.add o t).Has i := by
  obtain ⟨x, s, _ | n, id⟩ := i
  · exact h
  · have hn : n < os.built.length := (List.getElem?_eq_some_iff.mp h).1
    exact (List.getElem?_append_left hn).trans h

lemma has_newest (os : Objects Obj) (o : Obj) (t : HostType) (id : Option UInt64) :
    (os.add o t).Has ⟨o, t, .built os.built.length, id⟩ :=
  List.getElem?_concat_length

lemma Has.reference {e : Entry Obj} (h : os.Has e.object) (id : UInt64) :
    os.Has (e.reference id) := by
  unfold Entry.reference
  cases e.owner <;> exact h

end Objects

namespace Registering

variable [IdSource S]

/-- The reference is to one of the host's own objects, or to an object that a lookup gave out. -/
inductive Known (brought : Nat → Obj × HostType) (source : S) (cs : List (Registering Obj)) :
    Instance Obj → Prop
  | own (n : Nat) (id : Option UInt64) :
      Known brought source cs ⟨(brought n).1, (brought n).2, .brought n, id⟩
  | given {i : Instance Obj} (id : Option UInt64) :
      GaveOut source cs i → Known brought source cs { i with id }

inductive Refers (brought : Nat → Obj × HostType) (source : S) : List (Registering Obj) → Prop
  | nil : Refers brought source []
  | concat {cs : List (Registering Obj)} {c : Registering Obj} : Refers brought source cs →
      (∀ i, c.given? = some i → Known brought source cs i) → Refers brought source (cs ++ [c])

structure Knows (os : Objects Obj) (source : S) (cs : List (Registering Obj)) : Prop where
  built : (reached source cs).registry.built = os.built.length
  held : ∀ id e, (reached source cs).registry.live? id = some e → os.Has e.object
  given : ∀ i, GaveOut source cs i → os.Has i

variable {brought : Nat → Obj × HostType} {os : Objects Obj} {source : S}
  {cs : List (Registering Obj)} {c : Registering Obj} {i j : Instance Obj}

lemma reached_becomes (source : S) (cs : List (Registering Obj)) (c : Registering Obj) :
    (reached source cs).Becomes c (reached source (cs ++ [c])).registry := by
  rw [reached_concat]
  exact (reached source cs).registering_becomes c

section References

lemma Knows.of_known (h : Knows os source cs) (hi : Known os.brought source cs i) : os.Has i := by
  cases hi with
  | own n id => exact rfl
  | @given i id hg => exact (h.given i hg : os.Has i)

lemma Knows.of_lookup (h : Knows os source cs) {id : UInt64}
    (hi : (reached source cs).registry.lookup id = .ok i) : os.Has i := by
  obtain ⟨e, hl, rfl⟩ := Registry.of_lookup _ _ hi
  exact (h.held id e hl).reference id

lemma Knows.of_gaveOut (h : Knows os source cs) (hi : GaveOut source (cs ++ [c]) i) : os.Has i := by
  rcases hi.of_concat with hg | ⟨id, -, hl⟩
  · exact h.given i hg
  · exact h.of_lookup hl

lemma Knows.concat (h : Knows os source cs)
    (hc : ∀ i, c.given? = some i → Known os.brought source cs i) :
    ∃ os' : Objects Obj, os'.brought = os.brought ∧ Knows os' source (cs ++ [c]) := by
  have hs := reached_becomes source cs c
  generalize hr : (reached source (cs ++ [c])).registry = r at hs
  cases hs with
  | @registers c i id o hg _ =>
    refine ⟨os, rfl, hr ▸ h.built, fun x e hx => ?_, fun i => h.of_gaveOut⟩
    rw [hr, Registry.live?_register] at hx
    split at hx
    · cases hx
      exact h.of_known (hc i hg)
    · exact h.held x e hx
  | builds id o t =>
    refine ⟨os.add o t, rfl, ?_, fun x e hx => ?_, fun i hi => (h.of_gaveOut hi).add o t⟩
    · rw [hr, Objects.add, List.length_append, ← h.built]
      rfl
    · rw [hr, Registry.live?_register] at hx
      split at hx
      · cases hx
        rw [h.built]
        exact os.has_newest o t none
      · exact (h.held x e hx).add o t
  | releases ids =>
    obtain ⟨entries, he⟩ := Marshal.releaseAll_eq (reached source cs).registry ids
    refine ⟨os, rfl, ?_, fun x e hx => ?_, fun i => h.of_gaveOut⟩
    · rw [hr, he]
      exact h.built
    · rw [hr, Marshal.live?_releaseAll] at hx
      split at hx
      · cases hx
      · exact h.held x e hx
  | registersClass d =>
    refine ⟨os, rfl, hr ▸ h.built, fun x e hx => ?_, fun i => h.of_gaveOut⟩
    rw [hr] at hx
    exact h.held x e hx

lemma Refers.knows (h : Refers brought source cs) :
    ∃ os : Objects Obj, os.brought = brought ∧ Knows os source cs := by
  induction h with
  | nil =>
    exact ⟨⟨brought, []⟩, rfl, rfl, nofun, fun i ⟨earlier, id, later, he, _⟩ => by simp at he⟩
  | concat _ hc ih =>
    obtain ⟨os, rfl, h⟩ := ih
    exact h.concat hc

lemma Refers.agree (h : Refers brought source cs) {a b : UInt64}
    (hi : (reached source cs).registry.lookup a = .ok i)
    (hj : (reached source cs).registry.lookup b = .ok j) (hij : i.identity = j.identity) :
    i.object = j.object ∧ i.hostType = j.hostType := by
  obtain ⟨os, -, hk⟩ := h.knows
  exact (hk.of_lookup hi).agree (hk.of_lookup hj) hij

end References

section Classes

lemma reached_classes (source : S) (cs : List (Registering Obj)) (c : Registering Obj) :
    (∃ d, c = .registerClass d ∧
      (reached source (cs ++ [c])).registry = (reached source cs).registry.registerClass d) ∨
        (reached source cs).registry.SameClasses (reached source (cs ++ [c])).registry := by
  have hs := reached_becomes source cs c
  generalize (reached source (cs ++ [c])).registry = r at hs ⊢
  cases hs with
  | registersClass d => exact .inl ⟨d, rfl, rfl⟩
  | releases ids =>
    obtain ⟨entries, he⟩ := Marshal.releaseAll_eq (reached source cs).registry ids
    rw [he]
    exact .inr ⟨rfl, rfl⟩
  | registers | builds => exact .inr ⟨rfl, rfl⟩

lemma reached_coherent (source : S) (cs : List (Registering Obj)) :
    (reached source cs).registry.Coherent := by
  induction cs using List.reverseRecOn with
  | nil => exact .empty
  | append_singleton cs c ih =>
    rcases reached_classes source cs c with ⟨d, -, hd⟩ | hs
    · rw [hd]
      exact ih.registerClass d
    · exact ih.of_same hs

lemma registered_of_class? {n : String} {d : Class Obj}
    (h : (reached source cs).registry.class? n = some d) : .registerClass d ∈ cs := by
  induction cs using List.reverseRecOn with
  | nil => cases h
  | append_singleton cs c ih =>
    rcases reached_classes source cs c with ⟨d', rfl, hd⟩ | hs
    · rw [hd, Registry.class?_registerClass] at h
      split at h
      · cases h
        exact List.mem_append_right _ (List.mem_singleton_self _)
      · exact List.mem_append_left _ (ih h)
    · rw [hs.class?] at h
      exact List.mem_append_left _ (ih h)

end Classes

end Registering

end PolicyBridge
