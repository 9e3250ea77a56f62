import Mathlib.Tactic
import PolicyBridge.Registry

namespace PolicyBridge

variable {Obj : Type}

namespace Registry

structure Coherent (r : Registry Obj) : Prop where
  named : ∀ n c, r.class? n = some c → c.name = n
  typed : ∀ (t : HostType) n, r.byType.find? t.name = some n →
    ∃ c, r.class? n = some c ∧ c.objectType = some t

structure SameClasses (r r' : Registry Obj) : Prop where
  byName : r'.byName = r.byName
  byType : r'.byType = r.byType

variable {r r' : Registry Obj} {c : Class Obj} {i : Instance Obj}

lemma SameClasses.class? (h : SameClasses r r') (n : String) : r'.class? n = r.class? n := by
  rw [Registry.class?, Registry.class?, h.byName]

lemma class?_registerClass (r : Registry Obj) (c : Class Obj) (n : String) :
    (r.registerClass c).class? n = if n = c.name then some c else r.class? n :=
  Dict.find?_insert _ _ _ _

lemma find?_unbind {byType : Dict String String} {old : Class Obj} (t : HostType) :
    (unbind byType old).find? t.name =
      if old.objectType = some t ∧ byType.find? t.name = some old.name then none
      else byType.find? t.name := by
  rw [unbind]
  cases ho : old.objectType with
  | none => simp
  | some s =>
    by_cases hs : s = t
    · subst hs
      by_cases hb : byType.find? s.name = some old.name <;> simp [hb, Dict.find?_erase]
    · have hn : t.name ≠ s.name := fun h => hs (by cases s; cases t; simpa using h.symm)
      rw [if_neg (by simp [hs])]
      dsimp only
      split
      · rw [Dict.find?_erase, if_neg hn]
      · rfl

lemma find?_bind {byType : Dict String String} (t : HostType) :
    (bind byType c).find? t.name =
      if c.objectType = some t then some c.name else byType.find? t.name := by
  rw [bind]
  cases hc : c.objectType with
  | none => simp
  | some s =>
    rw [Dict.find?_insert]
    by_cases hs : t = s
    · rw [hs]
      simp
    · have hn : t.name ≠ s.name := fun h => hs (by cases s; cases t; simpa using h)
      rw [if_neg hn, if_neg fun h => hs (Option.some.inj h).symm]

namespace Coherent

lemma empty : Coherent (empty : Registry Obj) := ⟨nofun, nofun⟩

lemma of_same (h : Coherent r) (hs : SameClasses r r') : Coherent r' := by
  refine ⟨fun n c => ?_, fun t n => ?_⟩
  · rw [hs.class?]
    exact h.named n c
  · rw [hs.byType, hs.class?]
    exact h.typed t n

lemma find?_registerClass (h : Coherent r) (c : Class Obj) (t : HostType) :
    (r.registerClass c).byType.find? t.name =
      if c.objectType = some t then some c.name
      else if r.byType.find? t.name = some c.name then none else r.byType.find? t.name := by
  change (Registry.bind _ c).find? t.name = _
  rw [find?_bind]
  split
  · rfl
  cases ho : r.class? c.name with
  | none =>
    rw [if_neg]
    intro ht
    obtain ⟨d, hd, -⟩ := h.typed t _ ht
    rw [ho] at hd
    cases hd
  | some old =>
    dsimp only
    rw [find?_unbind, h.named _ _ ho]
    by_cases ht : r.byType.find? t.name = some c.name
    · obtain ⟨d, hd, hdt⟩ := h.typed t _ ht
      obtain rfl := Option.some.inj (ho.symm.trans hd)
      rw [if_pos ⟨hdt, ht⟩, if_pos ht]
    · rw [if_neg fun hh => ht hh.2, if_neg ht]

lemma registerClass (h : Coherent r) (c : Class Obj) : Coherent (r.registerClass c) := by
  refine ⟨fun n d hd => ?_, fun t n hn => ?_⟩
  · rw [class?_registerClass] at hd
    split at hd
    · cases hd
      exact Eq.symm ‹n = c.name›
    · exact h.named n d hd
  · rw [h.find?_registerClass] at hn
    split at hn
    · cases hn
      exact ⟨c, by rw [class?_registerClass, if_pos rfl], ‹_›⟩
    split at hn
    · cases hn
    · rename_i hne
      obtain ⟨d, hd, hdt⟩ := h.typed t n hn
      have hnc : n ≠ c.name := by
        rintro rfl
        exact hne hn
      exact ⟨d, by rw [class?_registerClass, if_neg hnc, hd], hdt⟩

lemma sound (h : Coherent r) (hc : r.classFor? i = some c) :
    r.class? c.name = some c ∧ c.objectType = some i.hostType := by
  obtain ⟨n, hn, hc⟩ := Option.bind_eq_some_iff.mp hc
  obtain ⟨d, hd, ht⟩ := h.typed _ _ hn
  obtain rfl := Option.some.inj (hc.symm.trans hd)
  exact ⟨by rw [h.named n c hc, hc], ht⟩

lemma receiver (h : Coherent r) (hc : r.classFor? i = some c) : c.receiver = i.hostType := by
  have ho := (h.sound hc).2
  rw [Class.objectType] at ho
  split at ho
  · cases ho
  · exact Option.some.inj ho

lemma classFor?_registerClass (h : Coherent r) (c : Class Obj) (i : Instance Obj) :
    (r.registerClass c).classFor? i =
      if c.objectType = some i.hostType then some c
      else if (r.classFor? i).map Class.name = some c.name then none else r.classFor? i := by
  rw [classFor?, h.find?_registerClass, classFor?]
  split
  · exact (class?_registerClass r c c.name).trans (if_pos rfl)
  cases ht : r.byType.find? i.hostType.name with
  | none => rfl
  | some n =>
    obtain ⟨d, hd, -⟩ := h.typed _ _ ht
    change _ = if (r.class? n).map Class.name = some c.name then none else r.class? n
    rw [hd, Option.map_some, h.named n d hd]
    by_cases hn : n = c.name
    · rw [if_pos (congrArg some hn), if_pos (congrArg some hn)]
      rfl
    · rw [if_neg fun hs => hn (Option.some.inj hs), if_neg fun hs => hn (Option.some.inj hs)]
      exact ((class?_registerClass r c n).trans (if_neg hn)).trans hd

end Coherent

def registerAll (cs : List (Class Obj)) : Registry Obj := cs.foldl registerClass empty

lemma registerAll_concat (cs : List (Class Obj)) (c : Class Obj) :
    registerAll (cs ++ [c]) = (registerAll cs).registerClass c :=
  List.foldl_concat _ _ _ _

lemma registerAll_coherent (cs : List (Class Obj)) : Coherent (registerAll cs) := by
  induction cs using List.reverseRecOn with
  | nil => exact .empty
  | append_singleton cs c ih =>
    rw [registerAll_concat]
    exact ih.registerClass c

/-- The last class registered for a type, with those registered after it. -/
def lastFor (t : HostType) : List (Class Obj) → Option (Class Obj × List (Class Obj))
  | [] => none
  | c :: later => (lastFor t later).or (if c.objectType = some t then some (c, later) else none)

lemma lastFor_concat (t : HostType) (cs : List (Class Obj)) (c : Class Obj) :
    lastFor t (cs ++ [c]) =
      if c.objectType = some t then some (c, [])
      else (lastFor t cs).map fun l => (l.1, l.2 ++ [c]) := by
  induction cs with
  | nil => rfl
  | cons d cs ih =>
    rw [List.cons_append, lastFor, ih, lastFor]
    split
    · rfl
    · cases lastFor t cs with
      | some l => rfl
      | none => split <;> rfl

/-- The class for the type of an object is the last one registered for it, until a class is
registered under the same name; then there is none, whatever others were registered for the type. -/
theorem classFor?_registerAll (cs : List (Class Obj)) (i : Instance Obj) :
    (registerAll cs).classFor? i =
      match lastFor i.hostType cs with
      | none => none
      | some (c, later) => if c.name ∈ later.map Class.name then none else some c := by
  induction cs using List.reverseRecOn with
  | nil => rfl
  | append_singleton cs c ih =>
    rw [registerAll_concat, (registerAll_coherent cs).classFor?_registerClass, ih, lastFor_concat]
    split
    · rfl
    cases lastFor i.hostType cs with
    | none => rfl
    | some l =>
      obtain ⟨d, later⟩ := l
      dsimp only [Option.map_some]
      by_cases hd : d.name ∈ later.map Class.name
      · simp [hd]
      · simp [hd]

section Samples

def person : Class Unit := .forType "Person" ⟨"Alpha"⟩

def member : Class Unit := .forType "Member" ⟨"Alpha"⟩

def otherMember : Class Unit := .forType "Member" ⟨"Beta"⟩

def alpha : Instance Unit := ⟨(), ⟨"Alpha"⟩, .brought 0, none⟩

/-- A class that stands registered for the type of an object is not found for it. -/
theorem reregistration_orphans :
    ¬ ∀ (cs : List (Class Unit)) (i : Instance Unit) (c : Class Unit),
      (registerAll cs).class? c.name = some c → c.objectType = some i.hostType →
      (registerAll cs).classFor? i ≠ none :=
  fun h => h [person, member, otherMember] alpha person rfl rfl rfl

end Samples

end Registry

end PolicyBridge
