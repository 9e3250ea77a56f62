import Mathlib.Tactic
import PolicyBridge.Proofs.Marshal.Standing

namespace PolicyBridge

variable {S Obj α β γ : Type}

namespace HostValue

def newObjects : List (HostValue Obj) → List (Instance Obj)
  | [] => []
  | .object i :: vs => if i.id.isNone then i :: newObjects vs else newObjects vs
  | _ :: vs => newObjects vs

lemma newObjects_cons (v : HostValue Obj) (vs : List (HostValue Obj)) :
    newObjects (v :: vs) = newObjects [v] ++ newObjects vs := by
  cases v with
  | object i => by_cases hi : i.id.isNone <;> simp [newObjects, hi]
  | _ => rfl

lemma newObjects_append (vs ws : List (HostValue Obj)) :
    newObjects (vs ++ ws) = newObjects vs ++ newObjects ws := by
  induction vs with
  | nil => rfl
  | cons v vs ih =>
    rw [List.cons_append, newObjects_cons, ih, newObjects_cons v vs, List.append_assoc]

lemma length_newObjects (vs : List (HostValue Obj)) : (newObjects vs).length = vs.countP isNew := by
  induction vs with
  | nil => rfl
  | cons v vs ih =>
    rw [newObjects_cons, List.length_append, ih, List.countP_cons]
    cases v with
    | object i => by_cases hi : i.id.isNone <;> simp [newObjects, isNew, hi, Nat.add_comm]
    | _ => simp [newObjects, isNew]

end HostValue

namespace Marshal

open Desk Failing HostValue

variable [IdSource S]

def enlistAll (d : Desk S Obj) (is : List (Instance Obj)) : Desk S Obj :=
  is.foldl (fun d i => (enlist i d).2) d

lemma enlistAll_append (d : Desk S Obj) (is js : List (Instance Obj)) :
    enlistAll d (is ++ js) = enlistAll (enlistAll d is) js :=
  List.foldl_append

def Enlists (vs : List (HostValue Obj)) (m : Marshaling S Obj α) : Prop :=
  ∀ d a d', m d = (.ok a, d') → d' = enlistAll d (newObjects vs)

variable {vs ws : List (HostValue Obj)} {m : Marshaling S Obj α} {n : Marshaling S Obj β}

lemma enlists_pure {a : α} (h : newObjects vs = []) :
    Enlists vs (pure a : Marshaling S Obj α) := by
  rintro d _ _ ⟨⟩
  rw [h]
  rfl

lemma enlists_map {g : α → β} (hm : Enlists vs m) :
    Enlists vs (do return g (← m) : Marshaling S Obj β) := by
  intro d b d' h
  obtain ⟨a, _, hd, ⟨⟩⟩ := of_bind_ok h
  exact hm d a d' hd

lemma enlists_both {g : α → β → γ} (hm : Enlists vs m) (hn : Enlists ws n) :
    Enlists (vs ++ ws) (do
      let a ← m
      return g a (← n) : Marshaling S Obj γ) := by
  intro d c d' h
  obtain ⟨a, d₁, hd, h⟩ := of_bind_ok h
  obtain ⟨b, _, hd', ⟨⟩⟩ := of_bind_ok h
  rw [newObjects_append, enlistAll_append, ← hm d a d₁ hd]
  exact hn d₁ b d' hd'

lemma idOf_enlists (i : Instance Obj) :
    Enlists [.object i] (idOf i : Marshaling S Obj UInt64) := by
  intro d id d' h
  cases hi : i.id with
  | none =>
    have he : idOf i d = enlist i d := by rw [idOf, hi]
    rw [he] at h
    have hn : newObjects [.object i] = [i] := by simp [newObjects, hi]
    rw [hn]
    exact (congrArg Prod.snd h).symm
  | some id' =>
    have he : idOf i d = (if d.registry.holds id' i = true then pure id' else
        throw (releasedInstance id') : Marshaling S Obj UInt64) d := by
      rw [idOf, hi]
      rfl
    have hn : newObjects [.object i] = [] := by simp [newObjects, hi]
    rw [he] at h
    rw [hn]
    split at h
    · cases h
      rfl
    · cases h

lemma objectTerm_enlists (i : Instance Obj) :
    Enlists [.object i] (objectTerm i : Marshaling S Obj Term) := by
  intro d t d' h
  obtain ⟨id, _, hd, ⟨⟩⟩ := of_bind_ok h
  exact idOf_enlists i d id d' hd

mutual

lemma toTerm_enlists : (v : HostValue Obj) →
    Enlists v.leaves (toTerm v : Marshaling S Obj Term)
  | .integer _ | .string _ | .boolean _ | .var _ => by
    unfold toTerm
    exact enlists_pure rfl
  | .float x => by
    unfold toTerm
    split
    · exact enlists_pure rfl
    · exact fun d t d' h => by cases h
  | .list items => by
    unfold toTerm
    exact enlists_map (toTerms_enlists items)
  | .map fields => by
    unfold toTerm
    exact enlists_map (toFields_enlists fields)
  | .object i => by
    unfold toTerm
    exact objectTerm_enlists i

lemma toTerms_enlists : (vs : List (HostValue Obj)) →
    Enlists (leavesOfItems vs) (toTerms vs : Marshaling S Obj (List Term))
  | [] => by
    unfold toTerms
    exact enlists_pure rfl
  | v :: vs => by
    unfold toTerms
    exact enlists_both (toTerm_enlists v) (toTerms_enlists vs)

lemma toFields_enlists : (fs : List (String × HostValue Obj)) →
    Enlists (leavesOfFields fs) (toFields fs : Marshaling S Obj (List (String × Term)))
  | [] => by
    unfold toFields
    exact enlists_pure rfl
  | (k, v) :: fs => by
    unfold toFields
    exact enlists_both (toTerm_enlists v) (toFields_enlists fs)

end

section Enlisted

variable (d : Desk S Obj) (is : List (Instance Obj))

lemma live?_enlistAll_of_not_mem {id : UInt64}
    (h : id ∉ IdSource.upcoming is.length d.source) :
    (enlistAll d is).registry.live? id = d.registry.live? id := by
  induction is generalizing d with
  | nil => rfl
  | cons i is ih =>
    obtain ⟨hne, h⟩ := not_or.mp (List.mem_cons.not.mp h)
    have hr : (enlistAll d (i :: is)).registry = (enlistAll (enlist i d).2 is).registry := rfl
    rw [hr, ih _ h]
    exact (Registry.live?_register _ _ _ _ _).trans (if_neg hne)

lemma live?_enlistAll (hf : d.registry.Frees (IdSource.upcoming is.length d.source)) :
    (IdSource.upcoming is.length d.source).map (enlistAll d is).registry.live? =
      is.map fun i => some ⟨i, .query⟩ := by
  induction is generalizing d with
  | nil => rfl
  | cons i is ih =>
    let d₁ := (enlist i d).2
    have hu : IdSource.upcoming (i :: is).length d.source =
        (IdSource.next d.source).1 :: IdSource.upcoming is.length d₁.source := rfl
    rw [hu] at hf ⊢
    obtain ⟨hnot, hnodup⟩ := List.nodup_cons.mp hf.1
    have hf₁ : d₁.registry.Frees (IdSource.upcoming is.length d₁.source) := by
      refine ⟨hnodup, fun id hid => ?_⟩
      have hne : id ≠ (IdSource.next d.source).1 := fun h => hnot (h ▸ hid)
      rw [← hf.2 id (List.mem_cons_of_mem _ hid)]
      exact (Registry.live?_register _ _ _ _ _).trans (if_neg hne)
    have hd : (enlistAll d₁ is).registry.live? (IdSource.next d.source).1 = some ⟨i, .query⟩ := by
      rw [live?_enlistAll_of_not_mem d₁ is hnot]
      exact (Registry.live?_register _ _ _ _ _).trans (if_pos rfl)
    rw [List.map_cons, List.map_cons, ← ih d₁ hf₁, ← hd]
    rfl

end Enlisted

end Marshal

end PolicyBridge
