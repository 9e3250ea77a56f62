import Mathlib.Tactic
import PolicyBridge.Proofs.Failing
import PolicyBridge.Proofs.Recording
import PolicyBridge.Proofs.Registry.Entries

/-! What marshaling does to the desk it works at: it draws ids, and each id drawn is listed and
registered for the query, also when a value fails part way. -/

namespace PolicyBridge

variable {S Obj α : Type}

/-- A registry that is left as it is, but for ids under which objects of a query are registered. -/
structure Registry.Gains (ids : List UInt64) (r r' : Registry Obj) : Prop where
  kept : ∀ id, id ∉ ids → r'.live? id = r.live? id
  gained : ∀ id ∈ ids, ∃ i, r'.live? id = some ⟨i, .query⟩
  byName : r'.byName = r.byName
  byType : r'.byType = r.byType

namespace Registry.Gains

variable {r r' r'' : Registry Obj} {ids ids' : List UInt64}

lemma refl (r : Registry Obj) : Gains [] r r :=
  ⟨fun _ _ => rfl, fun _ h => absurd h List.not_mem_nil, rfl, rfl⟩

lemma trans (h : Gains ids r r') (h' : Gains ids' r' r'') : Gains (ids ++ ids') r r'' := by
  refine ⟨?_, ?_, h'.byName.trans h.byName, h'.byType.trans h.byType⟩
  · intro id hid
    rw [List.mem_append, not_or] at hid
    rw [h'.kept id hid.2, h.kept id hid.1]
  · intro id hid
    by_cases hid' : id ∈ ids'
    · exact h'.gained id hid'
    · rw [h'.kept id hid']
      exact h.gained id ((List.mem_append.mp hid).resolve_right hid')

lemma register (r : Registry Obj) (id : UInt64) (i : Instance Obj) :
    Gains [id] r (r.register id i .query) := by
  refine ⟨?_, ?_, rfl, rfl⟩
  · intro x hx
    rw [List.mem_singleton] at hx
    rw [live?_register, if_neg hx]
  · intro x hx
    rw [List.mem_singleton] at hx
    exact ⟨i, by rw [live?_register, if_pos hx]⟩

end Registry.Gains

structure Desk.Draws (ids : List UInt64) (d d' : Desk (Recorded S) Obj) : Prop where
  record : d'.source.record = d.source.record ++ ids.map .drew
  allocated : d'.allocated = d.allocated ++ ids
  registry : d.registry.Gains ids d'.registry

def Desk.Marshals (d d' : Desk (Recorded S) Obj) : Prop := ∃ ids, d.Draws ids d'

namespace Desk.Marshals

variable {d d' d'' : Desk (Recorded S) Obj}

lemma refl (d : Desk (Recorded S) Obj) : d.Marshals d :=
  ⟨[], by simp, by simp, .refl _⟩

lemma trans (h : d.Marshals d') (h' : d'.Marshals d'') : d.Marshals d'' := by
  obtain ⟨ids, h⟩ := h
  obtain ⟨ids', h'⟩ := h'
  refine ⟨ids ++ ids', ?_, ?_, h.registry.trans h'.registry⟩
  · rw [h'.record, h.record, List.map_append, List.append_assoc]
  · rw [h'.allocated, h.allocated, List.append_assoc]

end Desk.Marshals

namespace Marshal

open Failing Desk

variable [IdSource S]

lemma enlist_marshals (i : Instance Obj) :
    Moves Marshals (enlist i : Marshaling (Recorded S) Obj UInt64) := by
  intro d
  exact ⟨[(IdSource.next d.source.inner).1], rfl, rfl, .register _ _ _⟩

lemma idOf_marshals (i : Instance Obj) :
    Moves Marshals (idOf i : Marshaling (Recorded S) Obj UInt64) := by
  unfold idOf
  cases i.id with
  | none => exact enlist_marshals i
  | some id =>
    refine Moves.bind Marshals.trans (fun d => .refl d) fun d => ?_
    split
    · exact Moves.pure .refl _
    · exact Moves.throw .refl _

lemma objectTerm_marshals (i : Instance Obj) :
    Moves Marshals (objectTerm i : Marshaling (Recorded S) Obj Term) :=
  Moves.bind Marshals.trans (idOf_marshals i) fun _ =>
    Moves.bind Marshals.trans (fun d => .refl d) fun _ => Moves.pure .refl _

mutual

lemma toTerm_marshals : (v : HostValue Obj) →
    Moves Marshals (toTerm v : Marshaling (Recorded S) Obj Term)
  | .integer _ | .string _ | .boolean _ | .var _ => by
    unfold toTerm
    exact Moves.pure .refl _
  | .float x => by
    unfold toTerm
    split
    · exact Moves.pure .refl _
    · exact Moves.throw .refl _
  | .list items => by
    unfold toTerm
    exact Moves.bind Marshals.trans (toTerms_marshals items) fun _ => Moves.pure .refl _
  | .map fields => by
    unfold toTerm
    exact Moves.bind Marshals.trans (toFields_marshals fields) fun _ => Moves.pure .refl _
  | .object i => by
    unfold toTerm
    exact objectTerm_marshals i

lemma toTerms_marshals : (vs : List (HostValue Obj)) →
    Moves Marshals (toTerms vs : Marshaling (Recorded S) Obj (List Term))
  | [] => by
    unfold toTerms
    exact Moves.pure .refl _
  | v :: vs => by
    unfold toTerms
    exact Moves.bind Marshals.trans (toTerm_marshals v) fun _ =>
      Moves.bind Marshals.trans (toTerms_marshals vs) fun _ => Moves.pure .refl _

lemma toFields_marshals : (fs : List (String × HostValue Obj)) →
    Moves Marshals (toFields fs : Marshaling (Recorded S) Obj (List (String × Term)))
  | [] => by
    unfold toFields
    exact Moves.pure .refl _
  | (k, v) :: fs => by
    unfold toFields
    exact Moves.bind Marshals.trans (toTerm_marshals v) fun _ =>
      Moves.bind Marshals.trans (toFields_marshals fs) fun _ => Moves.pure .refl _

end

end Marshal

end PolicyBridge
