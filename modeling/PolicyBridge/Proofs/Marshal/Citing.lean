import Mathlib.Tactic
import PolicyBridge.Proofs.Marshal.Crossing

namespace PolicyBridge

variable {S Obj α β γ : Type}

namespace Marshal

open Failing HostValue Term

def Carried (vs : List (HostValue Obj)) (id : UInt64) : Prop :=
  ∃ i, .object i ∈ vs ∧ i.id = some id

def Cites (vs : List (HostValue Obj)) (ids : α → List UInt64) (m : Marshaling S Obj α) : Prop :=
  ∀ d a d', m d = (.ok a, d') →
    d.allocated ⊆ d'.allocated ∧ ∀ id ∈ ids a, id ∈ d'.allocated ∨ Carried vs id

variable {vs ws : List (HostValue Obj)} {ids : α → List UInt64} {ids' : β → List UInt64}
  {ids'' : γ → List UInt64} {m : Marshaling S Obj α} {n : Marshaling S Obj β}

lemma cites_pure {a : α} (h : ids a = []) : Cites vs ids (pure a : Marshaling S Obj α) := by
  rintro d _ _ ⟨⟩
  refine ⟨List.Subset.refl _, fun id hid => ?_⟩
  rw [h] at hid
  cases hid

lemma cites_map {g : α → β} (hm : Cites vs ids m) (hg : ∀ a, ids' (g a) ⊆ ids a) :
    Cites vs ids' (do return g (← m) : Marshaling S Obj β) := by
  intro d b d' h
  obtain ⟨a, _, hd, ⟨⟩⟩ := of_bind_ok h
  obtain ⟨hs, ha⟩ := hm d a d' hd
  exact ⟨hs, fun id hid => ha id (hg a hid)⟩

lemma cites_both {g : α → β → γ} (hm : Cites vs ids m) (hn : Cites ws ids' n)
    (hg : ∀ a b, ids'' (g a b) ⊆ ids a ++ ids' b) :
    Cites (vs ++ ws) ids'' (do
      let a ← m
      return g a (← n) : Marshaling S Obj γ) := by
  intro d c d' h
  obtain ⟨a, d₁, hd, h⟩ := of_bind_ok h
  obtain ⟨b, _, hd', ⟨⟩⟩ := of_bind_ok h
  obtain ⟨hs, ha⟩ := hm d a d₁ hd
  obtain ⟨hs', hb⟩ := hn d₁ b d' hd'
  refine ⟨List.Subset.trans hs hs', fun id hid => ?_⟩
  rcases List.mem_append.mp (hg a b hid) with hid | hid
  · exact (ha id hid).imp (fun h => hs' h) fun ⟨i, hi, hid⟩ => ⟨i, List.mem_append_left _ hi, hid⟩
  · exact (hb id hid).imp_right fun ⟨i, hi, hid⟩ => ⟨i, List.mem_append_right _ hi, hid⟩

variable [IdSource S]

lemma idOf_cites (i : Instance Obj) :
    Cites [.object i] (fun id => [id]) (idOf i : Marshaling S Obj UInt64) := by
  intro d id d' h
  cases hi : i.id with
  | none =>
    have he : idOf i d = enlist i d := by rw [idOf, hi]
    rw [he] at h
    cases h
    refine ⟨List.subset_append_left _ _, fun id hid => .inl ?_⟩
    exact List.mem_append_right _ hid
  | some id' =>
    have he : idOf i d = (if d.registry.holds id' i = true then pure id' else
        throw (releasedInstance id') : Marshaling S Obj UInt64) d := by
      rw [idOf, hi]
      rfl
    rw [he] at h
    split at h
    · cases h
      refine ⟨List.Subset.refl _, fun id hid => .inr ⟨i, List.mem_cons_self, ?_⟩⟩
      rw [hi, List.mem_singleton.mp hid]
    · cases h

lemma objectTerm_cites (i : Instance Obj) :
    Cites [.object i] Term.ids (objectTerm i : Marshaling S Obj Term) := by
  intro d t d' h
  obtain ⟨id, _, hd, ⟨⟩⟩ := of_bind_ok h
  exact idOf_cites i d id d' hd

mutual

lemma toTerm_cites : (v : HostValue Obj) →
    Cites v.leaves Term.ids (toTerm v : Marshaling S Obj Term)
  | .integer _ | .string _ | .boolean _ | .var _ => by
    unfold toTerm
    exact cites_pure rfl
  | .float x => by
    unfold toTerm
    split
    · exact cites_pure rfl
    · exact fun d t d' h => by cases h
  | .list items => by
    unfold toTerm
    exact cites_map (toTerms_cites items) fun _ => List.Subset.refl _
  | .map fields => by
    unfold toTerm
    exact cites_map (toFields_cites fields) fun _ => List.Subset.refl _
  | .object i => by
    unfold toTerm
    exact objectTerm_cites i

lemma toTerms_cites : (vs : List (HostValue Obj)) →
    Cites (leavesOfItems vs) idsOfAll (toTerms vs : Marshaling S Obj (List Term))
  | [] => by
    unfold toTerms
    exact cites_pure rfl
  | v :: vs => by
    unfold toTerms
    exact cites_both (toTerm_cites v) (toTerms_cites vs) fun _ _ => List.Subset.refl _

lemma toFields_cites : (fs : List (String × HostValue Obj)) →
    Cites (leavesOfFields fs) idsOfFields (toFields fs : Marshaling S Obj (List (String × Term)))
  | [] => by
    unfold toFields
    exact cites_pure rfl
  | (k, v) :: fs => by
    unfold toFields
    exact cites_both (toTerm_cites v) (toFields_cites fs) fun _ _ => List.Subset.refl _

end

end Marshal

end PolicyBridge
