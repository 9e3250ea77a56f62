import Mathlib.Tactic
import PolicyBridge.Proofs.Marshal.Standing

namespace PolicyBridge

variable {S Obj β : Type}

namespace Desk

open HostValue Marshal

variable [IdSource S] {d d' : Desk S Obj} {ids : List UInt64}

/-- What may be made of a desk while some ids are not released: values and bindings cross, for
this query or for another one, objects are registered under ids that are free, and other ids are
released. -/
inductive Later (ids : List UInt64) (d : Desk S Obj) : Desk S Obj → Prop
  | refl : Later ids d d
  | value {d' : Desk S Obj} (v : HostValue Obj) : Later ids d d' → d'.Fresh v.leaves →
      Later ids d (toTerm v d').2
  | bindings {d' : Desk S Obj} (values : List (String × HostValue Obj)) : Later ids d d' →
      d'.Fresh (leavesOfFields values) → Later ids d (toBindings values d').2
  | query {d' : Desk S Obj} (allocated : List UInt64) : Later ids d d' →
      Later ids d { d' with allocated }
  | register {d' : Desk S Obj} (id : UInt64) (i : Instance Obj) (o : Owner) : Later ids d d' →
      d'.registry.live? id = none → Later ids d { d' with registry := d'.registry.register id i o }
  | release {d' : Desk S Obj} (id : UInt64) : Later ids d d' → id ∉ ids →
      Later ids d { d' with registry := d'.registry.discard id }

lemma Later.keeps (h : Later ids d d') (hl : ∀ id ∈ ids, d.registry.live? id ≠ none) :
    ∀ id ∈ ids, d'.registry.live? id = d.registry.live? id := by
  have hk (r r' : Registry Obj) (hr : ∀ id ∈ ids, r.live? id = d.registry.live? id)
      (hg : r.Grows r') : ∀ id ∈ ids, r'.live? id = d.registry.live? id := by
    intro id hid
    rw [hg id (by rw [hr id hid]; exact hl id hid), hr id hid]
  induction h with
  | refl => exact fun _ _ => rfl
  | @value d' v _ hf ih =>
    obtain ⟨n, hn, ht⟩ := toTerm_takes v d'
    exact hk _ _ ih (ht.grows hn hf)
  | @bindings d' values _ hf ih =>
    obtain ⟨n, hn, ht⟩ := toBindings_takes values d'
    exact hk _ _ ih (ht.grows hn hf)
  | query _ _ ih => exact ih
  | register id i o _ hfree ih =>
    refine hk _ _ ih fun id' hid' => ?_
    have hne : id' ≠ id := by
      rintro rfl
      exact hid' hfree
    rw [Registry.live?_register, if_neg hne]
  | release id _ hid ih =>
    intro id' hid'
    have hne : id' ≠ id := by
      rintro rfl
      exact hid hid'
    rw [Registry.live?_discard, if_neg hne, ih id' hid']

end Desk

namespace Marshal

open Desk HostValue Term

variable [IdSource S]

def Succeeds (m : Marshaling S Obj β) (d : Desk S Obj) : Prop := ∃ b, (m d).1 = .ok b

lemma Stands.later {ids : List UInt64} {read : Registry Obj → Except Error β} {like : β → Prop}
    {d d' : Desk S Obj}
    (hr : ∀ r r', (∀ id ∈ ids, Registry.live? r' id = r.live? id) → read r' = read r)
    (h : Stands ids read like d.registry) (hd : Later ids d d') :
    ∃ b, read d'.registry = .ok b ∧ like b := by
  rw [hr _ _ (hd.keeps h.live)]
  exact h.reads

lemma Crosses.succeeds_iff {vs : List (HostValue Obj)} {P : Registry Obj → β → Prop}
    {m : Marshaling S Obj β} {d : Desk S Obj} (h : Crosses vs P d (m d)) (hf : d.Fresh vs)
    (ha : d.Apart vs) : Succeeds m d ↔ d.registry.Admits vs := by
  obtain ⟨n, hn, ht⟩ := h.takes
  rw [← ha.admits_iff ht hn]
  exact h.ok_iff hf

lemma toTerm_returns {v : HostValue Obj} {d d' : Desk S Obj} {t : Term} (hf : d.Fresh v.leaves)
    (h : (toTerm v d).1 = .ok t) (hd : Later t.ids (toTerm v d).2 d') :
    ∃ v', fromTerm d'.registry t = .ok v' ∧ v'.Alike v := by
  have hs := toTerm_crosses v d
  rw [← Prod.mk.eta (p := toTerm v d), h] at hs
  exact (hs.good hf).later (fun _ _ hk => fromTerm_congr t hk) hd

lemma toBindings_returns {fs : List (String × HostValue Obj)} {d d' : Desk S Obj} {bs : Bindings}
    (hn : (Dict.keys fs).Nodup) (hf : d.Fresh (leavesOfFields fs))
    (h : (toBindings fs d).1 = .ok bs) (hd : Later (idsOfFields bs) (toBindings fs d).2 d') :
    ∃ out, fromBindings d'.registry bs = .ok out ∧
      ∀ k, Option.Rel Alike (out.find? k) (Dict.find? fs k) := by
  have hs := toBindings_crosses hn d
  rw [← Prod.mk.eta (p := toBindings fs d), h] at hs
  exact (hs.good hf).later (fun _ _ hk => fromFields_congr bs hk) hd

lemma leavesOfFields_perm {fs gs : List (String × HostValue Obj)} (h : gs.Perm fs) :
    (leavesOfFields gs).Perm (leavesOfFields fs) := by
  rw [leavesOfFields_eq, leavesOfFields_eq]
  exact h.flatMap_right _

lemma toBindings_perm {fs gs : List (String × HostValue Obj)} {d : Desk S Obj}
    (hn : (Dict.keys fs).Nodup) (hf : d.Fresh (leavesOfFields fs))
    (ha : d.Apart (leavesOfFields fs)) (h : gs.Perm fs) :
    Succeeds (toBindings gs) d ↔ Succeeds (toBindings fs) d := by
  have hl := leavesOfFields_perm h
  have hd : d.fated (leavesOfFields gs) = d.fated (leavesOfFields fs) := by
    rw [fated, hl.countP_eq, fated]
  have hn' : (Dict.keys gs).Nodup := (h.map Prod.fst).nodup_iff.mpr hn
  have hf' : d.Fresh (leavesOfFields gs) := by
    rw [Fresh, hd]
    exact hf
  have ha' : d.Apart (leavesOfFields gs) := by
    intro i id hi
    rw [hd]
    exact ha i id (hl.mem_iff.mp hi)
  rw [(toBindings_crosses hn' d).succeeds_iff hf' ha', (toBindings_crosses hn d).succeeds_iff hf ha]
  exact Registry.admits_congr fun v => hl.mem_iff

/-- Values and bindings cross exactly when the registry admits what they are made of, the registry
that marshaling leaves if an id that is drawn is carried by an object that was released, and come
back as they went while their ids are not released. -/
theorem round_trip (d : Desk S Obj) :
    (∀ v, d.Fresh v.leaves →
      (Succeeds (toTerm v) d ↔ (toTerm v d).2.registry.Admits v.leaves) ∧
      (d.Apart v.leaves → (Succeeds (toTerm v) d ↔ d.registry.Admits v.leaves)) ∧
      ∀ t, (toTerm v d).1 = .ok t → ∀ d', Later t.ids (toTerm v d).2 d' →
        ∃ v', fromTerm d'.registry t = .ok v' ∧ v'.Alike v) ∧
    ∀ fs, (Dict.keys fs).Nodup → d.Fresh (leavesOfFields fs) →
      (Succeeds (toBindings fs) d ↔ (toBindings fs d).2.registry.Admits (leavesOfFields fs)) ∧
      (d.Apart (leavesOfFields fs) → ∀ gs, gs.Perm fs →
        (Succeeds (toBindings gs) d ↔ Succeeds (toBindings fs) d)) ∧
      ∀ bs, (toBindings fs d).1 = .ok bs → ∀ d', Later (idsOfFields bs) (toBindings fs d).2 d' →
        ∃ out, fromBindings d'.registry bs = .ok out ∧
          ∀ k, Option.Rel Alike (out.find? k) (Dict.find? fs k) := by
  constructor
  · intro v hf
    have hs := toTerm_crosses v d
    exact ⟨hs.ok_iff hf, hs.succeeds_iff hf, fun t h d' hd => toTerm_returns hf h hd⟩
  · intro fs hn hf
    have hs := toBindings_crosses hn d
    exact ⟨hs.ok_iff hf, fun ha gs hg => toBindings_perm hn hf ha hg,
      fun bs h d' hd => toBindings_returns hn hf h hd⟩

section Samples

def ada : Instance Unit := ⟨(), ⟨"Alpha"⟩, .brought 0, none⟩

def bob : Instance Unit := ⟨(), ⟨"Alpha"⟩, .brought 1, none⟩

def office : Desk Counter Unit := ⟨⟨3⟩, Registry.empty.register 2 ada .host, []⟩

def team : HostValue Unit :=
  .list [.object (ada.withId 2), .map [("limit", .float 1.5), ("who", .object bob)], .object bob]

def teams : List (String × HostValue Unit) :=
  [("team", .list [.object bob, .var "x"]), ("head", .object (ada.withId 2))]

lemma frees_of_all {r : Registry Unit} {ids : List UInt64} (hn : ids.Nodup)
    (h : ids.all (fun id => (r.live? id).isNone) = true) : r.Frees ids :=
  ⟨hn, by simpa using h⟩

lemma office_admits_team : office.registry.Admits team.leaves := by
  have hl : team.leaves =
      [.object (ada.withId 2), .float 1.5, .object bob, .object bob] := rfl
  rw [hl]
  refine ⟨fun x hx => ?_, fun i id hi hc => ?_⟩
  · obtain rfl : x = 1.5 := by simpa using hx
    decide
  · obtain rfl | rfl : i = ada.withId 2 ∨ i = bob := by simpa using hi
    · cases hc
      rfl
    · cases hc

lemma office_apart_team : office.Apart team.leaves := by
  intro i id hi hc
  obtain rfl | rfl : i = ada.withId 2 ∨ i = bob := by
    simpa [team, leaves, leavesOfItems, leavesOfFields] using hi
  · cases hc
    decide
  · cases hc

theorem round_trip_team :
    (Succeeds (toTerm team) office ∧
      ∀ t, (toTerm team office).1 = .ok t → ∀ d', Later t.ids (toTerm team office).2 d' →
        ∃ v, fromTerm d'.registry t = .ok v ∧ v.Alike team) ∧
    ∀ bs, (toBindings teams office).1 = .ok bs →
      ∀ d', Later (idsOfFields bs) (toBindings teams office).2 d' →
        ∃ out, fromBindings d'.registry bs = .ok out ∧
          ∀ k, Option.Rel Alike (out.find? k) (Dict.find? teams k) := by
  have hv := (round_trip office).1 team (frees_of_all (by decide) (by decide))
  have hb := (round_trip office).2 teams (by decide) (frees_of_all (by decide) (by decide))
  exact ⟨⟨(hv.2.1 office_apart_team).mpr office_admits_team, hv.2.2⟩, hb.2.2⟩

/-- An object that carries an id which was released crosses after the same object without it, if
that id is drawn again, but not before. -/
theorem released_id_crosses_again :
    let d : Desk Counter Unit := ⟨⟨3⟩, Registry.empty, []⟩
    let v : HostValue Unit := .list [.object ada, .object (ada.withId 3)]
    let fs : List (String × HostValue Unit) := [("a", .object ada), ("b", .object (ada.withId 3))]
    d.Fresh v.leaves ∧ ¬ d.registry.Admits v.leaves ∧ Succeeds (toTerm v) d ∧
      d.Fresh (leavesOfFields fs) ∧ Succeeds (toBindings fs) d ∧ ¬ Succeeds (toBindings fs.reverse) d := by
  refine ⟨frees_of_all (by decide) (by decide), fun h => ?_, ⟨_, rfl⟩,
    frees_of_all (by decide) (by decide), ⟨_, rfl⟩, ?_⟩
  · cases h.held (ada.withId 3) 3 (List.mem_cons_of_mem _ List.mem_cons_self) rfl
  · rintro ⟨bs, h⟩
    cases h

end Samples

end Marshal

end PolicyBridge
