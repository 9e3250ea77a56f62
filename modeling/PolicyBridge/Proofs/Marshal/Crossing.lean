import Mathlib.Tactic
import PolicyBridge.Proofs.Dispatch.Drawing
import PolicyBridge.Proofs.Marshal.Reading

/-! Values that cross to the engine and back. When a value crosses is told from its floats and the
ids its objects carry; what has crossed reads back as it was while its ids are not released. -/

namespace PolicyBridge

variable {S Obj α β : Type}

namespace IdSource

variable [IdSource S]

def upcoming : Nat → S → List UInt64
  | 0, _ => []
  | n + 1, s => (next s).1 :: upcoming n (next s).2

def after : Nat → S → S
  | 0, s => s
  | n + 1, s => after n (next s).2

lemma upcoming_add (m n : Nat) (s : S) :
    upcoming (m + n) s = upcoming m s ++ upcoming n (after m s) := by
  induction m generalizing s with
  | zero => simp [upcoming, after]
  | succ m ih => simp [Nat.succ_add, upcoming, after, ih]

lemma after_add (m n : Nat) (s : S) : after (m + n) s = after n (after m s) := by
  induction m generalizing s with
  | zero => simp [after]
  | succ m ih => simp [Nat.succ_add, after, ih]

end IdSource

namespace HostValue

mutual

def leaves : HostValue Obj → List (HostValue Obj)
  | .list items => leavesOfItems items
  | .map fields => leavesOfFields fields
  | v => [v]

def leavesOfItems : List (HostValue Obj) → List (HostValue Obj)
  | [] => []
  | v :: vs => leaves v ++ leavesOfItems vs

def leavesOfFields : List (String × HostValue Obj) → List (HostValue Obj)
  | [] => []
  | (_, v) :: fs => leaves v ++ leavesOfFields fs

end

def isNew : HostValue Obj → Bool
  | .object i => i.id.isNone
  | _ => false

lemma leavesOfFields_eq (fs : List (String × HostValue Obj)) :
    leavesOfFields fs = fs.flatMap fun e => leaves e.2 := by
  induction fs with
  | nil => rfl
  | cons e fs ih => rw [leavesOfFields, ih, List.flatMap_cons]

end HostValue

namespace Registry

/-- Every float is finite, and every object that carries an id is held under that id. -/
structure Admits (r : Registry Obj) (vs : List (HostValue Obj)) : Prop where
  finite : ∀ x, .float x ∈ vs → x.isFinite = true
  held : ∀ i id, .object i ∈ vs → i.id = some id → r.holds id i = true

variable {r r' : Registry Obj} {vs ws : List (HostValue Obj)}

lemma admits_append : r.Admits (vs ++ ws) ↔ r.Admits vs ∧ r.Admits ws := by
  constructor
  · rintro ⟨hf, hh⟩
    refine ⟨⟨fun x hx => ?_, fun i id hi => ?_⟩, fun x hx => ?_, fun i id hi => ?_⟩
    · exact hf x (List.mem_append_left _ hx)
    · exact hh i id (List.mem_append_left _ hi)
    · exact hf x (List.mem_append_right _ hx)
    · exact hh i id (List.mem_append_right _ hi)
  · rintro ⟨⟨hf, hh⟩, hf', hh'⟩
    refine ⟨fun x hx => ?_, fun i id hi hc => ?_⟩
    · exact (List.mem_append.mp hx).elim (hf x) (hf' x)
    · exact (List.mem_append.mp hi).elim (hh i id · hc) (hh' i id · hc)

lemma admits_congr (h : ∀ v, v ∈ vs ↔ v ∈ ws) : r.Admits vs ↔ r.Admits ws := by
  constructor
  · exact fun ⟨hf, hh⟩ => ⟨fun x hx => hf x ((h _).mpr hx), fun i id hi => hh i id ((h _).mpr hi)⟩
  · exact fun ⟨hf, hh⟩ => ⟨fun x hx => hf x ((h _).mp hx), fun i id hi => hh i id ((h _).mp hi)⟩

lemma Grows.admits (h : r.Grows r') (ha : r.Admits vs) : r'.Admits vs :=
  ⟨ha.finite, fun i id hi hc => h.holds (ha.held i id hi hc)⟩

variable {ids ids' : List UInt64}

lemma Gains.grows (h : r.Gains ids r') (hf : r.Frees ids) : r.Grows r' := by
  intro id hid
  apply h.kept
  intro hmem
  exact hid (hf.2 id hmem)

lemma Frees.left (h : r.Frees (ids ++ ids')) : r.Frees ids :=
  ⟨(List.nodup_append.mp h.1).1, fun id hid => h.2 id (List.mem_append_left _ hid)⟩

lemma Frees.right (h : r.Frees (ids ++ ids')) (hg : r.Gains ids r') : r'.Frees ids' := by
  obtain ⟨-, hn, hd⟩ := List.nodup_append.mp h.1
  refine ⟨hn, fun id hid => ?_⟩
  have hne : id ∉ ids := fun hmem => hd id hmem id hid rfl
  rw [hg.kept id hne]
  exact h.2 id (List.mem_append_right _ hid)

end Registry

namespace Desk

open HostValue

variable [IdSource S] {d d' d'' : Desk S Obj} {vs ws : List (HostValue Obj)} {m n : Nat}

structure Takes (n : Nat) (d d' : Desk S Obj) : Prop where
  source : d'.source = IdSource.after n d.source
  allocated : d'.allocated = d.allocated ++ IdSource.upcoming n d.source
  gains : d.registry.Gains (IdSource.upcoming n d.source) d'.registry

lemma Takes.refl (d : Desk S Obj) : Takes 0 d d := ⟨rfl, (List.append_nil _).symm, .refl _⟩

lemma Takes.trans (h : Takes m d d') (h' : Takes n d' d'') : Takes (m + n) d d'' := by
  have hu : IdSource.upcoming (m + n) d.source =
      IdSource.upcoming m d.source ++ IdSource.upcoming n d'.source := by
    rw [IdSource.upcoming_add, h.source]
  refine ⟨?_, ?_, ?_⟩
  · rw [h'.source, h.source, IdSource.after_add]
  · rw [h'.allocated, h.allocated, hu, List.append_assoc]
  · rw [hu]
    exact h.gains.trans h'.gains

def fated (d : Desk S Obj) (vs : List (HostValue Obj)) : List UInt64 :=
  IdSource.upcoming (vs.countP isNew) d.source

def Fresh (d : Desk S Obj) (vs : List (HostValue Obj)) : Prop := d.registry.Frees (d.fated vs)

def Apart (d : Desk S Obj) (vs : List (HostValue Obj)) : Prop :=
  ∀ i id, .object i ∈ vs → i.id = some id → id ∉ d.fated vs

lemma fated_append (h : Takes (vs.countP isNew) d d') :
    d.fated (vs ++ ws) = d.fated vs ++ d'.fated ws := by
  rw [fated, List.countP_append, IdSource.upcoming_add, ← h.source]
  rfl

lemma Fresh.left (h : d.Fresh (vs ++ ws)) : d.Fresh vs := by
  rw [Fresh, fated, List.countP_append, IdSource.upcoming_add] at h
  exact h.left

lemma Fresh.right (h : d.Fresh (vs ++ ws)) (ht : Takes (vs.countP isNew) d d') : d'.Fresh ws := by
  rw [Fresh, fated_append ht] at h
  exact h.right ht.gains

lemma Takes.gains_of_le (h : Takes n d d') (hn : n ≤ vs.countP isNew) :
    ∃ ids, d.registry.Gains ids d'.registry ∧ (d.Fresh vs → d.registry.Frees ids) ∧
      ∀ id ∈ ids, id ∈ d.fated vs := by
  obtain ⟨k, hk⟩ := Nat.exists_eq_add_of_le hn
  have hf : d.fated vs =
      IdSource.upcoming n d.source ++ IdSource.upcoming k (IdSource.after n d.source) := by
    rw [fated, hk, IdSource.upcoming_add]
  refine ⟨_, h.gains, fun hv => ?_, fun id hid => ?_⟩
  · rw [Fresh, hf] at hv
    exact hv.left
  · rw [hf]
    exact List.mem_append_left _ hid

lemma Takes.grows (h : Takes n d d') (hn : n ≤ vs.countP isNew) (hv : d.Fresh vs) :
    d.registry.Grows d'.registry := by
  obtain ⟨ids, hg, hf, -⟩ := h.gains_of_le hn
  exact hg.grows (hf hv)

lemma Apart.admits_iff (ha : d.Apart vs) (h : Takes n d d') (hn : n ≤ vs.countP isNew) :
    d'.registry.Admits vs ↔ d.registry.Admits vs := by
  obtain ⟨ids, hg, -, hs⟩ := h.gains_of_le hn
  have hh (i : Instance Obj) (id : UInt64) (hi : .object i ∈ vs) (hc : i.id = some id) :
      d'.registry.holds id i = d.registry.holds id i := by
    have hk : d'.registry.entries.find? id = d.registry.entries.find? id :=
      hg.kept id fun hid => ha i id hi hc (hs id hid)
    rw [Registry.holds, hk, Registry.holds]
  constructor
  · rintro ⟨hf, h⟩
    refine ⟨hf, fun i id hi hc => ?_⟩
    rw [← hh i id hi hc]
    exact h i id hi hc
  · rintro ⟨hf, h⟩
    refine ⟨hf, fun i id hi hc => ?_⟩
    rw [hh i id hi hc]
    exact h i id hi hc

end Desk

namespace Marshal

open Failing Desk HostValue

variable [IdSource S] {vs ws : List (HostValue Obj)} {P : Registry Obj → α → Prop}
  {R : Registry Obj → β → Prop} {m : Marshaling S Obj α} {f : α → Marshaling S Obj β}

inductive Crosses (vs : List (HostValue Obj)) (P : Registry Obj → α → Prop) (d : Desk S Obj) :
    Except Error α × Desk S Obj → Prop
  | crossed {a : α} {d' : Desk S Obj} : Takes (vs.countP isNew) d d' →
      (d.Fresh vs → d'.registry.Admits vs ∧ P d'.registry a) → Crosses vs P d (.ok a, d')
  | stopped {e : Error} {n : Nat} {d' : Desk S Obj} : n ≤ vs.countP isNew → Takes n d d' →
      ¬ d'.registry.Admits vs → Crosses vs P d (.error e, d')

lemma Crosses.takes {d : Desk S Obj} {x : Except Error α × Desk S Obj} (h : Crosses vs P d x) :
    ∃ n ≤ vs.countP isNew, Takes n d x.2 := by
  cases h with
  | crossed ht _ => exact ⟨_, Nat.le_refl _, ht⟩
  | stopped hn ht _ => exact ⟨_, hn, ht⟩

lemma Crosses.ok_iff {d : Desk S Obj} {x : Except Error α × Desk S Obj} (h : Crosses vs P d x)
    (hf : d.Fresh vs) : (∃ a, x.1 = .ok a) ↔ x.2.registry.Admits vs := by
  cases h with
  | crossed _ ha => exact ⟨fun _ => (ha hf).1, fun _ => ⟨_, rfl⟩⟩
  | stopped _ _ ha => exact ⟨nofun, fun h => absurd h ha⟩

lemma Crosses.good {d d' : Desk S Obj} {a : α} (h : Crosses vs P d (.ok a, d')) (hf : d.Fresh vs) :
    P d'.registry a := by
  cases h with
  | crossed _ ha => exact (ha hf).2

lemma crosses_pure {a : α} (h : ∀ r, r.Admits vs ∧ P r a) (hn : vs.countP isNew = 0)
    (d : Desk S Obj) : Crosses vs P d ((pure a : Marshaling S Obj α) d) := by
  refine .crossed ?_ fun _ => h _
  rw [hn]
  exact .refl d

lemma crosses_bind (hP : ∀ r r' a, r.Grows r' → P r a → P r' a)
    (hm : ∀ d, Crosses vs P d (m d))
    (hf : ∀ a d, Crosses ws (fun r b => P r a → R r b) d (f a d)) (d : Desk S Obj) :
    Crosses (vs ++ ws) R d ((m >>= f) d) := by
  have hs := hm d
  rcases h : m d with ⟨e | a, d'⟩ <;> rw [h] at hs
  · rw [bind_error h]
    obtain ⟨⟩ | ⟨hn, ht, ha⟩ := hs
    refine .stopped ?_ ht fun h => ha (Registry.admits_append.mp h).1
    rw [List.countP_append]
    omega
  · rw [bind_ok h]
    obtain ⟨ht, ha⟩ := hs
    have hs' := hf a d'
    generalize f a d' = x at hs'
    cases hs' with
    | stopped hn' ht' ha' =>
      refine .stopped ?_ (ht.trans ht') fun h => ha' (Registry.admits_append.mp h).2
      rw [List.countP_append]
      omega
    | crossed ht' ha' =>
      refine .crossed ?_ fun hv => ?_
      · rw [List.countP_append]
        exact ht.trans ht'
      · obtain ⟨hadm, hp⟩ := ha hv.left
        have hv' := hv.right ht
        obtain ⟨hadm', hr⟩ := ha' hv'
        have hg := ht'.grows (Nat.le_refl _) hv'
        exact ⟨Registry.admits_append.mpr ⟨hg.admits hadm, hadm'⟩, hr (hP _ _ a hg hp)⟩

lemma crosses_map {g : α → β} (hm : ∀ d, Crosses vs P d (m d)) (hg : ∀ r a, P r a → R r (g a))
    (d : Desk S Obj) : Crosses vs R d ((do return g (← m) : Marshaling S Obj β) d) := by
  have hs := hm d
  rcases h : m d with ⟨e | a, d'⟩ <;> rw [h] at hs
  · rw [bind_error h]
    obtain ⟨⟩ | ⟨hn, ht, ha⟩ := hs
    exact .stopped hn ht ha
  · rw [bind_ok h]
    obtain ⟨ht, ha⟩ := hs
    exact .crossed ht fun hv => (ha hv).imp_right (hg _ a)

end Marshal

end PolicyBridge
