import Mathlib.Tactic
import PolicyBridge.Proofs.Dictionary
import PolicyBridge.Proofs.Dispatch.Drawing

/-! A registry that counts its ids itself, while the engine and the host choose others. A counted id
is free unless it was chosen before. -/

namespace PolicyBridge

variable {Obj : Type}

inductive Registering (Obj : Type) where
  | register (i : Instance Obj) (o : Owner)
  | draw
  | registerWithId (id : UInt64) (i : Instance Obj) (o : Owner)
  | makeExternal (id : UInt64) (t : Term)
  | registerClass (c : Class Obj)
  | lookup (id : UInt64)
  | release (id : UInt64)
  | close

namespace Registering

def draws : Registering Obj → Bool
  | .register _ _ | .draw => true
  | _ => false

def chosen? : Registering Obj → Option UInt64
  | .registerWithId id _ _ | .makeExternal id _ => some id
  | _ => none

def given? : Registering Obj → Option (Instance Obj)
  | .register i _ | .registerWithId _ i _ => some i
  | _ => none

end Registering

namespace Work

variable {S : Type} [IdSource S] (w : Work S Obj)

def withRegistry (r : Registry Obj) : Work S Obj := { w with host := { w.host with registry := r } }

def draw : UInt64 × Work S Obj :=
  let (id, source) := IdSource.next w.host.source
  (id, { w with host := { w.host with source } })

def register (i : Instance Obj) (o : Owner) : UInt64 × Work S Obj :=
  let (id, w) := w.draw
  (id, w.withRegistry (w.registry.register id i o))

def registering : Registering Obj → Work S Obj
  | .register i o => (w.register i o).2
  | .draw => w.draw.2
  | .registerWithId id i o =>
    match w.registry.registerWithId id i o with
    | .ok r => w.withRegistry r
    | .error _ => w
  | .makeExternal id t => (Dispatching.dispatch (.makeExternal id t) w).2
  | .registerClass c => w.withRegistry (w.registry.registerClass c)
  | .lookup _ => w
  | .release id =>
    match w.registry.release id with
    | .ok (_, r) => w.withRegistry r
    | .error _ => w
  | .close => w.close

lemma registering_makeExternal (id : UInt64) (t : Term) :
    w.registering (.makeExternal id t) = w ∨ ∃ r, Dispatching.furnish w.registry id t = .ok r ∧
      w.registering (.makeExternal id t) = ⟨{ w.host with registry := r }, w.own.adopt id⟩ := by
  have hm := Dispatching.makeExternal_eq id t w
  cases hr : Dispatching.furnish w.registry id t with
  | error e =>
    rw [hr] at hm
    have hd : Dispatching.dispatch (.makeExternal id t) w = (.error e, w) := Failing.bind_error hm
    exact .inl (by rw [registering, hd])
  | ok r =>
    rw [hr] at hm
    have hd : Dispatching.dispatch (.makeExternal id t) w = (.ok none, _) := Failing.bind_ok hm
    exact .inr ⟨r, rfl, by rw [registering, hd]⟩

lemma source_registering (c : Registering Obj) : (w.registering c).host.source =
    if c.draws then (IdSource.next w.host.source).2 else w.host.source := by
  cases c with
  | makeExternal id t =>
    rcases w.registering_makeExternal id t with h | ⟨r, -, h⟩ <;> rw [h] <;> rfl
  | registerWithId id i o =>
    rw [registering]
    split <;> rfl
  | release id =>
    rw [registering]
    split <;> rfl
  | register _ _ | draw | registerClass _ | lookup _ | close => rfl

lemma live?_register (i : Instance Obj) (o : Owner) (id : UInt64) :
    (w.register i o).2.registry.live? id =
      if id = (w.register i o).1 then some ⟨i, o⟩ else w.registry.live? id :=
  Registry.live?_register _ _ _ _ _

inductive Becomes (w : Work S Obj) : Registering Obj → Registry Obj → Prop
  | registers {c : Registering Obj} {i : Instance Obj} (id : UInt64) (o : Owner) :
      c.given? = some i →
        c.draws ∧ id = (IdSource.next w.host.source).1 ∨
          c.chosen? = some id ∧ w.registry.live? id = none → Becomes w c (w.registry.register id i o)
  | builds {c : Registering Obj} (id : UInt64) (o : Obj) (t : HostType) :
      c.chosen? = some id → w.registry.live? id = none →
        Becomes w c ({ w.registry with built := w.registry.built + 1 }.register id
          ⟨o, t, .built w.registry.built, none⟩ .query)
  | releases {c : Registering Obj} (ids : List UInt64) :
      (∀ id ∈ ids, c = .release id ∨ c = .close) → Becomes w c (Marshal.releaseAll w.registry ids)
  | registersClass (d : Class Obj) : Becomes w (.registerClass d) (w.registry.registerClass d)

lemma Becomes.same (w : Work S Obj) (c : Registering Obj) : Becomes w c w.registry :=
  .releases [] (List.forall_mem_nil _)

lemma registering_becomes (c : Registering Obj) : Becomes w c (w.registering c).registry := by
  cases c with
  | register i o => exact .registers _ o rfl (.inl ⟨rfl, rfl⟩)
  | registerWithId id i o =>
    rw [registering]
    cases hl : w.registry.live? id with
    | none =>
      rw [Registry.registerWithId_of_free _ _ _ _ hl]
      exact .registers id o rfl (.inr ⟨rfl, hl⟩)
    | some e =>
      rw [Registry.registerWithId_of_live _ _ _ _ hl]
      exact .same w _
  | makeExternal id t =>
    rcases w.registering_makeExternal id t with hs | ⟨r, hr, hs⟩ <;> rw [hs]
    · exact .same w _
    · obtain ⟨hl, o, s, rfl⟩ := Dispatching.furnish_registers hr
      exact .builds id o s rfl hl
  | registerClass d => exact .registersClass d
  | release id =>
    rw [registering]
    cases hl : w.registry.live? id with
    | none =>
      rw [Registry.release_of_free _ _ hl]
      exact .same w _
    | some e =>
      rw [Registry.release_of_live _ _ hl]
      exact .releases [id] fun x hx => .inl (by rw [List.mem_singleton.mp hx])
  | close => exact .releases w.own.allocated fun _ _ => .inr rfl
  | draw | lookup _ => exact .same w _

inductive Alters (w w' : Work S Obj) (c : Registering Obj) : Prop
  | adds {id : UInt64} {i : Instance Obj} {o : Owner} :
      (∀ x, w'.registry.live? x = if x = id then some ⟨i, o⟩ else w.registry.live? x) →
        c.given? = some i ∨ i.id = none →
          c.draws ∧ id = (IdSource.next w.host.source).1 ∨
            c.chosen? = some id ∧ w.registry.live? id = none → Alters w w' c
  | removes (ids : List UInt64) :
      (∀ x, w'.registry.live? x = if x ∈ ids then none else w.registry.live? x) →
        (∀ id ∈ ids, c = .release id ∨ c = .close) → Alters w w' c

lemma registering_alters (c : Registering Obj) : Alters w (w.registering c) c := by
  have hb := w.registering_becomes c
  generalize hr : (w.registering c).registry = r at hb
  cases hb with
  | registers id o hg hid =>
    have hl (x : UInt64) := (congrArg (Registry.live? · x) hr).trans (Registry.live?_register ..)
    exact .adds hl (.inl hg) hid
  | builds id o t hc hf =>
    have hl (x : UInt64) := (congrArg (Registry.live? · x) hr).trans (Registry.live?_register ..)
    exact .adds hl (.inr rfl) (.inr ⟨hc, hf⟩)
  | releases ids hc =>
    refine .removes ids (fun x => ?_) hc
    rw [hr, Marshal.live?_releaseAll]
  | registersClass d =>
    refine .removes [] (fun x => ?_) (List.forall_mem_nil _)
    rw [hr, if_neg List.not_mem_nil]
    rfl

lemma live_registering {c : Registering Obj} {id : UInt64}
    (h : (w.registering c).registry.live? id ≠ none) : w.registry.live? id ≠ none ∨
      c.chosen? = some id ∨ c.draws ∧ id = (IdSource.next w.host.source).1 := by
  cases w.registering_alters c with
  | @adds id' i o hl _ hid =>
    by_cases hx : id = id'
    · subst hx
      rcases hid with hd | hc
      · exact .inr (.inr hd)
      · exact .inr (.inl hc.1)
    · rw [hl, if_neg hx] at h
      exact .inl h
  | removes ids hl _ =>
    refine .inl fun hn => h ?_
    rw [hl, hn, ite_self]

lemma register_of_free {i : Instance Obj} {o : Owner}
    (h : w.registry.live? (w.register i o).1 = none) :
    (w.register i o).2.registry.count = w.registry.count + 1 ∧
      ∀ id e, w.registry.live? id = some e → (w.register i o).2.registry.live? id = some e := by
  refine ⟨Dict.length_insert _ h, fun id e he => ?_⟩
  have hne : id ≠ (w.register i o).1 := by
    rintro rfl
    rw [h] at he
    cases he
  rw [live?_register, if_neg hne, he]

end Work

namespace Registering

def fresh : Work Counter Obj := ⟨⟨⟨1⟩, .empty, none⟩, .fresh⟩

def run (cs : List (Registering Obj)) : Work Counter Obj := cs.foldl Work.registering fresh

lemma run_concat (cs : List (Registering Obj)) (c : Registering Obj) :
    run (cs ++ [c]) = (run cs).registering c :=
  List.foldl_concat _ _ _ _

structure Accounted (drawn : Nat) (chosen : List UInt64) (w : Work Counter Obj) : Prop where
  source : w.host.source = ⟨UInt64.ofNat (drawn + 1)⟩
  live : ∀ id, w.registry.live? id ≠ none → id ∈ chosen ∨ id.toNat ≤ drawn

lemma Accounted.registering {drawn : Nat} {chosen : List UInt64} {w : Work Counter Obj}
    (h : Accounted drawn chosen w) (c : Registering Obj) :
    Accounted (drawn + if c.draws then 1 else 0) (chosen ++ c.chosen?.toList)
      (w.registering c) := by
  constructor
  · rw [w.source_registering, h.source]
    split
    · rw [UInt64.ofNat_add (drawn + 1) 1]
      rfl
    · rfl
  · intro id hid
    rcases w.live_registering hid with hl | hc | ⟨hd, rfl⟩
    · refine (h.live id hl).imp (List.mem_append_left _) fun hn => ?_
      omega
    · exact .inl (List.mem_append_right _ (by simp [hc]))
    · refine .inr ?_
      rw [h.source, if_pos hd]
      exact UInt64.toNat_ofNat'.trans_le (Nat.mod_le _ _)

def drawn (cs : List (Registering Obj)) : Nat := cs.countP draws

def chosen (cs : List (Registering Obj)) : List UInt64 := cs.filterMap chosen?

lemma run_accounted (cs : List (Registering Obj)) :
    Accounted (drawn cs) (chosen cs) (run cs) := by
  induction cs using List.reverseRecOn with
  | nil => exact ⟨rfl, fun _ h => absurd rfl h⟩
  | append_singleton cs c ih =>
    have hd : drawn (cs ++ [c]) = drawn cs + if c.draws then 1 else 0 := by
      rw [drawn, List.countP_append, List.countP_singleton]
      rfl
    have hc : chosen (cs ++ [c]) = chosen cs ++ c.chosen?.toList := by
      rw [chosen, List.filterMap_append, chosen]
      cases c <;> rfl
    rw [run_concat, hd, hc]
    exact ih.registering c

/-- While fewer than `2 ^ 64` ids are drawn, an object is registered under the next id of the count,
and what stands under any other id stays. The id was free, so that one more object is live and none
is displaced, unless it was chosen before and not released since. -/
theorem register_counted (cs : List (Registering Obj)) (i : Instance Obj) (o : Owner)
    (h : drawn cs + 1 < 2 ^ 64) :
    let w := run cs
    let (id, w') := w.register i o
    id.toNat = drawn cs + 1 ∧ w'.registry.live? id = some ⟨i, o⟩ ∧
      (∀ id', id' ≠ id → w'.registry.live? id' = w.registry.live? id') ∧
      (w.registry.live? id = none ∧ w'.registry.count = w.registry.count + 1 ∧
          (∀ id' e, w.registry.live? id' = some e → w'.registry.live? id' = some e) ∨
        w.registry.live? id ≠ none ∧ id ∈ chosen cs) := by
  intro w
  have hw := run_accounted cs
  have hn : (w.register i o).1.toNat = drawn cs + 1 := by
    change (IdSource.next w.host.source).1.toNat = _
    rw [hw.source]
    exact UInt64.toNat_ofNat'.trans (Nat.mod_eq_of_lt h)
  refine ⟨hn, (w.live?_register i o _).trans (if_pos rfl), fun id' hid => ?_, ?_⟩
  · exact (w.live?_register i o id').trans (if_neg hid)
  by_cases hl : w.registry.live? (w.register i o).1 = none
  · exact .inl ⟨hl, w.register_of_free hl⟩
  · refine .inr ⟨hl, (hw.live _ hl).resolve_right ?_⟩
    omega

section Samples

def ada : Instance Unit := ⟨(), ⟨"Alpha"⟩, .brought 0, none⟩

def bob : Instance Unit := ⟨(), ⟨"Alpha"⟩, .brought 1, none⟩

theorem register_counted_beside_chosen :
    let w := run [.registerWithId 2 ada .host]
    drawn [.registerWithId 2 ada .host] + 1 < 2 ^ 64 ∧
      (w.register bob .query).2.registry.count = w.registry.count + 1 := by
  have h : drawn [.registerWithId 2 ada .host] + 1 < 2 ^ 64 := by decide
  refine ⟨h, ?_⟩
  obtain ⟨-, -, -, hf | ⟨hl, -⟩⟩ := register_counted [.registerWithId 2 ada .host] bob .query h
  · exact hf.2.1
  · exact absurd rfl hl

/-- The id that the host chose for an object is counted out again, and the object is displaced. -/
theorem chosen_id_displaced :
    let w := run [.registerWithId 1 ada .host]
    let (id, w') := w.register bob .host
    drawn [.registerWithId 1 ada .host] + 1 < 2 ^ 64 ∧
      w.registry.live? id = some ⟨ada, .host⟩ ∧ w'.registry.live? id = some ⟨bob, .host⟩ ∧
      w.registry.count = 1 ∧ w'.registry.count = 1 :=
  ⟨by decide, rfl, rfl, rfl, rfl⟩

end Samples

end Registering

end PolicyBridge
