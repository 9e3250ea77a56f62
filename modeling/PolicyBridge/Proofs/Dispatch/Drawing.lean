import Mathlib.Tactic
import PolicyBridge.Proofs.Dispatch.Calling
import PolicyBridge.Proofs.Marshal.Drawing

namespace PolicyBridge

variable {S Obj α : Type}

def Work.Marshals (w w' : Work (Recorded S) Obj) : Prop := w.desk.Marshals w'.desk

def Registry.Frees (r : Registry Obj) (ids : List UInt64) : Prop :=
  ids.Nodup ∧ ∀ id ∈ ids, r.live? id = none

namespace Dispatching

open Failing Work

section Building

lemma construct_builds {r r' : Registry Obj} {t : Term} {i : Instance Obj}
    (h : construct r t = .ok (i, r')) : (∃ o s, i = ⟨o, s, .built r.built, none⟩) ∧
      r' = { r with built := r.built + 1 } := by
  cases t with
  | call name args kwargs =>
    simp only [construct, bind, Except.bind, pure, Except.pure] at h
    repeat' split at h
    all_goals first | cases h; exact ⟨⟨_, _, rfl⟩, rfl⟩ | cases h
  | _ => cases h

def furnish (r : Registry Obj) (id : UInt64) (t : Term) : Except Error (Registry Obj) := do
  let (i, r) ← construct r t
  r.registerWithId id i .query

lemma furnish_of_built {r : Registry Obj} {t : Term} {x : Instance Obj × Registry Obj}
    (h : construct r t = .ok x) (id : UInt64) :
    furnish r id t = x.2.registerWithId id x.1 .query := by
  rw [furnish, h]
  rfl

lemma furnish_registers {r r' : Registry Obj} {id : UInt64} {t : Term}
    (h : furnish r id t = .ok r') : r.live? id = none ∧ ∃ o s, r' =
      { r with built := r.built + 1 }.register id ⟨o, s, .built r.built, none⟩ .query := by
  cases hc : construct r t with
  | error e =>
    rw [furnish, hc] at h
    cases h
  | ok built =>
    obtain ⟨i, r₁⟩ := built
    rw [furnish_of_built hc] at h
    obtain ⟨⟨o, s, rfl⟩, rfl⟩ := construct_builds hc
    obtain ⟨hl, rfl⟩ := Registry.of_registerWithId _ _ _ _ h
    exact ⟨hl, o, s, rfl⟩

lemma furnish_gains {r r' : Registry Obj} {id : UInt64} {t : Term} (h : furnish r id t = .ok r') :
    r.live? id = none ∧ r.Gains [id] r' := by
  obtain ⟨hl, o, s, rfl⟩ := furnish_registers h
  obtain ⟨hk, hg, -, -⟩ := Registry.Gains.register r id ⟨o, s, .built r.built, none⟩
  exact ⟨hl, hk, hg, rfl, rfl⟩

lemma makeExternal_eq (id : UInt64) (t : Term) (w : Work S Obj) :
    makeExternal id t w = match furnish w.registry id t with
      | .error e => (.error e, w)
      | .ok r => (.ok (), ⟨{ w.host with registry := r }, w.own.adopt id⟩) := by
  have hm : makeExternal id t w = (lift (construct w.registry t) >>= fun x =>
      lift (x.2.registerWithId id x.1 .query) >>= fun r => do
        setRegistry r
        modify fun w => { w with own := w.own.adopt id } : Dispatching S Obj Unit) w := rfl
  rw [hm]
  cases hc : construct w.registry t with
  | error e =>
    rw [furnish, hc]
    rfl
  | ok x =>
    rw [furnish_of_built hc]
    refine (Failing.bind_ok rfl).trans ?_
    cases x.2.registerWithId id x.1 .query with
    | error e => exact Failing.bind_error (lift_error rfl w)
    | ok r => exact Failing.bind_ok (lift_ok rfl w)

lemma makeExternal_cases (id : UInt64) (t : Term) (w : Work S Obj) :
    (∃ e, makeExternal id t w = (.error e, w)) ∨
      ∃ r, makeExternal id t w = (.ok (), ⟨{ w.host with registry := r }, w.own.adopt id⟩) ∧
        w.registry.live? id = none ∧ w.registry.Gains [id] r := by
  rw [makeExternal_eq]
  cases h : furnish w.registry id t with
  | error e => exact .inl ⟨e, rfl⟩
  | ok r => exact .inr ⟨r, rfl, furnish_gains h⟩

end Building

section Tolerating

variable [IdSource S]

structure Tolerates (R : Work S Obj → Work S Obj → Prop) : Prop where
  refl : ∀ w, R w w
  trans : ∀ {a b c}, R a b → R b c → R a c
  caches : ∀ w cache, R w { w with host := { w.host with cache := cache } }
  marshals : ∀ v, Moves R (marshal (Marshal.toTerm v) : Dispatching S Obj Term)

namespace Tolerates

variable {R : Work S Obj → Work S Obj → Prop} (hR : Tolerates R)

include hR

lemma lift (x : Except Error α) : Moves R (lift x : Dispatching S Obj α) := hR.refl

lemma remembered (k : Lookup) : Moves R (remembered k : Dispatching S Obj _) := by
  intro w
  unfold Dispatching.remembered
  cases h : w.host.cache with
  | none => exact hR.refl w
  | some c => exact hR.caches w _

lemma resolve (c : Class Obj) (member : String) (kind : MemberKind) :
    Moves R (resolve c member kind : Dispatching S Obj _) := by
  refine Moves.bind hR.trans (hR.remembered _) fun found => ?_
  cases found with
  | some x => exact Moves.pure hR.refl x
  | none =>
    refine Moves.bind hR.trans hR.refl fun r => ?_
    split
    · exact Moves.bind hR.trans (fun w => hR.caches w _) fun _ => Moves.pure hR.refl _
    · exact Moves.throw hR.refl _

lemma callMember (t : Term) (member : String) (args : Option (List Term))
    (kwargs : Option (Dict String Term)) :
    Moves R (callMember t member args kwargs : Dispatching S Obj Term) := by
  intro w
  rw [callMember_eq]
  refine Moves.bind (R := R) hR.trans (hR.lift _) (fun p => ?_) w
  refine Moves.bind hR.trans (hR.resolve p.ofClass member _) fun found => ?_
  exact Moves.bind hR.trans (hR.lift _) hR.marshals

lemma dispatch {e : Event} (he : ∀ id t, e ≠ .makeExternal id t)
    (hn : ∀ callId t, e ≠ .nextExternal callId t) :
    Moves R (dispatch e : Dispatching S Obj (Option Answer)) := by
  cases e with
  | makeExternal id t => exact absurd rfl (he id t)
  | nextExternal callId t => exact absurd rfl (hn callId t)
  | externalCall callId t member args kwargs =>
    exact Moves.bind hR.trans (hR.callMember t member args kwargs) fun _ => Moves.pure hR.refl _
  | externalIsSubclass callId left right =>
    exact Moves.bind hR.trans hR.refl fun _ => Moves.pure hR.refl _
  | done _ | result _ _ => exact Moves.throw hR.refl _
  | _ =>
    exact Moves.bind hR.trans hR.refl fun _ =>
      Moves.bind hR.trans (hR.lift _) fun _ => Moves.pure hR.refl _

end Tolerates

end Tolerating

section Marshaling

lemma marshals_refl (w : Work (Recorded S) Obj) : w.Marshals w := Desk.Marshals.refl _

lemma marshals_trans {w w' w'' : Work (Recorded S) Obj} (h : w.Marshals w')
    (h' : w'.Marshals w'') : w.Marshals w'' :=
  Desk.Marshals.trans h h'

lemma marshal_marshals {m : Marshaling (Recorded S) Obj α} (hm : Moves Desk.Marshals m) :
    Moves Marshals (marshal m) :=
  fun w => hm w.desk

variable [IdSource S]

lemma tolerates_marshals : Tolerates fun w w' : Work (Recorded S) Obj => w.Marshals w' :=
  ⟨marshals_refl, marshals_trans, fun w _ => marshals_refl w,
    fun v => marshal_marshals (Marshal.toTerm_marshals v)⟩

lemma nextExternal_marshals (callId : UInt64) (iterable : Term) :
    Moves Marshals (nextExternal callId iterable : Dispatching (Recorded S) Obj _) := by
  unfold nextExternal
  refine Moves.bind marshals_trans ?_ fun c => ?_
  · refine Moves.bind marshals_trans marshals_refl fun w => ?_
    split
    · exact Moves.pure marshals_refl _
    · exact Moves.bind marshals_trans marshals_refl fun r =>
        Moves.bind marshals_trans (tolerates_marshals.lift _) fun _ => Moves.pure marshals_refl _
  refine Moves.bind marshals_trans marshals_refl fun w => ?_
  split
  · exact Moves.bind marshals_trans marshals_refl fun _ => Moves.pure marshals_refl _
  · refine Moves.bind marshals_trans marshals_refl fun _ => ?_
    refine Moves.bind marshals_trans (tolerates_marshals.lift _) fun v => ?_
    exact Moves.bind marshals_trans (tolerates_marshals.marshals v) fun _ =>
      Moves.pure marshals_refl _

lemma dispatch_marshals {e : Event} (he : ∀ id t, e ≠ .makeExternal id t) :
    Moves Marshals (dispatch e : Dispatching (Recorded S) Obj (Option Answer)) := by
  by_cases hn : ∃ callId t, e = .nextExternal callId t
  · obtain ⟨callId, t, rfl⟩ := hn
    exact Moves.bind marshals_trans (nextExternal_marshals callId t) fun _ =>
      Moves.pure marshals_refl _
  · exact tolerates_marshals.dispatch he fun callId t h => hn ⟨callId, t, h⟩

lemma dispatch_adds (e : Event) (w : Work (Recorded S) Obj) : ∃ drawn ids,
    (dispatch e w).2.host.source.record = w.host.source.record ++ drawn.map .drew ∧
      (w.registry.Frees drawn → w.registry.Frees ids) ∧
      (dispatch e w).2.own.allocated = w.own.allocated ++ ids ∧
      w.registry.Gains ids (dispatch e w).2.registry := by
  by_cases he : ∃ id t, e = .makeExternal id t
  · obtain ⟨id, t, rfl⟩ := he
    rcases makeExternal_cases id t w with ⟨e, h⟩ | ⟨r, h, hl, hr⟩
    · have hd : dispatch (.makeExternal id t) w = (.error e, w) := Failing.bind_error h
      rw [hd]
      exact ⟨[], [], (List.append_nil _).symm, fun h => h, (List.append_nil _).symm, .refl _⟩
    · have hd : dispatch (.makeExternal id t) w = (.ok none, _) := Failing.bind_ok h
      rw [hd]
      refine ⟨[], [id], (List.append_nil _).symm, fun _ => ⟨List.nodup_singleton id, ?_⟩, rfl, hr⟩
      intro x hx
      rw [List.mem_singleton.mp hx]
      exact hl
  · have he' (id : UInt64) (t : Term) : e ≠ .makeExternal id t := fun h => he ⟨id, t, h⟩
    obtain ⟨ids, hd⟩ := dispatch_marshals he' w
    exact ⟨ids, ids, hd.record, fun h => h, hd.allocated, hd.registry⟩

end Marshaling

end Dispatching

end PolicyBridge
