import Mathlib.Tactic
import PolicyBridge.Proofs.Marshal.Standing
import PolicyBridge.Proofs.Session.Forgetting
import PolicyBridge.Proofs.Session.Steps
import PolicyBridge.Session.Builder

/-! What the operations of a session other than its queries come to: the engine is called, ids are
drawn from it, and what the host keeps changes. A relation with these steps has the operations. -/

namespace PolicyBridge

variable {E Q Obj α : Type}

namespace Session

open Failing

/-- It has all changes of anything but the engine and the counters, and these calls of the engine. -/
structure StepClosed (Q : Type) [Engine E Q] (R : Session E Obj → Session E Obj → Prop) : Prop where
  trans : ∀ {a b c}, R a b → R b c → R a c
  aside : ∀ {s s' : Session E Obj}, s'.shared.host.source = s.shared.host.source →
    s'.shared.telemetry = s.shared.telemetry → R s s'
  next : ∀ s : Session E Obj, R s (s.withSource (IdSource.next s.shared.host.source).2)
  load : ∀ (s : Session E Obj) sources,
    R s (s.withSource ((Engine.load sources : EngineCall E Unit) s.shared.host.source).2)
  clearRules : ∀ s : Session E Obj,
    R s (s.withSource ((Engine.clearRules : EngineCall E Unit) s.shared.host.source).2)
  bind : ∀ (s : Session E Obj) name t,
    R s (s.withSource ((Engine.registerConstant name t : EngineCall E Unit) s.shared.host.source).2)

lemma engine_moves {R : Session E Obj → Session E Obj → Prop} (f : Fault → Error)
    {c : EngineCall E α} (hc : ∀ s, R s (s.withSource (c s.shared.host.source).2)) :
    Moves R (engine f c : InSession E Obj α) := by
  intro s
  rw [engine_eq]
  exact hc s

namespace StepClosed

variable [Engine E Q] {R : Session E Obj → Session E Obj → Prop} (h : StepClosed Q R)
  {s : Session E Obj} {m : InSession E Obj α}

include h

lemma refl (s : Session E Obj) : R s s := h.aside rfl rfl

lemma forM {f : α → InSession E Obj Unit} (hf : ∀ a, Moves R (f a)) (as : List α) :
    Moves R (as.forM f) := by
  induction as with
  | nil => exact h.refl
  | cons a as ih => exact Moves.bind h.trans (hf a) fun _ => ih

lemma orRelease (ids : List UInt64) (hm : Moves R m) : Moves R (orRelease ids m) := by
  intro s
  have hs := hm s
  rcases hx : m s with ⟨e | a, s'⟩ <;> rw [hx] at hs
  · rw [orRelease_of_error hx]
    exact h.trans hs (h.aside rfl rfl)
  · rw [orRelease_of_ok hx]
    exact hs

lemma releaseInstance (id : UInt64) : Moves R (releaseInstance id : InSession E Obj Unit) := by
  refine Moves.bind h.trans h.refl fun s => ?_
  exact Moves.bind h.trans h.refl fun _ s => h.aside rfl rfl

lemma registerInstance (i : Instance Obj) :
    Moves R (registerInstance i : InSession E Obj UInt64) :=
  fun s => h.trans (h.next s) (h.aside rfl rfl)

lemma loads (f : Fault → Error) (sources : List Source) :
    Moves R (engine f (Engine.load sources) : InSession E Obj Unit) :=
  engine_moves f fun s => h.load s sources

lemma clears : Moves R (Session.clearRules : InSession E Obj Unit) :=
  engine_moves _ h.clearRules

lemma loadFiles (fs : Files) (paths : List String) :
    Moves R (loadFiles fs paths : InSession E Obj Unit) := by
  refine Moves.bind h.trans h.refl fun s => ?_
  exact Moves.bind h.trans h.refl fun sources => h.loads _ sources

lemma bindConstant (name : String) (t : Term) (ids : List UInt64) :
    Moves R (bindConstant name t ids : InSession E Obj Unit) :=
  Moves.bind h.trans (engine_moves _ fun s => h.bind s name t) fun _ _ => h.aside rfl rfl

lemma registerClass [ClassObject Obj] (c : Class Obj) :
    Moves R (registerClass c : InSession E Obj Unit) := by
  intro s
  rw [registerClass_eq]
  have he : R s (s.enrolled c) := h.trans (h.next s) (h.aside rfl rfl)
  exact h.trans he (h.bindConstant _ _ _ _)

lemma of_takes {n : Nat} {d : Desk E Obj} (hd : Desk.Takes n s.desk d) : R s (s.withDesk d) := by
  have draws (n : Nat) (s : Session E Obj) :
      R s (s.withSource (IdSource.after n s.shared.host.source)) := by
    induction n generalizing s with
    | zero => exact h.refl s
    | succ n ih => exact h.trans (h.next s) (ih _)
  exact h.trans (draws n s) (h.aside hd.source rfl)

lemma registerConstant (name : String) (v : HostValue Obj) :
    Moves R (registerConstant name v : InSession E Obj Unit) := by
  intro s
  obtain ⟨n, -, ht⟩ := Marshal.toTerm_takes v s.desk
  refine h.trans (h.of_takes ht) ?_
  rw [registerConstant_eq rfl]
  refine h.orRelease _ ?_ _
  exact Moves.bind h.trans h.refl fun t => h.bindConstant name t _

lemma prepare [ClassObject Obj] (fs : Files) (p : SessionPlan Obj) :
    Moves R (p.prepare fs : InSession E Obj Unit) := by
  have hl : Moves R (SessionPlan.loadAll fs (p.settings.policy.files ++ p.files) :
      InSession E Obj Unit) := by
    unfold SessionPlan.loadAll
    split
    · exact h.refl
    · exact h.loadFiles _ _
  refine Moves.bind h.trans (h.forM h.registerClass _) fun _ => ?_
  exact Moves.bind h.trans hl fun _ => h.forM (fun t => h.loads _ [⟨t, none⟩]) _

end StepClosed

end Session

end PolicyBridge
