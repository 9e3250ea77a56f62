import Mathlib.Tactic
import PolicyBridge.Proofs.Query.History

/-! What a query is to do, as a plain fold over its engine's events: which calls it makes to the
engine, and which items it gives out between them. -/

namespace PolicyBridge

variable {E Q Obj : Type}

def Event.callId? : Event → Option UInt64
  | .done _ | .result .. | .makeExternal .. => none
  | .externalCall id .. | .externalIsa id .. | .externalIsSubSpecializer id ..
  | .externalIsSubclass id .. | .externalUnify id .. | .externalOp id .. | .nextExternal id _ =>
    some id

inductive Mark (Obj : Type) where
  | call (x : Exchange)
  | item (i : Item Obj)

namespace Reference

def ends : Item Obj → Bool
  | .error (.protocol _) => true
  | .error (.resource ..) => true
  | .error (.application ..) => true
  | _ => false

def withSource (e : E) (w : Work E Obj) : Work E Obj := ⟨{ w.host with source := e }, w.own⟩

/-- What one event comes to: the calls made, the item given out, and the state that is left. -/
structure Upshot (E Obj : Type) where
  calls : List Exchange
  item : Option (Item Obj)
  work : Work E Obj

variable [Engine E Q]

def failed : Except Fault Unit → Option (Item Obj)
  | .ok () => none
  | .error f => some (.error f.queryError)

def reply (q : Q) (event : Event) (w : Work E Obj) : Upshot E Obj :=
  match Dispatching.dispatch event w with
  | (.error e, w) =>
    let (o, s) := (Engine.answerApplicationError q e.display : EngineCall E Unit) w.host.source
    ⟨[.reported e.display o], some (.error e), withSource s w⟩
  | (.ok a, w) =>
    match event.callId? with
    | none => ⟨[], none, w⟩
    | some id =>
      let (o, s) := (Engine.answerCall q id (a.bind Answer.result) : EngineCall E Unit) w.host.source
      ⟨[.answered id (a.bind Answer.result) o], failed o, withSource s w⟩

section Reply

variable {q : Q} {event : Event} {w w' : Work E Obj}

lemma reply_of_error {e : Error} (h : Dispatching.dispatch event w = (.error e, w')) :
    reply q event w =
      let x := (Engine.answerApplicationError q e.display : EngineCall E Unit) w'.host.source
      ⟨[.reported e.display x.1], some (.error e), withSource x.2 w'⟩ := by
  unfold reply
  rw [h]
  rfl

lemma reply_of_nothing {a : Option Answer} (h : Dispatching.dispatch event w = (.ok a, w'))
    (hc : event.callId? = none) : reply q event w = ⟨[], none, w'⟩ := by
  unfold reply
  rw [h, hc]

lemma reply_of_answer {a : Answer} (h : Dispatching.dispatch event w = (.ok (some a), w'))
    (hc : event.callId? = some a.callId) :
    reply q event w =
      let x := (Engine.answerCall q a.callId a.result : EngineCall E Unit) w'.host.source
      ⟨[.answered a.callId a.result x.1], failed x.1, withSource x.2 w'⟩ := by
  unfold reply
  rw [h, hc]
  rfl

end Reply

def upshot (q : Q) (event : Event) (w : Work E Obj) : Upshot E Obj :=
  match event with
  | .result bindings _ => ⟨[], some ((Marshal.fromBindings w.registry bindings).map ResultSet.mk), w⟩
  | event => reply q event w

/-- The calls and items of so many events. -/
def fold (q : Q) : Nat → Work E Obj → List (Mark Obj)
  | 0, _ => []
  | n + 1, w =>
    let (a, s) := (Engine.nextEvent q : EngineCall E Event) w.host.source
    .call (.polled a) :: match a with
    | .error f => [.item (.error f.queryError)]
    | .ok (.done _) => []
    | .ok event =>
      let u := upshot q event (withSource s w)
      u.calls.map .call ++ match u.item with
      | none => fold q n u.work
      | some i => .item i :: if ends i then [] else fold q n u.work

def after (q : Q) (n : Nat) (i? : Option (Item Obj)) (w : Work E Obj) : List (Mark Obj) :=
  match i? with
  | none => fold q n w
  | some i => .item i :: if ends i then [] else fold q n w

section Fold

variable {q : Q} {w : Work E Obj} {e : E} {n : Nat}

lemma fold_of_fault {f : Fault}
    (h : (Engine.nextEvent q : EngineCall E Event) w.host.source = (.error f, e)) :
    fold q (n + 1) w = [.call (.polled (.error f)), .item (.error f.queryError)] := by
  simp only [fold, h]

lemma fold_of_done {b : Bool}
    (h : (Engine.nextEvent q : EngineCall E Event) w.host.source = (.ok (.done b), e)) :
    fold q (n + 1) w = [.call (.polled (.ok (.done b)))] := by
  simp only [fold, h]

lemma fold_of_event {event : Event} (he : ∀ b, event ≠ .done b)
    (h : (Engine.nextEvent q : EngineCall E Event) w.host.source = (.ok event, e)) :
    fold q (n + 1) w =
      let u := upshot q event (withSource e w)
      .call (.polled (.ok event)) :: (u.calls.map .call ++ after q n u.item u.work) := by
  simp only [fold, h]
  cases event with
  | done b => exact absurd rfl (he b)
  | _ => rfl

end Fold

end Reference

end PolicyBridge
