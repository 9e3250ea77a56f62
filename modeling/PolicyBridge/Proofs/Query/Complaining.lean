import Mathlib.Tactic
import PolicyBridge.Proofs.Dispatch.Arising
import PolicyBridge.Proofs.Query.Steps
import PolicyBridge.Proofs.Taped

namespace PolicyBridge

variable {E Q Obj : Type}

namespace Query

open Dispatching

variable [Engine E Q]

/-- In so many polls the event comes up, and host code runs in answering it. -/
inductive Meets : Run E Q Obj → Nat → Event → HostRun → Prop
  | now {r : Run E Q Obj} {n : Nat} {event : Event} {h : HostRun} :
      ((Engine.nextEvent r.query.handle : EngineCall E Event) r.shared.host.source).1 = .ok event →
        Runs (work (polled r)) event h → Meets r (n + 1) event h
  | later {r : Run E Q Obj} {n : Nat} {event : Event} {h : HostRun} :
      (poll r).1 = none → Meets (poll r).2 n event h → Meets r (n + 1) event h

structure Gives (x : Error) (p : Progress Obj) (r : Run E Q Obj) : Prop where
  item : p = .item (.error x)
  ended : r.query.state.isTerminal = x.isQueryFatal
  released : x.isQueryFatal = true → r.query.state = .errored ∧ r.query.released = true

lemma recoverOrFail_gives (x : Error) (r : Run E Q Obj) :
    Gives x (.item (.error x)) (recoverOrFail x r).2 := by
  cases hx : x.isQueryFatal with
  | true =>
    rw [recoverOrFail_of_fatal hx]
    have hs := fail_state x r
    exact ⟨rfl, by rw [hs, hx]; rfl, fun _ => ⟨hs, release_released _ _⟩⟩
  | false =>
    rw [recoverOrFail_of_not_fatal hx]
    exact ⟨rfl, by rw [hx]; rfl, by rw [hx]; exact nofun⟩

lemma isExternal_of_runs {w : Work E Obj} {event : Event} {h : HostRun} (hr : Runs w event h) :
    event.isExternal = true := by
  cases hr <;> rfl

lemma poll_of_run {r : Run E Q Obj} {event : Event} {h : HostRun} {x : Error}
    (ha : ((Engine.nextEvent r.query.handle : EngineCall E Event) r.shared.host.source).1 = .ok event)
    (hr : Runs (work (polled r)) event h) (hx : h.Fails x) :
    ∃ p, (poll r).1 = some p ∧ Gives x p (poll r).2 := by
  obtain ⟨cache, own, hd, -⟩ := hr.leaves hx
  have hf := answer_of_error (r := awaiting (polled r)) hd
  rw [poll_of_event ha, onEvent_of_failed (isExternal_of_runs hr) hf]
  exact ⟨_, rfl, recoverOrFail_gives x _⟩

lemma pollUpTo_of_meets {r : Run E Q Obj} {n : Nat} {event : Event} {h : HostRun} {x : Error}
    (hm : Meets r n event h) (hx : h.Fails x) : Gives x (pollUpTo n r).1 (pollUpTo n r).2 := by
  induction hm with
  | now ha hr =>
    obtain ⟨p, hp, hg⟩ := poll_of_run ha hr hx
    rw [pollUpTo_succ, hp]
    exact hg
  | later hn _ ih =>
    rw [pollUpTo_succ, hn]
    exact ih hx

lemma pollUpTo_origin {r : Run E Q Obj} {n : Nat} {x : Error}
    (hx : (pollUpTo n r).1 = .item (.error x)) :
    (∃ f : Fault, x = f.queryError) ∨ x.IsRefusal ∨ ∃ event h, Meets r n event h ∧ h.Fails x := by
  induction n generalizing r with
  | zero => cases hx
  | succ n ih =>
    generalize ha : ((Engine.nextEvent r.query.handle : EngineCall E Event)
      r.shared.host.source).1 = a
    have hp := poll_cases ha
    rw [pollUpTo_succ] at hx
    cases hn : (poll r).1 with
    | none =>
      rw [hn] at hx
      exact (ih hx).imp_right (.imp_right fun ⟨event, h, hm, hf⟩ => ⟨event, h, .later hn hm, hf⟩)
    | some p =>
      rw [hn] at hx hp
      obtain rfl : p = .item (.error x) := hx
      generalize (poll r).2 = r' at hp
      cases hp with
      | fault f => exact .inl ⟨f, rfl⟩
      | unreadable hb => exact .inr (.inl (Marshal.fromFields_refuses _ _ x hb))
      | @failed event e r' he hr =>
        rcases hd : Dispatching.dispatch event (work (awaiting (polled r))) with ⟨e | _ | a, w⟩
        · rw [answer_of_error hd] at hr
          obtain rfl : e = x := Except.error.inj (congrArg Prod.fst hr)
          refine .inr ((dispatch_arises event (work (polled r)) e (congrArg Prod.fst hd)).imp_right ?_)
          exact fun ⟨h, hrun, hf⟩ => ⟨event, h, .now ha hrun, hf⟩
        · rw [answer_of_nothing hd] at hr
          cases hr
        · rw [answer_of_answer hd] at hr
          have hf := congrArg Prod.fst hr
          dsimp only at hf
          generalize ((Engine.answerCall (awaiting (polled r)).query.handle a.callId a.result :
            EngineCall E Unit) w.host.source).1 = y at hf
          cases y with
          | ok u => cases hf
          | error f => exact .inl ⟨f, (Except.error.inj hf).symm⟩

/-- Host code that raises an error or panics fails its event with an application error that has the
text and the names of the code, and application errors come from nowhere else. Errors of other kinds
that host code hands back pass as they are. The query that asked for the event gives that error, and
it has ended then unless what was handed back is not fatal. -/
theorem complaint_ends_query :
    (∀ (w : Work E Obj) (event : Event) (m : String) (c k : Option String),
      (Dispatching.dispatch event w).1 = .error (.application m c k) ↔
        ∃ h, Runs w event h ∧ h.outcome.complaint? = some m ∧ c = some h.className ∧
          k = some h.member) ∧
    (∀ (w : Work E Obj) (event : Event) (h : HostRun) (x : Error), Runs w event h →
      h.outcome = .failed x → isApplication x = false →
        (Dispatching.dispatch event w).1 = .error x) ∧
    ∀ (r : Run E Q Obj) (n : Nat) (event : Event) (h : HostRun),
      r.query.state.isTerminal = false → Meets r n event h →
      (∀ m, h.outcome.complaint? = some m →
        (next n r).1 = .item (.error (.application m (some h.className) (some h.member))) ∧
          (next n r).2.query.state = .errored ∧ (next n r).2.query.released = true) ∧
      ∀ x, h.outcome = .failed x → isApplication x = false →
        (next n r).1 = .item (.error x) ∧
          (next n r).2.query.state.isTerminal = x.isQueryFatal := by
  have hb (h : HostRun) (x : Error) (ho : h.outcome = .failed x) (hx : isApplication x = false) :
      h.Fails x := by
    rw [HostRun.Fails, ho]
    exact Outcome.guarded_of_failed (by rintro m a b rfl; cases hx)
  refine ⟨fun w event m c k => ⟨fun hd => ?_, ?_⟩, fun w event h x hr ho hx => ?_,
    fun r n event h hs hm => ⟨fun m hc => ?_, fun x ho hx => ?_⟩⟩
  · rcases dispatch_arises event w _ hd with hx | ⟨h, hr, hx⟩
    · exact hx.elim
    · exact ⟨h, hr, Outcome.guarded_eq_application.mp hx⟩
  · rintro ⟨h, hr, hc⟩
    obtain ⟨cache, own, hd, -⟩ := hr.leaves (Outcome.guarded_eq_application.mpr hc)
    rw [hd]
  · obtain ⟨cache, own, hd, -⟩ := hr.leaves (hb h x ho hx)
    rw [hd]
  · rw [next_of_active hs]
    obtain ⟨hi, -, he⟩ := pollUpTo_of_meets hm
      (Outcome.guarded_eq_application.mpr ⟨hc, rfl, rfl⟩)
    exact ⟨hi, he rfl⟩
  · rw [next_of_active hs]
    obtain ⟨hi, he, -⟩ := pollUpTo_of_meets hm (hb h x ho hx)
    exact ⟨hi, he⟩

section Samples

def making : Event := .makeExternal 7 (.call "User" [] none)

def user (o : Outcome Unit) : Class Unit :=
  (Class.forType "User" ⟨"Alpha"⟩).withConstructor fun _ => o

def asking (o : Outcome Unit) : Run Tape Unit Unit :=
  ⟨⟨⟨⟨⟨2⟩, [making]⟩, Registry.empty.registerClass (user o), none⟩, none⟩, begin () .fresh⟩

lemma asking_meets (o : Outcome Unit) :
    Meets (asking o) 1 making ⟨.constructor, "User", "new", o.bare⟩ :=
  .now rfl (.constructor (c := user o) (f := fun _ => o) rfl rfl rfl rfl)

theorem complaint_ends_query_user :
    let r := asking (.raised "no such user")
    Meets r 1 making ⟨.constructor, "User", "new", .raised "no such user"⟩ ∧
      (next 1 r).1 = .item (.error (.application "no such user" (some "User") (some "new"))) ∧
        (next 1 r).2.query.state = .errored ∧ (next 1 r).2.query.released = true := by
  have hm := asking_meets (.raised "no such user")
  exact ⟨hm, (complaint_ends_query.2.2 _ 1 making _ rfl hm).1 "no such user" rfl⟩

/-- A constructor that hands back a marshal error raises no application error, and its query goes
on. -/
theorem handed_back_error_passes :
    ¬ ∀ (r : Run Tape Unit Unit) (n : Nat) (event : Event) (h : HostRun) (x : Error),
      r.query.state.isTerminal = false → Meets r n event h → h.outcome = .failed x →
        (next n r).1 = .item (.error (.application x.message (some h.className) (some h.member))) ∧
          (next n r).2.query.state.isTerminal = true := by
  intro h
  have hm := asking_meets (.failed (.marshal "no such user" none))
  obtain ⟨-, he⟩ := h _ 1 making _ (.marshal "no such user" none) rfl hm rfl
  cases he

end Samples

end Query

end PolicyBridge
