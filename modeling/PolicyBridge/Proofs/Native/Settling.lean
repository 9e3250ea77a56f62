import Mathlib.Tactic
import PolicyBridge.Proofs.Native.Turns
import PolicyBridge.Proofs.Wire.Events

/-! A query over a C library polled again and again: by each further poll all that was asked of the
host before has been answered, save for failures of which the library cannot be told. -/

namespace PolicyBridge

namespace Query

open Turn

variable {L Obj : Type} [Library L] {r : NativeRun L Obj} {p : Pointer}

def turnsUpTo : Nat → NativeRun L Obj → List Turn
  | 0, _ => []
  | n + 1, r => turn r :: if (poll r).1.isSome then [] else turnsUpTo n (poll r).2

/-- A stretch of a run: the calls made in it are those of its turns, and each turn but the last is
passed, as is the last one unless the query ended in it. -/
structure Stretch (p : Pointer) (r r' : NativeRun L Obj) (ts : List Turn) : Prop where
  calls : r'.calls = r.calls ++ ts.flatMap Turn.calls
  replies : ∀ t ∈ ts, t.calls = .polled p :: replies p t.asked
  passed : ∀ t ∈ ts.dropLast, t.Passed p
  goes : r'.query.state.isTerminal = true ∨ r'.query.handle = ⟨some p⟩ ∧ ∀ t ∈ ts, t.Passed p

namespace Stretch

variable {r' r'' : NativeRun L Obj} {ts us : List Turn}

omit [Library L] in
lemma refl (h : r.query.handle = ⟨some p⟩) : Stretch p r r [] where
  calls := (List.append_nil _).symm
  replies := List.forall_mem_nil _
  passed := List.forall_mem_nil _
  goes := .inr ⟨h, List.forall_mem_nil _⟩

omit [Library L] in
lemma trans (h : Stretch p r r' ts) (hp : ∀ t ∈ ts, t.Passed p) (h' : Stretch p r' r'' us) :
    Stretch p r r'' (ts ++ us) where
  calls := by rw [h'.calls, h.calls, List.flatMap_append, List.append_assoc]
  replies := List.forall_mem_append.mpr ⟨h.replies, h'.replies⟩
  passed := by
    rw [List.dropLast_append]
    split
    · exact h.passed
    · exact List.forall_mem_append.mpr ⟨hp, h'.passed⟩
  goes := h'.goes.imp_right fun ⟨hh, hu⟩ => ⟨hh, List.forall_mem_append.mpr ⟨hp, hu⟩⟩

omit [Library L] in
lemma ends (h : Stretch p r r' ts) (hc : r''.calls = r'.calls)
    (hs : r''.query.state.isTerminal = true) : Stretch p r r'' ts where
  calls := hc.trans h.calls
  replies := h.replies
  passed := h.passed
  goes := .inl hs

end Stretch

section Used

variable (h : r.query.handle = ⟨some p⟩) (hL : Library.Obliging L)

include h hL

lemma turnsUpTo_stretch (polls : Nat) :
    Stretch p r (pollUpTo polls r).2 (turnsUpTo polls r) := by
  induction polls generalizing r with
  | zero => exact .refl h
  | succ n ih =>
    have hg := poll_goes h hL
    have hc : (poll r).2.calls = r.calls ++ [turn r].flatMap Turn.calls := by
      rw [List.flatMap_singleton, turn_calls h hL, poll_calls h hL]
    have hr : ∀ t ∈ [turn r], t.calls = .polled p :: replies p t.asked :=
      List.forall_mem_singleton.mpr (turn_calls h hL)
    rw [pollUpTo_succ, turnsUpTo]
    generalize hy : (poll r).1 = y, hr' : (poll r).2 = r' at hg hc
    cases hg with
    | ended hs => exact ⟨hc, hr, List.forall_mem_nil _, .inl hs⟩
    | on hh ht =>
      have hp : ∀ t ∈ [turn r], t.Passed p := List.forall_mem_singleton.mpr ht
      have hs : Stretch p r r' [turn r] := ⟨hc, hr, List.forall_mem_nil _, .inr ⟨hh, hp⟩⟩
      cases y with
      | some x => exact hs
      | none => exact hs.trans hp (ih hh)

end Used

end Query

namespace Shared

variable {L Obj : Type}

def untraced (s : Shared (NativeEngine (Traced L)) Obj) : Shared (NativeEngine L) Obj :=
  ⟨⟨⟨s.host.source.library.inner, s.host.source.pointer⟩, s.host.registry, s.host.cache⟩,
    s.telemetry⟩

def traced (calls : List NativeCall) (s : Shared (NativeEngine L) Obj) :
    Shared (NativeEngine (Traced L)) Obj :=
  ⟨⟨⟨⟨s.host.source.library, calls⟩, s.host.source.pointer⟩, s.host.registry, s.host.cache⟩,
    s.telemetry⟩

end Shared

def Run.traced {L Obj : Type} (p : Pointer) (own : Dispatcher Obj)
    (shared : Shared (NativeEngine L) Obj) : NativeRun L Obj :=
  ⟨shared.traced [], Query.begin ⟨some p⟩ own⟩

namespace Query

open Turn

variable {L Obj : Type} [Library L] {r : NativeRun L Obj} {p : Pointer}

def used (r : NativeRun L Obj) : Use (NativeEngine L) Obj → NativeRun L Obj
  | .next polls => (next polls r).2
  | .close => (close r).2
  | .meanwhile f => { r with shared := (f r.shared.untraced).traced r.calls }

def turnsOf (r : NativeRun L Obj) : Use (NativeEngine L) Obj → List Turn
  | .next polls => if r.query.state.isTerminal then [] else turnsUpTo polls r
  | .close | .meanwhile _ => []

def turns (r : NativeRun L Obj) : List (Use (NativeEngine L) Obj) → List Turn
  | [] => []
  | u :: us => turnsOf r u ++ turns (used r u) us

lemma used_of_terminal (hs : r.query.state.isTerminal = true) (u : Use (NativeEngine L) Obj) :
    turnsOf r u = [] ∧ (used r u).calls = r.calls ∧ (used r u).query.state.isTerminal = true := by
  cases u with
  | next polls =>
    refine ⟨if_pos hs, ?_⟩
    rw [used, next_of_terminal hs]
    exact ⟨rfl, hs⟩
  | close =>
    refine ⟨rfl, ?_⟩
    rw [used, close_of_terminal hs, release_calls, release_state]
    exact ⟨rfl, hs⟩
  | meanwhile f => exact ⟨rfl, rfl, hs⟩

lemma turnsOf_once (hs : r.query.state.isTerminal = false) : turnsOf r (.next 1) = [turn r] := by
  rw [turnsOf, if_neg (by simp [hs]), turnsUpTo, turnsUpTo, ite_self]

lemma used_stretch (h : r.query.handle = ⟨some p⟩) (hL : Library.Obliging L)
    (u : Use (NativeEngine L) Obj) : Stretch p r (used r u) (turnsOf r u) := by
  cases u with
  | next polls =>
    rw [used, turnsOf]
    cases hs : r.query.state.isTerminal with
    | true =>
      rw [next_of_terminal hs]
      exact .refl h
    | false =>
      rw [next_of_active hs]
      exact turnsUpTo_stretch h hL polls
  | close =>
    have hr := Stretch.refl h
    cases hs : r.query.state.isTerminal with
    | true => exact hr.ends (used_of_terminal hs .close).2.1 (used_of_terminal hs .close).2.2
    | false =>
      rw [used, close_of_active hs]
      refine hr.ends (release_calls .abandoned _) ?_
      rw [release_state]
      rfl
  | meanwhile f =>
    exact ⟨(List.append_nil _).symm, List.forall_mem_nil _, List.forall_mem_nil _,
      .inr ⟨h, List.forall_mem_nil _⟩⟩

lemma turns_of_terminal (hs : r.query.state.isTerminal = true)
    (us : List (Use (NativeEngine L) Obj)) :
    turns r us = [] ∧ (us.foldl used r).calls = r.calls ∧
      (us.foldl used r).query.state.isTerminal = true := by
  induction us generalizing r with
  | nil => exact ⟨rfl, rfl, hs⟩
  | cons u us ih =>
    obtain ⟨ht, hc, hu⟩ := used_of_terminal hs u
    obtain ⟨ht', hc', hs'⟩ := ih hu
    exact ⟨by rw [turns, ht, ht', List.append_nil], hc'.trans hc, hs'⟩

lemma turns_stretch (h : r.query.handle = ⟨some p⟩) (hL : Library.Obliging L)
    (us : List (Use (NativeEngine L) Obj)) : Stretch p r (us.foldl used r) (turns r us) := by
  induction us generalizing r with
  | nil => exact .refl h
  | cons u us ih =>
    have hu := used_stretch h hL u
    -- Only the last turn of a query that has ended may be left open, and no turn comes after it.
    rcases hu.goes with hs | ⟨hh, hp⟩
    · obtain ⟨ht, hc, hs'⟩ := turns_of_terminal hs us
      rw [turns, ht, List.append_nil]
      exact hu.ends hc hs'
    · exact hu.trans hp (ih hh)

/-- Each time a query over a library that takes what it is sent is polled again, everything that was
asked of the host before has been answered once, or its failure told once; all but those failures
that do not end the query and whose text has a NUL, of which the library hears nothing. -/
theorem settled_before_polled (hL : Library.Obliging L) (p : Pointer) (own : Dispatcher Obj)
    (shared : Shared (NativeEngine L) Obj) (uses : List (Use (NativeEngine L) Obj)) :
    let r := Run.traced p own shared
    (uses.foldl used r).calls = (turns r uses).flatMap Turn.calls ∧
      ∀ earlier t later, turns r uses = earlier ++ t :: later →
        t.calls = .polled p :: replies p t.asked ∧
          ∀ s ∈ earlier, s.Settled p ∨ s.Untold p := by
  intro r
  have h := turns_stretch (r := r) (p := p) rfl hL uses
  refine ⟨h.calls, fun earlier t later ht => ?_⟩
  have hr := h.replies
  have hp := h.passed
  rw [ht] at hr hp
  rw [List.dropLast_append_of_ne_nil (List.cons_ne_nil t later)] at hp
  exact ⟨hr t (by simp), fun s hs => hp s (List.mem_append_left _ hs)⟩

end Query

structure Player where
  texts : List String
  given : String

namespace Player

instance : Library Player where
  newEngine := pure (some 0)
  freeEngine _ := pure ()
  load _ _ := pure true
  clearRules _ := pure true
  registerConstant _ _ _ := pure true
  externalId _ := pure 1
  newQueryFromTerm _ _ := pure (some 0)
  newQuery _ _ := pure (some 0)
  bind _ _ _ := pure true
  nextQueryEvent _ := fun l =>
    match l.texts with
    | [] => (none, l)
    | t :: ts => (some 0, ⟨ts, t⟩)
  callResult _ _ _ := pure true
  applicationError _ _ := pure true
  freeQuery _ := pure true
  getError := pure none
  readString _ := fun l => (l.given.toUTF8.toList, l)
  freeString _ := pure ()

lemma obliging : Library.Obliging Player := ⟨fun _ _ _ _ => rfl, fun _ _ _ => rfl⟩

lemma nextEvent_played {e : Event} (ts : List String) (g : String) (cs : List NativeCall)
    (p q : Pointer) (hp : e.Proper) (hd : e.json.depth ≤ Json.depthLimit)
    (ht : Text.decodeLossy e.text.toUTF8.toList = e.text) :
    (Engine.nextEvent ⟨some p⟩ : EngineCall (NativeEngine (Traced Player)) Event)
      ⟨⟨⟨e.text :: ts, g⟩, cs⟩, q⟩ = (.ok e, ⟨⟨⟨ts, e.text⟩, cs ++ [.polled p]⟩, q⟩) := by
  have hr : Event.ofText? e.text = some e := by
    rw [Event.ofText?, Event.text, Json.read?_write, Option.bind_some, Event.json_reads hp,
      if_pos hd]
  have hn : (Engine.nextEvent ⟨some p⟩ : EngineCall (NativeEngine (Traced Player)) Event)
      ⟨⟨⟨e.text :: ts, g⟩, cs⟩, q⟩ =
        (NativeEngine.decodeEvent (Text.decodeLossy e.text.toUTF8.toList) :
          EngineCall (NativeEngine (Traced Player)) Event)
          ⟨⟨⟨ts, e.text⟩, cs ++ [.polled p]⟩, q⟩ := rfl
  rw [hn, ht, NativeEngine.decodeEvent, hr]
  rfl

end Player

namespace Query

open NativeEngine (resultText)

def oddError : Error := .marshal "odd\x00text" none

def odd : Event := .makeExternal 7 (.call "User" [] none)

def users : Registry Unit :=
  Registry.empty.registerClass
    ((Class.forType "User" ⟨"Alpha"⟩).withConstructor fun _ => .failed oddError)

def playing (ts : List String) (g : String) (cs : List NativeCall) (s : QueryState) :
    NativeRun Player Unit :=
  ⟨⟨⟨⟨⟨⟨ts, g⟩, cs⟩, 0⟩, users, none⟩, none⟩, ⟨⟨some 5⟩, .fresh, s, false⟩⟩

section Sample

variable (ts : List String) (g : String) (cs : List NativeCall) (s : QueryState)

lemma heard_playing {e : Event} (hp : e.Proper) (hd : e.json.depth ≤ Json.depthLimit)
    (ht : Text.decodeLossy e.text.toUTF8.toList = e.text) :
    heard (playing (e.text :: ts) g cs s) = .ok e ∧
      polled (playing (e.text :: ts) g cs s) =
        playing ts e.text (cs ++ [.polled 5]) .waitingEvent := by
  have hn := Player.nextEvent_played ts g cs 5 0 hp hd ht
  refine ⟨congrArg Prod.fst hn, ?_⟩
  have hw : polled (playing (e.text :: ts) g cs s) = withEngine
    ((Engine.nextEvent ⟨some 5⟩ : EngineCall (NativeEngine (Traced Player)) Event)
      ⟨⟨⟨e.text :: ts, g⟩, cs⟩, 0⟩).2 (playing (e.text :: ts) g cs .waitingEvent) := rfl
  rw [hw, hn]
  rfl

set_option maxRecDepth 4000 in
lemma poll_odd :
    poll (playing (odd.text :: ts) g cs s) = (some (.item (.error oddError)),
      playing ts odd.text (cs ++ [.polled 5]) .waitingEvent) ∧
      turn (playing (odd.text :: ts) g cs s) = ⟨some (odd, .error oddError), [.polled 5]⟩ := by
  obtain ⟨hh, hp⟩ := heard_playing ts g cs s (e := odd)
    (by simp [odd, Event.Proper, Term.Proper, Term.ProperAll, Term.ProperKeywords])
    (by decide) (by decide +kernel)
  let r := playing ts odd.text (cs ++ [.polled 5]) .waitingEvent
  have hd : Dispatching.dispatch odd (work (awaiting r)) = (.error oddError, work r) := rfl
  have hn : '\x00' ∈ oddError.display.toList := by decide +kernel
  have hc := NativeEngine.report_of_nul 5 hn r.shared.host.source
  have ha := (answer_of_error hd).trans
    (congrArg (fun e => ((.error oddError : Except Error Unit), withEngine e (awaiting r))) hc)
  constructor
  · rw [poll_of_event hh, hp, onEvent_of_failed rfl ha, recoverOrFail_of_not_fatal rfl]
    rfl
  · rw [turn_eq rfl Player.obliging, asked_of_external hh rfl, hp, hd, Turn.replies, if_pos hn]

lemma turn_done :
    turn (playing (Event.text (.done true) :: ts) g cs s) = ⟨none, [.polled 5]⟩ := by
  obtain ⟨hh, -⟩ := heard_playing ts g cs s (e := .done true) trivial (by decide)
    (by decide +kernel)
  rw [turn_eq rfl Player.obliging, asked_of_internal hh rfl, Turn.replies]

end Sample

def oddHost : Shared (NativeEngine Player) Unit :=
  ⟨⟨⟨⟨[odd.text, Event.text (.done true)], ""⟩, 0⟩, users, none⟩, none⟩

lemma turns_odd : turns (Run.traced 5 .fresh oddHost) [.next 1, .next 1] =
    [⟨some (odd, .error oddError), [.polled 5]⟩, ⟨none, [.polled 5]⟩] := by
  obtain ⟨hp, ht⟩ := poll_odd [Event.text (.done true)] "" [] .idle
  have hd := turn_done [] odd.text [.polled 5] .waitingEvent
  have h0 : Run.traced 5 .fresh oddHost =
      playing [odd.text, Event.text (.done true)] "" [] .idle := rfl
  have hu : used (playing [odd.text, Event.text (.done true)] "" [] .idle) (.next 1) =
      playing [Event.text (.done true)] odd.text [.polled 5] .waitingEvent := by
    rw [used, next_of_active rfl, pollUpTo_succ, hp]
    rfl
  rw [h0, turns, hu, turns, turns, turnsOf_once rfl, turnsOf_once rfl, ht, hd]
  rfl

theorem settled_before_polled_odd :
    ([.next 1, .next 1].foldl used (Run.traced 5 .fresh oddHost)).calls = [.polled 5, .polled 5] ∧
      (Turn.Settled 5 ⟨some (odd, .error oddError), [.polled 5]⟩ ∨
        Turn.Untold 5 ⟨some (odd, .error oddError), [.polled 5]⟩) := by
  obtain ⟨hc, ht⟩ := settled_before_polled Player.obliging 5 .fresh oddHost [.next 1, .next 1]
  rw [turns_odd] at hc ht
  exact ⟨hc, (ht [_] _ [] rfl).2 _ (List.mem_singleton_self _)⟩

/-- The engine is polled again with a user still asked for: it hears nothing of the failure. -/
theorem odd_failure_untold :
    Library.Obliging Player ∧
      ¬ ∀ earlier t later, turns (Run.traced 5 .fresh oddHost) [.next 1, .next 1] =
        earlier ++ t :: later → ∀ s ∈ earlier, s.Settled 5 := by
  refine ⟨Player.obliging, fun h => ?_⟩
  obtain ⟨cs, hc, hs⟩ := h [_] _ [] turns_odd _ (List.mem_singleton_self _)
  cases hc
  cases hs

end Query

end PolicyBridge
