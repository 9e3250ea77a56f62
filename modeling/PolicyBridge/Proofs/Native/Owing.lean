import Mathlib.Tactic
import PolicyBridge.Proofs.Native.Watching

/-! What an engine owes its library from some point on: the queries that are out. Each operation
gives back all the rest that it is given, also when it fails. -/

namespace PolicyBridge

open Passage

structure Since where
  engine : Pointer
  passed : List Passage
  out : Multiset Pointer

namespace NativeEngine

variable {L α β : Type} {b : Since} {out own : Multiset Pointer} {e f : NativeEngine (Watched L)}

/-- These queries are out, and all else that was given out since then has been given back. -/
structure Owes (b : Since) (out : Multiset Pointer) (e : NativeEngine (Watched L)) : Prop where
  engine : e.pointer = b.engine
  passes : ∃ xs, e.library.passed = b.passed ++ xs ∧ Passes b.engine b.out xs out

lemma Owes.refl (e : NativeEngine (Watched L)) (out : Multiset Pointer) :
    Owes ⟨e.pointer, e.library.passed, out⟩ out e :=
  ⟨rfl, [], (List.append_nil _).symm, .nothing⟩

lemma Owes.passing {ys : List Passage} {now : Multiset Pointer} (h : Owes b out e)
    (hp : f.pointer = e.pointer) (hx : f.library.passed = e.library.passed ++ ys)
    (hy : ∀ xs, Passes b.engine b.out xs out → Passes b.engine b.out (xs ++ ys) now) :
    Owes b now f := by
  obtain ⟨he, xs, hxs, hout⟩ := h
  exact ⟨hp.trans he, xs ++ ys, by rw [hx, hxs, List.append_assoc], hy xs hout⟩

def Keeps (own : Multiset Pointer) (m : StateM (NativeEngine (Watched L)) α) : Prop :=
  ∀ b out e, own ≤ out → Owes b out e → Owes b out (m e).2

namespace Keeps

lemma pure (a : α) : Keeps own (pure a : StateM (NativeEngine (Watched L)) α) :=
  fun _ _ _ _ h => h

lemma succeed (a : α) : Keeps own (Pure.pure a : EngineCall (NativeEngine (Watched L)) α) :=
  fun _ _ _ _ h => h

lemma throw (f : Fault) : Keeps own (throw f : EngineCall (NativeEngine (Watched L)) α) :=
  fun _ _ _ _ h => h

lemma bind {m : StateM (NativeEngine (Watched L)) α} {f : α → StateM (NativeEngine (Watched L)) β}
    (hm : Keeps own m) (hf : ∀ a, Keeps own (f a)) : Keeps own (m >>= f) :=
  fun b out e ho h => hf (m e).1 b out (m e).2 ho (hm b out e ho h)

lemma attempt {m : EngineCall (NativeEngine (Watched L)) α}
    {f : α → EngineCall (NativeEngine (Watched L)) β} (hm : Keeps own m)
    (hf : ∀ a, Keeps own (f a)) : Keeps own (m >>= f : EngineCall (NativeEngine (Watched L)) β) := by
  refine bind (f := ExceptT.bindCont f) hm fun a => ?_
  cases a with
  | error f => exact pure _
  | ok a => exact hf a

end Keeps

lemma run_consults {m : Pointer → StateM (Watched L) α}
    (h : ∀ p w, (m p w).2.passed = w.passed ++ [.consulted p]) : Keeps own (run m) := by
  intro b out e _ ho
  refine ho.passing (f := ⟨(m e.pointer e.library).2, e.pointer⟩) rfl (h _ _) fun xs hx => ?_
  rw [ho.engine]
  exact .consulted hx

lemma run_uses {q : Pointer} {m : Pointer → StateM (Watched L) α}
    (h : ∀ p w, (m p w).2.passed = w.passed ++ [.used q]) : Keeps {q} (run m) := by
  intro b out e hq ho
  exact ho.passing (f := ⟨(m e.pointer e.library).2, e.pointer⟩) rfl (h _ _) fun xs hx =>
    .used (Multiset.singleton_le.mp hq) hx

lemma encode_keeps (c : Except Fault CText) :
    Keeps own (encode c : EngineCall (NativeEngine (Watched L)) CText) :=
  fun _ _ _ _ h => h

end NativeEngine

def NativeQuery.out (q : NativeQuery) : Multiset Pointer := q.pointer.elim 0 fun p => {p}

namespace NativeEngine

variable {L α : Type} {b : Since} {out own : Multiset Pointer} {e : NativeEngine (Watched L)}

lemma live_bind_keeps (q : NativeQuery) {f : Pointer → EngineCall (NativeEngine (Watched L)) α}
    (hf : ∀ p, Keeps {p} (f p)) : Keeps q.out (live q >>= f : EngineCall _ α) := by
  obtain ⟨_ | p⟩ := q
  · exact Keeps.throw .freed
  · exact hf p

lemma decodeEvent_keeps (text : String) :
    Keeps own (decodeEvent text : EngineCall (NativeEngine (Watched L)) Event) := by
  unfold decodeEvent
  cases Event.ofText? text with
  | some x => exact Keeps.succeed x
  | none => exact Keeps.throw (.malformedEvent text)

variable [Library L]

lemma takeString_passed (s : Pointer) (w : Watched L) :
    (takeString s w).2.passed = w.passed ++ [.read s, .returned s] := by
  have hp : (takeString s w).2.passed = w.passed ++ [.read s] ++ [.returned s] := rfl
  rw [hp, List.append_assoc]
  rfl

lemma lastFault_passed (w : Watched L) :
    ∃ s : Option Pointer, (lastFault w).2.passed = w.passed ++ s.elim [] visit := by
  have hp : (Library.getError w).2.passed =
      w.passed ++ Watched.given .lent (Library.getError w.inner).1 := rfl
  rcases hg : (Library.getError w : Option Pointer × Watched L) with ⟨s, w'⟩
  have hs : (Library.getError w.inner).1 = s := congrArg Prod.fst hg
  rw [hg, hs] at hp
  refine ⟨s, ?_⟩
  cases s with
  | none =>
    have hl : (lastFault w).2 = w' := by
      simp only [lastFault, bind, StateT.bind, hg]
      rfl
    rw [hl]
    exact hp
  | some s =>
    have hl : (lastFault w).2 = (takeString s w').2 := by
      simp only [lastFault, bind, StateT.bind, hg]
      rfl
    rw [hl, takeString_passed, hp, List.append_assoc]
    rfl

lemma lastFault_keeps :
    Keeps own (onLibrary lastFault : StateM (NativeEngine (Watched L)) Fault) := by
  intro b out e _ ho
  obtain ⟨s, hs⟩ := lastFault_passed e.library
  refine ho.passing (f := ⟨(lastFault e.library).2, e.pointer⟩) rfl hs fun xs hx => ?_
  cases s with
  | none => rwa [Option.elim_none, List.append_nil]
  | some s => exact .visited s hx

lemma failLast_keeps : Keeps own (failLast : EngineCall (NativeEngine (Watched L)) α) :=
  lastFault_keeps.bind fun f => Keeps.throw f

lemma check_keeps {m : Pointer → StateM (Watched L) Bool}
    (hm : Keeps own (run m)) : Keeps own (check m) := by
  refine hm.attempt fun ok => ?_
  cases ok with
  | true => exact Keeps.succeed ()
  | false => exact failLast_keeps

lemma nextEvent_eq (p : Pointer) (e : NativeEngine (Watched L)) :
    (nextEvent ⟨some p⟩ : EngineCall (NativeEngine (Watched L)) Event) e =
      (match (Library.nextQueryEvent p e.library.inner).1 with
        | some s => (run fun _ => takeString s) >>= decodeEvent
        | none => failLast : EngineCall (NativeEngine (Watched L)) Event)
        ⟨(Library.nextQueryEvent p e.library).2, e.pointer⟩ := rfl

lemma nextEvent_keeps (q : NativeQuery) :
    Keeps q.out (nextEvent q : EngineCall (NativeEngine (Watched L)) Event) := by
  obtain ⟨_ | p⟩ := q
  · exact Keeps.throw .freed
  intro b out e hp ho
  have hu {xs : List Passage} (hx : Passes b.engine b.out xs out) :
      Passes b.engine b.out (xs ++ [.used p]) out := .used (Multiset.singleton_le.mp hp) hx
  let l := (Library.nextQueryEvent p e.library).2
  have hl : l.passed = e.library.passed ++
      .used p :: Watched.given .lent (Library.nextQueryEvent p e.library.inner).1 := rfl
  rw [nextEvent_eq]
  cases hs : (Library.nextQueryEvent p e.library.inner).1 with
  | none =>
    rw [hs] at hl
    exact failLast_keeps b out ⟨l, e.pointer⟩ (Multiset.zero_le _) (ho.passing rfl hl fun _ => hu)
  | some s =>
    rw [hs] at hl
    have ht : (takeString s l).2.passed = e.library.passed ++ ([.used p] ++ visit s) := by
      rw [takeString_passed, hl, List.append_assoc]
      rfl
    refine decodeEvent_keeps _ b out ⟨(takeString s l).2, e.pointer⟩ (Multiset.zero_le _) ?_
    refine ho.passing rfl ht fun xs hx => ?_
    rw [← List.append_assoc]
    exact .visited s (hu hx)

lemma free_settles {q : NativeQuery} (h : Owes b (q.out + out) e) :
    (freeQuery q e).1 = ⟨none⟩ ∧ Owes b out (freeQuery q e).2 := by
  obtain ⟨_ | p⟩ := q
  · exact ⟨rfl, by rwa [NativeQuery.out, Option.elim_none, zero_add] at h⟩
  have hf : (freeQuery ⟨some p⟩ e : NativeQuery × NativeEngine (Watched L)) =
      (do unless (Library.freeQuery p e.library.inner).1 do
            let _ ← onLibrary (lastFault : StateM (Watched L) Fault)
          return ⟨none⟩ : StateM (NativeEngine (Watched L)) NativeQuery)
        ⟨(Library.freeQuery p e.library).2, e.pointer⟩ := rfl
  have h₁ : Owes b out ⟨(Library.freeQuery p e.library).2, e.pointer⟩ :=
    h.passing rfl rfl fun _ hx => .ended hx
  rw [hf]
  cases (Library.freeQuery p e.library.inner).1 with
  | true => exact ⟨rfl, h₁⟩
  | false => exact ⟨rfl, lastFault_keeps b out _ (Multiset.zero_le _) h₁⟩

section Starting

lemma bindOne_keeps (p : Pointer) (x : String × Term) :
    Keeps {p} (bindOne p x : EngineCall (NativeEngine (Watched L)) Unit) := by
  refine (encode_keeps _).attempt fun name => ?_
  refine (encode_keeps _).attempt fun value => ?_
  exact check_keeps (run_uses fun _ _ => rfl)

lemma bindAll_keeps (p : Pointer) (bindings : Bindings) :
    Keeps {p} (bindAll p bindings : EngineCall (NativeEngine (Watched L)) Unit) := by
  induction bindings with
  | nil => exact Keeps.succeed ()
  | cons x xs ih => exact (bindOne_keeps p x).attempt fun _ => ih

inductive Begins (b : Since) (out : Multiset Pointer) :
    Except Fault NativeQuery × NativeEngine (Watched L) → Prop
  | begun {p : Pointer} {e : NativeEngine (Watched L)} :
      Owes b ((NativeQuery.mk (some p)).out + out) e → Begins b out (.ok ⟨some p⟩, e)
  | failed {f : Fault} {e : NativeEngine (Watched L)} : Owes b out e → Begins b out (.error f, e)

def Starts (m : EngineCall (NativeEngine (Watched L)) NativeQuery) : Prop :=
  ∀ b out e, Owes b out e → Begins b out (m e)

lemma startQuery_begins (p : Option Pointer) (bindings : Bindings)
    (h : Owes b ((NativeQuery.mk p).out + out) e) : Begins b out (startQuery p bindings e) := by
  -- the query is out before its bindings are sent, so each of them may fail with it to be freed
  cases p with
  | none =>
    rw [NativeQuery.out, Option.elim_none, zero_add] at h
    exact .failed (failLast_keeps (α := NativeQuery) b out e (Multiset.zero_le _) h)
  | some p =>
    have hb := bindAll_keeps p bindings b _ e (Multiset.le_add_right _ _) h
    unfold startQuery
    rcases hx : bindAll p bindings e with ⟨f | u, e'⟩ <;> rw [hx] at hb
    · simp only [hx]
      exact .failed (free_settles (q := ⟨some p⟩) hb).2
    · simp only [hx]
      exact .begun hb

lemma starts_of_asks {m : CText → Pointer → StateM (Watched L) (Option Pointer)}
    (hm : ∀ text p w, (m text p w).2.passed =
      w.passed ++ .consulted p :: Watched.given (.began p) (m text p w).1)
    (c : Except Fault CText) (bindings : Bindings) :
    Starts (do startQuery (← run (m (← encode c))) bindings) := by
  intro b out e ho
  cases c with
  | error f => exact .failed ho
  | ok text =>
    have hx := hm text e.pointer e.library
    change Begins b out (startQuery (m text e.pointer e.library).1 bindings
      ⟨(m text e.pointer e.library).2, e.pointer⟩)
    refine startQuery_begins _ bindings (ho.passing rfl hx fun xs hx => ?_)
    have hc := hx.consulted
    rw [ho.engine]
    cases (m text b.engine e.library).1 with
    | none =>
      rw [NativeQuery.out, Option.elim_none, zero_add]
      exact hc
    | some q =>
      have hq := hc.began q
      rwa [List.append_assoc] at hq

end Starting

section Operations

lemma next_owes (h : Owes b out e) : Owes b out (IdSource.next e).2 := by
  refine h.passing rfl rfl fun xs hx => ?_
  rw [h.engine]
  exact .consulted hx

lemma load_keeps (sources : List Source) :
    Keeps 0 (Engine.load sources : EngineCall (NativeEngine (Watched L)) Unit) :=
  (encode_keeps _).attempt fun _ => check_keeps (run_consults fun _ _ => rfl)

lemma clearRules_keeps : Keeps 0 (Engine.clearRules : EngineCall (NativeEngine (Watched L)) Unit) :=
  check_keeps (run_consults fun _ _ => rfl)

lemma registerConstant_keeps (name : String) (t : Term) :
    Keeps 0 (Engine.registerConstant name t : EngineCall (NativeEngine (Watched L)) Unit) :=
  (encode_keeps _).attempt fun _ => (encode_keeps _).attempt fun _ =>
    check_keeps (run_consults fun _ _ => rfl)

lemma newQuery_starts (query : Term) (bindings : Bindings) :
    Starts (Engine.newQuery query bindings : EngineCall (NativeEngine (Watched L)) NativeQuery) :=
  starts_of_asks (m := fun text p => Library.newQueryFromTerm p text) (fun _ _ _ => rfl) _ bindings

lemma newQueryOfText_starts (query : String) (bindings : Bindings) :
    Starts (Engine.newQueryOfText query bindings : EngineCall (NativeEngine (Watched L)) NativeQuery) :=
  starts_of_asks (m := fun text p => Library.newQuery p text) (fun _ _ _ => rfl) _ bindings

lemma answerCall_keeps (q : NativeQuery) (callId : UInt64) (result : Option Term) :
    Keeps q.out (Engine.answerCall q callId result : EngineCall (NativeEngine (Watched L)) Unit) :=
  live_bind_keeps q fun _ => (encode_keeps _).attempt fun _ =>
    check_keeps (run_uses fun _ _ => rfl)

lemma answerApplicationError_keeps (q : NativeQuery) (message : String) : Keeps q.out
    (Engine.answerApplicationError q message : EngineCall (NativeEngine (Watched L)) Unit) :=
  live_bind_keeps q fun _ => (encode_keeps _).attempt fun _ =>
    check_keeps (run_uses fun _ _ => rfl)

end Operations

end NativeEngine

end PolicyBridge
