import Mathlib.Tactic
import PolicyBridge.Proofs.Session.Owing
import PolicyBridge.Proofs.Session.Constants
import PolicyBridge.Script.Library

/-! A session over a C library and its queries, given up in any order. What they share is counted:
the session and the registry, whose ids come from the engine, hold the engine; the session and each
query hold the registry. The last to let go of the engine gives it up. -/

namespace PolicyBridge

open Passage

def Request.query? {Obj : Type} : Request Obj → Option Nat
  | .next n _ | .close n | .drop n => some n
  | _ => none

/-- What a host does with a session and its queries, which go by their place among those held. -/
inductive HostAction (Obj : Type) where
  | request (r : Request Obj)
  | dropSession

def Query.dropWithHandle {E Q Obj : Type} [Engine E Q] : Running E Q Obj Unit := do
  drop
  freeHandle

structure CountedSession (E Q Obj : Type) where
  served : Served E Q Obj
  isOpen : Bool
  engineOwners : Nat
  registryOwners : Nat

namespace CountedSession

variable {E Q Obj : Type}

def start (s : Session E Obj) : CountedSession E Q Obj := ⟨⟨s, []⟩, true, 2, 1⟩

def AllDropped (t : CountedSession E Q Obj) : Prop := t.isOpen = false ∧ t.served.queries = []

def allows (t : CountedSession E Q Obj) (r : Request Obj) : Bool :=
  match r.query? with
  | some n => n < t.served.queries.length
  | none => t.isOpen

variable [Engine E Q]

def releaseEngine (t : CountedSession E Q Obj) : CountedSession E Q Obj :=
  let t := { t with engineOwners := t.engineOwners - 1 }
  if t.engineOwners = 0 then
    { t with served := { t.served with session := t.served.session.shutDown } }
  else t

def releaseRegistry (t : CountedSession E Q Obj) : CountedSession E Q Obj :=
  let t := { t with registryOwners := t.registryOwners - 1 }
  if t.registryOwners = 0 then t.releaseEngine else t

/-- Each query that is started holds the registry twice: to answer the engine, and for its values. -/
def serve [ClassObject Obj] (r : Request Obj) (t : CountedSession E Q Obj) :
    CountedSession E Q Obj :=
  let s := (Served.serve r t.served).2
  { t with
    served := s
    registryOwners := t.registryOwners + 2 * (s.queries.length - t.served.queries.length) }

def dropQuery (n : Nat) (t : CountedSession E Q Obj) : CountedSession E Q Obj :=
  let s := (Served.onQuery n Query.dropWithHandle (fun _ => .done (.ok ())) t.served).2
  { t with served := { s with queries := s.queries.eraseIdx n } }.releaseRegistry.releaseRegistry

def step [ClassObject Obj] (t : CountedSession E Q Obj) : HostAction Obj → CountedSession E Q Obj
  | .dropSession => if t.isOpen then { t with isOpen := false }.releaseEngine.releaseRegistry else t
  | .request (.drop n) => if t.allows (.drop n) then t.dropQuery n else t
  | .request r => if t.allows r then t.serve r else t

def run [ClassObject Obj] (t : CountedSession E Q Obj) (actions : List (HostAction Obj)) :
    CountedSession E Q Obj :=
  actions.foldl step t

end CountedSession

namespace NativeEngine

variable {L : Type} {b : Since} {e : NativeEngine (Watched L)}

def Closed (b : Since) (e : NativeEngine (Watched L)) : Prop :=
  ∃ xs, e.library.passed = b.passed ++ (xs ++ [.closed b.engine]) ∧ Passes b.engine b.out xs 0

lemma shutDown_closed [Library L] (h : Owes b 0 e) :
    Closed b ((Engine.shutDown : StateM (NativeEngine (Watched L)) Unit) e).2 := by
  obtain ⟨he, xs, hx, hp⟩ := h
  refine ⟨xs, ?_, hp⟩
  change e.library.passed ++ [.closed e.pointer] = _
  rw [hx, he, List.append_assoc]

end NativeEngine

namespace CountedSession

open NativeEngine (Owes Closed)

variable {L Obj : Type} {b : Since} {t : CountedSession (NativeEngine (Watched L)) NativeQuery Obj}

structure Kept (b : Since) (t : CountedSession (NativeEngine (Watched L)) NativeQuery Obj) :
    Prop where
  owing : t.engineOwners ≠ 0 → t.served.Owing b
  closed : t.engineOwners = 0 → Closed b t.served.session.shared.host.source

structure Sound (b : Since) (t : CountedSession (NativeEngine (Watched L)) NativeQuery Obj) : Prop
    extends Kept b t where
  registry : t.registryOwners = t.isOpen.toNat + 2 * t.served.queries.length
  engine : t.engineOwners = t.isOpen.toNat + min t.registryOwners 1

section Holds

variable {E Q Obj : Type} [Engine E Q] {t : CountedSession E Q Obj} {n : Nat}

lemma releaseEngine_of_more (h : t.engineOwners = n + 2) :
    t.releaseEngine = { t with engineOwners := n + 1 } := by
  rw [releaseEngine, h]
  rfl

lemma releaseEngine_of_last (h : t.engineOwners = 1) :
    t.releaseEngine = { t with
      engineOwners := 0
      served := { t.served with session := t.served.session.shutDown } } := by
  rw [releaseEngine, h]
  rfl

lemma releaseRegistry_of_more (h : t.registryOwners = n + 2) :
    t.releaseRegistry = { t with registryOwners := n + 1 } := by
  rw [releaseRegistry, h]
  rfl

lemma releaseRegistry_of_last (h : t.registryOwners = 1) :
    t.releaseRegistry = { t with registryOwners := 0 }.releaseEngine := by
  rw [releaseRegistry, h]
  rfl

end Holds

lemma sound_start {s : Session (NativeEngine (Watched L)) Obj}
    (h : Owes b 0 s.shared.host.source) : Sound b (start s) where
  owing _ := ⟨h, List.forall_mem_nil _⟩
  closed := nofun
  registry := rfl
  engine := rfl

lemma closed_of_allDropped (h : Sound b t) (ht : t.AllDropped) :
    Closed b t.served.session.shared.host.source := by
  have hr := h.registry
  have he := h.engine
  rw [ht.1, ht.2] at hr
  rw [ht.1, hr] at he
  exact h.closed he

variable [Library L]

lemma sound_releaseRegistry (ho : t.served.Owing b)
    (hr : t.registryOwners = t.isOpen.toNat + 2 * t.served.queries.length + 1)
    (he : t.engineOwners = t.isOpen.toNat + 1) : Sound b t.releaseRegistry := by
  -- how many holds on the registry are left
  cases hn : t.isOpen.toNat + 2 * t.served.queries.length with
  | zero =>
    have ht : t.isOpen.toNat = 0 := by omega
    have hq : t.served.queries = [] := List.length_eq_zero_iff.mp (by omega)
    have hz : t.served.out = 0 := by
      rw [Served.out, hq]
      rfl
    have hs := ho.owes
    rw [hz] at hs
    rw [releaseRegistry_of_last (by omega),
      releaseEngine_of_last (by change t.engineOwners = 1; omega)]
    refine ⟨⟨fun h => absurd rfl h, fun _ => NativeEngine.shutDown_closed hs⟩, ?_, ?_⟩
    · change 0 = t.isOpen.toNat + 2 * t.served.queries.length
      exact hn.symm
    · change 0 = t.isOpen.toNat + min 0 1
      rw [ht]
      rfl
  | succ n =>
    rw [releaseRegistry_of_more (n := n) (by omega)]
    refine ⟨⟨fun _ => ho, fun h => ?_⟩, ?_, ?_⟩
    · change t.engineOwners = 0 at h
      omega
    · change n + 1 = t.isOpen.toNat + 2 * t.served.queries.length
      exact hn.symm
    · change t.engineOwners = t.isOpen.toNat + min (n + 1) 1
      omega

lemma sound_dropSession (h : Sound b t) (ht : t.isOpen = true) :
    Sound b { t with isOpen := false }.releaseEngine.releaseRegistry := by
  have hr := h.registry
  have he := h.engine
  rw [ht, Bool.toNat_true] at hr he
  rw [releaseEngine_of_more (n := 0) (by change t.engineOwners = 2; omega)]
  refine sound_releaseRegistry (h.owing (by omega)) ?_ rfl
  change t.registryOwners = 0 + 2 * t.served.queries.length + 1
  omega

lemma dropWithHandle_owes (rest : Multiset Pointer)
    (r : Run (NativeEngine (Watched L)) NativeQuery Obj) (h : Query.Owing b rest r) :
    Owes b rest (Query.dropWithHandle r).2.shared.host.source := by
  -- `drop` frees nothing if the query was released before; then the handle is empty already
  obtain ⟨ho, hz⟩ := Query.freeHandle_owing (Query.release_owing h .abandoned)
  have hs := ho.owes
  rwa [hz, zero_add] at hs

lemma sound_dropQuery {n : Nat} (h : Sound b t) (hn : n < t.served.queries.length) :
    Sound b (t.dropQuery n) := by
  have hr := h.registry
  have he := h.engine
  obtain ⟨ho, hl⟩ := Served.onQuery_erase_owing dropWithHandle_owes (fun _ => .done (.ok ()))
    (h.owing (by omega)) hn
  rw [dropQuery]
  generalize (Served.onQuery n Query.dropWithHandle (fun _ => Response.done (.ok ())) t.served).2 = s
    at ho hl
  let t₁ := { t with served := { s with queries := s.queries.eraseIdx n } }
  have h₁ : t₁.releaseRegistry =
      { t₁ with registryOwners := t.isOpen.toNat + 2 * (s.queries.eraseIdx n).length + 1 } :=
    releaseRegistry_of_more (by change t.registryOwners = _; omega)
  change Sound b t₁.releaseRegistry.releaseRegistry
  rw [h₁]
  refine sound_releaseRegistry ho rfl ?_
  change t.engineOwners = t.isOpen.toNat + 1
  omega

lemma sound_serve [ClassObject Obj] {r : Request Obj} (h : Sound b t) (ha : t.allows r) :
    Sound b (t.serve r) := by
  have hr := h.registry
  have he := h.engine
  -- whoever asks holds the registry, so the engine is still held
  have hp : 0 < t.isOpen.toNat + 2 * t.served.queries.length := by
    unfold allows at ha
    split at ha
    · have := of_decide_eq_true ha
      omega
    · rw [ha, Bool.toNat_true]
      omega
  have hl := Served.serve_length r t.served
  refine ⟨⟨fun _ => Served.serve_owing r (h.owing (by omega)), fun hz => ?_⟩, ?_, ?_⟩
  · change t.engineOwners = 0 at hz
    omega
  · change t.registryOwners + 2 * ((Served.serve r t.served).2.queries.length - _) =
      t.isOpen.toNat + 2 * (Served.serve r t.served).2.queries.length
    omega
  · change t.engineOwners = t.isOpen.toNat + min (t.registryOwners + _) 1
    omega

lemma sound_step [ClassObject Obj] (h : Sound b t) (d : HostAction Obj) : Sound b (t.step d) := by
  cases d with
  | dropSession =>
    rw [step]
    split
    · exact sound_dropSession h ‹_›
    · exact h
  | request r =>
    have hs (r : Request Obj) : Sound b (if t.allows r then t.serve r else t) := by
      split
      · exact sound_serve h ‹_›
      · exact h
    cases r with
    | drop n =>
      rw [step]
      split
      · exact sound_dropQuery h (of_decide_eq_true ‹_›)
      · exact h
    | _ => exact hs _

lemma sound_run [ClassObject Obj] (h : Sound b t) (actions : List (HostAction Obj)) :
    Sound b (t.run actions) := by
  induction actions generalizing t with
  | nil => exact h
  | cons d ds ih => exact ih (sound_step h d)

end CountedSession

lemma balanced_of_string (s : Option Pointer) : Balanced (s.elim [] visit) := by
  cases s with
  | none => exact ⟨⟨[], rfl⟩, fun _ => rfl, .inl (List.forall_mem_nil _)⟩
  | some s => exact ⟨⟨[s], rfl⟩, fun _ => rfl, .inl (by simp [visit, isString])⟩

lemma NativeEngine.Closed.balanced {L : Type} {p : Pointer} {e : NativeEngine (Watched L)}
    (h : Closed ⟨p, [opened p], 0⟩ e) : Balanced e.library.passed := by
  obtain ⟨xs, hx, hp⟩ := h
  have he : e.library.passed = opened p :: (xs ++ [closed p]) := hx
  rw [he]
  refine ⟨?_, fun q => ?_, .inr ⟨p, xs, rfl, hp.within⟩⟩
  · obtain ⟨ss, hs⟩ := hp.strings
    refine ⟨ss, ?_⟩
    rw [← hs]
    simp [isString]
  · have hf : (opened p :: (xs ++ [closed p])).filterMap (ofQuery q) = xs.filterMap (ofQuery q) := by
      rw [List.filterMap_cons_none rfl, List.filterMap_append]
      exact List.append_nil _
    rw [outAfter, hf]
    exact hp.stages q

namespace SessionPlan

open NativeEngine (Owes Closed)

variable {L Obj : Type} [Library L]

lemma create_passed (w : Watched L) :
    (∃ e w', NativeEngine.create w = (.ok e, w') ∧ w'.passed = w.passed ++ [.opened e]) ∨
      ∃ f w', NativeEngine.create w = (.error f, w') ∧
        ∃ s : Option Pointer, w'.passed = w.passed ++ s.elim [] Passage.visit := by
  have hp : (Library.newEngine w).2.passed =
      w.passed ++ Watched.given .opened (Library.newEngine w.inner).1 := rfl
  rcases hn : (Library.newEngine w : Option Pointer × Watched L) with ⟨e, w'⟩
  have he : (Library.newEngine w.inner).1 = e := congrArg Prod.fst hn
  rw [hn, he] at hp
  unfold NativeEngine.create
  simp only [hn]
  cases e with
  | some e => exact .inl ⟨e, w', rfl, hp⟩
  | none =>
    obtain ⟨s, hs⟩ := NativeEngine.lastFault_passed w'
    have hw : w'.passed = w.passed := hp.trans (List.append_nil _)
    rw [hw] at hs
    exact .inr ⟨_, _, rfl, s, hs⟩

variable [ClassObject Obj]

def buildOwn (fs : Files) (p : SessionPlan Obj) (l : L) :
    Except (Error × L) (Session (NativeEngine L) Obj) :=
  match NativeEngine.create l with
  | (.error f, l) => .error (f.loadError, l)
  | (.ok pointer, l) =>
    match p.buildOn fs ⟨l, pointer⟩ with
    | .ok s => .ok s
    | .error (e, engine) => .error (e, engine.library)

inductive Leaves (b : Since) :
    Except (Error × NativeEngine (Watched L)) (Session (NativeEngine (Watched L)) Obj) → Prop
  | built {s : Session (NativeEngine (Watched L)) Obj} :
      Owes b 0 s.shared.host.source → Leaves b (.ok s)
  | failed {x : Error} {e : NativeEngine (Watched L)} : Closed b e → Leaves b (.error (x, e))

lemma buildOn_leaves {b : Since} {e : NativeEngine (Watched L)} (fs : Files) (p : SessionPlan Obj)
    (h : Owes b 0 e) : Leaves b (p.buildOn fs e) := by
  unfold buildOn
  cases p.check with
  | error x => exact .failed (NativeEngine.shutDown_closed h)
  | ok config =>
    have hp := Session.keepsOwed_stepClosed.prepare fs p (Session.new e config) b 0 h
    rcases hx : (p.prepare fs).run (Session.new e config) with ⟨x | u, s⟩
    · have hs : p.prepare fs (Session.new e config) = (.error x, s) := hx
      rw [hs] at hp
      simp only [hx]
      exact .failed (NativeEngine.shutDown_closed hp)
    · have hs : p.prepare fs (Session.new e config) = (.ok u, s) := hx
      rw [hs] at hp
      simp only [hx]
      exact .built hp

inductive Makes : Except (Error × Watched L) (Session (NativeEngine (Watched L)) Obj) → Prop
  | built {e : Pointer} {s : Session (NativeEngine (Watched L)) Obj} :
      Owes ⟨e, [opened e], 0⟩ 0 s.shared.host.source → Makes (.ok s)
  | failed {x : Error} {w : Watched L} : Balanced w.passed → Makes (.error (x, w))

lemma buildOwn_makes (fs : Files) (p : SessionPlan Obj) (l : L) :
    Makes (p.buildOwn fs (⟨l, []⟩ : Watched L)) := by
  unfold buildOwn
  rcases create_passed ⟨l, []⟩ with ⟨e, w, hc, hw⟩ | ⟨f, w, hc, s, hs⟩
  · have ho := NativeEngine.Owes.refl (⟨w, e⟩ : NativeEngine (Watched L)) 0
    have hb := buildOn_leaves fs p ho
    rw [hw] at hb
    simp only [hc]
    generalize p.buildOn fs (⟨w, e⟩ : NativeEngine (Watched L)) = x at hb ⊢
    cases hb with
    | built hs => exact .built hs
    | failed he => exact .failed he.balanced
  · simp only [hc]
    refine .failed ?_
    rw [hs]
    exact balanced_of_string s

lemma build_makes (fs : Files) (p : SessionPlan Obj) (l : L) :
    Makes (p.build fs (⟨l, []⟩ : Watched L)) := by
  unfold build
  cases p.check with
  | error x => exact .failed (balanced_of_string none)
  | ok config => exact buildOwn_makes fs p l

end SessionPlan

namespace CountedSession

variable {L Obj : Type} [Library L] [ClassObject Obj]

def passed (t : CountedSession (NativeEngine (Watched L)) NativeQuery Obj) : List Passage :=
  t.served.session.shared.host.source.library.passed

/-- Whatever the library does: once a session and its queries have been given up, in any order, or
when no session could be built, the library has got back all that it has given out. -/
theorem all_returned (fs : Files) (p : SessionPlan Obj) (ready : Bool) (l : L)
    (actions : List (HostAction Obj)) :
    match if ready then p.buildOwn fs ⟨l, []⟩ else p.build fs ⟨l, []⟩ with
    | .error (_, w) => Balanced w.passed
    | .ok s => ((start s).run actions).AllDropped → Balanced ((start s).run actions).passed := by
  have hm : SessionPlan.Makes (if ready then p.buildOwn fs (⟨l, []⟩ : Watched L)
      else p.build fs ⟨l, []⟩) := by
    split
    · exact SessionPlan.buildOwn_makes fs p l
    · exact SessionPlan.build_makes fs p l
  generalize (if ready then p.buildOwn fs (⟨l, []⟩ : Watched L) else p.build fs ⟨l, []⟩) = x at hm ⊢
  cases hm with
  | failed h => exact h
  | built h =>
    intro hp
    exact (closed_of_allDropped (sound_run (sound_start h) actions) hp).balanced

section Sample

def twoQueries : List (HostAction Unit) :=
  [.request (.evaluateText "f(x)" []), .request (.evaluateText "g(x)" []), .dropSession,
    .request (.next 1 5), .request (.drop 1), .request (.drop 0)]

theorem all_returned_twoQueries :
    ∃ s : Session (NativeEngine (Watched Script.Library)) Unit,
      SessionPlan.standard.build [] ⟨Script.Library.empty none, []⟩ = .ok s ∧
        ((start s).run twoQueries).AllDropped ∧ Balanced ((start s).run twoQueries).passed := by
  have h := all_returned [] SessionPlan.standard false (Script.Library.empty none) twoQueries
  exact ⟨_, rfl, ⟨rfl, rfl⟩, h ⟨rfl, rfl⟩⟩

end Sample

end CountedSession

end PolicyBridge
