import Mathlib.Tactic
import PolicyBridge.Proofs.Dispatch.Hosting
import PolicyBridge.Proofs.Dispatch.Outdating
import PolicyBridge.Proofs.Registry.Classes

namespace PolicyBridge

variable {S Obj ι : Type}

namespace Dispatchers

open Dispatching

variable [DecidableEq ι] [IdSource S] {s s₀ : Dispatchers ι S Obj} {m : Move ι Obj}
  {ms ms' : List (Move ι Obj)}

def forget (s : Dispatchers ι S Obj) : Dispatchers ι S Obj :=
  { s with host := View.uncached.host s.host }

/-- Each event of the second run looks up only what has not moved by then. -/
def AllUnmoved (s₀ : Dispatchers ι S Obj) (ms ms' : List (Move ι Obj)) : Prop :=
  ∀ earlier i e later, ms' = earlier ++ .dispatch i e :: later → Unmoved s₀ (ms ++ earlier) e

lemma AllUnmoved.left (h : AllUnmoved s₀ ms (ms' ++ [m])) : AllUnmoved s₀ ms ms' := by
  rintro earlier i e later rfl
  exact h earlier i e (later ++ [m]) (by simp)

lemma AllUnmoved.last {i : ι} {e : Event} (h : AllUnmoved s₀ ms (ms' ++ [.dispatch i e])) :
    Unmoved s₀ (ms ++ ms') e :=
  h ms' i e [] rfl

lemma AllUnmoved.head (h : AllUnmoved s₀ ms (m :: ms')) {i : ι} {e : Event}
    (hm : m = .dispatch i e) : Unmoved s₀ ms e := by
  have hu := h [] i e ms' (by rw [hm]; rfl)
  rwa [List.append_nil] at hu

lemma AllUnmoved.tail (h : AllUnmoved s₀ ms (m :: ms')) : AllUnmoved s₀ (ms ++ [m]) ms' := by
  rintro earlier i e later rfl
  have hu := h (m :: earlier) i e later rfl
  rwa [List.append_cons] at hu

lemma allUnmoved_of_enrolled (hn : s₀.registry.Named) (hc : ∀ c, .registerClass c ∉ ms ++ ms') :
    AllUnmoved s₀ ms ms' := by
  rintro earlier i e later rfl
  refine unmoved_of_enrolled hn (fun c hm => hc c ?_) e
  rw [← List.append_assoc]
  exact List.mem_append_left _ hm

lemma move_forgets (h : ∀ i e, m = .dispatch i e → View.uncached.ResolvesAt (s.work i) e) :
    s.forget.move m = (s.move m).forget := by
  cases m with
  | dispatch i e =>
    have hd := (View.dispatch_followsAt (V := View.uncached) trivial (h i e rfl)).eq
    have hf : Dispatching.dispatch e (s.forget.work i) = _ := hd
    rw [move, hf]
    rfl
  | marshal i v =>
    have hd := View.uncached.marshal_dispatches (View.uncached.toTerm_follows v) (s.work i) trivial
    have hf : Dispatching.marshal (Marshal.toTerm v) (s.forget.work i) = _ := hd.eq
    rw [move, hf]
    rfl
  | close i => rfl
  | registerClass c | enrollClass c => rfl
  | register x | lookup id => rfl
  | registerWithId id x =>
    cases hl : s.registry.live? id with
    | none =>
      rw [move_registerWithId_of_free hl, move_registerWithId_of_free (s := s.forget) hl]
      rfl
    | some y =>
      rw [move_registerWithId_of_live hl, move_registerWithId_of_live (s := s.forget) hl]
  | release id =>
    cases hl : s.registry.live? id with
    | none => rw [move_release_of_free hl, move_release_of_free (s := s.forget) hl]
    | some y =>
      rw [move_release_of_live hl, move_release_of_live (s := s.forget) hl]
      rfl

/-- A state that is the end of the run but for what is remembered, and that remembers only where
calls of the run found it. -/
structure EndsAlike (s₀ : Dispatchers ι S Obj) (ms : List (Move ι Obj)) (s : Dispatchers ι S Obj) :
    Prop extends Recalls s₀ ms s where
  forget : s.forget = (s₀.run ms).forget

namespace EndsAlike

lemma registry (h : EndsAlike s₀ ms s) : s.registry = (s₀.run ms).registry :=
  congrArg (fun s => s.host.registry) h.forget

lemma move (h : EndsAlike s₀ ms s) (hr : Recalls s₀ ms (s₀.run ms))
    (hu : ∀ i e, m = .dispatch i e → Unmoved s₀ ms e) : EndsAlike s₀ (ms ++ [m]) (s.move m) := by
  refine ⟨h.toRecalls.move h.registry m, ?_⟩
  have hs := move_forgets (s := s) fun i e he => h.toRecalls.resolvesAt h.registry (hu i e he) i
  have hs₀ := move_forgets (s := s₀.run ms) fun i e he => hr.resolvesAt rfl (hu i e he) i
  rw [run_concat, ← hs, ← hs₀, h.forget]

lemma run (h : EndsAlike s₀ ms s) (hr : ∀ ms, Recalls s₀ ms (s₀.run ms))
    (hu : AllUnmoved s₀ ms ms') : EndsAlike s₀ (ms ++ ms') (s.run ms') := by
  induction ms' generalizing s ms with
  | nil => rwa [List.append_nil]
  | cons m ms' ih =>
    rw [List.append_cons]
    exact ih (h.move (hr ms) fun i e he => hu.head he) hu.tail

lemma answer (h : EndsAlike s₀ ms s) {e : Event} (hu : Unmoved s₀ ms e) (i : ι) :
    (Dispatching.dispatch e (s.work i)).1 =
      (Dispatching.dispatch e ((s₀.run ms).forget.work i)).1 := by
  have hd := (View.dispatch_followsAt (V := View.uncached) trivial
    (h.toRecalls.resolvesAt h.registry hu i)).eq
  rw [← h.forget]
  exact (congrArg Prod.fst hd).symm

end EndsAlike

lemma dispatch_no_memory {e : Event} {w : Work (Recorded S) Obj} (h : w.host.cache = none) :
    (Dispatching.dispatch e w).2.host.cache = none := by
  let V : View (Recorded S) (Recorded S) Obj := .watching fun _ cache => cache = none
  refine (View.dispatch_followsAt (V := V) h ?_).good
  cases e with
  | externalCall callId t member args kwargs =>
    intro p hp
    refine ⟨rfl, ?_⟩
    rw [resolve_of_no_cache h]
    exact h
  | _ => trivial

lemma move_no_memory (h : s.host.cache = none) (m : Move ι Obj) : (s.move m).host.cache = none := by
  cases m with
  | dispatch i e => exact dispatch_no_memory h
  | enrollClass c =>
    change s.host.cache.map Cache.clear = none
    rw [h]
    rfl
  | _ => refine (move_cache ?_ ?_).trans h <;> nofun

lemma run_no_memory (h : s.host.cache = none) (ms : List (Move ι Obj)) :
    (s.run ms).host.cache = none := by
  induction ms generalizing s with
  | nil => exact h
  | cons m ms ih => exact ih (move_no_memory h m)

/-- Whatever queries and host code have done: an event that runs host code which panics fails with an
application error that has the text of the panic and the names of the code. The registry, the ids of
the queries and the source of ids stay as they are; no iterator is opened, and one that panics in a
step is a step further. Apart from that step, all later events are answered as if the event had not
come, if nothing is remembered, or if none of them looks up what has moved since an earlier call
found it. -/
theorem panic_contained (source : S) (cs : List (Class Obj)) (capacity : Option Nat)
    (ms : List (Move ι Obj)) (i : ι) (e : Event) (h : HostRun) (text : Option String) :
    let s₀ : Dispatchers ι S Obj :=
      start ⟨source, Registry.registerAll cs, capacity.map Cache.ofSize⟩
    let s := s₀.run ms
    let s' := s.move (.dispatch i e)
    Runs (s.work i) e h → h.outcome = .panicked text →
      (Dispatching.dispatch e (s.work i)).1 =
        .error (.application (Outcome.panicText text) (some h.className) (some h.member)) ∧
      s'.registry = s.registry ∧ s'.host.source = s.host.source ∧ s'.held = s.held ∧
      (∀ j, (s'.own j).allocated = (s.own j).allocated) ∧
      (∃ own, Spends (s.work i) e h.hook own ∧ s'.own = Function.update s.own i own) ∧
      ∀ ms' j e',
        capacity = none ∨ AllUnmoved s₀ (ms ++ [.dispatch i e]) (ms' ++ [.dispatch j e']) →
          (Dispatching.dispatch e' ((s'.run ms').work j)).1 =
            (Dispatching.dispatch e' (({ s with own := s'.own }.run ms').work j)).1 := by
  intro s₀ s s' hr ho
  have hx : h.Fails (.application (Outcome.panicText text) (some h.className) (some h.member)) := by
    rw [HostRun.Fails, ho]
    exact Outcome.guarded_of_panicked text
  obtain ⟨cache, own, hd, hsp⟩ := hr.leaves hx
  have hs' : s' = ⟨{ s.host with cache := cache }, Function.update s.own i own, s.held⟩ := by
    change s.withWork i (Dispatching.dispatch e (s.work i)).2 = _
    rw [hd]
    rfl
  refine ⟨by rw [hd], by rw [hs']; rfl, by rw [hs'], by rw [hs'], fun j => ?_,
    ⟨own, hsp, by rw [hs']⟩, fun ms' j e' hm => ?_⟩
  · rw [hs']
    change (Function.update s.own i own j).allocated = _
    by_cases hj : j = i
    · subst hj
      rw [Function.update_self]
      exact hsp.allocated
    · rw [Function.update_of_ne hj]
  · rcases hm with rfl | hu
    · have hn : s.host.cache = none := run_no_memory rfl ms
      have hn' : s'.host.cache = none := dispatch_no_memory hn
      have he : s' = { s with own := s'.own } := by
        rw [hs'] at hn' ⊢
        obtain rfl : cache = none := hn'
        rw [← hn]
      rw [← he]
    · have hn : s₀.registry.Named := (Registry.registerAll_coherent cs).named
      have hc : ∀ m, s₀.host.cache = some m → m.entries = [] := by
        intro m hm
        obtain ⟨n, -, rfl⟩ := Option.map_eq_some_iff.mp hm
        rfl
      have hr := recalls hn hc
      have hrun : s₀.run (ms ++ [.dispatch i e]) = s' := run_concat s₀ ms _
      have hl : EndsAlike s₀ (ms ++ [.dispatch i e]) s' := hrun ▸ ⟨hr _, rfl⟩
      have hl' : EndsAlike s₀ (ms ++ [.dispatch i e]) { s with own := s'.own } := by
        refine ⟨⟨(hr ms).named, fun m hm x hx => ((hr ms).entries m hm x hx).concat nofun⟩, ?_⟩
        rw [hrun, hs']
        rfl
      rw [(hl.run hr hu.left).answer hu.last, (hl'.run hr hu.left).answer hu.last]

section Samples

def faltering : Class Unit :=
  (Class.forType "User" ⟨"Alpha"⟩).withIterator fun _ => .value fun
    | 0 => some (.panicked (some "no step"))
    | 1 => some (.value (.integer 5))
    | _ => none

def stepOfAda : Event := .nextExternal 7 (.ofId 1)

theorem panic_contained_step :
    let s₀ : Dispatchers Unit Counter Unit :=
      start ⟨⟨2⟩, Registry.registerAll [faltering], some (.ofSize 16)⟩
    let s := s₀.run [.registerWithId 1 ada]
    let s' := s.move (.dispatch () stepOfAda)
    let ms' : List (Move Unit Unit) := [.enrollClass (roleClass "Staff" "staff")]
    Runs (s.work ()) stepOfAda ⟨.step, "iterator", "next", .panicked (some "no step")⟩ ∧
      AllUnmoved s₀ ([.registerWithId 1 ada] ++ [.dispatch () stepOfAda])
        (ms' ++ [.dispatch () stepOfAda]) ∧
      (Dispatching.dispatch stepOfAda (s.work ())).1 =
        .error (.application "no step" (some "iterator") (some "next")) ∧
      (Dispatching.dispatch stepOfAda ((s'.run ms').work ())).1 =
        .ok (some ⟨7, some (.integer 5)⟩) := by
  intro s₀ s s' ms'
  have hr : Runs (s.work ()) stepOfAda ⟨.step, "iterator", "next", .panicked (some "no step")⟩ :=
    .step (o := .panicked (some "no step")) rfl rfl
  have hu : AllUnmoved s₀ ([.registerWithId 1 ada] ++ [.dispatch () stepOfAda])
      (ms' ++ [.dispatch () stepOfAda]) := by
    refine allUnmoved_of_enrolled (Registry.registerAll_coherent [faltering]).named fun c hc => ?_
    simp [ms'] at hc
  obtain ⟨hd, -, -, -, -, -, hl⟩ := panic_contained (⟨2⟩ : Counter) [faltering] (some 16)
    [.registerWithId 1 ada] () stepOfAda _ (some "no step") hr rfl
  exact ⟨hr, hu, hd, (hl ms' () stepOfAda (.inr hu)).trans rfl⟩

def faltered : Class Unit :=
  (Class.abstractOf "Actor").addInstanceMethod "role" fun _ _ => .panicked (some "no role")

/-- Once staff have a role, it is told unless the role of actors has been asked for and panicked. -/
theorem panicked_member_outdated :
    ¬ ∀ (source : Counter) (cs : List (Class Unit)) (capacity : Option Nat)
        (ms : List (Move Unit Unit)) (e : Event) (h : HostRun) (text : Option String),
      let s : Dispatchers Unit Counter Unit :=
        (start ⟨source, Registry.registerAll cs, capacity.map Cache.ofSize⟩).run ms
      let s' := s.move (.dispatch () e)
      Runs (s.work ()) e h → h.outcome = .panicked text → ∀ ms' e',
        (Dispatching.dispatch e' ((s'.run ms').work ())).1 =
          (Dispatching.dispatch e' (({ s with own := s'.own }.run ms').work ())).1 := by
  intro h
  let s : Dispatchers Unit Counter Unit :=
    (start ⟨⟨2⟩, Registry.registerAll [faltered, user], some (.ofSize 16)⟩).run
      [.registerWithId 1 ada]
  let o : Outcome (HostValue Unit) := .panicked (some "no role")
  have hr : Runs (s.work ()) roleOfAda ⟨.method, faltered.name, "role", o.bare⟩ :=
    .method (f := fun _ _ => o) rfl rfl rfl
  have ha : (.error (.application "no role" (some "Actor") (some "role")) :
      Except Error (Option Answer)) = .ok (some ⟨7, some (.string "staff")⟩) :=
    h ⟨2⟩ [faltered, user] (some 16) [.registerWithId 1 ada] roleOfAda _ _ hr rfl
      [.registerClass (roleClass "Staff" "staff")] roleOfAda
  cases ha

end Samples

end Dispatchers

end PolicyBridge
