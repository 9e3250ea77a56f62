import Mathlib.Tactic
import PolicyBridge.Proofs.Dispatch.Isolation
import PolicyBridge.Proofs.Dispatch.Remembering
import PolicyBridge.Proofs.Registry.Ranking

/-! Members remembered while classes are registered anew. What is remembered is where earlier calls
found a member; so a member is found as without a memory unless it has moved since such a call. -/

namespace PolicyBridge

variable {S Obj ι : Type}

namespace Registry

lemma Named.empty : (empty : Registry Obj).Named := nofun

lemma Named.registerClass {r : Registry Obj} (h : r.Named) (c : Class Obj) :
    (r.registerClass c).Named := by
  intro n d hd
  rw [class?_registerClass] at hd
  split at hd
  · cases hd
    exact Eq.symm ‹n = c.name›
  · exact h n d hd

end Registry

namespace Dispatching

/-- What a call looks up, and where a walk along the classes finds it, if it does. -/
inductive Finds (r : Registry Obj) : Event → Lookup → Option Resolution → Prop
  | call {callId : UInt64} {t : Term} {member : String} {args : Option (List Term)}
      {kwargs : Option (Dict String Term)} {p : Receipt Obj} {x : Option Resolution} :
      receive r t member args kwargs = .ok p →
        (r.findMember? member (kindOf args) p.ofClass.order).map (fun x => ⟨x.1.name, x.2⟩) = x →
          Finds r (.externalCall callId t member args kwargs)
            ⟨p.ofClass.name, member, kindOf args⟩ x

variable {w : Work S Obj} {e : Event}

lemma Finds.unique {r : Registry Obj} {k k' : Lookup} {x y : Option Resolution}
    (h : Finds r e k x) (h' : Finds r e k' y) : k = k' ∧ x = y := by
  cases h with
  | call hp hx =>
    cases h' with
    | call hp' hy =>
      obtain rfl := Except.ok.inj (hp.symm.trans hp')
      exact ⟨rfl, hx.symm.trans hy⟩

lemma Finds.walk {r : Registry Obj} (hr : r.Named) {k : Lookup} {x : Option Resolution}
    (h : Finds r e k x) : ∃ c, r.class? k.className = some c ∧
      (r.findMember? k.member k.kind c.order).map (fun x => ⟨x.1.name, x.2⟩) = x := by
  cases h with
  | @call callId t member args kwargs p x hp hx =>
    exact ⟨p.ofClass, Registry.class?_of_classFor? hr (classFor?_of_receive hp), hx⟩

lemma Finds.same {r r' : Registry Obj} (hr : r.Named) (hs : r.SameClasses r') {e' : Event}
    {k : Lookup} {x y : Option Resolution} (h : Finds r e k x) (h' : Finds r' e' k y) : y = x := by
  have hr' : r'.Named := fun n c hc => hr n c ((hs.class? n).symm.trans hc)
  obtain ⟨c, hc, hx⟩ := h.walk hr
  obtain ⟨c', hc', hy⟩ := h'.walk hr'
  rw [hs.class?, hc] at hc'
  obtain rfl := Option.some.inj hc'
  rw [← hx, ← hy, Registry.findMember?_congr hs.byName]

lemma resolve_memory {c : Class Obj} {member : String} {kind : MemberKind} {m : Cache}
    (hm : (resolve c member kind w).2.host.cache = some m) {x : Lookup × Resolution}
    (hx : x ∈ m.entries) : (∃ m, w.host.cache = some m ∧ x ∈ m.entries) ∨
      ∃ owner found, w.registry.findMember? member kind c.order = some (owner, found) ∧
        x = (⟨c.name, member, kind⟩, ⟨owner.name, found⟩) := by
  cases h : w.host.cache with
  | none =>
    rw [resolve_of_no_cache h, h] at hm
    cases hm
  | some m₀ =>
    rcases resolve_cases h with ⟨y, owner, -, -, hr⟩ | ⟨-, hr⟩ <;> rw [hr] at hm <;> cases hm
    · exact .inl ⟨m₀, rfl, Cache.mem_get hx⟩
    · exact (mem_noting hx).imp_left fun hx => ⟨m₀, rfl, Cache.mem_get hx⟩

end Dispatching

namespace View

variable [IdSource S]

def watching (good : Dict String (Class Obj) → Option Cache → Prop) : View S S Obj :=
  { (forgetting : View S S Obj) with cache := id, good := good }

/-- A host seen as one without a memory. -/
def uncached : View S S Obj := { (forgetting : View S S Obj) with good := fun _ _ => True }

end View

namespace Dispatching

variable [IdSource S]

lemma dispatch_memory (e : Event) (w : Work S Obj) {m : Cache}
    (hm : (dispatch e w).2.host.cache = some m) {x : Lookup × Resolution} (hx : x ∈ m.entries) :
    (∃ m, w.host.cache = some m ∧ x ∈ m.entries) ∨ Finds w.registry e x.1 (some x.2) := by
  let V : View S S Obj := .watching fun _ cache => ∀ m, cache = some m → ∀ x ∈ m.entries,
    (∃ m, w.host.cache = some m ∧ x ∈ m.entries) ∨ Finds w.registry e x.1 (some x.2)
  have hw : V.goodHost w.host := fun m hm x hx => .inl ⟨m, hm, hx⟩
  have hr : V.ResolvesAt w e := by
    cases e with
    | externalCall callId t member args kwargs =>
      intro p hp
      refine ⟨rfl, fun m hm x hx => ?_⟩
      rcases resolve_memory hm hx with hx | ⟨owner, found, hf, rfl⟩
      · exact .inl hx
      · exact .inr (.call hp (by rw [hf]; rfl))
    | _ => trivial
  exact (View.dispatch_followsAt hw hr).good m hm x hx

end Dispatching

namespace Dispatchers

open Dispatching

variable [DecidableEq ι] [IdSource S] {s s₀ : Dispatchers ι S Obj} {m : Move ι Obj}
  {ms : List (Move ι Obj)}

lemma run_concat (s : Dispatchers ι S Obj) (ms : List (Move ι Obj)) (m : Move ι Obj) :
    s.run (ms ++ [m]) = (s.run ms).move m :=
  List.foldl_concat _ _ _ _

lemma run_append (s : Dispatchers ι S Obj) (ms ms' : List (Move ι Obj)) :
    s.run (ms ++ ms') = (s.run ms).run ms' :=
  List.foldl_append

lemma move_classes (s : Dispatchers ι S Obj) (m : Move ι Obj) :
    (∃ c, m.class? = some c ∧ (s.move m).registry = s.registry.registerClass c) ∨
      s.registry.SameClasses (s.move m).registry := by
  cases m with
  | dispatch i e =>
    obtain ⟨_, _, -, -, -, hg⟩ := Dispatching.dispatch_adds e (s.work i)
    exact .inr ⟨hg.byName, hg.byType⟩
  | marshal i v =>
    obtain ⟨_, hd⟩ := marshal_marshals (Marshal.toTerm_marshals v) (s.work i)
    exact .inr ⟨hd.registry.byName, hd.registry.byType⟩
  | close i =>
    obtain ⟨entries, he⟩ := Marshal.releaseAll_eq s.registry (s.own i).allocated
    have hm : (s.move (.close i)).registry = { s.registry with entries } := he
    rw [hm]
    exact .inr ⟨rfl, rfl⟩
  | registerClass c | enrollClass c => exact .inl ⟨c, rfl, rfl⟩
  | register x => exact .inr ⟨rfl, rfl⟩
  | lookup id => exact .inr ⟨rfl, rfl⟩
  | registerWithId id x =>
    cases hl : s.registry.live? id with
    | none =>
      rw [move_registerWithId_of_free hl]
      exact .inr ⟨rfl, rfl⟩
    | some y =>
      rw [move_registerWithId_of_live hl]
      exact .inr ⟨rfl, rfl⟩
  | release id =>
    cases hl : s.registry.live? id with
    | none =>
      rw [move_release_of_free hl]
      exact .inr ⟨rfl, rfl⟩
    | some y =>
      rw [move_release_of_live hl]
      exact .inr ⟨rfl, rfl⟩

lemma move_named (h : s.registry.Named) (m : Move ι Obj) : (s.move m).registry.Named := by
  rcases move_classes s m with ⟨c, -, hc⟩ | hs
  · rw [hc]
    exact h.registerClass c
  · intro n c hc
    rw [hs.class?] at hc
    exact h n c hc

lemma run_classes (hms : ∀ m ∈ ms, m.class? = none) :
    s.registry.SameClasses (s.run ms).registry := by
  induction ms generalizing s with
  | nil => exact ⟨rfl, rfl⟩
  | cons m ms ih =>
    obtain ⟨hm, hms⟩ := List.forall_mem_cons.mp hms
    rcases move_classes s m with ⟨c, hc, -⟩ | hs
    · rw [hm] at hc
      cases hc
    · have hr := ih (s := s.move m) hms
      exact ⟨hr.byName.trans hs.byName, hr.byType.trans hs.byType⟩

lemma run_named (h : s.registry.Named) (ms : List (Move ι Obj)) : (s.run ms).registry.Named := by
  induction ms generalizing s with
  | nil => exact h
  | cons m ms ih => exact ih (move_named h m)

lemma move_cache (hd : ∀ i e, m ≠ .dispatch i e) (hc : ∀ c, m ≠ .enrollClass c) :
    (s.move m).host.cache = s.host.cache := by
  cases m with
  | dispatch i e => exact absurd rfl (hd i e)
  | enrollClass c => exact absurd rfl (hc c)
  | registerWithId id x =>
    rw [move]
    cases s.registry.registerWithId id x .host <;> rfl
  | release id =>
    rw [move]
    cases s.registry.release id <;> rfl
  | _ => rfl

/-- An earlier call looked this up and found it there, and no session has registered a class since. -/
def FoundBefore (s₀ : Dispatchers ι S Obj) (ms : List (Move ι Obj)) (k : Lookup) (x : Resolution) :
    Prop :=
  ∃ earlier i e later, ms = earlier ++ .dispatch i e :: later ∧ (∀ c, .enrollClass c ∉ later) ∧
    Finds (s₀.run earlier).registry e k (some x)

lemma FoundBefore.concat {k : Lookup} {x : Resolution} (h : FoundBefore s₀ ms k x)
    (hm : ∀ c, m ≠ .enrollClass c) : FoundBefore s₀ (ms ++ [m]) k x := by
  obtain ⟨earlier, i, e, later, rfl, hl, hf⟩ := h
  refine ⟨earlier, i, e, later ++ [m], by simp, fun c hc => ?_, hf⟩
  rcases List.mem_append.mp hc with hc | hc
  · exact hl c hc
  · exact hm c (List.mem_singleton.mp hc).symm

structure Recalls (s₀ : Dispatchers ι S Obj) (ms : List (Move ι Obj)) (s : Dispatchers ι S Obj) :
    Prop where
  named : s.registry.Named
  entries : ∀ m, s.host.cache = some m → ∀ x ∈ m.entries, FoundBefore s₀ ms x.1 x.2

lemma Recalls.move (h : Recalls s₀ ms s) (hr : s.registry = (s₀.run ms).registry)
    (mv : Move ι Obj) : Recalls s₀ (ms ++ [mv]) (s.move mv) := by
  refine ⟨move_named h.named mv, fun m hm x hx => ?_⟩
  by_cases hc : ∃ c, mv = .enrollClass c
  · obtain ⟨c, rfl⟩ := hc
    obtain ⟨m₀, -, rfl⟩ := Option.map_eq_some_iff.mp hm
    cases hx
  · have hc : ∀ c, mv ≠ .enrollClass c := fun c h => hc ⟨c, h⟩
    by_cases hd : ∃ i e, mv = .dispatch i e
    · obtain ⟨i, e, rfl⟩ := hd
      rcases dispatch_memory e (s.work i) hm hx with ⟨m₀, hm₀, hx⟩ | hf
      · exact (h.entries m₀ hm₀ x hx).concat hc
      · exact ⟨ms, i, e, [], rfl, nofun, hr ▸ hf⟩
    · rw [move_cache (fun i e h => hd ⟨i, e, h⟩) hc] at hm
      exact (h.entries m hm x hx).concat hc

lemma recalls (hn : s₀.registry.Named) (hc : ∀ m, s₀.host.cache = some m → m.entries = [])
    (ms : List (Move ι Obj)) : Recalls s₀ ms (s₀.run ms) := by
  induction ms using List.reverseRecOn with
  | nil =>
    refine ⟨hn, fun m hm x hx => ?_⟩
    rw [hc m hm] at hx
    cases hx
  | append_singleton ms mv ih =>
    rw [run_concat]
    exact ih.move rfl mv

/-- Wherever an earlier call found what the event looks up, it is found there now. -/
def Unmoved (s₀ : Dispatchers ι S Obj) (ms : List (Move ι Obj)) (e : Event) : Prop :=
  ∀ k x y, FoundBefore s₀ ms k x → Finds (s₀.run ms).registry e k y → y = some x

theorem unmoved_of_enrolled (hn : s₀.registry.Named) (hc : ∀ c, .registerClass c ∉ ms)
    (e : Event) : Unmoved s₀ ms e := by
  rintro k x y ⟨earlier, i, e', later, rfl, hl, hf⟩ hy
  have hms : ∀ m ∈ .dispatch i e' :: later, m.class? = none := by
    intro m hm
    cases m with
    | registerClass c => exact absurd (List.mem_append_right _ hm) (hc c)
    | enrollClass c =>
      exact absurd ((List.mem_cons.mp hm).resolve_left nofun) (hl c)
    | _ => rfl
  rw [run_append] at hy
  exact hf.same (run_named hn earlier) (run_classes hms) hy

lemma Recalls.resolvesAt (h : Recalls s₀ ms s) (hs : s.registry = (s₀.run ms).registry) {e : Event}
    (hu : Unmoved s₀ ms e) (i : ι) : View.uncached.ResolvesAt (s.work i) e := by
  cases e with
  | externalCall callId t member args kwargs =>
    intro p hp
    refine ⟨?_, trivial⟩
    generalize hw : s.work i = w at hp
    have hn : resolve p.ofClass member (kindOf args) (View.uncached.work w) = _ :=
      resolve_of_no_cache rfl
    rw [hn]
    cases hc : w.host.cache with
    | none =>
      rw [resolve_of_no_cache hc]
      rfl
    | some m =>
      subst hw
      obtain ⟨m', -, hr⟩ := resolve_of_agreeing (c := p.ofClass) hc h.named fun x hx => by
        have hy : Finds s.registry (.externalCall callId t member args kwargs) _ _ := .call hp rfl
        rw [hs] at hy
        have hf := hu _ x _ (h.entries m hc _ (Cache.mem_of_find? hx)) hy
        rw [← hs] at hf
        obtain ⟨⟨owner, found⟩, ho, rfl⟩ := Option.map_eq_some_iff.mp hf
        exact ⟨owner, ho, rfl⟩
      rw [hr]
      rfl
  | _ => trivial

lemma Recalls.runs_found (h : Recalls s₀ ms (s₀.run ms)) (i : ι) {callId : UInt64} {t : Term}
    {member : String} {args : Option (List Term)} {kwargs : Option (Dict String Term)} {p : Receipt Obj}
    {owner : Class Obj} {found : MemberKind}
    (hp : receive (s₀.run ms).registry t member args kwargs = .ok p)
    (hr : (resolve p.ofClass member (kindOf args) ((s₀.run ms).work i)).1 = .ok (owner, found)) :
    (s₀.run ms).registry.class? owner.name = some owner ∧
      (Finds (s₀.run ms).registry (.externalCall callId t member args kwargs)
          ⟨p.ofClass.name, member, kindOf args⟩ (some ⟨owner.name, found⟩) ∨
        FoundBefore s₀ ms ⟨p.ofClass.name, member, kindOf args⟩ ⟨owner.name, found⟩) := by
  have walked (hf : place (s₀.run ms).registry p.ofClass member (kindOf args) = .ok (owner, found)) :
      (s₀.run ms).registry.class? owner.name = some owner ∧
        Finds (s₀.run ms).registry (.externalCall callId t member args kwargs)
          ⟨p.ofClass.name, member, kindOf args⟩ (some ⟨owner.name, found⟩) := by
    rw [place] at hf
    split at hf
    · rename_i x hx
      obtain rfl := Except.ok.inj hf
      exact ⟨Registry.class?_of_findMember? h.named hx, .call hp (by rw [hx]; rfl)⟩
    · cases hf
  generalize hw : (s₀.run ms).work i = w at hr
  cases hc : w.host.cache with
  | none =>
    rw [resolve_of_no_cache hc] at hr
    subst hw
    exact (walked hr).imp_right .inl
  | some m =>
    rcases resolve_cases hc with ⟨x, c, hx, ho, heq⟩ | ⟨-, heq⟩ <;> rw [heq] at hr <;> subst hw
    · cases hr
      have hn := h.named _ _ ho
      rw [hn]
      exact ⟨ho, .inr (h.entries m hc _ (Cache.mem_of_find? hx))⟩
    · exact (walked hr).imp_right .inl

/-- Whatever is dispatched and registered in turn, classes included: an event is answered as without
a memory, if what it looks up was found by earlier calls only where it is found now. In any case
what runs is a member of the class that is now registered under the name where an earlier call found
it, or the present walk. -/
theorem unmoved_answered_uncached (source : S) (capacity : Option Nat) (ms : List (Move ι Obj))
    (i : ι) (e : Event) :
    let s₀ : Dispatchers ι S Obj := start ⟨source, .empty, capacity.map Cache.ofSize⟩
    let w := (s₀.run ms).work i
    (Unmoved s₀ ms e → Dispatching.dispatch e (View.uncached.work w) =
      ((Dispatching.dispatch e w).1, View.uncached.work (Dispatching.dispatch e w).2)) ∧
    ∀ callId t member args kwargs p owner found, e = .externalCall callId t member args kwargs →
      receive w.registry t member args kwargs = .ok p →
      (resolve p.ofClass member (kindOf args) w).1 = .ok (owner, found) →
        w.registry.class? owner.name = some owner ∧
          (Finds w.registry e ⟨p.ofClass.name, member, kindOf args⟩ (some ⟨owner.name, found⟩) ∨
            FoundBefore s₀ ms ⟨p.ofClass.name, member, kindOf args⟩ ⟨owner.name, found⟩) := by
  intro s₀ w
  have hn : s₀.registry.Named := Registry.Named.empty
  have h : Recalls s₀ ms (s₀.run ms) := by
    refine recalls hn (fun m hm => ?_) ms
    obtain ⟨n, -, rfl⟩ := Option.map_eq_some_iff.mp hm
    rfl
  refine ⟨fun hu => ?_, ?_⟩
  · exact (View.dispatch_followsAt (V := View.uncached) trivial (h.resolvesAt rfl hu i)).eq
  · rintro callId t member args kwargs p owner found rfl hp hr
    exact h.runs_found i hp hr

section Samples

def ada : Instance Unit := ⟨(), ⟨"Alpha"⟩, .brought 0, none⟩

def user : Class Unit := (Class.forType "User" ⟨"Alpha"⟩).withSpecializers ["Staff", "Actor"]

def roleClass (name role : String) : Class Unit :=
  (Class.abstractOf name).addInstanceMethod "role" fun _ _ => .value (.string role)

def roleOfAda : Event := .externalCall 7 (.ofId 1) "role" (some []) none

def asked : List (Move Unit Unit) :=
  [.registerClass (roleClass "Actor" "actor"), .registerClass user, .registerWithId 1 ada,
    .dispatch () roleOfAda]

def outdated : List (Move Unit Unit) := asked ++ [.registerClass (roleClass "Staff" "staff")]

theorem unmoved_answered_uncached_actor :
    let s₀ : Dispatchers Unit Counter Unit := start ⟨⟨2⟩, .empty, some (.ofSize 16)⟩
    let ms := asked ++ [.registerClass (roleClass "Guest" "guest")]
    Unmoved s₀ ms roleOfAda ∧
      (Dispatching.dispatch roleOfAda (View.uncached.work ((s₀.run ms).work ()))).1 =
        .ok (some ⟨7, some (.string "actor")⟩) := by
  intro s₀ ms
  have hu : Unmoved s₀ ms roleOfAda := by
    rintro k x y ⟨earlier, i, e, later, hs, -, hf⟩ hn
    have hnow : Finds (s₀.run ms).registry roleOfAda _ (some ⟨"Actor", .method⟩) :=
      .call rfl rfl
    obtain ⟨-, rfl⟩ := hnow.unique hn
    obtain ⟨rfl, rfl, -⟩ : earlier = asked.take 3 ∧ e = roleOfAda ∧ later = _ := by
      simpa [ms, asked, List.cons_eq_append_iff] using hs
    have hthen : Finds (s₀.run (asked.take 3)).registry roleOfAda _ (some ⟨"Actor", .method⟩) :=
      .call rfl rfl
    exact (hthen.unique hf).2
  refine ⟨hu, ?_⟩
  have he := (unmoved_answered_uncached (⟨2⟩ : Counter) (some 16) ms () roleOfAda).1 hu
  exact (congrArg Prod.fst he).trans rfl

/-- Once staff have a role as well, a memory still gives the one of actors. -/
theorem moved_member_outdated :
    ¬ ∀ (source : Counter) (capacity : Option Nat) (ms : List (Move Unit Unit)) (e : Event),
      let w := ((start ⟨source, .empty, capacity.map Cache.ofSize⟩ : Dispatchers Unit Counter Unit).run
        ms).work ()
      (Dispatching.dispatch e w).1 = (Dispatching.dispatch e (View.uncached.work w)).1 := by
  intro h
  have hr : (.ok (some ⟨7, some (.string "actor")⟩) : Except Error (Option Answer)) =
      .ok (some ⟨7, some (.string "staff")⟩) :=
    h ⟨2⟩ (some 16) outdated roleOfAda
  simp at hr

end Samples

end Dispatchers

end PolicyBridge
