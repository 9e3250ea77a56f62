import Mathlib.Tactic
import PolicyBridge.Proofs.Dispatch.Dispatchers

namespace PolicyBridge

variable {S Obj ι : Type}

namespace Dispatchers

variable {s s' : Dispatchers ι S Obj} {i : ι} {ids : List UInt64} {m : Move ι Obj}

def withRegistry (s : Dispatchers ι S Obj) (r : Registry Obj) : Dispatchers ι S Obj :=
  { s with host := { s.host with registry := r } }

def work (s : Dispatchers ι S Obj) (i : ι) : Work (Recorded S) Obj := ⟨s.host, s.own i⟩

variable [DecidableEq ι]

def withWork (s : Dispatchers ι S Obj) (i : ι) (w : Work (Recorded S) Obj) : Dispatchers ι S Obj :=
  ⟨w.host, Function.update s.own i w.own, s.held⟩

def move [IdSource S] (s : Dispatchers ι S Obj) : Move ι Obj → Dispatchers ι S Obj
  | .dispatch i e => s.withWork i (Dispatching.dispatch e (s.work i)).2
  | .marshal i v => s.withWork i (Dispatching.marshal (Marshal.toTerm v) (s.work i)).2
  | .close i => s.withWork i (s.work i).close
  | .register x =>
    let (id, source) := IdSource.next s.host.source
    ⟨{ s.host with source, registry := s.registry.register id x .host }, s.own, id :: s.held⟩
  | .registerWithId id x =>
    match s.registry.registerWithId id x .host with
    | .ok r => { s.withRegistry r with held := id :: s.held }
    | .error _ => s
  | .registerClass c => s.withRegistry (s.registry.registerClass c)
  | .enrollClass c =>
    { s with host := { s.host with
        registry := s.registry.registerClass c
        cache := s.host.cache.map Cache.clear } }
  | .lookup _ => s
  | .release id =>
    match s.registry.release id with
    | .ok (_, r) => { s.withRegistry r with held := s.held.filter (· ≠ id) }
    | .error _ => s

def drawn [IdSource S] (s : Dispatchers ι S Obj) (m : Move ι Obj) : List UInt64 :=
  ((s.move m).record.drop s.record.length).filterMap fun
    | .drew id => some id
    | _ => none

/-- The id source gives out no live id, and the host releases what it registered. -/
structure Lawful [IdSource S] (s : Dispatchers ι S Obj) (m : Move ι Obj) : Prop where
  frees : s.registry.Frees (s.drawn m)
  releases : ∀ id, m = .release id → id ∈ s.held ∨ s.registry.live? id = none

def run [IdSource S] (s : Dispatchers ι S Obj) (ms : List (Move ι Obj)) : Dispatchers ι S Obj :=
  ms.foldl move s

inductive LawfulRun [IdSource S] : Dispatchers ι S Obj → List (Move ι Obj) → Prop
  | nil {s : Dispatchers ι S Obj} : LawfulRun s []
  | cons {s : Dispatchers ι S Obj} {m : Move ι Obj} {ms : List (Move ι Obj)} :
      Lawful s m → LawfulRun (s.move m) ms → LawfulRun s (m :: ms)

variable [IdSource S]

section Entries

variable {id : UInt64} {x : Instance Obj} {y : Entry Obj}

lemma move_registerWithId_of_free (h : s.registry.live? id = none) :
    s.move (.registerWithId id x) =
      { s.withRegistry (s.registry.register id x .host) with held := id :: s.held } := by
  rw [move, Registry.registerWithId_of_free _ _ _ _ h]

lemma move_registerWithId_of_live (h : s.registry.live? id = some y) :
    s.move (.registerWithId id x) = s := by
  rw [move, Registry.registerWithId_of_live _ _ _ _ h]

lemma move_release_of_free (h : s.registry.live? id = none) : s.move (.release id) = s := by
  rw [move, Registry.release_of_free _ _ h]

lemma move_release_of_live (h : s.registry.live? id = some y) :
    s.move (.release id) =
      { s.withRegistry (s.registry.discard id) with held := s.held.filter (· ≠ id) } := by
  rw [move, Registry.release_of_live _ _ h]

end Entries

lemma drawn_eq (h : (s.move m).record = s.record ++ ids.map .drew) : s.drawn m = ids := by
  rw [drawn, h, List.drop_left, List.filterMap_map]
  exact List.filterMap_some

lemma adds_of_work {w : Work (Recorded S) Obj} {drawn : List UInt64} (hl : Lawful s m)
    (hm : s.move m = s.withWork i w) (hr : w.host.source.record = s.record ++ drawn.map .drew)
    (hf : s.registry.Frees drawn → s.registry.Frees ids)
    (ha : w.own.allocated = (s.own i).allocated ++ ids) (hg : s.registry.Gains ids w.registry) :
    Adds i ids s (s.move m) := by
  have hd : s.drawn m = drawn := drawn_eq (by rw [hm]; exact hr)
  rw [hm]
  refine ⟨hf (hd ▸ hl.frees), ?_, fun j hji => Function.update_of_ne hji _ _, rfl, hg⟩
  change (Function.update s.own i w.own i).allocated = _
  rw [Function.update_self]
  exact ha

lemma dispatch_adds {e : Event} (hl : Lawful s (.dispatch i e)) :
    ∃ ids, Adds i ids s (s.move (.dispatch i e)) := by
  obtain ⟨drawn, ids, hr, hf, ha, hg⟩ := Dispatching.dispatch_adds e (s.work i)
  exact ⟨ids, adds_of_work hl rfl hr hf ha hg⟩

lemma marshal_adds {v : HostValue Obj} (hl : Lawful s (.marshal i v)) :
    ∃ ids, Adds i ids s (s.move (.marshal i v)) := by
  obtain ⟨ids, h⟩ := Dispatching.marshal_marshals (Marshal.toTerm_marshals v) (s.work i)
  exact ⟨ids, adds_of_work hl rfl h.record (fun h => h) h.allocated h.registry⟩

lemma close_closes (s : Dispatchers ι S Obj) (i : ι) : Closes i s (s.move (.close i)) :=
  ⟨Function.update_self .., fun _ hji => Function.update_of_ne hji _ _, rfl,
    fun _ => Marshal.live?_releaseAll _ _ _⟩

lemma failed_makeExternal {id : UInt64} {t : Term} {x : Error}
    (h : (Dispatching.dispatch (.makeExternal id t) (s.work i)).1 = .error x) :
    s.move (.dispatch i (.makeExternal id t)) = s := by
  rcases Dispatching.makeExternal_cases id t (s.work i) with ⟨e, he⟩ | ⟨r, he, -, -⟩
  · have hd : Dispatching.dispatch (.makeExternal id t) (s.work i) = (.error e, s.work i) :=
      Failing.bind_error he
    rw [move, hd]
    change (⟨s.host, Function.update s.own i (s.own i), s.held⟩ : Dispatchers ι S Obj) = s
    rw [Function.update_eq_self]
  · have hd : Dispatching.dispatch (.makeExternal id t) (s.work i) = (.ok none, _) :=
      Failing.bind_ok he
    rw [hd] at h
    cases h

lemma move_isolated (hs : Isolated s) (hl : Lawful s m) :
    Isolated (s.move m) ∧ Keeps m s (s.move m) := by
  cases m with
  | dispatch i e =>
    obtain ⟨ids, h⟩ := dispatch_adds hl
    exact ⟨h.isolated hs, h.keeps hs⟩
  | marshal i v =>
    obtain ⟨ids, h⟩ := marshal_adds hl
    exact ⟨h.isolated hs, h.keeps hs⟩
  | close i => exact ⟨(close_closes s i).isolated hs, (close_closes s i).keeps hs⟩
  | register x =>
    have hd : s.drawn (.register x) = [(IdSource.next s.host.source.inner).1] := drawn_eq rfl
    have hf := hl.frees.2 (IdSource.next s.host.source.inner).1 (by simp [hd])
    exact keeps_of_register hs hf nofun rfl rfl rfl
  | registerWithId id x =>
    cases he : s.registry.live? id with
    | none =>
      rw [move_registerWithId_of_free he]
      exact keeps_of_register hs he nofun rfl rfl rfl
    | some y =>
      rw [move_registerWithId_of_live he]
      exact keeps_of_same hs nofun rfl rfl rfl
  | registerClass c | enrollClass c => exact keeps_of_same hs nofun rfl rfl rfl
  | lookup id => exact keeps_of_same hs nofun rfl rfl rfl
  | release id =>
    cases he : s.registry.live? id with
    | none =>
      rw [move_release_of_free he]
      refine keeps_of_same hs ?_ rfl rfl rfl
      rintro y ⟨⟩
      exact he
    | some e =>
      have hid : id ∈ s.held := (hl.releases id rfl).resolve_right (by rw [he]; nofun)
      rw [move_release_of_live he]
      exact keeps_of_release hs hid rfl rfl rfl

omit [DecidableEq ι] in
lemma makeExternal_of_live {id : UInt64} {t : Term} (h : s.registry.live? id ≠ none) :
    ∃ x, (Dispatching.dispatch (.makeExternal id t) (s.work i)).1 = .error x := by
  rcases Dispatching.makeExternal_cases id t (s.work i) with ⟨e, he⟩ | ⟨r, -, hf, -⟩
  · have hd : Dispatching.dispatch (.makeExternal id t) (s.work i) = (.error e, s.work i) :=
      Failing.bind_error he
    exact ⟨e, by rw [hd]⟩
  · exact absurd hf h

lemma run_isolated {ms : List (Move ι Obj)} (hl : LawfulRun s ms) (hs : Isolated s) :
    Isolated (s.run ms) := by
  induction hl with
  | nil => exact hs
  | cons hl _ ih => exact ih (move_isolated hs hl).1

lemma run_keeps_queries {ms : List (Move ι Obj)} (hl : LawfulRun s ms) (hs : Isolated s) {j : ι}
    (hj : .close j ∉ ms) {id : UInt64} (hid : id ∈ (s.own j).allocated) :
    (s.run ms).registry.live? id = s.registry.live? id ∧ id ∈ ((s.run ms).own j).allocated := by
  induction hl with
  | nil => exact ⟨rfl, hid⟩
  | @cons s m ms hl _ ih =>
    obtain ⟨hm, hms⟩ := not_or.mp (mt List.mem_cons.mpr hj)
    obtain ⟨hs', hk⟩ := move_isolated hs hl
    obtain ⟨he, hid'⟩ := hk.queries j (Ne.symm hm) id hid
    obtain ⟨hr, hmem⟩ := ih hs' hms hid'
    exact ⟨hr.trans he, hmem⟩

lemma run_keeps_hosts {ms : List (Move ι Obj)} (hl : LawfulRun s ms) (hs : Isolated s)
    {id : UInt64} (hr : .release id ∉ ms) (hid : id ∈ s.held) :
    (s.run ms).registry.live? id = s.registry.live? id ∧ id ∈ (s.run ms).held := by
  induction hl with
  | nil => exact ⟨rfl, hid⟩
  | @cons s m ms hl _ ih =>
    obtain ⟨hm, hms⟩ := not_or.mp (mt List.mem_cons.mpr hr)
    obtain ⟨hs', hk⟩ := move_isolated hs hl
    obtain ⟨he, hid'⟩ := hk.hosts id hid (Ne.symm hm)
    obtain ⟨hr, hmem⟩ := ih hs' hms hid'
    exact ⟨hr.trans he, hmem⟩

def start (h : Host S Obj) : Dispatchers ι S Obj :=
  ⟨⟨⟨h.source, []⟩, h.registry, h.cache⟩, fun _ => .fresh, []⟩

omit [DecidableEq ι] [IdSource S] in
lemma start_isolated (h : Host S Obj) : Isolated (start h : Dispatchers ι S Obj) :=
  ⟨fun _ => List.nodup_nil, fun _ _ _ => List.disjoint_nil_left _, nofun, nofun⟩

/-- In every run of queries and host code over one registry, whatever is dispatched, closed,
registered and released in turn, the queries' ids stay apart from each other and from the host's. A
query adds entries of its own only, a request to build an object that fails adds nothing, and closing
a query removes exactly its ids; so all other ids keep their entries. -/
theorem lawful_run_isolates (h : Host S Obj) (ms : List (Move ι Obj))
    (hl : LawfulRun (start h) ms) :
    let s := (start h).run ms
    Isolated s ∧
      (∀ i e, Lawful s (.dispatch i e) → ∃ ids, Adds i ids s (s.move (.dispatch i e))) ∧
      (∀ i id t, s.registry.live? id ≠ none →
        ∃ x, (Dispatching.dispatch (.makeExternal id t) (s.work i)).1 = .error x) ∧
      (∀ i id t x, (Dispatching.dispatch (.makeExternal id t) (s.work i)).1 = .error x →
        s.move (.dispatch i (.makeExternal id t)) = s) ∧
      (∀ i, Closes i s (s.move (.close i))) ∧
      ∀ ms', LawfulRun s ms' →
        (∀ j, .close j ∉ ms' → ∀ id ∈ (s.own j).allocated,
          (s.run ms').registry.live? id = s.registry.live? id ∧
            id ∈ ((s.run ms').own j).allocated) ∧
        ∀ id ∈ s.held, .release id ∉ ms' →
          (s.run ms').registry.live? id = s.registry.live? id ∧ id ∈ (s.run ms').held := by
  intro s
  have hs : Isolated s := run_isolated hl (start_isolated h)
  refine ⟨hs, fun i e he => dispatch_adds he, fun i id t => makeExternal_of_live,
    fun i id t x => failed_makeExternal, close_closes s, fun ms' hl' => ⟨?_, ?_⟩⟩
  · exact fun j hj id hid => run_keeps_queries hl' hs hj hid
  · exact fun id hid hr => run_keeps_hosts hl' hs hr hid

theorem counted_run_isolates :
    let x : Instance Unit := ⟨(), ⟨"Unit"⟩, .built 0, none⟩
    let h : Host Counter Unit := ⟨⟨1⟩, .empty, none⟩
    let ms : List (Move Bool Unit) := [.register x, .marshal false (.list [.object x, .object x]),
      .dispatch true (.makeExternal 9 (.integer 0)), .close false, .release 1]
    LawfulRun (start h) ms ∧ Isolated ((start h).run ms) := by
  intro x h ms
  have hl : LawfulRun (start h) ms := by
    refine .cons ⟨?_, nofun⟩ (.cons ⟨?_, nofun⟩ (.cons ⟨?_, nofun⟩ (.cons ⟨?_, nofun⟩
      (.cons ⟨?_, ?_⟩ .nil))))
    · exact ⟨List.nodup_singleton 1, fun _ _ => rfl⟩
    · refine ⟨(by decide : [(2 : UInt64), 3].Nodup), ?_⟩
      change ∀ id ∈ [(2 : UInt64), 3], _
      simp only [List.forall_mem_cons]
      exact ⟨rfl, rfl, List.forall_mem_nil _⟩
    · exact ⟨List.nodup_nil, List.forall_mem_nil _⟩
    · exact ⟨List.nodup_nil, List.forall_mem_nil _⟩
    · exact ⟨List.nodup_nil, List.forall_mem_nil _⟩
    · rintro id ⟨⟩
      exact .inl (List.mem_cons_self ..)
  exact ⟨hl, (lawful_run_isolates h ms hl).1⟩

end Dispatchers

end PolicyBridge
