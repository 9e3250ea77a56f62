import Mathlib.Tactic
import PolicyBridge.Proofs.Query.Tallying
import PolicyBridge.Proofs.Session.Constants
import PolicyBridge.Proofs.Session.Moving
import PolicyBridge.Proofs.Session.Serving

namespace PolicyBridge

variable {E Q Obj α : Type}

namespace Session

def Uncounted (s s' : Session E Obj) : Prop := s'.shared.telemetry = s.shared.telemetry

variable [Engine E Q]

lemma uncounted_stepClosed : StepClosed Q (Uncounted : Session E Obj → _ → Prop) where
  trans h h' := Eq.trans h' h
  aside _ h := h
  next _ := rfl
  load _ _ := rfl
  clearRules _ := rfl
  bind _ _ _ := rfl

inductive Opens (s : Session E Obj) : Except Error (Query Q Obj) × Session E Obj → Prop
  | opened {q : Query Q Obj} {s' : Session E Obj} : q.released = false →
      s'.shared.telemetry = s.shared.telemetry.map Telemetry.recordStarted → Opens s (.ok q, s')
  | failed {x : Error} {s' : Session E Obj} : s.Uncounted s' → Opens s (.error x, s')

omit [Engine E Q] in
lemma starting_opens (m : Marshaling E Obj α) (f : Fault → Error) (c : α → EngineCall E Q)
    (s : Session E Obj) : Opens s (starting m f c s) := by
  rcases hd : m s.desk with ⟨x | a, d⟩
  · rw [starting_of_unmarshalable hd]
    exact .failed rfl
  · rcases hc : c a d.source with ⟨x | handle, e⟩
    · rw [starting_of_refused hd hc]
      exact .failed rfl
    · rw [starting_of_accepted hd hc]
      exact .opened rfl rfl

lemma evaluate_opens (rule : String) (args : List (HostValue Obj))
    (bindings : List (String × HostValue Obj)) (s : Session E Obj) :
    Opens s (evaluate rule args bindings s) :=
  starting_opens ..

lemma evaluateText_opens (text : String) (bindings : List (String × HostValue Obj))
    (s : Session E Obj) : Opens s (evaluateText text bindings s) :=
  starting_opens ..

end Session

inductive Action (E Obj : Type) where
  | request (r : Request Obj)
  | meanwhile (f : Host E Obj → Host E Obj)

/-- A session in use, and on the side what its queries have gone through: those it lists, in their
order, and those put away by the request that started them. -/
structure Chronicle (E Q Obj : Type) where
  served : Served E Q Obj
  lives : List (Life Obj)
  past : List (Life Obj)

namespace Chronicle

def start (engine : E) (config : Config) : Chronicle E Q Obj := ⟨Served.start engine config, [], []⟩

def all (c : Chronicle E Q Obj) : List (Life Obj) := c.lives ++ c.past

def going (c : Chronicle E Q Obj) (n : Nat) (xs : Run E Q Obj → Life Obj) : List (Life Obj) :=
  match c.served.queries[n]? with
  | some q => c.lives.modify n (· ++ xs ⟨c.served.session.shared, q⟩)
  | none => c.lives

structure Balanced (c : Chronicle E Q Obj) : Prop where
  telemetry : ∃ t, c.served.session.shared.telemetry = some t ∧ t.Shows c.all
  released : c.served.queries.map (·.released) = c.lives.map (·.outcome.isSome)
  past : ∀ l ∈ c.past, l.outcome.isSome = true

variable {c : Chronicle E Q Obj}

lemma start_balanced (engine : E) {config : Config} (h : config.telemetry.enabled = true) :
    Balanced (start engine config : Chronicle E Q Obj) := by
  refine ⟨⟨.named config.telemetry.serviceName, ?_, .nothing _⟩, rfl, List.forall_mem_nil _⟩
  exact if_pos h

namespace Balanced

lemma kept {s : Served E Q Obj} (h : c.Balanced) (hq : s.queries = c.served.queries)
    (ht : s.session.shared.telemetry = c.served.session.shared.telemetry) :
    Balanced ⟨s, c.lives ++ List.replicate (s.queries.length - c.served.queries.length) [],
      c.past ++ []⟩ := by
  rw [hq, Nat.sub_self, List.replicate_zero, List.append_nil, List.append_nil]
  exact ⟨by rw [ht]; exact h.telemetry, by rw [hq]; exact h.released, h.past⟩

lemma started {m : InSession E Obj (Query Q Obj)} (h : c.Balanced)
    (hm : c.served.session.Opens (m c.served.session)) :
    let s := (Served.starting m c.served).2
    Balanced ⟨s, c.lives ++ List.replicate (s.queries.length - c.served.queries.length) [],
      c.past ++ []⟩ := by
  generalize hx : m c.served.session = x at hm
  cases hm with
  | failed ht =>
    rw [Served.starting_of_error hx]
    exact h.kept rfl ht
  | @opened q s' hr ht =>
    obtain ⟨t, hc, hs⟩ := h.telemetry
    have hn : (c.served.queries ++ [q]).length - c.served.queries.length = 1 := by simp
    have hp : ([] :: c.all).Perm (c.lives ++ [[]] ++ c.past) := by
      rw [List.append_assoc]
      exact List.perm_middle.symm
    rw [Served.starting_of_ok hx, List.append_nil]
    simp only [hn, List.replicate_one]
    refine ⟨⟨t.recordStarted, ?_, hs.start.perm hp⟩, ?_, h.past⟩
    · rw [ht, hc]
      rfl
    · rw [List.map_append, List.map_append, h.released, List.map_singleton, hr]
      rfl

lemma split {n : Nat} {q : Query Q Obj} (h : c.Balanced) (hq : c.served.queries[n]? = some q) :
    ∃ l ls ls', c.lives = ls ++ l :: ls' ∧ ls.length = n ∧
      Query.Tells (ls ++ ls' ++ c.past) l ⟨c.served.session.shared, q⟩ := by
  have hr := congrArg (·[n]?) h.released
  simp only [List.getElem?_map, hq, Option.map_some] at hr
  obtain ⟨l, hl, ho⟩ := Option.map_eq_some_iff.mp hr.symm
  obtain ⟨hn, hg⟩ := List.getElem?_eq_some_iff.mp hl
  obtain ⟨ls, ls', he, hls⟩ : ∃ ls ls', c.lives = ls ++ l :: ls' ∧ ls.length = n :=
    ⟨c.lives.take n, c.lives.drop (n + 1), by simp [← hg], by simp [hn.le]⟩
  obtain ⟨t, ht, hs⟩ := h.telemetry
  refine ⟨l, ls, ls', he, hls, ⟨t, ht, hs.perm ?_⟩, ho.symm⟩
  rw [all, he]
  exact List.perm_middle.append_right _

lemma gone {m : Running E Q Obj α} {xs : Run E Q Obj → Life Obj} (h : c.Balanced)
    (hm : ∀ {others l r}, Query.Tells others l r → Query.Tells others (l ++ xs r) (m r).2)
    (n : Nat) (f : α → Response Obj) :
    Balanced ⟨(Served.onQuery n m f c.served).2, c.going n xs, c.past ++ []⟩ := by
  rw [List.append_nil, going]
  cases hq : c.served.queries[n]? with
  | none =>
    rw [Served.onQuery_of_none hq]
    exact h
  | some q =>
    rw [Served.onQuery_of_some hq]
    -- only the life of this query goes on; those of the others stand as they are
    obtain ⟨l, ls, ls', he, rfl, ht⟩ := h.split hq
    have hr := hm ht
    obtain ⟨t, hc, hs⟩ := hr.telemetry
    have hl (l' : Life Obj) : (ls ++ l :: ls').modify ls.length (· ++ l') =
        ls ++ (l ++ l') :: ls' := by
      simp [List.modify_eq_take_cons_drop]
    have hq' := h.released
    rw [he] at hq' ⊢
    refine ⟨⟨t, hc, hs.perm ?_⟩, ?_, h.past⟩
    · simp only [all, hl]
      exact List.perm_middle.symm.append_right _
    · simp only [hl, List.map_set, hq', hr.released]
      simp

lemma count_none (h : c.Balanced) : (c.all.map Life.outcome).count none =
    c.served.queries.countP fun q => !q.released := by
  have hp : (c.past.map Life.outcome).count none = 0 := by
    refine List.count_eq_zero.mpr fun hn => ?_
    obtain ⟨l, hl, ho⟩ := List.mem_map.mp hn
    have := h.past l hl
    rw [ho] at this
    cases this
  rw [all, List.map_append, List.count_append, hp, add_zero]
  calc (c.lives.map Life.outcome).count none
    _ = (c.lives.map (·.outcome.isSome)).countP (! ·) := by
      rw [List.count_eq_countP, List.countP_map, List.countP_map]
      refine List.countP_congr fun l _ => ?_
      cases hl : l.outcome <;> simp [hl]
    _ = c.served.queries.countP fun q => !q.released := by
      rw [← h.released, List.countP_map]
      rfl

end Balanced

variable [Engine E Q]

def passed (s : Session E Obj) : Request Obj → List (Life Obj)
  | .isAllowed polls actor action resource =>
    match Session.evaluate "allow" [actor, action, resource] [] s with
    | (.ok q, s') => [Query.polls polls ⟨s'.shared, q⟩ ++ [.stopped]]
    | (.error _, _) => []
  | _ => []

lemma passed_shows (polls : Nat) (actor action resource : HostValue Obj)
    {s : Session E Obj} {ls : List (Life Obj)}
    (h : ∃ t, s.shared.telemetry = some t ∧ t.Shows ls) :
    let s' := (Session.isAllowed polls actor action resource s).2
    let past : List (Life Obj) := passed s (.isAllowed polls actor action resource)
    ∃ t, s'.shared.telemetry = some t ∧ t.Shows (past ++ ls) ∧
      ∀ l ∈ past, l.outcome.isSome = true := by
  intro s' past
  have ho := Session.evaluate_opens (Q := Q) "allow" [actor, action, resource] [] s
  generalize hx : Session.evaluate "allow" [actor, action, resource] [] s = x at ho
  obtain ⟨t, ht, hs⟩ := h
  cases ho with
  | @failed e s₁ hu =>
    have hk : Session.isAllowed polls actor action resource s = _ := Session.isAllowed_of_error hx
    have hp : past = [] := by
      change passed _ _ = _
      rw [passed, hx]
    rw [hp]
    refine ⟨t, ?_, hs, List.forall_mem_nil _⟩
    change (Session.isAllowed polls actor action resource s).2.shared.telemetry = _
    rw [hk]
    exact Eq.trans hu ht
  | @opened q s₁ hr hu =>
    have hk : Session.isAllowed polls actor action resource s = _ :=
      Session.isAllowed_of_started hx
    have hp : past = [Query.polls polls ⟨s₁.shared, q⟩ ++ [.stopped]] := by
      change passed _ _ = _
      rw [passed, hx]
    have hq : Query.Tells ls [] ⟨s₁.shared, q⟩ := by
      refine ⟨⟨t.recordStarted, ?_, hs.start⟩, hr⟩
      rw [hu, ht]
      rfl
    obtain ⟨⟨t', ht', hs'⟩, -⟩ := Query.settle_tells (Query.next polls ⟨s₁.shared, q⟩).1
      (Query.next_tells polls hq)
    rw [hp]
    refine ⟨t', ?_, hs', List.forall_mem_singleton.mpr ?_⟩
    · change (Session.isAllowed polls actor action resource s).2.shared.telemetry = _
      rw [hk]
      exact ht'
    · rw [Life.outcome_snoc]
      exact Option.isSome_or.trans (Bool.or_true _)

def livesAfter (c : Chronicle E Q Obj) (begun : Nat) : Request Obj → List (Life Obj)
  | .next n polls => c.going n (Query.polls polls)
  | .close n | .drop n => c.going n fun _ => [.stopped]
  | _ => c.lives ++ List.replicate begun []

variable [ClassObject Obj]

def step (c : Chronicle E Q Obj) : Action E Obj → Chronicle E Q Obj
  | .meanwhile f =>
    { c with served.session := c.served.session.withHost (f c.served.session.shared.host) }
  | .request r =>
    let served := (Served.serve r c.served).2
    { served
      lives := c.livesAfter (served.queries.length - c.served.queries.length) r
      past := c.past ++ passed c.served.session r }

def run (c : Chronicle E Q Obj) (actions : List (Action E Obj)) : Chronicle E Q Obj :=
  actions.foldl step c

namespace Balanced

lemma allowed (polls : Nat) (actor action resource : HostValue Obj) (h : c.Balanced) :
    Balanced (c.step (.request (.isAllowed polls actor action resource))) := by
  let r : Request Obj := .isAllowed polls actor action resource
  obtain ⟨t, ht, hs, hp⟩ := passed_shows polls actor action resource h.telemetry
  have hl : (c.step (.request r)).lives = c.lives := by
    change c.lives ++ List.replicate (c.served.queries.length - c.served.queries.length) [] = _
    rw [Nat.sub_self, List.replicate_zero, List.append_nil]
  refine ⟨⟨t, ht, hs.perm ?_⟩, ?_, List.forall_mem_append.mpr ⟨h.past, hp⟩⟩
  · rw [all, all, hl]
    refine List.perm_append_comm.trans ?_
    rw [List.append_assoc]
    rfl
  · rw [hl]
    exact h.released

lemma step (h : c.Balanced) (a : Action E Obj) : (c.step a).Balanced := by
  cases a with
  | meanwhile f => exact ⟨h.telemetry, h.released, h.past⟩
  | request r =>
    cases r with
    | load sources => exact h.kept rfl (Session.uncounted_stepClosed.loads _ sources _)
    | loadFiles fs paths => exact h.kept rfl (Session.uncounted_stepClosed.loadFiles fs paths _)
    | clearRules => exact h.kept rfl (Session.uncounted_stepClosed.clears _)
    | registerClass c => exact h.kept rfl (Session.uncounted_stepClosed.registerClass c _)
    | registerConstant name v =>
      exact h.kept rfl (Session.uncounted_stepClosed.registerConstant name v _)
    | registerInstance i => exact h.kept rfl rfl
    | releaseInstance id => exact h.kept rfl (Session.uncounted_stepClosed.releaseInstance id _)
    | lookUp id => exact h.kept rfl rfl
    | evaluate rule args bindings => exact h.started (Session.evaluate_opens rule args bindings _)
    | evaluateText text bindings => exact h.started (Session.evaluateText_opens text bindings _)
    | isAllowed polls actor action resource => exact h.allowed polls actor action resource
    | next n polls => exact h.gone (Query.next_tells polls) n _
    | close n => exact h.gone Query.close_tells n _
    | drop n => exact h.gone Query.drop_tells n _

lemma run (h : c.Balanced) (actions : List (Action E Obj)) : (c.run actions).Balanced := by
  induction actions generalizing c with
  | nil => exact h
  | cons a actions ih => exact ih (h.step a)

end Balanced

/-- However a session with counters and its queries are used, whatever the engine and the host do,
the counters show at each point what the queries have gone through. So many queries as have been
started have ended, each in the way that came first, or are not released yet. -/
theorem counters_conserve_queries (engine : E) (config : Config)
    (h : config.telemetry.enabled = true) (actions : List (Action E Obj)) :
    let c := (start engine config : Chronicle E Q Obj).run actions
    ∃ t, c.served.session.shared.telemetry = some t ∧ t.Shows c.all ∧
      t.started = t.completed + t.errored + t.abandoned +
        .ofNat (c.served.queries.countP fun q => !q.released) ∧
      c.served.queries.map (·.released) = c.lives.map (·.outcome.isSome) ∧
      ∀ l ∈ c.past, l.outcome.isSome = true := by
  intro c
  have hb : c.Balanced := (start_balanced engine h).run actions
  obtain ⟨t, ht, hs⟩ := hb.telemetry
  refine ⟨t, ht, hs, ?_, hb.released, hb.past⟩
  rw [← hb.count_none]
  exact hs.conserves

section Sample

def brief : Tape := ⟨⟨1⟩, [.result [] none, .externalIsSubclass 1 "A" "B"]⟩

def asking : List (Action Tape Unit) :=
  [.request (.evaluateText "f(x)" []), .request (.evaluateText "g(x)" []),
    .request (.evaluateText "h(x)" []), .request (.next 0 2), .request (.next 0 2),
    .request (.close 1), .request (.drop 0), .meanwhile id,
    .request (.isAllowed 1 (.string "ada") (.string "read") (.string "all"))]

theorem counters_conserve_queries_asking : Config.standard.telemetry.enabled = true ∧
    let c := (start brief .standard : Chronicle Tape Unit Unit).run asking
    ∃ t, c.served.session.shared.telemetry = some t ∧ t.Shows c.all ∧
      t.started = t.completed + t.errored + t.abandoned + 1 ∧
      [t.started, t.completed, t.abandoned, t.results, t.externalCalls] = [4, 2, 1, 1, 1] := by
  refine ⟨rfl, ?_⟩
  obtain ⟨t, ht, hs, hc, -⟩ := counters_conserve_queries brief .standard rfl asking
  refine ⟨t, ht, hs, hc, ?_⟩
  have hn : ((start brief .standard : Chronicle Tape Unit Unit).run
      asking).served.session.shared.telemetry.map (fun t =>
        [t.started, t.completed, t.abandoned, t.results, t.externalCalls]) =
      some [4, 2, 1, 1, 1] := rfl
  rw [ht] at hn
  exact Option.some.inj hn

end Sample

end Chronicle

end PolicyBridge
