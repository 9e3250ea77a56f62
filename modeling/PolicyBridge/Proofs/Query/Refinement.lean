import Mathlib.Tactic
import PolicyBridge.Proofs.Query.Echoing

namespace PolicyBridge

variable {E Q Obj : Type}

namespace Query

open Exchange Reference

variable [Engine E Q]

def rest (n : Nat) (r : Run (Recorded E) Q Obj) : List (Mark Obj) :=
  if r.query.state.isTerminal then [] else fold r.query.handle n (plain r)

lemma rest_of_terminal {r : Run (Recorded E) Q Obj} (h : r.query.state.isTerminal = true) (n : Nat) :
    rest n r = [] :=
  if_pos h

lemma rest_of_active {r : Run (Recorded E) Q Obj} (h : r.query.state.isTerminal = false) (n : Nat) :
    rest n r = fold r.query.handle n (plain r) :=
  if_neg (by simp [h])

structure Refines (xs : List Exchange) (p : Option (Progress Obj)) (r r' : Run (Recorded E) Q Obj) :
    Prop where
  record : r'.record = r.record ++ xs
  marks : ∀ n, rest (polls xs + n) r = (calls xs).map .call ++ Leg.itemMarks p ++ rest n r'

lemma recover_rest {r : Run (Recorded E) Q Obj} (h : r.query.released = false) (e : Error) :
    ∃ tail, (recoverOrFail e r).2.record = r.record ++ tail ∧ calls tail = [] ∧ polls tail = 0 ∧
      ∀ n, rest n (recoverOrFail e r).2 =
        if ends (.error e : Item Obj) then [] else fold r.query.handle n (plain r) := by
  have he : ends (.error e : Item Obj) = e.isQueryFatal := by cases e <;> rfl
  rw [he]
  cases hf : e.isQueryFatal with
  | true =>
    rw [recoverOrFail_of_fatal hf]
    obtain ⟨-, hx⟩ := fail_ends h e
    refine ⟨[.freed], hx.record, rfl, rfl, fun n => ?_⟩
    exact rest_of_terminal (by rw [hx.state]; rfl) n
  | false =>
    rw [recoverOrFail_of_not_fatal hf]
    exact ⟨[], (List.append_nil _).symm, rfl, rfl, fun n => rfl⟩

section Polling

variable {r : Run (Recorded E) Q Obj} (h : r.query.released = false)
  (hs : r.query.state.isTerminal = false) {e : E}

lemma record_polled {a : Except Fault Event} (ha : (Engine.nextEvent r.query.handle :
    EngineCall E Event) r.shared.host.source.inner = (a, e)) :
    (polled r).record = r.record ++ [.polled a] := by
  change r.record ++ [.polled ((Engine.nextEvent r.query.handle : EngineCall E Event)
    r.shared.host.source.inner).1] = _
  rw [ha]

lemma plain_polled {a : Except Fault Event} (ha : (Engine.nextEvent r.query.handle :
    EngineCall E Event) r.shared.host.source.inner = (a, e)) :
    plain (polled r) = withSource e (plain r) := by
  change withSource ((Engine.nextEvent r.query.handle : EngineCall E Event)
    r.shared.host.source.inner).2 (plain r) = _
  rw [ha]

lemma polled_recorded {a : Except Fault Event} (ha : (Engine.nextEvent r.query.handle :
    EngineCall E Event) r.shared.host.source.inner = (a, e)) :
    ((Engine.nextEvent r.query.handle : EngineCall (Recorded E) Event) r.shared.host.source).1
      = a := by
  change ((Engine.nextEvent r.query.handle : EngineCall E Event) r.shared.host.source.inner).1 = _
  rw [ha]

include h hs

lemma fault_refines {f : Fault} (ha : (Engine.nextEvent r.query.handle : EngineCall E Event)
    r.shared.host.source.inner = (.error f, e)) :
    Refines [.polled (.error f), .freed] (some (.item (.error f.queryError))) r
      (fail f.queryError (polled r)).2 := by
  have hx := (fail_ends (r := polled r) h f.queryError).2
  refine ⟨?_, fun n => ?_⟩
  · rw [hx.record, record_polled ha, List.append_assoc]
    rfl
  · rw [rest_of_active hs, rest_of_terminal (by rw [hx.state]; rfl)]
    change fold _ (1 + n) _ = _
    rw [Nat.add_comm, fold_of_fault (w := plain r) ha]
    rfl

lemma done_refines {b : Bool} (ha : (Engine.nextEvent r.query.handle : EngineCall E Event)
    r.shared.host.source.inner = (.ok (.done b), e)) :
    Refines [.polled (.ok (.done b)), .freed] (some .finished) r
      (onEvent (.done b) (polled r)).2 := by
  have hx := release_ends
    (r := { polled r with query := { (polled r).query with state := .done } }) h .completed
  refine ⟨?_, fun n => ?_⟩
  · refine hx.record.trans ?_
    change (polled r).record ++ _ = _
    rw [record_polled ha, List.append_assoc]
    rfl
  · have ht : (onEvent (.done b) (polled r)).2.query.state.isTerminal = true :=
      congrArg QueryState.isTerminal hx.state
    rw [rest_of_active hs, rest_of_terminal ht]
    change fold _ (1 + n) _ = _
    rw [Nat.add_comm, fold_of_done (w := plain r) ha]
    rfl

omit h in
lemma refines_of_upshot {event : Event} (hd : ∀ b, event ≠ .done b)
    (ha : (Engine.nextEvent r.query.handle : EngineCall E Event)
      r.shared.host.source.inner = (.ok event, e)) {u : Upshot E Obj}
    (hu : upshot r.query.handle event (plain (polled r)) = u) {r' : Run (Recorded E) Q Obj}
    {p : Option (Progress Obj)} {ys : List Exchange} (hr : r'.record = (polled r).record ++ ys)
    (hc : calls ys = u.calls) (hp : polls ys = 0)
    (hx : ∀ n, after r.query.handle n u.item u.work = Leg.itemMarks p ++ rest n r') :
    ∃ xs, polls xs = 1 ∧ Refines xs p r r' := by
  have hn : polls (.polled (.ok event) :: ys) = 1 := by
    rw [polls, List.countP_cons_of_pos rfl]
    exact congrArg (· + 1) hp
  have hcs : calls (.polled (.ok event) :: ys) = .polled (.ok event) :: calls ys := rfl
  refine ⟨.polled (.ok event) :: ys, hn, ?_, fun n => ?_⟩
  · rw [hr, record_polled ha, List.append_assoc]
    rfl
  · rw [rest_of_active hs, hn, Nat.add_comm, fold_of_event (w := plain r) hd ha, ← plain_polled ha,
      hu, hcs, hc]
    dsimp only
    rw [hx, List.map_cons, List.cons_append, List.cons_append, List.append_assoc]

omit h in
lemma solution_refines {bindings : Bindings} {trace : Option Json}
    {values : Dict String (HostValue Obj)}
    (ha : (Engine.nextEvent r.query.handle : EngineCall E Event)
      r.shared.host.source.inner = (.ok (.result bindings trace), e))
    (hb : Marshal.fromBindings (polled r).registry bindings = .ok values) :
    ∃ xs, polls xs = 1 ∧ Refines xs (some (.item (.ok ⟨values⟩))) r
      { polled r with shared := (polled r).shared.record Telemetry.recordResult } := by
  have hd (b : Bool) : Event.result bindings trace ≠ .done b := nofun
  have hu : upshot r.query.handle (.result bindings trace) (plain (polled r)) =
      ⟨[], some ((Marshal.fromBindings (polled r).registry bindings).map ResultSet.mk),
        plain (polled r)⟩ := rfl
  rw [hb] at hu
  exact refines_of_upshot hs hd ha hu (List.append_nil _).symm rfl rfl fun n => rfl

lemma unreadable_refines {bindings : Bindings} {trace : Option Json} {x : Error}
    (ha : (Engine.nextEvent r.query.handle : EngineCall E Event)
      r.shared.host.source.inner = (.ok (.result bindings trace), e))
    (hb : Marshal.fromBindings (polled r).registry bindings = .error x) :
    ∃ xs, polls xs = 1 ∧ Refines xs (some (.item (.error x))) r
      (recoverOrFail x (polled r)).2 := by
  have hd (b : Bool) : Event.result bindings trace ≠ .done b := nofun
  have hu : upshot r.query.handle (.result bindings trace) (plain (polled r)) =
      ⟨[], some ((Marshal.fromBindings (polled r).registry bindings).map ResultSet.mk),
        plain (polled r)⟩ := rfl
  rw [hb] at hu
  obtain ⟨tail, ht, hc, hn, hx⟩ := recover_rest (r := polled r) h x
  refine refines_of_upshot hs hd ha hu ht hc hn fun n => ?_
  rw [hx]
  rfl

section External

variable {event : Event} (he : event.isExternal = true)
  (ha : (Engine.nextEvent r.query.handle : EngineCall E Event)
    r.shared.host.source.inner = (.ok event, e)) {r' : Run (Recorded E) Q Obj}

include he ha

omit h hs ha in
lemma upshot_external (w : Work E Obj) : (∀ b, event ≠ .done b) ∧
    upshot r.query.handle event w = reply r.query.handle event w := by
  cases event with
  | done b => cases he
  | result _ _ => cases he
  | _ => exact ⟨nofun, rfl⟩

omit h in
lemma answered_refines (hr : answer event (awaiting (polled r)) = (.ok (), r')) :
    ∃ xs, polls xs = 1 ∧ Refines xs none r r' := by
  obtain ⟨hd, hu⟩ := upshot_external he (plain (polled r))
  obtain ⟨ys, hy⟩ := answer_echoes event (awaiting (polled r))
  obtain ⟨zs, hz⟩ := answer_replies event (awaiting (polled r))
  rw [hr] at hy hz
  refine refines_of_upshot hs hd ha hu hy.record hy.calls hy.polls fun n => ?_
  rw [rest_of_active (by rw [hz.state]; rfl), hy.handle, hy.work]
  exact congrArg (after _ n · _) hy.item

lemma failed_refines {x : Error} (hr : answer event (awaiting (polled r)) = (.error x, r')) :
    ∃ xs, polls xs = 1 ∧ Refines xs (some (.item (.error x))) r (recoverOrFail x r').2 := by
  obtain ⟨hd, hu⟩ := upshot_external he (plain (polled r))
  obtain ⟨ys, hy⟩ := answer_echoes event (awaiting (polled r))
  obtain ⟨zs, hz⟩ := answer_replies event (awaiting (polled r))
  rw [hr] at hy hz
  obtain ⟨tail, ht, hc, hn, hx⟩ := recover_rest (hz.released.trans h) x
  have hrec : (recoverOrFail x r').2.record = (polled r).record ++ (ys ++ tail) := by
    rw [ht, hy.record, List.append_assoc]
    rfl
  refine refines_of_upshot hs hd ha hu hrec ?_ ?_ fun n => ?_
  · rw [calls, List.filter_append]
    exact (congrArg₂ _ hy.calls hc).trans (List.append_nil _)
  · rw [polls, List.countP_append]
    exact congrArg₂ _ hy.polls hn
  · rw [hx, hy.handle, hy.work]
    exact congrArg (after _ n · _) hy.item

end External

lemma poll_refines : ∃ xs, polls xs = 1 ∧ Refines xs (poll r).1 r (poll r).2 := by
  rcases ha : (Engine.nextEvent r.query.handle : EngineCall E Event) r.shared.host.source.inner
    with ⟨a, e⟩
  have hx := poll_cases (polled_recorded ha)
  generalize (poll r).1 = p, (poll r).2 = r' at hx
  cases hx with
  | fault f => exact ⟨_, rfl, fault_refines h hs ha⟩
  | done b => exact ⟨_, rfl, done_refines h hs ha⟩
  | solution hb => exact solution_refines hs ha hb
  | unreadable hb => exact unreadable_refines h hs ha hb
  | answered he hr => exact answered_refines hs he ha hr
  | failed he hr => exact failed_refines h hs he ha hr

end Polling

lemma Refines.trans {xs ys : List Exchange} {p : Option (Progress Obj)}
    {r r' r'' : Run (Recorded E) Q Obj} (hx : Refines xs none r r') (hy : Refines ys p r' r'') :
    Refines (xs ++ ys) p r r'' := by
  have hn : polls (xs ++ ys) = polls xs + polls ys := List.countP_append
  have hc : calls (xs ++ ys) = calls xs ++ calls ys := List.filter_append ..
  refine ⟨?_, fun n => ?_⟩
  · rw [hy.record, hx.record, List.append_assoc]
  · rw [hn, hc, Nat.add_assoc, hx.marks, hy.marks]
    simp [Leg.itemMarks]

structure Frugal (budget : Nat) (p : Progress Obj) (n : Nat) : Prop where
  le : n ≤ budget
  pending : p = .pending → n = budget
  item : ∀ i, p = .item i → 0 < n

lemma pollUpTo_refines {r : Run (Recorded E) Q Obj} (h : r.query.released = false)
    (hs : r.query.state.isTerminal = false) (budget : Nat) :
    ∃ xs, Refines xs (some (pollUpTo budget r).1) r (pollUpTo budget r).2 ∧
      Frugal budget (pollUpTo budget r).1 (polls xs) := by
  induction budget generalizing r with
  | zero =>
    refine ⟨[], ⟨(List.append_nil _).symm, fun n => ?_⟩, Nat.le_refl _, fun _ => rfl, nofun⟩
    exact congrArg (rest · r) (Nat.zero_add n)
  | succ budget ih =>
    obtain ⟨xs, hn, hx⟩ := poll_refines h hs
    obtain ⟨ys, -, hy⟩ := poll_advances h
    have hp := poll_ne_pending r
    rw [pollUpTo_succ]
    cases hv : (poll r).1 with
    | some p =>
      rw [hv] at hx hp
      refine ⟨xs, hx, ?_, fun hq => absurd (congrArg some hq) hp, fun i _ => ?_⟩ <;> omega
    | none =>
      rw [hv] at hx hy
      obtain ⟨hy⟩ := hy
      obtain ⟨zs, hz, hf⟩ := ih hy.released hy.active
      have hl : polls (xs ++ zs) = polls xs + polls zs := List.countP_append
      refine ⟨xs ++ zs, hx.trans hz, ?_, fun hq => ?_, fun i hi => ?_⟩
      · have := hf.le
        omega
      · have := hf.pending hq
        omega
      · have := hf.item i hi
        omega

structure Tracks (r : Run (Recorded E) Q Obj) (budget : Nat) (l : Leg E Q Obj) : Prop where
  marks : ∀ n, rest (l.polls + n) r = l.marks ++ rest n l.after
  frugal : ∀ p, l.answer = some p → Frugal budget p l.polls
  held : l.after.query.state.isTerminal = false → l.after.query.released = false
  finished : l.answer = some .finished → l.after.query.state.isTerminal = true

lemma leg_of_terminal {r : Run (Recorded E) Q Obj} (hs : r.query.state.isTerminal = true)
    (budget : Nat) : leg (.use (.next budget)) r = ⟨.use (.next budget), some .finished, [], r⟩ := by
  have hp : perform (.use (.next budget)) r = (some .finished, r) := by
    change (some (next budget r).1, (next budget r).2) = _
    rw [next_of_terminal hs]
  have hx : (leg (.use (.next budget)) r).exchanges = [] :=
    exchanges_leg (by rw [hp, List.append_nil])
  change Leg.mk _ (perform (.use (.next budget)) r).1 (leg (.use (.next budget)) r).exchanges
    (perform (.use (.next budget)) r).2 = _
  rw [hp, hx]

lemma leg_tracks {r : Run (Recorded E) Q Obj}
    (h : r.query.state.isTerminal = false → r.query.released = false) (budget : Nat) :
    Tracks r budget (leg (.use (.next budget)) r) := by
  cases hs : r.query.state.isTerminal with
  | true =>
    rw [leg_of_terminal hs]
    refine ⟨fun n => ?_, ?_, h, fun _ => hs⟩
    · exact congrArg (rest · r) (Nat.zero_add n)
    · rintro p ⟨⟩
      exact ⟨Nat.zero_le _, nofun, nofun⟩
  | false =>
    obtain ⟨xs, hx, hf⟩ := pollUpTo_refines (h hs) hs budget
    obtain ⟨ys, hy⟩ := next_advances (h hs) budget hs
    rw [← next_of_active hs] at hx hf
    have he : (leg (.use (.next budget)) r).exchanges = xs := exchanges_leg hx.record
    refine ⟨fun n => ?_, ?_, fun ht => ?_, fun ha => ?_⟩
    · rw [Leg.polls, Leg.marks, he]
      exact hx.marks n
    · rintro p ⟨⟩
      rw [Leg.polls, he]
      exact hf
    · exact hy.held ht
    · have hn : (next budget r).1 = .finished := Option.some.inj ha
      rw [hn] at hy
      exact hy.isTerminal_of_finished

structure TracksAll (r : Run (Recorded E) Q Obj) (budgets : List Nat) (ls : List (Leg E Q Obj))
    (r' : Run (Recorded E) Q Obj) : Prop where
  marks : ∀ n, rest ((ls.map Leg.polls).sum + n) r = ls.flatMap Leg.marks ++ rest n r'
  frugal : List.Forall₂ (fun budget l => ∀ p, l.answer = some p → Frugal budget p l.polls)
    budgets ls
  finished : r.query.state.isTerminal = true ∨ (∃ l ∈ ls, l.answer = some .finished) →
    r'.query.state.isTerminal = true

lemma legs_track {r : Run (Recorded E) Q Obj}
    (h : r.query.state.isTerminal = false → r.query.released = false) (budgets : List Nat) :
    ∃ r', TracksAll r budgets (legs (budgets.map fun n => .use (.next n)) r) r' := by
  induction budgets generalizing r with
  | nil =>
    refine ⟨r, fun n => ?_, .nil, ?_⟩
    · exact congrArg (rest · r) (Nat.zero_add n)
    · rintro (hr | ⟨l, hl, -⟩)
      · exact hr
      · cases hl
  | cons budget budgets ih =>
    have hl := leg_tracks h budget
    obtain ⟨r', hr⟩ := ih hl.held
    refine ⟨r', fun n => ?_, .cons hl.frugal hr.frugal, fun hf => hr.finished ?_⟩
    · rw [List.map_cons, legs, List.map_cons, List.sum_cons, Nat.add_assoc, hl.marks, hr.marks,
        List.flatMap_cons, List.append_assoc]
    · rcases hf with hf | ⟨l, hm, hf⟩
      · rw [leg_of_terminal hf]
        exact .inl hf
      · rcases List.mem_cons.mp hm with rfl | hm
        · exact .inl (hl.finished hf)
        · exact .inr ⟨l, hm, hf⟩

/-- However many polls each request for the next solution is allowed, the calls made to the engine
and the items given out are those of the fold over as many events as were polled for. A request
polls no further than to its item, and once one finds the end there is nothing more to fold. -/
theorem next_refines_fold (handle : Q) (own : Dispatcher Obj) (shared : Shared E Obj)
    (budgets : List Nat) :
    let ls := legs (budgets.map fun n => .use (.next n)) (Run.launch handle own shared)
    let n := (ls.map Leg.polls).sum
    ls.flatMap Leg.marks = fold handle n ⟨shared.host, own⟩ ∧
      List.Forall₂ (fun budget l => ∀ p, l.answer = some p → Frugal budget p l.polls) budgets ls ∧
      ((∃ l ∈ ls, l.answer = some .finished) →
        ∀ m, fold handle (n + m) ⟨shared.host, own⟩ = fold handle n ⟨shared.host, own⟩) := by
  obtain ⟨r, hr⟩ := legs_track (r := Run.launch handle own shared) (fun _ => rfl) budgets
  have hn (n : Nat) : rest n (Run.launch handle own shared) = fold handle n ⟨shared.host, own⟩ := rfl
  intro ls n
  have hm : ls.flatMap Leg.marks = fold handle n ⟨shared.host, own⟩ := by
    have h := hr.marks 0
    rw [hn, Nat.add_zero] at h
    have h0 : rest 0 r = [] := by
      unfold rest
      split <;> rfl
    rw [h0, List.append_nil] at h
    exact h.symm
  refine ⟨hm, hr.frugal, fun hf m => ?_⟩
  have h := hr.marks m
  rw [hn, rest_of_terminal (hr.finished (.inr hf)), List.append_nil] at h
  exact h.trans hm

end Query

end PolicyBridge
