import Mathlib.Tactic
import PolicyBridge.Proofs.Dispatch.Drawing
import PolicyBridge.Proofs.Query.History

/-! What a request for the next solution does to a query that still is held: it goes on, or it ends
with the engine's query freed and every id of the query released. -/

namespace PolicyBridge

variable {E Q Obj α : Type}

namespace Exchange

def IsQuiet (x : Exchange) : Prop := x ≠ .freed ∧ ∀ b, x ≠ .polled (.ok (.done b))

/-- The ids a query takes hold of: those drawn, and those of the objects built for the engine. A
report right after the request says that an object was not built. -/
def taken : List Exchange → List UInt64
  | [] => []
  | .drew id :: xs => id :: taken xs
  | .polled (.ok (.makeExternal _ _)) :: .reported _ _ :: xs => taken xs
  | .polled (.ok (.makeExternal id _)) :: xs => id :: taken xs
  | _ :: xs => taken xs

def StartsAnew (xs : List Exchange) : Prop := ∀ x ∈ xs.head?, ∀ m o, x ≠ .reported m o

lemma taken_draws (ids : List UInt64) (xs : List Exchange) :
    taken (ids.map .drew ++ xs) = ids ++ taken xs := by
  induction ids with
  | nil => rfl
  | cons id ids ih =>
    simp only [List.map_cons, List.cons_append, taken]
    rw [ih]

lemma taken_polled {e : Event} (he : ∀ id t, e ≠ .makeExternal id t) (xs : List Exchange) :
    taken (.polled (.ok e) :: xs) = taken xs := by
  cases e with
  | makeExternal id t => exact absurd rfl (he id t)
  | _ => rfl

lemma taken_append (xs : List Exchange) {ys : List Exchange} (hy : StartsAnew ys) :
    taken (xs ++ ys) = taken xs ++ taken ys := by
  fun_induction taken xs with
  | case1 => rfl
  | case2 id xs ih => simp only [List.cons_append, taken, ih]
  | case3 id t m o xs ih => simp only [List.cons_append, taken, ih]
  -- Only here does what comes next count: a report would undo the object just taken.
  | case4 id t xs hx ih =>
    cases xs with
    | nil =>
      cases ys with
      | nil => rfl
      | cons y ys =>
        cases y with
        | reported m o => exact absurd rfl (hy _ rfl m o)
        | _ => rfl
    | cons x xs =>
      cases x with
      | reported m o => exact absurd rfl (hx m o xs)
      | _ => simpa only [List.cons_append, taken] using congrArg (id :: ·) ih
  | case5 x xs hd hr hm ih =>
    rw [List.cons_append, ← ih]
    cases x with
    | drew id => exact absurd rfl (hd id)
    | polled a =>
      cases a with
      | error f => rfl
      | ok e =>
        refine taken_polled ?_ _
        rintro id t rfl
        exact hm id t rfl
    | _ => rfl

end Exchange

open Exchange

namespace Query

structure Proceeds (xs : List Exchange) (r r' : Run (Recorded E) Q Obj) : Prop where
  record : r'.record = r.record ++ xs
  allocated : r'.allocated = r.allocated ++ taken xs
  released : r'.query.released = false
  active : r'.query.state.isTerminal = false
  quiet : ∀ x ∈ xs, x.IsQuiet

structure Ends (xs : List Exchange) (s : QueryState) (r r' : Run (Recorded E) Q Obj) : Prop where
  record : r'.record = r.record ++ (xs ++ [.freed])
  state : r'.query.state = s
  released : r'.query.released = true
  own : r'.query.own = .fresh
  gone : ∀ id ∈ r.allocated ++ taken xs, r'.registry.live? id = none

lemma Proceeds.refl {r : Run (Recorded E) Q Obj} (h : r.query.released = false)
    (hs : r.query.state.isTerminal = false) : Proceeds [] r r :=
  ⟨by simp, by simp [taken], h, hs, by simp⟩

lemma Proceeds.trans {xs ys : List Exchange} {r r' r'' : Run (Recorded E) Q Obj}
    (h : Proceeds xs r r') (h' : Proceeds ys r' r'') (hy : StartsAnew ys) :
    Proceeds (xs ++ ys) r r'' := by
  refine ⟨?_, ?_, h'.released, h'.active, ?_⟩
  · rw [h'.record, h.record, List.append_assoc]
  · rw [h'.allocated, h.allocated, taken_append xs hy, List.append_assoc]
  · intro x hx
    exact (List.mem_append.mp hx).elim (h.quiet x) (h'.quiet x)

lemma Proceeds.ends {xs ys : List Exchange} {s : QueryState} {r r' r'' : Run (Recorded E) Q Obj}
    (h : Proceeds xs r r') (h' : Ends ys s r' r'') (hy : StartsAnew ys) :
    Ends (xs ++ ys) s r r'' := by
  refine ⟨?_, h'.state, h'.released, h'.own, ?_⟩
  · rw [h'.record, h.record, List.append_assoc, List.append_assoc]
  · intro id hid
    rw [taken_append xs hy, ← List.append_assoc, ← h.allocated] at hid
    exact h'.gone id hid

structure Replies (event : Event) (r r' : Run (Recorded E) Q Obj) (xs : List Exchange) : Prop where
  record : r'.record = r.record ++ xs
  allocated : r'.allocated = r.allocated ++ taken (.polled (.ok event) :: xs)
  released : r'.query.released = r.query.released
  state : r'.query.state = r.query.state
  quiet : ∀ x ∈ xs, x.IsQuiet

lemma draws_isQuiet (ids : List UInt64) : ∀ x ∈ ids.map Exchange.drew, x.IsQuiet := by
  intro x hx
  obtain ⟨id, -, rfl⟩ := List.mem_map.mp hx
  exact ⟨nofun, nofun⟩

lemma Replies.of_draws {event : Event} (he : ∀ id t, event ≠ .makeExternal id t)
    {r r' : Run (Recorded E) Q Obj} {w : Work (Recorded E) Obj} {ids : List UInt64}
    (hd : (work r).desk.Draws ids w.desk) {tail : List Exchange}
    (hr : r'.record = w.host.source.record ++ tail) (hq : r'.query = { r.query with own := w.own })
    (ht : taken tail = []) (hx : ∀ x ∈ tail, x.IsQuiet) :
    Replies event r r' (ids.map .drew ++ tail) := by
  refine ⟨?_, ?_, by rw [hq], by rw [hq], ?_⟩
  · rw [hr, ← List.append_assoc]
    exact congrArg (· ++ tail) hd.record
  · rw [Run.allocated, hq, taken_polled he, taken_draws, ht, List.append_nil]
    exact hd.allocated
  · intro x h
    exact (List.mem_append.mp h).elim (draws_isQuiet ids x) (hx x)

lemma reply_isQuiet {x : Exchange} (h : x ≠ .freed) (h' : ∀ a, x ≠ .polled a) :
    ∀ y ∈ [x], y.IsQuiet := by
  intro y hy
  obtain rfl := List.mem_singleton.mp hy
  exact ⟨h, fun b => h' _⟩

/-- How a request for the next solution can go, with what is exchanged for it. -/
inductive Advances (r r' : Run (Recorded E) Q Obj) : Progress Obj → List Exchange → Prop
  | pending {xs} : Proceeds xs r r' → Advances r r' .pending xs
  | item {xs} {i : Item Obj} : isFatal i = false → Proceeds xs r r' → Advances r r' (.item i) xs
  | failed {xs} {e : Error} : e.isQueryFatal = true → (∀ x ∈ xs, x.IsQuiet) →
      Ends xs .errored r r' → Advances r r' (.item (.error e)) xs
  | finished {xs} {b : Bool} : (∀ x ∈ xs, x.IsQuiet) →
      Ends (xs ++ [.polled (.ok (.done b))]) .done r r' →
      Advances r r' .finished (xs ++ [.polled (.ok (.done b))])

lemma Advances.held {r r' : Run (Recorded E) Q Obj} {p : Progress Obj} {xs : List Exchange}
    (h : Advances r r' p xs) (hs : r'.query.state.isTerminal = false) :
    r'.query.released = false := by
  cases h with
  | pending hp => exact hp.released
  | item hi hp => exact hp.released
  | failed _ _ hp | finished _ hp =>
    rw [hp.state] at hs
    cases hs

lemma Advances.isTerminal_of_finished {r r' : Run (Recorded E) Q Obj} {xs : List Exchange}
    (h : Advances r r' .finished xs) : r'.query.state.isTerminal = true := by
  cases h with
  | finished _ hp =>
    rw [hp.state]
    rfl

lemma Proceeds.advances {xs ys : List Exchange} {r r' r'' : Run (Recorded E) Q Obj}
    {p : Progress Obj} (h : Proceeds xs r r') (h' : Advances r' r'' p ys)
    (hy : StartsAnew ys) : Advances r r'' p (xs ++ ys) := by
  cases h' with
  | pending hp => exact .pending (h.trans hp hy)
  | item hi hp => exact .item hi (h.trans hp hy)
  | failed he hq hp =>
    refine .failed he ?_ (h.ends hp hy)
    intro x hx
    exact (List.mem_append.mp hx).elim (h.quiet x) (hq x)
  | @finished ys b hq hp =>
    rw [← List.append_assoc]
    refine .finished ?_ (by rw [List.append_assoc]; exact h.ends hp hy)
    intro x hx
    exact (List.mem_append.mp hx).elim (h.quiet x) (hq x)

variable [Engine E Q]

lemma release_ends {r : Run (Recorded E) Q Obj} (h : r.query.released = false) (o : QueryOutcome) :
    Ends [] r.query.state r (release o r).2 := by
  rw [release_of_held h]
  refine ⟨rfl, rfl, rfl, rfl, ?_⟩
  intro id hid
  change (Marshal.releaseAll r.registry r.allocated).live? id = none
  rw [Marshal.live?_releaseAll, if_pos (by simpa [taken] using hid)]

lemma fail_ends {r : Run (Recorded E) Q Obj} (h : r.query.released = false) (e : Error) :
    (fail e r).1 = e ∧ Ends [] .errored r (fail e r).2 := by
  refine ⟨rfl, ?_⟩
  obtain ⟨h₁, h₂, h₃, h₄, h₅⟩ :=
    release_ends (r := { r with query := { r.query with state := .errored } }) h .errored
  exact ⟨h₁, h₂, h₃, h₄, h₅⟩

lemma answer_of_error_replies {event : Event} {r : Run (Recorded E) Q Obj}
    {w : Work (Recorded E) Obj} {e : Error} (h : Dispatching.dispatch event (work r) = (.error e, w)) :
    (answer event r).2.record = w.host.source.record ++ [.reported e.display
        ((Engine.answerApplicationError r.query.handle e.display : EngineCall (Recorded E) Unit)
          w.host.source).1] ∧
      (answer event r).2.query = { r.query with own := w.own } := by
  rw [answer_of_error h, tallied]
  split <;> exact ⟨rfl, rfl⟩

lemma answer_of_answer_replies {event : Event} {r : Run (Recorded E) Q Obj}
    {w : Work (Recorded E) Obj} {a : Answer}
    (h : Dispatching.dispatch event (work r) = (.ok (some a), w)) :
    (answer event r).2.record = w.host.source.record ++ [.answered a.callId a.result
        ((Engine.answerCall r.query.handle a.callId a.result : EngineCall (Recorded E) Unit)
          w.host.source).1] ∧
      (answer event r).2.query = { r.query with own := w.own } := by
  rw [answer_of_answer h]
  exact ⟨rfl, rfl⟩

lemma answer_replies (event : Event) (r : Run (Recorded E) Q Obj) :
    ∃ xs, Replies event r (answer event r).2 xs := by
  by_cases he : ∃ id t, event = .makeExternal id t
  · obtain ⟨id, t, rfl⟩ := he
    rcases Dispatching.makeExternal_cases id t (work r) with ⟨e, h⟩ | ⟨r', h, -, -⟩
    · have hd : Dispatching.dispatch (.makeExternal id t) (work r) = (.error e, work r) :=
        Failing.bind_error h
      obtain ⟨hr, hq⟩ := answer_of_error_replies hd
      refine ⟨_, hr, ?_, by rw [hq], by rw [hq], reply_isQuiet nofun nofun⟩
      rw [Run.allocated, hq]
      exact (List.append_nil _).symm
    · have hd : Dispatching.dispatch (.makeExternal id t) (work r) = (.ok none, _) :=
        Failing.bind_ok h
      rw [answer_of_nothing hd]
      exact ⟨[], (List.append_nil _).symm, rfl, rfl, rfl, nofun⟩
  · have he' (id : UInt64) (t : Term) : event ≠ .makeExternal id t := fun h => he ⟨id, t, h⟩
    obtain ⟨ids, hd⟩ := Dispatching.dispatch_marshals he' (work r)
    rcases h : Dispatching.dispatch event (work r) with ⟨e | _ | a, w⟩ <;> rw [h] at hd
    · obtain ⟨hr, hq⟩ := answer_of_error_replies h
      exact ⟨_, .of_draws he' hd hr hq rfl (reply_isQuiet nofun nofun)⟩
    · rw [answer_of_nothing h]
      exact ⟨_, .of_draws he' hd (List.append_nil _).symm rfl rfl nofun⟩
    · obtain ⟨hr, hq⟩ := answer_of_answer_replies h
      exact ⟨_, .of_draws he' hd hr hq rfl (reply_isQuiet nofun nofun)⟩

lemma Proceeds.fails {xs : List Exchange} {r r' : Run (Recorded E) Q Obj} (h : Proceeds xs r r')
    {e : Error} (he : e.isQueryFatal = true) :
    Advances r (fail e r').2 (.item (.error e)) xs := by
  have hends := h.ends (fail_ends h.released e).2 nofun
  rw [List.append_nil] at hends
  exact .failed he h.quiet hends

lemma Proceeds.recovers {xs : List Exchange} {r r' : Run (Recorded E) Q Obj}
    (h : Proceeds xs r r') (e : Error) :
    Advances r (recoverOrFail e r').2 (.item (.error e)) xs := by
  cases he : e.isQueryFatal with
  | true =>
    rw [recoverOrFail_of_fatal he]
    exact h.fails he
  | false =>
    rw [recoverOrFail_of_not_fatal he]
    exact .item he ⟨h.record, h.allocated, h.released, rfl, h.quiet⟩

section Polling

variable {r : Run (Recorded E) Q Obj} (h : r.query.released = false)

include h

lemma polled_proceeds {a : Except Fault Event}
    (ha : ((Engine.nextEvent r.query.handle : EngineCall (Recorded E) Event)
      r.shared.host.source).1 = a)
    (hq : ∀ b, a ≠ .ok (.done b)) (hm : ∀ id t, a ≠ .ok (.makeExternal id t)) :
    Proceeds [.polled a] r (polled r) := by
  subst ha
  refine ⟨rfl, ?_, h, rfl, ?_⟩
  · refine (List.append_nil _).symm.trans (congrArg _ (Eq.symm ?_))
    cases ha : ((Engine.nextEvent r.query.handle : EngineCall (Recorded E) Event)
      r.shared.host.source).1 with
    | error f => rfl
    | ok e =>
      rw [taken_polled fun id t he => hm id t (by rw [ha, he])]
      rfl
  · intro x hx
    obtain rfl := List.mem_singleton.mp hx
    exact ⟨nofun, fun b hb => hq b (Exchange.polled.inj hb)⟩

lemma answer_proceeds {event : Event} (he : event.isExternal = true)
    (ha : ((Engine.nextEvent r.query.handle : EngineCall (Recorded E) Event)
      r.shared.host.source).1 = .ok event) :
    ∃ xs, Proceeds (.polled (.ok event) :: xs) r (answer event (awaiting (polled r))).2 := by
  obtain ⟨xs, hx⟩ := answer_replies event (awaiting (polled r))
  have hp : (awaiting (polled r)).record = r.record ++ [.polled (.ok event)] := by
    rw [← ha]
    rfl
  refine ⟨xs, ?_, hx.allocated, hx.released.trans h, ?_, ?_⟩
  · rw [hx.record, hp, List.append_assoc]
    rfl
  · rw [hx.state]
    rfl
  · intro x hmem
    rcases List.mem_cons.mp hmem with rfl | hmem
    · refine ⟨nofun, ?_⟩
      rintro b hb
      cases hb
      cases he
    · exact hx.quiet x hmem

lemma done_finishes {b : Bool}
    (ha : ((Engine.nextEvent r.query.handle : EngineCall (Recorded E) Event)
      r.shared.host.source).1 = .ok (.done b)) :
    Advances r (onEvent (.done b) (polled r)).2 .finished [.polled (.ok (.done b))] := by
  have hp : (polled r).record = r.record ++ [.polled (.ok (.done b))] := by
    rw [← ha]
    rfl
  obtain ⟨h₁, h₂, h₃, h₄, h₅⟩ := release_ends
    (r := { polled r with query := { (polled r).query with state := .done } }) h .completed
  change Advances r _ .finished ([] ++ [.polled (.ok (.done b))])
  refine .finished nofun ⟨?_, h₂, h₃, h₄, h₅⟩
  refine h₁.trans ?_
  change (polled r).record ++ _ = _
  rw [hp, List.append_assoc]
  rfl

lemma poll_advances : ∃ xs, StartsAnew xs ∧
    Advances r (poll r).2 ((poll r).1.getD .pending) xs := by
  have hstart (a : Except Fault Event) (xs : List Exchange) : StartsAnew (.polled a :: xs) := by
    intro x hx
    obtain rfl := Option.some.inj hx
    exact nofun
  generalize ha : ((Engine.nextEvent r.query.handle : EngineCall (Recorded E) Event)
    r.shared.host.source).1 = a
  have hx := poll_cases ha
  generalize (poll r).1 = p, (poll r).2 = r' at hx
  cases hx with
  | fault f =>
    exact ⟨_, hstart _ _, (polled_proceeds h ha nofun nofun).fails (isQueryFatal_queryError f)⟩
  | done b => exact ⟨_, hstart _ _, done_finishes h ha⟩
  | solution hb =>
    obtain ⟨h₁, h₂, h₃, h₄, h₅⟩ := polled_proceeds h ha nofun nofun
    exact ⟨_, hstart _ _, .item rfl ⟨h₁, h₂, h₃, h₄, h₅⟩⟩
  | @unreadable bindings trace e hb =>
    exact ⟨_, hstart _ _, (polled_proceeds h ha nofun nofun).recovers e⟩
  | answered he hr =>
    obtain ⟨xs, hp⟩ := answer_proceeds h he ha
    rw [hr] at hp
    exact ⟨_, hstart _ _, .pending hp⟩
  | @failed event e r' he hr =>
    obtain ⟨xs, hp⟩ := answer_proceeds h he ha
    rw [hr] at hp
    exact ⟨_, hstart _ _, hp.recovers e⟩

lemma pollUpTo_advances (polls : Nat) (hs : r.query.state.isTerminal = false) :
    ∃ xs, StartsAnew xs ∧ Advances r (pollUpTo polls r).2 (pollUpTo polls r).1 xs := by
  induction polls generalizing r with
  | zero => exact ⟨[], nofun, .pending (.refl h hs)⟩
  | succ n ih =>
    obtain ⟨xs, hx, hp⟩ := poll_advances h
    rw [pollUpTo_succ]
    cases hn : (poll r).1 with
    | some p =>
      rw [hn] at hp
      exact ⟨xs, hx, hp⟩
    | none =>
      rw [hn] at hp
      obtain ⟨hp⟩ := hp
      obtain ⟨ys, hy, hq⟩ := ih hp.released hp.active
      refine ⟨xs ++ ys, ?_, hp.advances hq hy⟩
      cases xs with
      | nil => exact hy
      | cons x xs => exact hx

lemma next_advances (polls : Nat) (hs : r.query.state.isTerminal = false) :
    ∃ xs, Advances r (next polls r).2 (next polls r).1 xs := by
  rw [next_of_active hs]
  obtain ⟨xs, -, hx⟩ := pollUpTo_advances h polls hs
  exact ⟨xs, hx⟩

end Polling

end Query

end PolicyBridge
