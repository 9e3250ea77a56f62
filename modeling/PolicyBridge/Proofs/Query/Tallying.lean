import Mathlib.Tactic
import PolicyBridge.Proofs.Query.Ruling

/-! What queries go through, and the counters that show it. A query ends once, in the way that comes
first; the other counters go by what the engine says and what is given out. -/

namespace PolicyBridge

inductive Occurrence (Obj : Type) where
  | polled (said : Except Fault Event) (refused : Option Error) (gave : Option (Progress Obj))
  | stopped

abbrev Life (Obj : Type) := List (Occurrence Obj)

namespace Occurrence

variable {Obj : Type}

def isSolution : Occurrence Obj → Bool
  | polled _ _ (some (.item (.ok _))) => true
  | _ => false

def isCall : Occurrence Obj → Bool
  | polled (.ok e) _ _ => e.isExternal
  | _ => false

def isFailure : Occurrence Obj → Bool
  | polled _ x _ => x.any Query.isApplication
  | stopped => false

def ending : Occurrence Obj → Option QueryOutcome
  | stopped => some .abandoned
  | polled (.ok (.done _)) _ _ => some .completed
  | polled _ _ (some (.item i)) => if Query.isFatal i then some .errored else none
  | _ => none

def tally (x : Occurrence Obj) (t : Telemetry) : Telemetry :=
  let t := if x.isCall then t.recordExternalCall else t
  let t := if x.isFailure then t.recordApplicationError else t
  if x.isSolution then t.recordResult else t

end Occurrence

namespace Telemetry

def finish (o : Option QueryOutcome) (ended : Bool) (t : Telemetry) : Telemetry :=
  match o with
  | some o => if ended then t else t.recordFinished o 0
  | none => t

end Telemetry

def Occurrence.record {Obj : Type} (x : Occurrence Obj) (ended : Bool) (t : Telemetry) : Telemetry :=
  (x.tally t).finish x.ending ended

def Life.outcome {Obj : Type} (l : Life Obj) : Option QueryOutcome := l.findSome? Occurrence.ending

lemma Life.outcome_snoc {Obj : Type} (l : Life Obj) (x : Occurrence Obj) :
    Life.outcome (l ++ [x]) = l.outcome.or x.ending := by
  rw [Life.outcome, List.findSome?_append, List.findSome?_singleton]
  rfl

namespace Telemetry

variable {Obj : Type}

def ended (t : Telemetry) : QueryOutcome → UInt64
  | .completed => t.completed
  | .errored => t.errored
  | .abandoned => t.abandoned

/-- The counters show what so many queries have gone through. -/
structure Shows (t : Telemetry) (ls : List (Life Obj)) : Prop where
  started : t.started = .ofNat ls.length
  ended : ∀ o, t.ended o = .ofNat ((ls.map Life.outcome).count (some o))
  results : t.results = .ofNat (ls.flatten.countP Occurrence.isSolution)
  externalCalls : t.externalCalls = .ofNat (ls.flatten.countP Occurrence.isCall)
  applicationErrors : t.applicationErrors = .ofNat (ls.flatten.countP Occurrence.isFailure)

section Recording

variable (t : Telemetry) (x : Occurrence Obj) (b : Bool)

lemma recordFinished_ended (o o' : QueryOutcome) :
    (t.recordFinished o 0).ended o' = t.ended o' + if o = o' then 1 else 0 := by
  cases o <;> cases o' <;> simp [recordFinished, ended]

lemma finish_ended (o : Option QueryOutcome) (o' : QueryOutcome) :
    (t.finish o b).ended o' = t.ended o' + if b = false ∧ o = some o' then 1 else 0 := by
  unfold finish
  cases o <;> cases b <;> simp [recordFinished_ended]

lemma finish_keeps (f : Telemetry → UInt64) (o : Option QueryOutcome)
    (hf : ∀ t o, f (recordFinished t o 0) = f t) : f (t.finish o b) = f t := by
  unfold finish
  split
  · split
    · rfl
    · exact hf t _
  · rfl

lemma tally_eq : x.tally t = { t with
    results := t.results + if x.isSolution then 1 else 0
    externalCalls := t.externalCalls + if x.isCall then 1 else 0
    applicationErrors := t.applicationErrors + if x.isFailure then 1 else 0 } := by
  unfold Occurrence.tally
  split_ifs <;> simp [recordExternalCall, recordApplicationError, recordResult]

lemma record_ended (o : QueryOutcome) :
    (x.record b t).ended o = t.ended o + if b = false ∧ x.ending = some o then 1 else 0 := by
  rw [Occurrence.record, finish_ended, tally_eq]
  rfl

lemma record_started : (x.record b t).started = t.started := by
  rw [Occurrence.record, finish_keeps _ _ started _ fun t o => by cases o <;> rfl, tally_eq]

lemma record_results :
    (x.record b t).results = t.results + if x.isSolution then 1 else 0 := by
  rw [Occurrence.record, finish_keeps _ _ results _ fun t o => by cases o <;> rfl, tally_eq]

lemma record_externalCalls :
    (x.record b t).externalCalls = t.externalCalls + if x.isCall then 1 else 0 := by
  rw [Occurrence.record, finish_keeps _ _ externalCalls _ fun t o => by cases o <;> rfl, tally_eq]

lemma record_applicationErrors :
    (x.record b t).applicationErrors = t.applicationErrors + if x.isFailure then 1 else 0 := by
  rw [Occurrence.record, finish_keeps _ _ applicationErrors _ fun t o => by cases o <;> rfl,
    tally_eq]

end Recording

namespace Shows

variable {t : Telemetry} {l : Life Obj} {ls ls' : List (Life Obj)}

lemma perm (h : t.Shows ls) (hp : ls.Perm ls') : t.Shows ls' := by
  have hf := hp.flatten
  refine ⟨?_, fun o => ?_, ?_, ?_, ?_⟩
  · rw [← hp.length_eq]
    exact h.started
  · rw [← (hp.map _).count_eq]
    exact h.ended o
  · rw [← hf.countP_eq]
    exact h.results
  · rw [← hf.countP_eq]
    exact h.externalCalls
  · rw [← hf.countP_eq]
    exact h.applicationErrors

lemma nothing (service : String) : (named service).Shows ([] : List (Life Obj)) :=
  ⟨rfl, by rintro ⟨⟩ <;> rfl, rfl, rfl, rfl⟩

lemma start (h : t.Shows ls) : t.recordStarted.Shows ([] :: ls) where
  started := by
    rw [recordStarted, h.started, List.length_cons, UInt64.ofNat_add]
    rfl
  ended o := by
    rw [List.map_cons, List.count_cons_of_ne (by simp [Life.outcome])]
    have ho := h.ended o
    cases o <;> exact ho
  results := h.results
  externalCalls := h.externalCalls
  applicationErrors := h.applicationErrors

lemma ofNat_ite (p : Prop) [Decidable p] :
    UInt64.ofNat (if p then 1 else 0) = if p then 1 else 0 := by
  split <;> rfl

lemma flatten_countP (p : Occurrence Obj → Bool) (l : Life Obj) (ls : List (Life Obj))
    (x : Occurrence Obj) : UInt64.ofNat (((l ++ [x]) :: ls).flatten.countP p) =
      .ofNat ((l :: ls).flatten.countP p) + if p x then 1 else 0 := by
  have hc : ((l ++ [x]) :: ls).flatten.countP p =
      (l :: ls).flatten.countP p + if p x then 1 else 0 := by
    simp only [List.flatten_cons, List.countP_append, List.countP_singleton]
    exact Nat.add_right_comm ..
  rw [hc, UInt64.ofNat_add, ofNat_ite]

lemma outcome_count (o : QueryOutcome) (l : Life Obj) (ls : List (Life Obj))
    (x : Occurrence Obj) :
    UInt64.ofNat ((((l ++ [x]) :: ls).map Life.outcome).count (some o)) =
      .ofNat (((l :: ls).map Life.outcome).count (some o)) +
        if l.outcome.isSome = false ∧ x.ending = some o then 1 else 0 := by
  simp only [List.map_cons, List.count_cons, UInt64.ofNat_add, ofNat_ite, Life.outcome_snoc,
    beq_iff_eq]
  cases l.outcome with
  | none =>
    simp
    congr
  | some o' => simp

lemma snoc (h : t.Shows (l :: ls)) (x : Occurrence Obj) :
    (x.record l.outcome.isSome t).Shows ((l ++ [x]) :: ls) where
  started := (record_started ..).trans h.started
  ended o := by rw [record_ended, h.ended, outcome_count]
  results := by rw [record_results, h.results, flatten_countP]
  externalCalls := by rw [record_externalCalls, h.externalCalls, flatten_countP]
  applicationErrors := by rw [record_applicationErrors, h.applicationErrors, flatten_countP]

lemma length_eq_counts (os : List (Option QueryOutcome)) : os.length =
    os.count (some .completed) + os.count (some .errored) + os.count (some .abandoned) +
      os.count none := by
  induction os with
  | nil => rfl
  | cons o os ih =>
    rw [List.length_cons, ih]
    rcases o with _ | _ | _ | _ <;> simp <;> omega

lemma conserves (h : t.Shows ls) : t.started = t.completed + t.errored + t.abandoned +
    .ofNat ((ls.map Life.outcome).count none) := by
  have hl : (ls.map Life.outcome).length = ls.length := List.length_map _
  rw [h.started, ← hl, length_eq_counts, UInt64.ofNat_add, UInt64.ofNat_add, UInt64.ofNat_add,
    ← h.ended .completed, ← h.ended .errored, ← h.ended .abandoned]
  rfl

end Shows
end Telemetry

namespace Query

variable {E Q Obj : Type}

structure Finishes (o : Option QueryOutcome) (r r' : Run E Q Obj) : Prop where
  telemetry : r'.shared.telemetry = r.shared.telemetry.map (Telemetry.finish o r.query.released)
  released : r'.query.released = (r.query.released || o.isSome)

structure Undergoes (x : Occurrence Obj) (r r' : Run E Q Obj) : Prop where
  telemetry : r'.shared.telemetry = r.shared.telemetry.map (x.record r.query.released)
  released : r'.query.released = (r.query.released || x.ending.isSome)

variable {x : Occurrence Obj} {r r' : Run E Q Obj}

lemma Finishes.none (ht : r'.shared.telemetry = r.shared.telemetry)
    (hr : r'.query.released = r.query.released) : Finishes none r r' :=
  ⟨ht.trans Option.map_id'.symm, hr.trans (Bool.or_false _).symm⟩

lemma Undergoes.of (r₁ : Run E Q Obj) (ht : r₁.shared.telemetry = r.shared.telemetry.map x.tally)
    (hr : r₁.query.released = r.query.released) (hf : Finishes x.ending r₁ r') :
    Undergoes x r r' := by
  refine ⟨?_, ?_⟩
  · rw [hf.telemetry, ht, hr, Option.map_map]
    rfl
  · rw [hf.released, hr]

variable [Engine E Q]

lemma release_finishes (o : QueryOutcome) (r : Run E Q Obj) :
    Finishes (some o) r (release o r).2 := by
  cases h : r.query.released with
  | true =>
    rw [release_of_released h]
    exact ⟨by rw [h]; exact Option.map_id'.symm, by rw [h]; rfl⟩
  | false =>
    rw [release_of_held h]
    exact ⟨by rw [h]; rfl, by rw [h]; rfl⟩

lemma fail_finishes (e : Error) (r : Run E Q Obj) : Finishes (some .errored) r (fail e r).2 :=
  have h := release_finishes .errored { r with query := { r.query with state := .errored } }
  ⟨h.telemetry, h.released⟩

lemma recoverOrFail_finishes (e : Error) (r : Run E Q Obj) :
    Finishes (if e.isQueryFatal then some .errored else none) r (recoverOrFail e r).2 := by
  cases h : e.isQueryFatal with
  | true =>
    rw [recoverOrFail_of_fatal h]
    exact fail_finishes e r
  | false =>
    rw [recoverOrFail_of_not_fatal h]
    exact .none rfl rfl

def said (r : Run E Q Obj) : Except Fault Event :=
  ((Engine.nextEvent r.query.handle : EngineCall E Event) r.shared.host.source).1

def refusal : Except Fault Event → Work E Obj → Option Error
  | .ok e, w =>
    match e.isExternal, (Dispatching.dispatch e w).1 with
    | true, .error x => some x
    | _, _ => none
  | .error _, _ => none

def occurrence (r : Run E Q Obj) : Occurrence Obj :=
  .polled (said r) (refusal (said r) (work (polled r))) (poll r).1

lemma refusal_of_external {e : Event} {w : Work E Obj} (he : e.isExternal = true) :
    refusal (.ok e) w = match (Dispatching.dispatch e w).1 with
      | .error x => some x
      | .ok _ => none := by
  cases h : (Dispatching.dispatch e w).1 <;> simp only [refusal, he, h]

def fault (y : Option Error) : Option (Progress Obj) := y.map fun e => .item (.error e)

section External

variable {event : Event} (he : event.isExternal = true) (x y : Option Error)

include he

omit [Engine E Q]

lemma ending_of_external : (Occurrence.polled (.ok event) x (fault y) : Occurrence Obj).ending =
    if y.any Error.isQueryFatal then some .errored else none := by
  cases event with
  | done _ | result _ _ => cases he
  | _ => cases y <;> rfl

lemma tally_of_external (t : Telemetry) :
    (Occurrence.polled (.ok event) x (fault y) : Occurrence Obj).tally t =
      if x.any isApplication then t.recordExternalCall.recordApplicationError
      else t.recordExternalCall := by
  have hc : (Occurrence.polled (.ok event) x (fault y) : Occurrence Obj).isCall = true := he
  cases y <;> simp only [Occurrence.tally, hc] <;> rfl

end External

structure Answers (event : Event) (r r' : Run E Q Obj) : Prop where
  telemetry : r'.shared.telemetry = r.shared.telemetry.map fun t =>
    if (refusal (.ok event) (work r)).any isApplication then t.recordApplicationError else t
  released : r'.query.released = r.query.released

lemma answer_answers {event : Event} (he : event.isExternal = true) (r : Run E Q Obj) :
    Answers event r (answer event r).2 := by
  have hf := refusal_of_external (w := work r) he
  rcases hd : Dispatching.dispatch event (work r) with ⟨x | _ | a, w⟩ <;> rw [hd] at hf
  · rw [answer_of_error hd]
    refine ⟨?_, ?_⟩ <;> cases hx : isApplication x <;> simp only [tallied, hx, hf, Option.any_some]
    · exact Option.map_id'.symm
    · rfl
    · rfl
    · rfl
  · rw [answer_of_nothing hd]
    exact ⟨by rw [hf]; exact Option.map_id'.symm, rfl⟩
  · rw [answer_of_answer hd]
    exact ⟨by rw [hf]; exact Option.map_id'.symm, rfl⟩

lemma undergoes_of_external {event : Event} (he : event.isExternal = true) {r₁ : Run E Q Obj}
    (ha : Answers event (awaiting (polled r)) r₁) (y : Option Error)
    (hf : Finishes (if y.any Error.isQueryFatal then some .errored else none) r₁ r') :
    Undergoes (.polled (.ok event) (refusal (.ok event) (work (polled r))) (fault y)) r r' := by
  refine .of r₁ ?_ ha.released ?_
  · rw [ha.telemetry, funext (tally_of_external he _ y)]
    exact Option.map_map ..
  · rw [ending_of_external he]
    exact hf

lemma poll_undergoes (r : Run E Q Obj) : Undergoes (occurrence r) r (poll r).2 := by
  have hx := poll_cases (r := r) rfl
  unfold occurrence
  change Polls r (said r) _ _ at hx
  generalize said r = a, (poll r).1 = p, (poll r).2 = r' at hx
  -- what is recorded before the end comes from what was said, the end from what is given out
  cases hx with
  | fault f =>
    have hf := fail_finishes f.queryError (polled r)
    refine .of (polled r) Option.map_id'.symm rfl ?_
    change Finishes (if f.queryError.isQueryFatal then some .errored else none) _ _
    rwa [isQueryFatal_queryError]
  | done b =>
    have hf := release_finishes .completed
      { polled r with query := { (polled r).query with state := .done } }
    exact .of { polled r with query := { (polled r).query with state := .done } }
      Option.map_id'.symm rfl hf
  | solution hb =>
    exact .of { polled r with shared := (polled r).shared.record Telemetry.recordResult }
      rfl rfl (.none rfl rfl)
  | unreadable hb => exact .of (polled r) Option.map_id'.symm rfl (recoverOrFail_finishes _ _)
  | answered he ha =>
    have h := answer_answers he (awaiting (polled r))
    rw [ha] at h
    exact undergoes_of_external he h none (.none rfl rfl)
  | @failed event e r₁ he ha =>
    have h := answer_answers he (awaiting (polled r))
    rw [ha] at h
    exact undergoes_of_external he h (some e) (recoverOrFail_finishes e r₁)

def pollsUpTo : Nat → Run E Q Obj → Life Obj
  | 0, _ => []
  | n + 1, r => occurrence r :: if (poll r).1.isSome then [] else pollsUpTo n (poll r).2

def polls (n : Nat) (r : Run E Q Obj) : Life Obj :=
  if r.query.state.isTerminal then [] else pollsUpTo n r

structure Tells (others : List (Life Obj)) (l : Life Obj) (r : Run E Q Obj) : Prop where
  telemetry : ∃ t, r.shared.telemetry = some t ∧ t.Shows (l :: others)
  released : r.query.released = l.outcome.isSome

variable {others : List (Life Obj)} {l : Life Obj}

omit [Engine E Q] in
lemma Undergoes.tells (hx : Undergoes x r r') (h : Tells others l r) :
    Tells others (l ++ [x]) r' := by
  obtain ⟨t, ht, hs⟩ := h.telemetry
  refine ⟨⟨x.record l.outcome.isSome t, ?_, hs.snoc x⟩, ?_⟩
  · rw [hx.telemetry, ht, h.released]
    rfl
  · rw [hx.released, h.released, Life.outcome_snoc, Option.isSome_or]

lemma pollUpTo_tells (n : Nat) (h : Tells others l r) :
    Tells others (l ++ pollsUpTo n r) (pollUpTo n r).2 := by
  induction n generalizing r l with
  | zero => rwa [pollsUpTo, List.append_nil]
  | succ n ih =>
    have hp := (poll_undergoes r).tells h
    rw [pollUpTo_succ, pollsUpTo]
    cases hg : (poll r).1 with
    | some p => exact hp
    | none =>
      have hr := ih hp
      rwa [List.append_assoc] at hr

lemma next_tells (n : Nat) (h : Tells others l r) :
    Tells others (l ++ polls n r) (next n r).2 := by
  unfold polls
  cases hs : r.query.state.isTerminal with
  | true =>
    rw [next_of_terminal hs, if_pos rfl, List.append_nil]
    exact h
  | false =>
    rw [next_of_active hs]
    exact pollUpTo_tells n h

lemma drop_tells (h : Tells others l r) : Tells others (l ++ [.stopped]) (drop r).2 :=
  have hf := release_finishes .abandoned r
  Undergoes.tells (.of r Option.map_id'.symm rfl hf) h

lemma close_tells (h : Tells others l r) : Tells others (l ++ [.stopped]) (close r).2 := by
  cases hs : r.query.state.isTerminal with
  | true =>
    rw [close_of_terminal hs]
    exact drop_tells h
  | false =>
    rw [close_of_active hs]
    exact drop_tells ⟨h.telemetry, h.released⟩

lemma settle_tells (p : Progress Obj) (h : Tells others l r) :
    Tells others (l ++ [.stopped]) (settle p r).2 := by
  unfold settle
  split
  · exact drop_tells h
  · exact close_tells h

end Query

end PolicyBridge
