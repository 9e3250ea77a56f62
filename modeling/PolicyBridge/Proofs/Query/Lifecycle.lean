import Mathlib.Tactic
import PolicyBridge.Proofs.Query.Holding

namespace PolicyBridge

variable {E Q Obj : Type}

inductive Cause where
  | done
  | failed
  | closed
  | dropped
deriving DecidableEq

def Cause.Shows : Cause → List Exchange → QueryState → Prop
  | .done, xs, s =>
    s = .done ∧ ∃ ys b, xs = ys ++ [.polled (.ok (.done b))] ∧ ∀ x ∈ ys, x.IsQuiet
  | .failed, xs, s => s = .errored ∧ ∀ x ∈ xs, x.IsQuiet
  | .closed, xs, s => s = .done ∧ xs = []
  | .dropped, xs, _ => xs = []

namespace Leg

/-- Whether an act ends the query's life, told from the act and its answer alone. -/
def cause (l : Leg E Q Obj) : Option Cause :=
  match l.act, l.answer with
  | .drop, _ => some .dropped
  | .use .close, _ => some .closed
  | .use (.next _), some .finished => some .done
  | .use (.next _), some (.item i) => if Query.isFatal i then some .failed else none
  | _, _ => none

def taken (l : Leg E Q Obj) : List UInt64 := Exchange.taken l.exchanges

structure Lives (l : Leg E Q Obj) : Prop where
  cause : l.cause = none
  quiet : ∀ x ∈ l.exchanges, x.IsQuiet

structure Frees (ids : List UInt64) (l : Leg E Q Obj) : Prop where
  cause : ∃ c xs, l.cause = some c ∧ l.exchanges = xs ++ [.freed] ∧ c.Shows xs l.after.query.state
  own : l.after.query.own = .fresh
  gone : ∀ id ∈ ids, l.after.registry.live? id = none

structure Spent (q : Query Q Obj) (l : Leg E Q Obj) : Prop where
  exchanges : l.exchanges = []
  query : l.after.query = q
  answer : ∀ polls, l.act = .use (.next polls) → l.answer = some .finished

structure Splits (ls : List (Leg E Q Obj)) (ids : List UInt64) (early : List (Leg E Q Obj))
    (last : Leg E Q Obj) (late : List (Leg E Q Obj)) : Prop where
  eq : ls = early ++ last :: late
  lives : ∀ l ∈ early, l.Lives
  frees : last.Frees (ids ++ (early ++ [last]).flatMap taken)
  spent : ∀ l ∈ late, l.Spent last.after.query

lemma Splits.cons {l : Leg E Q Obj} {ls early late : List (Leg E Q Obj)} {last : Leg E Q Obj}
    {ids : List UInt64} (hl : l.Lives) (h : Splits ls (ids ++ l.taken) early last late) :
    Splits (l :: ls) ids (l :: early) last late := by
  refine ⟨by rw [h.eq]; rfl, ?_, ?_, h.spent⟩
  · intro x hx
    rcases List.mem_cons.mp hx with rfl | hx
    · exact hl
    · exact h.lives x hx
  · have := h.frees
    rwa [List.append_assoc] at this

end Leg

namespace Query

open Exchange

variable [Engine E Q] {r : Run (Recorded E) Q Obj}

lemma taken_freed (xs : List Exchange) : Exchange.taken (xs ++ [.freed]) = Exchange.taken xs := by
  rw [taken_append xs (by rintro x hx m o rfl; cases hx)]
  exact List.append_nil _

lemma Ends.frees {a : Act E Obj} {xs : List Exchange} {s : QueryState}
    (h : Ends xs s r (perform a r).2) {c : Cause} (hc : (leg a r).cause = some c)
    (hs : c.Shows xs s) : (leg a r).Frees (r.allocated ++ (leg a r).taken) := by
  have hx : (leg a r).exchanges = xs ++ [.freed] := exchanges_leg h.record
  refine ⟨⟨c, xs, hc, hx, ?_⟩, h.own, ?_⟩
  · change c.Shows xs (perform a r).2.query.state
    rw [h.state]
    exact hs
  · rw [Leg.taken, hx, taken_freed]
    exact h.gone

lemma Proceeds.lives {a : Act E Obj} {xs : List Exchange} (h : Proceeds xs r (perform a r).2)
    (hc : (leg a r).cause = none) :
    (leg a r).Lives ∧ Proceeds (leg a r).exchanges r (leg a r).after := by
  have hx : (leg a r).exchanges = xs := exchanges_leg h.record
  rw [hx]
  exact ⟨⟨hc, by rw [hx]; exact h.quiet⟩, h⟩

lemma cause_next (polls : Nat) (r : Run (Recorded E) Q Obj) :
    (leg (.use (.next polls)) r).cause = match (next polls r).1 with
      | .finished => some .done
      | .item i => if isFatal i then some .failed else none
      | .pending => none := by
  have ha : (leg (.use (.next polls)) r).answer = some (next polls r).1 := rfl
  have hu : (leg (.use (.next polls)) r).act = .use (.next polls) := rfl
  rw [Leg.cause, ha, hu]
  cases (next polls r).1 <;> rfl

section Held

variable (h : r.query.released = false)

include h

lemma drop_frees : (leg .drop r).Frees (r.allocated ++ (leg .drop r).taken) :=
  Ends.frees (a := .drop) (release_ends h .abandoned) rfl rfl

variable (hs : r.query.state.isTerminal = false)

include hs

lemma close_ends : Ends [] .done r (perform (.use .close) r).2 := by
  change Ends [] .done r (close r).2
  rw [close_of_active hs]
  have hr := release_ends (r := { r with query := { r.query with state := .done } }) h .abandoned
  exact ⟨hr.record, hr.state, hr.released, hr.own, hr.gone⟩

lemma use_lives_or_frees (u : Use E Obj) :
    ((leg (.use u) r).Lives ∧ Proceeds (leg (.use u) r).exchanges r (leg (.use u) r).after) ∨
      (leg (.use u) r).Frees (r.allocated ++ (leg (.use u) r).taken) ∧
        (leg (.use u) r).after.query.released = true ∧
        (leg (.use u) r).after.query.state.isTerminal = true := by
  cases u with
  | next polls =>
    obtain ⟨xs, hx⟩ := next_advances h polls hs
    have hc := cause_next polls r
    generalize (next polls r).1 = p at hx hc
    cases hx with
    | pending hx => exact .inl (hx.lives hc)
    | item hi hx => exact .inl (hx.lives (hc.trans (by simp [hi])))
    | failed he hq hx =>
      have hf : isFatal (.error _ : Item Obj) = true := he
      refine .inr ⟨hx.frees (hc.trans (if_pos hf)) ⟨rfl, hq⟩, hx.released, ?_⟩
      exact congrArg QueryState.isTerminal hx.state
    | finished hq hx =>
      refine .inr ⟨hx.frees hc ⟨rfl, _, _, rfl, hq⟩, hx.released, ?_⟩
      exact congrArg QueryState.isTerminal hx.state
  | close =>
    have he := close_ends h hs
    refine .inr ⟨he.frees rfl ⟨rfl, rfl⟩, he.released, ?_⟩
    exact congrArg QueryState.isTerminal he.state
  | meanwhile f =>
    have hp : Proceeds [] r (perform (.use (.meanwhile f)) r).2 :=
      ⟨(List.append_nil _).symm, (List.append_nil _).symm, h, hs, nofun⟩
    exact .inl (hp.lives rfl)

end Held

section Freed

variable (h : r.query.released = true) (hs : r.query.state.isTerminal = true)

include h hs

lemma leg_of_freed (a : Act E Obj) :
    (leg a r).after.record = r.record ∧ (leg a r).after.query = r.query := by
  match a with
  | .use (.next polls) =>
    change (next polls r).2.record = _ ∧ (next polls r).2.query = _
    rw [next_of_terminal hs]
    exact ⟨rfl, rfl⟩
  | .use .close =>
    change (close r).2.record = _ ∧ (close r).2.query = _
    rw [close_of_terminal hs, release_of_released h]
    exact ⟨rfl, rfl⟩
  | .use (.meanwhile f) => exact ⟨rfl, rfl⟩
  | .drop =>
    change (release .abandoned r).2.record = _ ∧ (release .abandoned r).2.query = _
    rw [release_of_released h]
    exact ⟨rfl, rfl⟩

lemma leg_spent (a : Act E Obj) : (leg a r).Spent r.query where
  exchanges := exchanges_leg ((leg_of_freed h hs a).1.trans (List.append_nil _).symm)
  query := (leg_of_freed h hs a).2
  answer := by
    rintro polls rfl
    change some (next polls r).1 = _
    rw [next_of_terminal hs]

lemma legs_spent (acts : List (Act E Obj)) : ∀ l ∈ legs acts r, l.Spent r.query := by
  induction acts generalizing r with
  | nil => exact List.forall_mem_nil _
  | cons a acts ih =>
    intro l hl
    have hq := (leg_of_freed h hs a).2
    rcases List.mem_cons.mp hl with rfl | hl
    · exact leg_spent h hs a
    · rw [← hq]
      exact ih (by rw [hq, h]) (by rw [hq, hs]) l hl

end Freed

lemma legs_split (uses : List (Use E Obj)) (h : r.query.released = false)
    (hs : r.query.state.isTerminal = false) :
    ∃ early last late, Leg.Splits (legs (uses.map .use ++ [.drop]) r) r.allocated early last late := by
  induction uses generalizing r with
  | nil =>
    refine ⟨[], leg .drop r, [], rfl, List.forall_mem_nil _, ?_, List.forall_mem_nil _⟩
    rw [List.nil_append, List.flatMap_singleton]
    exact drop_frees h
  -- Either the query is still held, and the rest of its legs splits, or the rest is spent.
  | cons u uses ih =>
    rcases use_lives_or_frees h hs u with ⟨hl, hp⟩ | ⟨hf, hr, ht⟩
    · obtain ⟨early, last, late, hx⟩ := ih hp.released hp.active
      rw [hp.allocated] at hx
      exact ⟨leg (.use u) r :: early, last, late, hx.cons hl⟩
    · refine ⟨[], leg (.use u) r, _, rfl, List.forall_mem_nil _, ?_, legs_spent hr ht _⟩
      rw [List.nil_append, List.flatMap_singleton]
      exact hf

/-- However a query is used, whatever its engine and its host do: up to the first act that ends it,
it holds the engine's query; in that act the engine's query is freed last of all and every id that
was taken is released; and no act after that reaches the engine or changes the state again. -/
theorem freed_once_at_first_end (handle : Q) (own : Dispatcher Obj) (shared : Shared E Obj)
    (uses : List (Use E Obj)) :
    ∃ early last late, Leg.Splits
      (legs (uses.map .use ++ [.drop]) (Run.launch handle own shared)) own.allocated
      early last late :=
  legs_split uses rfl rfl

end Query

end PolicyBridge
