import Mathlib.Tactic
import PolicyBridge.Proofs.Query.Complaining
import PolicyBridge.Proofs.Query.Lifecycle

namespace PolicyBridge

variable {E Q Obj : Type}

namespace Query

open Dispatching

variable [Engine E Q]

def afterUse (r : Run (Recorded E) Q Obj) (u : Use E Obj) : Run (Recorded E) Q Obj :=
  (leg (.use u) r).after

lemma afterUse_released {r : Run (Recorded E) Q Obj}
    (h : r.query.released = r.query.state.isTerminal) (u : Use E Obj) :
    (afterUse r u).query.released = (afterUse r u).query.state.isTerminal := by
  cases hs : r.query.state.isTerminal with
  | true =>
    have hq := (leg_of_freed (h.trans hs) hs (.use u)).2
    rw [afterUse, hq, h]
  | false =>
    rcases use_lives_or_frees (h.trans hs) hs u with ⟨-, hp⟩ | ⟨-, hr, ht⟩
    · exact hp.released.trans hp.active.symm
    · exact hr.trans ht.symm

lemma used_released (uses : List (Use E Obj)) {r : Run (Recorded E) Q Obj}
    (h : r.query.released = r.query.state.isTerminal) :
    (uses.foldl afterUse r).query.released = (uses.foldl afterUse r).query.state.isTerminal := by
  induction uses generalizing r with
  | nil => exact h
  | cons u uses ih => exact ih (afterUse_released h u)

lemma outcome_of_survived {h : HostRun} {x : Error} (hx : h.Fails x)
    (hf : x.isQueryFatal = false) : h.outcome = .failed x := by
  obtain ⟨hook, c, k, o⟩ := h
  change o.guarded c k = .error x at hx
  cases o with
  | value _ => cases hx
  | raised _ | panicked _ =>
    cases hx
    cases hf
  | failed e =>
    cases e with
    | application _ _ _ =>
      cases hx
      cases hf
    | _ =>
      cases hx
      rfl

/-- The errors that a query survives, told by their kind and by where they come from. -/
def Survivable (r : Run (Recorded E) Q Obj) (polls : Nat) (x : Error) : Prop :=
  x.category = "marshal" ∨ (x.category = "load" ∨ x.category = "config") ∧
    ∃ event h, Meets r polls event h ∧ h.outcome = .failed x

lemma survivable_iff {r : Run (Recorded E) Q Obj} {polls : Nat} {x : Error}
    (hx : (pollUpTo polls r).1 = .item (.error x)) :
    Survivable r polls x ↔ x.isQueryFatal = false := by
  have handed (hf : x.isQueryFatal = false) (hr : ¬ x.IsRefusal) :
      ∃ event h, Meets r polls event h ∧ h.outcome = .failed x := by
    rcases pollUpTo_origin hx with ⟨f, rfl⟩ | hr' | ⟨event, h, hm, hh⟩
    · rw [isQueryFatal_queryError] at hf
      cases hf
    · exact absurd hr' hr
    · exact ⟨event, h, hm, outcome_of_survived hh hf⟩
  unfold Survivable
  cases x with
  | marshal _ _ => exact iff_of_true (.inl rfl) rfl
  | load _ _ => exact iff_of_true (.inr ⟨.inl rfl, handed rfl nofun⟩) rfl
  | config _ _ => exact iff_of_true (.inr ⟨.inr rfl, handed rfl nofun⟩) rfl
  | application _ _ _ | protocol _ | resource _ _ =>
    refine iff_of_false ?_ nofun
    simp [Error.category]

/-- However a query is used: an error that it gives leaves it running if it is one of marshaling, or
one of loading or configuration that host code handed back in a poll for it; the query then goes on
to poll. After all other errors it is over, and has let go of all that it held. -/
theorem error_survived_iff (handle : Q) (own : Dispatcher Obj) (shared : Shared E Obj)
    (uses : List (Use E Obj)) (polls : Nat) (x : Error) :
    let r := uses.foldl afterUse (Run.launch handle own shared)
    let r' := (next polls r).2
    (next polls r).1 = .item (.error x) →
      (r'.query.state.isTerminal = false ↔ Survivable r polls x) ∧
      (r'.query.state.isTerminal = false →
        (∃ xs, Proceeds xs r r') ∧ ∀ n, next n r' = pollUpTo n r') ∧
      (r'.query.state.isTerminal = true →
        (∃ xs, Ends xs .errored r r') ∧ ∀ n, next n r' = (.finished, r')) := by
  intro r r' hx
  have hr : r.query.released = r.query.state.isTerminal := used_released uses rfl
  cases hs : r.query.state.isTerminal with
  | true =>
    rw [next_of_terminal hs] at hx
    cases hx
  | false =>
    have hi := survivable_iff ((congrArg Prod.fst (next_of_active hs polls)).symm.trans hx)
    obtain ⟨xs, hy⟩ := next_advances (hr.trans hs) polls hs
    rw [hx] at hy
    change Advances r r' _ xs at hy
    rw [hi]
    cases hy with
    | item hf hp =>
      have ha := hp.active
      exact ⟨iff_of_true ha hf, fun _ => ⟨⟨xs, hp⟩, fun n => next_of_active ha n⟩, fun ht => by
        rw [ha] at ht
        cases ht⟩
    | failed hf _ hp =>
      have ht : r'.query.state.isTerminal = true := by rw [hp.state]; rfl
      refine ⟨iff_of_false (by rw [ht]; exact nofun) (by rw [hf]; exact nofun), fun ha => ?_,
        fun _ => ⟨⟨xs, hp⟩, fun n => next_of_terminal ht n⟩⟩
      rw [ht] at ha
      cases ha

section Samples

def launched (o : Outcome Unit) : Run (Recorded Tape) Unit Unit :=
  Run.launch () .fresh (asking o).shared

theorem error_survived_iff_user :
    let r := launched (.failed (.marshal "no such user" none))
    (next 1 r).1 = .item (.error (.marshal "no such user" none)) ∧
      (next 1 r).2.query.state.isTerminal = false := by
  intro r
  have hx : (next 1 r).1 = .item (.error (.marshal "no such user" none)) := rfl
  exact ⟨hx, (error_survived_iff () .fresh _ [] 1 _ hx).1.mpr (.inl rfl)⟩

/-- A query also survives a load error that a constructor hands back. -/
theorem load_error_survived :
    ¬ ∀ (shared : Shared Tape Unit) (polls : Nat) (x : Error),
      let r : Run (Recorded Tape) Unit Unit := Run.launch () .fresh shared
      (next polls r).1 = .item (.error x) →
        ((next polls r).2.query.state.isTerminal = false ↔ x.category = "marshal") := by
  intro h
  have hm : "load" = "marshal" :=
    (h (asking (.failed (.load "no such user" none))).shared 1 (.load "no such user" none) rfl).mp rfl
  exact absurd hm (by decide)

end Samples

end Query

end PolicyBridge
