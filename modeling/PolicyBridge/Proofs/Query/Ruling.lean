import Mathlib.Tactic
import PolicyBridge.Proofs.Query.Borrowing
import PolicyBridge.Proofs.Query.Lifecycle
import PolicyBridge.Proofs.Query.Refinement

namespace PolicyBridge

variable {E Q Obj : Type}

def Progress.verdict : Progress Obj → Except Error (Option Bool)
  | .item (.ok _) => .ok (some true)
  | .item (.error e) => .error e
  | .finished => .ok (some false)
  | .pending => .ok none

namespace Query

open Reference

variable [Engine E Q]

/-- What so many events of the engine rule. Those that ask something of the host are answered until
one of them fails; the first event that asks nothing decides. -/
inductive Rules (q : Q) : Nat → Work E Obj → Except Error (Option Bool) → Prop
  | pending {w : Work E Obj} : Rules q 0 w (.ok none)
  | faulted {n : Nat} {w : Work E Obj} {f : Fault} {e : E} :
      (Engine.nextEvent q : EngineCall E Event) w.host.source = (.error f, e) →
        Rules q (n + 1) w (.error f.queryError)
  | denied {n : Nat} {w : Work E Obj} {b : Bool} {e : E} :
      (Engine.nextEvent q : EngineCall E Event) w.host.source = (.ok (.done b), e) →
        Rules q (n + 1) w (.ok (some false))
  | allowed {n : Nat} {w : Work E Obj} {bindings : Bindings} {trace : Option Json} {e : E}
      {values : Dict String (HostValue Obj)} :
      (Engine.nextEvent q : EngineCall E Event) w.host.source = (.ok (.result bindings trace), e) →
        Marshal.fromBindings w.registry bindings = .ok values → Rules q (n + 1) w (.ok (some true))
  | unreadable {n : Nat} {w : Work E Obj} {bindings : Bindings} {trace : Option Json} {e : E}
      {x : Error} :
      (Engine.nextEvent q : EngineCall E Event) w.host.source = (.ok (.result bindings trace), e) →
        Marshal.fromBindings w.registry bindings = .error x → Rules q (n + 1) w (.error x)
  | failed {n : Nat} {w : Work E Obj} {event : Event} {e : E} {x : Error} :
      (Engine.nextEvent q : EngineCall E Event) w.host.source = (.ok event, e) →
        event.isExternal = true → (reply q event (withSource e w)).item = some (.error x) →
          Rules q (n + 1) w (.error x)
  | served {n : Nat} {w : Work E Obj} {event : Event} {e : E} {v : Except Error (Option Bool)} :
      (Engine.nextEvent q : EngineCall E Event) w.host.source = (.ok event, e) →
        event.isExternal = true → (reply q event (withSource e w)).item = none →
          Rules q n (reply q event (withSource e w)).work v → Rules q (n + 1) w v

variable {r : Run (Recorded E) Q Obj}

lemma pollUpTo_rules (polls : Nat) (r : Run (Recorded E) Q Obj) :
    Rules r.query.handle polls (plain r) (pollUpTo polls r).1.verdict := by
  induction polls generalizing r with
  | zero => exact .pending
  | succ n ih =>
    rcases ha : (Engine.nextEvent r.query.handle : EngineCall E Event) r.shared.host.source.inner
      with ⟨a, e⟩
    have hx := poll_cases (polled_recorded ha)
    have hp := plain_polled ha
    have hn := ih (poll r).2
    rw [pollUpTo_succ]
    generalize (poll r).1 = p, (poll r).2 = r' at hx hn
    cases hx with
    | fault f => exact .faulted ha
    | done b => exact .denied ha
    | solution hb => exact .allowed ha hb
    | unreadable hb => exact .unreadable ha hb
    | @failed event x r' he hr =>
      obtain ⟨xs, hy⟩ := answer_echoes event (awaiting (polled r))
      rw [hr] at hy
      refine .failed ha he ?_
      rw [← hp]
      exact hy.item
    | @answered event r' he hr =>
      obtain ⟨xs, hy⟩ := answer_echoes event (awaiting (polled r))
      rw [hr] at hy
      refine .served ha he ?_ ?_
      · rw [← hp]
        exact hy.item
      · rw [hy.handle, hy.work] at hn
        rw [← hp]
        exact hn

lemma next_rules (polls : Nat) (hs : r.query.state.isTerminal = false) :
    Rules r.query.handle polls (plain r) (next polls r).1.verdict := by
  rw [next_of_active hs]
  exact pollUpTo_rules polls r

def settle : Progress Obj → Running E Q Obj Unit
  | .item (.error _) => drop
  | _ => close

lemma settle_borrows {before : Registry Obj} (p : Progress Obj) (r : Run (Recorded E) Q Obj) :
    Borrowing before r (settle p r).2 := by
  unfold settle
  split
  · exact release_borrows .abandoned r
  · exact close_borrows r

lemma Ends.settled {xs : List Exchange} {s : QueryState} {r' : Run (Recorded E) Q Obj}
    (h : Ends xs s r r') (hs : s.isTerminal = true) (p : Progress Obj) : (settle p r').2 = r' := by
  have ht : r'.query.state.isTerminal = true := by rw [h.state, hs]
  have hr := release_of_released h.released .abandoned
  unfold settle
  split
  · exact congrArg Prod.snd hr
  · rw [close_of_terminal ht]
    exact congrArg Prod.snd hr

lemma Proceeds.settles {xs : List Exchange} {r' : Run (Recorded E) Q Obj} (h : Proceeds xs r r')
    (p : Progress Obj) : ∃ s, Ends (xs ++ []) s r (settle p r').2 := by
  unfold settle
  split
  · exact ⟨_, h.ends (release_ends h.released .abandoned) nofun⟩
  · exact ⟨_, h.ends (close_ends h.released h.active) nofun⟩

lemma next_settles (polls : Nat) (h : r.query.released = false)
    (hs : r.query.state.isTerminal = false) :
    ∃ xs s, Ends xs s r (settle (next polls r).1 (next polls r).2).2 ∧ .freed ∉ xs := by
  have quiet {xs : List Exchange} (hq : ∀ x ∈ xs, x.IsQuiet) : .freed ∉ xs :=
    fun hf => (hq _ hf).1 rfl
  obtain ⟨xs, hx⟩ := next_advances h polls hs
  generalize (next polls r).1 = p, (next polls r).2 = r' at hx
  cases hx with
  | pending hp | item _ hp =>
    obtain ⟨s, he⟩ := hp.settles _
    rw [List.append_nil] at he
    exact ⟨xs, s, he, quiet hp.quiet⟩
  | failed he hq hp =>
    rw [hp.settled rfl]
    exact ⟨xs, _, hp, quiet hq⟩
  | finished hq hp =>
    rw [hp.settled rfl]
    refine ⟨_, _, hp, fun hf => ?_⟩
    rcases List.mem_append.mp hf with hf | hf
    · exact quiet hq hf
    · cases List.mem_singleton.mp hf

end Query

end PolicyBridge
