import Mathlib.Tactic
import PolicyBridge.Proofs.Query.Steps

namespace PolicyBridge

variable {E Q Obj : Type}

def Progress.solution? : Progress Obj → Option (ResultSet Obj)
  | .item (.ok s) => some s
  | _ => none

namespace Query

variable [Engine E Q] {r r' : Run E Q Obj}

def turned : Nat → Run E Q Obj → Run E Q Obj
  | 0, r => r
  | n + 1, r => turned n (next 1 r).2

def found : Nat → Run E Q Obj → List (ResultSet Obj)
  | 0, _ => []
  | n + 1, r => (next 1 r).1.solution?.toList ++ found n (next 1 r).2

lemma turned_add (k n : Nat) (r : Run E Q Obj) : turned (k + n) r = turned n (turned k r) := by
  induction k generalizing r with
  | zero => rw [Nat.zero_add, turned]
  | succ k ih => rw [Nat.add_right_comm, turned, turned, ih]

lemma found_add (k n : Nat) (r : Run E Q Obj) :
    found (k + n) r = found k r ++ found n (turned k r) := by
  induction k generalizing r with
  | zero => rw [Nat.zero_add, found, turned, List.nil_append]
  | succ k ih => rw [Nat.add_right_comm, found, found, turned, ih, List.append_assoc]

lemma found_prefix {k n : Nat} (h : k ≤ n) (r : Run E Q Obj) : found k r <+: found n r := by
  obtain ⟨d, rfl⟩ := Nat.exists_eq_add_of_le h
  rw [found_add]
  exact List.prefix_append _ _

lemma found_of_terminal (h : r.query.state.isTerminal = true) (n : Nat) : found n r = [] := by
  induction n with
  | zero => rfl
  | succ n ih => rw [found, next_of_terminal h, ih]; rfl

lemma answer_state {event : Event} (h : answer event r = (.ok (), r')) :
    r'.query.state = r.query.state := by
  rcases hd : Dispatching.dispatch event (work r) with ⟨e | a, w⟩
  · rw [answer_of_error hd] at h
    cases h
  · cases a with
    | none =>
      rw [answer_of_nothing hd] at h
      cases h
      rfl
    | some a =>
      rw [answer_of_answer hd] at h
      have hr : withEngine _ _ = r' := congrArg Prod.snd h
      rw [← hr]
      rfl

lemma active_of_poll (h : poll r = (none, r')) : r'.query.state.isTerminal = false := by
  generalize ha : ((Engine.nextEvent r.query.handle : EngineCall E Event)
    r.shared.host.source).1 = a
  have hp := poll_cases ha
  rw [h] at hp
  cases hp with
  | answered _ hr => rw [answer_state hr]; rfl

lemma terminal_of_poll (h : poll r = (some .finished, r')) : r'.query.state.isTerminal = true := by
  generalize ha : ((Engine.nextEvent r.query.handle : EngineCall E Event)
    r.shared.host.source).1 = a
  have hp := poll_cases ha
  rw [h] at hp
  cases hp with
  | done b =>
    have hs : (onEvent (.done b) (polled r)).2.query.state = .done :=
      release_state .completed { polled r with query := { (polled r).query with state := .done } }
    change (onEvent (.done b) (polled r)).2.query.state.isTerminal = true
    rw [hs]
    rfl

structure Reaches (r : Run E Q Obj) (p : Progress Obj) (r' : Run E Q Obj) (k : Nat) : Prop where
  run : r' = turned k r
  before : ∀ j < k, found j r = []
  gives : found k r = p.solution?.toList
  ended : p = .finished → r'.query.state.isTerminal = true

lemma pollUpTo_reaches (polls : Nat) (h : r.query.state.isTerminal = false) :
    ∃ k, Reaches r (pollUpTo polls r).1 (pollUpTo polls r).2 k := by
  induction polls generalizing r with
  | zero => exact ⟨0, rfl, nofun, rfl, nofun⟩
  | succ polls ih =>
    rw [pollUpTo_succ]
    rcases hp : poll r with ⟨_ | p, r'⟩
    · have hn : next 1 r = (.pending, r') := by rw [next_of_active h, pollUpTo_succ, hp]; rfl
      obtain ⟨k, hr, hz, hs, ho⟩ := ih (active_of_poll hp)
      refine ⟨k + 1, by rw [turned, hn]; exact hr, ?_, by rw [found, hn]; exact hs, ho⟩
      rintro (_ | j) hj
      · rfl
      · rw [found, hn]
        exact hz j (Nat.lt_of_succ_lt_succ hj)
    · have hn : next 1 r = (p, r') := by rw [next_of_active h, pollUpTo_succ, hp]
      refine ⟨1, by rw [turned, hn]; rfl, ?_, by rw [found, hn]; exact List.append_nil _, ?_⟩
      · intro j hj
        rw [Nat.lt_one_iff.mp hj]
        rfl
      · rintro rfl
        exact terminal_of_poll hp

lemma next_reaches (polls : Nat) (r : Run E Q Obj) :
    ∃ k, Reaches r (next polls r).1 (next polls r).2 k := by
  cases h : r.query.state.isTerminal with
  | true =>
    rw [next_of_terminal h]
    exact ⟨0, rfl, nofun, rfl, fun _ => h⟩
  | false =>
    rw [next_of_active h]
    exact pollUpTo_reaches polls h

/-- The first solutions of a query, up to a limit, and the number of polls that gives them: from
there on no poll adds to them, and before it they are fewer than the limit. -/
structure Collects (limit : Nat) (r : Run E Q Obj) (rs : List (ResultSet Obj)) (polls : Nat) :
    Prop where
  first : ∀ k ≥ polls, (found k r).take limit = rs
  fewer : ∀ k < polls, (found k r).length < limit

variable {limit k m : Nat} {rs : List (ResultSet Obj)}

lemma collects_nothing (r : Run E Q Obj) : Collects 0 r [] 0 := ⟨fun _ _ => List.take_zero, nofun⟩

lemma Reaches.collects_end (h : Reaches r .finished r' k) : Collects (limit + 1) r [] k := by
  refine ⟨fun n hn => ?_, fun j hj => ?_⟩
  · obtain ⟨d, rfl⟩ := Nat.exists_eq_add_of_le hn
    rw [found_add, ← h.run, found_of_terminal (h.ended rfl), h.gives]
    rfl
  · rw [h.before j hj]
    exact Nat.succ_pos limit

lemma Reaches.collects_more {s : ResultSet Obj} (h : Reaches r (.item (.ok s)) r' k)
    (ht : Collects limit r' rs m) : Collects (limit + 1) r (s :: rs) (k + m) := by
  have hf (n : Nat) : found (k + n) r = s :: found n r' := by rw [found_add, ← h.run, h.gives]; rfl
  refine ⟨fun n hn => ?_, fun j hj => ?_⟩
  · obtain ⟨d, rfl⟩ := Nat.exists_eq_add_of_le ((Nat.le_add_right k m).trans hn)
    rw [hf, List.take_succ_cons, ht.first d (Nat.le_of_add_le_add_left hn)]
  · by_cases hk : j < k
    · rw [h.before j hk]
      exact Nat.succ_pos limit
    · obtain ⟨d, rfl⟩ := Nat.exists_eq_add_of_le (not_lt.mp hk)
      rw [hf]
      exact Nat.succ_lt_succ (ht.fewer d (Nat.lt_of_add_lt_add_left hj))

lemma Collects.nil_iff (h : Collects limit r rs m) : rs = [] ↔ limit = 0 ∨ ∀ k, found k r = [] := by
  have hn {k : Nat} (hk : m ≤ k) : rs = [] ↔ limit = 0 ∨ found k r = [] := by
    rw [← h.first k hk, List.take_eq_nil_iff]
  refine ⟨fun hr => ?_, fun hr => (hn le_rfl).mpr (hr.imp_right fun hk => hk m)⟩
  by_cases hl : limit = 0
  · exact .inl hl
  · refine .inr fun k => ?_
    have hk := ((hn (Nat.le_add_left m k)).mp hr).resolve_left hl
    exact List.prefix_nil.mp (hk ▸ found_prefix (Nat.le_add_right k m) r)

end Query

end PolicyBridge
