import Mathlib.Tactic
import PolicyBridge.Cli.Run
import PolicyBridge.Proofs.Native.Settling
import PolicyBridge.Proofs.Query.Gathering

namespace PolicyBridge.Cli

open Config (Environment)
open Query (found turned Collects)

variable {E Q Obj : Type}

section Solutions

variable [Engine E Q]

lemma solutions_succ (polls n : Nat) (r : Run E Q Obj) : solutions polls (n + 1) r =
    match Query.next polls r with
    | (.item (.ok s), r) =>
      let x := solutions polls n r
      (⟨s.json.write :: x.1.lines, x.1.ending⟩, x.2)
    | (.item (.error e), r) => (⟨[], .failed e⟩, r)
    | (.finished, r) => (⟨[], .complete⟩, r)
    | (.pending, r) => (⟨[], .pending⟩, r) := by
  rcases h : Query.next polls r with ⟨(_ | s) | _ | _, r'⟩ <;> exact Query.bind_of h

lemma solutions_tell (polls n : Nat) (r : Run E Q Obj)
    (h : (solutions polls n r).1.ending = .complete) :
    ∃ rs m, (solutions polls n r).1.lines = rs.map (·.json.write) ∧
      (solutions polls n r).2 = turned m r ∧ Collects n r rs m := by
  induction n generalizing r with
  | zero => exact ⟨[], 0, rfl, rfl, Query.collects_nothing r⟩
  | succ n ih =>
    obtain ⟨k, hk⟩ := Query.next_reaches polls r
    rw [solutions_succ] at h ⊢
    rcases hp : Query.next polls r with ⟨(e | s) | _ | _, r'⟩
    all_goals rw [hp] at h hk
    · cases h
    · obtain ⟨rs, m, hl, hr, ht⟩ := ih r' h
      refine ⟨s :: rs, k + m, congrArg (s.json.write :: ·) hl, ?_, hk.collects_more ht⟩
      rw [Query.turned_add, ← hk.run]
      exact hr
    · exact ⟨[], k, rfl, hk.run, hk.collects_end⟩
    · cases h

lemma count_eq_zero_iff (r : Report) : r.count = 0 ↔ 2 ^ 32 ∣ r.lines.length := by
  rw [Report.count, ← Int32.toInt_inj, Int32.toInt_ofNat', Int32.toInt_zero,
    ← Int.dvd_iff_bmod_eq_zero, Int.natCast_dvd_natCast]
  rfl

end Solutions

section Sessions

variable [Engine E Q]

def Arguments.opens (fs : Files) (a : Arguments) : Part E Obj (Query Q Obj) := do
  unless a.policyFiles.isEmpty do displaying (Session.loadFiles fs a.policyFiles)
  let bindings ← ExceptT.mk (pure (readBindings a.bindings))
  displaying (Session.evaluateText a.query bindings)

lemma report_eq (fs : Files) (polls : Nat) (a : Arguments) :
    (a.report fs polls : Part E Obj Report) = do
      let q ← a.opens fs
      let (r, q) ← displaying (Session.onQuery q (solutions polls a.maximum))
      let _ ← displaying (Session.onQuery q Query.drop)
      return r := by
  unfold Arguments.report Arguments.opens
  by_cases h : a.policyFiles.isEmpty = true
  · rw [if_pos h, if_pos h]
    simp only [bind_assoc]
  · rw [if_neg h, if_neg h]
    simp only [bind_assoc]

def left (s : Session E Obj) (r : Run E Q Obj) : Session E Obj :=
  { s with shared := (Query.drop r).2.shared }

variable {fs : Files} {a : Arguments} {s s' : Session E Obj}

lemma report_of_error {m : String} (polls : Nat)
    (h : (a.opens fs : Part E Obj (Query Q Obj)) s = (.error m, s')) :
    (a.report fs polls : Part E Obj Report) s = (.error m, s') := by
  rw [report_eq]
  exact Failing.bind_error h

lemma report_of_opened {q : Query Q Obj} (polls : Nat) (h : a.opens fs s = (.ok q, s')) :
    (a.report fs polls : Part E Obj Report) s =
      let x := solutions polls a.maximum ⟨s'.shared, q⟩
      (.ok x.1, left s' x.2) := by
  rw [report_eq]
  exact Failing.bind_ok h

end Sessions

section Runs

variable {L : Type} [Library L] {fs : Files} {env : Environment} {a : Arguments} {l l' : L}
  {c : Config} {polls : Nat} {o : Outcome}

/-- How a successful run goes: the session in which the query was started, the solutions that were
told by how many polls, what was printed of them, and that the library was left after just these
polls. -/
structure Succeeds (fs : Files) (a : Arguments) (c : Config) (l : L) (o : Outcome) (l' : L)
    (s : Session (NativeEngine L) NoObject) (q : Query NativeQuery NoObject)
    (rs : List (ResultSet NoObject)) (m : Nat) : Prop where
  opened : ∃ s₀, ({ SessionPlan.standard with config := c } : SessionPlan NoObject).build fs l =
    .ok s₀ ∧ a.opens fs s₀ = (.ok q, s)
  told : Collects a.maximum ⟨s.shared, q⟩ rs m
  stdout : o.stdout =
    linesText (rs.map (·.json.write) ++ if 2 ^ 32 ∣ rs.length then ["false"] else [])
  error : o.error = none
  library : l' = (left s (turned m ⟨s.shared, q⟩)).shutDown.shared.host.source.library

lemma outcome_success {r : Report} (h : r.outcome.code = 0) : r.ending = .complete := by
  unfold Report.outcome at h
  split at h
  · cases h
  · assumption
  · cases h

lemma outcome_complete {r : Report} (h : r.ending = .complete) : r.outcome =
    ⟨0, linesText (r.lines ++ if 2 ^ 32 ∣ r.lines.length then ["false"] else []), none⟩ := by
  rw [Report.outcome, h]
  by_cases hc : 2 ^ 32 ∣ r.lines.length
  · rw [if_pos ((count_eq_zero_iff r).mpr hc), if_pos hc]
  · rw [if_neg (mt (count_eq_zero_iff r).mp hc), if_neg hc, List.append_nil]

lemma runWith_succeeds (h : (runWith fs polls a c l).1.code = 0) :
    ∃ s q rs m, Succeeds fs a c l (runWith fs polls a c l).1 (runWith fs polls a c l).2 s q rs m := by
  unfold runWith at h ⊢
  dsimp only at h ⊢
  cases hb : ({ SessionPlan.standard with config := c } : SessionPlan NoObject).build fs l with
  | error x =>
    rw [hb] at h
    cases h
  | ok s₀ =>
    rw [hb] at h
    rcases ho : (a.opens fs : Part (NativeEngine L) NoObject (Query NativeQuery NoObject)) s₀ with
      ⟨x | q, s⟩
    · simp only [report_of_error polls ho] at h
      cases h
    · simp only [report_of_opened polls ho] at h ⊢
      have he := outcome_success h
      obtain ⟨rs, m, hl, hr, ht⟩ := solutions_tell polls a.maximum ⟨s.shared, q⟩ he
      rw [outcome_complete he, hr, hl]
      exact ⟨s, q, rs, m, ⟨s₀, hb, ho⟩, ht, by rw [List.length_map], rfl, rfl⟩

lemma runArguments_success (h : (runArguments fs env polls a l).1.code = 0) :
    ∃ c, a.settings fs env = .ok c ∧ runArguments fs env polls a l = runWith fs polls a c l := by
  unfold runArguments at h ⊢
  by_cases hc : a.canCollect env = true
  · rw [if_pos hc] at h ⊢
    cases hs : a.settings fs env with
    | error e =>
      rw [hs] at h
      cases h
    | ok c =>
      rw [hs] at h
      refine ⟨c, rfl, ?_⟩
      dsimp only at h ⊢
      cases hl : checkLogging env c with
      | error e =>
        rw [hl] at h
        cases e <;> cases h
      | ok u =>
        rw [hl] at h
        dsimp only at h ⊢
        by_cases hr : hasRoom c = true
        · rw [if_pos hr]
        · rw [if_neg hr] at h
          cases h
  · rw [if_neg hc] at h
    cases h

/-- A run that succeeds prints the first solutions of its query, as many as asked for, one a line
and in order, and leaves the engine alone once it has them; having no limit is one of 2 ^ 64 - 1.
The line `false` follows if their number is zero in 32 bits: when the query gives none, but also when
none are asked for. -/
theorem solutions_reported (fs : Files) (env : Environment) (polls : Nat) (a : Arguments) (l : L)
    (h : (runArguments fs env polls a l).1.code = 0) :
    ∃ c s q rs m, a.settings fs env = .ok c ∧
      Succeeds fs a c l (runArguments fs env polls a l).1 (runArguments fs env polls a l).2 s q rs m ∧
      (rs = [] ↔ a.maximum = 0 ∨ ∀ k, found k ⟨s.shared, q⟩ = []) := by
  obtain ⟨c, hc, hr⟩ := runArguments_success h
  rw [hr] at h ⊢
  obtain ⟨s, q, rs, m, hs⟩ := runWith_succeeds h
  exact ⟨c, s, q, rs, m, hc, hs, hs.told.nil_iff⟩

end Runs

section Samples

def once : Player := ⟨[Event.text (.result [] none), Event.text (.done true)], ""⟩

def asking (limit : Option UInt64) : Arguments := ⟨"r", [], none, [], limit, none, false, false⟩

def printing (limit : Option UInt64) : Outcome × Player := runArguments [] [] 3 (asking limit) once

lemma printing_all : (printing none).1 = ⟨0, "{}\n", none⟩ := by decide +kernel

theorem solutions_reported_once : (printing none).1.stdout = "{}\n" ∧
    ∃ c s q rs m, (asking none).settings [] [] = .ok c ∧
      Succeeds [] (asking none) c once (printing none).1 (printing none).2 s q rs m ∧
      (rs = [] ↔ (asking none).maximum = 0 ∨ ∀ k, found k ⟨s.shared, q⟩ = []) := by
  have h := printing_all
  exact ⟨by rw [h], solutions_reported [] [] 3 (asking none) once
    (by change (printing none).1.code = 0; rw [h])⟩

/-- With a limit of zero `false` is printed, although there is a solution. -/
theorem false_printed_at_limit_zero :
    (printing none).1 = ⟨0, "{}\n", none⟩ ∧ (printing (some 0)).1 = ⟨0, "false\n", none⟩ :=
  ⟨printing_all, by decide +kernel⟩

end Samples

end PolicyBridge.Cli
