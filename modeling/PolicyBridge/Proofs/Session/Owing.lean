import Mathlib.Tactic
import PolicyBridge.Proofs.Query.Owing
import PolicyBridge.Proofs.Session.Moving
import PolicyBridge.Proofs.Session.Serving
import PolicyBridge.Session.Builder

namespace PolicyBridge

namespace Session

open Failing HostValue
open NativeEngine (Owes)

variable {L Obj α : Type} {b : Since} {out : Multiset Pointer}
  {s : Session (NativeEngine (Watched L)) Obj}

/-- Whatever was owed is owed still, and no more. -/
def KeepsOwed (s s' : Session (NativeEngine (Watched L)) Obj) : Prop :=
  ∀ b out, Owes b out s.shared.host.source → Owes b out s'.shared.host.source

variable [Library L]

lemma keepsOwed_stepClosed :
    StepClosed NativeQuery (KeepsOwed : Session (NativeEngine (Watched L)) Obj → _ → Prop) where
  trans h h' b out ho := h' b out (h b out ho)
  aside hs _ b out ho := by rwa [hs]
  next _ _ _ ho := NativeEngine.next_owes ho
  load _ sources b out ho := NativeEngine.load_keeps sources b out _ (Multiset.zero_le _) ho
  clearRules _ b out ho := NativeEngine.clearRules_keeps b out _ (Multiset.zero_le _) ho
  bind _ name t b out ho :=
    NativeEngine.registerConstant_keeps name t b out _ (Multiset.zero_le _) ho

section Starting

inductive Begins (b : Since) (out : Multiset Pointer) :
    Except Error (Query NativeQuery Obj) × Session (NativeEngine (Watched L)) Obj → Prop
  | begun {q : Query NativeQuery Obj} {s : Session (NativeEngine (Watched L)) Obj} :
      Query.Owing b out ⟨s.shared, q⟩ → Begins b out (.ok q, s)
  | failed {x : Error} {s : Session (NativeEngine (Watched L)) Obj} :
      Owes b out s.shared.host.source → Begins b out (.error x, s)

lemma starting_begins {m : Marshaling (NativeEngine (Watched L)) Obj α} {f : Fault → Error}
    {c : α → EngineCall (NativeEngine (Watched L)) NativeQuery}
    (hm : ∃ n, Desk.Takes n s.desk (m s.desk).2) (hc : ∀ a, NativeEngine.Starts (c a))
    (h : Owes b out s.shared.host.source) : Begins b out (starting m f c s) := by
  obtain ⟨n, ht⟩ := hm
  have ho := keepsOwed_stepClosed.of_takes ht b out h
  rcases hd : m s.desk with ⟨x | a, d⟩ <;> rw [hd] at ho
  · rw [starting_of_unmarshalable hd]
    exact .failed ho
  · have hb := hc a b out d.source ho
    generalize hq : c a d.source = x at hb
    cases hb with
    | failed hb =>
      rw [starting_of_refused hd hq]
      exact .failed hb
    | begun hb =>
      rw [starting_of_accepted hd hq]
      exact .begun ⟨hb, nofun⟩

lemma marshaled_takes (args : List (HostValue Obj)) (bindings : List (String × HostValue Obj))
    (d : Desk (NativeEngine (Watched L)) Obj) :
    ∃ n ≤ (leavesOfItems args ++ leavesOfFields bindings).countP isNew,
      Desk.Takes n d (marshaled args bindings d).2 := by
  obtain ⟨n, hn, ht⟩ := (Marshal.toTerms_crosses args d).takes
  rw [List.countP_append]
  rcases ha : Marshal.toTerms args d with ⟨x | ts, d'⟩ <;> rw [ha] at ht
  · have hm : marshaled args bindings d = (.error x, d') := bind_error ha
    rw [hm]
    exact ⟨n, Nat.le_add_right_of_le hn, ht⟩
  · obtain ⟨k, hk, ht'⟩ := Marshal.toBindings_takes bindings d'
    refine ⟨n + k, Nat.add_le_add hn hk, ?_⟩
    have hm : marshaled args bindings d = (do return (ts, ← Marshal.toBindings bindings) :
        Marshaling (NativeEngine (Watched L)) Obj (List Term × Bindings)) d' := bind_ok ha
    rw [hm]
    rcases hb : Marshal.toBindings bindings d' with ⟨x | bs, d''⟩ <;> rw [hb] at ht'
    · rw [bind_error hb]
      exact ht.trans ht'
    · rw [bind_ok hb]
      exact ht.trans ht'

lemma evaluate_begins (rule : String) (args : List (HostValue Obj))
    (bindings : List (String × HostValue Obj)) (h : Owes b out s.shared.host.source) :
    Begins b out (evaluate rule args bindings s) := by
  obtain ⟨n, -, ht⟩ := marshaled_takes args bindings s.desk
  rw [evaluate_eq]
  exact starting_begins ⟨n, ht⟩ (fun _ => NativeEngine.newQuery_starts _ _) h

lemma evaluateText_begins (text : String) (bindings : List (String × HostValue Obj))
    (h : Owes b out s.shared.host.source) : Begins b out (evaluateText text bindings s) := by
  obtain ⟨n, -, ht⟩ := Marshal.toBindings_takes bindings s.desk
  rw [evaluateText_eq]
  exact starting_begins ⟨n, ht⟩ (NativeEngine.newQueryOfText_starts text) h

lemma isAllowed_keepsOwed (polls : Nat) (actor action resource : HostValue Obj) :
    Moves KeepsOwed (isAllowed polls actor action resource :
      InSession (NativeEngine (Watched L)) Obj (Option Bool)) := by
  intro s b out h
  have hb := evaluate_begins "allow" [actor, action, resource] [] h
  generalize he : evaluate "allow" [actor, action, resource] [] s = x at hb
  cases hb with
  | failed ho =>
    rw [isAllowed_of_error he]
    exact ho
  | begun hq =>
    rw [isAllowed_of_started he]
    exact Query.settle_owes _ (Query.next_owing polls hq)

end Starting

end Session

namespace Served

open NativeEngine (Owes)
open Session (KeepsOwed Begins)

variable {L Obj α : Type} {b : Since} {s : Served (NativeEngine (Watched L)) NativeQuery Obj}

def out (s : Served (NativeEngine (Watched L)) NativeQuery Obj) : Multiset Pointer :=
  (s.queries.map fun q => q.handle.out).sum

structure Owing (b : Since) (s : Served (NativeEngine (Watched L)) NativeQuery Obj) : Prop where
  owes : Owes b s.out s.session.shared.host.source
  spent : ∀ q ∈ s.queries, q.released = true → q.handle.out = 0

lemma inSession_owing {m : InSession (NativeEngine (Watched L)) Obj α}
    (hm : Failing.Moves KeepsOwed m) (f : Except Error α → Response Obj) (h : Owing b s) :
    Owing b (inSession m f s).2 :=
  ⟨hm s.session b s.out h.owes, h.spent⟩

lemma starting_owing {m : InSession (NativeEngine (Watched L)) Obj (Query NativeQuery Obj)}
    (hm : Begins b s.out (m s.session)) (h : Owing b s) : Owing b (starting m s).2 := by
  generalize hx : m s.session = x at hm
  cases hm with
  | failed ho =>
    rw [starting_of_error hx]
    exact ⟨ho, h.spent⟩
  | @begun q s' hq =>
    rw [starting_of_ok hx]
    refine ⟨?_, List.forall_mem_append.mpr ⟨h.spent, List.forall_mem_singleton.mpr hq.spent⟩⟩
    have ho : out ⟨s', s.queries ++ [q]⟩ = q.handle.out + s.out := by
      simp [out, add_comm]
    rw [ho]
    exact hq.owes

lemma out_append_cons (session : Session (NativeEngine (Watched L)) Obj)
    (qs qs' : List (Query NativeQuery Obj)) (q : Query NativeQuery Obj) :
    out ⟨session, qs ++ q :: qs'⟩ = q.handle.out + out ⟨session, qs ++ qs'⟩ := by
  simp [out, add_left_comm]

lemma Owing.split {n : Nat} {q : Query NativeQuery Obj} (h : Owing b s)
    (hq : s.queries[n]? = some q) :
    ∃ qs qs', s.queries = qs ++ q :: qs' ∧ qs.length = n ∧
      Query.Owing b (out ⟨s.session, qs ++ qs'⟩) ⟨s.session.shared, q⟩ ∧
      ∀ q ∈ qs ++ qs', q.released = true → q.handle.out = 0 := by
  obtain ⟨hn, hg⟩ := List.getElem?_eq_some_iff.mp hq
  obtain ⟨qs, qs', hs, hl, -⟩ : ∃ qs qs', s.queries = qs ++ s.queries[n] :: qs' ∧ qs.length = n ∧
      s.queries.set n q = qs ++ q :: qs' := List.exists_of_set hn
  rw [hg] at hs
  have ho := h.owes
  have hsp := h.spent
  rw [← show Served.mk s.session s.queries = s from rfl, hs, out_append_cons] at ho
  rw [hs, List.forall_mem_append, List.forall_mem_cons] at hsp
  obtain ⟨hqs, hq, hqs'⟩ := hsp
  exact ⟨qs, qs', hs, hl, ⟨ho, hq⟩, List.forall_mem_append.mpr ⟨hqs, hqs'⟩⟩

lemma onQuery_owing {m : Running (NativeEngine (Watched L)) NativeQuery Obj α}
    (hm : ∀ rest r, Query.Owing b rest r → Query.Owing b rest (m r).2) (n : Nat)
    (f : α → Response Obj) (h : Owing b s) : Owing b (onQuery n m f s).2 := by
  cases hq : s.queries[n]? with
  | none =>
    rw [onQuery_of_none hq]
    exact h
  | some q =>
    obtain ⟨qs, qs', hs, rfl, hown, hothers⟩ := h.split hq
    have hr := hm _ _ hown
    have hset (q' : Query NativeQuery Obj) : s.queries.set qs.length q' = qs ++ q' :: qs' := by
      rw [hs]
      simp
    rw [onQuery_of_some hq]
    refine ⟨?_, ?_⟩
    · simp only [hset, out_append_cons]
      exact hr.owes
    · obtain ⟨hqs, hqs'⟩ := List.forall_mem_append.mp hothers
      simp only [hset]
      exact List.forall_mem_append.mpr ⟨hqs, List.forall_mem_cons.mpr ⟨hr.spent, hqs'⟩⟩

lemma onQuery_erase_owing {m : Running (NativeEngine (Watched L)) NativeQuery Obj α}
    (hm : ∀ rest r, Query.Owing b rest r → Owes b rest (m r).2.shared.host.source) {n : Nat}
    (f : α → Response Obj) (h : Owing b s) (hn : n < s.queries.length) :
    let s' := (onQuery n m f s).2
    Owing b { s' with queries := s'.queries.eraseIdx n } ∧
      (s'.queries.eraseIdx n).length + 1 = s.queries.length := by
  intro s'
  obtain ⟨q, hq⟩ : ∃ q, s.queries[n]? = some q := ⟨_, List.getElem?_eq_getElem hn⟩
  obtain ⟨qs, qs', hs, rfl, hown, hothers⟩ := h.split hq
  have hr := hm _ _ hown
  have hx : s'.session.shared = (m ⟨s.session.shared, q⟩).2.shared := by
    change (onQuery qs.length m f s).2.session.shared = _
    rw [onQuery_of_some hq]
  have he : s'.queries.eraseIdx qs.length = qs ++ qs' := by
    change (onQuery qs.length m f s).2.queries.eraseIdx qs.length = _
    rw [onQuery_of_some hq]
    simp [hs, List.eraseIdx_append_of_length_le]
  refine ⟨⟨?_, ?_⟩, ?_⟩
  · rw [hx, he]
    exact hr
  · rwa [he]
  · rw [he, hs]
    simp
    omega

lemma serve_owing [Library L] [ClassObject Obj] (r : Request Obj) (h : Owing b s) :
    Owing b (serve r s).2 := by
  cases r with
  | load sources => exact inSession_owing (Session.keepsOwed_stepClosed.loads _ sources) _ h
  | loadFiles fs paths => exact inSession_owing (Session.keepsOwed_stepClosed.loadFiles fs paths) _ h
  | clearRules => exact inSession_owing Session.keepsOwed_stepClosed.clears _ h
  | registerClass c => exact inSession_owing (Session.keepsOwed_stepClosed.registerClass c) _ h
  | registerConstant name v =>
    exact inSession_owing (Session.keepsOwed_stepClosed.registerConstant name v) _ h
  | registerInstance i => exact inSession_owing (Session.keepsOwed_stepClosed.registerInstance i) _ h
  | releaseInstance id => exact inSession_owing (Session.keepsOwed_stepClosed.releaseInstance id) _ h
  | lookUp id => exact h
  | evaluate rule args bindings =>
    exact starting_owing (Session.evaluate_begins rule args bindings h.owes) h
  | evaluateText text bindings =>
    exact starting_owing (Session.evaluateText_begins text bindings h.owes) h
  | isAllowed polls actor action resource =>
    exact inSession_owing (Session.isAllowed_keepsOwed polls actor action resource) _ h
  | next n polls => exact onQuery_owing (fun _ _ => Query.next_owing polls) n _ h
  | close n => exact onQuery_owing (fun _ _ => Query.close_owing) n _ h
  | drop n => exact onQuery_owing (fun _ _ hr => Query.release_owing hr .abandoned) n _ h

lemma starting_length (m : InSession (NativeEngine (Watched L)) Obj (Query NativeQuery Obj)) :
    s.queries.length ≤ (starting m s).2.queries.length := by
  rcases hx : m s.session with ⟨e | q, s'⟩
  · rw [starting_of_error hx]
  · rw [starting_of_ok hx, List.length_append]
    exact Nat.le_add_right _ _

lemma onQuery_length (n : Nat) (m : Running (NativeEngine (Watched L)) NativeQuery Obj α)
    (f : α → Response Obj) : (onQuery n m f s).2.queries.length = s.queries.length := by
  cases hq : s.queries[n]? with
  | none => rw [onQuery_of_none hq]
  | some q =>
    rw [onQuery_of_some hq]
    exact List.length_set

lemma serve_length [Library L] [ClassObject Obj] (r : Request Obj)
    (s : Served (NativeEngine (Watched L)) NativeQuery Obj) :
    s.queries.length ≤ (serve r s).2.queries.length := by
  cases r with
  | evaluate _ _ _ | evaluateText _ _ => exact starting_length _
  | next n _ | close n | drop n => exact (onQuery_length n _ _).ge
  | _ => exact Nat.le_refl _

end Served

end PolicyBridge
