import Mathlib.Tactic
import PolicyBridge.Proofs.Query.Holding

/-! What a query borrows of a registry: entries under ids that were free and that it lists. When it
lets go of them the entries are those that were there before. -/

namespace PolicyBridge

variable {E Q Obj : Type}

namespace Registry

/-- The ids listed were free and are live, and under any other one the registry is as it was. -/
structure Borrows (before : Registry Obj) (ids : List UInt64) (r : Registry Obj) : Prop where
  free : ∀ id ∈ ids, before.live? id = none
  held : ∀ id ∈ ids, r.live? id ≠ none
  kept : ∀ id, id ∉ ids → r.live? id = before.live? id

namespace Borrows

variable {before r r' : Registry Obj} {ids new : List UInt64}

lemma of_same (h : ∀ id, r.live? id = before.live? id) : before.Borrows [] r :=
  ⟨fun _ h => absurd h List.not_mem_nil, fun _ h => absurd h List.not_mem_nil, fun id _ => h id⟩

lemma refl (before : Registry Obj) : before.Borrows [] before := of_same fun _ => rfl

lemma free_of (h : before.Borrows ids r) {id : UInt64} (hl : r.live? id = none) :
    before.live? id = none := by
  by_cases hid : id ∈ ids
  · exact h.free id hid
  · rw [← h.kept id hid, hl]

lemma gains (h : before.Borrows ids r) (hg : r.Gains new r')
    (hn : ∀ id ∈ new, before.live? id = none) : before.Borrows (ids ++ new) r' := by
  refine ⟨fun id hid => (List.mem_append.mp hid).elim (h.free id) (hn id), fun id hid => ?_,
    fun id hid => ?_⟩
  · by_cases hnew : id ∈ new
    · obtain ⟨i, hi⟩ := hg.gained id hnew
      simp [hi]
    · rw [hg.kept id hnew]
      exact h.held id ((List.mem_append.mp hid).resolve_right hnew)
  · rw [List.mem_append, not_or] at hid
    rw [hg.kept id hid.2, h.kept id hid.1]

lemma live (h : before.Borrows ids r) {id : UInt64} (hl : before.live? id ≠ none) :
    r.live? id ≠ none := by
  rw [h.kept id fun hid => hl (h.free id hid)]
  exact hl

lemma trans (h : before.Borrows ids r) (h' : r.Borrows new r') : before.Borrows (new ++ ids) r' := by
  refine ⟨fun id hid => ?_, fun id hid => ?_, fun id hid => ?_⟩
  · exact (List.mem_append.mp hid).elim (fun hid => h.free_of (h'.free id hid)) (h.free id)
  · exact (List.mem_append.mp hid).elim (h'.held id) fun hid => h'.live (h.held id hid)
  · rw [List.mem_append, not_or] at hid
    rw [h'.kept id hid.1, h.kept id hid.2]

lemma register {id : UInt64} (hl : r.live? id = none) (i : Instance Obj) (o : Owner) :
    r.Borrows [id] (r.register id i o) := by
  refine ⟨fun x hx => ?_, fun x hx => ?_, fun x hx => ?_⟩
  · rw [List.mem_singleton.mp hx]
    exact hl
  · rw [live?_register, if_pos (List.mem_singleton.mp hx)]
    exact Option.some_ne_none _
  · rw [live?_register, if_neg fun h => hx (List.mem_singleton.mpr h)]

lemma releaseAll (h : before.Borrows ids r) {gone : List UInt64} (hd : gone.Disjoint ids) :
    (Marshal.releaseAll before gone).Borrows ids (Marshal.releaseAll r gone) := by
  refine ⟨fun id hid => ?_, fun id hid => ?_, fun id hid => ?_⟩
  · rw [Marshal.live?_releaseAll, if_neg fun hg => hd hg hid]
    exact h.free id hid
  · rw [Marshal.live?_releaseAll, if_neg fun hg => hd hg hid]
    exact h.held id hid
  · rw [Marshal.live?_releaseAll, Marshal.live?_releaseAll, h.kept id hid]

lemma of_live {r : Registry Obj} (h : ∀ id ∈ ids, r.live? id ≠ none) :
    (Marshal.releaseAll r ids).Borrows ids r := by
  refine ⟨fun id hid => ?_, h, fun id hid => ?_⟩
  · rw [Marshal.live?_releaseAll, if_pos hid]
  · rw [Marshal.live?_releaseAll, if_neg hid]

lemma repaid (h : before.Borrows ids r) : before.Borrows [] (Marshal.releaseAll r ids) := by
  refine of_same fun id => ?_
  rw [Marshal.live?_releaseAll]
  split
  · exact (h.free id ‹_›).symm
  · exact h.kept id ‹_›

end Borrows

end Registry

namespace Query

def Unlent (before : Registry Obj) (xs : List Exchange) : Prop :=
  ∀ id, .drew id ∈ xs → before.live? id = none

lemma Unlent.releaseAll {before : Registry Obj} {xs : List Exchange} (h : Unlent before xs)
    (ids : List UInt64) : Unlent (Marshal.releaseAll before ids) xs := by
  intro id hid
  rw [Marshal.live?_releaseAll]
  split
  · rfl
  · exact h id hid

def Borrowing (before : Registry Obj) (r r' : Run (Recorded E) Q Obj) : Prop :=
  ∃ xs, r'.record = r.record ++ xs ∧ (Unlent before xs → before.Borrows r.allocated r.registry →
    before.Borrows r'.allocated r'.registry)

variable {before : Registry Obj} {r r' r'' : Run (Recorded E) Q Obj}

namespace Borrowing

lemma of_eq {xs : List Exchange} (hr : r'.record = r.record ++ xs)
    (ha : r'.allocated = r.allocated) (hg : r'.registry = r.registry) : Borrowing before r r' :=
  ⟨xs, hr, fun _ h => by rwa [ha, hg]⟩

lemma refl (r : Run (Recorded E) Q Obj) : Borrowing before r r :=
  of_eq (List.append_nil _).symm rfl rfl

lemma trans (h : Borrowing before r r') (h' : Borrowing before r' r'') : Borrowing before r r'' := by
  obtain ⟨xs, hx, hb⟩ := h
  obtain ⟨ys, hy, hb'⟩ := h'
  refine ⟨xs ++ ys, by rw [hy, hx, List.append_assoc], fun hu hr => hb' ?_ (hb ?_ hr)⟩
  · exact fun id hid => hu id (List.mem_append_right _ hid)
  · exact fun id hid => hu id (List.mem_append_left _ hid)

end Borrowing

variable [Engine E Q]

lemma dispatch_borrows (event : Event) (r : Run (Recorded E) Q Obj) :
    Borrowing before r (withWork r (Dispatching.dispatch event (work r)).2) := by
  by_cases he : ∃ id t, event = .makeExternal id t
  · obtain ⟨id, t, rfl⟩ := he
    rcases Dispatching.makeExternal_cases id t (work r) with ⟨e, h⟩ | ⟨r', h, hl, hg⟩
    · have hd : Dispatching.dispatch (.makeExternal id t) (work r) = (.error e, work r) :=
        Failing.bind_error h
      rw [hd]
      exact .refl r
    -- The engine chose this id: it was free when the object was built, so it was free before.
    · have hd : Dispatching.dispatch (.makeExternal id t) (work r) = (.ok none, _) :=
        Failing.bind_ok h
      rw [hd]
      refine ⟨[], (List.append_nil _).symm, fun _ hb => hb.gains hg fun x hx => ?_⟩
      rw [List.mem_singleton.mp hx]
      exact hb.free_of hl
  · have he' (id : UInt64) (t : Term) : event ≠ .makeExternal id t := fun h => he ⟨id, t, h⟩
    obtain ⟨ids, hd⟩ := Dispatching.dispatch_marshals he' (work r)
    refine ⟨ids.map .drew, hd.record, fun hu hb => ?_⟩
    have ha : (withWork r (Dispatching.dispatch event (work r)).2).allocated = r.allocated ++ ids :=
      hd.allocated
    rw [ha]
    exact hb.gains hd.registry fun id hid => hu id (List.mem_map_of_mem hid)

lemma answer_borrows (event : Event) (r : Run (Recorded E) Q Obj) :
    Borrowing before r (answer event r).2 := by
  refine (dispatch_borrows event r).trans ?_
  rcases hd : Dispatching.dispatch event (work r) with ⟨e | _ | a, w⟩
  · obtain ⟨hr, hq⟩ := answer_of_error_replies hd
    refine .of_eq hr (by rw [Run.allocated, hq]; rfl) ?_
    rw [answer_of_error hd, tallied]
    split <;> rfl
  · rw [answer_of_nothing hd]
    exact .refl _
  · obtain ⟨hr, hq⟩ := answer_of_answer_replies hd
    refine .of_eq hr (by rw [Run.allocated, hq]; rfl) ?_
    rw [answer_of_answer hd]
    rfl

lemma release_borrows (o : QueryOutcome) (r : Run (Recorded E) Q Obj) :
    Borrowing before r (release o r).2 := by
  cases h : r.query.released with
  | true =>
    rw [release_of_released h]
    exact .refl r
  | false =>
    have hx := release_ends h o
    refine ⟨[.freed], hx.record, fun _ hb => ?_⟩
    rw [release_of_held h]
    exact hb.repaid

lemma fail_borrows (e : Error) (r : Run (Recorded E) Q Obj) : Borrowing before r (fail e r).2 :=
  release_borrows .errored { r with query := { r.query with state := .errored } }

lemma recoverOrFail_borrows (e : Error) (r : Run (Recorded E) Q Obj) :
    Borrowing before r (recoverOrFail e r).2 := by
  cases he : e.isQueryFatal with
  | true =>
    rw [recoverOrFail_of_fatal he]
    exact fail_borrows e r
  | false =>
    rw [recoverOrFail_of_not_fatal he]
    exact .of_eq (List.append_nil _).symm rfl rfl

lemma poll_borrows (r : Run (Recorded E) Q Obj) : Borrowing before r (poll r).2 := by
  have hr : (polled r).record = r.record ++ [.polled
      ((Engine.nextEvent r.query.handle : EngineCall E Event) r.shared.host.source.inner).1] := rfl
  have hp : Borrowing before r (polled r) := .of_eq hr rfl rfl
  generalize ha : ((Engine.nextEvent r.query.handle : EngineCall (Recorded E) Event)
    r.shared.host.source).1 = a
  have hx := poll_cases ha
  refine hp.trans ?_
  generalize (poll r).1 = p, (poll r).2 = r' at hx
  cases hx with
  | fault f => exact fail_borrows _ _
  | done b =>
    exact release_borrows .completed
      { polled r with query := { (polled r).query with state := .done } }
  | solution hb => exact .of_eq (List.append_nil _).symm rfl rfl
  | unreadable hb => exact recoverOrFail_borrows _ _
  | @answered event r' he hr =>
    have ha : Borrowing before (awaiting (polled r)) (answer event (awaiting (polled r))).2 :=
      answer_borrows event (awaiting (polled r))
    rw [hr] at ha
    exact ha
  | @failed event e r' he hr =>
    have ha : Borrowing before (awaiting (polled r)) (answer event (awaiting (polled r))).2 :=
      answer_borrows event (awaiting (polled r))
    rw [hr] at ha
    exact Borrowing.trans ha (recoverOrFail_borrows _ _)

lemma pollUpTo_borrows (polls : Nat) (r : Run (Recorded E) Q Obj) :
    Borrowing before r (pollUpTo polls r).2 := by
  induction polls generalizing r with
  | zero => exact .refl r
  | succ n ih =>
    rw [pollUpTo_succ]
    cases (poll r).1 with
    | some p => exact poll_borrows r
    | none => exact (poll_borrows r).trans (ih (poll r).2)

lemma next_borrows (polls : Nat) (r : Run (Recorded E) Q Obj) :
    Borrowing before r (next polls r).2 := by
  cases hs : r.query.state.isTerminal with
  | true =>
    rw [next_of_terminal hs]
    exact .refl r
  | false =>
    rw [next_of_active hs]
    exact pollUpTo_borrows polls r

lemma close_borrows (r : Run (Recorded E) Q Obj) : Borrowing before r (close r).2 := by
  cases hs : r.query.state.isTerminal with
  | true =>
    rw [close_of_terminal hs]
    exact release_borrows _ r
  | false =>
    rw [close_of_active hs]
    exact release_borrows .abandoned { r with query := { r.query with state := .done } }

end Query

end PolicyBridge
