import Mathlib.Tactic
import PolicyBridge.Proofs.Dictionary
import PolicyBridge.Proofs.Dispatch.Hosting
import PolicyBridge.Proofs.Marshal.Plain

namespace PolicyBridge

variable {S Obj : Type}

def Cursor.next (c : Cursor Obj) : Option (Cursor Obj) :=
  (c.steps c.position).map fun _ => ⟨c.steps, c.position + 1⟩

lemma Cursor.next_of_none {c : Cursor Obj} (h : c.steps c.position = none) : c.next = none := by
  rw [next, h]
  rfl

lemma Cursor.next_of_some {c : Cursor Obj} (h : c.steps c.position ≠ none) :
    c.next = some ⟨c.steps, c.position + 1⟩ := by
  obtain ⟨o, ho⟩ := Option.ne_none_iff_exists'.mp h
  rw [next, ho]
  rfl

namespace Dispatching

def opening (r : Registry Obj) (t : Term) : Except Error (Steps Obj) :=
  (Marshal.fromTerm r t).bind (stepsOf r)

/-- The iterator that a request is for: the one that is open, or else a new one. -/
def reached (r : Registry Obj) (t : Term) : Option (Cursor Obj) → Except Error (Cursor Obj)
  | some c => .ok c
  | none => (opening r t).map (⟨·, 0⟩)

def left : Except Error (Cursor Obj) → Option (Cursor Obj)
  | .ok c => c.next
  | .error _ => none

variable [IdSource S]

/-- What is told of an element, or of the end. -/
def told (callId : UInt64) (f : Steps Obj) (k : Nat) (w : Work S Obj) :
    Except Error (Option Answer) :=
  match f k with
  | none => .ok (some ⟨callId, none⟩)
  | some o => ((o.guarded "iterator" "next").bind fun v => (Marshal.toTerm v w.desk).1).map
      fun t => some ⟨callId, some t⟩

lemma told_of_end {f : Steps Obj} {k : Nat} (h : f k = none) (callId : UInt64) (w : Work S Obj) :
    told callId f k w = .ok (some ⟨callId, none⟩) := by
  rw [told, h]

lemma told_of_list {r : Registry Obj} {es : List Term} (hi : Term.idsOfAll es = []) {f : Steps Obj}
    (ho : opening r (.list es none) = .ok f) (callId : UInt64) (k : Nat) (w : Work S Obj) :
    told callId f k w = match es[k]? with
      | none => .ok (some ⟨callId, none⟩)
      | some t => (Marshal.checked t.floats t).map fun t => some ⟨callId, some t⟩ := by
  rw [opening, Marshal.fromTerm] at ho
  cases hs : Marshal.fromTerms r es with
  | error e =>
    rw [hs] at ho
    cases ho
  | ok vs =>
    rw [hs] at ho
    obtain rfl : (fun n => (vs[n]?).map .value) = f := Except.ok.inj ho
    have hk := Marshal.getElem?_fromTerms hs k
    rw [told]
    cases ht : es[k]? with
    | none =>
      rw [ht, Option.map_none, eq_comm, Option.map_eq_none_iff] at hk
      rw [hk]
      rfl
    | some t =>
      rw [ht, Option.map_some, eq_comm, Option.map_eq_some_iff] at hk
      obtain ⟨v, hv, ht'⟩ := hk
      rw [hv]
      have hg := Marshal.toTerm_gives t (Marshal.ids_of_getElem? hi ht) v ht'.symm w.desk
      exact congrArg (fun x => x.1.map fun t => some (⟨callId, some t⟩ : Answer)) hg

section Requests

variable {callId : UInt64} {t : Term} {w : Work S Obj} {c : Cursor Obj}

lemma dispatch_of_exhausted (hc : (cursor callId t w).1 = .ok c) (ho : c.steps c.position = none) :
    dispatch (.nextExternal callId t) w = (.ok (some ⟨callId, none⟩),
      ⟨w.host, { w.own with iterators := w.own.iterators.erase callId }⟩) := by
  refine (Failing.bind_ok (a := none) ?_).trans rfl
  refine (Failing.bind_ok (cursor_of callId t w hc)).trans ((Failing.bind_ok rfl).trans ?_)
  rw [ho]
  exact Failing.bind_ok rfl

lemma dispatch_of_step {o : Outcome (HostValue Obj)} {v : HostValue Obj}
    (hc : (cursor callId t w).1 = .ok c) (ho : c.steps c.position = some o)
    (hv : o.guarded "iterator" "next" = .ok v) :
    dispatch (.nextExternal callId t) w =
      ((Marshal.toTerm v w.desk).1.map fun t => some ⟨callId, some t⟩,
        Work.withDesk ⟨w.host, advanced callId c w.own⟩ (Marshal.toTerm v w.desk).2) := by
  let w' : Work S Obj := ⟨w.host, advanced callId c w.own⟩
  have hm : (marshal (Marshal.toTerm v) : Dispatching S Obj Term) w' =
      ((Marshal.toTerm v w.desk).1, w'.withDesk (Marshal.toTerm v w.desk).2) := rfl
  have hn : nextExternal callId t w =
      ((Marshal.toTerm v w.desk).1.map some, w'.withDesk (Marshal.toTerm v w.desk).2) := by
    refine (Failing.bind_ok (cursor_of callId t w hc)).trans ((Failing.bind_ok rfl).trans ?_)
    rw [ho]
    exact (Failing.bind_ok rfl).trans
      ((Failing.bind_ok (lift_ok hv w')).trans (Failing.map_eq hm some))
  refine (Failing.map_eq hn _).trans ?_
  cases (Marshal.toTerm v w.desk).1 <;> rfl

structure Sets (callId : UInt64) (c : Option (Cursor Obj)) (its its' : Dict UInt64 (Cursor Obj)) :
    Prop where
  find? : ∀ id, its'.find? id = if id = callId then c else its.find? id
  ordered : its.Ordered → its'.Ordered

lemma Sets.erase (its : Dict UInt64 (Cursor Obj)) : Sets callId none its (its.erase callId) :=
  ⟨Dict.find?_erase callId its, fun h => h.erase callId⟩

lemma Sets.insert (its : Dict UInt64 (Cursor Obj)) : Sets callId (some c) its (its.insert callId c) :=
  ⟨Dict.find?_insert callId c its, fun h => h.insert callId c⟩

lemma Sets.nothing {its : Dict UInt64 (Cursor Obj)} (h : its.find? callId = none) :
    Sets callId none its its := by
  refine ⟨fun id => ?_, fun h => h⟩
  by_cases hid : id = callId
  · rw [if_pos hid, hid, h]
  · rw [if_neg hid]

lemma dispatch_of_reached (hc : (cursor callId t w).1 = .ok c) :
    (dispatch (.nextExternal callId t) w).1 = told callId c.steps c.position w ∧
      Sets callId c.next w.own.iterators (dispatch (.nextExternal callId t) w).2.own.iterators := by
  cases ho : c.steps c.position with
  | none =>
    rw [dispatch_of_exhausted hc ho, told_of_end ho, Cursor.next_of_none ho]
    exact ⟨rfl, .erase _⟩
  | some o =>
    rw [Cursor.next_of_some (by rw [ho]; nofun), told, ho]
    dsimp only
    cases hv : o.guarded "iterator" "next" with
    | error e =>
      rw [dispatch_of_missed_step hc ho hv]
      exact ⟨rfl, .insert _⟩
    | ok v =>
      rw [dispatch_of_step hc ho hv]
      exact ⟨rfl, .insert _⟩

lemma dispatch_next {x : Except Error (Cursor Obj)}
    (hx : reached w.registry t (w.own.iterators.find? callId) = x) :
    (dispatch (.nextExternal callId t) w).1 = (x.bind fun c => told callId c.steps c.position w) ∧
      Sets callId (left x) w.own.iterators (dispatch (.nextExternal callId t) w).2.own.iterators := by
  have hc : cursor callId t w = (x, w) := by
    rw [cursor_eq, ← hx]
    cases w.own.iterators.find? callId <;> rfl
  cases x with
  | error e =>
    rw [dispatch_of_uniterable hc]
    refine ⟨rfl, .nothing ?_⟩
    cases hf : w.own.iterators.find? callId with
    | none => rfl
    | some c =>
      rw [hf] at hx
      cases hx
  | ok c => exact dispatch_of_reached (by rw [hc])

lemma steady_iterators :
    Tolerates fun w w' : Work S Obj => w'.own.iterators = w.own.iterators :=
  ⟨fun _ => rfl, fun h h' => h'.trans h, fun _ _ => rfl, fun _ _ => rfl⟩

lemma dispatch_iterators {e : Event} (he : ∀ callId t, e ≠ .nextExternal callId t) (w : Work S Obj) :
    (dispatch e w).2.own.iterators = w.own.iterators := by
  by_cases hm : ∃ id t, e = .makeExternal id t
  · obtain ⟨id, t, rfl⟩ := hm
    rcases makeExternal_cases id t w with ⟨x, h⟩ | ⟨r, h, -, -⟩
    · have hd : dispatch (.makeExternal id t) w = (.error x, w) := Failing.bind_error h
      rw [hd]
    · have hd : dispatch (.makeExternal id t) w = (.ok none, _) := Failing.bind_ok h
      rw [hd]
      rfl
  · exact steady_iterators.dispatch (fun id t h => hm ⟨id, t, h⟩) he w

end Requests

end Dispatching

end PolicyBridge
