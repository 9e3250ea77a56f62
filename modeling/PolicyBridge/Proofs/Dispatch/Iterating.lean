import Mathlib.Tactic
import PolicyBridge.Proofs.Dispatch.Walking

namespace PolicyBridge

variable {S Obj : Type}

inductive HostTurn (S Obj : Type) where
  | dispatch (e : Event)
  | meanwhile (host : Host S Obj) (allocated : List UInt64)

structure Visit (S Obj : Type) where
  work : Work S Obj
  iterable : Term
  reply : Except Error (Option Answer)

namespace Work

variable [IdSource S]

def turn (w : Work S Obj) : HostTurn S Obj → Work S Obj
  | .dispatch e => (Dispatching.dispatch e w).2
  | .meanwhile host allocated => ⟨host, { w.own with allocated }⟩

def turns (w : Work S Obj) (ts : List (HostTurn S Obj)) : Work S Obj := ts.foldl turn w

def visit? (callId : UInt64) (w : Work S Obj) : HostTurn S Obj → Option (Visit S Obj)
  | .dispatch (.nextExternal id t) =>
    if id = callId then some ⟨w, t, (Dispatching.dispatch (.nextExternal id t) w).1⟩ else none
  | _ => none

def visits (callId : UInt64) (w : Work S Obj) : List (HostTurn S Obj) → List (Visit S Obj)
  | [] => []
  | t :: ts => (w.visit? callId t).toList ++ visits callId (w.turn t) ts

lemma turns_concat (w : Work S Obj) (ts : List (HostTurn S Obj)) (t : HostTurn S Obj) :
    w.turns (ts ++ [t]) = (w.turns ts).turn t :=
  List.foldl_concat _ _ _ _

lemma visits_concat (callId : UInt64) (w : Work S Obj) (ts : List (HostTurn S Obj))
    (t : HostTurn S Obj) :
    w.visits callId (ts ++ [t]) = w.visits callId ts ++ ((w.turns ts).visit? callId t).toList := by
  induction ts generalizing w with
  | nil => exact List.append_nil _
  | cons u ts ih =>
    rw [List.cons_append, visits, ih, visits, List.append_assoc]
    rfl

end Work

namespace Dispatching

variable [IdSource S]

structure Walks (callId : UInt64) (f : Steps Obj) (vs : List (Visit S Obj)) : Prop where
  opened : ∀ v, vs[0]? = some v → opening v.work.registry v.iterable = .ok f
  tells : ∀ k v, vs[k]? = some v → v.reply = told callId f k v.work

/-- Walks that came to their end, and openings that were refused. -/
inductive Completed (callId : UInt64) : List (Visit S Obj) → Prop
  | nil : Completed callId []
  | refused {vs : List (Visit S Obj)} {v : Visit S Obj} {e : Error} : Completed callId vs →
      opening v.work.registry v.iterable = .error e → v.reply = .error e →
        Completed callId (vs ++ [v])
  | walked {vs ws : List (Visit S Obj)} {v : Visit S Obj} {f : Steps Obj} : Completed callId vs →
      Walks callId f (ws ++ [v]) → (∀ k < ws.length, f k ≠ none) → f ws.length = none →
        Completed callId (vs ++ (ws ++ [v]))

def Underway (callId : UInt64) (vs : List (Visit S Obj)) (f : Steps Obj) (n : Nat) : Prop :=
  ∃ us ws, vs = us ++ ws ∧ Completed callId us ∧ Walks callId f ws ∧ ws.length = n ∧
    ∀ k < n, f k ≠ none

/-- The call was opened and is not exhausted. -/
def Open (callId : UInt64) (vs : List (Visit S Obj)) : Prop :=
  ∃ f n, 0 < n ∧ Underway callId vs f n

section Pending

def follow (c : Option (Cursor Obj)) (v : Visit S Obj) : Option (Cursor Obj) :=
  left (reached v.work.registry v.iterable c)

def pending (vs : List (Visit S Obj)) : Option (Cursor Obj) := vs.foldl follow none

inductive Faithful (callId : UInt64) : List (Visit S Obj) → Prop
  | nil : Faithful callId []
  | concat {vs : List (Visit S Obj)} {v : Visit S Obj} : Faithful callId vs →
      (v.reply = (reached v.work.registry v.iterable (pending vs)).bind
        fun c => told callId c.steps c.position v.work) → Faithful callId (vs ++ [v])

variable {callId : UInt64} {f : Steps Obj} {n : Nat} {us vs ws : List (Visit S Obj)}
  {v : Visit S Obj}

omit [IdSource S] in
lemma pending_concat (vs : List (Visit S Obj)) (v : Visit S Obj) :
    pending (vs ++ [v]) = follow (pending vs) v :=
  List.foldl_concat _ _ _ _

omit [IdSource S] in
lemma pending_append (h : pending us = none) (ws : List (Visit S Obj)) :
    pending (us ++ ws) = pending ws := by
  rw [pending, List.foldl_append]
  exact congrArg (ws.foldl follow) h

lemma Walks.init (h : Walks callId f (ws ++ [v])) : Walks callId f ws := by
  have hk {k : Nat} {u : Visit S Obj} (hu : ws[k]? = some u) : (ws ++ [v])[k]? = some u :=
    (List.getElem?_append_left (List.getElem?_eq_some_iff.mp hu).1).trans hu
  exact ⟨fun u hu => h.opened u (hk hu), fun k u hu => h.tells k u (hk hu)⟩

lemma Walks.concat (h : Walks callId f ws)
    (ho : ws = [] → opening v.work.registry v.iterable = .ok f)
    (hr : v.reply = told callId f ws.length v.work) : Walks callId f (ws ++ [v]) := by
  have hk {k : Nat} {u : Visit S Obj} (hu : (ws ++ [v])[k]? = some u) :
      ws[k]? = some u ∨ k = ws.length ∧ v = u := by
    rcases Nat.lt_or_ge k ws.length with hk | hk
    · rw [List.getElem?_append_left hk] at hu
      exact .inl hu
    · rw [List.getElem?_append_right hk, List.getElem?_singleton] at hu
      split at hu
      · exact .inr ⟨by omega, Option.some.inj hu⟩
      · cases hu
  refine ⟨fun u hu => ?_, fun k u hu => ?_⟩
  · rcases hk hu with hu | ⟨hn, rfl⟩
    · exact h.opened u hu
    · exact ho (List.length_eq_zero_iff.mp hn.symm)
  · rcases hk hu with hu | ⟨rfl, rfl⟩
    · exact h.tells k u hu
    · exact hr

lemma Walks.reaches (h : Walks callId f (ws ++ [v])) (hf : ∀ k < ws.length, f k ≠ none) :
    reached v.work.registry v.iterable (pending ws) = .ok ⟨f, ws.length⟩ := by
  induction ws using List.reverseRecOn generalizing v with
  | nil =>
    have ho := h.opened v rfl
    rw [pending, List.foldl_nil, reached, ho]
    rfl
  | append_singleton ws u ih =>
    have hu := ih h.init fun k hk => hf k (by simp; omega)
    have hn : f ws.length ≠ none := hf _ (by simp)
    rw [pending_concat, follow, hu, left, Cursor.next_of_some hn, reached]
    simp

lemma Walks.pending (h : Walks callId f (ws ++ [v])) (hf : ∀ k < ws.length, f k ≠ none) :
    pending (ws ++ [v]) = (⟨f, ws.length⟩ : Cursor Obj).next := by
  rw [pending_concat, follow, h.reaches hf]
  rfl

lemma Completed.pending (h : Completed callId vs) : pending vs = none := by
  induction h with
  | nil => rfl
  | refused _ ho _ ih =>
    rw [pending_concat, ih, follow, reached, ho]
    rfl
  | walked _ hw hf hn ih =>
    rw [pending_append ih, hw.pending hf, Cursor.next_of_none hn]

lemma Underway.pending (h : Underway callId vs f n) (hn : 0 < n) :
    pending vs = some ⟨f, n⟩ := by
  obtain ⟨us, ws, rfl, hu, hw, rfl, hf⟩ := h
  rcases List.eq_nil_or_concat' ws with rfl | ⟨ws, v, rfl⟩
  · cases hn
  · have hl : (ws ++ [v]).length = ws.length + 1 := by simp
    rw [hl] at hf ⊢
    have hs : f ws.length ≠ none := hf _ (Nat.lt_succ_self _)
    rw [pending_append hu.pending, hw.pending fun k hk => hf k (Nat.lt_succ_of_lt hk)]
    exact Cursor.next_of_some hs

lemma Underway.step (h : Underway callId vs f n)
    (ho : n = 0 → opening v.work.registry v.iterable = .ok f)
    (hr : v.reply = told callId f n v.work) :
    (f n = none → Completed callId (vs ++ [v])) ∧
      (f n ≠ none → Underway callId (vs ++ [v]) f (n + 1)) := by
  obtain ⟨us, ws, rfl, hu, hw, rfl, hf⟩ := h
  have hw' := hw.concat (fun he => ho (List.length_eq_zero_iff.mpr he)) hr
  rw [List.append_assoc]
  refine ⟨fun hn => hu.walked hw' hf hn, fun hn => ⟨us, ws ++ [v], rfl, hu, hw', by simp, ?_⟩⟩
  intro k hk
  rcases Nat.lt_succ_iff_lt_or_eq.mp hk with hk | rfl
  · exact hf k hk
  · exact hn

lemma Faithful.completed_or (h : Faithful callId vs) : pending vs = none ∧ Completed callId vs ∨
    ∃ f n, pending vs = some ⟨f, n⟩ ∧ 0 < n ∧ Underway callId vs f n := by
  induction h with
  | nil => exact .inl ⟨rfl, .nil⟩
  | @concat vs v _ hr ih =>
    -- a walk that is underway ends with this request or goes on
    have step {f : Steps Obj} {n : Nat} (hu : Underway callId vs f n)
        (ho : n = 0 → opening v.work.registry v.iterable = .ok f)
        (hc : reached v.work.registry v.iterable (Dispatching.pending vs) = .ok ⟨f, n⟩) :
        Dispatching.pending (vs ++ [v]) = none ∧ Completed callId (vs ++ [v]) ∨
          ∃ f n, Dispatching.pending (vs ++ [v]) = some ⟨f, n⟩ ∧ 0 < n ∧
            Underway callId (vs ++ [v]) f n := by
      rw [hc] at hr
      obtain ⟨hend, hgo⟩ := hu.step ho hr
      rw [pending_concat, follow, hc]
      by_cases hn : f n = none
      · exact .inl ⟨Cursor.next_of_none hn, hend hn⟩
      · exact .inr ⟨f, n + 1, Cursor.next_of_some hn, Nat.succ_pos n, hgo hn⟩
    rcases ih with ⟨hp, hv⟩ | ⟨f, n, hp, hn, hu⟩
    · cases ho : opening v.work.registry v.iterable with
      | error e =>
        have hc : reached v.work.registry v.iterable (Dispatching.pending vs) = .error e := by
          rw [hp, reached, ho]
          rfl
        rw [hc] at hr
        refine .inl ⟨?_, hv.refused ho hr⟩
        rw [pending_concat, follow, hc]
        rfl
      | ok f =>
        have hu : Underway callId vs f 0 :=
          ⟨vs, [], (List.append_nil vs).symm, hv, ⟨nofun, nofun⟩, rfl, nofun⟩
        refine step hu (fun _ => ho) ?_
        rw [hp, reached, ho]
        rfl
    · exact step hu (fun h0 => absurd h0 (Nat.pos_iff_ne_zero.mp hn)) (by rw [hp, reached])

end Pending

section Runs

inductive Touches (callId : UInt64) (w w' : Work S Obj) : Option (Visit S Obj) → Prop
  | apart : w'.own.iterators.find? callId = w.own.iterators.find? callId → Touches callId w w' none
  | visit {v : Visit S Obj} :
      w'.own.iterators.find? callId = follow (w.own.iterators.find? callId) v →
        (v.reply = (reached v.work.registry v.iterable (w.own.iterators.find? callId)).bind
          fun c => told callId c.steps c.position v.work) → Touches callId w w' (some v)

lemma turn_touches (callId : UInt64) (w : Work S Obj) (t : HostTurn S Obj) :
    Touches callId w (w.turn t) (w.visit? callId t) := by
  cases t with
  | meanwhile host allocated => exact .apart rfl
  | dispatch e =>
    by_cases he : ∃ id t, e = .nextExternal id t
    · obtain ⟨id, t, rfl⟩ := he
      have hx : reached w.registry t (w.own.iterators.find? id) = _ := rfl
      obtain ⟨hr, hs⟩ := dispatch_next hx
      rw [Work.visit?]
      by_cases hid : id = callId
      · subst hid
        rw [if_pos rfl]
        exact .visit ((hs.find? id).trans (if_pos rfl)) hr
      · rw [if_neg hid]
        exact .apart ((hs.find? callId).trans (if_neg (Ne.symm hid)))
    · have hn (id : UInt64) (t : Term) : e ≠ .nextExternal id t := fun h => he ⟨id, t, h⟩
      have hv : w.visit? callId (.dispatch e) = none := by
        cases e with
        | nextExternal id t => exact absurd rfl (hn id t)
        | _ => rfl
      rw [hv]
      exact .apart (congrArg (Dict.find? · callId) (dispatch_iterators hn w))

lemma turn_ordered {w : Work S Obj} (h : w.own.iterators.Ordered) (t : HostTurn S Obj) :
    (w.turn t).own.iterators.Ordered := by
  cases t with
  | meanwhile host allocated => exact h
  | dispatch e =>
    by_cases he : ∃ id t, e = .nextExternal id t
    · obtain ⟨id, t, rfl⟩ := he
      exact (dispatch_next rfl).2.ordered h
    · have hn (id : UInt64) (t : Term) : e ≠ .nextExternal id t := fun h => he ⟨id, t, h⟩
      have hd : (w.turn (.dispatch e)).own.iterators = w.own.iterators := dispatch_iterators hn w
      rw [hd]
      exact h

variable {w : Work S Obj}

lemma turns_ordered (h : w.own.iterators.Ordered) (ts : List (HostTurn S Obj)) :
    (w.turns ts).own.iterators.Ordered := by
  induction ts generalizing w with
  | nil => exact h
  | cons t ts ih => exact ih (turn_ordered h t)

lemma turns_follow (hw : w.own.iterators = []) (callId : UInt64) (ts : List (HostTurn S Obj)) :
    (w.turns ts).own.iterators.find? callId = pending (w.visits callId ts) ∧
      Faithful callId (w.visits callId ts) := by
  induction ts using List.reverseRecOn with
  | nil =>
    refine ⟨?_, .nil⟩
    change w.own.iterators.find? callId = none
    rw [hw]
    rfl
  | append_singleton ts t ih =>
    obtain ⟨hp, hf⟩ := ih
    have ht := turn_touches callId (w.turns ts) t
    rw [Work.turns_concat, Work.visits_concat]
    cases hv : (w.turns ts).visit? callId t with
    | none =>
      rw [hv] at ht
      cases ht with
      | apart hi =>
        rw [hi, Option.toList_none, List.append_nil]
        exact ⟨hp, hf⟩
    | some v =>
      rw [hv] at ht
      cases ht with
      | visit hi hr =>
        rw [hp] at hi hr
        rw [hi, Option.toList_some, pending_concat]
        exact ⟨rfl, hf.concat hr⟩

/-- However requests for elements are mixed: those of one call open an iterator or are refused, then
are told its elements one by one and its end, and then open one anew, whatever they ask to iterate
over meanwhile. As many iterators are open as there are calls whose last walk is not at its end. The
elements of a list of plain data are told as they are, unless a float is not finite. -/
theorem walks_told_in_order (h : Host S Obj) (ts : List (HostTurn S Obj)) :
    let w : Work S Obj := ⟨h, .fresh⟩
    (∀ callId, Xor (Completed callId (w.visits callId ts)) (Open callId (w.visits callId ts))) ∧
    (∃ opened : Finset UInt64, (∀ callId, callId ∈ opened ↔ Open callId (w.visits callId ts)) ∧
      (w.turns ts).own.openIterators = opened.card) ∧
    ∀ (r : Registry Obj) es f, (Term.list es none).ids = [] → opening r (.list es none) = .ok f →
      ∀ callId k (w : Work S Obj), told callId f k w = match es[k]? with
        | none => .ok (some ⟨callId, none⟩)
        | some t => (Marshal.checked t.floats t).map fun t => some ⟨callId, some t⟩ := by
  intro w
  have hcases (callId : UInt64) := (turns_follow (w := w) rfl callId ts).2.completed_or
  have hopen (callId : UInt64) : Open callId (w.visits callId ts) ↔
      (w.turns ts).own.iterators.find? callId ≠ none := by
    rw [(turns_follow rfl callId ts).1]
    constructor
    · rintro ⟨f, n, hn, hu⟩
      rw [hu.pending hn]
      nofun
    · intro hp
      rcases hcases callId with ⟨hn, -⟩ | ⟨f, n, -, hn, hu⟩
      · exact absurd hn hp
      · exact ⟨f, n, hn, hu⟩
  refine ⟨fun callId => ?_, ⟨(w.turns ts).own.iterators.keys.toFinset, fun callId => ?_, ?_⟩,
    fun r es f hi ho callId k w => told_of_list hi ho callId k w⟩
  · rcases hcases callId with ⟨hp, hr⟩ | ⟨f, n, hp, hn, hu⟩
    · refine .inl ⟨hr, fun ho => (hopen callId).mp ho ?_⟩
      rw [(turns_follow rfl callId ts).1, hp]
    · refine .inr ⟨⟨f, n, hn, hu⟩, fun hr => ?_⟩
      rw [hr.pending] at hp
      cases hp
  · rw [List.mem_toFinset, Dict.mem_keys, hopen]
  · have hs : (w.turns ts).own.iterators.Ordered := turns_ordered Dict.ordered_nil ts
    rw [List.toFinset_card_of_nodup hs.nodup, Dict.keys, List.length_map]
    rfl

end Runs

section Samples

def pair : Term := .list [.integer 1, .string "a"] none

theorem walks_told_in_order_pair :
    let h : Host Counter Unit := ⟨⟨1⟩, .empty, none⟩
    pair.ids = [] ∧ ∃ f, opening h.registry pair = .ok f ∧
      ∀ w : Work Counter Unit, told 3 f 1 w = .ok (some ⟨3, some (.string "a")⟩) := by
  intro h
  refine ⟨rfl, _, rfl, fun w => ?_⟩
  have ht := (walks_told_in_order h []).2.2 h.registry [.integer 1, .string "a"] _ rfl rfl 3 1 w
  exact ht.trans rfl

end Samples

end Dispatching

end PolicyBridge
