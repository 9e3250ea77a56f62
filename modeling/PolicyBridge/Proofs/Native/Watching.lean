import Mathlib.Tactic
import PolicyBridge.Native.Engine

/-! A C library that keeps a trace of the pointers that pass: the engines, queries and strings that
it gives out, those that it is handed again, and those that it gets back. -/

namespace PolicyBridge

inductive Passage where
  | opened (e : Pointer)
  | consulted (e : Pointer)
  | closed (e : Pointer)
  | began (e q : Pointer)
  | used (q : Pointer)
  | ended (q : Pointer)
  | lent (s : Pointer)
  | read (s : Pointer)
  | returned (s : Pointer)
deriving DecidableEq

structure Watched (L : Type) where
  inner : L
  passed : List Passage

namespace Watched

variable {L α : Type}

def noting (f : α → List Passage) (m : StateM L α) : StateM (Watched L) α := fun w =>
  ((m w.inner).1, ⟨(m w.inner).2, w.passed ++ f (m w.inner).1⟩)

def given (f : Pointer → Passage) (p : Option Pointer) : List Passage := (p.map f).toList

instance [Library L] : Library (Watched L) where
  newEngine := noting (given .opened) Library.newEngine
  freeEngine e := noting (fun _ => [.closed e]) (Library.freeEngine e)
  load e sources := noting (fun _ => [.consulted e]) (Library.load e sources)
  clearRules e := noting (fun _ => [.consulted e]) (Library.clearRules e)
  registerConstant e name value :=
    noting (fun _ => [.consulted e]) (Library.registerConstant e name value)
  externalId e := noting (fun _ => [.consulted e]) (Library.externalId e)
  newQueryFromTerm e query :=
    noting (fun q => .consulted e :: given (.began e) q) (Library.newQueryFromTerm e query)
  newQuery e query := noting (fun q => .consulted e :: given (.began e) q) (Library.newQuery e query)
  bind q name value := noting (fun _ => [.used q]) (Library.bind q name value)
  nextQueryEvent q := noting (fun s => .used q :: given .lent s) (Library.nextQueryEvent q)
  callResult q callId value := noting (fun _ => [.used q]) (Library.callResult q callId value)
  applicationError q message := noting (fun _ => [.used q]) (Library.applicationError q message)
  freeQuery q := noting (fun _ => [.ended q]) (Library.freeQuery q)
  getError := noting (given .lent) Library.getError
  readString s := noting (fun _ => [.read s]) (Library.readString s)
  freeString s := noting (fun _ => [.returned s]) (Library.freeString s)

end Watched

inductive Stage where
  | out
  | used
  | back
deriving DecidableEq

namespace Stage

def step : Nat → Stage → Option Nat
  | n, out => some (n + 1)
  | n + 1, used => some (n + 1)
  | n + 1, back => some n
  | 0, _ => none

lemma eq_of_out_once {xs : List Stage} (h : xs.foldlM step 1 = some 0) (hn : xs.count out = 0) :
    ∃ n, xs = List.replicate n used ++ [back] := by
  induction xs with
  | nil => cases h
  | cons x xs ih =>
    cases x with
    | out => simp at hn
    | used =>
      obtain ⟨n, rfl⟩ := ih h (by simpa using hn)
      exact ⟨n + 1, rfl⟩
    | back =>
      refine ⟨0, ?_⟩
      cases xs with
      | nil => rfl
      | cons y ys =>
        cases y with
        | out => simp at hn
        | used | back => cases h

end Stage

namespace Passage

def ofQuery (q : Pointer) : Passage → Option Stage
  | began _ p => if p = q then some .out else none
  | used p => if p = q then some .used else none
  | ended p => if p = q then some .back else none
  | _ => none

/-- How often a query is out after all this, if it was used and freed only while it was. -/
def outAfter (q : Pointer) (xs : List Passage) : Option Nat :=
  (xs.filterMap (ofQuery q)).foldlM Stage.step 0

def isString : Passage → Bool
  | lent _ | read _ | returned _ => true
  | _ => false

def visit (s : Pointer) : List Passage := [lent s, read s, returned s]

def Within (e : Pointer) : Passage → Prop
  | opened _ | closed _ => False
  | consulted p | began p _ => p = e
  | _ => True

end Passage

open Passage

/-- All that was given out has been given back: strings as soon as they were read; each query as
often as it was given out, and used only before; and, if an engine was made, that engine last. -/
structure Balanced (xs : List Passage) : Prop where
  strings : ∃ ss : List Pointer, xs.filter isString = ss.flatMap visit
  queries : ∀ q, outAfter q xs = some 0
  engine : (∀ x ∈ xs, x.isString) ∨
    ∃ e ys, xs = opened e :: (ys ++ [closed e]) ∧ ∀ x ∈ ys, x.Within e

/-- A query whose pointer is given out once is freed once, and not used from then on. -/
theorem Balanced.freed_once {xs : List Passage} (h : Balanced xs) {q : Pointer}
    (hq : (xs.filterMap (ofQuery q)).count .out = 1) :
    ∃ n, xs.filterMap (ofQuery q) = .out :: (List.replicate n .used ++ [.back]) := by
  have hs := h.queries q
  unfold outAfter at hs
  generalize xs.filterMap (ofQuery q) = ys at hs hq
  cases ys with
  | nil => cases hq
  | cons y ys =>
    cases y with
    | out =>
      obtain ⟨n, rfl⟩ := Stage.eq_of_out_once hs (by simpa using hq)
      exact ⟨n, rfl⟩
    | used | back => cases hs

inductive Passes (e : Pointer) (out : Multiset Pointer) : List Passage → Multiset Pointer → Prop
  | nothing : Passes e out [] out
  | consulted {xs : List Passage} {now : Multiset Pointer} :
      Passes e out xs now → Passes e out (xs ++ [.consulted e]) now
  | began {xs : List Passage} {now : Multiset Pointer} (q : Pointer) :
      Passes e out xs now → Passes e out (xs ++ [.began e q]) (q ::ₘ now)
  | used {xs : List Passage} {now : Multiset Pointer} {q : Pointer} :
      q ∈ now → Passes e out xs now → Passes e out (xs ++ [.used q]) now
  | ended {xs : List Passage} {now : Multiset Pointer} {q : Pointer} :
      Passes e out xs (q ::ₘ now) → Passes e out (xs ++ [.ended q]) now
  | visited {xs : List Passage} {now : Multiset Pointer} (s : Pointer) :
      Passes e out xs now → Passes e out (xs ++ visit s) now

namespace Passes

variable {e : Pointer} {out now : Multiset Pointer} {xs : List Passage}

lemma within (h : Passes e out xs now) : ∀ x ∈ xs, x.Within e := by
  induction h with
  | nothing => exact List.forall_mem_nil _
  | visited s _ ih =>
    refine List.forall_mem_append.mpr ⟨ih, ?_⟩
    simp [visit, Within]
  | _ => exact List.forall_mem_append.mpr ⟨‹_›, List.forall_mem_singleton.mpr (by simp [Within])⟩

lemma strings (h : Passes e out xs now) :
    ∃ ss : List Pointer, xs.filter isString = ss.flatMap visit := by
  induction h with
  | nothing => exact ⟨[], rfl⟩
  | visited s _ ih =>
    obtain ⟨ss, hs⟩ := ih
    exact ⟨ss ++ [s], by rw [List.filter_append, hs, List.flatMap_append]; rfl⟩
  | consulted _ ih | began _ _ ih | used _ _ ih | ended _ ih =>
    obtain ⟨ss, hs⟩ := ih
    exact ⟨ss, by rw [List.filter_append, hs]; exact List.append_nil _⟩

lemma stages (h : Passes e out xs now) (q : Pointer) :
    (xs.filterMap (ofQuery q)).foldlM Stage.step (out.count q) = some (now.count q) := by
  induction h with
  | nothing => rfl
  | consulted _ ih | visited _ _ ih =>
    rw [List.filterMap_append, List.foldlM_append, ih]
    rfl
  | @used xs now p hn h ih =>
    -- `Stage.step` has no value for the use of a pointer that is not out
    rw [List.filterMap_append, List.foldlM_append, ih]
    by_cases hp : p = q
    · subst hp
      obtain ⟨n, hc⟩ := Nat.exists_eq_add_one.mpr (Multiset.count_pos.mpr hn)
      simp [ofQuery, hc, Stage.step]
    · simp [ofQuery, hp]
  | @began xs now p h ih | @ended xs now p h ih =>
    rw [List.filterMap_append, List.foldlM_append, ih]
    by_cases hp : p = q
    · simp [ofQuery, hp, Stage.step]
    · simp [ofQuery, hp, Multiset.count_cons_of_ne (Ne.symm hp)]

end Passes

end PolicyBridge
