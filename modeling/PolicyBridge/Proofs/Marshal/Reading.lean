import Mathlib.Tactic
import PolicyBridge.Proofs.Registry.Entries

namespace PolicyBridge

variable {Obj : Type}

namespace Term

mutual

def ids : Term → List UInt64
  | .external id c _ _ => id :: idsOfOptional c
  | .literal _ fs | .dictionary fs | .dictionaryPattern fs | .instancePattern _ fs => idsOfFields fs
  | .call _ as ks => idsOfAll as ++ idsOfKeywords ks
  | .list es _ => idsOfAll es
  | .integer _ | .float _ | .string _ | .boolean _ | .var _ => []

def idsOfOptional : Option Term → List UInt64
  | none => []
  | some t => ids t

def idsOfAll : List Term → List UInt64
  | [] => []
  | t :: ts => ids t ++ idsOfAll ts

def idsOfFields : List (String × Term) → List UInt64
  | [] => []
  | (_, t) :: fs => ids t ++ idsOfFields fs

def idsOfKeywords : Option (List (String × Term)) → List UInt64
  | none => []
  | some fs => idsOfFields fs

end

lemma mem_idsOfFields {fs : List (String × Term)} {id : UInt64} :
    id ∈ idsOfFields fs ↔ ∃ e ∈ fs, id ∈ e.2.ids := by
  induction fs with
  | nil => simp [idsOfFields]
  | cons e fs ih => simp [idsOfFields, ih]

end Term

namespace HostValue

mutual

/-- Values of one kind that hold the same data, floats bit for bit, and refer to the same
objects. -/
def Alike : HostValue Obj → HostValue Obj → Prop
  | .integer i, .integer j => i = j
  | .float x, .float y => x = y
  | .string s, .string t => s = t
  | .boolean a, .boolean b => a = b
  | .list xs, .list ys => AlikeItems xs ys
  | .map xs, .map ys => AlikeFields xs ys
  | .var m, .var n => m = n
  | .object a, .object b => a.sameObject b = true
  | _, _ => False

def AlikeItems : List (HostValue Obj) → List (HostValue Obj) → Prop
  | [], [] => True
  | x :: xs, y :: ys => Alike x y ∧ AlikeItems xs ys
  | _, _ => False

def AlikeFields : List (String × HostValue Obj) → List (String × HostValue Obj) → Prop
  | [], [] => True
  | (k, x) :: xs, (l, y) :: ys => k = l ∧ Alike x y ∧ AlikeFields xs ys
  | _, _ => False

end

lemma AlikeFields.find? {xs ys : List (String × HostValue Obj)} (h : AlikeFields xs ys)
    (name : String) : Option.Rel Alike (Dict.find? xs name) (Dict.find? ys name) := by
  induction xs generalizing ys with
  | nil =>
    cases ys with
    | nil => exact .none
    | cons y ys => simp [AlikeFields] at h
  | cons x xs ih =>
    cases ys with
    | nil => simp [AlikeFields] at h
    | cons y ys =>
      obtain ⟨hk, hv, hf⟩ : x.1 = y.1 ∧ Alike x.2 y.2 ∧ AlikeFields xs ys := by
        simpa only [AlikeFields] using h
      by_cases hn : y.1 = name
      · simpa [Dict.find?, hk, hn] using Option.Rel.some hv
      · simpa [Dict.find?, hk, hn] using ih hf

end HostValue

namespace Registry

def Grows (r r' : Registry Obj) : Prop := ∀ id, r.live? id ≠ none → r'.live? id = r.live? id

variable {r r' r'' : Registry Obj}

lemma Grows.trans (h : r.Grows r') (h' : r'.Grows r'') : r.Grows r'' := by
  intro id hid
  have hk := h id hid
  rw [h' id (by rw [hk]; exact hid), hk]

lemma live?_of_holds {id : UInt64} {i : Instance Obj} (h : r.holds id i = true) :
    r.live? id ≠ none := by
  intro hn
  rw [holds_of_free _ _ _ hn] at h
  cases h

lemma Grows.holds (h : r.Grows r') {id : UInt64} {i : Instance Obj} (hi : r.holds id i = true) :
    r'.holds id i = true := by
  have hl : r.live? id ≠ none := live?_of_holds hi
  have hk : r'.entries.find? id = r.entries.find? id := h id hl
  rw [Registry.holds, hk]
  exact hi

lemma lookup_congr {id : UInt64} (h : r'.live? id = r.live? id) : r'.lookup id = r.lookup id := by
  change r'.entries.find? id = r.entries.find? id at h
  rw [lookup, h, lookup]

lemma lookup_of_holds {id : UInt64} {i : Instance Obj} (h : r.holds id i = true) :
    ∃ j, r.lookup id = .ok j ∧ j.sameObject i = true := by
  cases he : r.live? id with
  | none =>
    rw [holds_of_free _ _ _ he] at h
    cases h
  | some e =>
    rw [holds_of_live _ _ _ he] at h
    refine ⟨e.reference id, lookup_of_live _ _ he, ?_⟩
    rw [Instance.sameObject, e.identity_reference]
    exact h

end Registry

namespace Marshal

open Term

variable {r r' : Registry Obj}

mutual

lemma fromTerm_congr : (t : Term) → (∀ id ∈ t.ids, r'.live? id = r.live? id) →
    fromTerm r' t = fromTerm r t
  | .list es none, h => by
    rw [fromTerm, fromTerm, fromTerms_congr es h]
  | .dictionary fs, h => by
    rw [fromTerm, fromTerm, fromFields_congr fs h]
  | .external id c _ _, h => by
    rw [fromTerm, fromTerm, Registry.lookup_congr (h id List.mem_cons_self)]
  | .list _ (some _), _ | .integer _, _ | .float _, _ | .string _, _ | .boolean _, _ | .var _, _
  | .literal .., _ | .dictionaryPattern _, _ | .instancePattern .., _ | .call .., _ => rfl

lemma fromTerms_congr : (ts : List Term) → (∀ id ∈ idsOfAll ts, r'.live? id = r.live? id) →
    fromTerms r' ts = fromTerms r ts
  | [], _ => rfl
  | t :: ts, h => by
    have ht := fromTerm_congr t fun id hid => h id (List.mem_append_left _ hid)
    have hts := fromTerms_congr ts fun id hid => h id (List.mem_append_right _ hid)
    rw [fromTerms, fromTerms, ht, hts]

lemma fromFields_congr : (fs : List (String × Term)) →
    (∀ id ∈ idsOfFields fs, r'.live? id = r.live? id) → fromFields r' fs = fromFields r fs
  | [], _ => rfl
  | (k, t) :: fs, h => by
    have ht := fromTerm_congr t fun id hid => h id (List.mem_append_left _ hid)
    have hfs := fromFields_congr fs fun id hid => h id (List.mem_append_right _ hid)
    rw [fromFields, fromFields, ht, hfs]

end

lemma fromTerms_cons {t : Term} {ts : List Term} {v : HostValue Obj} {vs : List (HostValue Obj)}
    (h : fromTerm r t = .ok v) (hs : fromTerms r ts = .ok vs) :
    fromTerms r (t :: ts) = .ok (v :: vs) := by
  rw [fromTerms, h, hs]
  rfl

lemma fromFields_cons {k : String} {t : Term} {fs : List (String × Term)} {v : HostValue Obj}
    {vs : List (String × HostValue Obj)} (h : fromTerm r t = .ok v)
    (hs : fromFields r fs = .ok vs) : fromFields r ((k, t) :: fs) = .ok ((k, v) :: vs) := by
  rw [fromFields, h, hs]
  rfl

lemma of_fromFields_cons {e : String × Term} {fs : List (String × Term)}
    {vs : List (String × HostValue Obj)} (h : fromFields r (e :: fs) = .ok vs) :
    ∃ v ws, fromTerm r e.2 = .ok v ∧ fromFields r fs = .ok ws ∧ vs = (e.1, v) :: ws := by
  obtain ⟨k, t⟩ := e
  cases ht : fromTerm r t with
  | error e =>
    rw [fromFields, ht] at h
    cases h
  | ok v =>
    cases hs : fromFields r fs with
    | error e =>
      rw [fromFields, ht, hs] at h
      cases h
    | ok ws =>
      rw [fromFields_cons ht hs] at h
      cases h
      exact ⟨v, ws, rfl, rfl, rfl⟩

lemma find?_fromFields {fs : List (String × Term)} {vs : List (String × HostValue Obj)}
    (h : fromFields r fs = .ok vs) (name : String) :
    (Dict.find? fs name).map (fromTerm r) = (Dict.find? vs name).map .ok := by
  induction fs generalizing vs with
  | nil =>
    cases h
    rfl
  | cons e fs ih =>
    obtain ⟨v, ws, ht, hs, rfl⟩ := of_fromFields_cons h
    by_cases hk : e.1 = name
    · simp [Dict.find?, hk, ht]
    · simpa [Dict.find?, hk] using ih hs

lemma keys_fromFields {fs : List (String × Term)} {vs : List (String × HostValue Obj)}
    (h : fromFields r fs = .ok vs) : Dict.keys vs = Dict.keys fs := by
  induction fs generalizing vs with
  | nil =>
    cases h
    rfl
  | cons e fs ih =>
    obtain ⟨v, ws, ht, hs, rfl⟩ := of_fromFields_cons h
    exact congrArg (e.1 :: ·) (ih hs)

lemma forall_of_fromFields {fs : List (String × Term)} {vs : List (String × HostValue Obj)}
    (h : fromFields r fs = .ok vs) : ∀ e ∈ fs, ∃ v, fromTerm r e.2 = .ok v := by
  induction fs generalizing vs with
  | nil => exact fun e he => by cases he
  | cons x fs ih =>
    obtain ⟨v, ws, ht, hs, rfl⟩ := of_fromFields_cons h
    intro e he
    rcases List.mem_cons.mp he with rfl | he
    · exact ⟨v, ht⟩
    · exact ih hs e he

lemma fromFields_of_forall {fs : List (String × Term)}
    (h : ∀ e ∈ fs, ∃ v, fromTerm r e.2 = .ok v) : ∃ vs, fromFields r fs = .ok vs := by
  induction fs with
  | nil => exact ⟨[], rfl⟩
  | cons e fs ih =>
    obtain ⟨v, hv⟩ := h e List.mem_cons_self
    obtain ⟨vs, hvs⟩ := ih fun e he => h e (List.mem_cons_of_mem _ he)
    exact ⟨(e.1, v) :: vs, fromFields_cons hv hvs⟩

end Marshal

end PolicyBridge
