import Mathlib.Tactic
import PolicyBridge.Proofs.Failing
import PolicyBridge.Proofs.Marshal.Reading

namespace PolicyBridge

variable {S Obj α β γ : Type}

namespace Term

mutual

def floats : Term → List Float
  | .float x => [x]
  | .list es _ => floatsOfAll es
  | .dictionary fs => floatsOfFields fs
  | _ => []

def floatsOfAll : List Term → List Float
  | [] => []
  | t :: ts => floats t ++ floatsOfAll ts

def floatsOfFields : List (String × Term) → List Float
  | [] => []
  | (_, t) :: fs => floats t ++ floatsOfFields fs

end

end Term

namespace Marshal

open Failing Term

def checked (xs : List Float) (a : α) : Except Error α :=
  match xs.find? fun x => !x.isFinite with
  | none => .ok a
  | some x => .error (nonFinite x)

def Gives (xs : List Float) (a : α) (m : Marshaling S Obj α) : Prop := ∀ d, m d = (checked xs a, d)

variable {xs ys : List Float} {a : α} {b : β} {m : Marshaling S Obj α} {n : Marshaling S Obj β}

lemma gives_pure (a : α) : Gives [] a (pure a : Marshaling S Obj α) := fun _ => rfl

lemma gives_map (g : α → β) (hm : Gives xs a m) :
    Gives xs (g a) (do return g (← m) : Marshaling S Obj β) := by
  intro d
  have h := hm d
  unfold checked at h ⊢
  cases hx : xs.find? fun x => !x.isFinite with
  | none =>
    rw [hx] at h
    exact bind_ok h
  | some x =>
    rw [hx] at h
    exact bind_error h

lemma gives_both (g : α → β → γ) (hm : Gives xs a m) (hn : Gives ys b n) :
    Gives (xs ++ ys) (g a b) (do
      let a ← m
      return g a (← n) : Marshaling S Obj γ) := by
  intro d
  have h := hm d
  unfold checked at h ⊢
  rw [List.find?_append]
  cases hx : xs.find? fun x => !x.isFinite with
  | none =>
    rw [hx] at h
    exact (bind_ok h).trans (gives_map (g a) hn d)
  | some x =>
    rw [hx] at h
    exact bind_error h

variable [IdSource S] {r : Registry Obj}

lemma of_fromTerms_cons {t : Term} {ts : List Term} {vs : List (HostValue Obj)}
    (h : fromTerms r (t :: ts) = .ok vs) :
    ∃ v ws, fromTerm r t = .ok v ∧ fromTerms r ts = .ok ws ∧ vs = v :: ws := by
  rw [fromTerms] at h
  cases ht : fromTerm r t with
  | error e =>
    rw [ht] at h
    cases h
  | ok v =>
    cases hs : fromTerms r ts with
    | error e =>
      rw [ht, hs] at h
      cases h
    | ok ws =>
      rw [ht, hs] at h
      cases h
      exact ⟨v, ws, rfl, rfl, rfl⟩

omit [IdSource S] in
lemma getElem?_fromTerms {ts : List Term} {vs : List (HostValue Obj)} (h : fromTerms r ts = .ok vs)
    (k : Nat) : (ts[k]?).map (fromTerm r) = (vs[k]?).map .ok := by
  induction ts generalizing vs k with
  | nil =>
    cases h
    rfl
  | cons t ts ih =>
    obtain ⟨v, ws, ht, hts, rfl⟩ := of_fromTerms_cons h
    cases k with
    | zero => exact congrArg some ht
    | succ k => exact ih hts k

lemma ids_of_getElem? {ts : List Term} (h : idsOfAll ts = []) {k : Nat} {t : Term}
    (ht : ts[k]? = some t) : t.ids = [] := by
  induction ts generalizing k with
  | nil => cases ht
  | cons t' ts ih =>
    obtain ⟨ht', hts⟩ := List.append_eq_nil_iff.mp h
    cases k with
    | zero =>
      obtain rfl : t' = t := Option.some.inj ht
      exact ht'
    | succ k => exact ih hts ht

mutual

lemma toTerm_gives : (t : Term) → t.ids = [] → ∀ v, fromTerm r t = .ok v →
    Gives t.floats t (toTerm v : Marshaling S Obj Term)
  | .integer _, _, _, rfl | .string _, _, _, rfl | .boolean _, _, _, rfl | .var _, _, _, rfl => by
    unfold toTerm
    exact gives_pure _
  | .float x, _, _, rfl => by
    intro d
    unfold toTerm
    cases hx : x.isFinite <;> simp [checked, floats, hx] <;> rfl
  | .list es none, hi, v, h => by
    rw [fromTerm] at h
    cases hs : fromTerms r es with
    | error e =>
      rw [hs] at h
      cases h
    | ok vs =>
      rw [hs] at h
      cases h
      unfold toTerm
      exact gives_map (fun ts => Term.list ts none) (toTerms_gives es hi vs hs)
  | .dictionary fs, hi, v, h => by
    rw [fromTerm] at h
    cases hs : fromFields r fs with
    | error e =>
      rw [hs] at h
      cases h
    | ok vs =>
      rw [hs] at h
      cases h
      unfold toTerm
      exact gives_map Term.dictionary (toFields_gives fs hi vs hs)
  | .external id c _ _, hi, _, _ => by cases hi

lemma toTerms_gives : (ts : List Term) → idsOfAll ts = [] → ∀ vs, fromTerms r ts = .ok vs →
    Gives (floatsOfAll ts) ts (toTerms vs : Marshaling S Obj (List Term))
  | [], _, _, rfl => by
    unfold toTerms
    exact gives_pure _
  | t :: ts, hi, vs, h => by
    obtain ⟨v, ws, ht, hts, rfl⟩ := of_fromTerms_cons h
    obtain ⟨hi, his⟩ := List.append_eq_nil_iff.mp hi
    unfold toTerms
    exact gives_both List.cons (toTerm_gives t hi v ht) (toTerms_gives ts his ws hts)

lemma toFields_gives : (fs : List (String × Term)) → idsOfFields fs = [] →
    ∀ vs, fromFields r fs = .ok vs →
      Gives (floatsOfFields fs) fs (toFields vs : Marshaling S Obj (List (String × Term)))
  | [], _, _, rfl => by
    unfold toFields
    exact gives_pure _
  | (k, t) :: fs, hi, vs, h => by
    obtain ⟨v, ws, ht, hfs, rfl⟩ := of_fromFields_cons h
    obtain ⟨hi, his⟩ := List.append_eq_nil_iff.mp hi
    unfold toFields
    exact gives_both (fun t fs => (k, t) :: fs) (toTerm_gives t hi v ht)
      (toFields_gives fs his ws hfs)

end

end Marshal

end PolicyBridge
