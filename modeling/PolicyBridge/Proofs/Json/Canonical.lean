import Mathlib.Tactic
import PolicyBridge.Proofs.Json.Reading

namespace PolicyBridge.Json

def Number.Proper : Number → Prop
  | .natural _ => True
  | .negative i => i.toInt < 0
  | .real x => Keeps x

mutual

def Canonical : Json → Prop
  | .null | .bool _ => True
  | .number n => ∃ v : Number, n = .ofNumber v ∧ v.Proper
  | .string s => s.isSome = true
  | .array items => CanonicalItems items
  | .object members =>
    (∃ d : Dict String Json, d.Ordered ∧ members = d.map fun m => (some m.1, m.2)) ∧
      CanonicalMembers members

def CanonicalItems : List Json → Prop
  | [] => True
  | j :: js => Canonical j ∧ CanonicalItems js

def CanonicalMembers : List (Option String × Json) → Prop
  | [] => True
  | (_, j) :: ms => Canonical j ∧ CanonicalMembers ms

end

lemma Number.Proper.value? {v : Number} (h : v.Proper) : (Numeral.ofNumber v).value? = some v := by
  cases v with
  | natural n => exact value?_ofNat n
  | negative i => exact value?_ofInt_of_neg h
  | real x => exact Keeps.value? h

lemma reads_leaf {j : Json} (hj : j.isLeaf = true) (hc : ∀ b, canonical? b j = some j) :
    Reads canonical? j j := by
  intro b
  rw [depth_of_isLeaf hj, hc, if_pos (Nat.zero_le b)]

mutual

lemma canonical_reads : (j : Json) → Canonical j → Reads canonical? j j
  | .null, _ => reads_leaf rfl fun b => by cases b <;> rfl
  | .bool v, _ => reads_leaf rfl fun b => by cases b <;> rfl
  | .number n, h => by
    obtain ⟨v, rfl, hv⟩ : ∃ v : Number, n = .ofNumber v ∧ v.Proper := by simpa only [Canonical] using h
    have hc (b : Nat) : canonical? b (.number (.ofNumber v)) =
        (Numeral.ofNumber v).value?.map fun v => .number (.ofNumber v) := by
      cases b <;> rfl
    refine reads_leaf rfl fun b => ?_
    rw [hc, hv.value?]
    rfl
  | .string s, h => by
    have hs : s.isSome = true := by simpa only [Canonical] using h
    obtain ⟨t, rfl⟩ := Option.isSome_iff_exists.mp hs
    exact reads_leaf rfl fun b => by cases b <;> rfl
  | .array items, h => by
    have hi := items_read items (by simpa only [Canonical] using h)
    refine reads_succ (depth_array items) rfl fun b => ?_
    have hc : canonical? (b + 1) (.array items) = (items.mapM (canonical? b)).map .array := rfl
    rw [hc, mapM_reads hi]
    split <;> rfl
  | .object members, h => by
    obtain ⟨⟨d, ho, hm⟩, hp⟩ : (∃ d : Dict String Json, d.Ordered ∧
        members = d.map fun m => (some m.1, m.2)) ∧ CanonicalMembers members := by
      simpa only [Canonical] using h
    have he := members_enter members hp d hm
    refine reads_succ (by rw [depth]) rfl fun b => ?_
    have hc : canonical? (b + 1) (.object members) =
        ((Json.object members).dict? (canonical? b)).bind fun d => some (ofDict d) := by
      rw [canonical?, dict?]
      cases (members.mapM _ : Option (List (String × Json))) <;> rfl
    have hr := dict?_enters he b
    subst hm
    change (Json.object _).dict? _ = _ at hr
    rw [hc, hr, ite_bind, Dict.ofList_ordered ho]
    rfl

lemma items_read : (js : List Json) → CanonicalItems js → List.Forall₂ (Reads canonical?) js js
  | [], _ => .nil
  | j :: js, h => by
    obtain ⟨hj, hs⟩ : Canonical j ∧ CanonicalItems js := by simpa only [CanonicalItems] using h
    exact .cons (canonical_reads j hj) (items_read js hs)

lemma members_enter : (ms : List (Option String × Json)) → CanonicalMembers ms →
    (d : Dict String Json) → ms = d.map (fun m => (some m.1, m.2)) →
    List.Forall₂ (Enters canonical?) d d
  | [], _, [], _ => .nil
  | (k, j) :: ms, h, e :: d, he => by
    obtain ⟨hj, hs⟩ : Canonical j ∧ CanonicalMembers ms := by simpa only [CanonicalMembers] using h
    obtain ⟨⟨-, rfl⟩, hm⟩ := by simpa using he
    exact .cons ⟨rfl, canonical_reads _ hj⟩ (members_enter ms hs d hm)

end

end PolicyBridge.Json
