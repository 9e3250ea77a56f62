import Mathlib.Tactic
import PolicyBridge.Proofs.Dispatch.Comparing
import PolicyBridge.Proofs.Dispatch.Unifying
import PolicyBridge.Proofs.Marshal.Plain

/-! Equality of lists and dictionaries. It is decided element by element, but not as the operator
decides it: an integer is no float there, and the class of two objects is not asked. -/

namespace PolicyBridge

variable {S Obj : Type}

namespace HostValue

def Kindred (a b : HostValue Obj) : Prop :=
  a.kind = b.kind ∧ ∀ i j, a = .object i → b = .object j → i.sameObject j = true

variable {a b : HostValue Obj} {xs ys : List (HostValue Obj)}
  {fs gs : List (String × HostValue Obj)} {r : Registry Obj}

lemma kindred_of_beq (h : (a == b) = true) : a.Kindred b := by
  change a.beq b = true at h
  revert h
  fun_cases beq a b with
  | case8 i j =>
    refine fun h => ⟨rfl, ?_⟩
    rintro _ _ ⟨⟩ ⟨⟩
    exact h
  | case9 => exact nofun
  | _ => exact fun _ => ⟨rfl, nofun⟩

lemma object_of_kind {i : Instance Obj} (h : (object i).kind = b.kind) : ∃ j, b = .object j := by
  cases b with
  | object j => exact ⟨j, rfl⟩
  | _ => simp [kind] at h

lemma beq_iff_level (h : a.Comparable b) (hk : a.kind = b.kind) : (a == b) = true ↔ a.Level b := by
  cases h with
  | strings s t =>
    change (s == t) = true ↔ s = t
    exact beq_iff_eq
  | booleans x y =>
    change (x == y) = true ↔ x = y
    exact beq_iff_eq
  | numbers ha hb =>
    rcases isNumber_cases ha with ⟨i, rfl⟩ | ⟨x, rfl⟩ <;>
      rcases isNumber_cases hb with ⟨j, rfl⟩ | ⟨y, rfl⟩
    · change (i == j) = true ↔ i = j
      exact beq_iff_eq
    · simp [kind] at hk
    · simp [kind] at hk
    · exact .rfl

lemma comparable_of_scalars {c : Option Ordering} (h : a.compareScalars? b = some c) :
    a.Comparable b := by
  unfold compareScalars? at h
  split at h
  · exact .numbers trivial trivial
  · exact .numbers trivial trivial
  · exact .numbers trivial trivial
  · exact .numbers trivial trivial
  · exact .strings _ _
  · exact .booleans _ _
  · cases h

lemma compareValues_of_kind (hk : a.kind = b.kind) (ho : ∀ i, a ≠ .object i) :
    r.compareValues .eq a b = .ok (a == b) := by
  cases hs : a.compareScalars? b with
  | none =>
    unfold Registry.compareValues
    split
    · exact absurd rfl (ho _)
    · rw [hs]
  | some c =>
    have hc := comparable_of_scalars hs
    obtain ⟨c', hc'⟩ := hc.compares
    obtain rfl : c = c' := Option.some.inj (hs.symm.trans hc'.here)
    rw [Registry.compareValues_of_scalars _ hs]
    refine congrArg _ (Bool.eq_iff_iff.mpr ?_)
    rw [Operator.holds_eq_iff, hc'.level, beq_iff_level hc hk]

lemma beq_iff (r : Registry Obj) :
    (a == b) = true ↔ a.Kindred b ∧ r.compareValues .eq a b = .ok true := by
  by_cases ho : ∃ i, a = .object i
  · obtain ⟨i, rfl⟩ := ho
    refine ⟨fun h => ?_, fun ⟨⟨hk, hs⟩, _⟩ => ?_⟩
    · have hk := kindred_of_beq h
      obtain ⟨j, rfl⟩ := object_of_kind hk.1
      exact ⟨hk, if_pos (hk.2 i j rfl rfl)⟩
    · obtain ⟨j, rfl⟩ := object_of_kind hk
      exact hs i j rfl rfl
  · have ho i : a ≠ .object i := fun h => ho ⟨i, h⟩
    refine ⟨fun h => ?_, fun ⟨⟨hk, _⟩, hc⟩ => ?_⟩
    · have hk := kindred_of_beq h
      rw [compareValues_of_kind hk.1 ho, h]
      exact ⟨hk, rfl⟩
    · rw [compareValues_of_kind hk ho] at hc
      exact Except.ok.inj hc

lemma beqItems_iff : beqItems xs ys = true ↔ List.Forall₂ (fun x y => (x == y) = true) xs ys := by
  induction xs generalizing ys with
  | nil => cases ys <;> simp [beqItems]
  | cons x xs ih =>
    cases ys with
    | nil => simp [beqItems]
    | cons y ys =>
      rw [List.forall₂_cons, ← ih, beqItems, Bool.and_eq_true]
      rfl

lemma beqFields_iff : beqFields fs gs = true ↔
    List.Forall₂ (fun f g => f.1 = g.1 ∧ (f.2 == g.2) = true) fs gs := by
  induction fs generalizing gs with
  | nil => cases gs <;> simp [beqFields]
  | cons f fs ih =>
    cases gs with
    | nil => simp [beqFields]
    | cons g gs =>
      rw [List.forall₂_cons, ← ih, beqFields, Bool.and_eq_true, Bool.and_eq_true, beq_iff_eq]
      rfl

end HostValue

namespace Marshal

variable {r : Registry Obj}

lemma fromTerms_forall₂ {ts : List Term} {vs : List (HostValue Obj)} (h : fromTerms r ts = .ok vs) :
    List.Forall₂ (fun t v => fromTerm r t = .ok v) ts vs := by
  induction ts generalizing vs with
  | nil =>
    cases h
    exact .nil
  | cons t ts ih =>
    obtain ⟨v, ws, ht, hts, rfl⟩ := of_fromTerms_cons h
    exact .cons ht (ih hts)

lemma fromFields_forall₂ {fs : List (String × Term)} {vs : List (String × HostValue Obj)}
    (h : fromFields r fs = .ok vs) :
    List.Forall₂ (fun f v => f.1 = v.1 ∧ fromTerm r f.2 = .ok v.2) fs vs := by
  induction fs generalizing vs with
  | nil =>
    cases h
    exact .nil
  | cons f fs ih =>
    obtain ⟨v, ws, ht, hts, rfl⟩ := of_fromFields_cons h
    exact .cons ⟨rfl, ht⟩ (ih hts)

lemma collection_of_fromTerm {t : Term} {v : HostValue Obj} (h : fromTerm r t = .ok v) :
    (∀ vs, v = .list vs → ∃ ts, t = .list ts none ∧ fromTerms r ts = .ok vs) ∧
      ∀ vs, v = .map vs → ∃ fs, t = .dictionary fs ∧ fromFields r fs = .ok vs := by
  cases t with
  | list ts rest =>
    cases rest with
    | some rest => cases h
    | none =>
      rw [fromTerm] at h
      cases hs : fromTerms r ts with
      | error e => rw [hs] at h; cases h
      | ok vs =>
        rw [hs] at h
        cases h
        exact ⟨by rintro _ ⟨⟩; exact ⟨ts, rfl, hs⟩, nofun⟩
  | dictionary fs =>
    rw [fromTerm] at h
    cases hs : fromFields r fs with
    | error e => rw [hs] at h; cases h
    | ok vs =>
      rw [hs] at h
      cases h
      exact ⟨nofun, by rintro _ ⟨⟩; exact ⟨fs, rfl, hs⟩⟩
  | external id =>
    rw [fromTerm] at h
    cases hi : r.lookup id with
    | error e => rw [hi] at h; cases h
    | ok i =>
      rw [hi] at h
      cases h
      exact ⟨nofun, nofun⟩
  | integer | float | string | boolean | var =>
    cases h
    exact ⟨nofun, nofun⟩
  | literal | dictionaryPattern | instancePattern | call => cases h

end Marshal

lemma forall₂_iff_of_forall₂ {α β γ δ : Type} {R : α → β → Prop} {R' : γ → δ → Prop}
    {P : α → γ → Prop} {Q : β → δ → Prop} (h : ∀ a b c d, R a b → R' c d → (P a c ↔ Q b d))
    {as : List α} {bs : List β} {cs : List γ} {ds : List δ} (hab : List.Forall₂ R as bs)
    (hcd : List.Forall₂ R' cs ds) : List.Forall₂ P as cs ↔ List.Forall₂ Q bs ds := by
  induction hab generalizing cs ds with
  | nil => cases hcd <;> simp
  | cons ha _ ih =>
    cases hcd with
    | nil => simp
    | cons hc hcd => rw [List.forall₂_cons, List.forall₂_cons, h _ _ _ _ ha hc, ih hcd]

namespace Work

variable [IdSource S] {w : Work S Obj} {t u : Term} {a b : HostValue Obj}

/-- The operator finds the terms equal, and they are of one kind, and the same object if they are
objects. -/
def Matches (w : Work S Obj) (t u : Term) : Prop :=
  w.Says (.externalOp · .eq [t, u]) true ∧ ∀ a b, Marshal.fromTerm w.registry t = .ok a →
    Marshal.fromTerm w.registry u = .ok b → a.Kindred b

lemma says_iff_of_read (o : Operator) (ht : Marshal.fromTerm w.registry t = .ok a)
    (hu : Marshal.fromTerm w.registry u = .ok b) (x : Bool) :
    w.Says (.externalOp · o [t, u]) x ↔ w.registry.compareValues o a b = .ok x := by
  have h callId := Dispatching.dispatch_op callId o [t, u] w
  rw [Registry.compareTerms_of_read o ht hu] at h
  refine ⟨fun hs => ?_, fun hc callId => ?_⟩
  · have hx := (h 0).symm.trans (hs 0)
    cases hc : w.registry.compareValues o a b with
    | error e =>
      rw [hc] at hx
      cases hx
    | ok y =>
      rw [hc] at hx
      cases hx
      rfl
  · rw [h, hc]
    rfl

lemma matches_iff (ht : Marshal.fromTerm w.registry t = .ok a)
    (hu : Marshal.fromTerm w.registry u = .ok b) : w.Matches t u ↔ (a == b) = true := by
  rw [HostValue.beq_iff w.registry, Matches, says_iff_of_read .eq ht hu, ht, hu]
  constructor
  · rintro ⟨hs, hk⟩
    exact ⟨hk a b rfl rfl, hs⟩
  · rintro ⟨hk, hs⟩
    refine ⟨hs, ?_⟩
    rintro _ _ ⟨⟩ ⟨⟩
    exact hk

/-- Two terms that read as lists are found equal exactly if their elements match in step, and two
that read as dictionaries, which are kept in the order of their keys, if their fields do under the
same keys. The operator always answers. -/
theorem collections_equal_in_step (w : Work S Obj) (t u : Term) (a b : HostValue Obj)
    (ht : Marshal.fromTerm w.registry t = .ok a) (hu : Marshal.fromTerm w.registry u = .ok b) :
    (∀ xs ys, a = .list xs → b = .list ys → ∃ ts us x, t = .list ts none ∧ u = .list us none ∧
      w.Says (.externalOp · .eq [t, u]) x ∧ (x = true ↔ List.Forall₂ w.Matches ts us)) ∧
    ∀ fs gs, a = .map fs → b = .map gs → ∃ ts us x, t = .dictionary ts ∧ u = .dictionary us ∧
      w.Says (.externalOp · .eq [t, u]) x ∧
        (x = true ↔ List.Forall₂ (fun e f => e.1 = f.1 ∧ w.Matches e.2 f.2) ts us) := by
  obtain ⟨htl, htm⟩ := Marshal.collection_of_fromTerm ht
  obtain ⟨hul, hum⟩ := Marshal.collection_of_fromTerm hu
  refine ⟨?_, ?_⟩
  · rintro xs ys rfl rfl
    obtain ⟨ts, rfl, hts⟩ := htl xs rfl
    obtain ⟨us, rfl, hus⟩ := hul ys rfl
    refine ⟨ts, us, HostValue.beqItems xs ys, rfl, rfl, (says_iff_of_read .eq ht hu _).mpr rfl, ?_⟩
    rw [HostValue.beqItems_iff]
    exact (forall₂_iff_of_forall₂ (fun _ _ _ _ => matches_iff) (Marshal.fromTerms_forall₂ hts)
      (Marshal.fromTerms_forall₂ hus)).symm
  · rintro fs gs rfl rfl
    obtain ⟨ts, rfl, hts⟩ := htm fs rfl
    obtain ⟨us, rfl, hus⟩ := hum gs rfl
    refine ⟨ts, us, HostValue.beqFields fs gs, rfl, rfl, (says_iff_of_read .eq ht hu _).mpr rfl, ?_⟩
    rw [HostValue.beqFields_iff]
    refine (forall₂_iff_of_forall₂ (fun e f e' f' he hf => ?_) (Marshal.fromFields_forall₂ hts)
      (Marshal.fromFields_forall₂ hus)).symm
    rw [he.1, hf.1, matches_iff he.2 hf.2]

section Samples

def accounts : Work Counter Bool := Registering.reached ⟨1⟩ Registering.household

theorem collections_equal_in_step_accounts :
    let t : Term := .list [.ofId 9, .integer 1] none
    let u : Term := .list [.ofId 9, .float 1] none
    ∃ a b, Marshal.fromTerm accounts.registry t = .ok (.list a) ∧
      Marshal.fromTerm accounts.registry u = .ok (.list b) ∧
        ∃ ts us x, t = .list ts none ∧ u = .list us none ∧
          accounts.Says (.externalOp · .eq [t, u]) x ∧
            (x = true ↔ List.Forall₂ accounts.Matches ts us) := by
  intro t u
  obtain ⟨a, ha⟩ : ∃ a, Marshal.fromTerm accounts.registry t = .ok (.list a) := ⟨_, rfl⟩
  obtain ⟨b, hb⟩ : ∃ b, Marshal.fromTerm accounts.registry u = .ok (.list b) := ⟨_, rfl⟩
  exact ⟨a, b, ha, hb, (collections_equal_in_step accounts t u _ _ ha hb).1 a b rfl rfl⟩

/-- Two numbers and two objects that are equal, and lists and dictionaries of them that are not. -/
theorem collections_not_equal_by_element :
    accounts.Says (.externalOp · .eq [.integer 1, .float 1]) true ∧
      accounts.Says (.externalOp · .eq [.list [.integer 1] none, .list [.float 1] none]) false ∧
      accounts.Says (.externalOp · .eq [.dictionary [("k", .integer 1)],
        .dictionary [("k", .float 1)]]) false ∧
      accounts.Says (.externalOp · .eq [.ofId 1, .ofId 9]) true ∧
      accounts.Says (.externalOp · .eq [.list [.ofId 1] none, .list [.ofId 9] none]) false ∧
      accounts.Says (.externalOp · .eq [.dictionary [("k", .ofId 1)],
        .dictionary [("k", .ofId 9)]]) false :=
  ⟨fun _ => rfl, fun _ => rfl, fun _ => rfl, fun _ => rfl, fun _ => rfl, fun _ => rfl⟩

end Samples

end Work

end PolicyBridge
