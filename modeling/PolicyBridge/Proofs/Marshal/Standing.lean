import Mathlib.Tactic
import PolicyBridge.Proofs.Dictionary
import PolicyBridge.Proofs.Marshal.Crossing

namespace PolicyBridge

variable {S Obj β : Type}

namespace Marshal

open Desk Failing HostValue Term

structure Stands (ids : List UInt64) (read : Registry Obj → Except Error β) (like : β → Prop)
    (r : Registry Obj) : Prop where
  live : ∀ id ∈ ids, r.live? id ≠ none
  reads : ∃ b, read r = .ok b ∧ like b

lemma Stands.grows {ids : List UInt64} {read : Registry Obj → Except Error β} {like : β → Prop}
    (hr : ∀ r r', (∀ id ∈ ids, Registry.live? r' id = r.live? id) → read r' = read r)
    (r r' : Registry Obj) (hg : r.Grows r') (h : Stands ids read like r) :
    Stands ids read like r' := by
  have hk : ∀ id ∈ ids, r'.live? id = r.live? id := fun id hid => hg id (h.live id hid)
  refine ⟨fun id hid => ?_, ?_⟩
  · rw [hk id hid]
    exact h.live id hid
  · rw [hr r r' hk]
    exact h.reads

abbrev TermStands (v : HostValue Obj) (r : Registry Obj) (t : Term) : Prop :=
  Stands t.ids (fun r => fromTerm r t) (Alike · v) r

abbrev TermsStand (vs : List (HostValue Obj)) (r : Registry Obj) (ts : List Term) : Prop :=
  Stands (idsOfAll ts) (fun r => fromTerms r ts) (AlikeItems · vs) r

abbrev FieldsStand (fs : List (String × HostValue Obj)) (r : Registry Obj)
    (ts : List (String × Term)) : Prop :=
  Stands (idsOfFields ts) (fun r => fromFields r ts) (AlikeFields · fs) r

lemma TermStands.grows {v : HostValue Obj} {r r' : Registry Obj} {t : Term} (hg : r.Grows r')
    (h : TermStands v r t) : TermStands v r' t :=
  Stands.grows (fun _ _ hk => fromTerm_congr t hk) r r' hg h

lemma TermStands.cons {v : HostValue Obj} {vs : List (HostValue Obj)} {r : Registry Obj} {t : Term}
    {ts : List Term} (h : TermStands v r t) (hs : TermsStand vs r ts) :
    TermsStand (v :: vs) r (t :: ts) := by
  obtain ⟨hl, v', hr, ha⟩ := h
  obtain ⟨hl', vs', hr', ha'⟩ := hs
  refine ⟨fun id hid => ?_, v' :: vs', fromTerms_cons hr hr', ?_⟩
  · exact (List.mem_append.mp hid).elim (hl id) (hl' id)
  · rw [AlikeItems]
    exact ⟨ha, ha'⟩

lemma TermStands.consField {k : String} {v : HostValue Obj} {fs : List (String × HostValue Obj)}
    {r : Registry Obj} {t : Term} {ts : List (String × Term)} (h : TermStands v r t)
    (hs : FieldsStand fs r ts) : FieldsStand ((k, v) :: fs) r ((k, t) :: ts) := by
  obtain ⟨hl, v', hr, ha⟩ := h
  obtain ⟨hl', vs', hr', ha'⟩ := hs
  refine ⟨fun id hid => ?_, (k, v') :: vs', fromFields_cons hr hr', ?_⟩
  · exact (List.mem_append.mp hid).elim (hl id) (hl' id)
  · rw [AlikeFields]
    exact ⟨rfl, ha, ha'⟩

section Objects

variable {r : Registry Obj} {i : Instance Obj}

lemma admits_new (hi : i.id = none) : r.Admits [.object i] := by
  refine ⟨fun x hx => by simp at hx, fun j id hj hc => ?_⟩
  obtain rfl : j = i := by simpa using hj
  rw [hi] at hc
  cases hc

lemma admits_carrying {id : UInt64} (hi : i.id = some id) :
    r.Admits [.object i] ↔ r.holds id i = true := by
  constructor
  · exact fun h => h.held i id List.mem_cons_self hi
  · refine fun h => ⟨fun x hx => by simp at hx, fun j id' hj hc => ?_⟩
    obtain rfl : j = i := by simpa using hj
    rw [hi] at hc
    obtain rfl := Option.some.inj hc
    exact h

lemma holds_register (id : UInt64) (o : Owner) : (r.register id i o).holds id i = true := by
  have hl : (r.register id i o).entries.find? id = some ⟨i, o⟩ :=
    Dict.find?_insert_self id (⟨i, o⟩ : Entry Obj) r.entries
  simp [Registry.holds, hl, Instance.sameObject]

lemma object_stands {id : UInt64} (c : Option String) (h : r.holds id i = true) :
    TermStands (.object i) r (.external id none none c) := by
  obtain ⟨j, hj, hs⟩ := Registry.lookup_of_holds h
  refine ⟨fun x hx => ?_, .object j, by rw [fromTerm, hj]; rfl, by rw [Alike]; exact hs⟩
  obtain rfl : x = id := by simpa [ids, idsOfOptional] using hx
  exact Registry.live?_of_holds h

end Objects

variable [IdSource S]

lemma idOf_of_carrying {i : Instance Obj} {id : UInt64} (hi : i.id = some id) (d : Desk S Obj) :
    idOf i d = (if d.registry.holds id i = true then pure id else throw (releasedInstance id) :
      Marshaling S Obj UInt64) d := by
  rw [idOf, hi]
  rfl

lemma idOf_crosses (i : Instance Obj) (d : Desk S Obj) :
    Crosses [.object i] (fun r id => r.holds id i = true) d (idOf i d) := by
  cases hi : i.id with
  | none =>
    have he : idOf i d = enlist i d := by rw [idOf, hi]
    rw [he]
    refine .crossed ?_ fun _ => ⟨admits_new hi, holds_register _ _⟩
    have hn : [HostValue.object i].countP isNew = 1 := by simp [isNew, hi]
    rw [hn]
    exact ⟨rfl, rfl, .register _ _ _⟩
  | some id =>
    have hn : [HostValue.object i].countP isNew = 0 := by simp [isNew, hi]
    rw [idOf_of_carrying hi]
    cases hh : d.registry.holds id i with
    | true =>
      refine .crossed ?_ fun _ => ⟨(admits_carrying hi).mpr hh, hh⟩
      rw [hn]
      exact .refl d
    | false =>
      refine .stopped (Nat.zero_le _) (.refl d) fun ha => ?_
      rw [admits_carrying hi, hh] at ha
      cases ha

lemma objectTerm_crosses (i : Instance Obj) (d : Desk S Obj) :
    Crosses [.object i] (TermStands (.object i)) d (objectTerm i d) := by
  have hs := idOf_crosses i d
  rcases h : idOf i d with ⟨e | id, d'⟩ <;> rw [h] at hs
  · have ho : objectTerm i d = (.error e, d') := bind_error h
    rw [ho]
    obtain ⟨⟩ | ⟨hn, ht, ha⟩ := hs
    exact .stopped hn ht ha
  · have ho : objectTerm i d = (.ok (.external id none none (some (classRepr d'.registry i))), d') :=
      bind_ok h
    rw [ho]
    obtain ⟨ht, ha⟩ := hs
    exact .crossed ht fun hv => (ha hv).imp_right (object_stands _)

lemma plain_crosses {v : HostValue Obj} {t : Term} (hx : ∀ x, .float x = v → x.isFinite = true)
    (hv : ∀ i, .object i ≠ v) (hi : t.ids = []) (ht : ∀ r : Registry Obj, fromTerm r t = .ok v)
    (ha : Alike v v) (d : Desk S Obj) :
    Crosses [v] (TermStands v) d ((pure t : Marshaling S Obj Term) d) := by
  have hn : isNew v = false := by
    cases v with
    | object i => exact absurd rfl (hv i)
    | _ => rfl
  have hadm (r : Registry Obj) : r.Admits [v] := by
    refine ⟨fun x h => hx x (List.mem_singleton.mp h), fun i id h => ?_⟩
    exact absurd (List.mem_singleton.mp h) (hv i)
  refine crosses_pure (fun r => ⟨hadm r, fun id hid => ?_, v, ht r, ha⟩) (by simp [hn]) d
  rw [hi] at hid
  cases hid

lemma admits_nil (r : Registry Obj) : r.Admits [] :=
  ⟨fun _ h => (by cases h), fun _ _ h => (by cases h)⟩

mutual

lemma toTerm_crosses : (v : HostValue Obj) → (d : Desk S Obj) →
    Crosses v.leaves (TermStands v) d (toTerm v d)
  | .integer _, d | .string _, d | .boolean _, d | .var _, d => by
    unfold toTerm
    exact plain_crosses (fun _ h => by cases h) (fun _ h => by cases h) rfl (fun _ => rfl)
      (by rw [Alike]) d
  | .float x, d => by
    have hl : (HostValue.float x : HostValue Obj).leaves = [.float x] := rfl
    rw [hl]
    unfold toTerm
    split
    · rename_i hx
      refine plain_crosses (fun y h => ?_) (fun _ h => by cases h) rfl (fun _ => rfl)
        (by rw [Alike]) d
      cases h
      exact hx
    · rename_i hx
      exact .stopped (Nat.zero_le _) (.refl d) fun ha => hx (ha.finite x List.mem_cons_self)
  | .list items, d => by
    unfold toTerm
    refine crosses_map (toTerms_crosses items) (fun r ts h => ?_) d
    obtain ⟨hl, vs, hr, ha⟩ := h
    exact ⟨hl, .list vs, by rw [fromTerm, hr]; rfl, by rw [Alike]; exact ha⟩
  | .map fields, d => by
    unfold toTerm
    refine crosses_map (toFields_crosses fields) (fun r ts h => ?_) d
    obtain ⟨hl, vs, hr, ha⟩ := h
    exact ⟨hl, .map vs, by rw [fromTerm, hr]; rfl, by rw [Alike]; exact ha⟩
  | .object i, d => by
    unfold toTerm
    exact objectTerm_crosses i d

lemma toTerms_crosses : (vs : List (HostValue Obj)) → (d : Desk S Obj) →
    Crosses (leavesOfItems vs) (TermsStand vs) d (toTerms vs d)
  | [], d => by
    unfold toTerms
    refine crosses_pure (fun r => ⟨admits_nil r, fun _ h => (by cases h), [], rfl, ?_⟩) rfl d
    rw [AlikeItems]
    trivial
  | v :: vs, d => by
    unfold toTerms
    refine crosses_bind (P := TermStands v) (fun _ _ _ => TermStands.grows) (toTerm_crosses v)
      (fun t => ?_) d
    exact crosses_map (toTerms_crosses vs) fun r ts hs h => h.cons hs

lemma toFields_crosses : (fs : List (String × HostValue Obj)) → (d : Desk S Obj) →
    Crosses (leavesOfFields fs) (FieldsStand fs) d (toFields fs d)
  | [], d => by
    unfold toFields
    refine crosses_pure (fun r => ⟨admits_nil r, fun _ h => (by cases h), [], rfl, ?_⟩) rfl d
    rw [AlikeFields]
    trivial
  | (k, v) :: fs, d => by
    unfold toFields
    refine crosses_bind (P := TermStands v) (fun _ _ _ => TermStands.grows) (toTerm_crosses v)
      (fun t => ?_) d
    exact crosses_map (toFields_crosses fs) fun r ts hs h => h.consField hs

end

section Bindings

variable {r : Registry Obj} {fs : List (String × HostValue Obj)} {ts : List (String × Term)}

abbrev BindingsStand (fs : List (String × HostValue Obj)) (r : Registry Obj) (bs : Bindings) : Prop :=
  Stands (idsOfFields bs) (fun r => fromBindings r bs)
    (fun out => ∀ k, Option.Rel Alike (out.find? k) (Dict.find? fs k)) r

omit [IdSource S] in
lemma AlikeFields.keys {gs : List (String × HostValue Obj)} (h : AlikeFields gs fs) :
    Dict.keys gs = Dict.keys fs := by
  induction gs generalizing fs with
  | nil =>
    cases fs with
    | nil => rfl
    | cons f fs => simp [AlikeFields] at h
  | cons g gs ih =>
    cases fs with
    | nil => simp [AlikeFields] at h
    | cons f fs =>
      obtain ⟨hk, -, hf⟩ : g.1 = f.1 ∧ Alike g.2 f.2 ∧ AlikeFields gs fs := by
        simpa only [AlikeFields] using h
      exact congrArg₂ List.cons hk (ih hf)

lemma FieldsStand.bindings (hn : (Dict.keys fs).Nodup) (h : FieldsStand fs r ts) :
    BindingsStand fs r (Dict.ofList ts) := by
  obtain ⟨hl, vs, hr, ha⟩ := h
  have hk : (Dict.keys ts).Nodup := by
    rw [← keys_fromFields hr, AlikeFields.keys ha]
    exact hn
  obtain ⟨out, ho⟩ := fromFields_of_forall fun e he =>
    forall_of_fromFields hr e (Dict.mem_of_mem_ofList he)
  refine ⟨fun id hid => ?_, out, ho, fun k => ?_⟩
  · obtain ⟨e, he, hid⟩ := mem_idsOfFields.mp hid
    exact hl id (mem_idsOfFields.mpr ⟨e, Dict.mem_of_mem_ofList he, hid⟩)
  · have hf := find?_fromFields ho k
    rw [Dict.find?_ofList hk, find?_fromFields hr] at hf
    rw [← Option.map_injective (fun _ _ => Except.ok.inj) hf]
    exact AlikeFields.find? ha k

end Bindings

lemma toTerm_takes (v : HostValue Obj) (d : Desk S Obj) :
    ∃ n ≤ v.leaves.countP isNew, Takes n d (toTerm v d).2 :=
  (toTerm_crosses v d).takes

lemma toBindings_takes (fs : List (String × HostValue Obj)) (d : Desk S Obj) :
    ∃ n ≤ (leavesOfFields fs).countP isNew, Takes n d (toBindings fs d).2 := by
  have hs : Crosses (leavesOfFields fs) (fun _ _ => True) d (toBindings fs d) :=
    crosses_map (toFields_crosses fs) (fun _ _ _ => trivial) d
  exact hs.takes

lemma toBindings_crosses {fs : List (String × HostValue Obj)} (hn : (Dict.keys fs).Nodup)
    (d : Desk S Obj) :
    Crosses (leavesOfFields fs) (BindingsStand fs) d (toBindings fs d) :=
  crosses_map (toFields_crosses fs) (fun _ _ h => FieldsStand.bindings hn h) d

end Marshal

end PolicyBridge
