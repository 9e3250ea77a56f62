import Mathlib.Tactic
import PolicyBridge.Proofs.Dictionary
import PolicyBridge.Value.Shape

namespace PolicyBridge

variable {Obj α β : Type}

section Traversals

def Gathers (R : α → Except Error β → Prop) (as : List α) : Except Error (List β) → Prop
  | .ok bs => List.Forall₂ (fun a b => R a (.ok b)) as bs
  | .error e => ∃ before a after, as = before ++ a :: after ∧
      (∀ x ∈ before, ∃ b, R x (.ok b)) ∧ R a (.error e)

lemma gathers_mapM {R : α → Except Error β → Prop} {f : α → Except Error β} {as : List α}
    (h : ∀ a ∈ as, R a (f a)) : Gathers R as (as.mapM f) := by
  induction as with
  | nil => exact .nil
  | cons a as ih =>
    obtain ⟨ha, has⟩ := List.forall_mem_cons.mp h
    specialize ih has
    rw [List.mapM_cons]
    cases hf : f a with
    | error e =>
      rw [hf] at ha
      exact ⟨[], a, as, rfl, nofun, ha⟩
    | ok b =>
      rw [hf] at ha
      cases hs : as.mapM f with
      | error e =>
        rw [hs] at ih
        obtain ⟨before, x, after, rfl, hb, hx⟩ := ih
        exact ⟨a :: before, x, after, rfl, List.forall_mem_cons.mpr ⟨⟨b, ha⟩, hb⟩, hx⟩
      | ok bs =>
        rw [hs] at ih
        exact .cons ha ih

lemma mapM_eq_ok_iff {f : α → Except Error β} {as : List α} {bs : List β} :
    as.mapM f = .ok bs ↔ List.Forall₂ (fun a b => f a = .ok b) as bs := by
  constructor
  · intro h
    have hg : Gathers (fun a x => f a = x) as (as.mapM f) := gathers_mapM fun _ _ => rfl
    rw [h] at hg
    exact hg
  · intro h
    induction h with
    | nil => rfl
    | cons ha _ ih =>
      rw [List.mapM_cons, ha, ih]
      rfl

end Traversals

namespace IntKind

def Exceeds (k : IntKind) (i : Int) : Prop := (k = .u64 ∨ k = .usize) ∧ i64.greatest < i

lemma least_i64 (k : IntKind) : i64.least ≤ k.least := by cases k <;> decide

lemma greatest_i64 {k : IntKind} (h : ¬ (k = .u64 ∨ k = .usize)) : k.greatest ≤ i64.greatest := by
  cases k with
  | u64 | usize => simp at h
  | _ => decide

lemma Fits.i64_iff {k : IntKind} {i : Int} (h : k.Fits i) : i64.Fits i ↔ ¬ k.Exceeds i := by
  constructor
  · exact fun hi he => absurd he.2 (Int.not_lt.mpr hi.2)
  · refine fun he => ⟨(least_i64 k).trans h.1, ?_⟩
    by_cases hk : k = .u64 ∨ k = .usize
    · exact Int.not_lt.mp fun hi => he ⟨hk, hi⟩
    · exact h.2.trans (greatest_i64 hk)

lemma toInt_ofInt {i : Int} (h : i64.Fits i) : (Int64.ofInt i).toInt = i := by
  obtain ⟨hl, hg⟩ := h
  exact Int64.toInt_ofInt_of_le hl (Int.lt_add_one_of_le hg)

end IntKind

namespace Shape

def integers : (s : Shape) → s.Carrier Obj → List (IntKind × Int)
  | .int k, i => [(k, i.val)]
  | .list s, xs => xs.flatMap (integers s)
  | .map s, d => d.flatMap fun e => integers s e.2
  | _, _ => []

def Ordered : (s : Shape) → s.Carrier Obj → Prop
  | .list s, xs => ∀ x ∈ xs, Ordered s x
  | .map s, d => Dict.Ordered d ∧ ∀ e ∈ d, Ordered s e.2
  | _, _ => True

def Stores : (s : Shape) → s.Carrier Obj → Except Error (HostValue Obj) → Prop
  | .list s, xs, x => ∃ vs, Gathers (Stores s) xs vs ∧ x = vs.map .list
  | .map s, d, x => ∃ entries fs, entries.Perm d ∧
      Gathers (fun e f => ∃ v, Stores s e.2 v ∧ f = v.map fun v => (e.1, v)) entries fs ∧
        x = fs.map fun fs => .map (Dict.ofList fs)
  | s, a, x => x = s.store a

def Denotes : (s : Shape) → HostValue Obj → s.Carrier Obj → Prop
  | .int _, v, i => ∃ j, v = .integer j ∧ j.toInt = i.val
  | .float, v, x => v = .float x ∨ ∃ j, v = .integer j ∧ floatOfInteger j = x
  | .boolean, v, b => v = .boolean b
  | .string, v, s => v = .string s
  | .value, v, w => v = w
  | .object, v, i => v = .object i
  | .list s, v, xs => ∃ vs, v = .list vs ∧ List.Forall₂ (Denotes s) vs xs
  | .map s, v, d => ∃ fs, v = .map fs ∧
      List.Forall₂ (fun f e => f.1 = e.1 ∧ Denotes s f.2 e.2) fs d

lemma onEntry_eq_ok_iff {f : α → Except Error β} {e : String × α} {g : String × β} :
    onEntry f e = .ok g ↔ e.1 = g.1 ∧ f e.2 = .ok g.2 := by
  obtain ⟨k, a⟩ := e
  obtain ⟨l, b⟩ := g
  cases hf : f a with
  | error e => simp [onEntry, hf, bind, Except.bind]
  | ok c => simp [onEntry, hf, bind, Except.bind, pure, Except.pure]

lemma fetch_eq_ok_iff (s : Shape) (v : HostValue Obj) (a : s.Carrier Obj) :
    s.fetch v = .ok a ↔ s.Denotes v a := by
  induction s generalizing v with
  | int k =>
    cases v with
    | integer j =>
      by_cases h : k.Fits j.toInt
      · simp [fetch, Denotes, h, Subtype.ext_iff]
      · refine iff_of_false (by simp [fetch, h]) ?_
        rintro ⟨_, ⟨⟩, hj⟩
        exact h (hj ▸ a.2)
    | _ => simp [fetch, Denotes]
  | float | boolean | string | object => cases v <;> simp [fetch, Denotes]
  | value => simp [fetch, Denotes]
  | list s ih =>
    cases v with
    | list vs =>
      have hf : (Shape.list s).fetch (.list vs) = vs.mapM s.fetch := rfl
      rw [hf, mapM_eq_ok_iff]
      simp only [ih, Denotes, HostValue.list.injEq, exists_eq_left']
    | _ => simp [fetch, Denotes]
  | map s ih =>
    cases v with
    | map fs =>
      have hf : (Shape.map s).fetch (.map fs) = fs.mapM (onEntry s.fetch) := rfl
      rw [hf, mapM_eq_ok_iff]
      simp only [onEntry_eq_ok_iff, ih, Denotes, HostValue.map.injEq, exists_eq_left']
    | _ => simp [fetch, Denotes]

/-- Either what comes of it is so and no integer is too large, or one is and is refused. -/
def Keeps (P : β → Prop) (ps : List (IntKind × Int)) : Except Error β → Prop
  | .ok b => P b ∧ ∀ p ∈ ps, ¬ p.1.Exceeds p.2
  | .error e => e.category = "marshal" ∧ ∃ p ∈ ps, p.1.Exceeds p.2

section Rules

variable {γ : Type} {P : β → Prop} {Q : γ → Prop} {ps qs : List (IntKind × Int)}
  {x : Except Error β}

lemma Keeps.map {g : β → γ} (h : Keeps P ps x) (hg : ∀ b, P b → Q (g b)) :
    Keeps Q ps (x.map g) := by
  cases x with
  | error e => exact h
  | ok b => exact ⟨hg b h.1, h.2⟩

lemma Keeps.perm (h : Keeps P ps x) (hp : ∀ p, p ∈ ps ↔ p ∈ qs) : Keeps P qs x := by
  cases x with
  | error e =>
    obtain ⟨hc, p, hm, he⟩ := h
    exact ⟨hc, p, (hp p).mp hm, he⟩
  | ok b => exact ⟨h.1, fun p hm => h.2 p ((hp p).mpr hm)⟩

lemma gathers_keeps {R : α → Except Error β → Prop} {D : β → α → Prop}
    {I : α → List (IntKind × Int)} {as : List α} {bs : Except Error (List β)}
    (hR : ∀ a ∈ as, ∀ x, R a x → Keeps (D · a) (I a) x) (h : Gathers R as bs) :
    Keeps (fun bs => List.Forall₂ D bs as) (as.flatMap I) bs := by
  cases bs with
  | error e =>
    obtain ⟨before, a, after, rfl, -, ha⟩ := h
    have hm : a ∈ before ++ a :: after := List.mem_append_right _ List.mem_cons_self
    obtain ⟨hc, p, hp, he⟩ := hR a hm _ ha
    exact ⟨hc, p, List.mem_flatMap.mpr ⟨a, hm, hp⟩, he⟩
  | ok bs =>
    have hb : List.Forall₂ (fun a b => (∀ p ∈ I a, ¬ p.1.Exceeds p.2) ∧ D b a) as bs := by
      refine ((List.forall₂_and_left _ _).mpr ⟨hR, h⟩).imp fun a b hab => ?_
      exact (hab.1 _ hab.2).symm
    obtain ⟨hi, hd⟩ := (List.forall₂_and_left _ _).mp hb
    refine ⟨hd.flip, fun p hp => ?_⟩
    obtain ⟨a, ha, hp⟩ := List.mem_flatMap.mp hp
    exact hi a ha p hp

end Rules

lemma store_int (k : IntKind) (i : { i : Int // k.Fits i }) :
    Keeps ((Shape.int k).Denotes · i) [(k, i.val)]
      ((Shape.int k).store i : Except Error (HostValue Obj)) := by
  by_cases h : IntKind.i64.Fits i.val
  · have hs : (Shape.int k).store i = .ok (.integer (Int64.ofInt i.val) : HostValue Obj) := if_pos h
    rw [hs]
    refine ⟨⟨_, rfl, IntKind.toInt_ofInt h⟩, fun p hp => ?_⟩
    obtain rfl := List.mem_singleton.mp hp
    exact i.2.i64_iff.mp h
  · have hs : (Shape.int k).store i =
        (.error (unrepresentable i.val k) : Except Error (HostValue Obj)) := if_neg h
    rw [hs]
    exact ⟨rfl, (k, i.val), List.mem_singleton.mpr rfl, not_not.mp (mt i.2.i64_iff.mpr h)⟩

lemma keys_of_forall₂ {d : Dict String α} {d' : Dict String β}
    (h : List.Forall₂ (fun e f => e.1 = f.1) d d') : d.keys = d'.keys := by
  induction h with
  | nil => rfl
  | cons he _ ih => exact congrArg₂ List.cons he ih

lemma forall₂_ofList {D : β → α → Prop} {d entries : Dict String α} {fs : List (String × β)}
    (hd : d.Ordered) (hp : entries.Perm d)
    (h : List.Forall₂ (fun f e => f.1 = e.1 ∧ D f.2 e.2) fs entries) :
    List.Forall₂ (fun f e => f.1 = e.1 ∧ D f.2 e.2) (Dict.ofList fs) d := by
  obtain ⟨gs, hgs, hf⟩ := List.perm_comp_forall₂ hp.symm h.flip
  have ho : Dict.Ordered gs := by
    rw [Dict.Ordered, ← keys_of_forall₂ (hgs.imp fun _ _ h => h.1.symm)]
    exact hd
  rw [Dict.ofList_perm ho hf.symm]
  exact hgs.flip

lemma stores_keeps (s : Shape) (a : s.Carrier Obj) (ha : s.Ordered a)
    (x : Except Error (HostValue Obj)) (h : s.Stores a x) :
    Keeps (s.Denotes · a) (s.integers a) x := by
  induction s generalizing x with
  | int k =>
    subst h
    exact store_int k a
  | float =>
    subst h
    exact ⟨.inl rfl, nofun⟩
  | boolean | string | value | object =>
    subst h
    exact ⟨rfl, nofun⟩
  | list s ih =>
    obtain ⟨vs, hg, rfl⟩ := h
    exact (gathers_keeps (fun b hb => ih b (ha b hb)) hg).map fun vs hvs => ⟨vs, rfl, hvs⟩
  | map s ih =>
    obtain ⟨entries, fs, hp, hg, rfl⟩ := h
    have hk := gathers_keeps (D := fun f e => f.1 = e.1 ∧ s.Denotes f.2 e.2)
      (I := fun e => s.integers e.2) (fun e he x hx => ?_) hg
    · refine (hk.map fun fs hfs => ⟨_, rfl, forall₂_ofList ha.1 hp hfs⟩).perm fun p => ?_
      exact (hp.flatMap_right _).mem_iff
    · obtain ⟨v, hv, rfl⟩ := hx
      exact (ih e.2 (ha.2 e (hp.mem_iff.mp he)) v hv).map fun w hw => ⟨rfl, hw⟩

lemma stores_store (s : Shape) (a : s.Carrier Obj) (ha : s.Ordered a) : s.Stores a (s.store a) := by
  induction s with
  | list s ih => exact ⟨a.mapM s.store, gathers_mapM fun b hb => ih b (ha b hb), rfl⟩
  | map s ih =>
    refine ⟨a, a.mapM (onEntry s.store), .refl _, gathers_mapM fun e he => ?_, ?_⟩
    · exact ⟨s.store e.2, ih e.2 (ha.2 e he), rfl⟩
    have hs : (Shape.map s).store a = (a.mapM (onEntry s.store)).map .map := rfl
    rw [hs]
    cases hm : a.mapM (onEntry s.store) with
    | error e => rfl
    | ok fs =>
      have hf := (mapM_eq_ok_iff.mp hm).imp fun e f hef => onEntry_eq_ok_iff.mp hef
      have ho : Dict.Ordered fs := by
        rw [Dict.Ordered, ← keys_of_forall₂ (hf.imp fun _ _ h => h.1)]
        exact ha.1
      exact congrArg (fun fs => Except.ok (HostValue.map fs)) (Dict.ofList_ordered ho).symm
  | _ => rfl

/-- Storing data fails exactly if an unsigned integer in it is too large for a signed one, whatever
the order in which the entries of maps are visited, and such an integer is refused; else what is
stored is fetched as it was. What is fetched from any value is what the value says: no integer ever
changes on the way, and one that does not fit is not fetched. -/
theorem stored_is_fetched (s : Shape) :
    (∀ a : s.Carrier Obj, s.Ordered a → s.Stores a (s.store a) ∧ ∀ x, s.Stores a x →
      ((∃ e, x = .error e) ↔ ∃ p ∈ s.integers a, p.1.Exceeds p.2) ∧
      (∀ e, x = .error e → e.category = "marshal") ∧ ∀ v, x = .ok v → s.fetch v = .ok a) ∧
    ∀ (v : HostValue Obj) a, s.fetch v = .ok a ↔ s.Denotes v a := by
  refine ⟨fun a ha => ⟨stores_store s a ha, fun x hx => ?_⟩, fetch_eq_ok_iff s⟩
  have hk := stores_keeps s a ha x hx
  cases x with
  | error e =>
    refine ⟨iff_of_true ⟨e, rfl⟩ hk.2, ?_, nofun⟩
    rintro _ ⟨⟩
    exact hk.1
  | ok v =>
    refine ⟨iff_of_false nofun fun ⟨p, hp, he⟩ => hk.2 p hp he, nofun, ?_⟩
    rintro _ ⟨⟩
    exact (fetch_eq_ok_iff s v a).mpr hk.1

section Samples

def rosters : Shape := .map (.list (.int .u64))

def roster : rosters.Carrier Unit :=
  [("big", [⟨7, by decide⟩, ⟨9223372036854775807, by decide⟩]), ("none", [])]

theorem stored_is_fetched_roster : rosters.Ordered roster ∧
    ∃ v, rosters.store roster = .ok v ∧ rosters.fetch v = .ok roster := by
  have ho : rosters.Ordered roster := ⟨List.pairwise_pair.mpr (by decide), fun _ _ _ _ => trivial⟩
  obtain ⟨hs, hx⟩ := (stored_is_fetched rosters).1 roster ho
  exact ⟨ho, _, rfl, (hx _ hs).2.2 _ rfl⟩

end Samples

end Shape

end PolicyBridge
