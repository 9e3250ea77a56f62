import Mathlib.Tactic
import PolicyBridge.Proofs.Marshal.Plain
import PolicyBridge.Proofs.Marshal.RoundTrip

/-! Which terms are read, and which part is complained of in one that is not: the first that cannot
be read, in the order in which the parts are visited. A term that names only objects of the host is
marshaled to itself again. -/

namespace PolicyBridge

variable {S Obj : Type}

namespace Term

mutual

/-- The parts of a term that are looked at when it is read, each before its own parts. -/
def visited : Term → List Term
  | .list es none => .list es none :: visitedOfAll es
  | .dictionary fs => .dictionary fs :: visitedOfFields fs
  | t => [t]

def visitedOfAll : List Term → List Term
  | [] => []
  | t :: ts => visited t ++ visitedOfAll ts

def visitedOfFields : List (String × Term) → List Term
  | [] => []
  | (_, t) :: fs => visited t ++ visitedOfFields fs

end

def isExternal : Term → Bool
  | .external .. => true
  | _ => false

mutual

def bare : Term → Term
  | .external id _ _ _ => .ofId id
  | .list es rest => .list (bareAll es) rest
  | .dictionary fs => .dictionary (bareFields fs)
  | t => t

def bareAll : List Term → List Term
  | [] => []
  | t :: ts => bare t :: bareAll ts

def bareFields : List (String × Term) → List (String × Term)
  | [] => []
  | (k, t) :: fs => (k, bare t) :: bareFields fs

end

end Term

/-- A part of a term that does not stand in the way of reading it. -/
def Registry.readable (r : Registry Obj) : Term → Bool
  | .literal .. | .dictionaryPattern _ | .instancePattern .. | .call .. | .list _ (some _) => false
  | .external id _ _ _ => (r.live? id).isSome
  | _ => true

namespace Marshal

open Term

variable {r : Registry Obj}

section Complaints

def complaint : Term → Error
  | .list _ (some rest) => openList rest
  | .external id _ _ _ => Registry.unknownInstance id
  | t => noHostForm t

lemma category_complaint (t : Term) :
    (complaint t).category = if t.isExternal then "resource" else "marshal" := by
  cases t with
  | list es rest => cases rest <;> rfl
  | _ => rfl

def judge (r : Registry Obj) (ts : List Term) : Except Error Unit :=
  match ts.find? fun t => !r.readable t with
  | none => .ok ()
  | some t => .error (complaint t)

lemma judge_eq_ok_iff {ts : List Term} :
    judge r ts = .ok () ↔ ∀ t ∈ ts, r.readable t = true := by
  unfold judge
  cases h : ts.find? fun t => !r.readable t with
  | none => simpa using List.find?_eq_none.mp h
  | some t =>
    obtain ⟨hr, -⟩ := List.find?_eq_some_iff_append.mp h
    refine iff_of_false nofun fun hall => ?_
    rw [hall t (List.mem_of_find?_eq_some h)] at hr
    cases hr

lemma judge_eq_error_iff {ts : List Term} {e : Error} :
    judge r ts = .error e ↔ ∃ before t after, ts = before ++ t :: after ∧
      (∀ u ∈ before, r.readable u = true) ∧ r.readable t = false ∧ e = complaint t := by
  unfold judge
  constructor
  · intro h
    cases hf : ts.find? fun t => !r.readable t with
    | none =>
      rw [hf] at h
      cases h
    | some t =>
      rw [hf] at h
      obtain ⟨hr, before, after, he, hb⟩ := List.find?_eq_some_iff_append.mp hf
      refine ⟨before, t, after, he, ?_, by simpa using hr, (Except.error.inj h).symm⟩
      simpa using hb
  · rintro ⟨before, t, after, rfl, hb, ht, rfl⟩
    have hf : (before ++ t :: after).find? (fun t => !r.readable t) = some t := by
      rw [List.find?_eq_some_iff_append]
      exact ⟨by simp [ht], before, after, rfl, by simpa using hb⟩
    rw [hf]

lemma judge_append (ts us : List Term) :
    judge r (ts ++ us) = (judge r ts).bind fun _ => judge r us := by
  unfold judge
  rw [List.find?_append]
  cases ts.find? fun t => !r.readable t <;> rfl

lemma judge_readable {t : Term} (ht : r.readable t = true) (ts : List Term) :
    judge r (t :: ts) = judge r ts := by
  unfold judge
  rw [List.find?_cons_of_neg (by simp [ht])]

lemma judge_unreadable {t : Term} (ht : r.readable t = false) (ts : List Term) :
    judge r (t :: ts) = .error (complaint t) := by
  unfold judge
  rw [List.find?_cons_of_pos (by simp [ht])]

end Complaints

section Verdict

def verdict {α : Type} (x : Except Error α) : Except Error Unit := x.map fun _ => ()

lemma verdict_map {α β : Type} (g : α → β) (x : Except Error α) :
    verdict (do return g (← x)) = verdict x := by
  cases x <;> rfl

lemma verdict_both {α β γ : Type} (g : α → β → γ) (x : Except Error α) (y : Except Error β) :
    verdict (do
      let a ← x
      return g a (← y)) = (verdict x).bind fun _ => verdict y := by
  cases x with
  | error e => rfl
  | ok a => exact verdict_map (g a) y

lemma verdict_eq_ok_iff {α : Type} {x : Except Error α} : verdict x = .ok () ↔ ∃ a, x = .ok a := by
  cases x <;> simp [verdict, Except.map]

lemma verdict_eq_error_iff {α : Type} {x : Except Error α} {e : Error} :
    verdict x = .error e ↔ x = .error e := by
  cases x <;> simp [verdict, Except.map]

mutual

lemma verdict_fromTerm : (t : Term) → verdict (fromTerm r t) = judge r t.visited
  | .list es none => by
    rw [fromTerm, visited, judge_readable rfl, ← verdict_fromTerms es]
    exact verdict_map _ _
  | .dictionary fs => by
    rw [fromTerm, visited, judge_readable rfl, ← verdict_fromFields fs]
    exact verdict_map _ _
  | .external id c k l => by
    rw [fromTerm]
    change _ = judge r [.external id c k l]
    cases hl : r.live? id with
    | none =>
      have hr : r.readable (.external id c k l) = false := by rw [Registry.readable, hl]; rfl
      rw [judge_unreadable hr, r.lookup_of_free id hl]
      rfl
    | some e =>
      have hr : r.readable (.external id c k l) = true := by rw [Registry.readable, hl]; rfl
      rw [judge_readable hr, r.lookup_of_live id hl]
      rfl
  | .list _ (some _) | .integer _ | .float _ | .string _ | .boolean _ | .var _ | .literal ..
  | .dictionaryPattern _ | .instancePattern .. | .call .. => rfl

lemma verdict_fromTerms : (ts : List Term) →
    verdict (fromTerms r ts) = judge r (visitedOfAll ts)
  | [] => rfl
  | t :: ts => by
    rw [fromTerms, visitedOfAll, judge_append, ← verdict_fromTerm t, ← verdict_fromTerms ts]
    exact verdict_both _ _ _

lemma verdict_fromFields : (fs : List (String × Term)) →
    verdict (fromFields r fs) = judge r (visitedOfFields fs)
  | [] => rfl
  | (k, t) :: fs => by
    rw [fromFields, visitedOfFields, judge_append, ← verdict_fromTerm t, ← verdict_fromFields fs]
    exact verdict_both (fun v fs => (k, v) :: fs) _ _

end

end Verdict

section Returning

variable [IdSource S] {d : Desk S Obj}

structure HostOwned (r : Registry Obj) (ts : List Term) : Prop where
  finite : ∀ x, .float x ∈ ts → x.isFinite = true
  owned : ∀ id c k l, .external id c k l ∈ ts → ∃ i, r.live? id = some ⟨i, .host⟩

lemma HostOwned.left {ts us : List Term} (h : HostOwned r (ts ++ us)) : HostOwned r ts :=
  ⟨fun x hx => h.finite x (List.mem_append_left _ hx),
    fun id c k l hi => h.owned id c k l (List.mem_append_left _ hi)⟩

lemma HostOwned.right {ts us : List Term} (h : HostOwned r (ts ++ us)) : HostOwned r us :=
  ⟨fun x hx => h.finite x (List.mem_append_right _ hx),
    fun id c k l hi => h.owned id c k l (List.mem_append_right _ hi)⟩

lemma HostOwned.tail {t : Term} {ts : List Term} (h : HostOwned r (t :: ts)) : HostOwned r ts :=
  ⟨fun x hx => h.finite x (List.mem_cons_of_mem _ hx),
    fun id c k l hi => h.owned id c k l (List.mem_cons_of_mem _ hi)⟩

lemma objectTerm_withId {id : UInt64} {i : Instance Obj}
    (h : d.registry.live? id = some ⟨i, .host⟩) : objectTerm (i.withId id) d =
      (.ok (.external id none none (some (classRepr d.registry (i.withId id)))), d) := by
  have hh : d.registry.holds id (i.withId id) = true := by
    rw [d.registry.holds_of_live id _ h]
    exact decide_eq_true rfl
  have hi : idOf (i.withId id) d = (.ok id, d) := by
    rw [idOf_of_carrying rfl, if_pos hh]
    rfl
  exact Failing.bind_ok hi

def Regains {α β : Type} (same : α → β) (a : α) (m : Marshaling S Obj α) (d : Desk S Obj) : Prop :=
  ∃ a', m d = (.ok a', d) ∧ same a' = same a

section Rules

variable {α β γ α' β' γ' : Type} {f : α → α'} {g : β → β'} {h : γ → γ'} {a : α} {b : β}
  {m : Marshaling S Obj α} {n : Marshaling S Obj β}

omit [IdSource S]

lemma regains_map {k : α → β} (hk : ∀ a', f a' = f a → g (k a') = g (k a))
    (hm : Regains f a m d) : Regains g (k a) (do return k (← m)) d := by
  obtain ⟨a', he, hs⟩ := hm
  exact ⟨k a', Failing.bind_ok he, hk a' hs⟩

lemma regains_both {k : α → β → γ}
    (hk : ∀ a' b', f a' = f a → g b' = g b → h (k a' b') = h (k a b))
    (hm : Regains f a m d) (hn : Regains g b n d) :
    Regains h (k a b) (do
      let a ← m
      return k a (← n)) d := by
  obtain ⟨a', he, hs⟩ := hm
  obtain ⟨b', he', hs'⟩ := hn
  exact ⟨k a' b', (Failing.bind_ok he).trans (Failing.bind_ok he'), hk a' b' hs hs'⟩

end Rules

mutual

lemma toTerm_regains : (t : Term) → HostOwned d.registry t.visited → ∀ v,
    fromTerm d.registry t = .ok v → Regains bare t (toTerm v) d
  | .integer _, _, _, rfl | .string _, _, _, rfl | .boolean _, _, _, rfl | .var _, _, _, rfl => by
    unfold toTerm
    exact ⟨_, rfl, rfl⟩
  | .float x, ho, _, rfl => by
    have hx : x.isFinite = true := ho.finite x List.mem_cons_self
    unfold toTerm
    rw [if_pos hx]
    exact ⟨_, rfl, rfl⟩
  | .list es none, ho, v, h => by
    rw [fromTerm] at h
    cases hs : fromTerms d.registry es with
    | error e =>
      rw [hs] at h
      cases h
    | ok vs =>
      rw [hs] at h
      cases h
      unfold toTerm
      have hb (ts : List Term) (h : bareAll ts = bareAll es) :
          bare (.list ts none) = bare (.list es none) := by
        rw [bare, bare, h]
      exact regains_map hb (toTerms_regains es ho.tail vs hs)
  | .dictionary fs, ho, v, h => by
    rw [fromTerm] at h
    cases hs : fromFields d.registry fs with
    | error e =>
      rw [hs] at h
      cases h
    | ok vs =>
      rw [hs] at h
      cases h
      unfold toTerm
      have hb (gs : List (String × Term)) (h : bareFields gs = bareFields fs) :
          bare (.dictionary gs) = bare (.dictionary fs) := by
        rw [bare, bare, h]
      exact regains_map hb (toFields_regains fs ho.tail vs hs)
  | .external id c k l, ho, v, h => by
    obtain ⟨i, hl⟩ := ho.owned id c k l List.mem_cons_self
    rw [fromTerm, d.registry.lookup_of_live id hl] at h
    cases h
    unfold toTerm
    exact ⟨_, objectTerm_withId hl, by rw [bare, bare]⟩
  | .list _ (some _), _, _, h | .literal .., _, _, h | .dictionaryPattern _, _, _, h
  | .instancePattern .., _, _, h | .call .., _, _, h => by cases h

lemma toTerms_regains : (ts : List Term) → HostOwned d.registry (visitedOfAll ts) → ∀ vs,
    fromTerms d.registry ts = .ok vs → Regains bareAll ts (toTerms vs) d
  | [], _, _, rfl => by
    unfold toTerms
    exact ⟨_, rfl, rfl⟩
  | t :: ts, ho, vs, h => by
    obtain ⟨v, ws, ht, hts, rfl⟩ := of_fromTerms_cons h
    unfold toTerms
    refine regains_both (fun u us hu hus => ?_) (toTerm_regains t ho.left v ht)
      (toTerms_regains ts ho.right ws hts)
    rw [bareAll, bareAll, hu, hus]

lemma toFields_regains : (fs : List (String × Term)) → HostOwned d.registry (visitedOfFields fs) →
    ∀ vs, fromFields d.registry fs = .ok vs → Regains bareFields fs (toFields vs) d
  | [], _, _, rfl => by
    unfold toFields
    exact ⟨_, rfl, rfl⟩
  | (k, t) :: fs, ho, vs, h => by
    obtain ⟨v, ws, ht, hfs, rfl⟩ := of_fromFields_cons h
    unfold toFields
    have hb (u : Term) (gs : List (String × Term)) (hu : bare u = bare t)
        (hgs : bareFields gs = bareFields fs) :
        bareFields ((k, u) :: gs) = bareFields ((k, t) :: fs) := by
      rw [bareFields, bareFields, hu, hgs]
    exact regains_both hb (toTerm_regains t ho.left v ht) (toFields_regains fs ho.right ws hfs)

end

end Returning

/-- A term is read exactly if each part that is visited can be; otherwise the first one that cannot
is complained of, a released object as a missing resource and anything else as having no host form.
What is read from finite numbers and objects of the host is marshaled to the same term again, but
for its diagnostics, and nothing is registered. -/
theorem readable_read_and_sent_back [IdSource S] (d : Desk S Obj) (t : Term) :
    ((∃ v, fromTerm d.registry t = .ok v) ↔ ∀ u ∈ t.visited, d.registry.readable u = true) ∧
    (∀ e, fromTerm d.registry t = .error e ↔ ∃ before u after, t.visited = before ++ u :: after ∧
      (∀ x ∈ before, d.registry.readable x = true) ∧ d.registry.readable u = false ∧
      e = complaint u) ∧
    (∀ u, (complaint u).category = if u.isExternal then "resource" else "marshal") ∧
    ∀ v, fromTerm d.registry t = .ok v → HostOwned d.registry t.visited →
      ∃ t', toTerm v d = (.ok t', d) ∧ t'.bare = t.bare := by
  refine ⟨?_, fun e => ?_, category_complaint, fun v h ho => toTerm_regains t ho v h⟩
  · rw [← verdict_eq_ok_iff, verdict_fromTerm, judge_eq_ok_iff]
  · rw [← verdict_eq_error_iff, verdict_fromTerm, judge_eq_error_iff]

section Samples

def crew : Term :=
  .list [.external 2 (some (.call "User" [.external 9 none none none] none)) (some "ada") none,
    .dictionary [("limit", .float 1.5), ("who", .var "x")]] none

lemma office_owns_crew : HostOwned office.registry crew.visited := by
  refine ⟨fun x hx => ?_, fun id c k l hi => ?_⟩
  · obtain rfl : x = 1.5 := by
      simpa [crew, visited, visitedOfAll, visitedOfFields] using hx
    decide
  · obtain ⟨rfl, -⟩ : id = 2 ∧ _ := by
      simpa [crew, visited, visitedOfAll, visitedOfFields] using hi
    exact ⟨ada, rfl⟩

theorem readable_read_and_sent_back_crew :
    HostOwned office.registry crew.visited ∧ ∃ v, fromTerm office.registry crew = .ok v ∧
      ∃ t', toTerm v office = (.ok t', office) ∧ t'.bare = crew.bare := by
  obtain ⟨hr, -, -, hs⟩ := readable_read_and_sent_back office crew
  obtain ⟨v, hv⟩ := hr.mpr (by decide)
  exact ⟨office_owns_crew, v, hv, hs v hv office_owns_crew⟩

example : fromTerm office.registry (.list [ofId 2, .list [ofId 9] none, .call "f" [] none] none) =
    .error (Registry.unknownInstance 9) := rfl

end Samples

end Marshal

end PolicyBridge
