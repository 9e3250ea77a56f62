import Mathlib.Tactic
import PolicyBridge.Proofs.Dispatch.Viewing
import PolicyBridge.Proofs.Recency

/-! Remembered members. What is remembered for a registered class is what a walk along its order
finds, so that a host with a memory answers as one without. -/

namespace PolicyBridge

variable {S Obj : Type}

namespace Registry

def ofClasses (classes : Dict String (Class Obj)) : Registry Obj := ⟨classes, [], [], 0⟩

variable {r r' : Registry Obj} {member : String} {kind : MemberKind} {order : List String}

lemma findMember?_congr (h : r.byName = r'.byName) :
    r.findMember? member kind order = r'.findMember? member kind order := by
  induction order with
  | nil => rfl
  | cons name order ih =>
    have hc : r.class? name = r'.class? name := by rw [class?, class?, h]
    rw [findMember?, findMember?, hc, ih]

lemma findMember?_ofClasses (r : Registry Obj) :
    (ofClasses r.byName).findMember? member kind order = r.findMember? member kind order :=
  findMember?_congr rfl

def Named (r : Registry Obj) : Prop := ∀ n c, r.class? n = some c → c.name = n

lemma class?_of_findMember? {owner : Class Obj} {found : MemberKind} (hr : r.Named)
    (h : r.findMember? member kind order = some (owner, found)) :
    r.class? owner.name = some owner := by
  induction order with
  | nil => cases h
  | cons name order ih =>
    rw [findMember?] at h
    split at h
    · exact ih h
    · rename_i c hc
      split at h
      · cases h
        rwa [hr _ _ hc]
      · exact ih h

lemma class?_of_classFor? {i : Instance Obj} {c : Class Obj} (hr : r.Named)
    (h : r.classFor? i = some c) : r.class? c.name = some c := by
  obtain ⟨n, -, hc⟩ := Option.bind_eq_some_iff.mp h
  rw [hr n c hc]
  exact hc

end Registry

/-- What is remembered is what is found. -/
structure Remembers (classes : Dict String (Class Obj)) (cache : Option Cache) : Prop where
  named : (Registry.ofClasses classes).Named
  sound : ∀ m, cache = some m → ∀ e ∈ m.entries, ∀ c, classes.find? e.1.className = some c →
    ∃ owner, (Registry.ofClasses classes).findMember? e.1.member e.1.kind c.order =
      some (owner, e.2.kind) ∧ owner.name = e.2.className

namespace View

def forgetting [IdSource S] : View S S Obj where
  source := id
  cache _ := none
  good := Remembers
  next _ := rfl

end View

namespace Dispatching

def place (r : Registry Obj) (c : Class Obj) (member : String) (kind : MemberKind) :
    Except Error (Class Obj × MemberKind) :=
  match r.findMember? member kind c.order with
  | some found => .ok found
  | none => .error (noMember c.name (MemberKind.word kind) member)

variable {w : Work S Obj} {c : Class Obj} {member : String} {kind : MemberKind}

def withCache (cache : Option Cache) (w : Work S Obj) : Work S Obj :=
  { w with host := { w.host with cache := cache } }

@[simp] lemma registry_withCache (cache : Option Cache) (w : Work S Obj) :
    (withCache cache w).registry = w.registry := rfl

lemma resolve_of_remembered {found : Class Obj × MemberKind} {w' : Work S Obj}
    (h : remembered ⟨c.name, member, kind⟩ w = (.ok (some found), w')) :
    resolve c member kind w = (.ok found, w') :=
  Failing.bind_ok h

lemma resolve_of_forgotten {w' : Work S Obj}
    (h : remembered ⟨c.name, member, kind⟩ w = (.ok none, w')) :
    resolve c member kind w = (place w'.registry c member kind,
      match w'.registry.findMember? member kind c.order with
      | some (owner, found) => withCache (w'.host.cache.map fun m =>
          m.put ⟨c.name, member, kind⟩ ⟨owner.name, found⟩) w'
      | none => w') := by
  refine (Failing.bind_ok h).trans ((Failing.bind_ok rfl).trans ?_)
  rw [place]
  cases w'.registry.findMember? member kind c.order <;> rfl

lemma remembered_of_no_cache {k : Lookup} (h : w.host.cache = none) :
    remembered k w = (.ok none, w) := by
  rw [remembered, h]

lemma remembered_of_cache {k : Lookup} {m : Cache} (h : w.host.cache = some m) :
    remembered k w = (.ok ((m.get k).1.bind fun f =>
      (w.registry.class? f.className).map fun c => (c, f.kind)), withCache (some (m.get k).2) w) := by
  rw [remembered, h]
  rfl

lemma resolve_of_no_cache (h : w.host.cache = none) :
    resolve c member kind w = (place w.registry c member kind, w) := by
  rw [resolve_of_forgotten (remembered_of_no_cache h), h]
  cases w.registry.findMember? member kind c.order with
  | none => rfl
  | some x =>
    change (_, withCache none w) = _
    rw [← h]
    rfl

def noting (k : Lookup) (m : Cache) : Option (Class Obj × MemberKind) → Cache
  | some (owner, found) => m.put k ⟨owner.name, found⟩
  | none => m

lemma mem_noting {k : Lookup} {m : Cache} {e : Lookup × Resolution} :
    {x : Option (Class Obj × MemberKind)} → e ∈ (noting k m x).entries →
      e ∈ m.entries ∨ ∃ owner found, x = some (owner, found) ∧ e = (k, ⟨owner.name, found⟩)
  | none, h => .inl h
  | some (owner, found), h => (Cache.mem_put h).symm.imp_right fun he => ⟨owner, found, rfl, he⟩

lemma resolve_cases {m : Cache} (h : w.host.cache = some m) :
    (∃ x owner, m.find? ⟨c.name, member, kind⟩ = some x ∧
        w.registry.class? x.className = some owner ∧
        resolve c member kind w = (.ok (owner, x.kind),
          withCache (some (m.get ⟨c.name, member, kind⟩).2) w)) ∨
      (∀ x, m.find? ⟨c.name, member, kind⟩ = some x → w.registry.class? x.className = none) ∧
        resolve c member kind w = (place w.registry c member kind,
          withCache (some (noting ⟨c.name, member, kind⟩ (m.get ⟨c.name, member, kind⟩).2
            (w.registry.findMember? member kind c.order))) w) := by
  have hr := remembered_of_cache (k := ⟨c.name, member, kind⟩) h
  rw [Cache.get_fst] at hr
  cases hx : (m.find? ⟨c.name, member, kind⟩).bind fun f =>
      (w.registry.class? f.className).map fun c => (c, f.kind) with
  | some found =>
    obtain ⟨x, hm, hx'⟩ := Option.bind_eq_some_iff.mp hx
    obtain ⟨owner, ho, rfl⟩ := Option.map_eq_some_iff.mp hx'
    rw [hx] at hr
    exact .inl ⟨x, owner, hm, ho, resolve_of_remembered hr⟩
  | none =>
    rw [hx] at hr
    refine .inr ⟨fun x hm => ?_, ?_⟩
    · rw [hm] at hx
      exact Option.map_eq_none_iff.mp hx
    · rw [resolve_of_forgotten hr, registry_withCache]
      cases w.registry.findMember? member kind c.order <;> rfl

lemma resolve_leaves (c : Class Obj) (member : String) (kind : MemberKind) (w : Work S Obj) :
    ∃ cache, (resolve c member kind w).2 = withCache cache w := by
  cases h : w.host.cache with
  | none =>
    refine ⟨none, ?_⟩
    rw [resolve_of_no_cache h, ← h]
    rfl
  | some m =>
    rcases resolve_cases h with ⟨x, owner, -, -, heq⟩ | ⟨-, heq⟩ <;> rw [heq] <;> exact ⟨_, rfl⟩

lemma resolve_of_agreeing {m : Cache} (h : w.host.cache = some m) (hr : w.registry.Named)
    (hm : ∀ x, m.find? ⟨c.name, member, kind⟩ = some x → ∃ owner,
      w.registry.findMember? member kind c.order = some (owner, x.kind) ∧
        owner.name = x.className) :
    ∃ m', (∀ e ∈ m'.entries, e ∈ m.entries ∨ ∃ owner found,
        w.registry.findMember? member kind c.order = some (owner, found) ∧
          e = (⟨c.name, member, kind⟩, ⟨owner.name, found⟩)) ∧
      resolve c member kind w = (place w.registry c member kind, withCache (some m') w) := by
  rcases resolve_cases h with ⟨x, owner, hx, hc, heq⟩ | ⟨-, heq⟩
  · obtain ⟨owner', hf, hn⟩ := hm x hx
    -- Only the owner's name is remembered; it still stands for the class that the walk ends at.
    have hc' := Registry.class?_of_findMember? hr hf
    rw [hn, hc] at hc'
    obtain rfl := Option.some.inj hc'
    have hp : place w.registry c member kind = .ok (owner, x.kind) := by rw [place, hf]
    rw [hp]
    exact ⟨_, fun e he => .inl (Cache.mem_get he), heq⟩
  · exact ⟨_, fun e he => (mem_noting he).imp_left Cache.mem_get, heq⟩

lemma resolve_eq (hw : Remembers w.registry.byName w.host.cache)
    (hc : w.registry.class? c.name = some c) :
    ∃ cache, Remembers w.registry.byName cache ∧
      resolve c member kind w = (place w.registry c member kind, withCache cache w) := by
  cases h : w.host.cache with
  | none =>
    rw [h] at hw
    refine ⟨none, hw, ?_⟩
    rw [resolve_of_no_cache h, ← h]
    rfl
  | some m =>
    rw [h] at hw
    have hm : ∀ x, m.find? ⟨c.name, member, kind⟩ = some x → ∃ owner,
        w.registry.findMember? member kind c.order = some (owner, x.kind) ∧
          owner.name = x.className := by
      intro x hx
      obtain ⟨owner, ho, hn⟩ := hw.sound m rfl _ (Cache.mem_of_find? hx) c hc
      exact ⟨owner, (Registry.findMember?_ofClasses w.registry).symm.trans ho, hn⟩
    obtain ⟨m', hm', hr⟩ := resolve_of_agreeing h hw.named hm
    refine ⟨some m', ⟨hw.named, ?_⟩, hr⟩
    rintro _ ⟨⟩ e he c' hc'
    rcases hm' e he with he | ⟨owner, found, hf, rfl⟩
    · exact hw.sound m rfl e he c' hc'
    · obtain rfl : c = c' := Option.some.inj (hc.symm.trans hc')
      exact ⟨owner, (Registry.findMember?_ofClasses w.registry).trans hf, rfl⟩

end Dispatching

namespace View

lemma forgetting_resolves [IdSource S] : (forgetting : View S S Obj).Resolves := by
  intro c member kind w i hw hi
  obtain ⟨cache, hcache, hr⟩ : ∃ cache, _ ∧ Dispatching.resolve c member kind w = _ :=
    Dispatching.resolve_eq hw (Registry.class?_of_classFor? hw.named hi)
  refine ⟨?_, by rw [hr]; exact hcache⟩
  rw [hr, Dispatching.resolve_of_no_cache rfl]
  rfl

end View

end PolicyBridge
