import Mathlib.Tactic
import PolicyBridge.Marshal

namespace PolicyBridge

namespace Registry

variable {Obj : Type} (r : Registry Obj) (id id' : UInt64) (i : Instance Obj) (o : Owner)

def live? : Option (Entry Obj) := r.entries.find? id

@[simp] lemma live?_register :
    (r.register id i o).live? id' = if id' = id then some ⟨i, o⟩ else r.live? id' :=
  Dict.find?_insert _ _ _ _

@[simp] lemma live?_discard :
    (r.discard id).live? id' = if id' = id then none else r.live? id' :=
  Dict.find?_erase _ _ _

lemma registerWithId_of_live {e : Entry Obj} (h : r.live? id = some e) :
    r.registerWithId id i o = .error (alreadyRegistered id) := by
  have hc : r.entries.contains id = true := by
    rw [live?] at h
    simp [Dict.contains, h]
  simp [registerWithId, hc]

lemma registerWithId_of_free (h : r.live? id = none) :
    r.registerWithId id i o = .ok (r.register id i o) := by
  have hc : r.entries.contains id = false := Dict.contains_eq_false.mpr h
  simp [registerWithId, hc]

lemma of_registerWithId {r' : Registry Obj} (h : r.registerWithId id i o = .ok r') :
    r.live? id = none ∧ r' = r.register id i o := by
  cases he : r.live? id with
  | none => rw [registerWithId_of_free r id i o he] at h; exact ⟨rfl, (Except.ok.inj h).symm⟩
  | some e => rw [registerWithId_of_live r id i o he] at h; cases h

lemma release_of_live {e : Entry Obj} (h : r.live? id = some e) :
    r.release id = .ok (e.object, r.discard id) := by
  rw [live?] at h
  rw [release, h]
  rfl

lemma release_of_free (h : r.live? id = none) : r.release id = .error (notRegistered id) := by
  rw [live?] at h
  rw [release, h]

lemma lookup_of_live {e : Entry Obj} (h : r.live? id = some e) :
    r.lookup id = .ok (e.reference id) := by
  rw [live?] at h
  rw [lookup, h]

lemma lookup_of_free (h : r.live? id = none) : r.lookup id = .error (unknownInstance id) := by
  rw [live?] at h
  rw [lookup, h]

lemma of_lookup {i : Instance Obj} (h : r.lookup id = .ok i) :
    ∃ e, r.live? id = some e ∧ i = e.reference id := by
  cases he : r.live? id with
  | none =>
    rw [lookup_of_free r id he] at h
    cases h
  | some e =>
    rw [lookup_of_live r id he] at h
    exact ⟨e, rfl, (Except.ok.inj h).symm⟩

lemma holds_of_free (h : r.live? id = none) : r.holds id i = false := by
  rw [live?] at h
  rw [holds, h]

lemma holds_of_live {e : Entry Obj} (h : r.live? id = some e) :
    r.holds id i = e.object.sameObject i := by
  rw [live?] at h
  rw [holds, h]

end Registry

section References

variable {Obj : Type} (id : UInt64) (e : Entry Obj)

lemma Owner.eq_query_of_ne_host {o : Owner} (h : o ≠ .host) : o = .query := by
  cases o with
  | host => exact absurd rfl h
  | query => rfl

lemma Entry.reference_of_host (h : e.owner = .host) : e.reference id = e.object.withId id := by
  rw [reference, h]

lemma Entry.reference_of_query (h : e.owner = .query) : e.reference id = e.object := by
  rw [reference, h]

lemma Entry.identity_reference : (e.reference id).identity = e.object.identity := by
  unfold reference
  cases e.owner <;> rfl

end References

namespace Marshal

variable {Obj : Type} (r : Registry Obj) (ids : List UInt64)

@[simp] lemma live?_releaseAll (id : UInt64) :
    (releaseAll r ids).live? id = if id ∈ ids then none else r.live? id := by
  induction ids generalizing r with
  | nil => simp [releaseAll]
  | cons x ids ih =>
    have hh := ih (r.discard x)
    rw [releaseAll] at hh ⊢
    rw [List.foldl_cons, hh, Registry.live?_discard]
    by_cases hx : id = x <;> simp [hx]

lemma releaseAll_eq : ∃ entries, releaseAll r ids = { r with entries } := by
  induction ids generalizing r with
  | nil => exact ⟨r.entries, rfl⟩
  | cons x ids ih => exact ih (r.discard x)

lemma byName_releaseAll : (releaseAll r ids).byName = r.byName := by
  obtain ⟨entries, he⟩ := releaseAll_eq r ids
  rw [he]

end Marshal

end PolicyBridge
