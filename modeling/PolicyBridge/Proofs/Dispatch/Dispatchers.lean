import Mathlib.Tactic
import PolicyBridge.Proofs.Dispatch.Drawing

/-! Several queries and the host code over one registry, and what keeps the ids of each apart from
those of the others. -/

namespace PolicyBridge

variable {S Obj ι : Type}

/-- The queries by name, and the ids of the host's own registrations. -/
structure Dispatchers (ι S Obj : Type) where
  host : Host (Recorded S) Obj
  own : ι → Dispatcher Obj
  held : List UInt64

inductive Move (ι Obj : Type) where
  | dispatch (i : ι) (e : Event)
  | marshal (i : ι) (v : HostValue Obj)
  | close (i : ι)
  | register (x : Instance Obj)
  | registerWithId (id : UInt64) (x : Instance Obj)
  | registerClass (c : Class Obj)
  /-- As a session does it: what was found in the classes so far is forgotten. -/
  | enrollClass (c : Class Obj)
  | lookup (id : UInt64)
  | release (id : UInt64)

def Move.class? : Move ι Obj → Option (Class Obj)
  | .registerClass c | .enrollClass c => some c
  | _ => none

namespace Dispatchers

def registry (s : Dispatchers ι S Obj) : Registry Obj := s.host.registry

def record (s : Dispatchers ι S Obj) : List Exchange := s.host.source.record

structure Isolated (s : Dispatchers ι S Obj) : Prop where
  once : ∀ i, (s.own i).allocated.Nodup
  apart : ∀ i j, i ≠ j → (s.own i).allocated.Disjoint (s.own j).allocated
  queries : ∀ i, ∀ id ∈ (s.own i).allocated, ∃ x, s.registry.live? id = some ⟨x, .query⟩
  hosts : ∀ id ∈ s.held, ∃ x, s.registry.live? id = some ⟨x, .host⟩

structure Adds (i : ι) (ids : List UInt64) (s s' : Dispatchers ι S Obj) : Prop where
  frees : s.registry.Frees ids
  allocated : (s'.own i).allocated = (s.own i).allocated ++ ids
  others : ∀ j, j ≠ i → s'.own j = s.own j
  held : s'.held = s.held
  gains : s.registry.Gains ids s'.registry

structure Closes (i : ι) (s s' : Dispatchers ι S Obj) : Prop where
  own : s'.own i = .fresh
  others : ∀ j, j ≠ i → s'.own j = s.own j
  held : s'.held = s.held
  live : ∀ id, s'.registry.live? id =
    if id ∈ (s.own i).allocated then none else s.registry.live? id

structure Keeps (m : Move ι Obj) (s s' : Dispatchers ι S Obj) : Prop where
  queries : ∀ j, m ≠ .close j → ∀ id ∈ (s.own j).allocated,
    s'.registry.live? id = s.registry.live? id ∧ id ∈ (s'.own j).allocated
  hosts : ∀ id ∈ s.held, m ≠ .release id →
    s'.registry.live? id = s.registry.live? id ∧ id ∈ s'.held

variable {s s' : Dispatchers ι S Obj} {i : ι} {ids : List UInt64} {m : Move ι Obj}

section Effects

variable (hs : Isolated s)

include hs

lemma Isolated.not_mem_of_frees (h : s.registry.Frees ids) {j : ι} {id : UInt64}
    (hj : id ∈ (s.own j).allocated) : id ∉ ids := by
  intro hid
  obtain ⟨x, hx⟩ := hs.queries j id hj
  rw [h.2 id hid] at hx
  cases hx

lemma Isolated.not_mem_of_held (h : s.registry.Frees ids) {id : UInt64} (hh : id ∈ s.held) :
    id ∉ ids := by
  intro hid
  obtain ⟨x, hx⟩ := hs.hosts id hh
  rw [h.2 id hid] at hx
  cases hx

lemma Isolated.not_mem_of_ne {j k : ι} (hjk : j ≠ k) {id : UInt64} (hj : id ∈ (s.own j).allocated) :
    id ∉ (s.own k).allocated :=
  fun hk => hs.apart j k hjk hj hk

lemma Adds.keeps (h : Adds i ids s s') : Keeps m s s' := by
  refine ⟨fun j _ id hj => ⟨?_, ?_⟩, fun id hh _ => ⟨?_, ?_⟩⟩
  · exact h.gains.kept id (hs.not_mem_of_frees h.frees hj)
  · by_cases hji : j = i
    · subst hji
      rw [h.allocated]
      exact List.mem_append_left _ hj
    · rw [h.others j hji]
      exact hj
  · exact h.gains.kept id (hs.not_mem_of_held h.frees hh)
  · rw [h.held]
    exact hh

lemma Adds.isolated (h : Adds i ids s s') : Isolated s' := by
  have hmem {j : ι} {id : UInt64} (hj : id ∈ (s'.own j).allocated) :
      id ∈ (s.own j).allocated ∨ j = i ∧ id ∈ ids := by
    by_cases hji : j = i
    · subst hji
      rw [h.allocated] at hj
      exact (List.mem_append.mp hj).imp_right fun hx => ⟨rfl, hx⟩
    · rw [h.others j hji] at hj
      exact .inl hj
  refine ⟨fun j => ?_, fun j k hjk id hj hk => ?_, fun j id hj => ?_, fun id hh => ?_⟩
  · by_cases hji : j = i
    · subst hji
      rw [h.allocated]
      exact (hs.once j).append h.frees.1 fun id hj => hs.not_mem_of_frees h.frees hj
    · rw [h.others j hji]
      exact hs.once j
  · rcases hmem hj with hj | ⟨hji, hj⟩ <;> rcases hmem hk with hk | ⟨hki, hk⟩
    · exact hs.apart j k hjk hj hk
    · exact hs.not_mem_of_frees h.frees hj hk
    · exact hs.not_mem_of_frees h.frees hk hj
    · exact hjk (hji.trans hki.symm)
  · rcases hmem hj with hj | ⟨-, hj⟩
    · rw [h.gains.kept id (hs.not_mem_of_frees h.frees hj)]
      exact hs.queries j id hj
    · exact h.gains.gained id hj
  · rw [h.held] at hh
    rw [h.gains.kept id (hs.not_mem_of_held h.frees hh)]
    exact hs.hosts id hh

lemma Closes.keeps (h : Closes i s s') : Keeps (.close i) s s' := by
  refine ⟨fun j hm id hj => ?_, fun id hh _ => ?_⟩
  · have hji : j ≠ i := fun hji => hm (by rw [hji])
    rw [h.live, if_neg (hs.not_mem_of_ne hji hj), h.others j hji]
    exact ⟨rfl, hj⟩
  · have hi : id ∉ (s.own i).allocated := by
      intro hi
      obtain ⟨x, hx⟩ := hs.hosts id hh
      obtain ⟨y, hy⟩ := hs.queries i id hi
      rw [hx] at hy
      cases hy
    rw [h.live, if_neg hi, h.held]
    exact ⟨rfl, hh⟩

lemma keeps_of_host
    (hr : ∀ id, m = .release id → id ∈ s.held ∨ s.registry.live? id = none)
    (ho : s'.own = s.own) (hk : ∀ id ∈ s.held, m ≠ .release id → id ∈ s'.held)
    (hl : ∀ id, m ≠ .release id → s.registry.live? id ≠ none →
      s'.registry.live? id = s.registry.live? id)
    (hh : ∀ id ∈ s'.held, ∃ x, s'.registry.live? id = some ⟨x, .host⟩) :
    Isolated s' ∧ Keeps m s s' := by
  have hq (j : ι) (id : UInt64) (hid : id ∈ (s.own j).allocated) :
      s'.registry.live? id = s.registry.live? id := by
    obtain ⟨x, hx⟩ := hs.queries j id hid
    refine hl id (fun hrel => ?_) (by rw [hx]; exact nofun)
    rcases hr id hrel with hheld | hfree
    · obtain ⟨y, hy⟩ := hs.hosts id hheld
      rw [hx] at hy
      cases hy
    · rw [hx] at hfree
      cases hfree
  refine ⟨⟨?_, ?_, fun j id hid => ?_, hh⟩, fun j _ id hid => ⟨hq j id hid, ?_⟩,
    fun id hid hrel => ⟨hl id hrel ?_, hk id hid hrel⟩⟩
  · rw [ho]
    exact hs.once
  · rw [ho]
    exact hs.apart
  · rw [ho] at hid
    rw [hq j id hid]
    exact hs.queries j id hid
  · rw [ho]
    exact hid
  · obtain ⟨x, hx⟩ := hs.hosts id hid
    rw [hx]
    exact nofun

lemma keeps_of_register {id : UInt64} {x : Instance Obj} (hf : s.registry.live? id = none)
    (hr : ∀ id, m ≠ .release id) (ho : s'.own = s.own) (hh : s'.held = id :: s.held)
    (hl : s'.registry = s.registry.register id x .host) : Isolated s' ∧ Keeps m s s' := by
  have hne {y : UInt64} (hy : s.registry.live? y ≠ none) : y ≠ id := by
    rintro rfl
    exact hy hf
  refine keeps_of_host hs (fun y hy => absurd hy (hr y)) ho (fun y hy _ => ?_)
    (fun y _ hy => ?_) fun y hy => ?_
  · rw [hh]
    exact List.mem_cons_of_mem _ hy
  · rw [hl, Registry.live?_register, if_neg (hne hy)]
  · rw [hl, Registry.live?_register]
    split
    · exact ⟨x, rfl⟩
    · rw [hh] at hy
      exact hs.hosts y ((List.mem_cons.mp hy).resolve_left ‹_›)

lemma keeps_of_same (hr : ∀ id, m = .release id → s.registry.live? id = none)
    (ho : s'.own = s.own) (hh : s'.held = s.held) (hl : s'.registry.live? = s.registry.live?) :
    Isolated s' ∧ Keeps m s s' := by
  refine keeps_of_host hs (fun id hid => .inr (hr id hid)) ho (fun id hid _ => ?_)
    (fun id _ _ => congrFun hl id) fun id hid => ?_
  · rw [hh]
    exact hid
  · rw [hl]
    rw [hh] at hid
    exact hs.hosts id hid

lemma keeps_of_release {id : UInt64} (hid : id ∈ s.held) (ho : s'.own = s.own)
    (hh : s'.held = s.held.filter (· ≠ id)) (hl : s'.registry = s.registry.discard id) :
    Isolated s' ∧ Keeps (.release id) s s' := by
  have hne {y : UInt64} (hy : (.release id : Move ι Obj) ≠ .release y) : y ≠ id := by
    rintro rfl
    exact hy rfl
  refine keeps_of_host hs ?_ ho (fun y hy hrel => ?_) (fun y hrel _ => ?_) fun y hy => ?_
  · rintro y ⟨⟩
    exact .inl hid
  · rw [hh, List.mem_filter, decide_eq_true_eq]
    exact ⟨hy, hne hrel⟩
  · rw [hl, Registry.live?_discard, if_neg (hne hrel)]
  · rw [hh, List.mem_filter, decide_eq_true_eq] at hy
    rw [hl, Registry.live?_discard, if_neg hy.2]
    exact hs.hosts y hy.1

lemma Closes.isolated (h : Closes i s s') : Isolated s' := by
  have hk := h.keeps hs
  have hmem {j : ι} {id : UInt64} (hj : id ∈ (s'.own j).allocated) :
      j ≠ i ∧ id ∈ (s.own j).allocated := by
    by_cases hji : j = i
    · rw [hji, h.own] at hj
      cases hj
    · rw [h.others j hji] at hj
      exact ⟨hji, hj⟩
  have hne {j : ι} (hji : j ≠ i) : (.close i : Move ι Obj) ≠ .close j := by
    rintro ⟨⟩
    exact hji rfl
  refine ⟨fun j => ?_, fun j k hjk id hj hk => ?_, fun j id hj => ?_, fun id hh => ?_⟩
  · by_cases hji : j = i
    · rw [hji, h.own]
      exact List.nodup_nil
    · rw [h.others j hji]
      exact hs.once j
  · exact hs.apart j k hjk (hmem hj).2 (hmem hk).2
  · obtain ⟨hji, hj⟩ := hmem hj
    rw [(hk.queries j (hne hji) id hj).1]
    exact hs.queries j id hj
  · rw [h.held] at hh
    rw [(hk.hosts id hh nofun).1]
    exact hs.hosts id hh

end Effects

end Dispatchers

end PolicyBridge
