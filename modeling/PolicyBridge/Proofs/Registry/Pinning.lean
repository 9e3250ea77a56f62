import Mathlib.Tactic
import PolicyBridge.Proofs.Registry.Counting

/-! The ids that references carry. A reference is given its id by a lookup of an object that the host
owns, and the object is held under that id until it is released. -/

namespace PolicyBridge

variable {S Obj : Type}

namespace Work

variable [IdSource S] {w : Work S Obj} {c : Registering Obj} {id : UInt64} {e : Entry Obj}

lemma entry_registering (h : (w.registering c).registry.live? id = some e) :
    w.registry.live? id = some e ∨ c.given? = some e.object ∨ e.object.id = none := by
  cases w.registering_alters c with
  | adds hl hg _ =>
    rw [hl] at h
    split at h
    · cases h
      exact .inr hg
    · exact .inl h
  | removes ids hl _ =>
    rw [hl] at h
    split at h
    · cases h
    · exact .inl h

lemma kept_registering (h : w.registry.live? id = some e)
    (hd : c.draws → w.registry.live? (IdSource.next w.host.source).1 = none)
    (hr : c ≠ .release id) (hc : c ≠ .close) :
    (w.registering c).registry.live? id = some e := by
  cases w.registering_alters c with
  | @adds id' i o hl _ hid =>
    have hf : w.registry.live? id' = none := by
      rcases hid with ⟨hd', rfl⟩ | ⟨-, hf⟩
      · exact hd hd'
      · exact hf
    have hne : id ≠ id' := by
      rintro rfl
      rw [h] at hf
      cases hf
    rw [hl, if_neg hne, h]
  | removes ids hl hc' =>
    have hid : id ∉ ids := fun hid => (hc' id hid).elim hr hc
    rw [hl, if_neg hid, h]

end Work

namespace Registering

section Runs

variable [IdSource S]

def reached (source : S) (cs : List (Registering Obj)) : Work S Obj :=
  cs.foldl Work.registering ⟨⟨source, .empty, none⟩, .fresh⟩

def GaveOut (source : S) (cs : List (Registering Obj)) (i : Instance Obj) : Prop :=
  ∃ earlier id later, cs = earlier ++ .lookup id :: later ∧
    (reached source earlier).registry.lookup id = .ok i

/-- No id is drawn that is live, and no reference is registered with an id but one that was given
out. -/
inductive Lawful (source : S) : List (Registering Obj) → Prop
  | nil : Lawful source []
  | concat {cs : List (Registering Obj)} {c : Registering Obj} : Lawful source cs →
      (c.draws → (reached source cs).registry.live?
        (IdSource.next (reached source cs).host.source).1 = none) →
        (∀ i, c.given? = some i → i.id ≠ none → GaveOut source cs i) → Lawful source (cs ++ [c])

/-- So many commands ago the object was looked up under the id, where the host owned it. -/
def Pinned (source : S) (cs : List (Registering Obj)) (id : UInt64) (i : Instance Obj)
    (since : List (Registering Obj)) : Prop :=
  ∃ earlier x, cs = earlier ++ .lookup id :: since ∧
    (reached source earlier).registry.live? id = some ⟨x, .host⟩ ∧ x.sameObject i = true

variable {source : S} {cs since : List (Registering Obj)} {c : Registering Obj} {id : UInt64}
  {i : Instance Obj}

lemma reached_concat (source : S) (cs : List (Registering Obj)) (c : Registering Obj) :
    reached source (cs ++ [c]) = (reached source cs).registering c :=
  List.foldl_concat _ _ _ _

lemma Pinned.concat (h : Pinned source cs id i since) (c : Registering Obj) :
    Pinned source (cs ++ [c]) id i (since ++ [c]) := by
  obtain ⟨earlier, x, rfl, hx⟩ := h
  exact ⟨earlier, x, by simp, hx⟩

lemma GaveOut.of_concat (h : GaveOut source (cs ++ [c]) i) : GaveOut source cs i ∨
    ∃ id, c = .lookup id ∧ (reached source cs).registry.lookup id = .ok i := by
  obtain ⟨earlier, id, later, he, hi⟩ := h
  rcases List.eq_nil_or_concat later with rfl | ⟨later, x, rfl⟩
  · obtain ⟨rfl, hc⟩ := List.append_inj' he rfl
    exact .inr ⟨id, (List.cons.inj hc).1, hi⟩
  · have he : cs ++ [c] = (earlier ++ .lookup id :: later) ++ [x] := by simpa using he
    exact .inl ⟨earlier, id, later, (List.append_inj' he rfl).1, hi⟩

structure Traced (source : S) (cs : List (Registering Obj)) : Prop where
  stored : ∀ id e, (reached source cs).registry.live? id = some e → ∀ c, e.object.id = some c →
    ∃ since, Pinned source cs c e.object since
  given : ∀ i, GaveOut source cs i → ∀ c, i.id = some c → ∃ since, Pinned source cs c i since

lemma Traced.lookup (h : Traced source cs) (hi : (reached source cs).registry.lookup id = .ok i)
    {c : UInt64} (hc : i.id = some c) :
    ∃ since, Pinned source (cs ++ [.lookup id]) c i since := by
  obtain ⟨⟨x, o⟩, hl, rfl⟩ := Registry.of_lookup _ _ hi
  cases o with
  | host =>
    obtain rfl : id = c := Option.some.inj hc
    exact ⟨[], cs, x, rfl, hl, decide_eq_true rfl⟩
  | query =>
    obtain ⟨since, hp⟩ := h.stored id _ hl c hc
    exact ⟨_, hp.concat _⟩

lemma Lawful.traced (h : Lawful source cs) : Traced source cs := by
  induction h with
  | nil => exact ⟨nofun, fun i ⟨earlier, id, later, he, _⟩ => by simp at he⟩
  | @concat cs c _ _ hg ih =>
    refine ⟨fun id e he k hk => ?_, fun i hi k hk => ?_⟩
    · rw [reached_concat] at he
      rcases Work.entry_registering he with he | hc | hn
      · obtain ⟨since, hp⟩ := ih.stored id e he k hk
        exact ⟨_, hp.concat c⟩
      · obtain ⟨since, hp⟩ := ih.given _ (hg _ hc (by rw [hk]; nofun)) k hk
        exact ⟨_, hp.concat c⟩
      · rw [hn] at hk
        cases hk
    · rcases hi.of_concat with hg | ⟨id, rfl, hl⟩
      · obtain ⟨since, hp⟩ := ih.given i hg k hk
        exact ⟨_, hp.concat c⟩
      · exact ih.lookup hl hk

lemma Lawful.of_concat (h : Lawful source (cs ++ [c])) : Lawful source cs ∧
    (c.draws → (reached source cs).registry.live?
      (IdSource.next (reached source cs).host.source).1 = none) := by
  generalize he : cs ++ [c] = ds at h
  cases h with
  | nil => simp at he
  | concat hl hd _ =>
    obtain ⟨rfl, hc⟩ := List.append_inj' he rfl
    obtain rfl := (List.cons.inj hc).1
    exact ⟨hl, hd⟩

lemma Pinned.holds (h : Pinned source cs id i since) (hl : Lawful source cs)
    (hr : .release id ∉ since) (hc : .close ∉ since) :
    (reached source cs).registry.holds id i = true := by
  obtain ⟨earlier, x, rfl, hx, hs⟩ := h
  have hk : (reached source (earlier ++ .lookup id :: since)).registry.live? id =
      some ⟨x, .host⟩ := by
    induction since using List.reverseRecOn with
    | nil =>
      rw [reached_concat]
      exact hx
    | append_singleton since c ih =>
      rw [List.mem_append, List.mem_singleton, not_or] at hr hc
      have he : earlier ++ .lookup id :: (since ++ [c]) =
          (earlier ++ .lookup id :: since) ++ [c] := by simp
      rw [he] at hl ⊢
      obtain ⟨hl, hd⟩ := hl.of_concat
      rw [reached_concat]
      exact Work.kept_registering (ih hr.1 hc.1 hl) hd (Ne.symm hr.2) (Ne.symm hc.2)
  rw [Registry.holds_of_live _ _ _ hk]
  exact hs

end Runs

end Registering

end PolicyBridge
