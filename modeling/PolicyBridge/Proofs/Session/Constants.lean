import Mathlib.Tactic
import PolicyBridge.Proofs.Session.Keeping
import PolicyBridge.Proofs.Taped

namespace PolicyBridge

variable {E Q Obj : Type}

namespace Ledger

/-- Every id in the term of a constant is held for the constant, or the value carried it. -/
def Covered (l : Ledger E Q Obj) : Prop :=
  ∀ name b, l.bound.find? name = some b → ∀ id ∈ b.term.ids,
    id ∈ l.held (.constant name) ∨ Marshal.Carried b.parts id

lemma Steps.covered {l l' : Ledger E Q Obj} (hs : Steps l l') (hc : Covered l) : Covered l' := by
  intro name b hb id hid
  cases hs with
  | still hh hbound _ =>
    rw [hbound] at hb
    rw [hh]
    exact hc name b hb id hid
  | turns h hne ht hbound =>
    rw [hbound] at hb
    rw [ht.others _ fun h => hne name h.symm]
    exact hc name b hb id hid
  | binds name' b' ht hbound hcov =>
    rw [hbound, Dict.find?_insert] at hb
    split at hb
    · subst name
      cases hb
      exact hcov id hid
    · have hne : Holder.constant name ≠ .constant name' :=
        fun h => ‹name ≠ name'› (Holder.constant.inj h)
      rw [ht.others _ hne]
      exact hc name b hb id hid

variable [Engine E Q] [ClassObject Obj]

inductive LawfulRun : Ledger E Q Obj → List (Request Obj) → Prop
  | nil {l : Ledger E Q Obj} : LawfulRun l []
  | cons {l : Ledger E Q Obj} {r : Request Obj} {rs : List (Request Obj)} :
      Lawful l r → LawfulRun (l.step r) rs → LawfulRun l (r :: rs)

lemma run_sound {l : Ledger E Q Obj} {rs : List (Request Obj)} (hl : LawfulRun l rs) (hk : Kept l)
    (hc : Covered l) : Kept (l.run rs) ∧ Covered (l.run rs) := by
  induction hl with
  | nil => exact ⟨hk, hc⟩
  | cons hr _ ih =>
    have hs := step_steps hk hr
    exact ih (hs.kept hk) (hs.covered hc)

omit [Engine E Q] [ClassObject Obj] in
lemma start_kept (engine : E) (config : Config) : Kept (start engine config : Ledger E Q Obj) := by
  have hn (h : Holder) : (start engine config : Ledger E Q Obj).held h = [] := by
    cases h <;> rfl
  exact ⟨fun h id hid => by simp [hn] at hid, fun h h' _ id hid => by simp [hn] at hid⟩

/-- However a session is used, if the host releases nothing and no id is drawn that is live: the ids
of the host, of each constant and of each query are live and apart. An id in the term of a constant
is live, unless the value carried it and the host did not register it itself. -/
theorem bound_ids_live (engine : E) (config : Config) (rs : List (Request Obj))
    (hl : LawfulRun (start engine config) rs) :
    let l := (start engine config : Ledger E Q Obj).run rs
    Kept l ∧ ∀ name b, l.bound.find? name = some b → ∀ id ∈ b.term.ids,
      l.registry.live? id ≠ none ∨ Marshal.Carried b.parts id ∧ id ∉ l.own := by
  intro l
  have hcov : Covered (start engine config : Ledger E Q Obj) := nofun
  obtain ⟨hk, hc⟩ := run_sound hl (start_kept engine config) hcov
  refine ⟨hk, fun name b hb id hid => ?_⟩
  by_cases hown : id ∈ l.own
  · exact .inl (hk.live .host id hown)
  · exact (hc name b hb id hid).imp (hk.live (.constant name) id) fun h => ⟨h, hown⟩

section Samples

instance standIn : ClassObject Unit := ⟨(), ⟨"Class"⟩⟩

def user : Class Unit := .forType "User" ⟨"Alpha"⟩

def silent : Tape := ⟨⟨1⟩, []⟩

def opened : Ledger Tape Unit Unit := start silent .standard

lemma lawful_of_drawn {l : Ledger Tape Unit Unit} {r : Request Unit} (ids : List UInt64)
    (hk : ∀ id, r ≠ .releaseInstance id)
    (hr : (l.step r).record.drop l.record.length = ids.map .drew)
    (hf : ∀ id ∈ ids, l.registry.live? id = none) : Lawful l r := by
  refine ⟨hk, fun id hid => ?_⟩
  rw [hr] at hid
  obtain ⟨id', hid', ⟨⟩⟩ := List.mem_map.mp hid
  exact hf _ hid'

def ada : Instance Unit := ⟨(), ⟨"Alpha"⟩, .brought 0, none⟩

def staff : HostValue Unit := .list [.object (ada.withId 2), .object ⟨(), ⟨"Alpha"⟩, .brought 1, none⟩]

def hiring : List (Request Unit) :=
  [.registerClass user, .registerInstance ada, .registerConstant "staff" staff, .registerClass user]

lemma staff_bound : (opened.run hiring).bound.find? "staff" =
    some ⟨.list [.external 2 none none (some "User"), .external 3 none none (some "User")] none,
      staff.leaves⟩ := rfl

theorem bound_ids_live_staff :
    LawfulRun opened hiring ∧ ∃ b, (opened.run hiring).bound.find? "staff" = some b ∧
      b.term.ids = [2, 3] ∧ ∀ id ∈ b.term.ids, (opened.run hiring).registry.live? id ≠ none := by
  have hl : LawfulRun opened hiring := by
    refine .cons (lawful_of_drawn [1] nofun rfl ?_)
      (.cons (lawful_of_drawn [2] nofun rfl ?_)
        (.cons (lawful_of_drawn [3] nofun rfl ?_)
          (.cons (lawful_of_drawn [4] nofun rfl ?_) .nil)))
    all_goals
      intro id hid
      obtain rfl := List.mem_singleton.mp hid
      rfl
  refine ⟨hl, _, staff_bound, rfl, fun id hid => ?_⟩
  have hx := (bound_ids_live silent .standard hiring hl).2 "staff" _ staff_bound id hid
  refine hx.resolve_right ?_
  rintro ⟨⟨i, hi, hc⟩, hown⟩
  have hparts : i = ada.withId 2 ∨ i = ⟨(), ⟨"Alpha"⟩, .brought 1, none⟩ := by
    simpa [staff, HostValue.leaves, HostValue.leavesOfItems] using hi
  obtain rfl | rfl := hparts
  · cases hc
    exact hown List.mem_cons_self
  · cases hc

def classObject : Instance Unit := ⟨(), ⟨"Class"⟩, .built 0, some 1⟩

def renewal : List (Request Unit) :=
  [.registerClass user, .lookUp 1, .registerConstant "owner" (.object classObject),
    .registerClass user]

/-- A constant bound to what stands for a class loses it when the class is registered anew. -/
theorem renewed_class_dangles :
    LawfulRun opened renewal ∧ (opened.step (.registerClass user)).session.instance? 1 =
      .ok classObject ∧
    ¬ ∀ name b, (opened.run renewal).bound.find? name = some b → ∀ id ∈ b.term.ids,
      (opened.run renewal).registry.live? id ≠ none := by
  refine ⟨?_, rfl, fun h => h "owner" _ rfl 1 List.mem_cons_self rfl⟩
  refine .cons (lawful_of_drawn [1] nofun rfl ?_)
    (.cons (lawful_of_drawn [] nofun rfl nofun)
      (.cons (lawful_of_drawn [] nofun rfl nofun)
        (.cons (lawful_of_drawn [2] nofun rfl ?_) .nil)))
  all_goals
    intro id hid
    obtain rfl := List.mem_singleton.mp hid
    rfl

end Samples

end Ledger

end PolicyBridge
