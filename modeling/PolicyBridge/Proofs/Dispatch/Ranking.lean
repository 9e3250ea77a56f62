import Mathlib.Tactic
import PolicyBridge.Proofs.Dispatch.Hosting
import PolicyBridge.Proofs.Dispatch.Outdating

namespace PolicyBridge

variable {S Obj ι : Type} [IdSource S]

namespace Work

def Says (w : Work S Obj) (question : UInt64 → Event) (b : Bool) : Prop :=
  ∀ callId, Dispatching.dispatch (question callId) w = (.ok (Dispatching.boolean callId b), w)

/-- How the questions on an object and the name of its class are answered. -/
structure Ranks (w : Work S Obj) (id : UInt64) (name : String) (isa : String → Bool)
    (first : String → String → Bool) : Prop where
  ofObject : ∀ constructor repr classRepr tag,
    w.Says (.externalIsa · (.external id constructor repr classRepr) tag) (isa tag)
  ofClass : ∀ tag, w.Says (.externalIsSubclass · name tag) (isa tag)
  ofPair : ∀ left right, w.Says (.externalIsSubSpecializer · id left right) (first left right)

end Work

structure RanksFrom (name : String) (isa : String → Bool) (first : String → String → Bool) :
    Prop where
  within : ∀ left right, first left right = true → isa left = true ∧ isa right = true
  total : IsStrictTotalOrder {tag // isa tag = true} fun left right => first left right = true
  least : isa name = true ∧ ∀ tag, tag ≠ name → isa tag = true → first name tag = true

lemma Class.LeadsOrder.ranksFrom {c : Class Obj} (h : c.LeadsOrder) :
    RanksFrom c.name c.isSubclassOf c.outranks := by
  refine ⟨fun l r => isSubclassOf_of_outranks, ?_, isSubclassOf_name h, fun tag hn ht => ?_⟩
  · refine { trichotomous := ?_, irrefl := ?_, trans := ?_ }
    · intro l r hl hr
      rcases outranks_trichotomous l.2 r.2 with hlt | he | hlt
      · exact absurd hlt hl
      · exact Subtype.ext he
      · exact absurd hlt hr
    · exact fun tag => outranks_irrefl c tag
    · exact fun l m r => outranks_trans
  · exact name_outranks h ht hn

namespace Registry.Ranked

variable {w : Work S Obj} {id : UInt64} {x : Entry Obj} {c : Class Obj}

lemma ranks (h : w.registry.Ranked) (hx : w.registry.live? id = some x)
    (hc : w.registry.classFor? x.object = some c) :
    w.Ranks id c.name c.isSubclassOf c.outranks := by
  have hn := (h.toCoherent.sound hc).1
  refine ⟨fun constructor repr classRepr tag callId => ?_, fun tag callId => ?_,
    fun left right callId => ?_⟩
  · refine (Dispatching.answered_bool callId (·.isa _ tag) w).trans ?_
    rw [isa_of_live hx hc]
    rfl
  · have hd : Dispatching.dispatch (.externalIsSubclass callId c.name tag) w =
        (.ok (Dispatching.boolean callId (w.registry.isSubclass c.name tag)), w) := rfl
    rw [hd, isSubclass_of_named hn (h.leads _ _ hn)]
  · refine (Dispatching.answered_bool callId (·.isSubSpecializer id left right) w).trans ?_
    rw [isSubSpecializer_of_live hx hc]
    rfl

end Registry.Ranked

namespace Dispatchers

variable [DecidableEq ι] {s : Dispatchers ι S Obj} {m : Move ι Obj} {ms : List (Move ι Obj)}

def Built (m : Move ι Obj) : Prop := ∀ c, m.class? = some c → ∃ b : Blueprint Obj, b.build = c

lemma move_ranked (h : s.registry.Ranked) (hm : Built m) : (s.move m).registry.Ranked := by
  rcases move_classes s m with ⟨c, hc, hs⟩ | hs
  · obtain ⟨b, rfl⟩ := hm c hc
    rw [hs]
    exact h.registerClass b.build_leadsOrder
  · exact h.of_same hs

lemma run_ranked (h : s.registry.Ranked) (hms : ∀ m ∈ ms, Built m) : (s.run ms).registry.Ranked := by
  induction ms generalizing s with
  | nil => exact h
  | cons m ms ih =>
    obtain ⟨hm, hms⟩ := List.forall_mem_cons.mp hms
    exact ih (move_ranked h hm) hms

/-- However classes that were built are registered in turn, and whatever else is done, all three
questions on the class of a live object agree: what is asked of the object and of the name of its
class has the same answer, and the classes it is of are ranked by the third question, its own class
first. This is so for whatever objects stand beside these classes. -/
theorem class_questions_agree {T : Type} [IdSource T] (h : Host S Obj) (hr : h.registry = .empty)
    (ms : List (Move ι Obj)) (hms : ∀ m ∈ ms, Built m) (w : Work T Obj)
    (hw : ((start h).run ms).registry.SameClasses w.registry) (id : UInt64) (x : Entry Obj)
    (hx : w.registry.live? id = some x) (c : Class Obj)
    (hc : w.registry.classFor? x.object = some c) :
    ∃ isa first, w.Ranks id c.name isa first ∧ RanksFrom c.name isa first := by
  have hs : (start h : Dispatchers ι S Obj).registry.Ranked := by
    change h.registry.Ranked
    rw [hr]
    exact .empty
  have hk : w.registry.Ranked := (run_ranked hs hms).of_same hw
  have hl := hk.leads _ _ (hk.toCoherent.sound hc).1
  exact ⟨c.isSubclassOf, c.outranks, hk.ranks hx hc, hl.ranksFrom⟩

section Samples

def clerk : Blueprint Unit :=
  ⟨"Clerk", some ⟨"Alpha"⟩, [.specializers ["Staff", "Clerk", "Staff", "Actor"]]⟩

theorem class_questions_agree_clerk :
    let h : Host Counter Unit := ⟨⟨1⟩, .empty, none⟩
    let ms : List (Move Unit Unit) := [.registerClass clerk.build, .register ada]
    let w := ((start h).run ms).work ()
    (∀ m ∈ ms, Built m) ∧ w.registry.live? 1 = some ⟨ada, .host⟩ ∧
      w.registry.classFor? ada = some clerk.build ∧
        ∃ isa first, w.Ranks 1 "Clerk" isa first ∧ RanksFrom "Clerk" isa first := by
  intro h ms w
  have hms : ∀ m ∈ ms, Built m := by
    intro m hm c hc
    rcases List.mem_pair.mp hm with rfl | rfl
    · exact ⟨clerk, Option.some.inj hc⟩
    · cases hc
  have hx : w.registry.live? 1 = some ⟨ada, .host⟩ := rfl
  have hc : w.registry.classFor? ada = some clerk.build := rfl
  have hw : ((start h).run ms).registry.SameClasses w.registry := ⟨rfl, rfl⟩
  exact ⟨hms, hx, hc, class_questions_agree h rfl ms hms w hw 1 _ hx _ hc⟩

end Samples

end Dispatchers

end PolicyBridge
