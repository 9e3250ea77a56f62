import Mathlib.Tactic
import PolicyBridge.Proofs.Marshal.Standing
import PolicyBridge.Proofs.Registry.Pinning

namespace PolicyBridge

variable {S Obj : Type} [IdSource S]

namespace Marshal

/-- The object crosses under an id that is live and stands for it. -/
def Crossed (i : Instance Obj) (d : Desk S Obj) : Prop :=
  ∃ id repr d', toTerm (.object i) d = (.ok (.external id none none (some repr)), d') ∧
    d'.registry.live? id ≠ none ∧ d'.registry.holds id i = true

variable {i : Instance Obj} {d d' : Desk S Obj} {id : UInt64}

lemma crossed_of_idOf (h : idOf i d = (.ok id, d')) (hh : d'.registry.holds id i = true) :
    Crossed i d := by
  refine ⟨id, classRepr d'.registry i, d', ?_, Registry.live?_of_holds hh, hh⟩
  rw [toTerm]
  exact Failing.bind_ok h

lemma crossed_of_new (hi : i.id = none) (d : Desk S Obj) : Crossed i d := by
  have he : idOf i d = enlist i d := by rw [idOf, hi]
  exact crossed_of_idOf he (holds_register _ _)

lemma crossed_of_held (hi : i.id = some id) (hh : d.registry.holds id i = true) : Crossed i d := by
  have he : idOf i d = (.ok id, d) := by
    rw [idOf_of_carrying hi, if_pos hh]
    rfl
  exact crossed_of_idOf he hh

lemma refused_of_released (hi : i.id = some id) (hh : d.registry.holds id i ≠ true) :
    toTerm (.object i) d = (.error (releasedInstance id), d) := by
  rw [toTerm]
  refine Failing.bind_error ?_
  rw [idOf_of_carrying hi, if_neg hh]
  rfl

lemma crossed_iff : Crossed i d ↔ ∀ id, i.id = some id → d.registry.holds id i = true := by
  constructor
  · rintro ⟨id, repr, d', h, -⟩ c hc
    by_contra hh
    rw [refused_of_released hc hh] at h
    cases h
  · intro h
    cases hi : i.id with
    | none => exact crossed_of_new hi d
    | some c => exact crossed_of_held hi (h c hi)

lemma crossed_reference_iff {e : Entry Obj} (he : d.registry.live? id = some e) :
    Crossed (e.reference id) d ↔
      e.owner = .host ∨ ∀ c, e.object.id = some c → d.registry.holds c e.object = true := by
  cases ho : e.owner with
  | host =>
    refine iff_of_true ?_ (.inl rfl)
    have hh : d.registry.holds id (e.object.withId id) = true := by
      rw [d.registry.holds_of_live id _ he]
      exact decide_eq_true rfl
    rw [e.reference_of_host id ho]
    exact crossed_of_held rfl hh
  | query =>
    rw [e.reference_of_query id ho, crossed_iff]
    exact ⟨.inr, fun h => h.resolve_left nofun⟩

end Marshal

namespace Registering

open Marshal

/-- What stands under a live id is read from it. It crosses again if the host owns it, and else
exactly if it carries no id or is held under the one it carries; where it does not, that id is the
one complained of, and was released since it was pinned to the object. -/
theorem live_sent_back_unless_released (source : S) (cs : List (Registering Obj))
    (h : Lawful source cs) (id : UInt64) (e : Entry Obj)
    (he : (reached source cs).registry.live? id = some e) :
    let d := (reached source cs).desk
    let i := e.reference id
    (∀ constructor repr classRepr,
      fromTerm d.registry (.external id constructor repr classRepr) = .ok (.object i)) ∧
    i.sameObject e.object = true ∧
    (Crossed i d ↔ e.owner = .host ∨ ∀ c, e.object.id = some c → d.registry.holds c e.object = true) ∧
    (¬ Crossed i d → ∃ c since, e.object.id = some c ∧
      toTerm (.object i) d = (.error (releasedInstance c), d) ∧
      Pinned source cs c e.object since ∧ (.release c ∈ since ∨ .close ∈ since)) := by
  intro d i
  have hc := crossed_reference_iff (d := d) he
  refine ⟨fun constructor repr classRepr => ?_, decide_eq_true (e.identity_reference id), hc,
    fun hn => ?_⟩
  · rw [fromTerm, d.registry.lookup_of_live id he]
    rfl
  · obtain ⟨ho, hn⟩ := not_or.mp (mt hc.mpr hn)
    obtain ⟨c, hn⟩ := not_forall.mp hn
    obtain ⟨hec, hh⟩ := Classical.not_imp.mp hn
    obtain ⟨since, hp⟩ := h.traced.stored id e he c hec
    have hi : i = e.object := e.reference_of_query id (Owner.eq_query_of_ne_host ho)
    refine ⟨c, since, hec, ?_, hp, ?_⟩
    · rw [hi]
      exact refused_of_released hec hh
    · by_contra hs
      obtain ⟨hr, hs⟩ := not_or.mp hs
      exact hh (hp.holds h hr hs)

section Samples

def shared : List (Registering Unit) :=
  [.register ada .host, .lookup 1, .register (ada.withId 1) .query]

lemma shared_lawful : Lawful (⟨1⟩ : Counter) shared := by
  have h : Lawful (⟨1⟩ : Counter) [.register ada .host, .lookup 1] := by
    refine .concat (.concat .nil (fun _ => rfl) ?_) nofun nofun
    rintro i ⟨⟩ hn
    exact absurd rfl hn
  refine .concat h (fun _ => rfl) ?_
  rintro i ⟨⟩ -
  exact ⟨[.register ada .host], 1, [], rfl, rfl⟩

theorem live_sent_back_unless_released_shared :
    Lawful (⟨1⟩ : Counter) shared ∧
      (reached (⟨1⟩ : Counter) shared).registry.live? 2 = some ⟨ada.withId 1, .query⟩ ∧
        Crossed (ada.withId 1) (reached (⟨1⟩ : Counter) shared).desk := by
  refine ⟨shared_lawful, rfl, ?_⟩
  obtain ⟨-, -, hc, -⟩ :=
    live_sent_back_unless_released (⟨1⟩ : Counter) shared shared_lawful 2 ⟨ada.withId 1, .query⟩ rfl
  refine hc.mpr (.inr ?_)
  rintro c ⟨⟩
  rfl

/-- Once the id that the reference carries is released, the object is still live but cannot be sent
back. -/
theorem live_not_sent_back :
    ¬ ∀ cs : List (Registering Unit), Lawful (⟨1⟩ : Counter) cs → ∀ id e,
      (reached (⟨1⟩ : Counter) cs).registry.live? id = some e →
        Crossed (e.reference id) (reached (⟨1⟩ : Counter) cs).desk := by
  intro h
  have hl : Lawful (⟨1⟩ : Counter) (shared ++ [.release 1]) := .concat shared_lawful nofun nofun
  have hc := h _ hl 2 ⟨ada.withId 1, .query⟩ rfl
  have hh := crossed_iff.mp hc 1 rfl
  exact absurd hh (by decide)

end Samples

end Registering

end PolicyBridge
