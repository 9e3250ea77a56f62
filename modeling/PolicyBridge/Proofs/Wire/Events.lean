import Mathlib.Tactic
import PolicyBridge.Event.Wire
import PolicyBridge.Proofs.Json.Canonical
import PolicyBridge.Proofs.Wire.Terms

namespace PolicyBridge

open Json (Reads Enters variant record ofDict ite_bind)

namespace Term

lemma properFields_iff {fs : List (String × Term)} : ProperFields fs ↔ ∀ e ∈ fs, e.2.Proper := by
  induction fs with
  | nil => simp [ProperFields]
  | cons e fs ih => simp [ProperFields, ih]

end Term

namespace Event

open Term (ProperAll ProperFields ProperKeywords)

def Proper : Event → Prop
  | .result bs trace =>
    bs.Ordered ∧ ProperFields bs ∧ ∀ j, trace = some j → j ≠ .null ∧ j.Canonical
  | .makeExternal _ t | .externalIsa _ t _ | .nextExternal _ t => t.Proper
  | .externalCall _ t _ as ks =>
    t.Proper ∧ (∀ ts, as = some ts → ProperAll ts) ∧ ProperKeywords ks
  | .externalOp _ _ as => ProperAll as
  | _ => True

inductive Arranges : Event → Event → Prop
  | same (e : Event) : Arranges e e
  | bindings {bs bs' : Bindings} {trace : Option Json} : bs'.Perm bs →
      Arranges (.result bs' trace) (.result bs trace)

section Fields

variable {tag : String} {ms : List (String × Json)} {e : Event}

lemma event_reads (hn : (Dict.keys ms).Nodup)
    (hf : ∀ b, ofFields? b tag ((fieldNames tag).map (Dict.find? ms)) =
      if Json.depthOf ms ≤ b then some e else none) : Reads read? (variant tag (record ms)) e := by
  refine Json.reads_succ (d := Json.depthOf ms + 1) (by simp) rfl fun b => ?_
  cases b with
  | zero => rw [if_neg (Nat.not_succ_le_zero _)]; rfl
  | succ b =>
    have hr : read? (b + 2) (variant tag (record ms)) =
        ((record ms).fields? (fieldNames tag)).bind (ofFields? b tag) := rfl
    rw [hr, Json.fields?_record hn, Option.bind_some, hf]
    simp only [Nat.add_le_add_iff_right]

lemma absentOr_optional {α : Type} {r : Nat → Json → Option α} {f : α → Json} {a : Option α}
    (h : ∀ x, a = some x → Reads r (f x) x ∧ f x ≠ .null) (b : Nat) :
    Json.absentOr (r b) (Json.optional f a) =
      if (Json.optional f a).depth ≤ b then some a else none := by
  cases a with
  | none => simp [Json.optional, Json.absentOr]
  | some x => exact Term.absentOr_reads (h x rfl).1 (h x rfl).2 b

end Fields

lemma term_reads {t : Term} (h : t.Proper) : Reads Term.read? t.json t :=
  Term.wrap_reads (Term.body_reads t h)

lemma result_reads {bs bs' : Bindings} {trace : Option Json} (h : Proper (.result bs trace))
    (hp : bs'.Perm bs) : Reads read? (json (.result bs' trace)) (.result bs trace) := by
  obtain ⟨ho, hb, ht⟩ := h
  have hb' : ProperFields bs' :=
    Term.properFields_iff.mpr fun e he => Term.properFields_iff.mp hb e (hp.mem_iff.mp he)
  have he := Term.entries_read (Term.fields_enter bs' hb')
  have htr := absentOr_optional (r := Json.canonical?) (f := fun j => j) (a := trace) fun j hj =>
    ⟨Json.canonical_reads j (ht j hj).2, (ht j hj).1⟩
  refine event_reads (by simp [Dict.keys]) fun b => ?_
  have hf : ofFields? b "Result" ((fieldNames "Result").map (Dict.find?
      [("bindings", termDict bs'), ("trace", trace.getD .null)])) =
        (Term.readFields? b (termDict bs')).bind fun bs =>
          (Json.absentOr (Json.canonical? b) (trace.getD .null)).bind fun trace =>
            some (.result bs trace) := rfl
  have hg : trace.getD .null = Json.optional (fun j => j) trace := by cases trace <;> rfl
  have hd : termDict bs' = ofDict (Term.fieldBodies bs') := rfl
  rw [hf, hg, hd, he, Dict.ofList_perm ho hp, ite_bind, htr, ite_bind]
  simp [ite_and]

lemma call_reads {id : UInt64} {t : Term} {member : String} {as : Option (List Term)}
    {ks : Option (Dict String Term)} (h : Proper (.externalCall id t member as ks)) :
    Reads read? (json (.externalCall id t member as ks)) (.externalCall id t member as ks) := by
  obtain ⟨ht, ha, hk⟩ := h
  have hr := term_reads ht
  have har := absentOr_optional (r := Term.readItems?) (f := fun as => .array (Term.bodies as))
    (a := as) fun ts hts => ⟨Term.items_read (Term.bodies_read ts (ha ts hts)), nofun⟩
  have hkr := Term.keywords_read ks hk
  have hkj : (Term.keywordBodies ks).getD .null = Json.optional termDict ks := by cases ks <;> rfl
  refine event_reads (by simp [Dict.keys]) fun b => ?_
  have hf : ofFields? b "ExternalCall" ((fieldNames "ExternalCall").map (Dict.find?
      [("call_id", .nat id.toNat), ("instance", t.json), ("attribute", .text member),
        ("args", .optional (fun as => .array (Term.bodies as)) as),
        ("kwargs", .optional termDict ks)])) =
      (Json.nat id.toNat).uint64?.bind fun id => (Term.read? b t.json).bind fun t =>
        (Json.absentOr (Term.readItems? b)
          (.optional (fun as => .array (Term.bodies as)) as)).bind fun as =>
            (Json.absentOr (Term.readFields? b) (.optional termDict ks)).bind fun ks =>
              some (.externalCall id t member as ks) := rfl
  rw [hf, Json.uint64?_nat, Option.bind_some, hr, ite_bind, har, ite_bind, ← hkj, hkr, ite_bind]
  simp [ite_and]

lemma op_reads {id : UInt64} {o : Operator} {as : List Term} (h : ProperAll as) :
    Reads read? (json (.externalOp id o as)) (.externalOp id o as) := by
  have hi := Term.items_read (Term.bodies_read as h)
  refine event_reads (by simp [Dict.keys]) fun b => ?_
  have hf : ofFields? b "ExternalOp" ((fieldNames "ExternalOp").map (Dict.find?
      [("call_id", .nat id.toNat), ("operator", .text o.name), ("args", .array (Term.bodies as))])) =
      (Json.nat id.toNat).uint64?.bind fun id => (Operator.ofName? o.name).bind fun o =>
        (Term.readItems? b (.array (Term.bodies as))).bind fun as =>
          some (.externalOp id o as) := rfl
  have ho : Operator.ofName? o.name = some o := by cases o <;> rfl
  rw [hf, Json.uint64?_nat, Option.bind_some, ho, Option.bind_some, hi, ite_bind]
  simp

lemma json_reads {e : Event} (h : e.Proper) : Reads read? e.json e := by
  cases e with
  | done v =>
    refine event_reads (by simp [Dict.keys]) fun b => ?_
    rw [if_pos (by simp [Json.depth_of_isLeaf (j := .bool v) rfl])]
    rfl
  | result bs trace => exact result_reads h (.refl bs)
  | makeExternal id t =>
    refine event_reads (by simp [Dict.keys]) fun b => ?_
    have hf : ofFields? b "MakeExternal" ((fieldNames "MakeExternal").map (Dict.find?
        [("instance_id", .nat id.toNat), ("constructor", t.json)])) =
        (Json.nat id.toNat).uint64?.bind fun id => (Term.read? b t.json).bind fun t =>
          some (.makeExternal id t) := rfl
    rw [hf, Json.uint64?_nat, Option.bind_some, term_reads h, ite_bind]
    simp
  | externalCall id t member as ks => exact call_reads h
  | externalIsa id t tag =>
    refine event_reads (by simp [Dict.keys]) fun b => ?_
    have hf : ofFields? b "ExternalIsa" ((fieldNames "ExternalIsa").map (Dict.find?
        [("call_id", .nat id.toNat), ("instance", t.json), ("class_tag", .text tag)])) =
        (Json.nat id.toNat).uint64?.bind fun id => (Term.read? b t.json).bind fun t =>
          some (.externalIsa id t tag) := rfl
    rw [hf, Json.uint64?_nat, Option.bind_some, term_reads h, ite_bind]
    simp
  | externalIsSubSpecializer id i l r =>
    refine event_reads (by simp [Dict.keys]) fun b => ?_
    have hf : ofFields? b "ExternalIsSubSpecializer"
        ((fieldNames "ExternalIsSubSpecializer").map (Dict.find? [("call_id", .nat id.toNat),
          ("instance_id", .nat i.toNat), ("left_class_tag", .text l),
          ("right_class_tag", .text r)])) =
        (Json.nat id.toNat).uint64?.bind fun id => (Json.nat i.toNat).uint64?.bind fun i =>
          some (.externalIsSubSpecializer id i l r) := rfl
    rw [hf, Json.uint64?_nat, Option.bind_some, Json.uint64?_nat, Option.bind_some,
      if_pos (by simp)]
  | externalIsSubclass id l r =>
    refine event_reads (by simp [Dict.keys]) fun b => ?_
    have hf : ofFields? b "ExternalIsSubclass" ((fieldNames "ExternalIsSubclass").map (Dict.find?
        [("call_id", .nat id.toNat), ("left_class_tag", .text l), ("right_class_tag", .text r)])) =
        (Json.nat id.toNat).uint64?.bind fun id => some (.externalIsSubclass id l r) := rfl
    rw [hf, Json.uint64?_nat, Option.bind_some, if_pos (by simp)]
  | externalUnify id l r =>
    refine event_reads (by simp [Dict.keys]) fun b => ?_
    have hf : ofFields? b "ExternalUnify" ((fieldNames "ExternalUnify").map (Dict.find?
        [("call_id", .nat id.toNat), ("left_instance_id", .nat l.toNat),
          ("right_instance_id", .nat r.toNat)])) =
        (Json.nat id.toNat).uint64?.bind fun id => (Json.nat l.toNat).uint64?.bind fun l =>
          (Json.nat r.toNat).uint64?.bind fun r => some (.externalUnify id l r) := rfl
    rw [hf, Json.uint64?_nat, Option.bind_some, Json.uint64?_nat, Option.bind_some,
      Json.uint64?_nat, Option.bind_some, if_pos (by simp)]
  | externalOp id o as => exact op_reads h
  | nextExternal id t =>
    refine event_reads (by simp [Dict.keys]) fun b => ?_
    have hf : ofFields? b "NextExternal" ((fieldNames "NextExternal").map (Dict.find?
        [("call_id", .nat id.toNat), ("iterable", t.json)])) =
        (Json.nat id.toNat).uint64?.bind fun id => (Term.read? b t.json).bind fun t =>
          some (.nextExternal id t) := rfl
    rw [hf, Json.uint64?_nat, Option.bind_some, term_reads h, ite_bind]
    simp

lemma Arranges.reads {e e' : Event} (ha : Arranges e' e) (h : e.Proper) :
    Reads read? e'.json e := by
  cases ha with
  | same => exact json_reads h
  | bindings hp => exact result_reads h hp

end Event

namespace Wire

variable {α : Type}

/-- A text is one document, which is read as a value exactly if it nests within the limit. -/
def Returns (text : String) (parse : String → Except Error α) (a : α) : Prop :=
  ∃ j, Json.read? text = some j ∧
    (j.depth ≤ Json.depthLimit → parse text = .ok a) ∧
      (Json.depthLimit < j.depth → ∃ e, parse text = .error e)

variable {read : Nat → Json → Option α} {parse : String → Except Error α} {j : Json} {a : α}

lemma returns_of_reads (h : Reads read j a)
    (ho : ∀ s x, (Json.read? s).bind (read Json.depthLimit) = some x → parse s = .ok x)
    (he : ∀ s, (Json.read? s).bind (read Json.depthLimit) = none → ∃ e, parse s = .error e) :
    Returns j.write parse a := by
  have hr : (Json.read? j.write).bind (read Json.depthLimit) =
      if j.depth ≤ Json.depthLimit then some a else none := by
    rw [Json.read?_write, Option.bind_some, h]
  refine ⟨j, Json.read?_write j, fun hd => ho _ a ?_, fun hd => he _ ?_⟩
  · rw [hr, if_pos hd]
  · rw [hr, if_neg (Nat.not_le.mpr hd)]

lemma term_returns {t : Term} (h : t.Proper) : Returns t.text Term.parse t := by
  refine returns_of_reads (Event.term_reads h) (fun s x hx => ?_) fun s hx => ?_
  · rw [Term.parse, Term.ofText?, hx]
  · exact ⟨_, by rw [Term.parse, Term.ofText?, hx]⟩

lemma event_returns {e e' : Event} (h : e.Proper) (ha : e'.Arranges e) :
    Returns e'.text Event.parse e := by
  refine returns_of_reads (ha.reads h) (fun s x hx => ?_) fun s hx => ?_
  · rw [Event.parse, Event.ofText?, hx]
  · exact ⟨_, by rw [Event.parse, Event.ofText?, hx]⟩

/-- Whatever a term or an event holds: the text written for it, with the bindings in any order,
gives it back if it nests at most 127 arrays and objects, and an error if it nests more. -/
theorem round_trips :
    (∀ t : Term, t.Proper → Returns t.text Term.parse t) ∧
      ∀ e e' : Event, e.Proper → e'.Arranges e → Returns e'.text Event.parse e :=
  ⟨fun _ => term_returns, fun _ _ => event_returns⟩

section Samples

def booking : Term :=
  .call "book" [.float 1.5, .dictionary [("a\n", .integer (-3)), ("b", .list [] (some "rest"))]]
    (some [])

def booked : Event :=
  .result [("x", .ofId 7), ("y", booking)] (some (.array [.number (.ofNumber (.real 1.5))]))

def bookedBackwards : Event :=
  .result [("y", booking), ("x", .ofId 7)] (some (.array [.number (.ofNumber (.real 1.5))]))

lemma keeps_sample : Json.Keeps 1.5 := by
  refine ⟨by decide, ?_⟩
  rw [Json.read?_write]
  decide +kernel

lemma booking_proper : booking.Proper := by
  have ho : Dict.Ordered [("a\n", Term.integer (-3)), ("b", .list [] (some "rest"))] := by
    change List.Pairwise (· < ·) ["a\n", "b"]
    decide
  simp [booking, Term.Proper, Term.ProperAll, Term.ProperFields, Term.ProperKeywords, keeps_sample,
    ho, Dict.ordered_nil]

lemma booked_proper : booked.Proper := by
  refine ⟨?_, ?_, ?_⟩
  · change List.Pairwise (· < ·) ["x", "y"]
    decide
  · simp [Term.ProperFields, Term.ofId, Term.Proper, Term.ProperOptional, booking_proper]
  · rintro j ⟨⟩
    simp only [Json.Canonical, Json.CanonicalItems, ne_eq, reduceCtorEq, not_false_eq_true,
      and_true, true_and]
    exact ⟨.real 1.5, rfl, keeps_sample⟩

theorem round_trips_booking :
    Returns booking.text Term.parse booking ∧ Returns bookedBackwards.text Event.parse booked :=
  ⟨round_trips.1 booking booking_proper,
    round_trips.2 booked bookedBackwards booked_proper (.bindings (.swap _ _ _))⟩

end Samples

end Wire

end PolicyBridge
