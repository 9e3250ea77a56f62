import Mathlib.Tactic
import PolicyBridge.Proofs.Marshal.Citing
import PolicyBridge.Proofs.Session.Forgetting
import PolicyBridge.Proofs.Session.Steps

namespace PolicyBridge

variable {E Q Obj α : Type}

structure Bound (Obj : Type) where
  term : Term
  parts : List (HostValue Obj)

namespace Session

structure Lends (s : Session (Recorded E) Obj) (ids : List UInt64) (s' : Session (Recorded E) Obj) :
    Prop where
  constants : s'.constants = s.constants
  lent : ∃ xs, s'.record = s.record ++ xs ∧
    (Query.Unlent s.registry xs → s.registry.Borrows ids s'.registry)

variable {s s' : Session (Recorded E) Obj} {ids : List UInt64}

namespace Lends

lemma keptFor (h : s.Lends ids s') (name : String) : s'.keptFor name = s.keptFor name := by
  rw [Session.keptFor, h.constants, Session.keptFor]

lemma refl (s : Session (Recorded E) Obj) : s.Lends [] s :=
  ⟨rfl, [], (List.append_nil _).symm, fun _ => .refl _⟩

lemma withSource (h : s.Lends ids s') {e : Recorded E} (he : e.record = s'.record) :
    s.Lends ids (s'.withSource e) := by
  obtain ⟨hc, xs, hx, hb⟩ := h
  exact ⟨hc, xs, he.trans hx, hb⟩

lemma repaid (h : s.Lends ids s') : s.Lends [] (s'.releasing ids) := by
  obtain ⟨hc, xs, hx, hb⟩ := h
  exact ⟨hc, xs, hx, fun hu => (hb hu).repaid⟩

lemma of_draws {d : Desk (Recorded E) Obj} (h : s.desk.Draws ids d) :
    s.Lends d.allocated (s.withDesk d) := by
  refine ⟨rfl, _, h.record, fun hu => ?_⟩
  rw [h.allocated]
  exact (Registry.Borrows.refl _).gains h.registry fun id hid => hu id (List.mem_map_of_mem hid)

lemma of_marshals {m : Marshaling (Recorded E) Obj α} (hm : Failing.Moves Desk.Marshals m)
    {y : Except Error α} {d : Desk (Recorded E) Obj} (h : m s.desk = (y, d)) :
    s.Lends d.allocated (s.withDesk d) := by
  obtain ⟨ids, hd⟩ := hm s.desk
  rw [h] at hd
  exact .of_draws hd

end Lends

def Quiet (c : EngineCall (Recorded E) α) : Prop := ∀ e, (c e).2.record = e.record

lemma Quiet.record {c : EngineCall (Recorded E) α} (hc : Quiet c) {e e' : Recorded E}
    {x : Except Fault α} (h : c e = (x, e')) : e'.record = e.record := by
  rw [← hc e, h]

lemma engine_lends (f : Fault → Error) {c : EngineCall (Recorded E) α} (hc : Quiet c)
    (s : Session (Recorded E) Obj) : s.Lends [] (engine f c s).2 := by
  rw [engine_eq]
  exact (Lends.refl s).withSource (hc _)

lemma register_lends [IdSource E] (i : Instance Obj) (s : Session (Recorded E) Obj) :
    ∃ id s', registerInstance i s = (.ok id, s') ∧ s.Lends [id] s' := by
  refine ⟨_, _, rfl, rfl, [.drew (IdSource.next s.shared.host.source.inner).1], rfl, fun hu => ?_⟩
  exact .register (hu _ List.mem_cons_self) _ _

section Engines

variable [Engine E Q]

lemma load_quiet (sources : List Source) :
    Quiet (Engine.load sources : EngineCall (Recorded E) Unit) := fun _ => rfl

lemma clearRules_quiet : Quiet (Engine.clearRules : EngineCall (Recorded E) Unit) := fun _ => rfl

lemma registerConstant_quiet (name : String) (t : Term) :
    Quiet (Engine.registerConstant name t : EngineCall (Recorded E) Unit) := fun _ => rfl

lemma loadFiles_lends (fs : Files) (paths : List String) (s : Session (Recorded E) Obj) :
    s.Lends [] (loadFiles fs paths s).2 := by
  have h : loadFiles fs paths s = (liftExcept (paths.mapM
      (readSource fs s.config.policy.requirePolarExtension)) >>= fun sources =>
        engine (fun f => naming sources f.loadError) (Engine.load sources) :
      InSession (Recorded E) Obj Unit) s := rfl
  rw [h]
  cases paths.mapM (readSource fs s.config.policy.requirePolarExtension) with
  | error e => exact .refl s
  | ok sources => exact engine_lends _ (load_quiet sources) s

inductive Starts (s : Session (Recorded E) Obj) :
    Except Error (Query Q Obj) × Session (Recorded E) Obj → Prop
  | failed {x : Error} {s' : Session (Recorded E) Obj} : s.Lends [] s' → Starts s (.error x, s')
  | begun {handle : Q} {own : Dispatcher Obj} {s' : Session (Recorded E) Obj} :
      s.Lends own.allocated s' → Starts s (.ok (Query.begin handle own), s')

omit [Engine E Q] in
lemma starting_starts {m : Marshaling (Recorded E) Obj α} {f : Fault → Error}
    {c : α → EngineCall (Recorded E) Q} (hm : Failing.Moves Desk.Marshals m) (hc : ∀ a, Quiet (c a))
    (s : Session (Recorded E) Obj) : Starts s (starting m f c s) := by
  rcases hd : m s.desk with ⟨x | a, d⟩
  · rw [starting_of_unmarshalable hd]
    exact .failed (Lends.of_marshals hm hd).repaid
  · have hl := Lends.of_marshals hm hd
    rcases hq : c a d.source with ⟨x | q, e⟩
    · rw [starting_of_refused hd hq]
      exact .failed (hl.withSource ((hc a).record hq)).repaid
    · rw [starting_of_accepted hd hq]
      obtain ⟨hk, xs, hx, hb⟩ := hl.withSource ((hc a).record hq)
      exact .begun ⟨hk, xs, hx, hb⟩

lemma toBindings_marshals (bindings : List (String × HostValue Obj)) :
    Failing.Moves Desk.Marshals (Marshal.toBindings bindings : Marshaling (Recorded E) Obj Bindings) :=
  Failing.Moves.bind Desk.Marshals.trans (Marshal.toFields_marshals bindings) fun _ =>
    Failing.Moves.pure .refl _

lemma evaluate_starts (rule : String) (args : List (HostValue Obj))
    (bindings : List (String × HostValue Obj)) (s : Session (Recorded E) Obj) :
    Starts s (evaluate rule args bindings s : Except Error (Query Q Obj) × _) := by
  rw [evaluate_eq]
  refine starting_starts ?_ (fun _ _ => rfl) s
  exact Failing.Moves.bind Desk.Marshals.trans (Marshal.toTerms_marshals args) fun _ =>
    Failing.Moves.bind Desk.Marshals.trans (toBindings_marshals bindings) fun _ =>
      Failing.Moves.pure .refl _

lemma evaluateText_starts (text : String) (bindings : List (String × HostValue Obj))
    (s : Session (Recorded E) Obj) :
    Starts s (evaluateText text bindings s : Except Error (Query Q Obj) × _) := by
  rw [evaluateText_eq]
  exact starting_starts (toBindings_marshals bindings) (fun _ _ => rfl) s

lemma isAllowed_lends (polls : Nat) (a b c : HostValue Obj) (s : Session (Recorded E) Obj) :
    s.Lends [] (isAllowed polls a b c s).2 := by
  have hs := evaluate_starts (Q := Q) "allow" [a, b, c] [] s
  rcases he : evaluate "allow" [a, b, c] [] s with ⟨x | q, s'⟩ <;> rw [he] at hs
  · rw [isAllowed_of_error he]
    obtain ⟨h⟩ := hs
    exact h
  · obtain _ | ⟨hk, xs, hx, hb⟩ := hs
    rename_i handle own
    let r : Run (Recorded E) Q Obj := ⟨s'.shared, Query.begin handle own⟩
    obtain ⟨_, _, hend, -⟩ := Query.next_settles (r := r) polls rfl rfl
    -- The query lists all that is drawn for it, also for its values, and ends with nothing listed.
    have hn : Query.Borrowing s.registry r (Query.next polls r).2 := Query.next_borrows polls r
    obtain ⟨ys, hy, hb'⟩ := hn.trans (Query.settle_borrows (Query.next polls r).1 _)
    rw [isAllowed_of_started he]
    refine ⟨hk, xs ++ ys, ?_, fun hu => ?_⟩
    · rw [← List.append_assoc, ← hx]
      exact hy
    · have hlent := hb' (fun id hid => hu id (List.mem_append_right _ hid))
        (hb fun id hid => hu id (List.mem_append_left _ hid))
      rwa [Run.allocated, hend.own] at hlent

inductive Rebinds (s : Session (Recorded E) Obj) (offer : Option (String × Bound Obj)) :
    Except Error Unit × Session (Recorded E) Obj → Prop
  | refused {x : Error} {ids : List UInt64} {s' : Session (Recorded E) Obj} : s.Lends ids s' →
      Rebinds s offer (.error x, s')
  | bound {name : String} {b : Bound Obj} {ids : List UInt64} {s' : Session (Recorded E) Obj} :
      offer = some (name, b) → s.Lends ids s' →
        (∀ id ∈ b.term.ids, id ∈ ids ∨ Marshal.Carried b.parts id) →
          Rebinds s offer (.ok (), s'.binding name ids)

def constantOffer (s : Session (Recorded E) Obj) (name : String) (v : HostValue Obj) :
    Option (String × Bound Obj) :=
  (Marshal.toTerm v s.desk).1.toOption.map fun t => (name, ⟨t, v.leaves⟩)

def classOffer (s : Session (Recorded E) Obj) (c : Class Obj) : String × Bound Obj :=
  (c.name, ⟨classTerm (IdSource.next s.shared.host.source).1 c.name, []⟩)

lemma registerConstant_rebinds (name : String) (v : HostValue Obj) (s : Session (Recorded E) Obj) :
    Rebinds s (s.constantOffer name v) (registerConstant name v s) := by
  rcases hd : Marshal.toTerm v s.desk with ⟨x | t, d⟩
  · rw [registerConstant_of_unmarshalable hd]
    exact .refused (Lends.of_marshals (Marshal.toTerm_marshals v) hd).repaid
  · have hl := Lends.of_marshals (Marshal.toTerm_marshals v) hd
    rcases hc : (Engine.registerConstant name t : EngineCall (Recorded E) Unit) d.source
      with ⟨x | u, e⟩
    · rw [registerConstant_of_refused hd hc]
      exact .refused (hl.withSource ((registerConstant_quiet name t).record hc)).repaid
    · rw [registerConstant_of_accepted hd hc]
      have ho : s.constantOffer name v = some (name, ⟨t, v.leaves⟩) := by
        rw [constantOffer, hd]
        rfl
      exact .bound ho (hl.withSource ((registerConstant_quiet name t).record hc))
        (Marshal.toTerm_cites v s.desk t d hd).2

lemma enrolled_lends [ClassObject Obj] (c : Class Obj) (s : Session (Recorded E) Obj) :
    s.Lends [(IdSource.next s.shared.host.source).1] (s.enrolled c) := by
  refine ⟨rfl, [.drew (IdSource.next s.shared.host.source.inner).1], rfl, fun hu => ?_⟩
  let built := ((s.registry.registerClass c).build ClassObject.object (ClassObject.hostType Obj)).2
  have hb : s.registry.Borrows [] built := .of_same fun _ => rfl
  have hf : built.live? (IdSource.next s.shared.host.source.inner).1 = none :=
    hu _ List.mem_cons_self
  exact hb.trans (.register hf _ _)

lemma registerClass_rebinds [ClassObject Obj] (c : Class Obj) (s : Session (Recorded E) Obj) :
    Rebinds s (some (s.classOffer c)) (registerClass c s) := by
  let t := classTerm (IdSource.next s.shared.host.source).1 c.name
  have hl := s.enrolled_lends c
  rw [registerClass_eq]
  rcases hc : (Engine.registerConstant c.name t : EngineCall (Recorded E) Unit)
    (s.enrolled c).shared.host.source with ⟨x | u, e⟩
  · rw [bindConstant_of_refused hc]
    exact .refused (hl.withSource ((registerConstant_quiet c.name t).record hc))
  · rw [bindConstant_of_accepted hc]
    exact .bound rfl (hl.withSource ((registerConstant_quiet c.name t).record hc))
      fun id hid => .inl hid

end Engines

end Session

end PolicyBridge
