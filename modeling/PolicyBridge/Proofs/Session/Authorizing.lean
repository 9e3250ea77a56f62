import Mathlib.Tactic
import PolicyBridge.Proofs.Session.Lending
import PolicyBridge.Proofs.Taped

namespace PolicyBridge

variable {E Q Obj : Type}

namespace Session

variable [Engine E Q]

/-- What the answer to an authorization is, and what is exchanged for it: the three values do not
cross, or the engine refuses the query, or the query rules and is freed last of all. -/
inductive Decides (polls : Nat) (args : List (HostValue Obj)) (s : Session E Obj) :
    Except Error (Option Bool) → List Exchange → Prop
  | unmarshalable {x : Error} {d : Desk E Obj} {xs : List Exchange} :
      Marshal.toTerms args s.desk = (.error x, d) → .freed ∉ xs → Decides polls args s (.error x) xs
  | refused {ts : List Term} {d : Desk E Obj} {f : Fault} {e : E} {xs : List Exchange} :
      Marshal.toTerms args s.desk = (.ok ts, d) →
        (Engine.newQuery (.call "allow" ts none) [] : EngineCall E Q) d.source = (.error f, e) →
          .freed ∉ xs → Decides polls args s (.error f.queryError) xs
  | ruled {ts : List Term} {d : Desk E Obj} {q : Q} {e : E} {v : Except Error (Option Bool)}
      {xs : List Exchange} :
      Marshal.toTerms args s.desk = (.ok ts, d) →
        (Engine.newQuery (.call "allow" ts none) [] : EngineCall E Q) d.source = (.ok q, e) →
          Query.Rules q polls ⟨⟨e, d.registry, s.shared.host.cache⟩, ⟨d.allocated, []⟩⟩ v →
            .freed ∉ xs → Decides polls args s v (xs ++ [.freed])

lemma marshaled_nil_of_error {args : List (HostValue Obj)} {d d' : Desk E Obj} {x : Error}
    (h : Marshal.toTerms args d = (.error x, d')) : marshaled args [] d = (.error x, d') :=
  Failing.bind_error h

lemma marshaled_nil_of_ok {args : List (HostValue Obj)} {d d' : Desk E Obj} {ts : List Term}
    (h : Marshal.toTerms args d = (.ok ts, d')) : marshaled args [] d = (.ok (ts, []), d') := by
  have hf : (Marshal.toFields [] : Marshaling E Obj _) d' = (.ok [], d') := by
    unfold Marshal.toFields
    rfl
  exact (Failing.bind_ok h).trans (Failing.bind_ok (Failing.bind_ok hf))

structure Brings (args : List (HostValue Obj)) (s : Session E Obj) (y : Except Error (List Term))
    (d : Desk (Recorded E) Obj) : Prop where
  recorded : Marshal.toTerms args s.recorded.desk = (y, d)
  plain : Marshal.toTerms args s.desk = (y, View.erasing.desk d)
  quiet : .freed ∉ d.source.record

lemma toTerms_brings (args : List (HostValue Obj)) (s : Session E Obj) :
    ∃ y d, Brings args s y d := by
  obtain ⟨ids, hr, -, -⟩ := Marshal.toTerms_marshals args s.recorded.desk
  have hv := (View.erasing.toTerms_follows args none s.recorded.desk trivial).eq
  refine ⟨_, _, rfl, hv, ?_⟩
  rw [hr]
  exact fun h => (Query.draws_isQuiet ids _ h).1 rfl

section Deciding

variable {polls : Nat} {s : Session E Obj} {a b c : HostValue Obj} {ts : List Term}
  {d : Desk (Recorded E) Obj} {f : Fault} {q : Q} {e : E}

abbrev Answers (polls : Nat) (args : List (HostValue Obj)) (s : Session E Obj)
    (x : Except Error (Option Bool) × Session (Recorded E) Obj) : Prop :=
  Decides polls args s x.1 x.2.record

lemma newQuery_recorded {x : Except Fault Q}
    (h : (Engine.newQuery (.call "allow" ts none) [] : EngineCall E Q) d.source.inner = (x, e)) :
    (Engine.newQuery (.call "allow" ts none) [] : EngineCall (Recorded E) Q) d.source =
      (x, ⟨e, d.source.record⟩) := by
  change Recorded.quietly (Engine.newQuery (.call "allow" ts none) [] : EngineCall E Q) d.source = _
  rw [Recorded.quietly, h]

lemma unmarshalable_decides {x : Error} (h : Brings [a, b, c] s (.error x) d) :
    Answers polls [a, b, c] s (isAllowed polls a b c s.recorded) := by
  rw [isAllowed_of_error (starting_of_unmarshalable (marshaled_nil_of_error h.recorded))]
  exact .unmarshalable h.plain h.quiet

lemma refused_decides (h : Brings [a, b, c] s (.ok ts) d)
    (hq : (Engine.newQuery (.call "allow" ts none) [] : EngineCall E Q) d.source.inner =
      (.error f, e)) : Answers polls [a, b, c] s (isAllowed polls a b c s.recorded) := by
  rw [isAllowed_of_error (starting_of_refused (marshaled_nil_of_ok h.recorded)
    (newQuery_recorded hq))]
  exact .refused h.plain hq h.quiet

def launched (s : Session E Obj) (d : Desk (Recorded E) Obj) (q : Q) (e : E) :
    Run (Recorded E) Q Obj :=
  ⟨(((s.recorded.withDesk d).withSource ⟨e, d.source.record⟩).begun).shared,
    Query.begin q ⟨d.allocated, []⟩⟩

lemma ruled_decides (h : Brings [a, b, c] s (.ok ts) d)
    (hq : (Engine.newQuery (.call "allow" ts none) [] : EngineCall E Q) d.source.inner =
      (.ok q, e)) : Answers polls [a, b, c] s (isAllowed polls a b c s.recorded) := by
  let r := launched s d q e
  rw [isAllowed_of_started (starting_of_accepted (marshaled_nil_of_ok h.recorded)
    (newQuery_recorded hq))]
  obtain ⟨xs, _, he, hx⟩ := Query.next_settles (r := r) polls rfl rfl
  have hv := Query.next_rules (r := r) polls rfl
  have hr : (Query.settle (Query.next polls r).1 (Query.next polls r).2).2.record =
      d.source.record ++ xs ++ [.freed] := he.record.trans (List.append_assoc ..).symm
  change Decides polls [a, b, c] s _
    (Query.settle (Query.next polls r).1 (Query.next polls r).2).2.record
  rw [hr]
  refine .ruled h.plain hq hv fun hf => ?_
  exact (List.mem_append.mp hf).elim h.quiet hx

end Deciding

/-- However the engine behaves and whatever the classes say: a session answers yes if the engine
took the query and its first item is a solution that reads back, no if the engine was done before
any solution or failure, and otherwise with the error. If the engine took the query it is freed
once, last of all; and if no id drawn was live before, the entries are those from before. -/
theorem isAllowed_decides (polls : Nat) (a b c : HostValue Obj) (s : Session E Obj) :
    let x := isAllowed polls a b c s.recorded
    Decides polls [a, b, c] s x.1 x.2.record ∧
      ((∀ id, .drew id ∈ x.2.record → s.registry.live? id = none) →
        ∀ id, x.2.registry.live? id = s.registry.live? id) := by
  obtain ⟨y, d, h⟩ := toTerms_brings [a, b, c] s
  constructor
  · cases y with
    | error e => exact unmarshalable_decides h
    | ok ts =>
      rcases hq : (Engine.newQuery (.call "allow" ts none) [] : EngineCall E Q) d.source.inner
        with ⟨f | q, e⟩
      · exact refused_decides h hq
      · exact ruled_decides h hq
  · obtain ⟨-, xs, hx, hb⟩ := isAllowed_lends polls a b c s.recorded
    intro hu id
    rw [hx] at hu
    exact (hb hu).kept id List.not_mem_nil

def guarded : Session Tape Unit :=
  (Session.new ⟨⟨3⟩, [.externalIsSubclass 1 "A" "B", .result [("x", .ofId 2)] none]⟩
    Config.standard).withRegistry (Registry.empty.register 2 ⟨(), ⟨"Alpha"⟩, .brought 0, none⟩ .host)

def actor : HostValue Unit := .object ⟨(), ⟨"Alpha"⟩, .brought 1, none⟩

theorem isAllowed_decides_guarded :
    (isAllowed 2 actor (.string "read") (.var "any") guarded.recorded).1 = .ok (some true) ∧
      ∀ id, (isAllowed 2 actor (.string "read") (.var "any") guarded.recorded).2.registry.live? id =
        guarded.registry.live? id := by
  refine ⟨rfl, (isAllowed_decides 2 actor (.string "read") (.var "any") guarded).2 fun id hid => ?_⟩
  have hr : (isAllowed 2 actor (.string "read") (.var "any") guarded.recorded).2.record =
      [.drew 3, .polled (.ok (.externalIsSubclass 1 "A" "B")),
        .answered 1 (some (.boolean false)) (.ok ()),
        .polled (.ok (.result [("x", .ofId 2)] none)), .freed] := rfl
  rw [hr] at hid
  obtain rfl : id = 3 := by simpa using hid
  rfl

end Session

end PolicyBridge
