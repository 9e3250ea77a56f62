import Mathlib.Tactic
import PolicyBridge.Proofs.Dispatch.Remembering

namespace PolicyBridge

variable {S Obj : Type}

inductive Class.Gives (c : Class Obj) (member : String) : MemberKind → Method Obj → Prop
  | getter {g : Getter Obj} : c.attributes.find? member = some g →
      Gives c member .attribute fun i _ => g i
  | fallback {f : Method Obj} : c.attributes.find? member = none →
      c.methods.find? member = some f → Gives c member .attribute f
  | method {f : Method Obj} : c.methods.find? member = some f → Gives c member .method f

namespace Registry

/-- The first class of an order that is registered and defines the member, and what it gives. -/
def First (r : Registry Obj) (order : List String) (member : String) (kind : MemberKind)
    (owner : Class Obj) (f : Method Obj) : Prop :=
  ∃ before name after, order = before ++ name :: after ∧ r.class? name = some owner ∧
    owner.Gives member kind f ∧
      ∀ n ∈ before, ∀ c, r.class? n = some c → ∀ f, ¬ c.Gives member kind f

def NoneOf (r : Registry Obj) (order : List String) (member : String) (kind : MemberKind) : Prop :=
  ∀ n ∈ order, ∀ c, r.class? n = some c → ∀ f, ¬ c.Gives member kind f

end Registry

namespace Class

variable {c : Class Obj} {member : String} {kind found : MemberKind}

lemma gives_of_defines? (h : c.defines? member kind = some found) : ∃ f, c.Gives member kind f ∧
    ∀ i args, Dispatching.runMember c member found i args = (f i args).guarded c.name member := by
  have hm (hf : found = .method) : ∃ f, c.methods.find? member = some f ∧
      ∀ i args, Dispatching.runMember c member found i args = (f i args).guarded c.name member := by
    subst hf
    cases hm : c.methods.find? member with
    | none => simp [defines?, hasMethod, Dict.contains, hm] at h
    | some f => exact ⟨f, rfl, fun i args => by simp only [Dispatching.runMember, hm]⟩
  cases kind
  · cases ha : c.attributes.find? member with
    | some g =>
      obtain rfl : MemberKind.attribute = found := by
        simpa [defines?, hasAttribute, Dict.contains, ha] using h
      exact ⟨_, .getter ha, fun i args => by simp only [Dispatching.runMember, ha]⟩
    | none =>
      have hd : c.hasMethod member = true ∧ MemberKind.method = found := by
        simpa [defines?, hasAttribute, Dict.contains, ha] using h
      obtain ⟨f, hf, hr⟩ := hm hd.2.symm
      exact ⟨f, .fallback ha hf, hr⟩
  · have hd : c.hasMethod member = true ∧ MemberKind.method = found := by
      simpa [defines?] using h
    obtain ⟨f, hf, hr⟩ := hm hd.2.symm
    exact ⟨f, .method hf, hr⟩

lemma not_gives_of_defines? (h : c.defines? member kind = none) (f : Method Obj) :
    ¬ c.Gives member kind f := by
  intro hf
  cases hf with
  | getter ha => simp [defines?, hasAttribute, Dict.contains, ha] at h
  | fallback ha hm => simp [defines?, hasAttribute, hasMethod, Dict.contains, ha, hm] at h
  | method hm => simp [defines?, hasMethod, Dict.contains, hm] at h

end Class

namespace Registry

variable {r : Registry Obj} {member : String} {kind : MemberKind} {order : List String}

lemma First.skip {name : String} {owner : Class Obj} {f : Method Obj}
    (hn : ∀ c, r.class? name = some c → ∀ f, ¬ c.Gives member kind f)
    (h : r.First order member kind owner f) : r.First (name :: order) member kind owner f := by
  obtain ⟨before, n, after, rfl, hc, hf, hb⟩ := h
  refine ⟨name :: before, n, after, rfl, hc, hf, fun x hx => ?_⟩
  rcases List.mem_cons.mp hx with rfl | hx
  · exact hn
  · exact hb x hx

lemma first_of_findMember? {owner : Class Obj} {found : MemberKind}
    (h : r.findMember? member kind order = some (owner, found)) :
    ∃ f, r.First order member kind owner f ∧
      ∀ i args, Dispatching.runMember owner member found i args =
        (f i args).guarded owner.name member := by
  induction order with
  | nil => cases h
  | cons name order ih =>
    rw [findMember?] at h
    split at h
    · rename_i hc
      obtain ⟨f, hf, hr⟩ := ih h
      refine ⟨f, hf.skip fun c hc' => ?_, hr⟩
      rw [hc] at hc'
      cases hc'
    · rename_i c hc
      split at h
      · rename_i k hd
        cases h
        obtain ⟨f, hf, hr⟩ := Class.gives_of_defines? hd
        exact ⟨f, ⟨[], name, order, rfl, hc, hf, List.forall_mem_nil _⟩, hr⟩
      · rename_i hd
        obtain ⟨f, hf, hr⟩ := ih h
        refine ⟨f, hf.skip fun c' hc' => ?_, hr⟩
        obtain rfl := Option.some.inj (hc.symm.trans hc')
        exact Class.not_gives_of_defines? hd

lemma noneOf_of_findMember? (h : r.findMember? member kind order = none) :
    r.NoneOf order member kind := by
  induction order with
  | nil => exact List.forall_mem_nil _
  | cons name order ih =>
    rw [findMember?] at h
    intro n hn c hc
    split at h
    · rename_i hc'
      rcases List.mem_cons.mp hn with rfl | hn
      · rw [hc'] at hc
        cases hc
      · exact ih h n hn c hc
    · rename_i c' hc'
      split at h
      · cases h
      · rename_i hd
        rcases List.mem_cons.mp hn with rfl | hn
        · obtain rfl := Option.some.inj (hc'.symm.trans hc)
          exact Class.not_gives_of_defines? hd
        · exact ih h n hn c hc

end Registry

namespace Dispatching

variable [IdSource S] {w : Work S Obj} {t : Term} {member : String} {args : Option (List Term)}
  {kwargs : Option (Dict String Term)} {p : Receipt Obj}

def answerWith (callId : UInt64) (owner : Class Obj) (member : String) (f : Method Obj)
    (p : Receipt Obj) : Dispatching S Obj (Option Answer) := do
  let v ← lift ((f p.object p.args).guarded owner.name member)
  let t ← marshal (Marshal.toTerm v)
  return some ⟨callId, some t⟩

/-- The member's hook runs, or nothing does and the call is refused. -/
inductive Resolves (callId : UInt64) (member : String) (kind : MemberKind) (p : Receipt Obj)
    (w : Work S Obj) : Except Error (Option Answer) × Work S Obj → Prop
  | runs {owner : Class Obj} {f : Method Obj} (cache : Option Cache) :
      w.registry.First p.ofClass.order member kind owner f →
        Resolves callId member kind p w (answerWith callId owner member f p (withCache cache w))
  | refused (cache : Option Cache) : w.registry.NoneOf p.ofClass.order member kind →
      Resolves callId member kind p w
        (.error (noMember p.ofClass.name (MemberKind.word kind) member), withCache cache w)

lemma dispatch_resolves (hw : Remembers w.registry.byName w.host.cache)
    (hp : receive w.registry t member args kwargs = .ok p) (callId : UInt64) :
    Resolves callId member (kindOf args) p w
      (dispatch (.externalCall callId t member args kwargs) w) := by
  obtain ⟨cache, -, hr⟩ : ∃ cache, _ ∧ resolve p.ofClass member (kindOf args) w = _ :=
    resolve_eq hw (Registry.class?_of_classFor? hw.named (classFor?_of_receive hp))
  have hm := callMember_of_received t member args kwargs hp
  have hd (m : Dispatching S Obj Term) (w' : Work S Obj)
      (h : respond member (kindOf args) p w = m w') :
      dispatch (.externalCall callId t member args kwargs) w =
        (m >>= fun t => pure (some ⟨callId, some t⟩) : Dispatching S Obj _) w' :=
    Failing.bind_congr (hm.trans h)
  rw [place] at hr
  cases hf : w.registry.findMember? member (kindOf args) p.ofClass.order with
  | none =>
    rw [hf] at hr
    rw [hd (throw _) _ (Failing.bind_error hr)]
    exact .refused cache (Registry.noneOf_of_findMember? hf)
  | some x =>
    obtain ⟨owner, found⟩ := x
    rw [hf] at hr
    obtain ⟨f, hfirst, hrun⟩ := Registry.first_of_findMember? hf
    rw [hd _ _ (Failing.bind_ok hr)]
    dsimp only
    rw [hrun, bind_assoc]
    exact .runs cache hfirst

end Dispatching

end PolicyBridge
