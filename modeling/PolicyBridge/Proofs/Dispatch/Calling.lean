import Mathlib.Tactic
import PolicyBridge.Dispatch.Answering
import PolicyBridge.Proofs.Failing

namespace PolicyBridge

namespace Dispatching

variable {S Obj α β : Type}

lemma lift_ok {x : Except Error α} {a : α} (h : x = .ok a) (w : Work S Obj) :
    (lift x : Dispatching S Obj α) w = (.ok a, w) := by
  rw [h]
  rfl

lemma lift_error {x : Except Error α} {e : Error} (h : x = .error e) (w : Work S Obj) :
    (lift x : Dispatching S Obj α) w = (.error e, w) := by
  rw [h]
  rfl

structure Receipt (Obj : Type) where
  object : Instance Obj
  ofClass : Class Obj
  args : Args Obj

def readArgs (r : Registry Obj) : Option (List Term) → Except Error (Args Obj)
  | none => .ok []
  | some args => Marshal.fromTerms r args

def receive (r : Registry Obj) (t : Term) (member : String) (args : Option (List Term))
    (kwargs : Option (Dict String Term)) : Except Error (Receipt Obj) := do
  refuseKeywords kwargs member
  let i ← (Marshal.fromTerm r t).bind (receiver member)
  let c ← r.classOf i
  let args ← readArgs r args
  return ⟨i, c, args⟩

def kindOf (args : Option (List Term)) : MemberKind := if args.isNone then .attribute else .method

def respond [IdSource S] (member : String) (kind : MemberKind) (p : Receipt Obj) :
    Dispatching S Obj Term := do
  let (owner, found) ← resolve p.ofClass member kind
  let v ← lift (runMember owner member found p.object p.args)
  marshal (Marshal.toTerm v)

lemma classFor?_of_classOf {r : Registry Obj} {i : Instance Obj} {c : Class Obj}
    (h : r.classOf i = .ok c) : r.classFor? i = some c := by
  unfold Registry.classOf at h
  split at h
  · rename_i c' hc
    rw [hc, Except.ok.inj h]
  · cases h

lemma classFor?_of_receive {r : Registry Obj} {t : Term} {member : String}
    {args : Option (List Term)} {kwargs : Option (Dict String Term)} {p : Receipt Obj}
    (h : receive r t member args kwargs = .ok p) : r.classFor? p.object = some p.ofClass := by
  simp only [receive, bind, Except.bind] at h
  repeat' split at h
  all_goals first | cases h; exact classFor?_of_classOf ‹_› | cases h

lemma lift_bind (x : Except Error α) (f : α → Except Error β) :
    (lift (x >>= f) : Dispatching S Obj β) = lift x >>= fun a => lift (f a) := by
  cases x <;> rfl

def respondFrom [IdSource S] (r : Registry Obj) (t : Term) (member : String)
    (args : Option (List Term)) : Dispatching S Obj Term := do
  let i ← lift ((Marshal.fromTerm r t).bind (receiver member))
  let c ← lift (r.classOf i)
  let args' ← lift (readArgs r args)
  respond member (kindOf args) ⟨i, c, args'⟩

section Calls

variable [IdSource S] (t : Term) (member : String) (args : Option (List Term))
  (kwargs : Option (Dict String Term))

lemma callMember_split : (callMember t member args kwargs : Dispatching S Obj Term) =
    lift (refuseKeywords kwargs member) >>= fun _ => registry >>= fun r =>
      respondFrom r t member args := by
  cases args <;> rfl

lemma receive_split (r : Registry Obj) :
    (lift (receive r t member args kwargs) >>= respond member (kindOf args) :
      Dispatching S Obj Term) =
    lift (refuseKeywords kwargs member) >>= fun _ => respondFrom r t member args := by
  simp only [receive, lift_bind, bind_assoc]
  rfl

lemma callMember_eq (w : Work S Obj) : callMember t member args kwargs w =
    (lift (receive w.registry t member args kwargs) >>= respond member (kindOf args)) w := by
  rw [callMember_split, receive_split]
  cases refuseKeywords kwargs member with
  | error e => exact (Failing.bind_error rfl).trans (Failing.bind_error rfl).symm
  | ok u =>
    refine (Failing.bind_ok rfl).trans (Eq.trans ?_ (Failing.bind_ok rfl).symm)
    exact Failing.bind_ok rfl

lemma callMember_of_received {w : Work S Obj} {p : Receipt Obj}
    (h : receive w.registry t member args kwargs = .ok p) :
    callMember t member args kwargs w = respond member (kindOf args) p w := by
  rw [callMember_eq]
  exact Failing.bind_ok (lift_ok h w)

end Calls

end Dispatching

end PolicyBridge
