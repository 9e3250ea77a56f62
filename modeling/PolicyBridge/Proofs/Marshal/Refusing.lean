import Mathlib.Tactic
import PolicyBridge.Marshal
import PolicyBridge.Proofs.Failing

namespace PolicyBridge

variable {S Obj : Type}

def Error.IsRefusal : Error → Prop
  | .marshal .. | .protocol _ | .resource .. => True
  | _ => False

abbrev Refuses (x : Except Error α) : Prop := Raises Error.IsRefusal x

lemma Registry.lookup_refuses (r : Registry Obj) (id : UInt64) : Refuses (r.lookup id) := by
  unfold Registry.lookup
  split
  · exact .ok _
  · exact .error trivial

namespace Marshal

mutual

lemma fromTerm_refuses (r : Registry Obj) : (t : Term) → Refuses (fromTerm r t)
  | .integer _ | .float _ | .string _ | .boolean _ | .var _ => by
    unfold fromTerm
    exact .ok _
  | .list elements none => by
    unfold fromTerm
    exact (fromTerms_refuses r elements).bind fun _ _ => .ok _
  | .dictionary fields => by
    unfold fromTerm
    exact (fromFields_refuses r fields).bind fun _ _ => .ok _
  | .external id _ _ _ => by
    unfold fromTerm
    exact (r.lookup_refuses id).bind fun _ _ => .ok _
  | .list _ (some _) | .literal _ _ | .dictionaryPattern _ | .instancePattern _ _ | .call _ _ _ => by
    unfold fromTerm
    exact .error trivial

lemma fromTerms_refuses (r : Registry Obj) : (ts : List Term) → Refuses (fromTerms r ts)
  | [] => by
    unfold fromTerms
    exact .ok _
  | t :: ts => by
    unfold fromTerms
    exact (fromTerm_refuses r t).bind fun _ _ => (fromTerms_refuses r ts).bind fun _ _ => .ok _

lemma fromFields_refuses (r : Registry Obj) : (fs : List (String × Term)) → Refuses (fromFields r fs)
  | [] => by
    unfold fromFields
    exact .ok _
  | (_, t) :: fs => by
    unfold fromFields
    exact (fromTerm_refuses r t).bind fun _ _ => (fromFields_refuses r fs).bind fun _ _ => .ok _

end

variable [IdSource S]

lemma objectTerm_refuses (i : Instance Obj) (d : Desk S Obj) : Refuses (objectTerm i d).1 := by
  refine Failing.bind_raises ?_ fun id d' _ => Failing.bind_raises (.ok _) fun _ _ _ => .ok _
  unfold idOf
  cases i.id with
  | none => exact .ok _
  | some id =>
    refine Failing.bind_raises (.ok _) fun d₁ d₂ _ => ?_
    split
    · exact .ok _
    · exact .error trivial

mutual

lemma toTerm_refuses : (v : HostValue Obj) → (d : Desk S Obj) → Refuses (toTerm v d).1
  | .integer _ | .string _ | .boolean _ | .var _ => fun d => by
    unfold toTerm
    exact .ok _
  | .float x => fun d => by
    unfold toTerm
    split
    · exact .ok _
    · exact .error trivial
  | .list items => fun d => by
    unfold toTerm
    exact Failing.bind_raises (toTerms_refuses items d) fun _ _ _ => .ok _
  | .map fields => fun d => by
    unfold toTerm
    exact Failing.bind_raises (toFields_refuses fields d) fun _ _ _ => .ok _
  | .object i => fun d => by
    unfold toTerm
    exact objectTerm_refuses i d

lemma toTerms_refuses : (vs : List (HostValue Obj)) → (d : Desk S Obj) → Refuses (toTerms vs d).1
  | [] => fun d => by
    unfold toTerms
    exact .ok _
  | v :: vs => fun d => by
    unfold toTerms
    exact Failing.bind_raises (toTerm_refuses v d) fun _ d' _ =>
      Failing.bind_raises (toTerms_refuses vs d') fun _ _ _ => .ok _

lemma toFields_refuses :
    (fs : List (String × HostValue Obj)) → (d : Desk S Obj) → Refuses (toFields fs d).1
  | [] => fun d => by
    unfold toFields
    exact .ok _
  | (_, v) :: fs => fun d => by
    unfold toFields
    exact Failing.bind_raises (toTerm_refuses v d) fun _ d' _ =>
      Failing.bind_raises (toFields_refuses fs d') fun _ _ _ => .ok _

end

end Marshal

end PolicyBridge
