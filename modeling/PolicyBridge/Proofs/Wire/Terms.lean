import Mathlib.Tactic
import PolicyBridge.Proofs.Json.Reading
import PolicyBridge.Term.Wire

namespace PolicyBridge.Term

open Json (Reads Enters variant record ofDict ite_bind reads_succ)

mutual

/-- Fields are in key order, each key once, and the library keeps the floats. -/
def Proper : Term → Prop
  | .float x => Json.Keeps x
  | .external _ c _ _ => ProperOptional c
  | .literal _ fs | .dictionary fs | .dictionaryPattern fs | .instancePattern _ fs =>
    Dict.Ordered fs ∧ ProperFields fs
  | .call _ as ks => ProperAll as ∧ ProperKeywords ks
  | .list es _ => ProperAll es
  | .integer _ | .string _ | .boolean _ | .var _ => True

def ProperOptional : Option Term → Prop
  | none => True
  | some t => Proper t

def ProperAll : List Term → Prop
  | [] => True
  | t :: ts => Proper t ∧ ProperAll ts

def ProperFields : List (String × Term) → Prop
  | [] => True
  | (_, t) :: fs => Proper t ∧ ProperFields fs

def ProperKeywords : Option (List (String × Term)) → Prop
  | none => True
  | some fs => Dict.Ordered fs ∧ ProperFields fs

end

section Levels

variable {j : Json} {t : Term} {tag : String} {fs : List (String × Term)} {ts : List Term}

lemma depth_ofDict (ms : List (String × Json)) : (ofDict ms).depth = Json.depthOf ms + 1 :=
  Json.depth_record ms

@[simp] lemma depth_wrap (j : Json) : (wrap j).depth = j.depth + 1 := by simp [wrap]

@[simp] lemma depth_dictJson (ms : List (String × Json)) :
    (dictJson ms).depth = Json.depthOf ms + 2 := by
  simp [dictJson, depth_ofDict]

@[simp] lemma depth_literalJson (tag : String) (ms : List (String × Json)) :
    (literalJson tag ms).depth = Json.depthOf ms + 3 := by
  simp [literalJson]

lemma wrap_reads (h : Reads readBody? j t) : Reads read? (wrap j) t :=
  reads_succ (depth_wrap j) rfl fun b => (h b : readBody? b j = _)

lemma leaf_reads {v : Json} (hv : v.isLeaf = true)
    (hs : ∀ b, readBody? (b + 1) (variant tag v) = some t) : Reads readBody? (variant tag v) t := by
  refine reads_succ (d := 0) (by simp [Json.depth_of_isLeaf hv]) rfl fun b => ?_
  rw [hs, if_pos (Nat.zero_le b)]

lemma variant_reads {r : Nat → Json → Option Term} {v : Json} (h : Reads r v t)
    (hs : ∀ b, readBody? (b + 1) (variant tag v) = r b v) :
    Reads readBody? (variant tag v) t := by
  refine reads_succ (Json.depth_variant tag v) rfl fun b => ?_
  rw [hs, h]

lemma readNumber_reads {n : Json} (hn : n.isLeaf = true)
    (hs : ∀ b, readNumber? (b + 1) (variant tag n) = some t) :
    Reads readNumber? (variant tag n) t := by
  refine reads_succ (d := 0) (by simp [Json.depth_of_isLeaf hn]) rfl fun b => ?_
  rw [hs, if_pos (Nat.zero_le b)]

variable {ms : List (String × Json)} (he : List.Forall₂ (Enters read?) ms fs)

include he

lemma entries_read (b : Nat) :
    readFields? b (ofDict ms) = if (ofDict ms).depth ≤ b then some (Dict.ofList fs) else none := by
  revert b
  refine reads_succ (depth_ofDict ms) rfl fun b => ?_
  exact Json.dict?_enters he b

variable (ho : Dict.Ordered fs)

include ho

lemma fields_read : Reads readFields? (ofDict ms) fs := by
  intro b
  rw [entries_read he, Dict.ofList_ordered ho]

lemma dictionary_reads : Reads readDictionary? (dictJson ms) fs :=
  reads_succ (d := (ofDict ms).depth) (by simp [depth_ofDict]) rfl fun b =>
    (fields_read he ho b : readFields? b (ofDict ms) = _)

lemma literal_reads (tag : String) : Reads readLiteral? (literalJson tag ms) (tag, fs) :=
  (dictionary_reads he ho).within (f := fun fs => (tag, fs)) (by simp) rfl fun _ => rfl

end Levels

lemma items_read {js : List Json} {ts : List Term} (h : List.Forall₂ (Reads read?) js ts) :
    Reads readItems? (.array js) ts :=
  reads_succ (Json.depth_array js) rfl fun b => Json.mapM_reads h b

lemma absentOr_reads {α : Type} {read : Nat → Json → Option α} {j : Json} {a : α} (h : Reads read j a)
    (hj : j ≠ .null) (b : Nat) :
    Json.absentOr (read b) j = if j.depth ≤ b then some (some a) else none := by
  have ha : Json.absentOr (read b) j = (read b j).map some := by
    cases j with
    | null => exact absurd rfl hj
    | _ => rfl
  rw [ha, h]
  split <;> rfl

@[simp] lemma absentOr_optionalText (s : Option String) :
    Json.absentOr Json.string? (optionalText s) = some s := by
  cases s <;> rfl

@[simp] lemma depth_optionalText (s : Option String) : (optionalText s).depth = 0 := by
  cases s with
  | none | some _ => exact Json.depth_of_isLeaf rfl

section Records

lemma readList?_succ (b : Nat) (es : Json) (r : Option String) :
    readList? (b + 1) (record ([("elements", es)] ++ ifPresent "rest_var" (r.map .text))) =
      (readItems? b es).bind fun ts => some (.list ts r) := by
  cases r <;> rfl

lemma readCall?_succ (b : Nat) (name : String) (as : Json) (k : Option Json) :
    readCall? (b + 1) (record ([("name", .text name), ("args", as)] ++ ifPresent "kwargs" k)) =
      (readItems? b as).bind fun ts => (Json.absentOr (readFields? b) (k.getD .null)).bind fun ks =>
        some (.call name ts ks) := by
  cases k <;> rfl

lemma readExternal?_succ (b : Nat) (id : UInt64) (c : Json) (r k : Option String) :
    readExternal? (b + 1) (record [("instance_id", .nat id.toNat), ("constructor", c),
        ("repr", optionalText r), ("class_repr", optionalText k)]) =
      (Json.absentOr (read? b) c).bind fun c => some (.external id c r k) := by
  have hr : readExternal? (b + 1) (record [("instance_id", .nat id.toNat), ("constructor", c),
        ("repr", optionalText r), ("class_repr", optionalText k)]) =
      ((Json.nat id.toNat).uint64?.bind fun id => (Json.absentOr (read? b) c).bind fun c =>
        (Json.absentOr Json.string? (optionalText r)).bind fun r =>
          (Json.absentOr Json.string? (optionalText k)).bind fun k => some (.external id c r k)) := rfl
  rw [hr, Json.uint64?_nat, absentOr_optionalText, absentOr_optionalText]
  rfl

end Records

lemma number_body (b : Nat) (v : Json) : readBody? (b + 1) (variant "Number" v) = readNumber? b v := by
  rw [readBody?]
  rfl

lemma pattern_body (b : Nat) (v : Json) :
    readBody? (b + 1) (variant "Pattern" v) = readPattern? b v := by
  rw [readBody?]
  rfl

mutual

lemma body_reads : (t : Term) → t.Proper → Reads readBody? t.body t
  | .integer i, _ => by
    refine variant_reads (readNumber_reads rfl fun b => ?_) (number_body · _)
    have hr : readNumber? (b + 1) (variant "Integer" (Json.int i.toInt)) =
        (Json.int i.toInt).int64?.bind fun i => some (Term.integer i) := rfl
    rw [hr, Json.int64?_int]
    rfl
  | .float x, h => by
    have hx : Json.Keeps x := by simpa only [Proper] using h
    refine variant_reads (readNumber_reads (Json.isLeaf_float x) fun b => ?_) (number_body · _)
    have hr : readNumber? (b + 1) (variant "Float" (Json.float x)) =
        (Json.float x).float?.bind fun x => some (Term.float x) := rfl
    rw [hr, hx.float?]
    rfl
  | .string s, _ => leaf_reads rfl fun b => by rw [readBody?]; rfl
  | .boolean v, _ => leaf_reads rfl fun b => by rw [readBody?]; rfl
  | .var name, _ => leaf_reads rfl fun b => by rw [readBody?]; rfl
  | .external id c r k, h => by
    have hc := optional_reads c (by simpa only [Proper] using h)
    refine variant_reads (r := readExternal?) ?_ fun b => by rw [readBody?]; rfl
    refine reads_succ (d := (optionalBody c).depth) (by simp) rfl fun b => ?_
    rw [readExternal?_succ, hc, ite_bind]
  | .literal tag fs, h => by
    obtain ⟨ho, hp⟩ : Dict.Ordered fs ∧ ProperFields fs := by simpa only [Proper] using h
    have hl := literal_reads (fields_enter fs hp) ho tag
    refine hl.within (r := readBody?) (f := fun x => Term.literal x.1 x.2)
      (Json.depth_variant _ _) rfl fun b => ?_
    rw [readBody?]
    rfl
  | .dictionary fs, h => by
    obtain ⟨ho, hp⟩ : Dict.Ordered fs ∧ ProperFields fs := by simpa only [Proper] using h
    have hd := dictionary_reads (fields_enter fs hp) ho
    refine hd.within (r := readBody?) (f := Term.dictionary) (Json.depth_variant _ _) rfl
      fun b => ?_
    rw [readBody?]
    rfl
  | .dictionaryPattern fs, h => by
    obtain ⟨ho, hp⟩ : Dict.Ordered fs ∧ ProperFields fs := by simpa only [Proper] using h
    have hd := dictionary_reads (fields_enter fs hp) ho
    refine variant_reads (hd.within (r := readPattern?) (f := Term.dictionaryPattern)
      (Json.depth_variant "Dictionary" _) rfl fun b => ?_) (pattern_body · _)
    rw [readPattern?]
    rfl
  | .instancePattern tag fs, h => by
    obtain ⟨ho, hp⟩ : Dict.Ordered fs ∧ ProperFields fs := by simpa only [Proper] using h
    have hl := literal_reads (fields_enter fs hp) ho tag
    refine variant_reads (hl.within (r := readPattern?)
      (f := fun x => Term.instancePattern x.1 x.2) (Json.depth_variant "Instance" _) rfl
      fun b => ?_) (pattern_body · _)
    rw [readPattern?]
    rfl
  | .call name as ks, h => by
    obtain ⟨ha, hk⟩ : ProperAll as ∧ ProperKeywords ks := by simpa only [Proper] using h
    have hi := items_read (bodies_read as ha)
    have hs := keywords_read ks hk
    refine variant_reads (r := readCall?) ?_ fun b => by rw [readBody?]; rfl
    refine reads_succ (d := max (Json.array (bodies as)).depth
      ((keywordBodies ks).getD .null).depth) ?_ rfl fun b => ?_
    · cases keywordBodies ks <;> simp [ifPresent]
    · rw [readCall?_succ, hi, ite_bind, hs, ite_bind]
      simp only [max_le_iff, ite_and]
  | .list es r, h => by
    have hi := items_read (bodies_read es (by simpa only [Proper] using h))
    refine variant_reads (r := readList?) ?_ fun b => by rw [readBody?]; rfl
    refine reads_succ (d := (Json.array (bodies es)).depth) ?_ rfl fun b => ?_
    · cases r <;> simp [ifPresent]
    · rw [readList?_succ, hi, ite_bind]

lemma optional_reads : (c : Option Term) → ProperOptional c → (b : Nat) →
    Json.absentOr (read? b) (optionalBody c) =
      if (optionalBody c).depth ≤ b then some c else none
  | none, _, b => by simp [optionalBody, Json.absentOr]
  | some t, h, b => by
    have ht : Proper t := by simpa only [ProperOptional] using h
    rw [optionalBody]
    exact absentOr_reads (wrap_reads (body_reads t ht)) nofun b

lemma bodies_read : (ts : List Term) → ProperAll ts → List.Forall₂ (Reads read?) (bodies ts) ts
  | [], _ => .nil
  | t :: ts, h => by
    obtain ⟨ht, hs⟩ : Proper t ∧ ProperAll ts := by simpa only [ProperAll] using h
    exact .cons (wrap_reads (body_reads t ht)) (bodies_read ts hs)

lemma fields_enter : (fs : List (String × Term)) → ProperFields fs →
    List.Forall₂ (Enters read?) (fieldBodies fs) fs
  | [], _ => .nil
  | (k, t) :: fs, h => by
    obtain ⟨ht, hs⟩ : Proper t ∧ ProperFields fs := by simpa only [ProperFields] using h
    exact .cons ⟨rfl, wrap_reads (body_reads t ht)⟩ (fields_enter fs hs)

lemma keywords_read : (ks : Option (List (String × Term))) → ProperKeywords ks → (b : Nat) →
    Json.absentOr (readFields? b) ((keywordBodies ks).getD .null) =
      if ((keywordBodies ks).getD .null).depth ≤ b then some ks else none
  | none, _, b => by simp [keywordBodies, Json.absentOr]
  | some fs, h, b => by
    obtain ⟨ho, hp⟩ : Dict.Ordered fs ∧ ProperFields fs := by simpa only [ProperKeywords] using h
    rw [keywordBodies]
    exact absentOr_reads (fields_read (fields_enter fs hp) ho) nofun b

end

end PolicyBridge.Term
