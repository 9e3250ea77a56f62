import Mathlib.Tactic
import PolicyBridge.Json.Fields
import PolicyBridge.Proofs.Dictionary
import PolicyBridge.Proofs.Json.Parsing

/-! Taking documents apart within a limit of nesting: what each part needs, and what a whole record
needs of its parts. -/

namespace PolicyBridge.Json

variable {α β : Type}

section Depth

def depthOf (members : List (String × Json)) : Nat :=
  depthMembers (members.map fun m => (some m.1, m.2))

@[simp] lemma depthOf_nil : depthOf [] = 0 := rfl

@[simp] lemma depthOf_cons (m : String × Json) (ms : List (String × Json)) :
    depthOf (m :: ms) = max m.2.depth (depthOf ms) := rfl

@[simp] lemma depth_record (members : List (String × Json)) :
    (record members).depth = depthOf members + 1 := by
  rw [record, depth]
  rfl

@[simp] lemma depth_variant (tag : String) (j : Json) : (variant tag j).depth = j.depth + 1 := by
  rw [variant, depth_record]
  simp

@[simp] lemma depth_array (items : List Json) : (Json.array items).depth = depthItems items + 1 := by
  rw [depth]

def isLeaf : Json → Bool
  | .array _ | .object _ => false
  | _ => true

lemma depth_of_isLeaf {j : Json} (h : j.isLeaf = true) : j.depth = 0 := by
  cases j with
  | array _ | object _ => cases h
  | _ => rw [depth]; all_goals exact nofun

@[simp] lemma depth_text (s : String) : (text s).depth = 0 := depth_of_isLeaf rfl

@[simp] lemma depth_nat (n : Nat) : (nat n).depth = 0 := depth_of_isLeaf rfl

@[simp] lemma depth_null : Json.null.depth = 0 := depth_of_isLeaf rfl

lemma isLeaf_float (x : Float) : (float x).isLeaf = true := by
  unfold float
  split <;> rfl

end Depth

section Numbers

open Numeral

lemma value?_ofNat (n : UInt64) : (ofNat n.toNat).value? = some (.natural n) := by
  have hn : n.toNat < UInt64.size := n.toNat_lt
  have hw : (ofNat n.toNat).whole = n.toNat := rfl
  rw [value?, if_pos (by simp [ofNat, isInteger, hn]), hw, UInt64.ofNat_toNat]

lemma value?_ofInt_of_neg {i : Int64} (h : i.toInt < 0) :
    (ofInt i.toInt).value? = some (.negative i) := by
  have hl := Int64.le_toInt i
  have hn : (ofInt i.toInt).negative = true := by simpa [ofInt] using h
  have hw : (ofInt i.toInt).whole = i.toInt.natAbs := rfl
  have hi : (ofInt i.toInt).isInteger = true := rfl
  have hb : 0 < i.toInt.natAbs ∧ i.toInt.natAbs ≤ UInt64.size / 2 := by
    have hs : UInt64.size / 2 = 9223372036854775808 := rfl
    omega
  have he : -(i.toInt.natAbs : Int) = i.toInt := by omega
  rw [value?, if_neg (by simp [hn]), if_pos (by simp [hi, hn, hw, hb.1, hb.2]), hw, he,
    Int64.ofInt_toInt]

lemma ofInt_of_nonneg {i : Int64} (h : 0 ≤ i.toInt) :
    ofInt i.toInt = ofNat (UInt64.ofNat i.toInt.toNat).toNat ∧
      i.toInt.toNat < UInt64.size / 2 := by
  have hu := Int64.toInt_lt i
  have hs : UInt64.size / 2 = 9223372036854775808 := rfl
  have hb : i.toInt.toNat < UInt64.size := by
    have hz : UInt64.size = 18446744073709551616 := rfl
    omega
  refine ⟨?_, by omega⟩
  rw [UInt64.toNat_ofNat_of_lt' hb, ofInt, ofNat]
  congr 1
  · simpa using h
  · omega

@[simp] lemma int64?_int (i : Int64) : (int i.toInt).int64? = some i := by
  have hn (n : Numeral) : (Json.number n).number? = n.value? := rfl
  rcases lt_or_ge i.toInt 0 with h | h
  · rw [int64?, int, hn, value?_ofInt_of_neg h]
  · obtain ⟨he, hb⟩ := ofInt_of_nonneg h
    have hs : i.toInt.toNat < UInt64.size := by omega
    rw [int64?, int, hn, he, value?_ofNat]
    dsimp only
    rw [UInt64.toNat_ofNat_of_lt' hs, if_pos hb, Int.toNat_of_nonneg h, Int64.ofInt_toInt]

@[simp] lemma uint64?_nat (n : UInt64) : (nat n.toNat).uint64? = some n := by
  have hn : (nat n.toNat).number? = (ofNat n.toNat).value? := rfl
  rw [uint64?, hn, value?_ofNat]

/-- A float that the library prints and reads again unchanged. -/
def Keeps (x : Float) : Prop :=
  x.isFinite = true ∧ (read? (float x).write).bind float? = some x

lemma isInteger_ofScaled (negative : Bool) (s : Decimal.Scaled) :
    (ofScaled negative s).isInteger = false := by
  have hd := List.length_pos_of_ne_nil (toDigits_ne_nil s.digits)
  unfold ofScaled
  dsimp only
  split
  · rfl
  split
  · split
    · rfl
    split
    · rename_i hp hq
      have hl : (((toDigits s.digits).length : Int) + s.power).toNat < (toDigits s.digits).length := by
        omega
      simpa [isInteger] using hl
    · simpa [isInteger] using fun _ => toDigits_ne_nil s.digits
  · simp [isInteger]

lemma Keeps.value? {x : Float} (h : Keeps x) : (ofFloat x).value? = some (.real x) := by
  obtain ⟨hf, hr⟩ := h
  have hj : float x = .number (ofFloat x) := by rw [float, if_pos hf]
  have hi : (ofFloat x).isInteger = false := isInteger_ofScaled _ _
  have hv : (ofFloat x).value? = (ofFloat x).toFloat?.map .real := by simp [Numeral.value?, hi]
  rw [read?_write, hj] at hr
  change (Json.number (ofFloat x)).float? = some x at hr
  rw [float?, number?, hv] at hr
  rw [hv]
  cases ht : (ofFloat x).toFloat? with
  | none =>
    rw [ht] at hr
    cases hr
  | some y =>
    rw [ht] at hr
    cases hr
    rfl

lemma Keeps.float? {x : Float} (h : Keeps x) : (float x).float? = some x := by
  have hr := h.2
  rwa [read?_write] at hr

end Numbers

/-- A document that is read as a value exactly if it nests no deeper than it may. -/
def Reads (read : Nat → Json → Option α) (j : Json) (a : α) : Prop :=
  ∀ b, read b j = if j.depth ≤ b then some a else none

lemma ite_bind {p : Prop} [Decidable p] (a : α) (f : α → Option β) :
    (if p then some a else none).bind f = if p then f a else none := by
  split <;> rfl

section Reads

variable {read : Nat → Json → Option α} {j : Json} {a : α}

lemma reads_succ {d : Nat} (hd : j.depth = d + 1) (h0 : read 0 j = none)
    (hs : ∀ b, read (b + 1) j = if d ≤ b then some a else none) : Reads read j a := by
  intro b
  rw [hd]
  cases b with
  | zero => rw [h0, if_neg (Nat.not_succ_le_zero d)]
  | succ b =>
    rw [hs]
    simp only [Nat.add_le_add_iff_right]

lemma Reads.within {j' : Json} {r : Nat → Json → Option β} {f : α → β} (h : Reads read j a)
    (hd : j'.depth = j.depth + 1) (h0 : r 0 j' = none)
    (hs : ∀ b, r (b + 1) j' = (read b j).bind fun a => some (f a)) : Reads r j' (f a) := by
  refine reads_succ hd h0 fun b => ?_
  rw [hs, h, ite_bind]

lemma mapM_reads {js : List Json} {as : List α} (h : List.Forall₂ (Reads read) js as) (b : Nat) :
    js.mapM (read b) = if depthItems js ≤ b then some as else none := by
  induction h with
  | nil => simp [depthItems]
  | @cons j a js as hj _ ih =>
    rw [List.mapM_cons, hj b, ih]
    simp only [depthItems, max_le_iff]
    by_cases h1 : j.depth ≤ b <;> by_cases h2 : depthItems js ≤ b <;> simp [h1, h2]

def Enters (read : Nat → Json → Option α) (m : String × Json) (e : String × α) : Prop :=
  m.1 = e.1 ∧ Reads read m.2 e.2

lemma mapM_enters {ms : List (String × Json)} {es : List (String × α)}
    (h : List.Forall₂ (Enters read) ms es) (b : Nat) :
    (ms.map fun m => ((some m.1 : Option String), m.2)).mapM
        (fun m => do some ((← m.1), (← read b m.2)) : Option String × Json → Option (String × α)) =
      if depthOf ms ≤ b then some es else none := by
  induction h with
  | nil => simp
  | @cons m e ms es hm _ ih =>
    rw [List.map_cons, List.mapM_cons, ih]
    simp only [depthOf_cons, max_le_iff, hm.2 b]
    by_cases h1 : m.2.depth ≤ b <;> by_cases h2 : depthOf ms ≤ b <;> simp [h1, h2, hm.1]

lemma dict?_enters {ms : List (String × Json)} {es : List (String × α)}
    (h : List.Forall₂ (Enters read) ms es) (b : Nat) :
    (ofDict ms).dict? (read b) = if depthOf ms ≤ b then some (Dict.ofList es) else none := by
  have hd : (ofDict ms).dict? (read b) = ((ms.map fun m => ((some m.1 : Option String), m.2)).mapM
      (fun m => do some ((← m.1), (← read b m.2)) :
        Option String × Json → Option (String × α))).bind fun es => some (Dict.ofList es) := rfl
  rw [hd, mapM_enters h, ite_bind]

end Reads

section Records

variable {ms : List (String × Json)}

lemma memberKeys?_record : memberKeys? (ms.map fun m => (some m.1, m.2)) = some ms := by
  induction ms with
  | nil => rfl
  | cons m ms ih =>
    rw [memberKeys?, List.map_cons, List.mapM_cons]
    rw [memberKeys?] at ih
    rw [ih]
    rfl

lemma fieldOf?_eq (hn : (Dict.keys ms).Nodup) (name : String) :
    fieldOf? name ms = some (Dict.find? ms name) := by
  induction ms with
  | nil => rfl
  | cons m ms ih =>
    obtain ⟨hm, hn⟩ := List.nodup_cons.mp hn
    have hf := ih hn
    unfold fieldOf? at hf ⊢
    by_cases h : m.1 = name
    · have he : (ms.filter fun m => m.1 = name) = [] := by
        refine List.filter_eq_nil_iff.mpr fun x hx hxn => hm ?_
        rw [h, ← of_decide_eq_true hxn]
        exact List.mem_map_of_mem hx
      rw [List.filter_cons_of_pos (by simpa using h), he, Dict.find?, if_pos h]
    · rw [List.filter_cons_of_neg (by simpa using h), Dict.find?, if_neg h]
      exact hf

lemma fields?_record (hn : (Dict.keys ms).Nodup) (names : List String) :
    (record ms).fields? names = some (names.map (Dict.find? ms)) := by
  have hf : (record ms).fields? names =
      (memberKeys? (ms.map fun m => (some m.1, m.2))).bind fun ms =>
        names.mapM fun n => fieldOf? n ms := rfl
  rw [hf, memberKeys?_record, Option.bind_some]
  clear hf
  induction names with
  | nil => rfl
  | cons n names ih =>
    rw [List.mapM_cons, fieldOf?_eq hn, ih]
    rfl

end Records

end PolicyBridge.Json
