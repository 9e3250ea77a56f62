import Mathlib.Tactic
import PolicyBridge.Proofs.Cli.Quoting
import PolicyBridge.Proofs.Json.Canonical

namespace PolicyBridge

variable {Obj : Type}

namespace HostValue

mutual

def IsData : HostValue Obj → Prop
  | .integer _ | .string _ | .boolean _ => True
  | .float x => Json.Keeps x
  | .list items => AreData items
  | .map fields => Dict.Ordered fields ∧ FieldsAreData fields
  | .var _ | .object _ => False

def AreData : List (HostValue Obj) → Prop
  | [] => True
  | v :: vs => IsData v ∧ AreData vs

def FieldsAreData : List (String × HostValue Obj) → Prop
  | [] => True
  | (_, v) :: fs => IsData v ∧ FieldsAreData fs

end

end HostValue

namespace Cli

open Json (Canonical CanonicalItems CanonicalMembers Numeral)
open HostValue

section Numbers

lemma integer_number (i : Int64) : ∃ v : Json.Number, Numeral.ofInt i.toInt = .ofNumber v ∧ v.Proper ∧
    (numberValue v : HostValue Obj) = .integer i := by
  rcases lt_or_ge i.toInt 0 with h | h
  · exact ⟨.negative i, rfl, h, rfl⟩
  · obtain ⟨he, hb⟩ := Json.ofInt_of_nonneg h
    have hs : i.toInt.toNat < UInt64.size := by omega
    refine ⟨.natural (UInt64.ofNat i.toInt.toNat), he, trivial, ?_⟩
    rw [numberValue, UInt64.toNat_ofNat_of_lt' hs, if_pos hb, Int.toNat_of_nonneg h, Int64.ofInt_toInt]

end Numbers

section Entries

variable {fs : List (String × HostValue Obj)}

lemma mapM_present (fs : List (String × HostValue Obj)) :
    (fs.map fun f => (f.1, some f.2)).mapM present = some fs := by
  induction fs with
  | nil => rfl
  | cons f fs ih =>
    rw [List.map_cons, List.mapM_cons, ih]
    rfl

lemma present_ordered (h : Dict.Ordered fs) :
    (Dict.ofList (fs.map fun f => (f.1, some f.2))).mapM present = some fs := by
  have ho : Dict.Ordered (fs.map fun f => (f.1, some f.2)) := by
    rw [Dict.Ordered, Dict.keys, List.map_map]
    exact h
  rw [Dict.ofList_ordered ho, mapM_present]

end Entries

mutual

lemma json_canonical : (v : HostValue Obj) → v.IsData → Canonical v.json
  | .integer i, _ => by
    obtain ⟨n, hn, hp, -⟩ := @integer_number Obj i
    rw [HostValue.json, Json.int, Canonical]
    exact ⟨n, hn, hp⟩
  | .float x, h => by
    have hx : Json.Keeps x := by simpa only [IsData] using h
    rw [HostValue.json, Json.float, if_pos hx.1, Canonical]
    exact ⟨.real x, rfl, hx⟩
  | .string s, _ => by
    rw [HostValue.json, Json.text, Canonical]
    rfl
  | .boolean b, _ => by
    rw [HostValue.json, Canonical]
    trivial
  | .list items, h => by
    rw [HostValue.json, Canonical]
    exact jsonItems_canonical items (by simpa only [IsData] using h)
  | .map fields, h => by
    obtain ⟨ho, hf⟩ : Dict.Ordered fields ∧ FieldsAreData fields := by simpa only [IsData] using h
    obtain ⟨hm, hc⟩ := jsonFields_canonical fields hf
    rw [HostValue.json, Canonical]
    refine ⟨⟨fields.map fun f => (f.1, f.2.json), ?_, ?_⟩, hc⟩
    · rw [Dict.Ordered, Dict.keys, List.map_map]
      exact ho
    · rw [hm, List.map_map]
      rfl

lemma jsonItems_canonical : (vs : List (HostValue Obj)) → AreData vs → CanonicalItems (jsonItems vs)
  | [], _ => by
    rw [jsonItems, CanonicalItems]
    trivial
  | v :: vs, h => by
    obtain ⟨hv, hs⟩ : v.IsData ∧ AreData vs := by simpa only [AreData] using h
    rw [jsonItems, CanonicalItems]
    exact ⟨json_canonical v hv, jsonItems_canonical vs hs⟩

lemma jsonFields_canonical : (fs : List (String × HostValue Obj)) → FieldsAreData fs →
    jsonFields fs = fs.map (fun f => (some f.1, f.2.json)) ∧ CanonicalMembers (jsonFields fs)
  | [], _ => by
    rw [jsonFields, CanonicalMembers]
    exact ⟨rfl, trivial⟩
  | (k, v) :: fs, h => by
    obtain ⟨hv, hs⟩ : v.IsData ∧ FieldsAreData fs := by simpa only [FieldsAreData] using h
    obtain ⟨hm, hc⟩ := jsonFields_canonical fs hs
    rw [jsonFields, CanonicalMembers]
    exact ⟨congrArg _ hm, json_canonical v hv, hc⟩

end

mutual

lemma hostValue?_json : (v : HostValue Obj) → v.IsData → hostValue? v.json = some v
  | .integer i, _ => by
    obtain ⟨n, hn, hp, hv⟩ := @integer_number Obj i
    rw [HostValue.json, Json.int, hostValue?, hn, hp.value?, Option.map_some, hv]
  | .float x, h => by
    have hx : Json.Keeps x := by simpa only [IsData] using h
    rw [HostValue.json, Json.float, if_pos hx.1, hostValue?, hx.value?]
    rfl
  | .string s, _ => by
    rw [HostValue.json, Json.text, hostValue?]
    rfl
  | .boolean b, _ => by rw [HostValue.json, hostValue?]
  | .list items, h => by
    have hi := hostValues?_json items (by simpa only [IsData] using h)
    rw [HostValue.json, hostValue?, hi]
    rfl
  | .map fields, h => by
    obtain ⟨ho, hf⟩ : Dict.Ordered fields ∧ FieldsAreData fields := by simpa only [IsData] using h
    rw [HostValue.json, hostValue?, hostEntries_json fields hf, present_ordered ho]
    rfl

lemma hostValues?_json : (vs : List (HostValue Obj)) → AreData vs →
    hostValues? (jsonItems vs) = some vs
  | [], _ => by rw [jsonItems, hostValues?]
  | v :: vs, h => by
    obtain ⟨hv, hs⟩ : v.IsData ∧ AreData vs := by simpa only [AreData] using h
    rw [jsonItems, hostValues?, hostValue?_json v hv, hostValues?_json vs hs]
    rfl

lemma hostEntries_json : (fs : List (String × HostValue Obj)) → FieldsAreData fs →
    hostEntries (jsonFields fs) = fs.map fun f => (f.1, some f.2)
  | [], _ => by
    rw [jsonFields, hostEntries]
    rfl
  | (k, v) :: fs, h => by
    obtain ⟨hv, hs⟩ : v.IsData ∧ FieldsAreData fs := by simpa only [FieldsAreData] using h
    rw [jsonFields, hostEntries, hostValue?_json v hv, hostEntries_json fs hs]
    rfl

end

section Texts

variable {v : HostValue Obj}

lemma jsonText?_json (hv : v.IsData) :
    jsonText? v.json.write = if v.json.depth ≤ Json.depthLimit then some v.json else none := by
  have hc := json_canonical v hv
  have hd : isDocument v.json = decide (v.json.depth ≤ Json.depthLimit) := by
    rw [isDocument, Json.canonical_reads v.json hc Json.depthLimit]
    by_cases h : v.json.depth ≤ Json.depthLimit <;> simp [h]
  rw [jsonText?, Json.read?_write, Option.filter_some, hd]
  simp

lemma depth_string (s : String) : (HostValue.string s : HostValue Obj).json.depth = 0 := by
  rw [HostValue.json, Json.depth_text]

lemma readBindings_deep {name : String} (hn : '=' ∉ name.toList) (hv : v.IsData)
    (h : ¬ v.json.depth ≤ Json.depthLimit) :
    (readBindings [name ++ "=" ++ v.json.write] : Except String (Dict String (HostValue Obj))) ≠
      .ok [(name, v)] := by
  have ht : jsonText? v.json.write = none := by rw [jsonText?_json hv, if_neg h]
  by_cases hp : ∀ c ∈ v.json.write.toList, Text.Plain c
  · rw [readBindings_plain hn ht hp]
    intro he
    have hs : HostValue.string v.json.write = v := by simpa using he
    have hz := (congrArg (fun w => w.json.depth) hs).symm.trans (depth_string _)
    exact h (hz.trans_le (Nat.zero_le _))
  · rw [readBindings_odd hn ht hp]
    exact nofun

end Texts

/-- A value made of data, bound by the text that displays it, is that very value, exactly if no more
than 127 arrays and objects lie within one another. -/
theorem displayed_bound_back (name : String) (v : HostValue Obj) (hn : '=' ∉ name.toList)
    (hv : v.IsData) : readBindings [name ++ "=" ++ v.json.write] = .ok [(name, v)] ↔
      v.json.depth ≤ 127 := by
  by_cases h : v.json.depth ≤ 127
  · have hj : jsonText? v.json.write = some v.json := by
      rw [jsonText?_json hv]
      exact if_pos h
    rw [readBindings_document hn hj, hostValue?_json v hv]
    exact iff_of_true rfl h
  · exact iff_of_false (readBindings_deep hn hv h) h

section Samples

def basket : HostValue Unit :=
  .map [("2", .list [.integer (-2), .float 2, .string "2"]), ("=", .map [("\n\"", .boolean true)])]

lemma basket_isData : basket.IsData := by
  have hx : Json.Keeps 2 := ⟨by decide, by decide +kernel⟩
  have ho : Dict.Ordered [("2", HostValue.list [.integer (-2), .float 2, .string "2"]),
      ("=", (.map [("\n\"", .boolean true)] : HostValue Unit))] :=
    List.pairwise_pair.mpr (by decide)
  exact ⟨ho, ⟨trivial, hx, trivial, trivial⟩, ⟨List.pairwise_singleton _ _, trivial, trivial⟩, trivial⟩

theorem displayed_bound_back_basket :
    '=' ∉ "x".toList ∧ basket.IsData ∧ basket.json.depth ≤ 127 ∧
      readBindings ["x" ++ "=" ++ basket.json.write] = .ok [("x", basket)] := by
  have hn : '=' ∉ "x".toList := by decide
  have hd : basket.json.depth ≤ 127 := by decide
  exact ⟨hn, basket_isData, hd, (displayed_bound_back "x" basket hn basket_isData).mpr hd⟩

end Samples

end Cli

end PolicyBridge
