import Mathlib.Tactic
import PolicyBridge.Proofs.Cli.Quoting
import PolicyBridge.Proofs.Dictionary
import PolicyBridge.Proofs.Value.Rounding

namespace PolicyBridge

variable {Obj : Type}

inductive Step where
  | item (i : Nat)
  | member (k : String)

namespace Json

def into? : Step → Json → Option Json
  | .item i, .array items => items[i]?
  | .member k, .object members => (members.reverse.find? fun m => m.1 = some k).map Prod.snd
  | _, _ => none

def at? : List Step → Json → Option Json
  | [], j => some j
  | s :: p, j => (j.into? s).bind (at? p)

def Numeral.integer? (n : Numeral) : Option Int :=
  if n.isInteger = true ∧ ¬ (n.negative = true ∧ n.whole = 0) then
    some (if n.negative then -n.whole else n.whole)
  else none

end Json

namespace HostValue

def into? : Step → HostValue Obj → Option (HostValue Obj)
  | .item i, .list items => items[i]?
  | .member k, .map fields => Dict.find? fields k
  | _, _ => none

def at? : List Step → HostValue Obj → Option (HostValue Obj)
  | [], v => some v
  | s :: p, v => (v.into? s).bind (at? p)

end HostValue

namespace Cli

open Json (Numeral)

/-- An integer that has 64 bits with its sign is bound as it is, others as floats: natural ones of 64
bits as the nearest. -/
def Binds (i : Int) (v : HostValue Obj) : Prop :=
  (∀ k : Int64, k.toInt = i → v = .integer k) ∧
    ((∀ k : Int64, k.toInt ≠ i) → ∃ x, v = .float x ∧
      (0 ≤ i → i < 2 ^ 64 → ∀ y, |floatValue x - i| ≤ |floatValue y - i|))

section Numbers

variable {n : Numeral} {i : Int}

lemma integer?_eq_some_iff : n.integer? = some i ↔ n.isInteger = true ∧
    (n.negative = false ∧ i = n.whole ∨ n.negative = true ∧ 0 < n.whole ∧ i = -n.whole) := by
  unfold Numeral.integer?
  cases n.negative with
  | false => simp [@eq_comm _ i]
  | true => simp [Nat.pos_iff_ne_zero, @eq_comm _ i, and_assoc]

lemma value?_fits (h : n.integer? = some i) (k : Int64) (hk : k.toInt = i) :
    (n.value?.map numberValue : Option (HostValue Obj)) = some (.integer k) := by
  have hl := k.le_toInt
  have hu := k.toInt_lt
  have hs : UInt64.size = 18446744073709551616 := rfl
  obtain ⟨hi, ⟨hn, rfl⟩ | ⟨hn, hw, rfl⟩⟩ := integer?_eq_some_iff.mp h
  · have hz : n.whole < UInt64.size := by omega
    have hb : (UInt64.ofNat n.whole).toNat < UInt64.size / 2 := by
      rw [UInt64.toNat_ofNat_of_lt' hz]
      omega
    rw [Numeral.value?, if_pos (by simp [hi, hn, hz]), Option.map_some, numberValue, if_pos hb,
      UInt64.toNat_ofNat_of_lt' hz, ← hk, Int64.ofInt_toInt]
  · have hz : n.whole ≤ UInt64.size / 2 := by omega
    rw [Numeral.value?, if_neg (by simp [hn]), if_pos (by simp [hi, hn, hz, hw]), Option.map_some,
      numberValue, ← hk, Int64.ofInt_toInt]

lemma value?_exceeds (h : n.integer? = some i) (hk : ∀ k : Int64, k.toInt ≠ i) {v : Json.Number}
    (hv : n.value? = some v) : ∃ x, (numberValue v : HostValue Obj) = .float x ∧
      (0 ≤ i → i < 2 ^ 64 → ∀ y, |floatValue x - i| ≤ |floatValue y - i|) := by
  have hs : UInt64.size = 18446744073709551616 := rfl
  have hb : i < -2 ^ 63 ∨ 2 ^ 63 ≤ i := by
    by_contra hb
    exact hk (Int64.ofInt i) (Int64.toInt_ofInt_of_le (by omega) (by omega))
  obtain ⟨hi, ⟨hp, rfl⟩ | ⟨hp, hw, rfl⟩⟩ := integer?_eq_some_iff.mp h
  · by_cases hz : n.whole < UInt64.size
    · have hn : (UInt64.ofNat n.whole).toNat = n.whole := UInt64.toNat_ofNat_of_lt' hz
      have hc := toFloat_near (UInt64.ofNat n.whole)
      rw [Numeral.value?, if_pos (by simp [hi, hz, hp])] at hv
      cases hv
      rw [hn] at hc
      refine ⟨(UInt64.ofNat n.whole).toFloat, ?_, fun _ _ => hc⟩
      rw [numberValue, if_neg (by rw [hn]; omega)]
    · rw [Numeral.value?, if_neg (by simp [hz]), if_neg (by simp [hp])] at hv
      obtain ⟨x, -, rfl⟩ := Option.map_eq_some_iff.mp hv
      exact ⟨x, rfl, fun _ hu => absurd hu (by omega)⟩
  · rw [Numeral.value?, if_neg (by simp [hp]), if_neg (by simp; omega)] at hv
    obtain ⟨x, -, rfl⟩ := Option.map_eq_some_iff.mp hv
    exact ⟨x, rfl, fun hp => absurd hp (by omega)⟩

lemma binds_number (h : n.integer? = some i) {v : HostValue Obj}
    (hv : hostValue? (.number n) = some v) : Binds i v := by
  rw [hostValue?] at hv
  refine ⟨fun k hk => ?_, fun hk => ?_⟩
  · rw [value?_fits h k hk] at hv
    cases hv
    rfl
  · obtain ⟨m, hm, rfl⟩ := Option.map_eq_some_iff.mp hv
    exact value?_exceeds h hk hm

end Numbers

section Parts

lemma getElem?_hostValues {js : List Json} {vs : List (HostValue Obj)} (h : hostValues? js = some vs)
    (i : Nat) : (js[i]?).map hostValue? = (vs[i]?).map some := by
  induction js generalizing vs i with
  | nil =>
    rw [hostValues?] at h
    cases h
    rfl
  | cons j js ih =>
    rw [hostValues?] at h
    obtain ⟨v, hv, h⟩ := Option.bind_eq_some_iff.mp h
    obtain ⟨ws, hs, h⟩ := Option.bind_eq_some_iff.mp h
    cases h
    cases i with
    | zero => exact congrArg some hv
    | succ i => exact ih hs i

lemma hostEntries_eq (ms : List (Option String × Json)) :
    (hostEntries ms : List (String × Option (HostValue Obj))) =
      ms.filterMap fun m => m.1.map fun k => (k, hostValue? m.2) := by
  induction ms with
  | nil => rw [hostEntries]; rfl
  | cons m ms ih =>
    obtain ⟨_ | k, j⟩ := m
    · rw [hostEntries, ih]
      rfl
    · rw [hostEntries, ih]
      rfl

lemma find?_hostEntries (ms : List (Option String × Json)) (k : String) :
    (Dict.ofList (hostEntries ms)).find? k =
      ((ms.reverse.find? fun m => m.1 = some k).map Prod.snd).map
        (hostValue? : Json → Option (HostValue Obj)) := by
  have hp : (fun m : Option String × Json => (m.1.map fun l => (l, (hostValue? m.2 :
      Option (HostValue Obj)))).any fun e => e.1 = k) = fun m => decide (m.1 = some k) := by
    funext ⟨l, j⟩
    cases l <;> simp
  rw [Dict.find?_ofList_last, hostEntries_eq, ← List.filterMap_reverse, List.find?_filterMap, hp]
  cases hm : ms.reverse.find? fun m => m.1 = some k with
  | none => rfl
  | some m =>
    have hk : m.1 = some k := by simpa using List.find?_some hm
    simp [hk]

lemma find?_present {es : List (String × Option (HostValue Obj))} {fs : List (String × HostValue Obj)}
    (h : es.mapM present = some fs) (k : String) :
    Dict.find? es k = (Dict.find? fs k).map some := by
  induction es generalizing fs with
  | nil =>
    cases h
    rfl
  | cons e es ih =>
    rw [List.mapM_cons] at h
    obtain ⟨f, hf, h⟩ := Option.bind_eq_some_iff.mp h
    obtain ⟨gs, hg, h⟩ := Option.bind_eq_some_iff.mp h
    cases h
    obtain ⟨v, hv, rfl⟩ := Option.map_eq_some_iff.mp hf
    rw [Dict.find?, Dict.find?, ih hg, hv]
    split <;> rfl

lemma into?_numberValue (m : Json.Number) (s : Step) :
    (numberValue m : HostValue Obj).into? s = none := by
  cases m with
  | natural n =>
    rw [numberValue]
    split <;> cases s <;> rfl
  | negative i => cases s <;> rfl
  | real x => cases s <;> rfl

lemma hostValue?_into {j : Json} {v : HostValue Obj} (h : hostValue? j = some v) (s : Step) :
    (j.into? s).map hostValue? = (v.into? s).map some := by
  cases j with
  | null => rw [hostValue?] at h; cases h
  | bool b => rw [hostValue?] at h; cases h; cases s <;> rfl
  | number n =>
    rw [hostValue?] at h
    obtain ⟨m, -, rfl⟩ := Option.map_eq_some_iff.mp h
    rw [into?_numberValue]
    cases s <;> rfl
  | string t =>
    rw [hostValue?] at h
    obtain ⟨u, -, rfl⟩ := Option.map_eq_some_iff.mp h
    cases s <;> rfl
  | array js =>
    rw [hostValue?] at h
    obtain ⟨vs, hs, rfl⟩ := Option.map_eq_some_iff.mp h
    cases s with
    | item i => exact getElem?_hostValues hs i
    | member k => rfl
  | object ms =>
    rw [hostValue?] at h
    obtain ⟨fs, hs, rfl⟩ := Option.map_eq_some_iff.mp h
    cases s with
    | item i => rfl
    | member k => exact (find?_hostEntries ms k).symm.trans (find?_present hs k)

lemma hostValue?_at {j l : Json} {v : HostValue Obj} (h : hostValue? j = some v) {p : List Step}
    (hl : j.at? p = some l) : ∃ w, v.at? p = some w ∧ hostValue? l = some w := by
  induction p generalizing j v with
  | nil =>
    cases hl
    exact ⟨v, rfl, h⟩
  | cons s p ih =>
    obtain ⟨j', hj, hl⟩ := Option.bind_eq_some_iff.mp hl
    have hs := hostValue?_into h s
    rw [hj, Option.map_some] at hs
    obtain ⟨v', hv, h'⟩ := Option.map_eq_some_iff.mp hs.symm
    obtain ⟨w, hw, hlw⟩ := ih h'.symm hl
    exact ⟨w, by rw [HostValue.at?, hv, Option.bind_some, hw], hlw⟩

end Parts

section Nulls

variable {α β : Type}

lemma mapM_eq_none_iff {f : α → Option β} {xs : List α} :
    xs.mapM f = none ↔ ∃ x ∈ xs, f x = none := by
  induction xs with
  | nil => simp
  | cons x xs ih =>
    rw [List.mapM_cons]
    cases hx : f x with
    | none => simp [hx]
    | some y =>
      cases hs : xs.mapM f with
      | none => simpa [hx] using ih.mp hs
      | some ys => simpa [hx, hs] using ih

lemma isSome_of_mapM {f : α → Option β} {xs : List α} (h : (xs.mapM f).isSome = true) :
    ∀ x ∈ xs, (f x).isSome = true := by
  intro x hx
  by_contra hn
  rw [mapM_eq_none_iff.mpr ⟨x, hx, by simpa using hn⟩] at h
  cases h

lemma hostValues?_eq (js : List Json) :
    (hostValues? js : Option (List (HostValue Obj))) = js.mapM hostValue? := by
  induction js with
  | nil => rw [hostValues?]; rfl
  | cons j js ih => rw [hostValues?, List.mapM_cons, ih]; rfl

lemma find?_of_absent {es : List (String × Option (HostValue Obj))}
    (h : (Dict.ofList es).mapM present = none) : ∃ k, (Dict.ofList es).find? k = some none := by
  obtain ⟨⟨k, o⟩, he, hn⟩ := mapM_eq_none_iff.mp h
  obtain rfl : o = none := Option.map_eq_none_iff.mp hn
  exact ⟨k, Dict.find?_of_mem (Dict.ofList_nodup es) he⟩

lemma items_isSome {js : List Json} {b : Nat} (h : ((Json.array js).canonical? b).isSome = true) :
    ∃ b', ∀ j ∈ js, (j.canonical? b').isSome = true := by
  cases b with
  | zero => cases h
  | succ b =>
    have hc : (Json.array js).canonical? (b + 1) = (js.mapM (Json.canonical? b)).map .array := rfl
    rw [hc, Option.isSome_map] at h
    exact ⟨b, isSome_of_mapM h⟩

lemma members_isSome {ms : List (Option String × Json)} {b : Nat}
    (h : ((Json.object ms).canonical? b).isSome = true) :
    ∃ b', ∀ m ∈ ms, (m.2.canonical? b').isSome = true := by
  cases b with
  | zero => cases h
  | succ b =>
    have hc : (Json.object ms).canonical? (b + 1) = (ms.mapM fun m => do
        some ((← m.1), (← m.2.canonical? b)) : Option (List (String × Json))).bind fun es =>
          some (Json.ofDict (Dict.ofList es)) := rfl
    obtain ⟨es, he, -⟩ := Option.bind_eq_some_iff.mp (hc.symm.trans (Option.eq_some_of_isSome h))
    refine ⟨b, fun m hm => ?_⟩
    obtain ⟨l, -, hd⟩ := Option.bind_eq_some_iff.mp
      (Option.eq_some_of_isSome (isSome_of_mapM (Option.isSome_of_eq_some he) m hm))
    obtain ⟨d, hd, -⟩ := Option.bind_eq_some_iff.mp hd
    exact Option.isSome_of_eq_some hd

mutual

lemma exists_null : (j : Json) → {b : Nat} → (j.canonical? b).isSome = true →
    (hostValue? j : Option (HostValue Obj)) = none → ∃ p, j.at? p = some .null
  | .null, _, _, _ => ⟨[], rfl⟩
  | .bool v, _, _, h => by
    rw [hostValue?] at h
    cases h
  | .number n, b, hd, h => by
    have hc : (Json.number n).canonical? b = n.value?.map fun v => .number (.ofNumber v) := by
      cases b <;> rfl
    rw [hostValue?, Option.map_eq_none_iff] at h
    rw [hc, h] at hd
    cases hd
  | .string t, b, hd, h => by
    have hc : (Json.string t).canonical? b = t.map Json.text := by cases b <;> rfl
    rw [hostValue?, Option.map_eq_none_iff] at h
    rw [hc, h] at hd
    cases hd
  | .array js, _, hd, h => by
    obtain ⟨_, hs⟩ := items_isSome hd
    rw [hostValue?, Option.map_eq_none_iff, hostValues?_eq, mapM_eq_none_iff] at h
    obtain ⟨j, hj, h⟩ := h
    obtain ⟨p, hp⟩ := exists_null_item js hs j hj h
    obtain ⟨i, hi⟩ := List.getElem?_of_mem hj
    refine ⟨.item i :: p, ?_⟩
    rw [Json.at?, Json.into?, hi]
    exact hp
  | .object ms, _, hd, h => by
    obtain ⟨_, hs⟩ := members_isSome hd
    rw [hostValue?, Option.map_eq_none_iff] at h
    obtain ⟨k, hk⟩ := find?_of_absent h
    rw [find?_hostEntries, Option.map_eq_some_iff] at hk
    obtain ⟨j, hj, h⟩ := hk
    obtain ⟨m, hm, rfl⟩ := Option.map_eq_some_iff.mp hj
    obtain ⟨p, hp⟩ := exists_null_member ms hs m
      (List.mem_reverse.mp (List.mem_of_find?_eq_some hm)) h
    refine ⟨.member k :: p, ?_⟩
    rw [Json.at?, Json.into?, hj]
    exact hp

lemma exists_null_item : (js : List Json) → {b : Nat} → (∀ j ∈ js, (j.canonical? b).isSome = true) →
    ∀ j ∈ js, (hostValue? j : Option (HostValue Obj)) = none → ∃ p, j.at? p = some .null
  | [], _, _, _, hj, _ => absurd hj List.not_mem_nil
  | j :: js, b, hd, x, hx, h => by
    obtain ⟨hj, hs⟩ := List.forall_mem_cons.mp hd
    rcases List.mem_cons.mp hx with hx | hx
    · rw [hx] at h ⊢
      exact exists_null j hj h
    · exact exists_null_item js hs x hx h

lemma exists_null_member : (ms : List (Option String × Json)) → {b : Nat} →
    (∀ m ∈ ms, (m.2.canonical? b).isSome = true) →
      ∀ m ∈ ms, (hostValue? m.2 : Option (HostValue Obj)) = none → ∃ p, m.2.at? p = some .null
  | [], _, _, _, hm, _ => absurd hm List.not_mem_nil
  | (k, j) :: ms, b, hd, x, hx, h => by
    obtain ⟨hj, hs⟩ := List.forall_mem_cons.mp hd
    rcases List.mem_cons.mp hx with hx | hx
    · rw [hx] at h ⊢
      exact exists_null j hj h
    · exact exists_null_member ms hs x hx h

end

lemma hostValue?_iff {j : Json} (hd : isDocument j = true) :
    (∃ v : HostValue Obj, hostValue? j = some v) ↔ ∀ p, j.at? p ≠ some .null := by
  constructor
  · rintro ⟨v, hv⟩ p hp
    obtain ⟨w, -, hw⟩ := hostValue?_at hv hp
    rw [hostValue?] at hw
    cases hw
  · intro h
    by_contra hn
    obtain ⟨p, hp⟩ := @exists_null Obj j _ hd
      (Option.eq_none_iff_forall_ne_some.mpr fun v hv => hn ⟨v, hv⟩)
    exact h p hp

end Nulls

section Pairs

variable {name raw : String} {before after : List String} {d : Dict String (HostValue Obj)}

lemma exists_of_bind {ε α β : Type} {x : Except ε α} {f : α → Except ε β} {b : β}
    (h : x >>= f = .ok b) : ∃ a, x = .ok a ∧ f a = .ok b := by
  cases x with
  | error e => cases h
  | ok a => exact ⟨a, rfl, h⟩

lemma append_of_splitEquals {cs n r : List Char} (h : splitEquals cs = (n, some r)) :
    cs = n ++ '=' :: r := by
  fun_induction splitEquals cs generalizing n with
  | case1 => cases h
  | case2 r => cases h; rfl
  | case3 c cs hc m o hs ih =>
    obtain ⟨rfl, rfl⟩ := Prod.mk.inj h
    rw [List.cons_append, ← ih hs]

lemma readBinding_name {pair : String} {e : String × HostValue Obj} (h : readBinding pair = .ok e) :
    ∃ r, pair = e.1 ++ "=" ++ r := by
  unfold readBinding at h
  split at h
  · cases h
  · rename_i n r hs
    have hp : pair = String.ofList n ++ "=" ++ String.ofList r := by
      rw [← String.toList_inj, append_of_splitEquals hs]
      simp [String.toList_append]
    dsimp only at h
    split at h
    · cases h
    · split at h
      · cases h
      · cases h
        exact ⟨_, hp⟩

lemma not_renamed {es : List (String × HostValue Obj)} (h : after.mapM readBinding = .ok es)
    (hl : ∀ r, name ++ "=" ++ r ∉ after) : ∀ e ∈ es, e.1 ≠ name := by
  induction after generalizing es with
  | nil =>
    cases h
    exact List.forall_mem_nil _
  | cons pair after ih =>
    rw [List.mapM_cons] at h
    obtain ⟨e, he, h⟩ := exists_of_bind h
    obtain ⟨fs, hs, h⟩ := exists_of_bind h
    cases h
    refine List.forall_mem_cons.mpr ⟨?_, ih hs fun r hr => hl r (List.mem_cons_of_mem _ hr)⟩
    rintro rfl
    obtain ⟨r, rfl⟩ := readBinding_name he
    exact hl r List.mem_cons_self

lemma readBinding_ok_iff (hn : '=' ∉ name.toList) {e : String × HostValue Obj} :
    readBinding (name ++ "=" ++ raw) = .ok e ↔
      ∃ j v, document? raw = some j ∧ hostValue? j = some v ∧ e = (name, v) := by
  rw [readBinding_eq hn]
  cases document? raw with
  | none => simp
  | some j =>
    rw [Option.elim_some]
    cases hv : (hostValue? j : Option (HostValue Obj)) with
    | none => simp [hv]
    | some v => simp [hv, eq_comm]

lemma find?_readBindings (hn : '=' ∉ name.toList) (hl : ∀ r, name ++ "=" ++ r ∉ after)
    (h : readBindings (before ++ (name ++ "=" ++ raw) :: after) = .ok d) :
    ∃ j v, document? raw = some j ∧ hostValue? j = some v ∧ d.find? name = some v := by
  obtain ⟨es, hm, hd⟩ := exists_of_bind h
  cases hd
  rw [List.mapM_append] at hm
  obtain ⟨bs, -, hm⟩ := exists_of_bind hm
  obtain ⟨cs, hc, hm⟩ := exists_of_bind hm
  cases hm
  rw [List.mapM_cons] at hc
  obtain ⟨e, he, hc⟩ := exists_of_bind hc
  obtain ⟨as, ha, hc⟩ := exists_of_bind hc
  cases hc
  obtain ⟨j, v, hj, hv, rfl⟩ := (readBinding_ok_iff hn).mp he
  have hf : (as.reverse.find? fun e => decide (e.1 = name)) = none := by
    simpa using not_renamed ha hl
  refine ⟨j, v, hj, hv, ?_⟩
  rw [Dict.find?_ofList_last, List.reverse_append, List.reverse_cons, List.append_assoc,
    List.find?_append, hf]
  simp

lemma document?_of_none (hr : jsonText? raw = none) {j : Json} (hj : document? raw = some j) :
    j = .string (some raw) := by
  rw [document?, hr, Option.none_or] at hj
  by_cases h : ∀ c ∈ raw.toList, Text.Plain c
  · rw [jsonText?, Text.read?_quoted h] at hj
    cases hj
    rfl
  · rw [jsonText?, Text.read?_quoted_odd h] at hj
    cases hj

end Pairs

/-- Where the document of a pair has an integer, the value that its name is bound to has that integer
as long as it has 64 bits with its sign, and else a float: no integer has a pair refused, only a null
has. A pair whose value is no document binds the text of it. -/
theorem integers_bound (name raw : String) (hn : '=' ∉ name.toList) :
    (∀ before after (d : Dict String (HostValue Obj)), (∀ r, name ++ "=" ++ r ∉ after) →
      readBindings (before ++ (name ++ "=" ++ raw) :: after) = .ok d →
      ∃ v, d.find? name = some v ∧ (jsonText? raw = none → v = .string raw) ∧
        ∀ j, jsonText? raw = some j → ∀ p n i, j.at? p = some (.number n) → n.integer? = some i →
          ∃ w, v.at? p = some w ∧ Binds i w) ∧
    ∀ j, jsonText? raw = some j →
      ((∃ v : HostValue Obj, readBindings [name ++ "=" ++ raw] = .ok [(name, v)]) ↔
        ∀ p, j.at? p ≠ some .null) := by
  constructor
  · intro before after d hl h
    obtain ⟨j, v, hj, hv, hf⟩ := find?_readBindings hn hl h
    refine ⟨v, hf, fun hr => ?_, fun t ht p n i hp hi => ?_⟩
    · rw [document?_of_none hr hj, hostValue?] at hv
      cases hv
      rfl
    · rw [document?, ht, Option.some_or] at hj
      cases hj
      obtain ⟨w, hw, hn⟩ := hostValue?_at hv hp
      exact ⟨w, hw, binds_number hi hn⟩
  · intro j hj
    rw [readBindings_document hn hj, ← hostValue?_iff (Option.filter_eq_some_iff.mp hj).2]
    cases (hostValue? j : Option (HostValue Obj)) <;> simp

section Samples

def tally (n : Nat) : Numeral := ⟨false, n, [], none⟩

lemma toInt_ne_of_le {k : Int64} {i : Int} (h : 2 ^ 63 ≤ i) : k.toInt ≠ i := by
  have := k.toInt_lt
  omega

theorem integers_bound_tallies :
    '=' ∉ "x".toList ∧ ∃ (d : Dict String (HostValue Unit)) (v : HostValue Unit),
      readBindings ["x" ++ "=" ++ "\x7b\"a\":[9007199254740993,9223372036854775809]\x7d"] = .ok d ∧
        d.find? "x" = some v ∧ v.at? [.member "a", .item 0] = some (.integer 9007199254740993) ∧
          ∃ x, v.at? [.member "a", .item 1] = some (.float x) ∧
            ∀ y, |floatValue x - 9223372036854775809| ≤ |floatValue y - 9223372036854775809| := by
  have hn : '=' ∉ "x".toList := by decide
  have hj : jsonText? "\x7b\"a\":[9007199254740993,9223372036854775809]\x7d" = some
      (.object [(some "a", .array [.number (tally 9007199254740993),
        .number (tally 9223372036854775809)])]) := rfl
  have hd := @readBindings_document Unit _ _ _ hn hj
  obtain ⟨v, hf, -, hv⟩ := (integers_bound "x" _ hn).1 [] [] _ nofun hd
  obtain ⟨a, ha, hk, -⟩ := hv _ hj [.member "a", .item 0] (tally 9007199254740993) _ rfl rfl
  obtain ⟨b, hb, -, hl⟩ := hv _ hj [.member "a", .item 1] (tally 9223372036854775809) _ rfl rfl
  obtain ⟨x, rfl, hx⟩ := hl fun _ => toInt_ne_of_le (by decide)
  refine ⟨hn, _, v, hd, hf, ?_, x, hb, ?_⟩
  · rw [ha, hk 9007199254740993 (by decide)]
  · exact_mod_cast hx (by decide) (by decide)

/-- An integer that has no 64 bits with a sign is not refused: another number is bound. -/
theorem unsigned_integer_bound_as_float :
    jsonText? "9223372036854775809" = some (.number (tally 9223372036854775809)) ∧
      (tally 9223372036854775809).integer? = some 9223372036854775809 ∧
        (∀ k : Int64, k.toInt ≠ 9223372036854775809) ∧
          readBindings ["x" ++ "=" ++ "9223372036854775809"] =
            .ok [("x", (.float 9223372036854775808 : HostValue Unit))] ∧
          floatValue 9223372036854775808 = 9223372036854775808 := by
  have hj : jsonText? "9223372036854775809" = some (.number (tally 9223372036854775809)) := rfl
  have hx : (UInt64.ofNat 9223372036854775809).toFloat = 9223372036854775808 := by decide +kernel
  have hu : (9223372036854775808 : Float).toModel.unpack =
      .finite .positive 4503599627370496 11 (by decide) := rfl
  refine ⟨hj, rfl, fun _ => toInt_ne_of_le (by decide), ?_, ?_⟩
  · rw [readBindings_document (by decide) hj, ← hx]
    rfl
  · rw [floatValue, hu, value_positive]
    norm_num

end Samples

end Cli

end PolicyBridge
