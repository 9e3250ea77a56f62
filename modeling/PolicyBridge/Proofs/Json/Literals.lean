import Mathlib.Tactic
import PolicyBridge.Json.Numeral

namespace PolicyBridge.Json.Numeral

lemma digit?_digitChar (d : Fin 10) : digit? (digitChar d) = some d := by
  revert d
  decide

lemma digitChar_nat (d : Fin 10) : Nat.digitChar d.val = digitChar d := by
  revert d
  decide

section Digits

def Stops (r : List Char) : Prop := ∀ c ∈ r.head?, digit? c = none

lemma splitDigits_of_stops {r : List Char} (h : Stops r) : splitDigits r = ([], r) := by
  cases r with
  | nil => rfl
  | cons c r => rw [splitDigits, h c rfl]

lemma splitDigits_append {r : List Char} (h : Stops r) (ds : List (Fin 10)) :
    splitDigits (ds.map digitChar ++ r) = (ds, r) := by
  induction ds with
  | nil => exact splitDigits_of_stops h
  | cons d ds ih =>
    rw [List.map_cons, List.cons_append, splitDigits, digit?_digitChar, ih]

lemma toDigits_of_lt {n : Nat} (h : n < 10) : toDigits n = [⟨n, h⟩] := by
  rw [toDigits, Nat.toDigits_of_lt_base h]
  change ([(⟨n, h⟩ : Fin 10).val.digitChar]).filterMap digit? = _
  rw [digitChar_nat, List.filterMap_cons, digit?_digitChar]
  rfl

lemma toDigits_of_le {n : Nat} (h : 10 ≤ n) :
    toDigits n = toDigits (n / 10) ++ [⟨n % 10, Nat.mod_lt n (by omega)⟩] := by
  have hn : Nat.toDigits 10 n = Nat.toDigits 10 (n / 10) ++ [Nat.digitChar (n % 10)] := by
    rw [Nat.toDigits_eq_if (by omega), if_neg (by omega)]
  rw [toDigits, hn, List.filterMap_append]
  change _ ++ ([(⟨n % 10, Nat.mod_lt n (by omega)⟩ : Fin 10).val.digitChar]).filterMap digit? = _
  rw [digitChar_nat, List.filterMap_cons, digit?_digitChar]
  rfl

lemma ofDigits_append (ds : List (Fin 10)) (d : Fin 10) :
    ofDigits (ds ++ [d]) = 10 * ofDigits ds + d.val := by
  simp [ofDigits]

structure Names (n : Nat) (ds : List (Fin 10)) : Prop where
  value : ofDigits ds = n
  print : Nat.toDigits 10 n = ds.map digitChar
  lead : ∃ d es, ds = d :: es ∧ (d = 0 → n = 0 ∧ es = [])

lemma toDigits_names (n : Nat) : Names n (toDigits n) := by
  induction n using Nat.strong_induction_on with
  | _ n ih =>
    rcases Nat.lt_or_ge n 10 with h | h
    · rw [toDigits_of_lt h]
      refine ⟨by simp [ofDigits], ?_, ⟨n, h⟩, [], rfl, fun hz => ⟨congrArg Fin.val hz, rfl⟩⟩
      rw [Nat.toDigits_of_lt_base h, List.map_singleton, ← digitChar_nat]
    · obtain ⟨hv, hp, d, es, hd, hz⟩ := ih (n / 10) (by omega)
      have hn : Nat.toDigits 10 n = Nat.toDigits 10 (n / 10) ++ [Nat.digitChar (n % 10)] := by
        rw [Nat.toDigits_eq_if (by omega), if_neg (by omega)]
      rw [toDigits_of_le h]
      refine ⟨?_, ?_, d, es ++ [_], by rw [hd]; rfl, fun h0 => ?_⟩
      · rw [ofDigits_append, hv]
        exact Nat.div_add_mod n 10
      · rw [hn, hp, List.map_append, List.map_singleton, ← digitChar_nat]
      · have := (hz h0).1
        omega

lemma toDigits_ne_nil (n : Nat) : toDigits n ≠ [] := by
  obtain ⟨-, -, d, es, hd, -⟩ := toDigits_names n
  rw [hd]
  exact List.cons_ne_nil d es

end Digits

lemma stops_exponent (e : Option Int) : Stops (exponentChars e) := by
  rcases e with _ | n | n
  · exact fun c h => by cases h
  · rintro c ⟨⟩
    decide
  · rintro c ⟨⟩
    decide

lemma stops_fraction (ds : List (Fin 10)) (e : Option Int) :
    Stops (fractionChars ds ++ exponentChars e) := by
  cases ds with
  | nil => exact stops_exponent e
  | cons d ds =>
    rintro c ⟨⟩
    decide

lemma splitFraction_chars (ds : List (Fin 10)) (e : Option Int) :
    splitFraction (fractionChars ds ++ exponentChars e) = some (ds, exponentChars e) := by
  cases ds with
  | nil => rcases e with _ | n | n <;> rfl
  | cons d ds =>
    have hs := splitDigits_append (stops_exponent e) (d :: ds)
    rw [fractionChars, List.cons_append, splitFraction, hs]
    exact nofun

lemma exponentOf_digits (negative : Bool) (n : Nat) :
    exponentOf negative (Nat.toDigits 10 n) = some (if negative then -(n : Int) else n) := by
  obtain ⟨hv, hp, d, es, hd, -⟩ := toDigits_names n
  have hs := splitDigits_append (r := []) (fun c h => by cases h) (toDigits n)
  rw [List.append_nil] at hs
  rw [hp, exponentOf, hs, hd]
  dsimp only
  rw [← hd, hv]

lemma splitExponent_chars (e : Option Int) : splitExponent (exponentChars e) = some e := by
  rcases e with _ | n | n
  · rfl
  · have he : splitExponent (exponentChars (some (.ofNat n))) =
        some <$> exponentOf false (Nat.toDigits 10 n) := rfl
    rw [he, exponentOf_digits]
    rfl
  · have he : splitExponent (exponentChars (some (.negSucc n))) =
        some <$> exponentOf true (Nat.toDigits 10 (n + 1)) := rfl
    rw [he, exponentOf_digits]
    rfl

lemma splitSign_digits (d : Fin 10) (r : List Char) :
    splitSign (digitChar d :: r) = (false, digitChar d :: r) := by
  have hc : digitChar d ≠ '-' := by
    revert d
    decide
  rw [splitSign]
  intro r' h
  exact hc (List.cons.inj h).1

lemma splitSign_chars (negative : Bool) (n : Nat) (r : List Char) :
    splitSign ((if negative then ['-'] else []) ++ Nat.toDigits 10 n ++ r) =
      (negative, Nat.toDigits 10 n ++ r) := by
  cases negative with
  | true => rfl
  | false =>
    obtain ⟨-, hp, d, es, hd, -⟩ := toDigits_names n
    rw [hp, hd]
    exact splitSign_digits d _

def wholeOf (ds : List (Fin 10)) : Option Nat :=
  if ds = [] ∨ ds.head?.map Fin.val = some 0 ∧ ds.tail ≠ [] then none else some (ofDigits ds)

lemma wholeOf_toDigits (n : Nat) : wholeOf (toDigits n) = some n := by
  obtain ⟨hv, -, d, es, hd, hz⟩ := toDigits_names n
  rw [wholeOf, hv, if_neg]
  rw [hd]
  rintro (h | ⟨h, ht⟩)
  · cases h
  · exact ht (hz (Fin.ext (Option.some.inj h))).2

lemma ofChars?_eq (cs : List Char) : ofChars? cs = (do
    let whole ← wholeOf (splitDigits (splitSign cs).2).1
    let (fraction, r) ← splitFraction (splitDigits (splitSign cs).2).2
    let exponent ← splitExponent r
    some ⟨(splitSign cs).1, whole, fraction, exponent⟩) := by
  unfold ofChars?
  rcases splitSign cs with ⟨negative, cs⟩
  rcases hd : splitDigits cs with ⟨_ | ⟨d, _ | ⟨e, es⟩⟩, r⟩ <;> simp only [hd]
  · rfl
  · simp [wholeOf, ofDigits]
  · by_cases h : d = 0
    · simp [wholeOf, h]
    · simp [wholeOf, h, Fin.val_eq_zero_iff]

theorem ofChars?_chars (n : Numeral) : ofChars? n.chars = some n := by
  obtain ⟨negative, whole, fraction, exponent⟩ := n
  have hs := splitSign_chars negative whole (fractionChars fraction ++ exponentChars exponent)
  have hd := splitDigits_append (stops_fraction fraction exponent) (toDigits whole)
  rw [← (toDigits_names whole).print] at hd
  rw [ofChars?_eq, chars, List.append_assoc, hs]
  dsimp only
  rw [hd, wholeOf_toDigits, splitFraction_chars]
  change (splitExponent (exponentChars exponent)).bind _ = _
  rw [splitExponent_chars]
  rfl

def Sign (c : Char) : Prop := c ∈ ['-', '+', '.', 'e'] ∨ ∃ d, c = digitChar d

lemma sign_of_mem_digits {n : Nat} {c : Char} (h : c ∈ Nat.toDigits 10 n) : Sign c := by
  rw [(toDigits_names n).print] at h
  obtain ⟨d, -, rfl⟩ := List.mem_map.mp h
  exact .inr ⟨d, rfl⟩

lemma sign_of_mem_fraction {ds : List (Fin 10)} {c : Char} (h : c ∈ fractionChars ds) : Sign c := by
  cases ds with
  | nil => cases h
  | cons d ds =>
    rcases List.mem_cons.mp h with rfl | h
    · exact .inl (by decide)
    · obtain ⟨d, -, rfl⟩ := List.mem_map.mp h
      exact .inr ⟨d, rfl⟩

lemma sign_of_mem_exponent {e : Option Int} {c : Char} (h : c ∈ exponentChars e) : Sign c := by
  rcases e with _ | n | n
  · cases h
  · rcases List.mem_cons.mp h with rfl | h
    · exact .inl (by decide)
    rcases List.mem_cons.mp h with rfl | h
    · exact .inl (by decide)
    · exact sign_of_mem_digits h
  · rcases List.mem_cons.mp h with rfl | h
    · exact .inl (by decide)
    rcases List.mem_cons.mp h with rfl | h
    · exact .inl (by decide)
    · exact sign_of_mem_digits h

lemma sign_of_mem_chars {n : Numeral} {c : Char} (h : c ∈ n.chars) : Sign c := by
  rw [chars, List.mem_append, List.mem_append, List.mem_append] at h
  rcases h with ((h | h) | h) | h
  · obtain rfl : c = '-' := by
      cases hn : n.negative <;> simp [hn] at h
      exact h
    exact .inl (by decide)
  · exact sign_of_mem_digits h
  · exact sign_of_mem_fraction h
  · exact sign_of_mem_exponent h

lemma chars_ne_nil (n : Numeral) : n.chars ≠ [] := by
  obtain ⟨-, hp, d, es, hd, -⟩ := toDigits_names n.whole
  rw [chars, hp, hd]
  simp

end PolicyBridge.Json.Numeral
