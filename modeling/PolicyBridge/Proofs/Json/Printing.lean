import Mathlib.Tactic
import PolicyBridge.Json.Text
import PolicyBridge.Proofs.Json.Literals

namespace PolicyBridge

namespace Json

lemma nul_ne_hexDigit : ∀ n < 16, '\x00' ≠ hexDigit n := by decide

lemma nul_not_mem_escapeChar (c : Char) : '\x00' ∉ escapeChar c := by
  unfold escapeChar
  split_ifs with _ _ _ _ _ _ _ hc
  · decide
  · decide
  · decide
  · decide
  · decide
  · decide
  · decide
  · have h₁ := nul_ne_hexDigit (c.toNat / 16) (by omega)
    have h₂ := nul_ne_hexDigit (c.toNat % 16) (by omega)
    simp [h₁, h₂]
  · intro h
    rw [← List.mem_singleton.mp h] at hc
    exact hc (by decide)

lemma nul_not_mem_quotedChars (s : Option String) : '\x00' ∉ quotedChars s := by
  cases s with
  | none => decide
  | some s =>
    have hs : '\x00' ∉ s.toList.flatMap escapeChar := by
      intro h
      obtain ⟨c, -, hc⟩ := List.mem_flatMap.mp h
      exact nul_not_mem_escapeChar c hc
    simp [quotedChars, hs]

lemma nul_not_mem_numeral (n : Numeral) : '\x00' ∉ n.chars := by
  intro h
  have hd : ∀ d, '\x00' ≠ Numeral.digitChar d := by decide
  rcases Numeral.sign_of_mem_chars h with h | ⟨d, h⟩
  · simp at h
  · exact hd d h

lemma nul_not_mem_wordChars (j : Json) : '\x00' ∉ wordChars j := by
  cases j with
  | number n => exact nul_not_mem_numeral n
  | bool b => cases b <;> decide
  | _ => simp [wordChars]

mutual

lemma nul_not_mem_put : (j : Json) → {r : List Char} → '\x00' ∉ r → '\x00' ∉ put j r
  | .string s, r, h => by
    have hs := nul_not_mem_quotedChars s
    simp [put, hs, h]
  | .array items, r, h => by
    have hi := nul_not_mem_putItems items (r := ']' :: r) (by simp [h])
    simp [put, hi]
  | .object members, r, h => by
    have hm := nul_not_mem_putMembers members (r := '}' :: r) (by simp [h])
    simp [put, hm]
  | .null, r, h => by
    have hw := nul_not_mem_wordChars .null
    simp [put, hw, h]
  | .bool b, r, h => by
    have hw := nul_not_mem_wordChars (.bool b)
    simp [put, hw, h]
  | .number n, r, h => by
    have hw := nul_not_mem_wordChars (.number n)
    simp [put, hw, h]

lemma nul_not_mem_putItems :
    (js : List Json) → {r : List Char} → '\x00' ∉ r → '\x00' ∉ putItems js r
  | [], r, h => by simpa [putItems] using h
  | [j], r, h => by simpa [putItems] using nul_not_mem_put j h
  | j :: k :: js, r, h => by
    have hk := nul_not_mem_putItems (k :: js) h
    have hj := nul_not_mem_put j (r := ',' :: putItems (k :: js) r) (by simp [hk])
    simpa [putItems] using hj

lemma nul_not_mem_putMembers : (ms : List (Option String × Json)) → {r : List Char} → '\x00' ∉ r →
    '\x00' ∉ putMembers ms r
  | [], r, h => by simpa [putMembers] using h
  | [(k, j)], r, h => by
    have hk := nul_not_mem_quotedChars k
    have hj := nul_not_mem_put j h
    simp [putMembers, hk, hj]
  | (k, j) :: m :: ms, r, h => by
    have hk := nul_not_mem_quotedChars k
    have hm := nul_not_mem_putMembers (m :: ms) h
    have hj := nul_not_mem_put j (r := ',' :: putMembers (m :: ms) r) (by simp [hm])
    simp [putMembers, hk, hj]

end

lemma nul_not_mem_write (j : Json) : '\x00' ∉ j.write.toList := by
  have h := nul_not_mem_put j (r := []) (by simp)
  simpa [write, chars] using h

end Json

end PolicyBridge
