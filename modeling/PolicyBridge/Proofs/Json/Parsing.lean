import Mathlib.Tactic
import PolicyBridge.Proofs.Json.Scanning

namespace PolicyBridge.Json

namespace Expect

lemma run_of_step {e x : Expect} {t : Token} (h : e.step t = some x) (ts : List Token) :
    e.run (t :: ts) = x.run ts := by
  rw [run, h]

lemma step_firstItem {t : Token} (h : t ≠ .mark .closeArray) (fs : List Frame) :
    (Expect.firstItem fs).step t = (Expect.value (.items [] :: fs)).step t := by
  rcases t with (_ | _ | _ | _ | _ | _) | s | j
  · rfl
  · exact absurd rfl h
  all_goals rfl

lemma tokens_cons (j : Json) (ts : List Token) :
    ∃ t us, tokens j ts = t :: us ∧ t ≠ .mark .closeArray := by
  cases j <;> rw [tokens] <;> exact ⟨_, _, rfl, nofun⟩

lemma tokensOfItems_cons (j : Json) (js : List Json) (ts : List Token) :
    ∃ t us, tokensOfItems (j :: js) ts = t :: us ∧ t ≠ .mark .closeArray := by
  cases js with
  | nil =>
    rw [tokensOfItems]
    exact tokens_cons j ts
  | cons j' js =>
    rw [tokensOfItems]
    · exact tokens_cons j _
    · rintro ⟨⟩

lemma run_firstItem (j : Json) (js : List Json) (ts : List Token) (fs : List Frame) :
    (Expect.firstItem fs).run (tokensOfItems (j :: js) ts) =
      (Expect.value (.items [] :: fs)).run (tokensOfItems (j :: js) ts) := by
  obtain ⟨t, us, ht, hn⟩ := tokensOfItems_cons j js ts
  rw [ht, run, step_firstItem hn, run]

mutual

lemma run_tokens : (j : Json) → (fs : List Frame) → (ts : List Token) →
    (Expect.value fs).run (tokens j ts) = (close j fs).run ts
  | .null, fs, ts | .bool _, fs, ts | .number _, fs, ts | .string _, fs, ts => by
    rw [tokens]
    exact run_of_step rfl ts
  | .array [], fs, ts => by
    rw [tokens, tokensOfItems, run_of_step (x := .firstItem fs) rfl]
    exact run_of_step rfl ts
  | .array (j :: js), fs, ts => by
    rw [tokens, run_of_step (x := .firstItem fs) rfl, run_firstItem]
    exact run_items (j :: js) nofun [] fs ts
  | .object [], fs, ts => by
    rw [tokens, tokensOfMembers, run_of_step (x := .firstKey fs) rfl]
    exact run_of_step rfl ts
  | .object (m :: ms), fs, ts => by
    rw [tokens, run_of_step (x := .firstKey fs) rfl]
    have hk : (Expect.firstKey fs).run (tokensOfMembers (m :: ms) (.mark .closeObject :: ts)) =
        (Expect.key [] fs).run (tokensOfMembers (m :: ms) (.mark .closeObject :: ts)) := by
      cases ms <;> rw [tokensOfMembers] <;> first | rfl | exact nofun
    rw [hk]
    exact run_members (m :: ms) nofun [] fs ts

lemma run_items : (js : List Json) → js ≠ [] → (done : List Json) → (fs : List Frame) →
    (ts : List Token) → (Expect.value (.items done :: fs)).run
      (tokensOfItems js (.mark .closeArray :: ts)) = (close (.array (done.reverse ++ js)) fs).run ts
  | [], h, _, _, _ => absurd rfl h
  | [j], _, done, fs, ts => by
    rw [tokensOfItems, run_tokens j (.items done :: fs)]
    refine (run_of_step (e := .separator (.items (j :: done)) fs) rfl ts).trans ?_
    rw [List.reverse_cons]
  | j :: j' :: js, _, done, fs, ts => by
    rw [tokensOfItems, run_tokens j (.items done :: fs)]
    · refine (run_of_step (e := .separator (.items (j :: done)) fs) rfl _).trans ?_
      rw [run_items (j' :: js) nofun (j :: done) fs ts, List.reverse_cons, List.append_assoc]
      rfl
    · exact nofun

lemma run_members : (ms : List (Option String × Json)) → ms ≠ [] →
    (done : List (Option String × Json)) → (fs : List Frame) → (ts : List Token) →
    (Expect.key done fs).run (tokensOfMembers ms (.mark .closeObject :: ts)) =
      (close (.object (done.reverse ++ ms)) fs).run ts
  | [], h, _, _, _ => absurd rfl h
  | [(k, j)], _, done, fs, ts => by
    rw [tokensOfMembers, run_of_step (x := .colon done k fs) rfl,
      run_of_step (x := .value (.member done k :: fs)) rfl, run_tokens j (.member done k :: fs)]
    refine (run_of_step (e := .separator (.member ((k, j) :: done) k) fs) rfl ts).trans ?_
    rw [List.reverse_cons]
  | (k, j) :: m :: ms, _, done, fs, ts => by
    rw [tokensOfMembers, run_of_step (x := .colon done k fs) rfl,
      run_of_step (x := .value (.member done k :: fs)) rfl, run_tokens j (.member done k :: fs)]
    · refine (run_of_step (e := .separator (.member ((k, j) :: done) k) fs) rfl _).trans ?_
      rw [run_members (m :: ms) nofun ((k, j) :: done) fs ts, List.reverse_cons, List.append_assoc]
      rfl
    · exact nofun

end

end Expect

theorem read?_write (j : Json) : read? j.write = some j := by
  have hp : ofTokens? (tokens j []) = some j := by
    rw [ofTokens?, Expect.run_tokens]
    rfl
  rw [read?, write, String.toList_ofList, ofChars?, scan_chars]
  exact hp

end PolicyBridge.Json
