import Mathlib.Tactic
import PolicyBridge.Json.Text
import PolicyBridge.Proofs.Json.Literals

namespace PolicyBridge.Json

open Numeral

mutual

def tokens : Json → List Token → List Token
  | .string s, ts => .text s :: ts
  | .array items, ts => .mark .openArray :: tokensOfItems items (.mark .closeArray :: ts)
  | .object members, ts => .mark .openObject :: tokensOfMembers members (.mark .closeObject :: ts)
  | .null, ts => .word .null :: ts
  | .bool b, ts => .word (.bool b) :: ts
  | .number n, ts => .word (.number n) :: ts

def tokensOfItems : List Json → List Token → List Token
  | [], ts => ts
  | [j], ts => tokens j ts
  | j :: js, ts => tokens j (.mark .comma :: tokensOfItems js ts)

def tokensOfMembers : List (Option String × Json) → List Token → List Token
  | [], ts => ts
  | [(k, j)], ts => .text k :: .mark .colon :: tokens j ts
  | (k, j) :: ms, ts => .text k :: .mark .colon :: tokens j (.mark .comma :: tokensOfMembers ms ts)

end

def Scans (cs : List Char) (ts : List Token) : Prop :=
  ∀ seen, (Scan.run ⟨.between, seen⟩ cs).bind Scan.finish = some (seen.reverse ++ ts)

def Breaks (cs : List Char) : Prop := ∀ c ∈ cs.head?, Scan.endsWord c = true

lemma run_of_step {s x : Scan} {c : Char} (h : s.step c = some x) (cs : List Char) :
    s.run (c :: cs) = x.run cs := by
  rw [Scan.run, h]

lemma scans_nil : Scans [] [] := fun seen => by simp [Scan.run, Scan.finish]

lemma Scans.mark {cs : List Char} {ts : List Token} {c : Char} {m : Mark} (h : Scans cs ts)
    (hc : ∀ s : Scan, s.stepBetween c = s.push (.mark m)) : Scans (c :: cs) (.mark m :: ts) := by
  intro seen
  have hs : Scan.step ⟨.between, seen⟩ c = some ⟨.between, .mark m :: seen⟩ := congrArg some (hc _)
  rw [run_of_step hs]
  refine (h (.mark m :: seen)).trans ?_
  rw [List.reverse_cons, List.append_assoc]
  rfl

section Words

variable {cs r : List Char} {ts : List Token}

lemma run_word (hcs : ∀ c ∈ cs, Scan.endsWord c = false) (seen : List Char) (done : List Token) :
    Scan.run ⟨.word seen, done⟩ (cs ++ r) = Scan.run ⟨.word (cs.reverse ++ seen), done⟩ r := by
  induction cs generalizing seen with
  | nil => rfl
  | cons c cs ih =>
    have hs : Scan.step ⟨.word seen, done⟩ c = some ⟨.word (c :: seen), done⟩ := by
      simp [Scan.step, hcs c List.mem_cons_self]
    rw [List.cons_append, run_of_step hs, ih fun c hc => hcs c (List.mem_cons_of_mem _ hc)]
    simp

lemma run_word_breaks {seen : List Char} {j : Json} (hj : readWord? seen.reverse = some j)
    (hr : Breaks r) (done : List Token) :
    (Scan.run ⟨.word seen, done⟩ r).bind Scan.finish =
      (Scan.run ⟨.between, .word j :: done⟩ r).bind Scan.finish := by
  have hf (s : Scan) : s.finishWord seen = some (s.push (.word j)) := by rw [Scan.finishWord, hj]; rfl
  cases r with
  | nil =>
    change (Scan.finishWord ⟨.word seen, done⟩ seen).map _ = _
    rw [hf]
    rfl
  | cons c r =>
    have hs : Scan.step ⟨.word seen, done⟩ c = Scan.step ⟨.between, .word j :: done⟩ c := by
      simp [Scan.step, hr c rfl, hf, Scan.push]
    rw [Scan.run, hs, Scan.run]

lemma Scans.word {j : Json} (h : Scans r ts) (hr : Breaks r) (hn : cs ≠ [])
    (hcs : ∀ c ∈ cs, Scan.endsWord c = false) (hj : readWord? cs = some j) :
    Scans (cs ++ r) (.word j :: ts) := by
  intro done
  cases cs with
  | nil => exact absurd rfl hn
  | cons c cs =>
    have hc := hcs c List.mem_cons_self
    have hs : Scan.step ⟨.between, done⟩ c = some ⟨.word [c], done⟩ := by
      simp only [Scan.endsWord, Bool.or_eq_false_iff, Option.isSome_eq_false_iff,
        Option.isNone_iff_eq_none, decide_eq_false_iff_not] at hc
      simp [Scan.step, Scan.stepBetween, hc]
    rw [List.cons_append, run_of_step hs, run_word fun c hc => hcs c (List.mem_cons_of_mem _ hc),
      run_word_breaks (j := j) (by simpa using hj) hr]
    refine (h (.word j :: done)).trans ?_
    rw [List.reverse_cons, List.append_assoc]
    rfl

lemma not_endsWord_of_sign {c : Char} (h : Sign c) : Scan.endsWord c = false := by
  rcases h with h | ⟨d, rfl⟩
  · obtain rfl | rfl | rfl | rfl : c = '-' ∨ c = '+' ∨ c = '.' ∨ c = 'e' := by simpa using h
    all_goals rfl
  · revert d
    decide

lemma not_sign_of_letter {c : Char} (hc : c ∈ ['l', 'u']) : ¬ Sign c := by
  rintro (h | ⟨d, rfl⟩)
  · obtain rfl | rfl : c = 'l' ∨ c = 'u' := by simpa using hc
    all_goals
      revert h
      decide
  · revert d
    decide

lemma readWord?_number (n : Numeral) : readWord? n.chars = some (.number n) := by
  have hne (w : List Char) (c : Char) (hc : c ∈ w) (hs : c ∈ ['l', 'u']) : n.chars ≠ w := by
    rintro rfl
    exact not_sign_of_letter hs (sign_of_mem_chars hc)
  rw [readWord?, if_neg (hne _ 'l' (by decide) (by decide)),
    if_neg (hne _ 'u' (by decide) (by decide)), if_neg (hne _ 'l' (by decide) (by decide)),
    ofChars?_chars]
  rfl

lemma Scans.number (h : Scans r ts) (hr : Breaks r) (n : Numeral) :
    Scans (n.chars ++ r) (.word (.number n) :: ts) :=
  h.word hr (chars_ne_nil n) (fun _ hc => not_endsWord_of_sign (sign_of_mem_chars hc))
    (readWord?_number n)

lemma not_endsWord_of_all (h : cs.all (fun c => !Scan.endsWord c) = true) :
    ∀ c ∈ cs, Scan.endsWord c = false := by
  simpa using h

lemma Scans.null (h : Scans r ts) (hr : Breaks r) : Scans (wordChars .null ++ r) (.word .null :: ts) :=
  h.word hr (by decide) (not_endsWord_of_all (by decide)) rfl

lemma Scans.bool (h : Scans r ts) (hr : Breaks r) (b : Bool) :
    Scans (wordChars (.bool b) ++ r) (.word (.bool b) :: ts) := by
  cases b <;> exact h.word hr (by decide) (not_endsWord_of_all (by decide)) rfl

end Words

section Texts

lemma hexValue?_hexDigit : ∀ n < 16, hexValue? (hexDigit n) = some n := by decide

def pieceOf (c : Char) : Piece :=
  if c.toNat < 0x20 ∧ c ≠ '\n' ∧ c ≠ '\r' ∧ c ≠ '\t' ∧ c ≠ '\x08' ∧ c ≠ '\x0c' then
    .escaped c.toNat
  else .char c

lemma run_control {c : Char} (h : c.toNat < 0x20) (seen : List Piece) (done : List Token)
    (r : List Char) :
    Scan.run ⟨.text seen, done⟩
        (['\\', 'u', '0', '0', hexDigit (c.toNat / 16), hexDigit (c.toNat % 16)] ++ r) =
      Scan.run ⟨.text (.escaped c.toNat :: seen), done⟩ r := by
  have hh (v : Nat) : Scan.step ⟨.hex seen v 2, done⟩ (hexDigit (c.toNat / 16)) =
      some ⟨.hex seen (16 * v + c.toNat / 16) 1, done⟩ := by
    simp [Scan.step, hexValue?_hexDigit (c.toNat / 16) (by omega)]
  have hl (v : Nat) : Scan.step ⟨.hex seen v 1, done⟩ (hexDigit (c.toNat % 16)) =
      some ⟨.text (.escaped (16 * v + c.toNat % 16) :: seen), done⟩ := by
    simp [Scan.step, hexValue?_hexDigit (c.toNat % 16) (by omega)]
  have hc : 16 * (16 * 0 + c.toNat / 16) + c.toNat % 16 = c.toNat := by omega
  change Scan.run ⟨.hex seen 0 2, done⟩ (hexDigit (c.toNat / 16) :: hexDigit (c.toNat % 16) :: r) = _
  rw [run_of_step (hh 0), run_of_step (hl _), hc]

lemma run_escapeChar (c : Char) (seen : List Piece) (done : List Token) (r : List Char) :
    Scan.run ⟨.text seen, done⟩ (escapeChar c ++ r) = Scan.run ⟨.text (pieceOf c :: seen), done⟩ r := by
  by_cases hq : c = '"'
  · rw [hq]
    rfl
  by_cases hb : c = '\\'
  · rw [hb]
    rfl
  by_cases hn : c = '\n'
  · rw [hn]
    rfl
  by_cases hr : c = '\r'
  · rw [hr]
    rfl
  by_cases ht : c = '\t'
  · rw [ht]
    rfl
  by_cases h8 : c = '\x08'
  · rw [h8]
    rfl
  by_cases hf : c = '\x0c'
  · rw [hf]
    rfl
  by_cases hc : c.toNat < 0x20
  · have he : escapeChar c =
        ['\\', 'u', '0', '0', hexDigit (c.toNat / 16), hexDigit (c.toNat % 16)] := by
      simp [escapeChar, hq, hb, hn, hr, ht, h8, hf, hc]
    have hp : pieceOf c = .escaped c.toNat := by simp [pieceOf, hn, hr, ht, h8, hf, hc]
    rw [he, hp, run_control hc]
  · have he : escapeChar c = [c] := by simp [escapeChar, hq, hb, hn, hr, ht, h8, hf, hc]
    have hp : pieceOf c = .char c := by simp [pieceOf, hc]
    have hs : Scan.step ⟨.text seen, done⟩ c = some ⟨.text (.char c :: seen), done⟩ := by
      simp [Scan.step, hq, hb, hc]
    rw [he, hp]
    exact run_of_step hs r

lemma run_escapeChars (cs : List Char) (seen : List Piece) (done : List Token) (r : List Char) :
    Scan.run ⟨.text seen, done⟩ (cs.flatMap escapeChar ++ r) =
      Scan.run ⟨.text ((cs.map pieceOf).reverse ++ seen), done⟩ r := by
  induction cs generalizing seen with
  | nil => rfl
  | cons c cs ih =>
    rw [List.flatMap_cons, List.append_assoc, run_escapeChar, ih]
    simp

lemma decode_pieceOf (c : Char) (ps : List Piece) :
    Piece.decode (pieceOf c :: ps) = (Piece.decode ps).map (c :: ·) := by
  unfold pieceOf
  split
  · rename_i h
    rw [Piece.decode.eq_def]
    dsimp only
    rw [if_neg (by omega), if_neg (by omega), Char.ofNat_toNat]
  · rw [Piece.decode]

lemma decode_pieces (cs : List Char) : Piece.decode (cs.map pieceOf) = some cs := by
  induction cs with
  | nil => rfl
  | cons c cs ih => rw [List.map_cons, decode_pieceOf, ih, Option.map_some]

lemma Scans.text {r : List Char} {ts : List Token} (h : Scans r ts) (s : Option String) :
    Scans (quotedChars s ++ r) (.text s :: ts) := by
  intro done
  have hr : Scan.run ⟨.between, done⟩ (quotedChars s ++ r) =
      Scan.run ⟨.between, .text s :: done⟩ r := by
    cases s with
    | none => rfl
    | some s =>
      have hq : Scan.step ⟨.text (s.toList.map pieceOf).reverse, done⟩ '"' =
          some ⟨.between, .text (some s) :: done⟩ := by
        have hf : Scan.step ⟨.text (s.toList.map pieceOf).reverse, done⟩ '"' =
          some (Scan.finishText ⟨.text (s.toList.map pieceOf).reverse, done⟩
            (s.toList.map pieceOf).reverse) := rfl
        rw [hf, Scan.finishText, List.reverse_reverse, decode_pieces, Option.map_some,
          String.ofList_toList]
        rfl
      rw [quotedChars, List.cons_append, List.cons_append, List.append_assoc,
        run_of_step (x := ⟨.text [], done⟩) rfl, run_escapeChars, List.append_nil]
      exact run_of_step hq r
  rw [hr]
  refine (h (.text s :: done)).trans ?_
  rw [List.reverse_cons, List.append_assoc]
  rfl

end Texts

lemma breaks_cons {c : Char} (h : Scan.endsWord c = true) (cs : List Char) : Breaks (c :: cs) := by
  rintro _ ⟨⟩
  exact h

mutual

lemma put_scans : (j : Json) → {r : List Char} → {ts : List Token} → Scans r ts → Breaks r →
    Scans (put j r) (tokens j ts)
  | .null, _, _, h, hr => by
    rw [put, tokens]
    exact h.null hr
  | .bool b, _, _, h, hr => by
    rw [put, tokens]
    exact h.bool hr b
  | .number n, _, _, h, hr => by
    rw [put, tokens]
    exact h.number hr n
  | .string s, _, _, h, _ => by
    rw [put, tokens]
    exact h.text s
  | .array items, _, _, h, _ => by
    rw [put, tokens]
    have hc : Scans _ (.mark .closeArray :: _) := h.mark (c := ']') fun _ => rfl
    exact (putItems_scans items hc (breaks_cons rfl _)).mark fun _ => rfl
  | .object members, _, _, h, _ => by
    rw [put, tokens]
    have hc : Scans _ (.mark .closeObject :: _) := h.mark (c := '\x7d') fun _ => rfl
    exact (putMembers_scans members hc (breaks_cons rfl _)).mark fun _ => rfl

lemma putItems_scans : (js : List Json) → {r : List Char} → {ts : List Token} → Scans r ts →
    Breaks r → Scans (putItems js r) (tokensOfItems js ts)
  | [], _, _, h, _ => by
    rw [putItems, tokensOfItems]
    exact h
  | [j], _, _, h, hr => by
    rw [putItems, tokensOfItems]
    exact put_scans j h hr
  | j :: j' :: js, _, _, h, hr => by
    rw [putItems, tokensOfItems]
    · exact put_scans j ((putItems_scans (j' :: js) h hr).mark fun _ => rfl) (breaks_cons rfl _)
    · exact nofun
    · exact nofun

lemma putMembers_scans : (ms : List (Option String × Json)) → {r : List Char} → {ts : List Token} →
    Scans r ts → Breaks r → Scans (putMembers ms r) (tokensOfMembers ms ts)
  | [], _, _, h, _ => by
    rw [putMembers, tokensOfMembers]
    exact h
  | [(k, j)], _, _, h, hr => by
    rw [putMembers, tokensOfMembers]
    exact ((put_scans j h hr).mark (m := .colon) fun _ => rfl).text k
  | (k, j) :: m :: ms, _, _, h, hr => by
    rw [putMembers, tokensOfMembers]
    · have hm := (putMembers_scans (m :: ms) h hr).mark (c := ',') (m := .comma) fun _ => rfl
      exact ((put_scans j hm (breaks_cons rfl _)).mark (m := .colon) fun _ => rfl).text k
    · exact nofun
    · exact nofun

end

lemma scan_chars (j : Json) : scan (chars j) = some (tokens j []) :=
  put_scans j scans_nil (fun _ h => by cases h) []

end PolicyBridge.Json
