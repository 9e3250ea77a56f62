import Mathlib.Tactic
import PolicyBridge.Cli.Binding
import PolicyBridge.Proofs.Json.Scanning

/-! Bindings that are no JSON. The quoted form of a text is JSON for the same text as long as none
of its characters is written as a code point, which JSON has no such escape for. -/

namespace PolicyBridge

open Json (Piece Scan)

namespace Text

/-- A character whose quoted form is one of JSON for it. -/
def Plain (c : Char) : Prop :=
  c ∈ ['\t', '\r', '\n'] ∨ 0x20 ≤ c.toNat ∧ c.toNat < 0x7f ∨
    0x7f ≤ c.toNat ∧ isExtending c = false ∧ isUnprintable c = false

instance (c : Char) : Decidable (Plain c) :=
  inferInstanceAs (Decidable (_ ∨ _ ∧ _ ∨ _ ∧ _ ∧ _))

lemma isUnprintable_of_mem {c : Char} {r : Nat × Nat} (hr : r ∈ unprintableRanges)
    (hl : r.1 ≤ c.toNat) (hu : c.toNat ≤ r.2) : isUnprintable c = true :=
  List.any_eq_true.mpr ⟨r, hr, by simp [hl, hu]⟩

lemma isUnprintable_of_control {c : Char} (h : c.toNat < 0x20) : isUnprintable c = true :=
  isUnprintable_of_mem (r := (0x0, 0x20)) (List.mem_of_getElem? (i := 0) rfl) (Nat.zero_le _) h.le

lemma not_plain_delete : ¬ Plain '\x7f' := by
  have hu : isUnprintable '\x7f' = true :=
    isUnprintable_of_mem (r := (0x7f, 0xa0)) (List.mem_of_getElem? (i := 1) rfl) (by decide)
      (by decide)
  rintro (h | h | ⟨-, -, h⟩)
  · exact absurd h (by decide)
  · exact absurd h (by decide)
  · rw [hu] at h
    cases h

section Scanning

variable (seen : List Piece) (done : List Json.Token) (r : List Char)

lemma run_showChar {c : Char} (h : Plain c) : Scan.run ⟨.text seen, done⟩ (showChar c ++ r) =
    Scan.run ⟨.text (.char c :: seen), done⟩ r := by
  by_cases ht : c = '\t'
  · rw [ht]
    rfl
  by_cases hr : c = '\r'
  · rw [hr]
    rfl
  by_cases hn : c = '\n'
  · rw [hn]
    rfl
  by_cases hb : c = '\\'
  · rw [hb]
    rfl
  by_cases hq : c = '"'
  · rw [hq]
    rfl
  have h := h.resolve_left (by simp [ht, hr, hn])
  have hc : 0x20 ≤ c.toNat := by omega
  have hz : c ≠ '\x00' := by
    rintro rfl
    exact absurd hc (by decide)
  have hs : showChar c = [c] := by
    rw [showChar, if_neg hz, if_neg ht, if_neg hr, if_neg hn, if_neg hb, if_neg hq]
    rcases h with h | ⟨-, he, hu⟩
    · rw [if_pos h]
    · simp [he, hu]
  have hp : Scan.step ⟨.text seen, done⟩ c = some ⟨.text (.char c :: seen), done⟩ := by
    simp [Scan.step, hq, hb, hc]
  rw [hs]
  exact Json.run_of_step hp r

lemma showChar_odd {c : Char} (h : ¬ Plain c) (hz : c ≠ '\x00') : showChar c = codeEscape c := by
  obtain ⟨hm, ha, hu⟩ : c ∉ ['\t', '\r', '\n'] ∧ ¬ (0x20 ≤ c.toNat ∧ c.toNat < 0x7f) ∧
      ¬ (0x7f ≤ c.toNat ∧ isExtending c = false ∧ isUnprintable c = false) := by
    simpa only [Plain, not_or] using h
  obtain ⟨ht, hr, hn⟩ : c ≠ '\t' ∧ c ≠ '\r' ∧ c ≠ '\n' := by simpa using hm
  have hb : c ≠ '\\' := by rintro rfl; exact ha (by decide)
  have hq : c ≠ '"' := by rintro rfl; exact ha (by decide)
  have hx : (isExtending c || isUnprintable c) = true := by
    by_cases hc : c.toNat < 0x20
    · rw [isUnprintable_of_control hc, Bool.or_true]
    · by_contra hx
      refine hu ⟨by omega, ?_⟩
      simpa using hx
  rw [showChar, if_neg hz, if_neg ht, if_neg hr, if_neg hn, if_neg hb, if_neg hq, if_neg ha,
    if_pos hx]

lemma run_showChar_odd {c : Char} (h : ¬ Plain c) :
    Scan.run ⟨.text seen, done⟩ (showChar c ++ r) = none := by
  by_cases hz : c = '\x00'
  · rw [hz]
    rfl
  · rw [showChar_odd h hz]
    rfl

lemma run_showChars {cs : List Char} (h : ∀ c ∈ cs, Plain c) :
    Scan.run ⟨.text seen, done⟩ (cs.flatMap showChar ++ r) =
      Scan.run ⟨.text ((cs.map .char).reverse ++ seen), done⟩ r := by
  induction cs generalizing seen with
  | nil => rfl
  | cons c cs ih =>
    obtain ⟨hc, hcs⟩ := List.forall_mem_cons.mp h
    rw [List.flatMap_cons, List.append_assoc, run_showChar seen done _ hc, ih _ hcs]
    simp

lemma run_showChars_odd {cs : List Char} (h : ¬ ∀ c ∈ cs, Plain c) :
    Scan.run ⟨.text seen, done⟩ (cs.flatMap showChar ++ r) = none := by
  induction cs generalizing seen with
  | nil => exact absurd (List.forall_mem_nil _) h
  | cons c cs ih =>
    rw [List.flatMap_cons, List.append_assoc]
    by_cases hc : Plain c
    · rw [run_showChar seen done _ hc]
      exact ih _ fun hcs => h (List.forall_mem_cons.mpr ⟨hc, hcs⟩)
    · exact run_showChar_odd seen done _ hc

end Scanning

lemma decode_chars (cs : List Char) : Piece.decode (cs.map .char) = some cs := by
  induction cs with
  | nil => rfl
  | cons c cs ih => rw [List.map_cons, Piece.decode, ih, Option.map_some]

lemma read?_quoted {s : String} (h : ∀ c ∈ s.toList, Plain c) :
    Json.read? (quoted s) = some (.string (some s)) := by
  have hq : Scan.step ⟨.text (s.toList.map .char).reverse, []⟩ '"' =
      some ⟨.between, [.text (some s)]⟩ := by
    have hf : Scan.step ⟨.text (s.toList.map .char).reverse, []⟩ '"' =
      some (Scan.finishText ⟨.text (s.toList.map .char).reverse, []⟩
        (s.toList.map .char).reverse) := rfl
    rw [hf, Scan.finishText, List.reverse_reverse, decode_chars, Option.map_some,
      String.ofList_toList]
    rfl
  have hr : Scan.start.run (quoted s).toList = some ⟨.between, [.text (some s)]⟩ := by
    rw [quoted, String.toList_ofList, List.cons_append]
    refine (Json.run_of_step (x := ⟨.text [], []⟩) rfl _).trans ?_
    rw [run_showChars [] [] _ h, List.append_nil]
    exact Json.run_of_step hq []
  rw [Json.read?, Json.ofChars?, Json.scan, hr]
  rfl

lemma read?_quoted_odd {s : String} (h : ¬ ∀ c ∈ s.toList, Plain c) :
    Json.read? (quoted s) = none := by
  have hr : Scan.start.run (quoted s).toList = none := by
    rw [quoted, String.toList_ofList, List.cons_append]
    refine (Json.run_of_step (x := ⟨.text [], []⟩) rfl _).trans ?_
    exact run_showChars_odd [] [] _ h
  rw [Json.read?, Json.ofChars?, Json.scan, hr]
  rfl

end Text

namespace Cli

variable {Obj : Type} {name raw : String}

lemma splitEquals_append {cs : List Char} (h : '=' ∉ cs) (r : List Char) :
    splitEquals (cs ++ '=' :: r) = (cs, some r) := by
  induction cs with
  | nil => rfl
  | cons c cs ih =>
    obtain ⟨hc, hcs⟩ : '=' ≠ c ∧ '=' ∉ cs := by simpa using h
    rw [List.cons_append, splitEquals, ih hcs]
    exact hc.symm

lemma readBindings_single (pair : String) :
    (readBindings [pair] : Except String (Dict String (HostValue Obj))) =
      (readBinding pair).map fun e => [e] := by
  unfold readBindings
  cases h : (readBinding pair : Except String (String × HostValue Obj)) with
  | error e => simp [h]; rfl
  | ok e => simp [h]; rfl

lemma readBinding_eq (hn : '=' ∉ name.toList) (raw : String) :
    (readBinding (name ++ "=" ++ raw) : Except String (String × HostValue Obj)) =
      (document? raw).elim (.error (unreadableValue name)) fun j =>
        (hostValue? j).elim (.error nullBinding) fun v => .ok (name, v) := by
  have hp : (name ++ "=" ++ raw).toList = name.toList ++ '=' :: raw.toList := by
    simp [String.toList_append]
  rw [readBinding, hp, splitEquals_append hn]
  dsimp only
  rw [String.ofList_toList, String.ofList_toList]
  cases document? raw with
  | none => rfl
  | some j =>
    dsimp only
    rw [Option.elim_some]
    cases (hostValue? j : Option (HostValue Obj)) <;> rfl

lemma readBinding_quoted (hn : '=' ∉ name.toList) (hr : jsonText? raw = none) :
    (readBinding (name ++ "=" ++ raw) : Except String (String × HostValue Obj)) =
      (jsonText? (Text.quoted raw)).elim (.error (unreadableValue name)) fun j =>
        (hostValue? j).elim (.error nullBinding) fun v => .ok (name, v) := by
  rw [readBinding_eq hn, document?, hr, Option.none_or]

lemma readBindings_document {j : Json} (hn : '=' ∉ name.toList) (hj : jsonText? raw = some j) :
    (readBindings [name ++ "=" ++ raw] : Except String (Dict String (HostValue Obj))) =
      (hostValue? j).elim (.error nullBinding) fun v => .ok [(name, v)] := by
  rw [readBindings_single, readBinding_eq hn, document?, hj, Option.some_or, Option.elim_some]
  cases (hostValue? j : Option (HostValue Obj)) <;> rfl

lemma readBindings_plain (hn : '=' ∉ name.toList) (hr : jsonText? raw = none)
    (h : ∀ c ∈ raw.toList, Text.Plain c) :
    (readBindings [name ++ "=" ++ raw] : Except String (Dict String (HostValue Obj))) =
      .ok [(name, .string raw)] := by
  rw [readBindings_single, readBinding_quoted hn hr, jsonText?, Text.read?_quoted h]
  rfl

lemma readBindings_odd (hn : '=' ∉ name.toList) (hr : jsonText? raw = none)
    (h : ¬ ∀ c ∈ raw.toList, Text.Plain c) :
    (readBindings [name ++ "=" ++ raw] : Except String (Dict String (HostValue Obj))) =
      .error (unreadableValue name) := by
  rw [readBindings_single, readBinding_quoted hn hr, jsonText?, Text.read?_quoted_odd h]
  rfl

/-- A binding that is no JSON gives its name the text itself, character for character, if all of it
is plain, and is refused if not. -/
theorem binding_verbatim_iff_plain (name raw : String) (hn : '=' ∉ name.toList)
    (hr : jsonText? raw = none) :
    ((readBindings [name ++ "=" ++ raw] : Except String (Dict String (HostValue Obj))) =
        .ok [(name, .string raw)] ↔ ∀ c ∈ raw.toList, Text.Plain c) ∧
      ((∃ c ∈ raw.toList, ¬ Text.Plain c) →
        (readBindings [name ++ "=" ++ raw] : Except String (Dict String (HostValue Obj))) =
          .error (unreadableValue name)) := by
  by_cases h : ∀ c ∈ raw.toList, Text.Plain c
  · rw [readBindings_plain hn hr h]
    exact ⟨iff_of_true rfl h, fun ⟨c, hc, hp⟩ => absurd (h c hc) hp⟩
  · rw [readBindings_odd hn hr h]
    exact ⟨iff_of_false nofun h, fun _ => rfl⟩

section Samples

theorem binding_verbatim_said :
    '=' ∉ "x".toList ∧ jsonText? "\"no\\=\n" = none ∧
      (readBindings ["x" ++ "=" ++ "\"no\\=\n"] : Except String (Dict String (HostValue Unit))) =
        .ok [("x", .string "\"no\\=\n")] := by
  have hn : '=' ∉ "x".toList := by decide
  have hr : jsonText? "\"no\\=\n" = none := Option.isNone_iff_eq_none.mp (by decide +kernel)
  have hp : ∀ c ∈ "\"no\\=\n".toList, Text.Plain c := by
    intro c hc
    fin_cases hc <;> decide
  exact ⟨hn, hr, (binding_verbatim_iff_plain "x" "\"no\\=\n" hn hr).1.mpr hp⟩

/-- A delete character and an accent that stands on its own are refused. -/
theorem delete_and_accent_refused :
    jsonText? "a\x7fb" = none ∧ jsonText? "e\u0301" = none ∧
      (readBindings ["x" ++ "=" ++ "a\x7fb"] : Except String (Dict String (HostValue Unit))) =
        .error (unreadableValue "x") ∧
      (readBindings ["x" ++ "=" ++ "e\u0301"] : Except String (Dict String (HostValue Unit))) =
        .error (unreadableValue "x") := by
  have hn : '=' ∉ "x".toList := by decide
  have hd : jsonText? "a\x7fb" = none := Option.isNone_iff_eq_none.mp (by decide +kernel)
  have ha : jsonText? "e\u0301" = none := Option.isNone_iff_eq_none.mp (by decide +kernel)
  have ho : ¬ Text.Plain '\u0301' := by decide +kernel
  exact ⟨hd, ha, readBindings_odd hn hd fun h => Text.not_plain_delete (h _ (by decide)),
    readBindings_odd hn ha fun h => ho (h _ (by decide))⟩

end Samples

end Cli

end PolicyBridge
