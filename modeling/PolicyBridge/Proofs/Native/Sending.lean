import Mathlib.Tactic
import PolicyBridge.Native.Engine
import PolicyBridge.Proofs.Json.Printing

namespace PolicyBridge

namespace CText

def bytes (s : String) : List UInt8 := s.toUTF8.data.toList

def HoldsNul (s : String) : Prop := 0 ∈ bytes s

def nulFault (s : String) : Fault := .interiorNul ((bytes s).idxOf 0)

def document (j : Json) : CText := ⟨j.write, j.nul_not_mem_write⟩

lemma bytes_eq (s : String) : bytes s = s.toList.flatMap String.utf8EncodeChar := by
  have h := String.toByteArray_ofList (l := s.toList)
  rw [String.ofList_toList] at h
  rw [bytes, String.toUTF8_eq_toByteArray, h, List.utf8Encode, List.toList_data_toByteArray]

lemma length_bytes (s : String) : (bytes s).length = s.utf8ByteSize := by
  rw [bytes, Array.length_toList, String.toUTF8_eq_toByteArray]
  rfl

lemma zero_ne_ofNat {n : Nat} (h₀ : 0 < n) (h : n < 256) : (0 : UInt8) ≠ UInt8.ofNat n := by
  intro hn
  have ht := congrArg UInt8.toNat hn
  rw [UInt8.toNat_ofNat_of_lt' h] at ht
  exact h₀.ne ht

lemma zero_mem_utf8EncodeChar {c : Char} : 0 ∈ String.utf8EncodeChar c ↔ c = '\x00' := by
  constructor
  · intro h
    by_contra hc
    have hv : c.val.toNat ≠ 0 := fun hv => hc (Char.ext (UInt32.toNat_inj.mp hv))
    revert h
    -- one byte is the character itself; of two or more, each is at least 128
    fun_cases String.utf8EncodeChar c <;>
      simp only [List.mem_cons, List.not_mem_nil, or_false, imp_false, not_or] <;> and_intros <;>
      exact zero_ne_ofNat (by omega) (by omega)
  · rintro rfl
    decide

lemma holdsNul_iff {s : String} : HoldsNul s ↔ '\x00' ∈ s.toList := by
  rw [HoldsNul, bytes_eq, List.mem_flatMap]
  simp only [zero_mem_utf8EncodeChar, exists_eq_right]

lemma idxOf_zero (cs : List Char) : (cs.flatMap String.utf8EncodeChar).idxOf 0 =
    ((cs.takeWhile (· ≠ '\x00')).flatMap String.utf8EncodeChar).length := by
  induction cs with
  | nil => rfl
  | cons c cs ih =>
    rw [List.flatMap_cons, List.idxOf_append]
    by_cases hc : c = '\x00'
    · subst hc
      rfl
    · have hn := mt zero_mem_utf8EncodeChar.mp hc
      rw [if_neg hn, ih, List.takeWhile_cons_of_pos (by simpa using hc), List.flatMap_cons,
        List.length_append, Nat.add_comm]

lemma nulPosition_eq (s : String) : nulPosition s = (bytes s).idxOf 0 := by
  rw [nulPosition, ← length_bytes, bytes_eq, bytes_eq, String.toList_ofList, idxOf_zero]

lemma ofString_of_noNul {s : String} (h : '\x00' ∉ s.toList) : ofString s = .ok ⟨s, h⟩ := by
  rw [ofString, dif_neg h]

lemma ofString_of_nul {s : String} (h : '\x00' ∈ s.toList) : ofString s = .error (nulFault s) := by
  rw [ofString, dif_pos h, nulPosition_eq, nulFault]

lemma ofJson_eq (j : Json) : ofJson j = .ok (document j) := ofString_of_noNul j.nul_not_mem_write

structure Sendable (j : Json) : Prop where
  noNul : ¬ HoldsNul j.write
  encoded : ofJson j = .ok (document j)

lemma sendable (j : Json) : Sendable j := ⟨mt holdsNul_iff.mp j.nul_not_mem_write, ofJson_eq j⟩

example : (Term.string "a\x00").text = "\x7b\"value\":\x7b\"String\":\"a\\u0000\"\x7d\x7d" := by
  decide +kernel

end CText

open CText (HoldsNul Sendable document nulFault)

namespace NativeEngine

variable {L α : Type}

/-- How a call treats a text that the host gives: a C string is sent on; any other is refused where
its first NUL byte stands, and the library is asked for nothing. -/
inductive Screens (s : String) (m : EngineCall (NativeEngine L) α)
    (send : CText → EngineCall (NativeEngine L) α) : Prop
  | sent (c : CText) : c.text = s → ¬ HoldsNul s → m = send c → Screens s m send
  | refused : HoldsNul s → m = throw (nulFault s) → Screens s m send

lemma Screens.of_encode (s : String) (send : CText → EngineCall (NativeEngine L) α) :
    Screens s (encode (CText.ofString s) >>= send) send := by
  by_cases h : '\x00' ∈ s.toList
  · refine .refused (CText.holdsNul_iff.mpr h) ?_
    rw [CText.ofString_of_nul h]
    rfl
  · refine .sent ⟨s, h⟩ rfl (mt CText.holdsNul_iff.mp h) ?_
    rw [CText.ofString_of_noNul h]
    rfl

lemma Screens.eq_send {s : String} {m : EngineCall (NativeEngine L) α}
    {send : CText → EngineCall (NativeEngine L) α} (h : Screens s m send)
    (hs : '\x00' ∉ s.toList) : m = send ⟨s, hs⟩ := by
  cases h with
  | sent _ hc _ hm =>
    subst hc
    exact hm
  | refused hn _ => exact absurd (CText.holdsNul_iff.mp hn) hs

lemma Screens.eq_throw {s : String} {m : EngineCall (NativeEngine L) α}
    {send : CText → EngineCall (NativeEngine L) α} (h : Screens s m send)
    (hs : '\x00' ∈ s.toList) : m = throw (nulFault s) := by
  cases h with
  | sent _ _ hn _ => exact absurd (CText.holdsNul_iff.mpr hs) hn
  | refused _ hm => exact hm

lemma encode_document (j : Json) (send : CText → EngineCall (NativeEngine L) α) :
    encode (CText.ofJson j) >>= send = send (document j) := by
  rw [CText.ofJson_eq]
  rfl

variable [Library L]

lemma check_eq (call : Pointer → StateM L Bool) (e : NativeEngine L) :
    check call e =
      let x := call e.pointer e.library
      if x.1 then (.ok (), ⟨x.2, e.pointer⟩)
      else (.error (lastFault x.2).1, ⟨(lastFault x.2).2, e.pointer⟩) := by
  rcases hx : call e.pointer e.library with ⟨done, l⟩
  have hr : run call e = (.ok done, ⟨l, e.pointer⟩) := by rw [run, hx]
  have hc : check call e = ExceptT.bindCont (m := StateM (NativeEngine L))
      (fun done => unless done do failLast) (run call e).1 (run call e).2 := rfl
  rw [hc, hr]
  cases done <;> rfl

lemma check_of_true {call : Pointer → StateM L Bool} {e : NativeEngine L}
    (h : (call e.pointer e.library).1 = true) :
    check call e = (.ok (), ⟨(call e.pointer e.library).2, e.pointer⟩) :=
  (check_eq call e).trans (if_pos h)

lemma check_of_false {call : Pointer → StateM L Bool} {e : NativeEngine L}
    (h : (call e.pointer e.library).1 = false) :
    check call e = (.error (lastFault (call e.pointer e.library).2).1,
      ⟨(lastFault (call e.pointer e.library).2).2, e.pointer⟩) :=
  (check_eq call e).trans (if_neg (Bool.not_eq_true _ ▸ h))

lemma answerCall_sends (q : NativeQuery) (callId : UInt64) (result : Option Term) :
    (Engine.answerCall q callId result : EngineCall (NativeEngine L) Unit) =
      live q >>= fun p =>
        check fun _ => Library.callResult p callId (document (optionalTermJson result)) :=
  congrArg (live q >>= ·) (funext fun _ => encode_document _ _)

lemma constant_screens (name : String) (t : Term) :
    Screens name (Engine.registerConstant name t : EngineCall (NativeEngine L) Unit)
      fun name => check fun p => Library.registerConstant p name (document t.json) := by
  have h : (Engine.registerConstant name t : EngineCall (NativeEngine L) Unit) =
      encode (CText.ofString name) >>= fun name => encode (CText.ofJson t.json) >>= fun value =>
        check fun p => Library.registerConstant p name value := rfl
  simp only [h, encode_document]
  exact .of_encode name _

lemma complaint_screens (p : Pointer) (message : String) :
    Screens message
      (Engine.answerApplicationError ⟨some p⟩ message : EngineCall (NativeEngine L) Unit)
      fun message => check fun _ => Library.applicationError p message :=
  .of_encode message _

lemma binding_screens (p : Pointer) (name : String) (t : Term) :
    Screens name (bindOne p (name, t) : EngineCall (NativeEngine L) Unit)
      fun name => check fun _ => Library.bind p name (document t.json) := by
  have h : (bindOne p (name, t) : EngineCall (NativeEngine L) Unit) =
      encode (CText.ofString name) >>= fun name => encode (CText.ofJson t.json) >>= fun value =>
        check fun _ => Library.bind p name value := rfl
  simp only [h, encode_document]
  exact .of_encode name _

def bindEach (p : Pointer) (bs : List (CText × Term)) : EngineCall (NativeEngine L) Unit :=
  bs.forM fun b => check fun _ => Library.bind p b.1 (document b.2.json)

def spelled (bs : List (CText × Term)) : Bindings := bs.map fun b => (b.1.text, b.2)

inductive Binds (p : Pointer) (bs : Bindings) (m : EngineCall (NativeEngine L) Unit) : Prop
  | sent (cs : List (CText × Term)) : bs = spelled cs → m = bindEach p cs → Binds p bs m
  | refused (cs : List (CText × Term)) (name : String) (t : Term) (rest : Bindings) :
      bs = spelled cs ++ (name, t) :: rest → HoldsNul name →
      m = (do bindEach p cs; throw (nulFault name)) → Binds p bs m

lemma bindAll_binds (p : Pointer) (bs : Bindings) :
    Binds p bs (bindAll p bs : EngineCall (NativeEngine L) Unit) := by
  induction bs with
  | nil => exact .sent [] rfl rfl
  | cons b bs ih =>
    obtain ⟨name, t⟩ := b
    have hb : (bindAll p ((name, t) :: bs) : EngineCall (NativeEngine L) Unit) =
        bindOne p (name, t) >>= fun _ => bindAll p bs := rfl
    rw [hb]
    cases binding_screens (L := L) p name t with
    | refused hn h =>
      refine .refused [] name t bs rfl hn ?_
      rw [h]
      rfl
    | sent c hc _ h =>
      subst hc
      cases ih with
      | sent cs hs hm =>
        refine .sent ((c, t) :: cs) (congrArg _ hs) ?_
        rw [h, hm]
        rfl
      | refused cs name' t' rest hs hn hm =>
        refine .refused ((c, t) :: cs) name' t' rest (congrArg _ hs) hn ?_
        rw [h, hm, ← bind_assoc]
        rfl

variable (L) in
/-- What passes to a library, and what is refused on the way. A call that is passed fails only if the
library says so, and then with the error that it has pending. -/
structure Boundary : Prop where
  passed (call : Pointer → StateM L Bool) (e : NativeEngine L) : check call e =
    let x := call e.pointer e.library
    if x.1 then (.ok (), ⟨x.2, e.pointer⟩)
    else (.error (lastFault x.2).1, ⟨(lastFault x.2).2, e.pointer⟩)
  term (t : Term) : Sendable t.json
  answer (result : Option Term) : Sendable (optionalTermJson result)
  sources (sources : List Source) : Sendable (sourcesJson sources)
  load (sources : List Source) : (Engine.load sources : EngineCall (NativeEngine L) Unit) =
    check fun p => Library.load p (document (sourcesJson sources))
  answerCall (q : NativeQuery) (callId : UInt64) (result : Option Term) :
    (Engine.answerCall q callId result : EngineCall (NativeEngine L) Unit) =
      live q >>= fun p =>
        check fun _ => Library.callResult p callId (document (optionalTermJson result))
  constant (name : String) (t : Term) :
    Screens name (Engine.registerConstant name t : EngineCall (NativeEngine L) Unit)
      fun name => check fun p => Library.registerConstant p name (document t.json)
  query (query : Term) (bindings : Bindings) :
    (Engine.newQuery query bindings : EngineCall (NativeEngine L) NativeQuery) =
      run (fun p => Library.newQueryFromTerm p (document query.json)) >>= fun q =>
        startQuery q bindings
  queryText (text : String) (bindings : Bindings) :
    Screens text (Engine.newQueryOfText text bindings : EngineCall (NativeEngine L) NativeQuery)
      fun text => run (fun p => Library.newQuery p text) >>= fun q => startQuery q bindings
  bindings (p : Pointer) (bindings : Bindings) :
    Binds p bindings (bindAll p bindings : EngineCall (NativeEngine L) Unit)
  complaint (p : Pointer) (message : String) :
    Screens message
      (Engine.answerApplicationError ⟨some p⟩ message : EngineCall (NativeEngine L) Unit)
      fun message => check fun _ => Library.applicationError p message

/-- Data is never refused on its way to a library. Names, the text of a query and the message of an
error are, as soon as it comes to one of them that holds a NUL byte. -/
theorem data_never_refused : Boundary L where
  passed := check_eq
  term _ := CText.sendable _
  answer _ := CText.sendable _
  sources _ := CText.sendable _
  load _ := encode_document _ _
  answerCall := answerCall_sends
  constant := constant_screens
  query _ _ := encode_document _ _
  queryText text _ := .of_encode text _
  bindings := bindAll_binds
  complaint := complaint_screens

end NativeEngine

end PolicyBridge
