import Mathlib.Tactic
import PolicyBridge.Cache

/-! The memory of resolutions as its users see it: it answers with what was last stored, as long as
fewer other keys have been used since than it has places. Its entries are the first ones of a list
of all that was ever stored since it was cleared, the last used in front. -/

namespace PolicyBridge.Cache

section Entries

variable {c : Cache} {k : Lookup} {r : Resolution} {e : Lookup × Resolution}

lemma mem_without (h : e ∈ c.without k) : e ∈ c.entries :=
  List.mem_of_mem_filter h

lemma mem_of_find? (h : c.find? k = some r) : (k, r) ∈ c.entries := by
  obtain ⟨e, he, rfl⟩ := Option.map_eq_some_iff.mp h
  have hk := List.find?_some he
  simp only [decide_eq_true_eq] at hk
  subst hk
  exact List.mem_of_find?_eq_some he

lemma get_fst (c : Cache) (k : Lookup) : (c.get k).1 = c.find? k := by
  rw [get]
  cases c.find? k <;> rfl

lemma mem_get (h : e ∈ (c.get k).2.entries) : e ∈ c.entries := by
  rw [get] at h
  cases hr : c.find? k with
  | none =>
    rw [hr] at h
    exact h
  | some r =>
    rw [hr] at h
    rcases List.mem_cons.mp h with rfl | h
    · exact mem_of_find? hr
    · exact mem_without h

lemma mem_put (h : e ∈ (c.put k r).entries) : e = (k, r) ∨ e ∈ c.entries := by
  have he := List.mem_of_mem_take h
  exact (List.mem_cons.mp he).imp_right mem_without

lemma entries_get_of_find? (h : c.find? k = some r) (hs : c.size ≤ c.capacity) :
    (c.get k).2.entries = (c.put k r).entries := by
  have hw : (c.without k).length < c.size :=
    List.length_filter_lt_length_iff_exists.mpr ⟨(k, r), mem_of_find? h, by simp⟩
  have hg : (c.get k).2.entries = (k, r) :: c.without k := by rw [get, h]
  rw [hg, put, List.take_of_length_le]
  exact hw.trans_le hs

end Entries

/-! ### Requests and their answers -/

inductive Request where
  | put (k : Lookup) (r : Resolution)
  | get (k : Lookup)
  | clear

abbrev Log := List (Request × Option Resolution)

def serve (c : Cache) : Request → Option Resolution × Cache
  | .put k r => (none, c.put k r)
  | .get k => c.get k
  | .clear => (none, c.clear)

def logging (x : Log × Cache) (q : Request) : Log × Cache :=
  ((q, (x.2.serve q).1) :: x.1, (x.2.serve q).2)

def run (c : Cache) (qs : List Request) : Log × Cache := qs.foldl logging ([], c)

lemma run_append (c : Cache) (qs : List Request) (q : Request) :
    c.run (qs ++ [q]) = logging (c.run qs) q := by
  rw [run, List.foldl_append]
  rfl

def Request.isGet : Request → Bool
  | .get _ => true
  | _ => false

namespace Log

def lastPut (k : Lookup) : Log → Option Resolution
  | [] => none
  | (.put k' r, _) :: h => if k' = k then some r else lastPut k h
  | (.get _, _) :: h => lastPut k h
  | (.clear, _) :: _ => none

def used? : Request × Option Resolution → Option Lookup
  | (.put k _, _) => some k
  | (.get k, some _) => some k
  | _ => none

/-- The keys used since one was last used, the latest first and with repetitions. -/
def usedSince (k : Lookup) (h : Log) : List Lookup :=
  (h.takeWhile fun x => used? x ≠ some k).filterMap used?

def found (h : Log) : Nat := h.countP fun x => x.1.isGet && x.2.isSome

def missed (h : Log) : Nat := h.countP fun x => x.1.isGet && x.2.isNone

end Log

/-! ### Entries by recency -/

section Recency

open Log

variable {h : Log} {k k' : Lookup} {r : Resolution} {es : List (Lookup × Resolution)} {n : Nat}

def others (k : Lookup) (es : List (Lookup × Resolution)) : List (Lookup × Resolution) :=
  es.filter fun e => e.1 ≠ k

def ahead (k : Lookup) (es : List (Lookup × Resolution)) : List (Lookup × Resolution) :=
  es.takeWhile fun e => e.1 ≠ k

def first? (k : Lookup) (es : List (Lookup × Resolution)) : Option Resolution :=
  (es.find? fun e => e.1 = k).map Prod.snd

def recency : Log → List (Lookup × Resolution)
  | [] => []
  | (.put k r, _) :: h => (k, r) :: others k (recency h)
  | (.get k, some r) :: h => (k, r) :: others k (recency h)
  | (.get _, none) :: h => recency h
  | (.clear, _) :: _ => []

lemma first?_cons_self (k : Lookup) (r : Resolution) (es : List (Lookup × Resolution)) :
    first? k ((k, r) :: es) = some r := by
  simp [first?]

lemma first?_cons_others (hk : k' ≠ k) : first? k ((k', r) :: others k' es) = first? k es := by
  have hf : (others k' es).find? (fun e => e.1 = k) = es.find? fun e => e.1 = k := by
    rw [others, List.find?_filter]
    congr 1
    funext e
    by_cases he : e.1 = k
    · simp [he, hk.symm]
    · simp [he]
  rw [first?, List.find?_cons_of_neg (by simpa using hk), hf, first?]

lemma ahead_cons_others (hk : k' ≠ k) :
    ahead k ((k', r) :: others k' es) = (k', r) :: others k' (ahead k es) := by
  have ht : ahead k (others k' es) = others k' (ahead k es) := by
    induction es with
    | nil => rfl
    | cons e es ih =>
      simp only [ahead, others, ne_eq, decide_not] at ih ⊢
      by_cases he : e.1 = k
      · simp [he, hk.symm]
      · by_cases he' : e.1 = k' <;> simp [he, he', hk, ih]
  rw [ahead, List.takeWhile_cons_of_pos (by simpa using hk)]
  exact congrArg ((k', r) :: ·) ht

lemma first?_take (k : Lookup) (es : List (Lookup × Resolution)) (n : Nat) :
    first? k (es.take n) = if (ahead k es).length < n then first? k es else none := by
  induction es generalizing n with
  | nil => simp [first?]
  | cons e es ih =>
    cases n with
    | zero => rw [List.take_zero, if_neg (Nat.not_lt_zero _)]; rfl
    | succ n =>
      simp only [first?, ahead] at ih ⊢
      by_cases he : e.1 = k <;> simp [he, ih]

lemma keys_others_nodup (hn : (es.map Prod.fst).Nodup) : ((others k es).map Prod.fst).Nodup :=
  hn.sublist (List.filter_sublist.map _)

lemma recency_nodup (h : Log) : ((recency h).map Prod.fst).Nodup := by
  have hc (k : Lookup) (r : Resolution) {es : List (Lookup × Resolution)}
      (hn : (es.map Prod.fst).Nodup) : (((k, r) :: others k es).map Prod.fst).Nodup := by
    refine List.nodup_cons.mpr ⟨fun hm => ?_, keys_others_nodup hn⟩
    obtain ⟨e, he, hk⟩ := List.mem_map.mp hm
    simp [others, hk] at he
  induction h using recency.induct with
  | case1 => exact List.nodup_nil
  | case2 k r _ h ih => exact hc k r ih
  | case3 k r h ih => exact hc k r ih
  | case4 k h ih => exact ih
  | case5 => exact List.nodup_nil

lemma usedSince_cons_self {x : Request × Option Resolution} (hx : used? x = some k) (h : Log) :
    usedSince k (x :: h) = [] := by
  rw [usedSince, List.takeWhile_cons_of_neg (by simp [hx])]
  rfl

lemma usedSince_cons {x : Request × Option Resolution} (hx : used? x ≠ some k) (h : Log) :
    usedSince k (x :: h) = (used? x).toList ++ usedSince k h := by
  rw [usedSince, List.takeWhile_cons_of_pos (by simpa using hx), List.filterMap_cons]
  cases used? x <;> rfl

lemma keys_others (k : Lookup) (es : List (Lookup × Resolution)) :
    ((others k es).map Prod.fst).toFinset = ((es.map Prod.fst).toFinset).erase k := by
  have hm : (others k es).map Prod.fst = (es.map Prod.fst).filter fun k' => k' ≠ k := by
    rw [List.filter_map]
    rfl
  rw [hm, List.toFinset_filter, ← Finset.filter_ne']
  simp

lemma insert_erase_keys (k : Lookup) (s : Finset Lookup) : insert k (s.erase k) = insert k s := by
  ext k'
  by_cases h : k' = k <;> simp [h]

section Front

variable {x : Request × Option Resolution}

lemma keys_ahead_cons (hx : used? x = some k') (hh : recency (x :: h) = (k', r) :: others k' (recency h))
    (ih : first? k (recency h) ≠ none →
      ((ahead k (recency h)).map Prod.fst).toFinset = (usedSince k h).toFinset)
    (hr : first? k (recency (x :: h)) ≠ none) :
    ((ahead k (recency (x :: h))).map Prod.fst).toFinset = (usedSince k (x :: h)).toFinset := by
  rw [hh] at hr ⊢
  by_cases hk : k' = k
  · subst hk
    rw [usedSince_cons_self hx, ahead, List.takeWhile_cons_of_neg (by simp)]
    rfl
  · rw [first?_cons_others hk] at hr
    rw [ahead_cons_others hk, usedSince_cons (by simpa [hx] using hk), hx, List.map_cons,
      List.toFinset_cons, keys_others, ih hr, insert_erase_keys]
    exact (List.toFinset_cons).symm

end Front

lemma keys_ahead (hr : first? k (recency h) ≠ none) :
    ((ahead k (recency h)).map Prod.fst).toFinset = (usedSince k h).toFinset := by
  induction h using recency.induct with
  | case1 => exact absurd rfl hr
  | case2 k' r o h ih => exact keys_ahead_cons rfl rfl ih hr
  | case3 k' r h ih => exact keys_ahead_cons rfl rfl ih hr
  | case4 k' h ih =>
    rw [usedSince_cons (by exact nofun)]
    exact ih hr
  | case5 o h => exact absurd rfl hr

lemma length_ahead (hr : first? k (recency h) ≠ none) :
    (ahead k (recency h)).length = (usedSince k h).toFinset.card := by
  have hn : ((ahead k (recency h)).map Prod.fst).Nodup :=
    (recency_nodup h).sublist ((List.takeWhile_sublist _).map _)
  rw [← keys_ahead hr, List.toFinset_card_of_nodup hn, List.length_map]

def Truthful : Log → Prop
  | [] => True
  | (.get k, some r) :: h => lastPut k h = some r ∧ Truthful h
  | _ :: h => Truthful h

lemma first?_recency (k : Lookup) (ht : Truthful h) : first? k (recency h) = lastPut k h := by
  induction h using recency.induct with
  | case1 => rfl
  | case2 k' r o h ih =>
    rw [recency, lastPut]
    by_cases hk : k' = k
    · rw [if_pos hk, hk, first?_cons_self]
    · rw [if_neg hk, first?_cons_others hk, ih ht]
  | case3 k' r h ih =>
    obtain ⟨hl, ht⟩ : lastPut k' h = some r ∧ Truthful h := ht
    rw [recency, lastPut]
    by_cases hk : k' = k
    · rw [hk, first?_cons_self, ← hk, hl]
    · rw [first?_cons_others hk, ih ht]
  | case4 k' h ih => exact ih ht
  | case5 o h => rfl

end Recency

/-! ### Runs -/

section Runs

open Log

variable {c : Cache} {h : Log} {k : Lookup} {r : Resolution} {es : List (Lookup × Resolution)}

lemma others_of_not_mem (hk : k ∉ es.map Prod.fst) : others k es = es := by
  refine List.filter_eq_self.mpr fun e he => ?_
  rw [decide_eq_true_eq]
  rintro rfl
  exact hk (List.mem_map_of_mem he)

lemma take_others (hn : (es.map Prod.fst).Nodup) (n : Nat) :
    (others k (es.take (n + 1))).take n = (others k es).take n := by
  induction es generalizing n with
  | nil => rfl
  | cons e es ih =>
    obtain ⟨he, hn⟩ := List.nodup_cons.mp hn
    by_cases hk : e.1 = k
    · subst hk
      have ht : e.1 ∉ (es.take n).map Prod.fst := fun hm =>
        he (((List.take_sublist n es).map _).subset hm)
      have hd (l : List (Lookup × Resolution)) : others e.1 (e :: l) = others e.1 l := by
        simp [others]
      rw [List.take_succ_cons, hd, hd, others_of_not_mem he, others_of_not_mem ht, List.take_take,
        Nat.min_self]
    · have hd (l : List (Lookup × Resolution)) : others k (e :: l) = e :: others k l := by
        simp [others, hk]
      cases n with
      | zero => rfl
      | succ n => rw [List.take_succ_cons, hd, hd, List.take_succ_cons, List.take_succ_cons, ih hn]

structure Recalls (c : Cache) (h : Log) : Prop where
  room : 0 < c.capacity
  entries : c.entries = (recency h).take c.capacity
  truthful : Truthful h
  hits : c.hits = UInt64.ofNat (found h)
  misses : c.misses = UInt64.ofNat (missed h)

namespace Recalls

lemma size_le (hc : c.Recalls h) : c.size ≤ c.capacity := by
  rw [size, hc.entries]
  exact List.length_take_le _ _

lemma find? (hc : c.Recalls h) (k : Lookup) :
    c.find? k = if (ahead k (recency h)).length < c.capacity then lastPut k h else none := by
  rw [← first?_recency k hc.truthful, ← first?_take, ← hc.entries]
  rfl

lemma get_iff (hc : c.Recalls h) : (c.get k).1 = some r ↔
    lastPut k h = some r ∧ (usedSince k h).toFinset.card < c.capacity := by
  rw [get_fst, hc.find?]
  cases hl : lastPut k h with
  | none => simp
  | some r' =>
    rw [length_ahead (by rw [first?_recency k hc.truthful, hl]; exact nofun)]
    split <;> simp_all

lemma entries_put (hc : c.Recalls h) (k : Lookup) (r : Resolution) :
    (c.put k r).entries = ((k, r) :: others k (recency h)).take c.capacity := by
  obtain ⟨n, hn⟩ := Nat.exists_eq_succ_of_ne_zero hc.room.ne'
  have he : c.without k = others k ((recency h).take c.capacity) := by rw [← hc.entries]; rfl
  rw [put, he, hn, List.take_succ_cons, List.take_succ_cons, take_others (recency_nodup h)]

lemma start (size : Nat) : (ofSize size).Recalls [] :=
  ⟨Nat.lt_of_lt_of_le Nat.zero_lt_one (le_max_left 1 size), List.take_nil.symm, trivial, rfl, rfl⟩

lemma serve (hc : c.Recalls h) (q : Request) :
    (c.serve q).2.Recalls ((q, (c.serve q).1) :: h) := by
  cases q with
  | put k r => exact ⟨hc.room, hc.entries_put k r, hc.truthful, hc.hits, hc.misses⟩
  | clear => exact ⟨hc.room, List.take_nil.symm, hc.truthful, hc.hits, hc.misses⟩
  | get k =>
    change (c.get k).2.Recalls ((.get k, (c.get k).1) :: h)
    cases hf : c.find? k with
    | none =>
      have hg : c.get k = (none, { c with misses := c.misses + 1 }) := by rw [get, hf]
      have hm : missed ((.get k, none) :: h) = missed h + 1 := List.countP_cons_of_pos rfl
      rw [hg]
      refine ⟨hc.room, hc.entries, hc.truthful, hc.hits, ?_⟩
      rw [hm, UInt64.ofNat_add, ← hc.misses]
      rfl
    | some r =>
      have hg : c.get k = (some r,
          { c with entries := (k, r) :: c.without k, hits := c.hits + 1 }) := by rw [get, hf]
      have hm : found ((.get k, some r) :: h) = found h + 1 := List.countP_cons_of_pos rfl
      have he := entries_get_of_find? hf hc.size_le
      have ht := (hc.get_iff.mp (by rw [hg])).1
      rw [hc.entries_put, hg] at he
      rw [hg]
      refine ⟨hc.room, he, ⟨ht, hc.truthful⟩, ?_, hc.misses⟩
      rw [hm, UInt64.ofNat_add, ← hc.hits]
      rfl

end Recalls

lemma capacity_serve (c : Cache) (q : Request) : (c.serve q).2.capacity = c.capacity := by
  cases q with
  | get k =>
    change (c.get k).2.capacity = c.capacity
    rw [get]
    split <;> rfl
  | _ => rfl

lemma run_recalls (size : Nat) (qs : List Request) :
    ((ofSize size).run qs).2.Recalls ((ofSize size).run qs).1 ∧
      ((ofSize size).run qs).2.capacity = max 1 size := by
  induction qs using List.reverseRecOn with
  | nil => exact ⟨.start size, rfl⟩
  | append_singleton qs q ih =>
    rw [run_append]
    exact ⟨ih.1.serve q, (capacity_serve _ q).trans ih.2⟩

lemma found_add_missed (h : Log) : found h + missed h = (h.map Prod.fst).countP Request.isGet := by
  rw [List.countP_map, List.countP_eq_countP_filter_add h _ (fun x => x.2.isSome),
    List.countP_filter, List.countP_filter]
  refine congrArg₂ (· + ·) rfl (List.countP_congr fun x _ => ?_)
  simp

lemma run_requests (c : Cache) (qs : List Request) : (c.run qs).1.map Prod.fst = qs.reverse := by
  induction qs using List.reverseRecOn with
  | nil => rfl
  | append_singleton qs q ih =>
    rw [run_append, logging, List.map_cons, ih, List.reverse_append]
    rfl

lemma hits_add_misses {qs : List Request} (hc : c.Recalls h) (hq : h.map Prod.fst = qs.reverse)
    (hn : qs.countP Request.isGet < 2 ^ 64) :
    c.hits.toNat + c.misses.toNat = qs.countP Request.isGet := by
  have hs := found_add_missed h
  rw [hq, List.countP_reverse] at hs
  rw [hc.hits, hc.misses, UInt64.toNat_ofNat_of_lt' (by change _ < 2 ^ 64; omega),
    UInt64.toNat_ofNat_of_lt' (by change _ < 2 ^ 64; omega), hs]

/-- After any requests a key is found exactly if it was put since the last clearing and fewer other
keys than there are places have been put or found since it was itself, and what is found is what was
last put. There are never more entries than places, and each lookup has been counted. -/
theorem found_while_recent (size : Nat) (qs : List Request) :
    let x := (ofSize size).run qs
    (∀ k r, (x.2.get k).1 = some r ↔
        lastPut k x.1 = some r ∧ (usedSince k x.1).toFinset.card < max 1 size) ∧
      x.2.size ≤ max 1 size ∧
      (qs.countP Request.isGet < 2 ^ 64 →
        x.2.hits.toNat + x.2.misses.toNat = qs.countP Request.isGet) := by
  obtain ⟨hc, hs⟩ := run_recalls size qs
  refine ⟨fun k r => ?_, ?_, hits_add_misses hc (run_requests _ qs)⟩
  · rw [hc.get_iff, hs]
  · exact hc.size_le.trans_eq hs

section Samples

def member (name : String) : Lookup := ⟨"User", name, .method⟩

def ofUser : Resolution := ⟨"User", .method⟩

def three : List Request :=
  [.put (member "a") ofUser, .put (member "b") ofUser, .get (member "a"), .put (member "c") ofUser]

theorem found_while_recent_three :
    let x := (ofSize 2).run three
    (∀ r, (x.2.get (member "a")).1 = some r ↔ lastPut (member "a") x.1 = some r ∧
        (usedSince (member "a") x.1).toFinset.card < 2) ∧
      (x.2.get (member "a")).1 = some ofUser ∧ (x.2.get (member "b")).1 = none ∧
      x.2.size ≤ 2 ∧ x.2.hits.toNat + x.2.misses.toNat = 1 := by
  obtain ⟨hg, hs, hn⟩ := found_while_recent 2 three
  exact ⟨hg (member "a"), by decide, by decide, hs, hn (by decide)⟩

end Samples

end Runs

end PolicyBridge.Cache
