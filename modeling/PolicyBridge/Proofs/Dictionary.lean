import Mathlib.Tactic
import PolicyBridge.Dict

namespace PolicyBridge

namespace Dict

section Entries

variable {κ α : Type} [LT κ] [DecidableLT κ] [DecidableEq κ] {d : Dict κ α}
  {entries : List (κ × α)}

def write (d : Dict κ α) (e : κ × α) : Dict κ α := d.insert e.1 e.2

lemma ofList_eq : ofList entries = entries.foldl write [] := rfl

lemma mem_of_mem_insert {k : κ} {v : α} {e : κ × α} (h : e ∈ d.insert k v) : e = (k, v) ∨ e ∈ d := by
  induction d with
  | nil => exact .inl (List.mem_singleton.mp h)
  | cons x d ih =>
    simp only [insert] at h
    split at h
    · exact List.mem_cons.mp h
    split at h
    · exact (List.mem_cons.mp h).imp_right (List.mem_cons_of_mem x)
    · rcases List.mem_cons.mp h with rfl | h
      · exact .inr List.mem_cons_self
      · exact (ih h).imp_right (List.mem_cons_of_mem x)

lemma mem_of_mem_write {e : κ × α} (h : e ∈ entries.foldl write d) : e ∈ entries ∨ e ∈ d := by
  induction entries generalizing d with
  | nil => exact .inr h
  | cons x entries ih =>
    rcases ih h with h | h
    · exact .inl (List.mem_cons_of_mem x h)
    · rcases mem_of_mem_insert h with rfl | h
      · exact .inl List.mem_cons_self
      · exact .inr h

lemma mem_of_mem_ofList {e : κ × α} (h : e ∈ ofList entries) : e ∈ entries :=
  (mem_of_mem_write h).resolve_right List.not_mem_nil

omit [LT κ] [DecidableLT κ] in
lemma find?_eq_none {k : κ} (h : k ∉ keys entries) : find? entries k = none := by
  induction entries with
  | nil => rfl
  | cons x entries ih =>
    obtain ⟨hx, h⟩ := not_or.mp (List.mem_cons.not.mp h)
    rw [find?, if_neg (Ne.symm hx), ih h]

omit [LT κ] [DecidableLT κ] in
lemma not_mem_keys {d : Dict κ α} {k : κ} (h : d.find? k = none) : k ∉ d.keys := by
  induction d with
  | nil => exact List.not_mem_nil
  | cons x d ih =>
    rw [find?] at h
    split at h
    · cases h
    · rename_i hk
      intro hm
      rcases List.mem_cons.mp hm with rfl | hm
      · exact hk rfl
      · exact ih h hm

omit [LT κ] [DecidableLT κ] in
lemma mem_keys {k : κ} : k ∈ d.keys ↔ d.find? k ≠ none :=
  ⟨fun h hn => not_mem_keys hn h, not_imp_comm.mp find?_eq_none⟩

omit [LT κ] [DecidableLT κ] in
lemma find?_of_mem (hn : d.keys.Nodup) {e : κ × α} (h : e ∈ d) : d.find? e.1 = some e.2 := by
  induction d with
  | nil => exact absurd h List.not_mem_nil
  | cons x d ih =>
    obtain ⟨hx, hn⟩ := List.nodup_cons.mp hn
    rcases List.mem_cons.mp h with rfl | h
    · rw [find?, if_pos rfl]
    · have hk : x.1 ≠ e.1 := fun hk => hx (hk ▸ List.mem_map_of_mem h)
      rw [find?, if_neg hk, ih hn h]

lemma find?_write (h : (keys entries).Nodup) (k : κ) :
    find? (entries.foldl write d) k = (find? entries k).or (find? d k) := by
  induction entries generalizing d with
  | nil => rfl
  | cons x entries ih =>
    obtain ⟨hx, hn⟩ := List.nodup_cons.mp h
    rw [List.foldl_cons, ih hn, write, find?_insert, find?]
    by_cases hk : x.1 = k
    · rw [if_pos hk, if_pos hk.symm, find?_eq_none (by rwa [← hk])]
      rfl
    · rw [if_neg hk, if_neg (Ne.symm hk)]

lemma find?_ofList_last (es : List (κ × α)) (k : κ) :
    (ofList es).find? k = (es.reverse.find? fun e => e.1 = k).map Prod.snd := by
  induction es using List.reverseRecOn with
  | nil => rfl
  | append_singleton es e ih =>
    have hf : ofList (es ++ [e]) = (ofList es).insert e.1 e.2 := by
      rw [ofList, List.foldl_append]
      rfl
    rw [hf, find?_insert, List.reverse_append, List.reverse_singleton, List.singleton_append, ih]
    by_cases hk : e.1 = k
    · simp [hk]
    · simp [hk, Ne.symm hk]

lemma find?_ofList (h : (keys entries).Nodup) (k : κ) :
    (ofList entries).find? k = find? entries k := by
  rw [ofList_eq, find?_write h]
  simp [find?]

lemma perm_insert {k : κ} (v : α) (h : k ∉ d.keys) : (d.insert k v).Perm ((k, v) :: d) := by
  induction d with
  | nil => exact .refl _
  | cons x d ih =>
    obtain ⟨hx, hd⟩ := not_or.mp (List.mem_cons.not.mp h)
    simp only [insert]
    split
    · exact .refl _
    · rw [if_neg (Ne.symm hx)]
      exact ((ih hd).cons x).trans (.swap _ _ _)

lemma length_insert {d : Dict κ α} {k : κ} (v : α) (h : d.find? k = none) :
    (d.insert k v).length = d.length + 1 :=
  (perm_insert v (not_mem_keys h)).length_eq

lemma perm_write (h : (keys (entries ++ d)).Nodup) :
    (entries.foldl write d).Perm (entries ++ d) := by
  induction entries generalizing d with
  | nil => exact .refl _
  | cons x entries ih =>
    obtain ⟨hx, hn⟩ := List.nodup_cons.mp h
    have hk : x.1 ∉ d.keys := by
      intro hm
      obtain ⟨e, he, hxe⟩ := List.mem_map.mp hm
      exact hx (List.mem_map.mpr ⟨e, List.mem_append_right _ he, hxe⟩)
    have hw : (write d x).Perm (x :: d) := perm_insert x.2 hk
    have hp : (entries ++ write d x).Perm (x :: (entries ++ d)) :=
      (hw.append_left entries).trans List.perm_middle
    refine (ih ?_).trans hp
    exact ((hp.map Prod.fst).nodup_iff).mpr h

end Entries

section Ordered

variable {κ α : Type} [LE κ] [LT κ] [DecidableLT κ] [DecidableEq κ] [Std.IsLinearOrder κ]
  [Std.LawfulOrderLT κ] {d d' entries : Dict κ α}

omit [LE κ] [DecidableLT κ] [DecidableEq κ] [Std.IsLinearOrder κ] [Std.LawfulOrderLT κ] in
lemma ordered_nil : Ordered ([] : Dict κ α) := List.Pairwise.nil

omit [DecidableLT κ] [DecidableEq κ] [Std.IsLinearOrder κ] in
lemma Ordered.nodup (h : d.Ordered) : d.keys.Nodup := by
  refine List.Pairwise.imp (fun {a b} hlt => ?_) h
  rintro rfl
  exact Std.lt_irrefl hlt

omit [LE κ] [DecidableLT κ] [Std.IsLinearOrder κ] [Std.LawfulOrderLT κ] in
lemma Ordered.erase (h : d.Ordered) (k : κ) : (d.erase k).Ordered :=
  List.Pairwise.sublist (List.filter_sublist.map _) h

lemma Ordered.insert (h : d.Ordered) (k : κ) (v : α) : (d.insert k v).Ordered := by
  induction d with
  | nil => exact List.pairwise_singleton _ _
  | cons x d ih =>
    obtain ⟨hx, hd⟩ := List.pairwise_cons.mp h
    simp only [Dict.insert]
    split
    · rename_i hk
      refine List.pairwise_cons.mpr ⟨fun l hl => ?_, h⟩
      rcases List.mem_cons.mp hl with rfl | hl
      · exact hk
      · exact Std.lt_trans hk (hx l hl)
    split
    · rename_i hk
      refine List.pairwise_cons.mpr ⟨fun l hl => ?_, hd⟩
      exact hk ▸ hx l hl
    · rename_i hk hne
      have hlt : x.1 < k := Std.lt_of_le_of_ne (Std.not_lt.mp hk) hne
      refine List.pairwise_cons.mpr ⟨fun l hl => ?_, ih hd⟩
      obtain ⟨e, he, rfl⟩ := List.mem_map.mp hl
      rcases mem_of_mem_insert he with rfl | he
      · exact hlt
      · exact hx _ (List.mem_map_of_mem he)

lemma Ordered.write (h : d.Ordered) (entries : List (κ × α)) :
    Ordered (entries.foldl Dict.write d) := by
  induction entries generalizing d with
  | nil => exact h
  | cons x entries ih => exact ih (h.insert x.1 x.2)

omit [DecidableLT κ] [DecidableEq κ] in
lemma Ordered.eq_of_perm (h : d.Ordered) (h' : d'.Ordered) (hp : d.Perm d') : d = d' := by
  have ha : ∀ a b : κ × α, a ∈ d → b ∈ d' → a.1 < b.1 → b.1 < a.1 → a = b :=
    fun a b _ _ hab hba => absurd (Std.lt_trans hab hba) Std.lt_irrefl
  exact List.Perm.eq_of_pairwise ha (List.pairwise_map.mp h) (List.pairwise_map.mp h') hp

lemma ofList_nodup (entries : List (κ × α)) : (keys (ofList entries)).Nodup :=
  (ordered_nil.write entries).nodup

theorem ofList_perm (h : d.Ordered) (hp : entries.Perm d) : ofList entries = d := by
  have hn : (keys entries).Nodup := ((hp.map Prod.fst).nodup_iff).mpr h.nodup
  refine Ordered.eq_of_perm (ordered_nil.write entries) h ?_
  have hw : (entries.foldl write []).Perm (entries ++ []) := perm_write (by rwa [List.append_nil])
  rw [List.append_nil] at hw
  exact hw.trans hp

lemma ofList_ordered (h : d.Ordered) : ofList d = d := ofList_perm h (.refl d)

end Ordered

end Dict

end PolicyBridge
