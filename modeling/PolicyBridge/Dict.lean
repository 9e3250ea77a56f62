/-!
Association lists kept in strictly increasing key order: one list for each finite map, so two
maps with the same entries are equal. A later write to a key replaces the earlier one.
-/

namespace PolicyBridge

abbrev Dict (κ α : Type) := List (κ × α)

namespace Dict

variable {κ α : Type} [LT κ] [DecidableLT κ] [DecidableEq κ]

def keys (d : Dict κ α) : List κ := d.map Prod.fst

def Ordered (d : Dict κ α) : Prop := d.keys.Pairwise (· < ·)

def find? : Dict κ α → κ → Option α
  | [], _ => none
  | (k', v) :: d, k => if k' = k then some v else find? d k

def contains (d : Dict κ α) (k : κ) : Bool := (d.find? k).isSome

def insert (k : κ) (v : α) : Dict κ α → Dict κ α
  | [] => [(k, v)]
  | (k', v') :: d =>
    if k < k' then (k, v) :: (k', v') :: d
    else if k' = k then (k, v) :: d
    else (k', v') :: insert k v d

def erase (k : κ) (d : Dict κ α) : Dict κ α := d.filter fun e => e.1 ≠ k

def ofList (entries : List (κ × α)) : Dict κ α :=
  entries.foldl (fun d e => d.insert e.1 e.2) []

theorem find?_insert_self (k : κ) (v : α) (d : Dict κ α) : (d.insert k v).find? k = some v := by
  induction d with
  | nil => simp [insert, find?]
  | cons e d ih =>
    simp only [insert]
    split
    · simp [find?]
    · split
      · simp [find?]
      · rename_i h; simp [find?, h, ih]

theorem find?_insert_ne {k k' : κ} (h : k ≠ k') (v : α) (d : Dict κ α) :
    (d.insert k v).find? k' = d.find? k' := by
  induction d with
  | nil => simp [insert, find?, h]
  | cons e d ih =>
    simp only [insert]
    split
    · simp [find?, h]
    · split
      · rename_i hk; simp [find?, hk, h]
      · simp [find?, ih]

theorem find?_insert (k : κ) (v : α) (d : Dict κ α) (k' : κ) :
    (d.insert k v).find? k' = if k' = k then some v else d.find? k' := by
  split
  · rename_i h; rw [h, find?_insert_self]
  · rename_i h; rw [find?_insert_ne (Ne.symm h)]

omit [LT κ] [DecidableLT κ] in
theorem find?_erase (k : κ) (d : Dict κ α) (k' : κ) :
    (d.erase k).find? k' = if k' = k then none else d.find? k' := by
  induction d with
  | nil => simp [erase, find?]
  | cons e d ih =>
    simp only [erase] at ih ⊢
    by_cases h : e.1 = k
    · rw [List.filter_cons_of_neg (by simp [h]), ih]
      split
      · rfl
      · rename_i hk
        simp [find?, h, Ne.symm hk]
    · rw [List.filter_cons_of_pos (by simp [h])]
      by_cases hk : e.1 = k'
      · subst hk
        simp [find?, h]
      · simpa only [find?, hk, if_false] using ih

omit [LT κ] [DecidableLT κ] in
theorem contains_eq_false {d : Dict κ α} {k : κ} : d.contains k = false ↔ d.find? k = none := by
  simp [contains]

end Dict

end PolicyBridge
