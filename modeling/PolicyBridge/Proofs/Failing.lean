import Mathlib.Tactic
import PolicyBridge.Error

/-! Computations that change a state and may fail: what they do is put together from what their
parts do. -/

namespace PolicyBridge

abbrev Failing (σ α : Type) := ExceptT Error (StateM σ) α

def Raises {α : Type} (p : Error → Prop) (x : Except Error α) : Prop := ∀ e, x = .error e → p e

namespace Raises

variable {α β : Type} {p : Error → Prop} {x : Except Error α} {f : α → Except Error β}

lemma ok (a : α) : Raises p (.ok a : Except Error α) := nofun

lemma error {e : Error} (h : p e) : Raises p (.error e : Except Error α) := by
  rintro _ ⟨⟩
  exact h

lemma map {g : α → β} (hx : Raises p x) : Raises p (x.map g) := by
  cases x with
  | error e => exact .error (hx e rfl)
  | ok a => exact .ok (g a)

lemma bind (hx : Raises p x) (hf : ∀ a, x = .ok a → Raises p (f a)) : Raises p (x >>= f) := by
  cases x with
  | error e => exact .error (hx e rfl)
  | ok a => exact hf a rfl

end Raises

namespace Failing

variable {σ α β : Type}

section AnyError

variable {ε : Type} {m : ExceptT ε (StateM σ) α} {f : α → ExceptT ε (StateM σ) β} {s s' : σ}

lemma bind_ok {a : α} (h : m s = (.ok a, s')) : (m >>= f) s = f a s' := by
  change ExceptT.bindCont f (m s).1 (m s).2 = _
  rw [h]
  rfl

lemma bind_error {e : ε} (h : m s = (.error e, s')) : (m >>= f) s = (.error e, s') := by
  change ExceptT.bindCont f (m s).1 (m s).2 = _
  rw [h]
  rfl

end AnyError

variable {m : Failing σ α} {f : α → Failing σ β} {s s' : σ}

lemma map_eq {x : Except Error α} (h : m s = (x, s')) (g : α → β) :
    (m >>= fun a => pure (g a)) s = (x.map g, s') := by
  cases x with
  | error e => exact bind_error h
  | ok a => exact bind_ok h

lemma of_bind_ok {b : β} {s'' : σ} (h : (m >>= f) s = (.ok b, s'')) :
    ∃ a s', m s = (.ok a, s') ∧ f a s' = (.ok b, s'') := by
  rcases hm : m s with ⟨e | a, s'⟩
  · rw [bind_error hm] at h
    cases h
  · rw [bind_ok hm] at h
    exact ⟨a, s', rfl, h⟩

lemma bind_congr {m' : Failing σ α} (h : m s = m' s') : (m >>= f) s = (m' >>= f) s' := by
  change ExceptT.bindCont f (m s).1 (m s).2 = ExceptT.bindCont f (m' s').1 (m' s').2
  rw [h]

lemma bind_raises {p : Error → Prop} (hm : Raises p (m s).1)
    (hf : ∀ a s', m s = (.ok a, s') → Raises p (f a s').1) : Raises p ((m >>= f) s).1 := by
  rcases h : m s with ⟨e | a, s'⟩
  · rw [bind_error h]
    exact .error (hm e (by rw [h]))
  · rw [bind_ok h]
    exact hf a s' h

section Handled

variable {h : Error → Failing σ α}

lemma tryCatch_eq (m : Failing σ α) (h : Error → Failing σ α) (s : σ) :
    (tryCatch m h : Failing σ α) s = (match (m s).1 with
      | .ok a => (pure (.ok a) : StateM σ (Except Error α))
      | .error e => h e) (m s).2 := by
  have hb (k : Except Error α → StateM σ (Except Error α)) :
      (bind (m := StateM σ) m k) s = k (m s).1 (m s).2 := rfl
  change ExceptT.tryCatch m h s = _
  unfold ExceptT.tryCatch
  rw [ExceptT.mk, hb]
  cases (m s).1 <;> rfl

lemma tryCatch_ok {a : α} (hm : m s = (.ok a, s')) :
    (tryCatch m h : Failing σ α) s = (.ok a, s') := by
  rw [tryCatch_eq, hm]
  rfl

lemma tryCatch_error {e : Error} (hm : m s = (.error e, s')) :
    (tryCatch m h : Failing σ α) s = h e s' := by
  rw [tryCatch_eq, hm]

end Handled

def Moves (R : σ → σ → Prop) (m : Failing σ α) : Prop := ∀ s, R s (m s).2

namespace Moves

variable {R : σ → σ → Prop}

lemma pure (hR : ∀ s, R s s) (a : α) : Moves R (pure a : Failing σ α) := hR

lemma throw (hR : ∀ s, R s s) (e : Error) : Moves R (throw e : Failing σ α) := hR

lemma bind (hR : ∀ {a b c}, R a b → R b c → R a c) (hm : Moves R m) (hf : ∀ a, Moves R (f a)) :
    Moves R (m >>= f) := by
  intro s
  have hs := hm s
  rcases h : m s with ⟨_ | a, s'⟩
  · rw [bind_error h]
    rwa [h] at hs
  · rw [bind_ok h]
    rw [h] at hs
    exact hR hs (hf a s')

end Moves

def Yields (p : α → Prop) (m : Failing σ α) : Prop := ∀ s a, (m s).1 = .ok a → p a

namespace Yields

variable {p : β → Prop}

lemma pure {b : β} (h : p b) : Yields p (pure b : Failing σ β) := by
  intro s a ha
  cases ha
  exact h

lemma throw (e : Error) : Yields p (throw e : Failing σ β) := nofun

lemma bind (hf : ∀ a, Yields p (f a)) : Yields p (m >>= f) := by
  intro s b hb
  rcases h : m s with ⟨_ | a, s'⟩
  · rw [bind_error h] at hb
    cases hb
  · rw [bind_ok h] at hb
    exact hf a s' b hb

end Yields

end Failing

end PolicyBridge
