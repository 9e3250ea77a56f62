import Mathlib.Tactic
import PolicyBridge.Proofs.Failing

/-! One computation that does, on a view of the state, what another one does on the state. -/

namespace PolicyBridge

variable {σ τ α β : Type} {P : σ → Prop} {v : σ → τ} {s : σ}

/-- From this state `m` leads to a good one, and on its view `m'` does the same. -/
structure FollowsAt (P : σ → Prop) (v : σ → τ) (m : StateM σ α) (m' : StateM τ α) (s : σ) :
    Prop where
  eq : m' (v s) = ((m s).1, v (m s).2)
  good : P (m s).2

def Follows (P : σ → Prop) (v : σ → τ) (m : StateM σ α) (m' : StateM τ α) : Prop :=
  ∀ s, P s → FollowsAt P v m m' s

lemma FollowsAt.of_eq {m n : StateM σ α} {m' n' : StateM τ α} (h : m s = n s)
    (h' : m' (v s) = n' (v s)) (hn : FollowsAt P v n n' s) : FollowsAt P v m m' s :=
  ⟨by rw [h', hn.eq, h], by rw [h]; exact hn.good⟩

lemma FollowsAt.bind {m : StateM σ α} {m' : StateM τ α} {f : α → StateM σ β} {g : α → StateM τ β}
    (hm : FollowsAt P v m m' s) (hf : ∀ a, Follows P v (f a) (g a)) :
    FollowsAt P v (m >>= f) (m' >>= g) s := by
  have h := hf (m s).1 (m s).2 hm.good
  have hb : (m' >>= g) (v s) = g (m' (v s)).1 (m' (v s)).2 := rfl
  refine ⟨?_, h.good⟩
  rw [hb, hm.eq]
  exact h.eq

lemma FollowsAt.attempt {m : Failing σ α} {m' : Failing τ α} {f : α → Failing σ β}
    {f' : α → Failing τ β} (hm : FollowsAt P v m m' s) (hf : ∀ a, Follows P v (f a) (f' a)) :
    FollowsAt P v (m >>= f : Failing σ β) (m' >>= f' : Failing τ β) s := by
  refine FollowsAt.bind (f := ExceptT.bindCont f) (g := ExceptT.bindCont f') hm fun a => ?_
  cases a with
  | error e => exact fun _ h => ⟨rfl, h⟩
  | ok a => exact hf a

namespace Follows

lemma pure (a : α) : Follows P v (pure a) (pure a) := fun _ h => ⟨rfl, h⟩

lemma succeed (a : α) : Follows P v (Pure.pure a : Failing σ α) (Pure.pure a : Failing τ α) :=
  fun _ h => ⟨rfl, h⟩

lemma throw (e : Error) :
    Follows P v (MonadExcept.throw e : Failing σ α) (MonadExcept.throw e : Failing τ α) :=
  fun _ h => ⟨rfl, h⟩

lemma bind {m : StateM σ α} {m' : StateM τ α} {f : α → StateM σ β} {f' : α → StateM τ β}
    (hm : Follows P v m m') (hf : ∀ a, Follows P v (f a) (f' a)) :
    Follows P v (m >>= f) (m' >>= f') :=
  fun s hs => (hm s hs).bind hf

lemma attempt {m : Failing σ α} {m' : Failing τ α} {f : α → Failing σ β} {f' : α → Failing τ β}
    (hm : Follows P v m m') (hf : ∀ a, Follows P v (f a) (f' a)) :
    Follows P v (m >>= f : Failing σ β) (m' >>= f' : Failing τ β) :=
  fun s hs => (hm s hs).attempt hf

lemma orElse {m : Failing σ α} {m' : Failing τ α} {f : Error → Failing σ α}
    {f' : Error → Failing τ α} (hm : Follows P v m m') (hf : ∀ e, Follows P v (f e) (f' e)) :
    Follows P v (tryCatch m f : Failing σ α) (tryCatch m' f' : Failing τ α) := by
  change Follows P v (ExceptT.tryCatch m f) (ExceptT.tryCatch m' f')
  unfold ExceptT.tryCatch
  refine Follows.bind hm fun x => ?_
  cases x with
  | error e => exact hf e
  | ok a => exact Follows.pure _

lemma looking {f : σ → StateM σ α} {f' : τ → StateM τ α} (hf : ∀ s, Follows P v (f s) (f' (v s))) :
    Follows P v (get >>= f) (get >>= f') :=
  fun s hs => ⟨(hf s s hs).eq, (hf s s hs).good⟩

lemma reading {f : σ → Failing σ α} {f' : τ → Failing τ α}
    (hf : ∀ s, Follows P v (f s) (f' (v s))) :
    Follows P v (get >>= f : Failing σ α) (get >>= f' : Failing τ α) :=
  fun s hs => ⟨(hf s s hs).eq, (hf s s hs).good⟩

end Follows

end PolicyBridge
