import Mathlib.Tactic
import PolicyBridge.Proofs.Session.Lending
import PolicyBridge.Proofs.Session.Serving

/-! Who keeps which ids of a session registered, and what a request changes in that: each request
concerns one holder at most, and its ids come from those that were free. -/

namespace PolicyBridge

variable {E Q Obj α : Type}

inductive Holder where
  | host
  | constant (name : String)
  | query (n : Nat)

/-- A session in use, with the ids of the host's own registrations and what the engine last accepted
for each constant. -/
structure Ledger (E Q Obj : Type) where
  served : Served (Recorded E) Q Obj
  own : List UInt64
  bound : Dict String (Bound Obj)

namespace Response

def succeeded : Response Obj → Bool
  | .done (.ok ()) => true
  | _ => false

def id? : Response Obj → Option UInt64
  | .registered (.ok id) => some id
  | _ => none

end Response

namespace Ledger

def start (engine : E) (config : Config) : Ledger E Q Obj := ⟨.start ⟨engine, []⟩ config, [], []⟩

def session (l : Ledger E Q Obj) : Session (Recorded E) Obj := l.served.session

def registry (l : Ledger E Q Obj) : Registry Obj := l.session.registry

def record (l : Ledger E Q Obj) : List Exchange := l.session.record

def held (l : Ledger E Q Obj) : Holder → List UInt64
  | .host => l.own
  | .constant name => l.session.keptFor name
  | .query n => l.served.queries[n]?.elim [] fun q => q.own.allocated

def offer [Engine E Q] (s : Session (Recorded E) Obj) : Request Obj → Option (String × Bound Obj)
  | .registerClass c => some (s.classOffer c)
  | .registerConstant name v => s.constantOffer name v
  | _ => none

structure Kept (l : Ledger E Q Obj) : Prop where
  live : ∀ h, ∀ id ∈ l.held h, l.registry.live? id ≠ none
  apart : ∀ h h', h ≠ h' → (l.held h).Disjoint (l.held h')

structure Turns (h : Holder) (l l' : Ledger E Q Obj) : Prop where
  others : ∀ h', h' ≠ h → l'.held h' = l.held h'
  borrows : (Marshal.releaseAll l.registry (l.held h)).Borrows (l'.held h) l'.registry

inductive Steps (l l' : Ledger E Q Obj) : Prop
  | still : l'.held = l.held → l'.bound = l.bound →
      (∀ id, l.registry.live? id ≠ none → l'.registry.live? id ≠ none) → Steps l l'
  | turns (h : Holder) : (∀ name, h ≠ .constant name) → Turns h l l' → l'.bound = l.bound → Steps l l'
  | binds (name : String) (b : Bound Obj) : Turns (.constant name) l l' →
      l'.bound = l.bound.insert name b →
        (∀ id ∈ b.term.ids, id ∈ l'.held (.constant name) ∨ Marshal.Carried b.parts id) → Steps l l'

variable {l l' : Ledger E Q Obj} {r : Request Obj} {h : Holder} {ids : List UInt64}

section Turning

lemma Turns.live (ht : Turns h l l') (hk : Kept l) (h' : Holder) :
    ∀ id ∈ l'.held h', l'.registry.live? id ≠ none := by
  intro id hid
  by_cases hh : h' = h
  · subst hh
    exact ht.borrows.held id hid
  · rw [ht.others h' hh] at hid
    have hn : id ∉ l.held h := fun hm => hk.apart h' h hh hid hm
    have hb : (Marshal.releaseAll l.registry (l.held h)).live? id = l.registry.live? id := by
      rw [Marshal.live?_releaseAll, if_neg hn]
    have hl := hk.live h' id hid
    rw [← hb] at hl
    rw [ht.borrows.kept id fun hm => hl (ht.borrows.free id hm)]
    exact hl

lemma Turns.not_mem (ht : Turns h l l') (hk : Kept l) {h' : Holder} (hh : h' ≠ h) {id : UInt64}
    (hid : id ∈ l.held h') : id ∉ l'.held h := by
  intro hm
  have hf := ht.borrows.free id hm
  rw [Marshal.live?_releaseAll, if_neg fun hx => hk.apart h' h hh hid hx] at hf
  exact hk.live h' id hid hf

lemma Turns.kept (ht : Turns h l l') (hk : Kept l) : Kept l' := by
  refine ⟨ht.live hk, fun h₁ h₂ hne id hid hid' => ?_⟩
  by_cases hh : h₁ = h
  · subst hh
    rw [ht.others h₂ hne.symm] at hid'
    exact ht.not_mem hk hne.symm hid' hid
  · rw [ht.others h₁ hh] at hid
    by_cases hh' : h₂ = h
    · subst hh'
      exact ht.not_mem hk hne hid hid'
    · rw [ht.others h₂ hh'] at hid'
      exact hk.apart h₁ h₂ hne hid hid'

lemma Steps.kept (hs : Steps l l') (hk : Kept l) : Kept l' := by
  cases hs with
  | still hh _ hg =>
    refine ⟨fun h id hid => hg id ?_, ?_⟩
    · rw [hh] at hid
      exact hk.live h id hid
    · rw [hh]
      exact hk.apart
  | turns h _ ht _ => exact ht.kept hk
  | binds name b ht _ _ => exact ht.kept hk

end Turning

variable [Engine E Q] [ClassObject Obj]

def step (l : Ledger E Q Obj) (r : Request Obj) : Ledger E Q Obj :=
  let (x, served) := Served.serve r l.served
  { served
    own := x.id?.toList ++ l.own
    bound := match offer l.session r with
      | none => l.bound
      | some (name, b) => if x.succeeded then l.bound.insert name b else l.bound }

def run (l : Ledger E Q Obj) (rs : List (Request Obj)) : Ledger E Q Obj := rs.foldl step l

/-- The host releases nothing, and no id is drawn that is live. -/
structure Lawful (l : Ledger E Q Obj) (r : Request Obj) : Prop where
  keeps : ∀ id, r ≠ .releaseInstance id
  frees : Query.Unlent l.registry ((l.step r).record.drop l.record.length)

section Requests

lemma Lawful.borrows {s : Session (Recorded E) Obj} (hl : Lawful l r) (hs : l.session.Lends ids s)
    (h : (l.step r).record = s.record) : l.registry.Borrows ids s.registry := by
  obtain ⟨-, xs, hx, hb⟩ := hs
  have hf := hl.frees
  rw [h, show s.record = l.record ++ xs from hx, List.drop_left] at hf
  exact hb hf

lemma step_still {x : Response Obj} {s : Session (Recorded E) Obj} (hl : Lawful l r)
    (h : Served.serve r l.served = (x, ⟨s, l.served.queries⟩)) (hs : l.session.Lends ids s)
    (hi : x.id? = none) (ho : offer l.session r = none ∨ x.succeeded = false) :
    Steps l (l.step r) := by
  have hr : l.step r = ⟨⟨s, l.served.queries⟩, l.own, l.bound⟩ := by
    rw [step, h]
    simp only [hi]
    rcases ho with ho | ho
    · rw [ho]
      rfl
    · rw [ho]
      cases offer l.session r <;> rfl
  have hb := hl.borrows hs (by rw [hr]; rfl)
  rw [hr]
  refine .still (funext fun h => ?_) rfl fun id hid => hb.live hid
  cases h with
  | host | query n => rfl
  | constant name => exact hs.keptFor name

lemma step_launches {q : Query Q Obj} {s : Session (Recorded E) Obj} (hl : Lawful l r)
    (h : Served.serve r l.served = (.done (.ok ()), ⟨s, l.served.queries ++ [q]⟩))
    (hs : l.session.Lends q.own.allocated s) (ho : offer l.session r = none) :
    Steps l (l.step r) := by
  have hr : l.step r = ⟨⟨s, l.served.queries ++ [q]⟩, l.own, l.bound⟩ := by
    rw [step, h, ho]
    rfl
  have hb := hl.borrows hs (by rw [hr]; rfl)
  rw [hr]
  refine .turns (.query l.served.queries.length) nofun ⟨fun h hne => ?_, ?_⟩ rfl
  · cases h with
    | host => rfl
    | constant name => exact hs.keptFor name
    | query n =>
      have hn : (l.served.queries ++ [q])[n]? = l.served.queries[n]? := by
        rcases Nat.lt_trichotomy n l.served.queries.length with hn | rfl | hn
        · exact List.getElem?_append_left hn
        · exact absurd rfl hne
        · rw [List.getElem?_eq_none (by simpa using hn), List.getElem?_eq_none hn.le]
      exact congrArg (fun o => Option.elim o [] fun q => q.own.allocated) hn
  · have hold : l.held (.query l.served.queries.length) = [] := by simp [held]
    have hnew : held (⟨⟨s, l.served.queries ++ [q]⟩, l.own, l.bound⟩ : Ledger E Q Obj)
        (.query l.served.queries.length) = q.own.allocated := by simp [held]
    rw [hold, hnew]
    exact hb

lemma step_binds {name : String} {b : Bound Obj} {s : Session (Recorded E) Obj} (hk : Kept l)
    (hl : Lawful l r)
    (h : Served.serve r l.served = (.done (.ok ()), ⟨s.binding name ids, l.served.queries⟩))
    (hs : l.session.Lends ids s) (ho : offer l.session r = some (name, b))
    (hc : ∀ id ∈ b.term.ids, id ∈ ids ∨ Marshal.Carried b.parts id) : Steps l (l.step r) := by
  have hr : l.step r = ⟨⟨s.binding name ids, l.served.queries⟩, l.own, l.bound.insert name b⟩ := by
    rw [step, h, ho]
    rfl
  have hb := hl.borrows hs (by rw [hr]; rfl)
  have hnew : (l.step r).held (.constant name) = ids := by
    rw [hr]
    exact congrArg (Option.getD · []) (Dict.find?_insert_self name ids s.constants)
  rw [hr] at hnew ⊢
  refine .binds name b ⟨fun h hne => ?_, ?_⟩ rfl ?_
  · cases h with
    | host | query n => rfl
    | constant n =>
      have hn : n ≠ name := fun h => hne (by rw [h])
      refine .trans (congrArg (Option.getD · []) ?_) (hs.keptFor n)
      exact (Dict.find?_insert _ _ _ _).trans (if_neg hn)
  · rw [hnew]
    -- What the constant held was live and what it holds now was free: none of it goes along.
    have hd : (l.held (.constant name)).Disjoint ids :=
      fun id hid hn => hk.live (.constant name) id hid (hb.free id hn)
    change (Marshal.releaseAll l.registry (l.session.keptFor name)).Borrows ids
      (Marshal.releaseAll s.registry (s.keptFor name))
    rw [hs.keptFor]
    exact hb.releaseAll hd
  · rw [hnew]
    exact hc

def withRun (l : Ledger E Q Obj) (n : Nat) (r : Run (Recorded E) Q Obj) : Ledger E Q Obj :=
  { l with served := ⟨{ l.session with shared := r.shared }, l.served.queries.set n r.query⟩ }

omit [Engine E Q] [ClassObject Obj] in
lemma withRun_turns {n : Nat} {q : Query Q Obj} {r : Run (Recorded E) Q Obj}
    (hq : l.served.queries[n]? = some q)
    (hb : (Marshal.releaseAll l.registry q.own.allocated).Borrows r.allocated r.registry) :
    Turns (.query n) l (l.withRun n r) := by
  obtain ⟨hn, -⟩ := List.getElem?_eq_some_iff.mp hq
  refine ⟨fun h hne => ?_, ?_⟩
  · cases h with
    | host | constant name => rfl
    | query k =>
      have hk : n ≠ k := fun h => hne (by rw [h])
      simp only [held, withRun, List.getElem?_set_ne hk]
  · have hnew : (l.withRun n r).held (.query n) = r.allocated := by
      simp only [held, withRun, List.getElem?_set_self hn]
      rfl
    rw [hnew, held, hq]
    exact hb

lemma step_runs {n : Nat} {m : Running (Recorded E) Q Obj α} {f : α → Response Obj} (hk : Kept l)
    (hl : Lawful l r) (h : Served.serve r = Served.onQuery n m f) (hi : ∀ a, (f a).id? = none)
    (ho : offer l.session r = none)
    (hm : ∀ (before : Registry Obj) r, Query.Borrowing before r (m r).2) : Steps l (l.step r) := by
  cases hq : l.served.queries[n]? with
  | none =>
    have hx : Served.serve r l.served = (.noQuery, l.served) := by
      rw [h, Served.onQuery_of_none hq]
    exact step_still hl hx (.refl _) rfl (.inl ho)
  | some q =>
    let x := m ⟨l.session.shared, q⟩
    have hs : l.step r = l.withRun n x.2 := by
      rw [step, h, Served.onQuery_of_some hq, ho]
      simp only [hi]
      rfl
    obtain ⟨xs, hx, hb⟩ := hm (Marshal.releaseAll l.registry q.own.allocated) ⟨l.session.shared, q⟩
    have hf := hl.frees
    have hd : (l.step r).record = l.record ++ xs := by rw [hs]; exact hx
    rw [hd, List.drop_left] at hf
    rw [hs]
    refine .turns (.query n) nofun (withRun_turns hq (hb (hf.releaseAll _) (.of_live ?_))) rfl
    have hold : l.held (.query n) = q.own.allocated := by rw [held, hq]; rfl
    exact hold ▸ hk.live (.query n)

lemma inSession_still {m : InSession (Recorded E) Obj α} {f : Except Error α → Response Obj}
    (hl : Lawful l r) (h : Served.serve r = Served.inSession m f) (hi : ∀ x, (f x).id? = none)
    (ho : offer l.session r = none) (hm : l.session.Lends ids (m l.session).2) :
    Steps l (l.step r) :=
  step_still hl (congrFun h l.served) hm (hi _) (.inl ho)

lemma starting_steps {m : InSession (Recorded E) Obj (Query Q Obj)} (hl : Lawful l r)
    (h : Served.serve r = Served.starting m) (ho : offer l.session r = none)
    (hm : Session.Starts l.session (m l.session)) : Steps l (l.step r) := by
  generalize hx : m l.session = x at hm
  cases hm with
  | failed hs =>
    exact step_still hl (h ▸ Served.starting_of_error hx) hs rfl (.inl ho)
  | begun hs =>
    exact step_launches hl (h ▸ Served.starting_of_ok hx) hs ho

lemma rebinding_steps {m : InSession (Recorded E) Obj Unit} (hk : Kept l) (hl : Lawful l r)
    (h : Served.serve r = Served.inSession m .done)
    (hm : Session.Rebinds l.session (offer l.session r) (m l.session)) : Steps l (l.step r) := by
  have hx : Served.serve r l.served = _ := congrFun h l.served
  have hi : Served.inSession m .done l.served =
    (.done (m l.session).1, ⟨(m l.session).2, l.served.queries⟩) := rfl
  rw [hi] at hx
  generalize m l.session = x at hm hx
  cases hm with
  | refused hs => exact step_still hl hx hs rfl (.inr rfl)
  | bound ho hs hc => exact step_binds hk hl hx hs ho hc

lemma registerInstance_steps {i : Instance Obj} (hk : Kept l) (hl : Lawful l (.registerInstance i)) :
    Steps l (l.step (.registerInstance i)) := by
  obtain ⟨id, s, hs, hlent⟩ := Session.register_lends i l.session
  have hr : l.step (.registerInstance i) = ⟨⟨s, l.served.queries⟩, id :: l.own, l.bound⟩ := by
    have hx : Served.serve (.registerInstance i) l.served =
        (.registered (Session.registerInstance i l.session).1,
          ⟨(Session.registerInstance i l.session).2, l.served.queries⟩) := rfl
    rw [step, hx, hs]
    rfl
  have hb := hl.borrows hlent (by rw [hr]; rfl)
  rw [hr]
  refine .turns .host nofun ⟨fun h hne => ?_, ?_⟩ rfl
  · cases h with
    | host => exact absurd rfl hne
    | query n => rfl
    | constant name => exact hlent.keptFor name
  · exact (Registry.Borrows.of_live (hk.live .host)).trans hb

lemma step_steps (hk : Kept l) (hl : Lawful l r) : Steps l (l.step r) := by
  cases r with
  | load sources =>
    exact inSession_still hl rfl (fun _ => rfl) rfl
      (Session.engine_lends _ (Session.load_quiet sources) _)
  | loadFiles fs paths =>
    exact inSession_still hl rfl (fun _ => rfl) rfl (Session.loadFiles_lends fs paths _)
  | clearRules =>
    exact inSession_still hl rfl (fun _ => rfl) rfl (Session.engine_lends _ Session.clearRules_quiet _)
  | registerClass c => exact rebinding_steps hk hl rfl (Session.registerClass_rebinds c _)
  | registerConstant name v =>
    exact rebinding_steps hk hl rfl (Session.registerConstant_rebinds name v _)
  | registerInstance i => exact registerInstance_steps hk hl
  | releaseInstance id => exact absurd rfl (hl.keeps id)
  | lookUp id => exact step_still hl rfl (.refl _) rfl (.inl rfl)
  | evaluate rule args bindings =>
    exact starting_steps hl rfl rfl (Session.evaluate_starts rule args bindings _)
  | evaluateText text bindings =>
    exact starting_steps hl rfl rfl (Session.evaluateText_starts text bindings _)
  | isAllowed polls a b c =>
    exact inSession_still hl rfl (fun _ => rfl) rfl (Session.isAllowed_lends polls a b c _)
  | next n polls => exact step_runs hk hl rfl (fun _ => rfl) rfl fun _ => Query.next_borrows polls
  | close n =>
    exact step_runs (f := fun _ => .done (.ok ())) hk hl rfl (fun _ => rfl) rfl fun _ =>
      Query.close_borrows
  | drop n =>
    exact step_runs (f := fun _ => .done (.ok ())) hk hl rfl (fun _ => rfl) rfl fun _ =>
      Query.release_borrows .abandoned

end Requests

end Ledger

end PolicyBridge
