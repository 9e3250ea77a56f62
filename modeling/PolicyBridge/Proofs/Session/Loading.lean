import Mathlib.Tactic
import PolicyBridge.Proofs.Session.Steps
import PolicyBridge.Proofs.Taped
import PolicyBridge.Proofs.Value.Converting

namespace PolicyBridge

inductive EngineRequest where
  | drawId
  | load (sources : List Source)
  | clearRules
  | registerConstant (name : String) (t : Term)
  | newQuery (t : Term) (bindings : Bindings)
  | newQueryOfText (text : String) (bindings : Bindings)
  | nextEvent
  | answerCall (callId : UInt64) (result : Option Term)
  | answerApplicationError (message : String)
  | free
  | shutDown

structure Audited (E : Type) where
  inner : E
  requests : List EngineRequest

namespace Audited

variable {E Q α : Type}

def noting (x : EngineRequest) (m : StateM E α) : StateM (Audited E) α := fun s =>
  ((m s.inner).1, ⟨(m s.inner).2, s.requests ++ [x]⟩)

instance [Engine E Q] : Engine (Audited E) Q where
  next := noting .drawId IdSource.next
  load sources := noting (.load sources) (Engine.load sources)
  clearRules := noting .clearRules (Engine.clearRules : EngineCall E Unit)
  registerConstant name t := noting (.registerConstant name t) (Engine.registerConstant name t)
  newQuery t bindings := noting (.newQuery t bindings) (Engine.newQuery t bindings)
  newQueryOfText text bindings :=
    noting (.newQueryOfText text bindings) (Engine.newQueryOfText text bindings)
  nextEvent q := noting .nextEvent (Engine.nextEvent q)
  answerCall q callId result := noting (.answerCall callId result) (Engine.answerCall q callId result)
  answerApplicationError q message :=
    noting (.answerApplicationError message) (Engine.answerApplicationError q message)
  free q := noting .free (Engine.free q)
  shutDown := noting .shutDown (Engine.shutDown : StateM E Unit)

end Audited

namespace Session

variable {E Q Obj : Type}

section Checks

variable (fs : Files) (require : Bool) (path : String)

def Passes : Prop :=
  (require = true → Path.extension? path = some "polar") ∧ ∃ text, fs.read path = .ok text

/-- Why a path does not pass: its extension, which is looked at first, or its contents. -/
inductive Rejects : Error → Prop
  | extension : require = true → Path.extension? path ≠ some "polar" →
      Rejects (.load "policy files must have the .polar extension" (some path))
  | contents (e : FileError) : (require = true → Path.extension? path = some "polar") →
      fs.read path = .error e →
      Rejects (.load ("cannot read policy file: " ++ e.message) (some path))

def Reads (s : Source) : Prop := fs.read path = .ok s.text ∧ s.filename = some path

variable {fs require path}

lemma readSource_ok {s : Source} (h : readSource fs require path = .ok s) :
    Passes fs require path ∧ Reads fs path s := by
  unfold readSource at h
  split at h
  · cases h
  · rename_i hx
    split at h
    · rename_i text ht
      cases h
      exact ⟨⟨fun hr => by simpa [hr] using hx, text, ht⟩, ht, rfl⟩
    · cases h

lemma readSource_error {e : Error} (h : readSource fs require path = .error e) :
    ¬ Passes fs require path ∧ Rejects fs require path e := by
  unfold readSource at h
  split at h
  · rename_i hx
    cases h
    exact ⟨fun hp => hx.2 (hp.1 hx.1), .extension hx.1 hx.2⟩
  · rename_i hx
    split at h
    · cases h
    · rename_i x hr
      cases h
      refine ⟨?_, .contents x (fun hq => by simpa [hq] using hx) hr⟩
      rintro ⟨-, text, ht⟩
      rw [hr] at ht
      cases ht

end Checks

def placed (file : Option String) : Error → Error
  | .load m _ => .load m file
  | e => e

def sole? : List String → Option String
  | [p] => some p
  | _ => none

lemma naming_eq {fs : Files} {paths : List String} {sources : List Source}
    (h : List.Forall₂ (Reads fs) paths sources) (f : Fault) :
    naming sources f.loadError = placed (sole? paths) f.loadError := by
  have hf : f.loadError = placed none f.loadError := by
    unfold Fault.loadError
    split <;> rfl
  cases h with
  | nil => exact hf
  | cons hr hs =>
    cases hs with
    | nil =>
      rw [naming, hr.2]
      cases f.loadError <;> rfl
    | cons _ _ => exact hf

section Loading

variable [Engine E Q] {fs : Files} {paths : List String}

lemma loadFiles_eq (s : Session E Obj) : loadFiles fs paths s =
    (liftExcept (paths.mapM (readSource fs s.config.policy.requirePolarExtension)) >>= fun sources =>
      engine (fun f => naming sources f.loadError) (Engine.load sources) : InSession E Obj Unit) s :=
  rfl

lemma loadFiles_of_error {s : Session E Obj} {e : Error}
    (h : paths.mapM (readSource fs s.config.policy.requirePolarExtension) = .error e) :
    loadFiles fs paths s = (.error e, s) := by
  rw [loadFiles_eq, h]
  rfl

lemma loadFiles_of_ok {s : Session E Obj} {sources : List Source}
    (h : paths.mapM (readSource fs s.config.policy.requirePolarExtension) = .ok sources)
    (hr : List.Forall₂ (Reads fs) paths sources) :
    loadFiles fs paths s =
      let x := (Engine.load sources : EngineCall E Unit) s.shared.host.source
      (x.1.mapError fun f => placed (sole? paths) f.loadError, s.withSource x.2) := by
  rw [loadFiles_eq, h]
  rcases hl : (Engine.load sources : EngineCall E Unit) s.shared.host.source with ⟨f | u, e⟩
  · exact (engine_of_error hl).trans (by rw [naming_eq hr]; rfl)
  · exact engine_of_ok hl

end Loading

/-- If some path does not pass, loading complains of the first such one and the engine is asked for
nothing. Otherwise it is asked once to load, and gets the text of each file with its path; if it
refuses to, a load error names the file exactly if there is only one. -/
theorem loadFiles_allOrNothing [Engine E Q] (fs : Files) (paths : List String)
    (s : Session (Audited E) Obj) :
    let require := s.config.policy.requirePolarExtension
    ((∃ p ∈ paths, ¬ Passes fs require p) → ∃ before path after e,
      paths = before ++ path :: after ∧ (∀ p ∈ before, Passes fs require p) ∧
        Rejects fs require path e ∧ loadFiles fs paths s = (.error e, s)) ∧
    ((∀ p ∈ paths, Passes fs require p) → ∃ sources, List.Forall₂ (Reads fs) paths sources ∧
      let x := (Engine.load sources : EngineCall E Unit) s.shared.host.source.inner
      loadFiles fs paths s = (x.1.mapError fun f => placed (sole? paths) f.loadError,
        s.withSource ⟨x.2, s.shared.host.source.requests ++ [.load sources]⟩)) := by
  intro require
  have hg : Gathers (fun p x => readSource fs require p = x) paths
      (paths.mapM (readSource fs require)) := gathers_mapM fun _ _ => rfl
  cases hm : paths.mapM (readSource fs require) with
  | error e =>
    rw [hm] at hg
    obtain ⟨before, path, after, hp, hb, he⟩ := hg
    obtain ⟨hn, hr⟩ := readSource_error he
    refine ⟨fun _ => ⟨before, path, after, e, hp, fun p hpb => ?_, hr, loadFiles_of_error hm⟩,
      fun h => absurd (h path (by simp [hp])) hn⟩
    obtain ⟨src, hs⟩ := hb p hpb
    exact (readSource_ok hs).1
  | ok sources =>
    rw [hm] at hg
    obtain ⟨hp, hr⟩ := (List.forall₂_and_left _ _).mp (hg.imp fun _ _ h => readSource_ok h)
    exact ⟨fun ⟨p, hm, hn⟩ => absurd (hp p hm) hn, fun _ => ⟨sources, hr, loadFiles_of_ok hm hr⟩⟩

section Samples

def shelf : Files :=
  [(["a.polar"], [0x7b, 0x7d]), (["notes.txt"], [0x68, 0x69]), (["b.polar"], [0xff])]

def reading : Session (Audited Tape) Unit := Session.new ⟨⟨⟨1⟩, []⟩, []⟩ .standard

lemma passes_a : Passes shelf true "a.polar" :=
  ⟨fun _ => by decide +kernel, "{}", by decide +kernel⟩

lemma not_passes_b : ¬ Passes shelf true "b.polar" := by
  rintro ⟨-, text, ht⟩
  have hb : shelf.read "b.polar" = .error .invalidText := by decide +kernel
  rw [hb] at ht
  cases ht

theorem loadFiles_allOrNothing_shelf :
    (∃ before path after e, ["a.polar", "b.polar", "notes.txt"] = before ++ path :: after ∧
      (∀ p ∈ before, Passes shelf true p) ∧ Rejects shelf true path e ∧
        loadFiles shelf ["a.polar", "b.polar", "notes.txt"] reading = (.error e, reading)) ∧
    ∃ sources, List.Forall₂ (Reads shelf) ["a.polar"] sources ∧
      loadFiles shelf ["a.polar"] reading =
        (.ok (), reading.withSource ⟨⟨⟨1⟩, []⟩, [.load sources]⟩) :=
  ⟨(loadFiles_allOrNothing shelf ["a.polar", "b.polar", "notes.txt"] reading).1
      ⟨"b.polar", by decide, not_passes_b⟩,
    (loadFiles_allOrNothing shelf ["a.polar"] reading).2 (List.forall_mem_singleton.mpr passes_a)⟩

end Samples

end Session

end PolicyBridge
