import ControlFabric.Registry.ObjectRegistry

/-! What one registry call does: it raises and leaves the registry as it was, or writes one version
of one object. -/
namespace ControlFabric
open Lib Method

namespace ObjectRegistry
variable (rt : Runtime)

/-- The stores after a version of an object is written; `n` is the draw its record takes. -/
def write (n : ℕ) (obj : ControlObject) (changedBy reason : String) (r : ObjectRegistry) :
    ObjectRegistry :=
  let cleared := match r.objects.get? obj.objectId with
    | none => r
    | some old => r.removeFromIndices old
  { (cleared.putObject obj).updateIndices obj with
    versionHistory := r.versionHistory.set obj.objectId
      (r.getVersionHistory obj.objectId ++ [VersionRecord.new rt n obj changedBy reason]) }

/-- Objects are stored under their identifiers. -/
def Keyed (r : ObjectRegistry) : Prop := ∀ id obj, r.objects.get? id = some obj → obj.objectId = id

variable {rt} {r : ObjectRegistry} {obj : ControlObject} {changedBy reason : String}

@[simp] theorem removeFromIndices_objects (old : ControlObject) (r : ObjectRegistry) :
    (r.removeFromIndices old).objects = r.objects := by
  unfold removeFromIndices
  split <;> rfl

@[simp] theorem removeFromIndices_versionHistory (old : ControlObject) (r : ObjectRegistry) :
    (r.removeFromIndices old).versionHistory = r.versionHistory := by
  unfold removeFromIndices
  split <;> rfl

@[simp] theorem removeFromIndices_events (old : ControlObject) (r : ObjectRegistry) :
    (r.removeFromIndices old).events = r.events := by
  unfold removeFromIndices
  split <;> rfl

@[simp] theorem removeFromIndices_typeIndex (old : ControlObject) (r : ObjectRegistry) :
    (r.removeFromIndices old).typeIndex = r.typeIndex := by
  unfold removeFromIndices
  split <;> rfl

@[simp] theorem write_objects (n : ℕ) :
    (r.write rt n obj changedBy reason).objects = r.objects.set obj.objectId obj := by
  simp only [write, updateIndices, putObject]
  split <;> simp

@[simp] theorem write_versionHistory (n : ℕ) :
    (r.write rt n obj changedBy reason).versionHistory = r.versionHistory.set obj.objectId
      (r.getVersionHistory obj.objectId ++ [VersionRecord.new rt n obj changedBy reason]) := rfl

@[simp] theorem run_validateSchema (w : World ObjectRegistry) :
    (validateSchema rt obj).run w = .ok () w := by
  cases h : w.self.schemaRegistry.validateAttributes rt obj.schemaNamespace "1.0.0"
    obj.attributes with
  | ok u => simp [validateSchema, h]
  | error e =>
    obtain ⟨message, he⟩ := SchemaRegistry.validateAttributes_error h
    rw [he] at h
    simp [validateSchema, h]

variable (rt) (changedBy reason) (env : Env)

theorem run_register (h : obj.objectId ∉ r.objects) :
    (register rt obj changedBy reason).run ⟨r, env⟩ = .ok obj
      ⟨{ r.write rt env.draws obj changedBy reason with
          events := r.events ++ [RegistryEvent.new rt (env.draws + 1) "registered" obj changedBy
            s!"Registered: {reason}"] },
        { env with draws := env.draws + 2 }⟩ := by
  have hget := Dict.get?_eq_none.mpr h
  simp [register, h, write, hget, putObject, updateIndices, recordVersion, emitEvent,
    getVersionHistory]

theorem run_register_error (h : obj.objectId ∈ r.objects) :
    (register rt obj changedBy reason).run ⟨r, env⟩ =
      .error (.registryError s!"Object {obj.objectId} already registered. Use update().")
        ⟨r, env⟩ := by
  simp [register, h]

theorem run_update {old : ControlObject} (h : r.objects.get? obj.objectId = some old)
    (hversion : obj.version = old.version + 1) :
    (update rt obj changedBy reason).run ⟨r, env⟩ = .ok obj
      ⟨{ r.write rt env.draws obj changedBy reason with
          events := r.events ++ [RegistryEvent.new rt (env.draws + 1) "updated" obj changedBy
            s!"Updated v{old.version}→v{obj.version}: {reason}"] },
        { env with draws := env.draws + 2 }⟩ := by
  simp [update, h, hversion, write, putObject, updateIndices, recordVersion, emitEvent,
    getVersionHistory]

theorem run_update_error (h : ∀ old, r.objects.get? obj.objectId = some old →
      obj.version ≠ old.version + 1) :
    ∃ e, (update rt obj changedBy reason).run ⟨r, env⟩ = .error e ⟨r, env⟩ := by
  cases hget : r.objects.get? obj.objectId with
  | none => exact ⟨_, by simp [update, hget]; rfl⟩
  | some old => exact ⟨_, by simp [update, hget, h old hget]; rfl⟩

section Transition
variable {current : ControlObject} (newState : ControlObjectState) {objectId : String}
  {w : World (Governed ObjectRegistry)}

theorem run_transitionState (h : w.self.store.objects.get? objectId = some current) :
    (transitionState rt objectId newState changedBy reason).run w = (Governed.governed rt
      (transitionSubmission current objectId newState changedBy reason)
      (fun result => .registryError (s!"Gate blocked state transition for {objectId}: " ++
        result.failureReason.getD "None"))
      (commitTransition rt current newState changedBy reason)).run w := by
  simp only [transitionState, EStateM.run_bind, run_self, h]

theorem run_transitionState_error (h : w.self.store.objects.get? objectId = none) :
    (transitionState rt objectId newState changedBy reason).run w =
      .error (.registryError s!"Object {objectId} not found.") w := by
  simp only [transitionState, EStateM.run_bind, run_self, h, run_raise]

variable {newState}

theorem run_commitTransition (h : r.objects.get? current.objectId = some current)
    (hvalid : newState ∈ current.state.validStateTransitions) :
    ∃ detail events, (commitTransition rt current newState changedBy reason).run ⟨r, env⟩ =
      .ok (current.withState newState (rt.now env.draws))
        ⟨{ r.write rt (env.draws + 1) (current.withState newState (rt.now env.draws)) changedBy
            detail with events := r.events ++ events }, { env with draws := env.draws + 4 }⟩ := by
  let newObj := current.withState newState (rt.now env.draws)
  let detail := s!"State transition: {current.state.str}→{newState.str}: {reason}"
  let updated := RegistryEvent.new rt (env.draws + 2) "updated" newObj changedBy
    s!"Updated v{current.version}→v{newObj.version}: {detail}"
  let changed := RegistryEvent.new rt (env.draws + 3) "state_changed" newObj changedBy
    s!"{current.state.str}→{newState.str}"
  have hupdate : (update rt newObj changedBy detail).run ⟨r, { env with draws := env.draws + 1 }⟩ =
      .ok newObj ⟨{ r.write rt (env.draws + 1) newObj changedBy detail with
          events := r.events ++ [updated] }, { env with draws := env.draws + 3 }⟩ :=
    run_update rt changedBy detail _ h rfl
  refine ⟨detail, [updated, changed], ?_⟩
  simp only [commitTransition, EStateM.run_bind, run_draw, ControlObject.transitionTo, hvalid,
    not_true_eq_false, if_false, run_lift_ok]
  rw [hupdate]
  simp only [emitEvent, EStateM.run_bind, run_draw, run_assign, run_pure, List.append_assoc]
  rfl

theorem run_commitTransition_error (hvalid : newState ∉ current.state.validStateTransitions) :
    ∃ e, (commitTransition rt current newState changedBy reason).run ⟨r, env⟩ =
      .error e ⟨r, { env with draws := env.draws + 1 }⟩ := by
  exact ⟨_, by simp [commitTransition, ControlObject.transitionTo, hvalid]; rfl⟩

end Transition

end ObjectRegistry

/-- One call on a registry. -/
inductive RegistryOp where
  | register (obj : ControlObject) (registeredBy reason : String)
  | update (obj : ControlObject) (updatedBy reason : String)
  | transitionState (objectId : String) (newState : ControlObjectState)
      (transitionedBy reason : String) (releaseGate : Option PlatformActionReleaseGate)

namespace RegistryOp
open ObjectRegistry

def call (rt : Runtime) : RegistryOp → Method ObjectRegistry ControlObject
  | register obj registeredBy reason => ObjectRegistry.register rt obj registeredBy reason
  | update obj updatedBy reason => ObjectRegistry.update rt obj updatedBy reason
  | transitionState objectId newState transitionedBy reason releaseGate =>
    Governed.callWith releaseGate
      (ObjectRegistry.transitionState rt objectId newState transitionedBy reason)

/-- The call is accepted in this registry and writes this version. -/
def Writes (r : ObjectRegistry) : RegistryOp → ControlObject → Prop
  | register obj _ _, written => obj.objectId ∉ r.objects ∧ written = obj
  | update obj _ _, written =>
    (∃ old, r.objects.get? obj.objectId = some old ∧ obj.version = old.version + 1) ∧ written = obj
  | transitionState objectId newState transitionedBy reason releaseGate, written =>
    ∃ current updatedAt, r.objects.get? objectId = some current ∧
      Governed.Admits releaseGate
        (transitionSubmission current objectId newState transitionedBy reason) ∧
      newState ∈ current.state.validStateTransitions ∧
      written = current.withState newState updatedAt

private theorem call_transitionState_cases (rt : Runtime) {r : ObjectRegistry} (hkeyed : r.Keyed)
    (env : Env) (objectId : String) (newState : ControlObjectState) (transitionedBy reason : String)
    (releaseGate : Option PlatformActionReleaseGate) :
    let op := transitionState objectId newState transitionedBy reason releaseGate
    (∃ obj n changedBy detail events env', op.Writes r obj ∧ env.Within 13 env' ∧
      (op.call rt).run ⟨r, env⟩ = .ok obj
        ⟨{ r.write rt n obj changedBy detail with events := r.events ++ events }, env'⟩) ∨
      (∀ obj, ¬ op.Writes r obj) ∧ ∃ e env', env.Within 13 env' ∧
        (op.call rt).run ⟨r, env⟩ = .error e ⟨r, env'⟩ := by
  intro op
  cases hget : r.objects.get? objectId with
  | none =>
    refine Or.inr ⟨?_, .registryError s!"Object {objectId} not found.", env,
      Env.Within.refl 13 env, ?_⟩
    · rintro obj ⟨current, -, hcurrent, -⟩
      simp [hget] at hcurrent
    · rw [call, Governed.run_callWith, run_transitionState_error rt _ _ _ hget]
  | some current =>
    have hcall := Governed.run_callWith_congr (w := ⟨r, env⟩)
      (run_transitionState rt transitionedBy reason newState (w := ⟨⟨r, releaseGate⟩, env⟩) hget)
    have hexec : (transitionSubmission current objectId newState transitionedBy
        reason).executor = none := rfl
    have hself : r.objects.get? current.objectId = some current := by
      rw [hkeyed objectId current hget, hget]
    rw [call, hcall]
    rcases Governed.run_callWith_governed rt _ _ _ _ hexec releaseGate with
      ⟨hadmits, env', hwithin, hrun⟩ | ⟨hadmits, e, env', hwithin, hrun⟩
    · rw [hrun]
      by_cases hvalid : newState ∈ current.state.validStateTransitions
      · obtain ⟨detail, events, hcommit⟩ := run_commitTransition rt transitionedBy reason env' hself
          hvalid
        refine Or.inl ⟨_, _, _, _, _, _, ⟨current, _, hget, hadmits, hvalid, rfl⟩, ?_, hcommit⟩
        exact hwithin.trans (l := 4) ⟨by simp, by simp⟩ (by omega)
      · obtain ⟨e, hcommit⟩ := run_commitTransition_error rt (r := r) transitionedBy reason env'
          hvalid
        refine Or.inr ⟨?_, e, _, ?_, hcommit⟩
        · rintro obj ⟨stored, -, hstored, -, hv, -⟩
          rw [hget, Option.some.injEq] at hstored
          exact hvalid (hstored ▸ hv)
        · exact hwithin.trans (l := 1) ⟨by simp, by simp⟩ (by omega)
    · refine Or.inr ⟨?_, e, env', hwithin.mono (by omega), hrun⟩
      rintro obj ⟨stored, -, hstored, ha, -⟩
      rw [hget, Option.some.injEq] at hstored
      exact hadmits (hstored ▸ ha)

/-- A call writes one version and returns it, or raises with the registry unchanged; it takes at most
13 draws. -/
theorem call_cases (rt : Runtime) (op : RegistryOp) {r : ObjectRegistry} (hkeyed : r.Keyed)
    (env : Env) :
    (∃ obj n changedBy detail events env', op.Writes r obj ∧ env.Within 13 env' ∧
      (op.call rt).run ⟨r, env⟩ = .ok obj
        ⟨{ r.write rt n obj changedBy detail with events := r.events ++ events }, env'⟩) ∨
      (∀ obj, ¬ op.Writes r obj) ∧ ∃ e env', env.Within 13 env' ∧
        (op.call rt).run ⟨r, env⟩ = .error e ⟨r, env'⟩ := by
  cases op with
  | register obj registeredBy reason =>
    by_cases h : obj.objectId ∈ r.objects
    · exact Or.inr ⟨fun _ hw => hw.1 h, _, env, Env.Within.refl 13 env,
        run_register_error rt registeredBy reason env h⟩
    · refine Or.inl ⟨obj, _, _, _, _, _, ⟨h, rfl⟩, ?_,
        run_register rt registeredBy reason env h⟩
      exact ⟨by simp, by simp⟩
  | update obj updatedBy reason =>
    by_cases h : ∃ old, r.objects.get? obj.objectId = some old ∧ obj.version = old.version + 1
    · obtain ⟨old, hold, hversion⟩ := h
      refine Or.inl ⟨obj, _, _, _, _, _, ⟨⟨old, hold, hversion⟩, rfl⟩, ?_,
        run_update rt updatedBy reason env hold hversion⟩
      exact ⟨by simp, by simp⟩
    · obtain ⟨e, hrun⟩ := run_update_error rt updatedBy reason env
        (fun old hold hversion => h ⟨old, hold, hversion⟩)
      exact Or.inr ⟨fun _ hw => h hw.1, e, env, Env.Within.refl 13 env, hrun⟩
  | transitionState objectId newState transitionedBy reason releaseGate =>
    exact call_transitionState_cases rt hkeyed env objectId newState transitionedBy reason releaseGate

end RegistryOp

/-- One call, after which the caller goes on whether it returned or raised. -/
def registryStep (rt : Runtime) (op : RegistryOp) (w : World ObjectRegistry) :
    World ObjectRegistry := (op.call rt).after w

def registryRun (rt : Runtime) (w : World ObjectRegistry) (ops : List RegistryOp) :
    World ObjectRegistry := run (registryStep rt) w ops

namespace ObjectRegistry

theorem Keyed.write (rt : Runtime) {r : ObjectRegistry} (h : r.Keyed) (n : ℕ)
    (obj : ControlObject) (changedBy reason : String) :
    (r.write rt n obj changedBy reason).Keyed := by
  intro id o hget
  rw [write_objects, Dict.get?_set] at hget
  split at hget
  next hid => rw [hid, Option.some.inj hget]
  next => exact h id o hget

end ObjectRegistry

theorem registryStep_register (rt : Runtime) {obj : ControlObject}
    (registeredBy reason : String) {w : World ObjectRegistry} (h : obj.objectId ∉ w.self.objects) :
    ∃ events, (registryStep rt (.register obj registeredBy reason) w).self =
      { w.self.write rt w.env.draws obj registeredBy reason with events := events } := by
  have hrun := ObjectRegistry.run_register rt registeredBy reason w.env h
  have hstep : registryStep rt (.register obj registeredBy reason) w = _ := after_ok hrun
  exact ⟨_, by rw [hstep]⟩

theorem registryStep_register_get? {rt : Runtime} {obj : ControlObject}
    {registeredBy reason : String} {w : World ObjectRegistry} (h : obj.objectId ∉ w.self.objects) :
    (registryStep rt (.register obj registeredBy reason) w).self.objects.get? obj.objectId =
      some obj := by
  obtain ⟨events, hself⟩ := registryStep_register rt registeredBy reason h
  rw [hself]
  simp

/-- The two outcomes of a step, as seen on the stores. -/
theorem registryStep_cases (rt : Runtime) (op : RegistryOp) {w : World ObjectRegistry}
    (hkeyed : w.self.Keyed) :
    (∃ obj n changedBy detail events, op.Writes w.self obj ∧
      (registryStep rt op w).self =
        { w.self.write rt n obj changedBy detail with events := w.self.events ++ events }) ∨
      (∀ obj, ¬ op.Writes w.self obj) ∧ (registryStep rt op w).self = w.self := by
  rcases op.call_cases rt hkeyed w.env with
    ⟨obj, n, changedBy, detail, events, env', hwrites, -, hrun⟩ | ⟨hno, e, env', -, hrun⟩
  · refine Or.inl ⟨obj, n, changedBy, detail, events, hwrites, ?_⟩
    rw [registryStep, after_ok hrun]
  · refine Or.inr ⟨hno, ?_⟩
    rw [registryStep, after_error hrun]

theorem registryStep_within (rt : Runtime) (op : RegistryOp) {w : World ObjectRegistry}
    (hkeyed : w.self.Keyed) : w.env.Within 13 (registryStep rt op w).env := by
  rcases op.call_cases rt hkeyed w.env with
    ⟨obj, n, changedBy, detail, events, env', -, hwithin, hrun⟩ | ⟨-, e, env', hwithin, hrun⟩
  · rw [registryStep, after_ok hrun]
    exact hwithin
  · rw [registryStep, after_error hrun]
    exact hwithin

/-- A property of registries that every accepted write keeps is kept by every step. -/
theorem registryStep_invariant {rt : Runtime} {I : ObjectRegistry → Prop}
    (hevents : ∀ r events, I r → I { r with events := events }) (hkeyed : ∀ r, I r → r.Keyed)
    {op : RegistryOp} {w : World ObjectRegistry}
    (hwrite : ∀ obj n changedBy reason, op.Writes w.self obj →
      I (w.self.write rt n obj changedBy reason))
    (hw : I w.self) : I (registryStep rt op w).self := by
  rcases registryStep_cases rt op (hkeyed _ hw) with
    ⟨obj, n, changedBy, detail, events, hwrites, hself⟩ | ⟨-, hself⟩
  · rw [hself]
    exact hevents _ _ (hwrite obj n changedBy detail hwrites)
  · rw [hself]
    exact hw

end ControlFabric
