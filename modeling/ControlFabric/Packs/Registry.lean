import ControlFabric.Runtime
import ControlFabric.Lib.Run

/-! The registry of domain packs: install, uninstall, upgrade, and whether what an installed pack
depends on is installed. Installing checks the dependencies and uninstalling the dependents;
upgrading replaces the manifest and checks neither. Of a manifest the name, the texts and the
counts, which none of these reads, are left out. -/
namespace ControlFabric.Packs
open Lib Py Method

inductive PackStatus where
  | available
  | installed
  | upgrading
  | deprecated
  | incompatible
  deriving DecidableEq

structure PackVersion where
  major : ℤ
  minor : ℤ
  patch : ℤ
  deriving DecidableEq

def PackVersion.str (v : PackVersion) : String := s!"{v.major}.{v.minor}.{v.patch}"

def PackVersion.isCompatibleWith (v other : PackVersion) : Bool := v.major = other.major

structure PackManifest where
  packId : String
  version : PackVersion
  dependencies : List String
  deriving DecidableEq

structure PackInstallRequest where
  packId : String
  targetEnvironment : String
  requestedBy : String
  force : Bool

/-- Version and environment are written by `install` only. -/
structure LogEntry where
  action : String
  packId : String
  version : Option String
  environment : Option String
  requestedBy : String
  timestamp : String

structure PackDiff where
  packId : String
  fromVersion : String
  toVersion : String
  breaking : Bool

def buildBuiltinManifests : List PackManifest :=
  [⟨"telco-ops", ⟨1, 0, 0⟩, []⟩, ⟨"contract-margin", ⟨1, 0, 0⟩, []⟩,
    ⟨"release-governance", ⟨1, 0, 0⟩, []⟩]

structure PackRegistry where
  manifests : Dict String PackManifest
  status : Dict String PackStatus
  installLog : List LogEntry

namespace PackRegistry

def new : PackRegistry where
  manifests := buildBuiltinManifests.foldl (fun d m => d.set m.packId m) Dict.empty
  status := buildBuiltinManifests.foldl (fun d m => d.set m.packId .available) Dict.empty
  installLog := []

def setStatus (packId : String) (status : PackStatus) : Method PackRegistry Unit :=
  assign fun r => { r with status := r.status.set packId status }

def log (entry : LogEntry) : Method PackRegistry Unit :=
  assign fun r => { r with installLog := r.installLog ++ [entry] }

/-- The first dependency of the manifest that is not installed. -/
def missingDependency (r : PackRegistry) (manifest : PackManifest) : Option String :=
  manifest.dependencies.find? fun dep => r.status.get? dep ≠ some .installed

/-- The first installed pack that depends on the given one. -/
def dependent (r : PackRegistry) (packId : String) : Option String :=
  (r.manifests.entries.find? fun p =>
    packId ∈ p.2.dependencies ∧ r.status.get? p.1 = some .installed).map Prod.fst

def install (rt : Runtime) (request : PackInstallRequest) : Method PackRegistry LogEntry := do
  match (← self).manifests.get? request.packId with
  | none => raise (.valueError s!"Unknown pack: {request.packId}")
  | some manifest =>
    let current := (← self).status.get? request.packId
    if current = some .installed ∧ ¬ request.force then
      raise (.valueError
        s!"Pack {request.packId} already installed. Use force=True to reinstall")
    match (← self).missingDependency manifest with
    | some dep => raise (.valueError s!"Dependency not installed: {dep}")
    | none =>
      setStatus request.packId .installed
      let entry : LogEntry := ⟨"install", request.packId, some manifest.version.str,
        some request.targetEnvironment, request.requestedBy, (rt.now (← draw)).isoformat⟩
      log entry
      return entry

def uninstall (rt : Runtime) (packId requestedBy : String) : Method PackRegistry LogEntry := do
  if (← self).status.get? packId ≠ some .installed then
    raise (.valueError s!"Pack {packId} is not installed")
  match (← self).dependent packId with
  | some pid => raise (.valueError s!"Cannot uninstall: pack {pid} depends on {packId}")
  | none =>
    setStatus packId .available
    let entry : LogEntry :=
      ⟨"uninstall", packId, none, none, requestedBy, (rt.now (← draw)).isoformat⟩
    log entry
    return entry

/-- The dependencies of the new manifest are not looked at. -/
def upgrade (packId : String) (newManifest : PackManifest) : Method PackRegistry PackDiff := do
  match (← self).manifests.get? packId with
  | none => raise (.valueError s!"Unknown pack: {packId}")
  | some old =>
    if ¬ newManifest.version.isCompatibleWith old.version then
      setStatus packId .incompatible
      raise (.valueError
        s!"Incompatible major version: {old.version.str} → {newManifest.version.str}")
    let diff : PackDiff := ⟨packId, old.version.str, newManifest.version.str,
      ¬ newManifest.version.isCompatibleWith old.version⟩
    assign fun r => { r with
      manifests := r.manifests.set packId newManifest
      status := r.status.set packId .installed }
    return diff

end PackRegistry

inductive PackCall where
  | install (request : PackInstallRequest)
  | uninstall (packId requestedBy : String)
  | upgrade (packId : String) (newManifest : PackManifest)

def PackCall.perform (rt : Runtime) : PackCall → Method PackRegistry Unit
  | install request => discard (PackRegistry.install rt request)
  | uninstall packId requestedBy => discard (PackRegistry.uninstall rt packId requestedBy)
  | upgrade packId newManifest => discard (PackRegistry.upgrade packId newManifest)

def packStep (rt : Runtime) (call : PackCall) (w : World PackRegistry) : World PackRegistry :=
  (call.perform rt).after w

/-! ### What an installed pack depends on -/
open PackRegistry

/-- Every dependency of an installed pack is installed. -/
def Closed (r : PackRegistry) : Prop :=
  ∀ pid manifest, r.manifests.get? pid = some manifest → r.status.get? pid = some .installed →
    ∀ dep ∈ manifest.dependencies, r.status.get? dep = some .installed

/-- A call that raises leaves manifests, statuses and log as they were. -/
def RaiseKeeps (rt : Runtime) (call : PackCall) (w : World PackRegistry) : Prop :=
  (call.perform rt).returns w = false → (packStep rt call w).self = w.self

/-- An upgrade brings only dependencies that are installed; one to another major version is tried
only on a pack already marked incompatible. -/
def UpgradeChecked (call : PackCall) (w : World PackRegistry) : Prop :=
  match call with
  | .install _ | .uninstall _ _ => True
  | .upgrade packId newManifest => ∀ old ∈ w.self.manifests.get? packId,
      if newManifest.version.isCompatibleWith old.version then
        ∀ dep ∈ newManifest.dependencies, dep = packId ∨ w.self.status.get? dep = some .installed
      else w.self.status.get? packId = some .incompatible

section Steps
variable {rt : Runtime} {w : World PackRegistry}

theorem missingDependency_eq_none {r : PackRegistry} {manifest : PackManifest} :
    r.missingDependency manifest = none ↔
      ∀ dep ∈ manifest.dependencies, r.status.get? dep = some .installed := by
  simp [missingDependency]

theorem dependent_eq_none {r : PackRegistry} {packId : String} :
    r.dependent packId = none ↔ ∀ pid manifest, r.manifests.get? pid = some manifest →
      packId ∈ manifest.dependencies → r.status.get? pid ≠ some .installed := by
  simp [dependent, Dict.get?_eq_some]

variable (rt w) in
theorem install_cases (request : PackInstallRequest) :
    (∃ e w', (install rt request).run w = .error e w' ∧ w'.self = w.self) ∨
    ∃ manifest entry w', w.self.manifests.get? request.packId = some manifest ∧
      (∀ dep ∈ manifest.dependencies, w.self.status.get? dep = some .installed) ∧
      (install rt request).run w = .ok entry w' ∧ w'.self.manifests = w.self.manifests ∧
      w'.self.status = w.self.status.set request.packId .installed := by
  simp only [install, EStateM.run_bind, run_self]
  cases hmanifest : w.self.manifests.get? request.packId with
  | none => exact Or.inl ⟨_, _, rfl, rfl⟩
  | some manifest =>
    by_cases hcurrent : w.self.status.get? request.packId = some .installed ∧ ¬ request.force
    · simp only [EStateM.run_bind, run_self, if_pos hcurrent, run_raise]
      exact Or.inl ⟨_, _, rfl, rfl⟩
    · simp only [EStateM.run_bind, run_self, if_neg hcurrent]
      cases hmissing : w.self.missingDependency manifest with
      | some dep => exact Or.inl ⟨_, _, rfl, rfl⟩
      | none =>
        right
        exact ⟨manifest, _, _, rfl, missingDependency_eq_none.mp hmissing, rfl, rfl, rfl⟩

variable (rt w) in
theorem uninstall_cases (packId requestedBy : String) :
    (∃ e w', (uninstall rt packId requestedBy).run w = .error e w' ∧ w'.self = w.self) ∨
    ∃ entry w', (∀ pid manifest, w.self.manifests.get? pid = some manifest →
        packId ∈ manifest.dependencies → w.self.status.get? pid ≠ some .installed) ∧
      (uninstall rt packId requestedBy).run w = .ok entry w' ∧
      w'.self.manifests = w.self.manifests ∧
      w'.self.status = w.self.status.set packId .available := by
  simp only [uninstall, EStateM.run_bind, run_self]
  by_cases hstatus : w.self.status.get? packId ≠ some .installed
  · simp only [if_pos hstatus, EStateM.run_bind, run_raise]
    exact Or.inl ⟨_, _, rfl, rfl⟩
  · simp only [if_neg hstatus, EStateM.run_bind, run_self]
    cases hdependent : w.self.dependent packId with
    | some pid => exact Or.inl ⟨_, _, rfl, rfl⟩
    | none =>
      right
      exact ⟨_, _, dependent_eq_none.mp hdependent, rfl, rfl, rfl⟩

theorem upgrade_unknown {packId : String} (newManifest : PackManifest)
    (h : w.self.manifests.get? packId = none) :
    ∃ e, (upgrade packId newManifest).run w = .error e w := by
  simp only [upgrade, EStateM.run_bind, run_self, h, run_raise]
  exact ⟨_, rfl⟩

theorem upgrade_incompatible {packId : String} {old newManifest : PackManifest}
    (h : w.self.manifests.get? packId = some old)
    (hversion : ¬ newManifest.version.isCompatibleWith old.version) :
    ∃ e, (upgrade packId newManifest).run w = .error e
      ⟨{ w.self with status := w.self.status.set packId .incompatible }, w.env⟩ := by
  simp only [upgrade, EStateM.run_bind, run_self, h, if_pos hversion, setStatus, run_assign,
    run_raise]
  exact ⟨_, rfl⟩

theorem upgrade_compatible {packId : String} {old newManifest : PackManifest}
    (h : w.self.manifests.get? packId = some old)
    (hversion : newManifest.version.isCompatibleWith old.version) :
    ∃ diff, (upgrade packId newManifest).run w = .ok diff ⟨{ w.self with
      manifests := w.self.manifests.set packId newManifest
      status := w.self.status.set packId .installed }, w.env⟩ := by
  have hno : ¬ ¬ newManifest.version.isCompatibleWith old.version = true := not_not.mpr hversion
  simp only [upgrade, EStateM.run_bind, run_self, h, if_neg hno, run_pure, run_assign]
  exact ⟨_, rfl⟩

/-! ### What one call keeps -/

/-- Installing a pack whose dependencies are installed keeps closure. -/
theorem Closed.install {r r' : PackRegistry} (h : Closed r) {packId : String}
    {manifest : PackManifest} (hmanifest : r.manifests.get? packId = some manifest)
    (hdeps : ∀ dep ∈ manifest.dependencies, r.status.get? dep = some .installed)
    (hmanifests : r'.manifests = r.manifests)
    (hstatus : r'.status = r.status.set packId .installed) : Closed r' := by
  intro pid m hm hinstalled dep hdep
  rw [hmanifests] at hm
  rw [hstatus, Dict.get?_set] at hinstalled ⊢
  by_cases hd : dep = packId
  · rw [if_pos hd]
  · rw [if_neg hd]
    by_cases hp : pid = packId
    · subst hp
      obtain rfl := Option.some.inj (hmanifest.symm.trans hm)
      exact hdeps dep hdep
    · rw [if_neg hp] at hinstalled
      exact h pid m hm hinstalled dep hdep

/-- So does uninstalling a pack no installed one depends on. -/
theorem Closed.uninstall {r r' : PackRegistry} (h : Closed r) {packId : String}
    (hdependents : ∀ pid manifest, r.manifests.get? pid = some manifest →
      packId ∈ manifest.dependencies → r.status.get? pid ≠ some .installed)
    (hmanifests : r'.manifests = r.manifests)
    (hstatus : r'.status = r.status.set packId .available) : Closed r' := by
  intro pid m hm hinstalled dep hdep
  rw [hmanifests] at hm
  rw [hstatus, Dict.get?_set] at hinstalled ⊢
  split at hinstalled
  next => cases hinstalled
  next =>
    have hd : dep ≠ packId := by
      rintro rfl
      exact hdependents pid m hm hdep hinstalled
    rw [if_neg hd]
    exact h pid m hm hinstalled dep hdep

/-- An upgrade keeps closure exactly when what the new manifest depends on is installed. -/
theorem closed_upgrade_iff {r r' : PackRegistry} (h : Closed r) {packId : String}
    {newManifest : PackManifest} (hmanifests : r'.manifests = r.manifests.set packId newManifest)
    (hstatus : r'.status = r.status.set packId .installed) :
    Closed r' ↔ ∀ dep ∈ newManifest.dependencies,
      dep = packId ∨ r.status.get? dep = some .installed := by
  have hget (dep : String) : r'.status.get? dep = some .installed ↔
      dep = packId ∨ r.status.get? dep = some .installed := by
    rw [hstatus, Dict.get?_set]
    by_cases hd : dep = packId <;> simp [hd]
  constructor
  · intro hclosed dep hdep
    apply (hget dep).mp
    apply hclosed packId newManifest _ ((hget packId).mpr (Or.inl rfl)) dep hdep
    rw [hmanifests, Dict.get?_set_self]
  · intro hdeps pid m hm hinstalled dep hdep
    rw [hmanifests, Dict.get?_set] at hm
    split at hm
    next =>
      obtain rfl := Option.some.inj hm
      exact (hget dep).mpr (hdeps dep hdep)
    next hp =>
      have hold : r.status.get? pid = some .installed :=
        ((hget pid).mp hinstalled).resolve_left hp
      exact (hget dep).mpr (Or.inr (h pid m hm hold dep hdep))

theorem step_iff (call : PackCall) (h : Closed w.self) :
    Closed (packStep rt call w).self ∧ RaiseKeeps rt call w ↔ UpgradeChecked call w := by
  unfold RaiseKeeps packStep
  cases call with
  | install request =>
    rw [PackCall.perform, after_discard]
    refine iff_of_true ?_ trivial
    rcases install_cases rt w request with ⟨e, w', hrun, hself⟩ |
      ⟨manifest, entry, w', hmanifest, hdeps, hrun, hmanifests, hstatus⟩
    · rw [after_error hrun, hself]
      exact ⟨h, fun _ => rfl⟩
    · have hreturns : (discard (PackRegistry.install rt request)).returns w = true := by
        rw [returns, run_discard_ok hrun]
      rw [after_ok hrun, hreturns]
      exact ⟨h.install hmanifest hdeps hmanifests hstatus, fun h => Bool.noConfusion h⟩
  | uninstall packId requestedBy =>
    rw [PackCall.perform, after_discard]
    refine iff_of_true ?_ trivial
    rcases uninstall_cases rt w packId requestedBy with ⟨e, w', hrun, hself⟩ |
      ⟨entry, w', hdependents, hrun, hmanifests, hstatus⟩
    · rw [after_error hrun, hself]
      exact ⟨h, fun _ => rfl⟩
    · have hreturns : (discard (PackRegistry.uninstall rt packId requestedBy)).returns w = true := by
        rw [returns, run_discard_ok hrun]
      rw [after_ok hrun, hreturns]
      exact ⟨h.uninstall hdependents hmanifests hstatus, fun h => Bool.noConfusion h⟩
  | upgrade packId newManifest =>
    rw [PackCall.perform, after_discard, UpgradeChecked]
    cases hold : w.self.manifests.get? packId with
    | none =>
      obtain ⟨e, hrun⟩ := upgrade_unknown newManifest hold
      rw [after_error hrun]
      exact iff_of_true ⟨h, fun _ => rfl⟩ (fun _ hmem => by cases hmem)
    | some old =>
      simp only [Option.mem_def, Option.some.injEq, forall_eq']
      by_cases hversion : newManifest.version.isCompatibleWith old.version = true
      · obtain ⟨diff, hrun⟩ := upgrade_compatible hold hversion
        have hreturns : (discard (PackRegistry.upgrade packId newManifest)).returns w = true := by
          rw [returns, run_discard_ok hrun]
        rw [after_ok hrun, hreturns, if_pos hversion, closed_upgrade_iff h rfl rfl]
        exact and_iff_left fun h => Bool.noConfusion h
      · obtain ⟨e, hrun⟩ := upgrade_incompatible hold hversion
        have hreturns : (discard (PackRegistry.upgrade packId newManifest)).returns w = false := by
          rw [returns, run_discard_error hrun]
        rw [after_error hrun, hreturns, if_neg hversion]
        constructor
        · rintro ⟨-, hkeeps⟩
          have hsame : w.self.status.set packId .incompatible = w.self.status :=
            congrArg PackRegistry.status (hkeeps rfl)
          rw [← hsame]
          exact Dict.get?_set_self _ _ _
        · intro hstatus
          rw [Dict.set_of_get? hstatus]
          exact ⟨h, fun _ => rfl⟩

end Steps

/-- The packs come without dependencies and are not installed. -/
theorem closed_new : Closed PackRegistry.new := by
  intro pid manifest _ hinstalled
  have hmem := Dict.get?_eq_some.mp hinstalled
  have hall : ∀ p ∈ PackRegistry.new.status.entries, p.2 ≠ .installed := by decide
  exact absurd rfl (hall _ hmem)

/-- Over every run, what installed packs depend on is installed in each state and what raises
changes nothing, exactly when every upgrade is of this kind. -/
theorem dependency_closure_iff (rt : Runtime) (env : Env) (calls : List PackCall) :
    Always (packStep rt) (fun w => Closed w.self) ⟨.new, env⟩ calls ∧
        Conforms (packStep rt) (RaiseKeeps rt) ⟨.new, env⟩ calls ↔
      Conforms (packStep rt) UpgradeChecked ⟨.new, env⟩ calls :=
  always_and_conforms_iff (packStep rt) (fun call _ _ h => step_iff call h) closed_new

/-- An upgrade of a pack that was available declares a dependency on one that is not installed. -/
def dependentUpgrade : PackCall :=
  .upgrade "telco-ops" ⟨"telco-ops", ⟨1, 1, 0⟩, ["contract-margin"]⟩

/-- An upgrade to another major version raises and marks the pack incompatible. -/
def majorUpgrade : PackCall := .upgrade "telco-ops" ⟨"telco-ops", ⟨2, 0, 0⟩, []⟩

theorem not_dependency_closure :
    ¬ Always (packStep .reference) (fun w => Closed w.self) ⟨.new, .initial "acme"⟩
      [dependentUpgrade] ∧
    ¬ Conforms (packStep .reference) (RaiseKeeps .reference) ⟨.new, .initial "acme"⟩
      [majorUpgrade] := by
  constructor
  · intro h
    have hinstalled := h.2 "telco-ops" ⟨"telco-ops", ⟨1, 1, 0⟩, ["contract-margin"]⟩
      (by decide +kernel) (by decide +kernel) "contract-margin" (by simp)
    exact absurd hinstalled (by decide +kernel)
  · intro h
    have hstatus := congrArg (fun r => r.status.get? "telco-ops") (h.1 (by decide +kernel))
    exact absurd hstatus (by decide +kernel)

end ControlFabric.Packs
