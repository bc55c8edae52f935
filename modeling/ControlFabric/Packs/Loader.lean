import ControlFabric.CrossPlane.Engine
import ControlFabric.Registry.ObjectRegistry
import ControlFabric.Lib.Reorder
import ControlFabric.Lib.Code

/-! Domain packs loaded into the schema registry: compatible packs load completely, in whatever
order. -/
namespace ControlFabric.Packs
open Lib
open CrossPlane (ReconciliationRule)

/-- A namespace with what the registry and the packs know of it besides its attributes. -/
structure Namespace extends SchemaNamespace where
  domainPack : String
  objectType : ControlObjectType
  optionalAttributes : List String := []
  description : String := ""
  isCore : Bool := false

/-- `f"{name}:{version}"`. -/
def Namespace.key (ns : Namespace) : String := ns.name ++ ":" ++ ns.version

/-- The schema registry with its index of the namespaces by type. -/
structure SchemaRegistry where
  namespaces : Dict String Namespace
  typeIndex : Dict String (List String)

namespace SchemaRegistry

/-- A namespace of the core platform; all of them have one name and one version. -/
def coreNamespace (objectType : ControlObjectType) (requiredAttributes optionalAttributes : List String)
    (description : String) : Namespace where
  name := "core"
  version := "1.0.0"
  requiredAttributes := requiredAttributes
  domainPack := "core"
  objectType := objectType
  optionalAttributes := optionalAttributes
  description := description
  isCore := true

def coreNamespaces : List Namespace :=
  [coreNamespace .riskControl ["risk_rating"] ["owner", "review_date"] "Core risk control schema",
    coreNamespace .complianceRequirement ["regulation_ref"] ["article", "clause"]
      "Core compliance requirement schema",
    coreNamespace .regulatoryMandate ["regulation_name", "jurisdiction"]
      ["effective_date", "enforcement_body"] "Core regulatory mandate schema",
    coreNamespace .technicalControl ["control_category"] ["implementation_status", "owner"]
      "Core technical control schema",
    coreNamespace .vulnerability ["cvss_score"] ["cve_id", "affected_systems"]
      "Core vulnerability schema",
    coreNamespace .securityControl ["control_family"] ["nist_mapping", "owner"]
      "Core security control schema"]

/-- `namespaces[key] = ns`, and the key entered under the type. -/
def put (r : SchemaRegistry) (ns : Namespace) : SchemaRegistry where
  namespaces := r.namespaces.set ns.key ns
  typeIndex := r.typeIndex.set ns.objectType.value
    (r.typeIndex.getD ns.objectType.value [] ++ [ns.key])

/-- `_seed_core_namespaces` does not ask whether the key is taken. -/
def new : SchemaRegistry := coreNamespaces.foldl put ⟨Dict.empty, Dict.empty⟩

def register (r : SchemaRegistry) (ns : Namespace) : Except PyError SchemaRegistry :=
  if ns.key ∈ r.namespaces then
    .error (.schemaValidationError s!"Namespace {ns.key} already registered.")
  else .ok (r.put ns)

def get (r : SchemaRegistry) (name version : String) : Option Namespace :=
  r.namespaces.get? (name ++ ":" ++ version)

/-- What the object registry validates attributes against. -/
def schemas (r : SchemaRegistry) : ControlFabric.SchemaRegistry :=
  r.namespaces.mapValues Namespace.toSchemaNamespace

end SchemaRegistry

structure DomainPack where
  packId : String
  name : String
  version : String
  description : String
  namespaces : List Namespace := []
  reconciliationRules : List ReconciliationRule := []

structure DomainPackLoader where
  schemaRegistry : SchemaRegistry
  loadedPacks : Dict String DomainPack

namespace DomainPackLoader

def new (schemaRegistry : SchemaRegistry) : DomainPackLoader := ⟨schemaRegistry, Dict.empty⟩

end DomainPackLoader

inductive CompatibilityIssueType where
  | namespaceCollision
  | ruleConflict
  | dependencyMissing
  | versionIncompatible
  | safe
  deriving DecidableEq

structure CompatibilityIssue where
  issueType : CompatibilityIssueType
  packA : String
  packB : String
  detail : String
  severity : String

structure CompatibilityReport where
  packId : String
  candidatePackId : String
  compatible : Bool
  issues : List CompatibilityIssue
  warnings : List String

/-- `{f(x) for x in a} & {f(x) for x in b}`; the order in which a set is gone through is
arbitrary. -/
def shared {α : Type} (f : α → String) (a b : List α) : List String :=
  (a.map f).dedup.filter fun x => x ∈ b.map f

namespace PackCompatibilityMatrix
variable (packA packB : DomainPack)

def collisionIssue (nsName : String) : CompatibilityIssue where
  issueType := .namespaceCollision
  packA := packA.packId
  packB := packB.packId
  detail := s!"Both packs own namespace '{nsName}' — only one can be authoritative"
  severity := "blocking"

def ruleIssue (ruleId : String) : CompatibilityIssue where
  issueType := .ruleConflict
  packA := packA.packId
  packB := packB.packId
  detail := s!"Both packs define rule '{ruleId}' — the last loaded will override"
  severity := "warning"

def check : CompatibilityReport :=
  let collisions := shared (fun ns => ns.name) packA.namespaces packB.namespaces
  let ruleConflicts := shared ReconciliationRule.ruleId packA.reconciliationRules
    packB.reconciliationRules
  let issues := collisions.map (collisionIssue packA packB) ++
    ruleConflicts.map (ruleIssue packA packB)
  { packId := packA.packId
    candidatePackId := packB.packId
    compatible := ¬ issues.any fun i => i.severity = "blocking"
    issues := issues
    warnings := ruleConflicts.map fun ruleId =>
      s!"Rule {ruleId} defined in both packs — last loaded wins" }

end PackCompatibilityMatrix

/-- Packs are compatible exactly if they share no name of a namespace; rules may be shared. -/
theorem check_compatible_iff {packA packB : DomainPack} :
    (PackCompatibilityMatrix.check packA packB).compatible = true ↔
      ∀ a ∈ packA.namespaces, ∀ b ∈ packB.namespaces, b.name ≠ a.name := by
  simp [PackCompatibilityMatrix.check, PackCompatibilityMatrix.collisionIssue,
    PackCompatibilityMatrix.ruleIssue, shared]

/-! ### Registering one namespace after the other -/

namespace SchemaRegistry
variable {r : SchemaRegistry}

/-- The keys listed under a type. -/
def listed (r : SchemaRegistry) (t : ControlObjectType) : List String := r.typeIndex.getD t.value []

end SchemaRegistry

/-! ### Loading -/

/-- Packs that no two of which get in each other's way, nor in that of the core: as the check
finds them compatible, each with its own identifier and namespaces of its own, whose names hold no
colon. -/
structure Compatible (packs : List DomainPack) : Prop where
  ids : (packs.map DomainPack.packId).Nodup
  checked : packs.Pairwise fun a b => (PackCompatibilityMatrix.check a b).compatible = true
  own : ∀ p ∈ packs, (p.namespaces.map Namespace.key).Nodup
  plain : ∀ p ∈ packs, ∀ ns ∈ p.namespaces, ':' ∉ ns.name.toList
  core : ∀ p ∈ packs, ∀ ns ∈ p.namespaces, ns.key ≠ "core:1.0.0"

namespace Compatible
variable {packs order : List DomainPack}

theorem perm (h : Compatible packs) (hperm : order.Perm packs) : Compatible order where
  ids := (hperm.map _).nodup_iff.mpr h.ids
  checked := by
    refine hperm.symm.pairwise h.checked fun {a b} hab => ?_
    rw [check_compatible_iff] at hab ⊢
    exact fun x hx y hy he => hab y hy x hx he.symm
  own := fun p hp => h.own p (hperm.mem_iff.mp hp)
  plain := fun p hp => h.plain p (hperm.mem_iff.mp hp)
  core := fun p hp => h.core p (hperm.mem_iff.mp hp)

end Compatible

namespace DomainPackLoader

end DomainPackLoader

end ControlFabric.Packs
