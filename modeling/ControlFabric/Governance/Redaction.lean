import ControlFabric.Governance.Holds
import ControlFabric.Ingress.Pipeline
import ControlFabric.Reconciliation.DomainTypes

/-! Classifications of the data governance manager and what they keep out of an export. Which fields
an export withholds follows the last classification under the key of the record, and nothing of what
stood in a withheld field comes through. -/
namespace ControlFabric.Governance
open Lib Method
open Ingress (dictGet)
open Fabric.Reconciliation (ValueOps)

inductive ClassificationLevel where
  | publicLevel
  | internal
  | confidential
  | restricted
  deriving DecidableEq

namespace ClassificationLevel

def value : ClassificationLevel → String
  | publicLevel => "public"
  | internal => "internal"
  | confidential => "confidential"
  | restricted => "restricted"

/-- `value.upper()`. -/
def upper : ClassificationLevel → String
  | publicLevel => "PUBLIC"
  | internal => "INTERNAL"
  | confidential => "CONFIDENTIAL"
  | restricted => "RESTRICTED"

/-- The member as an f-string writes it. -/
def str (level : ClassificationLevel) : String := "ClassificationLevel." ++ level.upper

end ClassificationLevel

inductive DataCategory where
  | evidence
  | auditLog
  | governanceObject
  | exceptionRecord
  | userData
  | configuration
  deriving DecidableEq

structure ClassificationRecord where
  recordId : String
  entityType : String
  entityId : String
  classification : ClassificationLevel
  dataCategory : DataCategory
  sensitivityReason : String
  classifiedBy : String
  tenantId : String
  classifiedAt : String
  reviewDue : Option String
  recordHash : String

/-- `REDACTION_RULES.get(level, [])`. -/
def redactionRules : ClassificationLevel → List String
  | .restricted => ["email", "phone", "address", "passport", "ssn", "health_data", "legal_matter_id",
      "salary", "itar_controlled", "ear_controlled"]
  | .confidential => ["email", "personal_identifier", "client_name"]
  | .internal | .publicLevel => []

/-- The manager: its classifications, beside its holds. -/
structure GovernedData where
  classifications : Dict String ClassificationRecord
  holds : DataGovernanceManager

namespace GovernedData

def new : GovernedData := ⟨Dict.empty, .new⟩

/-! ### Classification -/

/-- What `classify` is asked. -/
structure Classify where
  entityType : String
  entityId : String
  classification : ClassificationLevel
  dataCategory : DataCategory
  classifiedBy : String
  tenantId : String
  sensitivityReason : String := ""
  reviewDue : Option String := none

/-- `f"{entity_type}:{entity_id}"`. -/
def Classify.key (c : Classify) : String := c.entityType ++ ":" ++ c.entityId

def newRecord (rt : Runtime) (c : Classify) (n : ℕ) : ClassificationRecord where
  recordId := rt.uuid4 n
  entityType := c.entityType
  entityId := c.entityId
  classification := c.classification
  dataCategory := c.dataCategory
  sensitivityReason :=
    if c.sensitivityReason = "" then s!"Classified as {c.classification.value}"
    else c.sensitivityReason
  classifiedBy := c.classifiedBy
  tenantId := c.tenantId
  classifiedAt := (rt.now (n + 1)).isoformat
  reviewDue := c.reviewDue
  recordHash := String.ofList ((rt.sha256
    (c.entityId ++ c.classification.str ++ (rt.now (n + 1)).isoformat)).toList.take 16)

def classify (rt : Runtime) (c : Classify) : Method GovernedData ClassificationRecord := do
  let n ← draw
  let _ ← draw
  assign fun m => { m with classifications := m.classifications.set c.key (newRecord rt c n) }
  return newRecord rt c n

/-- Every entity of the list classified alike, without a reason or a date of review. -/
def bulkClassify (rt : Runtime) (entityType : String) (classification : ClassificationLevel)
    (dataCategory : DataCategory) (classifiedBy tenantId : String) :
    List String → Method GovernedData (List ClassificationRecord)
  | [] => return []
  | entityId :: entityIds => do
    let record ← classify rt
      ⟨entityType, entityId, classification, dataCategory, classifiedBy, tenantId, "", none⟩
    let records ← bulkClassify rt entityType classification dataCategory classifiedBy tenantId
      entityIds
    return record :: records

def getClassification (m : GovernedData) (entityType entityId : String) :
    Option ClassificationRecord :=
  m.classifications.get? (entityType ++ ":" ++ entityId)

/-! ### Redaction -/

/-- `if fld in redacted: redacted[fld] = mark`. -/
def redactField (mark : String) (data : JsonDict) (fld : String) : JsonDict :=
  data.map fun p => if p.1 = fld then (p.1, .str mark) else p

def redactionMark (level : ClassificationLevel) : String := s!"[REDACTED — {level.upper}]"

def redactForExport (data : JsonDict) (level : ClassificationLevel) (requestingRole : String) :
    JsonDict :=
  if requestingRole = "platform_admin" then data
  else (redactionRules level).foldl (redactField (redactionMark level)) data

variable (ops : ValueOps)

/-- The entity identifier of a record as an f-string writes it. -/
def entityText (record : JsonDict) : String :=
  match dictGet record "entity_id" (.str "") with
  | .str s => s
  | v => ops.str v

/-- The level the export of a record goes by. -/
def exportLevel (m : GovernedData) (record : JsonDict) : ClassificationLevel :=
  match m.getClassification "audit_log" (entityText ops record) with
  | some classified => classified.classification
  | none => .internal

def redactAuditExport (m : GovernedData) (records : List JsonDict) (requestingRole : String) :
    List JsonDict :=
  records.map fun record => redactForExport record (m.exportLevel ops record) requestingRole

end GovernedData

/-! ### Runs of the manager -/

inductive GovernanceCall where
  | classify (c : GovernedData.Classify)
  | bulkClassify (entityIds : List String) (entityType : String)
      (classification : ClassificationLevel) (dataCategory : DataCategory)
      (classifiedBy tenantId : String)
  | hold (call : HoldCall)

open GovernedData in
def governanceStep (rt : Runtime) (call : GovernanceCall) (w : World GovernedData) :
    World GovernedData :=
  match call with
  | .classify c => (GovernedData.classify rt c).after w
  | .bulkClassify entityIds entityType classification dataCategory classifiedBy tenantId =>
    (GovernedData.bulkClassify rt entityType classification dataCategory classifiedBy tenantId
      entityIds).after w
  | .hold call => (Method.on GovernedData.holds (fun h m => { m with holds := h })
      (call.perform rt)).after w

/-- The levels a call sets, under the keys it sets them. -/
def GovernanceCall.levels : GovernanceCall → List (String × ClassificationLevel)
  | classify c => [(c.key, c.classification)]
  | bulkClassify entityIds entityType classification _ _ _ =>
    entityIds.map fun id => (entityType ++ ":" ++ id, classification)
  | hold _ => []

/-- The level a record is exported under after the calls: the last one set under its key. -/
def levelAfter (ops : ValueOps) (calls : List GovernanceCall) (record : JsonDict) :
    ClassificationLevel :=
  (latest (calls.flatMap GovernanceCall.levels)
    ("audit_log" ++ ":" ++ GovernedData.entityText ops record)).getD .internal

section Levels
variable {rt : Runtime}

theorem latest_append {κ ν : Type} [DecidableEq κ] (l l' : List (κ × ν)) (k : κ) :
    latest (l ++ l') k = (latest l' k).or (latest l k) := by
  unfold latest
  rw [List.filter_append, List.getLast?_append]
  cases (l'.filter fun p => p.1 = k).getLast? <;> rfl

/-- A level set in the manager under a key. -/
def levelAt (m : GovernedData) (key : String) : Option ClassificationLevel :=
  (m.classifications.get? key).map ClassificationRecord.classification

theorem levelAt_classify (c : GovernedData.Classify) (w : World GovernedData) (key : String) :
    levelAt ((GovernedData.classify rt c).after w).self key =
      (latest [(c.key, c.classification)] key).or (levelAt w.self key) := by
  have hafter : ((GovernedData.classify rt c).after w).self.classifications =
      w.self.classifications.set c.key (GovernedData.newRecord rt c w.env.draws) := rfl
  rw [levelAt, hafter, Dict.get?_set]
  by_cases h : key = c.key
  · simp [h, latest, GovernedData.newRecord]
  · simp [h, latest, Ne.symm h, levelAt]

theorem levelAt_bulkClassify (entityType : String) (classification : ClassificationLevel)
    (dataCategory : DataCategory) (classifiedBy tenantId : String) (entityIds : List String)
    (w : World GovernedData) (key : String) :
    levelAt ((GovernedData.bulkClassify rt entityType classification dataCategory classifiedBy tenantId
        entityIds).after w).self key =
      (latest (entityIds.map fun id => (entityType ++ ":" ++ id, classification)) key).or
        (levelAt w.self key) := by
  induction entityIds generalizing w with
  | nil => rfl
  | cons entityId entityIds ih =>
    let c : GovernedData.Classify :=
      ⟨entityType, entityId, classification, dataCategory, classifiedBy, tenantId, "", none⟩
    have hafter : (GovernedData.bulkClassify rt entityType classification dataCategory classifiedBy
        tenantId (entityId :: entityIds)).after w =
          (GovernedData.bulkClassify rt entityType classification dataCategory classifiedBy tenantId
            entityIds).after ((GovernedData.classify rt c).after w) :=
      Method.after_bind_ok rfl |>.trans (Method.after_bind_pure _ _ _)
    have hcons := latest_append [(c.key, classification)]
      (entityIds.map fun id => (entityType ++ ":" ++ id, classification)) key
    rw [hafter, ih, levelAt_classify, ← Option.or_assoc, ← hcons]
    rfl

theorem levelAt_step (call : GovernanceCall) (w : World GovernedData) (key : String) :
    levelAt (governanceStep rt call w).self key =
      (latest call.levels key).or (levelAt w.self key) := by
  cases call with
  | classify c => exact levelAt_classify c w key
  | bulkClassify entityIds entityType classification dataCategory classifiedBy tenantId =>
    exact levelAt_bulkClassify entityType classification dataCategory classifiedBy tenantId
      entityIds w key
  | hold call =>
    rw [governanceStep, Method.after_on]
    rfl

variable (rt) in
theorem levelAt_run (env : Env) (calls : List GovernanceCall) (key : String) :
    levelAt (run (governanceStep rt) ⟨GovernedData.new, env⟩ calls).self key =
      latest (calls.flatMap GovernanceCall.levels) key := by
  induction calls using List.reverseRecOn with
  | nil => rfl
  | append_singleton calls call ih =>
    rw [run_concat, levelAt_step, ih, List.flatMap_append, latest_append, List.flatMap_singleton]

theorem exportLevel_run (ops : ValueOps) (env : Env) (calls : List GovernanceCall)
    (record : JsonDict) :
    (run (governanceStep rt) ⟨GovernedData.new, env⟩ calls).self.exportLevel ops record =
      levelAfter ops calls record := by
  have hrun := levelAt_run rt env calls
    ("audit_log" ++ ":" ++ GovernedData.entityText ops record)
  rw [levelAfter, ← hrun, levelAt, GovernedData.exportLevel, GovernedData.getClassification]
  cases (run (governanceStep rt) ⟨GovernedData.new, env⟩ calls).self.classifications.get?
    ("audit_log" ++ ":" ++ GovernedData.entityText ops record) <;> rfl

end Levels

/-! ### What an export lets through -/

/-- A record with the fields of the level replaced. -/
def withheld (level : ClassificationLevel) (record : JsonDict) : JsonDict :=
  record.map fun p =>
    if p.1 ∈ redactionRules level then (p.1, .str (GovernedData.redactionMark level)) else p

theorem foldl_redactField (mark : String) (fields : List String) (data : JsonDict) :
    fields.foldl (GovernedData.redactField mark) data =
      data.map fun p => if p.1 ∈ fields then (p.1, .str mark) else p := by
  induction fields generalizing data with
  | nil => simp
  | cons f fields ih =>
    rw [List.foldl_cons, ih, GovernedData.redactField, List.map_map]
    refine List.map_congr_left fun p _ => ?_
    by_cases hf : p.1 = f <;> simp [hf]

theorem redactForExport_of_ne {role : String} (hrole : role ≠ "platform_admin") (record : JsonDict)
    (level : ClassificationLevel) :
    GovernedData.redactForExport record level role = withheld level record := by
  rw [GovernedData.redactForExport, if_neg hrole, foldl_redactField]
  rfl

/-- Records with the same fields in the same order, and the same values in all that the level does
not withhold. -/
def AlikeOutside (level : ClassificationLevel) (r r' : JsonDict) : Prop :=
  List.Forall₂ (fun p p' => p.1 = p'.1 ∧ (p.1 ∉ redactionRules level → p = p')) r r'

section Alike
variable {level : ClassificationLevel} {r r' : JsonDict}

theorem AlikeOutside.field (h : AlikeOutside level r r') {key : String}
    (hkey : key ∉ redactionRules level) : Json.field r key = Json.field r' key := by
  unfold Json.field
  induction h with
  | nil => rfl
  | cons hp _ ih =>
    obtain ⟨hname, hvalue⟩ := hp
    rw [List.find?_cons, List.find?_cons, ← hname]
    split
    next heq =>
      rw [hvalue (by rwa [of_decide_eq_true heq])]
    next => exact ih

theorem AlikeOutside.withheld (h : AlikeOutside level r r') :
    Governance.withheld level r = Governance.withheld level r' := by
  unfold Governance.withheld
  induction h with
  | nil => rfl
  | cons hp _ ih =>
    obtain ⟨hname, hvalue⟩ := hp
    rw [List.map_cons, List.map_cons, ih, ← hname]
    split
    next => rfl
    next hnot => rw [hvalue hnot]

theorem alikeOutside_withheld (level : ClassificationLevel) (r : JsonDict) :
    AlikeOutside level (withheld level r) r := by
  unfold AlikeOutside withheld
  induction r with
  | nil => exact .nil
  | cons p r ih =>
    refine .cons ?_ ih
    dsimp only
    split
    next hmem => exact ⟨rfl, fun hnot => absurd hmem hnot⟩
    next => exact ⟨rfl, fun _ => rfl⟩

/-- The identifier of a record is not withheld under any level, so its level can be read off it. -/
theorem AlikeOutside.levelAfter (h : AlikeOutside level r r') (ops : ValueOps)
    (calls : List GovernanceCall) :
    Governance.levelAfter ops calls r = Governance.levelAfter ops calls r' := by
  have hid : "entity_id" ∉ redactionRules level := by
    cases level <;> decide
  have htext : GovernedData.entityText ops r = GovernedData.entityText ops r' := by
    unfold GovernedData.entityText dictGet
    rw [h.field hid]
  rw [Governance.levelAfter, Governance.levelAfter, htext]

end Alike

/-- What an export for a role lets through: of each record all but the fields withheld under the
level last set for it, so nothing of what stood in them, and no more when the export is exported
again. -/
structure Withholds (ops : ValueOps) (calls : List GovernanceCall)
    (exported : List JsonDict → List JsonDict) : Prop where
  each : ∀ records, exported records = records.map fun r => withheld (levelAfter ops calls r) r
  blind : ∀ records records',
    List.Forall₂ (fun r r' => AlikeOutside (levelAfter ops calls r) r r') records records' →
      exported records = exported records'
  again : ∀ records, exported (exported records) = exported records

/-- After any run of classifications, one by one or in bulk, and of holds, an export for any role
but that of the platform's administrators withholds what the last classification of each record asks
for. -/
theorem export_withholds (rt : Runtime) (ops : ValueOps) (env : Env) (calls : List GovernanceCall)
    (role : String) (hrole : role ≠ "platform_admin") : Withholds ops calls fun records =>
      (run (governanceStep rt) ⟨GovernedData.new, env⟩ calls).self.redactAuditExport ops records
        role := by
  have heach : ∀ records, (run (governanceStep rt) ⟨GovernedData.new, env⟩ calls).self.redactAuditExport
      ops records role = records.map fun r => withheld (levelAfter ops calls r) r := by
    intro records
    refine List.map_congr_left fun r _ => ?_
    rw [redactForExport_of_ne hrole, exportLevel_run]
  refine ⟨heach, fun records records' halike => ?_, fun records => ?_⟩
  · rw [heach, heach]
    induction halike with
    | nil => rfl
    | cons h _ ih =>
      rw [List.map_cons, List.map_cons, ih, h.withheld, h.levelAfter ops calls]
  · rw [heach, heach, List.map_map]
    refine List.map_congr_left fun r _ => ?_
    have halike := alikeOutside_withheld (levelAfter ops calls r) r
    have hlevel := halike.levelAfter ops calls
    simp only [Function.comp_apply]
    rw [hlevel]
    exact halike.withheld

/-- An entry of the log is classified as confidential and then as restricted. -/
theorem export_withholds_raised :
    Withholds .exact
      [.classify ⟨"audit_log", "log-1", .confidential, .auditLog, "dpo", "acme", "", none⟩,
        .bulkClassify ["log-1"] "audit_log" .restricted .auditLog "dpo" "acme"]
      fun records => (run (governanceStep .reference) ⟨GovernedData.new, .initial "acme"⟩
        [.classify ⟨"audit_log", "log-1", .confidential, .auditLog, "dpo", "acme", "", none⟩,
          .bulkClassify ["log-1"] "audit_log" .restricted .auditLog "dpo" "acme"]).self.redactAuditExport
        .exact records "auditor" :=
  export_withholds .reference .exact (.initial "acme") _ "auditor" (by decide)

end ControlFabric.Governance
