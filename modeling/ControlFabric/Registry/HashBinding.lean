import ControlFabric.Registry.History

/-! What `object_hash` binds along a run, and which calls break the binding. -/
namespace ControlFabric
open Lib Py Method ObjectRegistry

section Snapshot

def ControlObjectType.all : List ControlObjectType :=
  [.regulatoryMandate, .riskControl, .complianceRequirement, .securityControl, .operationalPolicy,
    .technicalControl, .auditFinding, .vulnerability, .asset, .process, .domainPackExtension]

def ControlObjectType.ofValue (v : String) : Option ControlObjectType :=
  ControlObjectType.all.find? fun t => t.value = v

def ControlObjectState.all : List ControlObjectState :=
  [.draft, .active, .underReview, .deprecated, .retired, .quarantined]

def ControlObjectState.ofValue (v : String) : Option ControlObjectState :=
  ControlObjectState.all.find? fun s => s.value = v

private def strField (d : JsonDict) (key : String) : Option String :=
  match Json.field d key with
  | some (.str s) => some s
  | _ => none

private def intField (d : JsonDict) (key : String) : Option ℤ :=
  match Json.field d key with
  | some (.int n) => some n
  | _ => none

private def dictField (d : JsonDict) (key : String) : Option JsonDict :=
  match Json.field d key with
  | some (.obj o) => some o
  | _ => none

/-- The text `compute_object_hash` digests, for the fields of a snapshot. -/
def snapshotHashText (snapshot : JsonDict) : Option String := do
  let objectId ← strField snapshot "object_id"
  let objectType ← ControlObjectType.ofValue (← strField snapshot "object_type")
  let name ← strField snapshot "name"
  let state ← ControlObjectState.ofValue (← strField snapshot "state")
  let version ← intField snapshot "version"
  let schemaNamespace ← strField snapshot "schema_namespace"
  let sourceHash ← strField (← dictField snapshot "provenance") "source_hash"
  let operationalPlane ← strField snapshot "operational_plane"
  return objectId ++ objectType.str ++ name ++ state.str ++ toString version ++ schemaNamespace ++
    sourceHash ++ operationalPlane

theorem snapshotHashText_modelDump (obj : ControlObject) :
    snapshotHashText obj.modelDump = some obj.hashText := by
  have htype (t : ControlObjectType) : ControlObjectType.ofValue t.value = some t := by
    cases t <;> decide
  have hstate (s : ControlObjectState) : ControlObjectState.ofValue s.value = some s := by
    cases s <;> decide
  simp [snapshotHashText, ControlObject.modelDump, ControlObjectProvenance.modelDump, strField,
    intField, dictField, Json.field, htype, hstate, ControlObject.hashText]

end Snapshot

/-- A transition always changes the text under the hash: no state name runs into the version. -/
theorem ControlObject.withState_hashText_ne {obj : ControlObject} {newState : ControlObjectState}
    (hvalid : newState ∈ obj.state.validStateTransitions) (updatedAt : DateTime) :
    (obj.withState newState updatedAt).hashText ≠ obj.hashText := by
  have hstop (s : ControlObjectState) : ∀ c ∈ s.str.toList, ¬ IsIntChar c := by
    have hall : s.str.toList.all (fun c => !c.isDigit && c != '-') := by cases s <;> decide
    simpa [IsIntChar] using hall
  have hhead (v : ℤ) : ∀ c ∈ (toString v).toList.head?, ¬ ¬ IsIntChar c := fun c hc =>
    not_not.mpr (int_chars v c (List.mem_of_mem_head? hc))
  have hne : newState.str ≠ obj.state.str := by
    revert hvalid
    cases obj.state <;> cases newState <;> decide
  intro h
  have hchars := congrArg String.toList h
  simp only [hashText, withState, String.toList_append, List.append_assoc,
    List.append_cancel_left_eq] at hchars
  simp only [← List.append_assoc, List.append_cancel_right_eq] at hchars
  exact hne (String.ext (append_inj_of_stop (hstop _) (hstop _) (hhead _) (hhead _) hchars).1)

/-- Every stored hash is the one computed from the fields it stands next to, and records of one
object in different states or versions carry different hashes. -/
structure ObjectRegistry.HashBound (rt : Runtime) (r : ObjectRegistry) : Prop where
  objects : ∀ id obj, r.objects.get? id = some obj → obj.objectHash = rt.sha256 obj.hashText
  records : ∀ id, ∀ record ∈ r.getVersionHistory id,
    ∃ text, snapshotHashText record.snapshot = some text ∧ record.objectHash = rt.sha256 text
  distinct : ∀ id, ∀ a ∈ r.getVersionHistory id, ∀ b ∈ r.getVersionHistory id,
    a.state ≠ b.state ∨ a.version ≠ b.version → a.objectHash ≠ b.objectHash

/-- The objects a caller passes in were built by the constructor. -/
def RegistryOp.PassesConstructed (rt : Runtime) : RegistryOp → Prop
  | register obj _ _ => obj.Constructed rt
  | update obj _ _ => obj.Constructed rt
  | transitionState .. => True

/-- No transition is carried out, and no accepted update repeats the hashed text of an earlier
version. -/
def RegistryOp.KeepsHashBound (r : ObjectRegistry) : RegistryOp → Prop
  | register _ _ _ => True
  | update obj _ _ =>
    (∃ old, r.objects.get? obj.objectId = some old ∧ obj.version = old.version + 1) →
      ∀ record ∈ r.getVersionHistory obj.objectId,
        snapshotHashText record.snapshot ≠ some obj.hashText
  | transitionState objectId newState transitionedBy reason releaseGate =>
    ∀ current, r.objects.get? objectId = some current →
      Governed.Admits releaseGate
        (transitionSubmission current objectId newState transitionedBy reason) →
      newState ∉ current.state.validStateTransitions

namespace ObjectRegistry
variable {rt : Runtime} {r : ObjectRegistry} {obj : ControlObject} {changedBy reason : String}
  {n : ℕ}

/-- No recorded version is above the current one. -/
theorem Linear.version_le (h : r.Linear) {id : String} (hget : r.objects.get? id = some obj)
    {record : VersionRecord} (hrecord : record ∈ r.getVersionHistory id) :
    record.version ≤ obj.version := by
  obtain ⟨last, hlast, hof⟩ := h.current id obj hget
  obtain ⟨earlier, hsplit⟩ := List.getLast?_eq_some_iff.mp hlast
  have hlt : (r.getVersionHistory id).IsChain fun a b => a.version < b.version :=
    (h.consecutive id).imp fun a b hab => by omega
  have hpair := List.isChain_iff_pairwise.mp hlt
  rw [hsplit] at hpair hrecord
  rcases List.mem_append.mp hrecord with hearlier | hmem
  · have := (List.pairwise_append.mp hpair).2.2 record hearlier last List.mem_cons_self
    rw [← hof.version]
    omega
  · rw [List.mem_singleton.mp hmem, hof.version]

/-- A write of an object with its computed hash keeps the binding exactly when its text is new. -/
theorem HashBound.write_iff (hrt : rt.Digest) (hlinear : r.Linear) (h : r.HashBound rt)
    (hhash : obj.objectHash = rt.sha256 obj.hashText)
    (hnext : ∀ old, r.objects.get? obj.objectId = some old → obj.version = old.version + 1) :
    (r.write rt n obj changedBy reason).HashBound rt ↔
      ∀ record ∈ r.getVersionHistory obj.objectId,
        snapshotHashText record.snapshot ≠ some obj.hashText := by
  have hnew : (VersionRecord.new rt n obj changedBy reason).objectHash = rt.sha256 obj.hashText :=
    hhash
  have hdiffer (record : VersionRecord) (hrecord : record ∈ r.getVersionHistory obj.objectId) :
      record.objectHash = rt.sha256 obj.hashText ↔
        snapshotHashText record.snapshot = some obj.hashText := by
    obtain ⟨text, htext, hrhash⟩ := h.records _ record hrecord
    rw [hrhash, htext, hrt.injective.eq_iff, Option.some.injEq]
  constructor
  · intro hw record hrecord htext
    have hstored : obj.objectId ∈ r.objects :=
      (hlinear.recorded_iff _).mp (List.ne_nil_of_mem hrecord)
    obtain ⟨old, hold⟩ := Dict.mem_iff_get?.mp hstored
    have hle := hlinear.version_le hold hrecord
    have hversion : record.version ≠ (VersionRecord.new rt n obj changedBy reason).version := by
      have := hnext old hold
      change record.version ≠ obj.version
      omega
    have hhistory : (r.write rt n obj changedBy reason).getVersionHistory obj.objectId =
        r.getVersionHistory obj.objectId ++ [VersionRecord.new rt n obj changedBy reason] := by
      rw [getVersionHistory_write, if_pos rfl]
    refine hw.distinct obj.objectId record ?_ (VersionRecord.new rt n obj changedBy reason) ?_
      (Or.inr hversion) (((hdiffer record hrecord).mpr htext).trans hnew.symm)
    · rw [hhistory]
      exact List.mem_append_left _ hrecord
    · rw [hhistory]
      exact List.mem_append_right _ List.mem_cons_self
  · intro hfresh
    refine ⟨fun id o hget => ?_, fun id record hrecord => ?_, fun id a ha b hb hab => ?_⟩
    · rw [write_objects, Dict.get?_set] at hget
      split at hget
      next => rw [← Option.some.inj hget, hhash]
      next => exact h.objects id o hget
    · rw [getVersionHistory_write] at hrecord
      split at hrecord
      next hid =>
        rcases List.mem_append.mp hrecord with hrecord | hrecord
        · exact h.records id record hrecord
        · rw [List.mem_singleton.mp hrecord]
          exact ⟨obj.hashText, snapshotHashText_modelDump obj, hnew⟩
      next => exact h.records id record hrecord
    · rw [getVersionHistory_write] at ha hb
      split at ha
      next hid =>
        rw [hid] at ha hb
        simp only [if_true] at hb
        rcases List.mem_append.mp ha with ha | ha <;> rcases List.mem_append.mp hb with hb | hb
        · exact h.distinct obj.objectId a ha b hb hab
        · rw [List.mem_singleton.mp hb, hnew]
          exact fun he => hfresh a ha ((hdiffer a ha).mp he)
        · rw [List.mem_singleton.mp ha, hnew]
          exact fun he => hfresh b hb ((hdiffer b hb).mp he.symm)
        · rw [List.mem_singleton.mp ha, List.mem_singleton.mp hb] at hab
          simp at hab
      next hid =>
        rw [if_neg hid] at hb
        exact h.distinct id a ha b hb hab

end ObjectRegistry

/-- What one call does to the binding. -/
theorem registryStep_hashBound_iff {rt : Runtime} (hrt : rt.Digest) {op : RegistryOp}
    (hop : op.PassesConstructed rt) {w : World ObjectRegistry} (hlinear : w.self.Linear)
    (h : w.self.HashBound rt) :
    (registryStep rt op w).self.HashBound rt ↔ op.KeepsHashBound w.self := by
  have hevents (r : ObjectRegistry) (events : List RegistryEvent) :
      ({ r with events := events } : ObjectRegistry).HashBound rt ↔ r.HashBound rt :=
    ⟨fun h => ⟨h.objects, h.records, h.distinct⟩, fun h => ⟨h.objects, h.records, h.distinct⟩⟩
  rcases registryStep_cases rt op hlinear.keyed with
    ⟨obj, n, changedBy, detail, events, hwrites, hself⟩ | ⟨hno, hself⟩
  · rw [hself, hevents]
    have hnext (old : ControlObject) (hold : w.self.objects.get? obj.objectId = some old) :=
      hwrites.successor hlinear.keyed hold
    cases op with
    | register o registeredBy reason =>
      obtain ⟨hnew, he⟩ := hwrites
      rw [← he] at hnew hop
      rw [HashBound.write_iff hrt hlinear h hop.objectHash hnext]
      have hempty : w.self.getVersionHistory obj.objectId = [] := by
        by_contra hne
        exact hnew ((hlinear.recorded_iff _).mp hne)
      simp [hempty, RegistryOp.KeepsHashBound]
    | update o updatedBy reason =>
      obtain ⟨haccepted, he⟩ := hwrites
      rw [he] at hnext ⊢
      rw [HashBound.write_iff hrt hlinear h hop.objectHash hnext]
      simp only [RegistryOp.KeepsHashBound, haccepted, forall_const]
    | transitionState id newState transitionedBy reason releaseGate =>
      obtain ⟨current, updatedAt, hcurrent, hadmits, hvalid, he⟩ := hwrites
      refine iff_of_false (fun hw => ?_) (fun hc => hc current hcurrent hadmits hvalid)
      have hstored := hw.objects obj.objectId obj (by simp)
      have hkept : obj.objectHash = rt.sha256 current.hashText := by
        rw [he]
        exact h.objects id current hcurrent
      have htext := hrt.injective (hstored.symm.trans hkept)
      rw [he] at htext
      exact ControlObject.withState_hashText_ne hvalid updatedAt htext
  · rw [hself]
    refine iff_of_true h ?_
    cases op with
    | register _ _ _ => trivial
    | update o _ _ => exact fun haccepted => absurd ⟨haccepted, rfl⟩ (hno o)
    | transitionState _ _ _ _ _ =>
      exact fun current hcurrent hadmits hvalid =>
        hno _ ⟨current, current.updatedAt, hcurrent, hadmits, hvalid, rfl⟩

theorem ObjectRegistry.HashBound.new (rt : Runtime) (schemas : SchemaRegistry) :
    (ObjectRegistry.new schemas).HashBound rt where
  objects id obj h := by simp [ObjectRegistry.new] at h
  records id record h := by simp [ObjectRegistry.new, getVersionHistory] at h
  distinct id a h := by simp [ObjectRegistry.new, getVersionHistory] at h

/-- Along a run over constructed objects every hash stays bound exactly when no call carries out a
transition or repeats an earlier hashed text. -/
theorem registryRun_hashBound_iff {rt : Runtime} (hrt : rt.Digest) (schemas : SchemaRegistry)
    (env : Env) {ops : List RegistryOp} (hops : ∀ op ∈ ops, op.PassesConstructed rt) :
    Always (registryStep rt) (fun w => w.self.HashBound rt) ⟨.new schemas, env⟩ ops ↔
      Conforms (registryStep rt) (fun op w => op.KeepsHashBound w.self) ⟨.new schemas, env⟩ ops :=
  always_iff_conforms (registryStep rt) (I := fun w => w.self.Linear)
    (fun op _ _ hlinear _ => registryStep_linear rt op hlinear)
    (fun op hop _ hlinear h => registryStep_hashBound_iff hrt (hops op hop) hlinear h)
    (Linear.new schemas) (HashBound.new rt schemas)

/-- A draft that is registered and activated. -/
def activatedPolicy : List RegistryOp :=
  let policy := draftPolicy .reference
  [.register policy "ada" "initial",
    .transitionState policy.objectId .active "ada" "approved" none]

theorem registryRun_hashBound_iff_activated :
    Always (registryStep .reference) (fun w => w.self.HashBound .reference)
        ⟨.new Dict.empty, .initial "default"⟩ activatedPolicy ↔
      Conforms (registryStep .reference) (fun op w => op.KeepsHashBound w.self)
        ⟨.new Dict.empty, .initial "default"⟩ activatedPolicy :=
  registryRun_hashBound_iff Runtime.reference_digest Dict.empty (.initial "default")
    (by simpa [activatedPolicy, RegistryOp.PassesConstructed] using
      draftPolicy_constructed .reference)

/-- Registering a draft and activating it leaves a hash of the draft. -/
theorem registryRun_transition_unbinds :
    ¬ ∀ rt : Runtime, rt.Digest → ∀ (schemas : SchemaRegistry) (env : Env) (ops : List RegistryOp),
      (∀ op ∈ ops, op.PassesConstructed rt) →
        Always (registryStep rt) (fun w => w.self.HashBound rt) ⟨.new schemas, env⟩ ops := by
  intro h
  let policy := draftPolicy .reference
  let start : World ObjectRegistry := ⟨.new Dict.empty, .initial "default"⟩
  let registered := registryStep .reference (.register policy "ada" "initial") start
  obtain ⟨-, hbound, hfinal⟩ := h .reference Runtime.reference_digest Dict.empty (.initial "default")
    [.register policy "ada" "initial",
      .transitionState policy.objectId .active "ada" "approved" none]
    (by simpa [RegistryOp.PassesConstructed] using draftPolicy_constructed .reference)
  have hlinear : registered.self.Linear := registryStep_linear _ _ (Linear.new Dict.empty)
  have hkeeps := (registryStep_hashBound_iff Runtime.reference_digest (by trivial) hlinear
    hbound).mp hfinal
  refine hkeeps policy (registryStep_register_get? (Dict.not_mem_empty _)) (by simp [Governed.Admits])
    ?_
  simp [policy, draftPolicy, ControlObject.fields, ControlObject.computeObjectHash,
    ControlObjectState.validStateTransitions]

end ControlFabric
