import ControlFabric.Registry.History

/-! Which modifications of the stored history `verify_history_integrity` detects. -/
namespace ControlFabric
open Lib Method ObjectRegistry

/-- What is hashed before the time of the record. -/
def VersionRecord.boundText (record : VersionRecord) : String :=
  record.objectId ++ toString record.version ++ record.objectHash ++ record.state

theorem VersionRecord.hashText_eq_iff {a b : VersionRecord} :
    a.hashText = b.hashText ↔ a.boundText = b.boundText ∧ a.recordedAt = b.recordedAt := by
  have htext (r : VersionRecord) : r.hashText = r.boundText ++ r.recordedAt.isoformat := rfl
  constructor
  · intro h
    have hchars := congrArg String.toList h
    rw [htext, htext, String.toList_append, String.toList_append] at hchars
    obtain ⟨htime, hbound⟩ := DateTime.isoformat_suffixDelimiting _ _ _ _ hchars
    exact ⟨String.ext hbound, htime⟩
  · rintro ⟨hbound, htime⟩
    rw [htext, htext, hbound, htime]

namespace ObjectRegistry
variable {rt : Runtime} {r r' : ObjectRegistry}

/-- Every record carries the hash of its own text. -/
def Sealed (rt : Runtime) (r : ObjectRegistry) : Prop :=
  ∀ id, ∀ record ∈ r.getVersionHistory id, record.recordHash = rt.sha256 record.hashText

theorem verifyHistoryIntegrity_iff : r.verifyHistoryIntegrity rt = true ↔ r.Sealed rt := by
  simp only [verifyHistoryIntegrity, List.all_eq_true, decide_eq_true_iff]
  constructor
  · intro h id record hrecord
    cases hget : r.versionHistory.get? id with
    | none => simp [getVersionHistory, Dict.getD, hget] at hrecord
    | some records =>
      rw [getVersionHistory, Dict.getD, hget, Option.getD_some] at hrecord
      exact h (id, records) (Dict.get?_eq_some.mp hget) record hrecord
  · rintro h ⟨id, records⟩ he record hrecord
    refine h id record ?_
    rwa [getVersionHistory, Dict.getD, Dict.get?_eq_some.mpr he, Option.getD_some]

/-- `r'` is `r` with its history edited by hand: of each object the records `kept` lists remain, in
that order, each an original next to its edited form under the original's hash. -/
structure HistoryEdited (r r' : ObjectRegistry)
    (kept : String → List (VersionRecord × VersionRecord)) : Prop where
  originals : ∀ id, ((kept id).map Prod.fst).Subperm (r.getVersionHistory id)
  edited : ∀ id, r'.getVersionHistory id = (kept id).map Prod.snd
  recordHash : ∀ id, ∀ e ∈ kept id, e.2.recordHash = e.1.recordHash

theorem HistoryEdited.detected_iff (hrt : rt.Digest) (hsealed : r.Sealed rt)
    {kept : String → List (VersionRecord × VersionRecord)} (h : HistoryEdited r r' kept) :
    r'.verifyHistoryIntegrity rt = false ↔
      ∃ id, ∃ e ∈ kept id, e.2.boundText ≠ e.1.boundText ∨ e.2.recordedAt ≠ e.1.recordedAt := by
  have hseal (id : String) (e : VersionRecord × VersionRecord) (he : e ∈ kept id) :
      e.2.recordHash = rt.sha256 e.2.hashText ↔
        e.2.boundText = e.1.boundText ∧ e.2.recordedAt = e.1.recordedAt := by
    have horiginal := hsealed id e.1 ((h.originals id).subset (List.mem_map_of_mem he))
    rw [h.recordHash id e he, horiginal, hrt.injective.eq_iff, eq_comm,
      VersionRecord.hashText_eq_iff]
  have hall : r'.Sealed rt ↔ ∀ id, ∀ e ∈ kept id,
      e.2.boundText = e.1.boundText ∧ e.2.recordedAt = e.1.recordedAt := by
    simp only [Sealed, h.edited, List.forall_mem_map]
    exact forall_congr' fun id => forall₂_congr fun e he => hseal id e he
  rw [← Bool.not_eq_true, verifyHistoryIntegrity_iff, hall]
  simp only [not_forall, not_and_or, ne_eq, exists_prop]

theorem Sealed.write (h : r.Sealed rt) (n : ℕ) (obj : ControlObject) (changedBy reason : String) :
    (r.write rt n obj changedBy reason).Sealed rt := by
  intro id record hrecord
  rw [getVersionHistory_write] at hrecord
  split at hrecord
  next =>
    rcases List.mem_append.mp hrecord with hrecord | hrecord
    · exact h id record hrecord
    · rw [List.mem_singleton.mp hrecord]
      rfl
  next => exact h id record hrecord

end ObjectRegistry

theorem registryRun_sealed (rt : Runtime) (schemas : SchemaRegistry) (env : Env)
    (ops : List RegistryOp) : (registryRun rt ⟨.new schemas, env⟩ ops).self.Sealed rt := by
  suffices h : (registryRun rt ⟨.new schemas, env⟩ ops).self.Sealed rt ∧
      (registryRun rt ⟨.new schemas, env⟩ ops).self.Keyed from h.1
  refine run_invariant (registryStep rt) (I := fun w => w.self.Sealed rt ∧ w.self.Keyed)
    (fun op _ w hw => ?_) ⟨?_, (Linear.new schemas).keyed⟩
  · exact registryStep_invariant (I := fun r => r.Sealed rt ∧ r.Keyed) (fun _ _ h => h)
      (fun _ h => h.2) (fun obj n changedBy reason _ =>
        ⟨hw.1.write n obj changedBy reason, hw.2.write rt n obj changedBy reason⟩) hw
  · intro id record h
    simp [ObjectRegistry.new, getVersionHistory] at h

/-- An edit of a reached history is detected exactly when a record that is kept shows it in its
hashed text. -/
theorem verifyHistoryIntegrity_edited_iff {rt : Runtime} (hrt : rt.Digest)
    (schemas : SchemaRegistry) (env : Env) (ops : List RegistryOp) {edited : ObjectRegistry}
    {kept : String → List (VersionRecord × VersionRecord)}
    (h : HistoryEdited (registryRun rt ⟨.new schemas, env⟩ ops).self edited kept) :
    edited.verifyHistoryIntegrity rt = false ↔
      ∃ id, ∃ e ∈ kept id, e.2.boundText ≠ e.1.boundText ∨ e.2.recordedAt ≠ e.1.recordedAt :=
  h.detected_iff hrt (registryRun_sealed rt schemas env ops)

section Draft

/-- The one record after the drafted policy is registered. -/
private def draftRecord : VersionRecord :=
  VersionRecord.new .reference 0 (draftPolicy .reference) "ada" "initial"

private def draftOps : List RegistryOp := [.register (draftPolicy .reference) "ada" "initial"]

private theorem draft_history (id : String) :
    (registryRun .reference ⟨.new Dict.empty, .initial "default"⟩ draftOps).self.getVersionHistory
      id = if id = (draftPolicy .reference).objectId then [draftRecord] else [] := by
  obtain ⟨events, hself⟩ := registryStep_register .reference "ada" "initial"
    (w := ⟨.new Dict.empty, .initial "default"⟩)
    (Dict.not_mem_empty (draftPolicy .reference).objectId)
  rw [draftOps, registryRun, run_cons, run_nil, hself]
  exact getVersionHistory_write id

/-- The registry after the record of the draft was replaced by hand. -/
private def replaced (record : VersionRecord) : ObjectRegistry :=
  { (registryRun .reference ⟨.new Dict.empty, .initial "default"⟩ draftOps).self with
    versionHistory := Dict.empty.set (draftPolicy .reference).objectId [record] }

private def replacement (record : VersionRecord) (id : String) :
    List (VersionRecord × VersionRecord) :=
  if id = (draftPolicy .reference).objectId then [(draftRecord, record)] else []

private theorem replaced_history (record : VersionRecord) (id : String) :
    (replaced record).getVersionHistory id =
      if id = (draftPolicy .reference).objectId then [record] else [] := by
  rw [getVersionHistory, replaced, Dict.getD_set]
  split <;> rfl

private theorem replaced_edited (record : VersionRecord)
    (h : record.recordHash = draftRecord.recordHash) :
    HistoryEdited (registryRun .reference ⟨.new Dict.empty, .initial "default"⟩ draftOps).self
      (replaced record) (replacement record) where
  originals id := by
    rw [draft_history, replacement]
    split
    · exact List.Subperm.refl _
    · exact List.Subperm.refl _
  edited id := by
    rw [replaced_history, replacement]
    split <;> rfl
  recordHash id e he := by
    rw [replacement] at he
    split at he
    · rw [List.mem_singleton.mp he]
      exact h
    · exact absurd he List.not_mem_nil

theorem verifyHistoryIntegrity_edited_iff_state :
    (replaced { draftRecord with state := "retired" }).verifyHistoryIntegrity .reference = false := by
  refine (verifyHistoryIntegrity_edited_iff Runtime.reference_digest Dict.empty (.initial "default")
    draftOps (replaced_edited { draftRecord with state := "retired" } rfl)).mpr
    ⟨(draftPolicy .reference).objectId, _, by rw [replacement, if_pos rfl]; exact List.mem_cons_self,
      Or.inl fun h => ?_⟩
  exact absurd ((String.append_right_inj _).mp h) (by decide)

/-- Who changed what can be rewritten under the record's hash. -/
theorem verifyHistoryIntegrity_misses_author :
    ¬ ∀ rt : Runtime, rt.Digest → ∀ (schemas : SchemaRegistry) (env : Env) (ops : List RegistryOp)
      (edited : ObjectRegistry) (kept : String → List (VersionRecord × VersionRecord)),
      HistoryEdited (registryRun rt ⟨.new schemas, env⟩ ops).self edited kept →
        (∃ id, edited.getVersionHistory id ≠
          (registryRun rt ⟨.new schemas, env⟩ ops).self.getVersionHistory id) →
          edited.verifyHistoryIntegrity rt = false := by
  intro h
  let forged : VersionRecord := { draftRecord with changedBy := "eve", snapshot := [] }
  have hsealed : (replaced forged).Sealed .reference := by
    intro id record hrecord
    rw [replaced_history] at hrecord
    split at hrecord
    · rw [List.mem_singleton.mp hrecord]
      rfl
    · exact absurd hrecord List.not_mem_nil
  have hchanged : ∃ id, (replaced forged).getVersionHistory id ≠ (registryRun .reference
      ⟨.new Dict.empty, .initial "default"⟩ draftOps).self.getVersionHistory id := by
    refine ⟨(draftPolicy .reference).objectId, fun he => ?_⟩
    rw [replaced_history, draft_history, if_pos rfl, if_pos rfl] at he
    exact absurd (congrArg VersionRecord.changedBy (List.cons.inj he).1) (by decide)
  have hreject := h .reference Runtime.reference_digest Dict.empty (.initial "default") draftOps
    (replaced forged) (replacement forged) (replaced_edited forged rfl) hchanged
  exact Bool.noConfusion ((verifyHistoryIntegrity_iff.mpr hsealed).symm.trans hreject)

end Draft
end ControlFabric
