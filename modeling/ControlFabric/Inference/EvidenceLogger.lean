import ControlFabric.Inference.DomainTypes
import ControlFabric.Lib.Run
import ControlFabric.Lib.Loop

/-! The evidence logger: one record for every session that ends, and the check of the hashes the
records carry. -/
namespace ControlFabric.Inference
open Lib Method

structure EvidenceLogger where
  records : List EvidenceRecord
  sessionIndex : Dict String (List EvidenceRecord)

namespace EvidenceLogger
variable (rt : Runtime)

def new : EvidenceLogger := ⟨[], Dict.empty⟩

def commit (record : EvidenceRecord) (l : EvidenceLogger) : EvidenceLogger where
  records := l.records ++ [record]
  sessionIndex := l.sessionIndex.set record.sessionId
    (l.sessionIndex.getD record.sessionId [] ++ [record])

@[simp] theorem commit_records (record : EvidenceRecord) (l : EvidenceLogger) :
    (commit record l).records = l.records ++ [record] := rfl

/-- The common part of the three `record_*` methods: a record is built and committed. -/
def recordNew (sessionId requestHash policyGateSignature scopeHash : String)
    (hypothesisHash : Option String) (modelId : String) (inferenceDurationMs : ℤ)
    (finalStatus : InferenceStatus) (rejectionReason : Option RejectionReason) :
    Method EvidenceLogger EvidenceRecord := do
  let n ← draw
  let record ← Method.lift (EvidenceRecord.new rt n sessionId requestHash policyGateSignature
    scopeHash hypothesisHash modelId inferenceDurationMs finalStatus rejectionReason)
  assign (commit record)
  return record

def recordSuccess (sessionId requestHash : String) (policyGateResult : PolicyGateResult)
    (hypothesis : TypedHypothesis) (modelId : String) (inferenceDurationMs : ℤ) :
    Method EvidenceLogger EvidenceRecord :=
  match policyGateResult.scopeParameters with
  | none => raise (.assertionError "")
  | some scope =>
    recordNew rt sessionId requestHash policyGateResult.gateSignature scope.scopeHash
      (some hypothesis.hypothesisHash) modelId inferenceDurationMs .complete none

def recordRejection (sessionId requestHash : String) (policyGateResult : PolicyGateResult)
    (modelId : String) (rejectionReason : RejectionReason) (_rejectionDetail : String) :
    Method EvidenceLogger EvidenceRecord :=
  recordNew rt sessionId requestHash policyGateResult.gateSignature
    ((policyGateResult.scopeParameters.map ScopeParameters.scopeHash).getD "no-scope") none modelId
    0 .rejected (some rejectionReason)

def recordFailure (sessionId requestHash : String) (policyGateResult : Option PolicyGateResult)
    (modelId : String) (_failureDetail : String) : Method EvidenceLogger EvidenceRecord :=
  recordNew rt sessionId requestHash
    ((policyGateResult.map PolicyGateResult.gateSignature).getD "no-gate")
    (((policyGateResult.bind PolicyGateResult.scopeParameters).map
      ScopeParameters.scopeHash).getD "no-scope") none modelId 0 .failed
    (some .evidenceInsufficient)

/-- The records still to check. Rebuilding one validates it again. -/
def verifyRecords : List EvidenceRecord → Except PyError Bool
  | [] => .ok true
  | record :: rest => do
    let recomputed ← EvidenceRecord.validated rt { record with chainHash := "" }
    if recomputed.chainHash = record.chainHash then verifyRecords rest else return false

def verifyChainIntegrity (l : EvidenceLogger) : Except PyError Bool := verifyRecords rt l.records

end EvidenceLogger

/-- The record carries the hash of its own text, and its duration is valid. -/
structure EvidenceRecord.Sealed (rt : Runtime) (record : EvidenceRecord) : Prop where
  duration : 0 ≤ record.inferenceDurationMs
  chainHash : record.chainHash = rt.sha256 record.hashText

namespace EvidenceRecord
variable {rt : Runtime}

theorem validated_ok {record : EvidenceRecord} (h : 0 ≤ record.inferenceDurationMs) :
    validated rt record = .ok { record with chainHash := rt.sha256 record.hashText } := by
  unfold validated
  rw [if_neg (not_lt.mpr h)]

theorem validated_error {record : EvidenceRecord} (h : record.inferenceDurationMs < 0) :
    ∃ e, validated rt record = .error e := by
  unfold validated
  rw [if_pos h]
  exact ⟨_, rfl⟩

/-- A record of a valid duration is built with the hash of its text. -/
theorem new_ok (n : ℕ) (sessionId requestHash policyGateSignature scopeHash : String)
    (hypothesisHash : Option String) (modelId : String) {inferenceDurationMs : ℤ}
    (finalStatus : InferenceStatus) (rejectionReason : Option RejectionReason)
    (h : 0 ≤ inferenceDurationMs) :
    ∃ record, new rt n sessionId requestHash policyGateSignature scopeHash hypothesisHash modelId
        inferenceDurationMs finalStatus rejectionReason = .ok record ∧ record.Sealed rt ∧
      record.sessionId = sessionId ∧ record.requestHash = requestHash ∧
      record.finalStatus = finalStatus :=
  ⟨_, validated_ok h, ⟨h, rfl⟩, rfl, rfl, rfl⟩

end EvidenceRecord

namespace EvidenceLogger
variable (rt : Runtime)

/-- A record is committed exactly when its duration is valid; else nothing changes. -/
theorem run_recordNew (sessionId requestHash policyGateSignature scopeHash : String)
    (hypothesisHash : Option String) (modelId : String) (inferenceDurationMs : ℤ)
    (finalStatus : InferenceStatus) (rejectionReason : Option RejectionReason)
    (w : World EvidenceLogger) :
    (0 ≤ inferenceDurationMs ∧ ∃ record, record.Sealed rt ∧ record.sessionId = sessionId ∧
      record.requestHash = requestHash ∧ record.finalStatus = finalStatus ∧
      (recordNew rt sessionId requestHash policyGateSignature scopeHash hypothesisHash modelId
        inferenceDurationMs finalStatus rejectionReason).run w =
        .ok record ⟨commit record w.self, { w.env with draws := w.env.draws + 1 }⟩) ∨
      inferenceDurationMs < 0 ∧ ∃ e,
        (recordNew rt sessionId requestHash policyGateSignature scopeHash hypothesisHash modelId
          inferenceDurationMs finalStatus rejectionReason).run w =
          .error e ⟨w.self, { w.env with draws := w.env.draws + 1 }⟩ := by
  unfold recordNew
  rcases lt_or_ge inferenceDurationMs 0 with hnegative | hduration
  · obtain ⟨e, hnew⟩ : ∃ e, EvidenceRecord.new rt w.env.draws sessionId requestHash
        policyGateSignature scopeHash hypothesisHash modelId inferenceDurationMs finalStatus
        rejectionReason = .error e := EvidenceRecord.validated_error hnegative
    refine Or.inr ⟨hnegative, e, ?_⟩
    rw [EStateM.run_bind, run_draw]
    simp only [hnew]
    rfl
  · obtain ⟨record, hnew, hsealed, hsession, hrequest, hstatus⟩ :=
      EvidenceRecord.new_ok w.env.draws sessionId requestHash policyGateSignature scopeHash
        hypothesisHash modelId finalStatus rejectionReason hduration
    refine Or.inl ⟨hduration, record, hsealed, hsession, hrequest, hstatus, ?_⟩
    rw [EStateM.run_bind, run_draw]
    simp only [hnew]
    rfl

end EvidenceLogger

/-- One call on a logger. -/
inductive LoggerOp where
  | recordSuccess (sessionId requestHash : String) (policyGateResult : PolicyGateResult)
      (hypothesis : TypedHypothesis) (modelId : String) (inferenceDurationMs : ℤ)
  | recordRejection (sessionId requestHash : String) (policyGateResult : PolicyGateResult)
      (modelId : String) (rejectionReason : RejectionReason) (rejectionDetail : String)
  | recordFailure (sessionId requestHash : String) (policyGateResult : Option PolicyGateResult)
      (modelId : String) (failureDetail : String)

def LoggerOp.call (rt : Runtime) : LoggerOp → Method EvidenceLogger EvidenceRecord
  | recordSuccess sessionId requestHash policyGateResult hypothesis modelId inferenceDurationMs =>
    EvidenceLogger.recordSuccess rt sessionId requestHash policyGateResult hypothesis modelId
      inferenceDurationMs
  | recordRejection sessionId requestHash policyGateResult modelId rejectionReason
      rejectionDetail =>
    EvidenceLogger.recordRejection rt sessionId requestHash policyGateResult modelId
      rejectionReason rejectionDetail
  | recordFailure sessionId requestHash policyGateResult modelId failureDetail =>
    EvidenceLogger.recordFailure rt sessionId requestHash policyGateResult modelId failureDetail

/-- A call commits one sealed record and returns it, or raises with the logger unchanged. -/
theorem LoggerOp.call_cases (rt : Runtime) (op : LoggerOp) (w : World EvidenceLogger) :
    (∃ record env, record.Sealed rt ∧
      (op.call rt).run w = .ok record ⟨EvidenceLogger.commit record w.self, env⟩) ∨
      ∃ e env, (op.call rt).run w = .error e ⟨w.self, env⟩ := by
  have hnew (sessionId requestHash policyGateSignature scopeHash : String)
      (hypothesisHash : Option String) (modelId : String) (inferenceDurationMs : ℤ)
      (finalStatus : InferenceStatus) (rejectionReason : Option RejectionReason) :
      let m := EvidenceLogger.recordNew rt sessionId requestHash policyGateSignature scopeHash
        hypothesisHash modelId inferenceDurationMs finalStatus rejectionReason
      (∃ record env, record.Sealed rt ∧
        m.run w = .ok record ⟨EvidenceLogger.commit record w.self, env⟩) ∨
        ∃ e env, m.run w = .error e ⟨w.self, env⟩ := by
    intro m
    rcases EvidenceLogger.run_recordNew rt sessionId requestHash policyGateSignature scopeHash
      hypothesisHash modelId inferenceDurationMs finalStatus rejectionReason w with
      ⟨-, record, hsealed, -, -, -, hrun⟩ | ⟨-, e, hrun⟩
    · exact Or.inl ⟨record, _, hsealed, hrun⟩
    · exact Or.inr ⟨e, _, hrun⟩
  cases op with
  | recordSuccess sessionId requestHash policyGateResult hypothesis modelId inferenceDurationMs =>
    rw [LoggerOp.call, EvidenceLogger.recordSuccess]
    cases policyGateResult.scopeParameters with
    | none => exact Or.inr ⟨_, _, rfl⟩
    | some scope => exact hnew ..
  | recordRejection => exact hnew ..
  | recordFailure => exact hnew ..

def loggerStep (rt : Runtime) (op : LoggerOp) (w : World EvidenceLogger) :
    World EvidenceLogger := (op.call rt).after w

def loggerRun (rt : Runtime) (w : World EvidenceLogger) (ops : List LoggerOp) :
    World EvidenceLogger := run (loggerStep rt) w ops

theorem loggerStep_sealed (rt : Runtime) (op : LoggerOp) {w : World EvidenceLogger}
    (hw : ∀ record ∈ w.self.records, record.Sealed rt) :
    ∀ record ∈ (loggerStep rt op w).self.records, record.Sealed rt := by
  rcases op.call_cases rt w with ⟨new, env, hnew, hrun⟩ | ⟨e, env, hrun⟩
  · rw [loggerStep, after_ok hrun, EvidenceLogger.commit_records]
    intro record hrecord
    rcases List.mem_append.mp hrecord with hrecord | hrecord
    · exact hw record hrecord
    · rw [List.mem_singleton.mp hrecord]
      exact hnew
  · rw [loggerStep, after_error hrun]
    exact hw

theorem loggerRun_sealed (rt : Runtime) (env : Env) (ops : List LoggerOp) :
    ∀ record ∈ (loggerRun rt ⟨.new, env⟩ ops).self.records, record.Sealed rt := by
  apply run_invariant (loggerStep rt)
    (I := fun w => ∀ record ∈ w.self.records, record.Sealed rt)
  · exact fun op _ w hw => loggerStep_sealed rt op hw
  · exact fun record h => absurd h List.not_mem_nil

end ControlFabric.Inference

/-! Which modifications of the stored evidence `verify_chain_integrity` detects. -/
namespace ControlFabric.Inference
open Lib Py

/-- No member of the enumeration ends in another. -/
theorem InferenceStatus.str_suffixDelimiting :
    SuffixDelimiting (fun s : InferenceStatus => s.str.toList) := by
  apply suffixDelimiting_of_code
  intro a b
  cases a <;> cases b <;> decide

theorem RejectionReason.str_suffixDelimiting :
    SuffixDelimiting (fun o : Option RejectionReason => ((o.map str).getD "None").toList) := by
  apply suffixDelimiting_of_code
  intro a b
  rcases a with _ | a
  · rcases b with _ | b
    · decide
    · cases b <;> decide
  · rcases b with _ | b
    · cases a <;> decide
    · cases a <;> cases b <;> decide

namespace EvidenceRecord

/-- What is hashed before the status, the reason and the time of the record. -/
def boundText (r : EvidenceRecord) : String :=
  r.recordId ++ r.sessionId ++ r.requestHash ++ r.policyGateSignature ++ r.scopeHash ++
    r.hypothesisHash.getD "None" ++ r.modelId ++ toString r.inferenceDurationMs

theorem hashText_eq_iff {a b : EvidenceRecord} :
    a.hashText = b.hashText ↔ a.boundText = b.boundText ∧ a.finalStatus = b.finalStatus ∧
      a.rejectionReason = b.rejectionReason ∧ a.createdAt = b.createdAt := by
  have htext (r : EvidenceRecord) : r.hashText = r.boundText ++ r.finalStatus.str ++
      (r.rejectionReason.map RejectionReason.str).getD "None" ++ r.createdAt.isoformat := rfl
  constructor
  · intro h
    have hchars := congrArg String.toList h
    simp only [htext, String.toList_append] at hchars
    obtain ⟨htime, hchars⟩ := DateTime.isoformat_suffixDelimiting _ _ _ _ hchars
    obtain ⟨hreason, hchars⟩ := RejectionReason.str_suffixDelimiting _ _ _ _ hchars
    obtain ⟨hstatus, hbound⟩ := InferenceStatus.str_suffixDelimiting _ _ _ _ hchars
    exact ⟨String.ext hbound, hstatus, hreason, htime⟩
  · rintro ⟨hbound, hstatus, hreason, htime⟩
    rw [htext, htext, hbound, hstatus, hreason, htime]

/-- The edited record shows the edit in its hashed text. -/
def ShowsEdit (original edited : EvidenceRecord) : Prop :=
  edited.boundText ≠ original.boundText ∨ edited.finalStatus ≠ original.finalStatus ∨
    edited.rejectionReason ≠ original.rejectionReason ∨ edited.createdAt ≠ original.createdAt

theorem showsEdit_iff {original edited : EvidenceRecord} :
    original.ShowsEdit edited ↔ edited.hashText ≠ original.hashText := by
  rw [ne_eq, hashText_eq_iff]
  unfold ShowsEdit
  simp only [not_and_or, ne_eq]

variable {rt : Runtime}

theorem Sealed.edited_iff (hrt : rt.Digest) {original edited : EvidenceRecord}
    (h : original.Sealed rt) (hkept : edited.chainHash = original.chainHash) :
    edited.chainHash = rt.sha256 edited.hashText ↔ ¬ original.ShowsEdit edited := by
  rw [hkept, h.chainHash, hrt.injective.eq_iff, showsEdit_iff, not_not, eq_comm]

end EvidenceRecord

namespace EvidenceLogger
variable {rt : Runtime}

theorem verifyRecords_cons_false_iff {record : EvidenceRecord} {rest : List EvidenceRecord} :
    verifyRecords rt (record :: rest) = .ok false ↔ 0 ≤ record.inferenceDurationMs ∧
      (record.chainHash = rt.sha256 record.hashText → verifyRecords rt rest = .ok false) := by
  rw [verifyRecords]
  rcases lt_or_ge record.inferenceDurationMs 0 with hnegative | hduration
  · obtain ⟨e, he⟩ : ∃ e, EvidenceRecord.validated rt { record with chainHash := "" } = .error e :=
      EvidenceRecord.validated_error hnegative
    rw [he]
    apply iff_of_false
    · intro h
      cases h
    · exact fun h => absurd h.1 (not_le.mpr hnegative)
  · have hvalidated : EvidenceRecord.validated rt { record with chainHash := "" } =
        .ok { record with chainHash := rt.sha256 record.hashText } :=
      EvidenceRecord.validated_ok hduration
    rw [hvalidated]
    show (if rt.sha256 record.hashText = record.chainHash then verifyRecords rt rest
      else .ok false) = .ok false ↔ _
    by_cases hhash : record.chainHash = rt.sha256 record.hashText
    · rw [if_pos hhash.symm]
      exact ⟨fun h => ⟨hduration, fun _ => h⟩, fun h => h.2 hhash⟩
    · rw [if_neg (Ne.symm hhash)]
      exact iff_of_true rfl ⟨hduration, fun h => absurd h hhash⟩

/-- `edited` is `l` with its records edited by hand: the records `kept` lists remain, in that order,
each an original next to its edited form under the original's hash. -/
structure LogEdited (l edited : EvidenceLogger) (kept : List (EvidenceRecord × EvidenceRecord)) :
    Prop where
  originals : (kept.map Prod.fst).Subperm l.records
  edited : edited.records = kept.map Prod.snd
  chainHash : ∀ e ∈ kept, e.2.chainHash = e.1.chainHash

/-- The first record whose edit shows has a valid duration, and so have all before it. -/
def Detected (kept : List (EvidenceRecord × EvidenceRecord)) : Prop :=
  FirstHit (fun e => 0 ≤ e.2.inferenceDurationMs ∧ ¬ e.1.ShowsEdit e.2)
    (fun e => 0 ≤ e.2.inferenceDurationMs ∧ e.1.ShowsEdit e.2) kept

theorem verifyRecords_edited_iff (hrt : rt.Digest) {kept : List (EvidenceRecord × EvidenceRecord)}
    (hsealed : ∀ e ∈ kept, e.1.Sealed rt) (hhash : ∀ e ∈ kept, e.2.chainHash = e.1.chainHash) :
    verifyRecords rt (kept.map Prod.snd) = .ok false ↔ Detected kept := by
  unfold Detected
  induction kept with
  | nil =>
    apply iff_of_false
    · intro h
      cases h
    · exact not_firstHit_nil
  | cons e kept ih =>
    have hrest := ih (fun d hd => hsealed d (List.mem_cons_of_mem _ hd))
      (fun d hd => hhash d (List.mem_cons_of_mem _ hd))
    have hedit := (hsealed e List.mem_cons_self).edited_iff hrt (hhash e List.mem_cons_self)
    rw [List.map_cons, verifyRecords_cons_false_iff, hedit, hrest, firstHit_cons]
    tauto

/-- An edit of a reached log is detected exactly when the first record of an invalid duration or
with an edit that shows is one with a valid duration. -/
theorem verifyChainIntegrity_edited_iff (hrt : rt.Digest) (env : Env) (ops : List LoggerOp)
    {edited : EvidenceLogger} {kept : List (EvidenceRecord × EvidenceRecord)}
    (h : LogEdited (loggerRun rt ⟨.new, env⟩ ops).self edited kept) :
    edited.verifyChainIntegrity rt = .ok false ↔ Detected kept := by
  have hsealed : ∀ e ∈ kept, e.1.Sealed rt := fun e he =>
    loggerRun_sealed rt env ops e.1 (h.originals.subset (List.mem_map_of_mem he))
  rw [verifyChainIntegrity, h.edited]
  exact verifyRecords_edited_iff hrt hsealed h.chainHash

section TimedOut

/-- A session in which the model failed. -/
private def timedOutOps : List LoggerOp :=
  [.recordFailure "session-1" "request-1" none "phi-3-mini" "timed out"]

private def timedOutRun : World EvidenceLogger :=
  loggerRun .reference ⟨.new, .initial "default"⟩ timedOutOps

private theorem timedOutRun_records :
    ∃ record, timedOutRun.self.records = [record] ∧ record.inferenceDurationMs = 0 ∧
      record.finalStatus = .failed := ⟨_, rfl, rfl, rfl⟩

theorem verifyChainIntegrity_edited_iff_status :
    ∃ record, timedOutRun.self.records = [record] ∧
      verifyChainIntegrity .reference ⟨[{ record with finalStatus := .complete }], Dict.empty⟩ =
        .ok false := by
  obtain ⟨record, hrecords, hduration, hstatus⟩ := timedOutRun_records
  have hedited : LogEdited timedOutRun.self
      ⟨[{ record with finalStatus := .complete }], Dict.empty⟩
      [(record, { record with finalStatus := .complete })] := by
    constructor
    · rw [hrecords]
      exact List.Subperm.refl _
    · rfl
    · intro e he
      rw [List.mem_singleton.mp he]
  refine ⟨record, hrecords, ?_⟩
  apply (verifyChainIntegrity_edited_iff Runtime.reference_digest (.initial "default") timedOutOps
    hedited).mpr
  have hshows : record.ShowsEdit { record with finalStatus := .complete } := by
    apply Or.inr (Or.inl ?_)
    show InferenceStatus.complete ≠ record.finalStatus
    rw [hstatus]
    decide
  exact firstHit_cons.mpr (Or.inl ⟨hduration.ge, hshows⟩)

/-- A record can be removed without the check noticing. -/
theorem verifyChainIntegrity_misses_removal :
    ¬ ∀ rt : Runtime, rt.Digest → ∀ (env : Env) (ops : List LoggerOp) (edited : EvidenceLogger)
      (kept : List (EvidenceRecord × EvidenceRecord)),
      LogEdited (loggerRun rt ⟨.new, env⟩ ops).self edited kept →
        edited.records ≠ (loggerRun rt ⟨.new, env⟩ ops).self.records →
          edited.verifyChainIntegrity rt = .ok false := by
  intro h
  obtain ⟨record, hrecords, -, -⟩ := timedOutRun_records
  have hedited : LogEdited timedOutRun.self new [] := by
    constructor
    · exact List.nil_subperm
    · rfl
    · exact fun e he => absurd he List.not_mem_nil
  have hchanged : new.records ≠ timedOutRun.self.records := by
    rw [hrecords]
    exact (List.cons_ne_nil record []).symm
  cases h .reference Runtime.reference_digest (.initial "default") timedOutOps new [] hedited
    hchanged

end TimedOut
end EvidenceLogger
end ControlFabric.Inference
