import ControlFabric.Gate.ReleaseGate
import ControlFabric.Py.Lower

/-! The explanation of a blocked action, which is read off the text of the failure reason, and which
gate it names. The reasons of the completeness and the evidence gates are fixed texts; those of the
policy gate quote the action type and the allowed origins, in which the words that stand for the
other gates may occur. The lists that `explain_block` leaves empty are left out. -/
namespace ControlFabric.Explainability
open Lib Py DeterministicValidationChain PlatformActionReleaseGate

structure GateExplanation where
  gateName : String
  outcome : String
  detail : String
  isBlocking : Bool

structure BlockExplanation where
  requestId : String
  actionType : String
  origin : String
  requestedBy : String
  requestedAt : String
  overallOutcome : String
  blockingGate : String
  blockingReason : String
  gates : List GateExplanation
  missingEvidence : List String
  remediationSteps : List String
  humanSummary : String

/-- The keys of `gate_map`, each its own value, and the `gate_names` of the timeline. -/
def gateNames : List String :=
  ["completeness", "evidence_sufficiency", "policy_compliance", "provenance_integrity",
    "schema_conformance"]

section Texts
variable (uc : Casing)

def extractGateName (failureReason : String) : String :=
  (gateNames.find? fun key => occursIn key (lower uc failureReason)).getD "unknown"

/-- The rest of the timeline; the gate that failed ends it. -/
def gateTimeline (failureReason failedGate : String) : List String → List GateExplanation
  | [] => []
  | gate :: gates =>
    if gate = failedGate then [⟨gate, "failed", failureReason, true⟩]
    else ⟨gate, "passed", "Check passed", false⟩ :: gateTimeline failureReason failedGate gates

def buildGateTimeline (failureReason : String) : List GateExplanation :=
  gateTimeline failureReason (extractGateName uc failureReason) gateNames

def extractMissingEvidence (failureReason : String) : List String :=
  if occursIn "evidence" (lower uc failureReason) then
    ["At least one evidence reference is required for this action type and origin."]
  else []

end Texts

def remediationMap : List (String × List String) :=
  [("completeness",
      ["Ensure all required fields are present: action_type, requested_by, proposed_payload.",
        "Check that proposed_payload is not empty."]),
    ("evidence_sufficiency",
      ["Provide at least one evidence reference (e.g. CI run ID, scan result ID).",
        "Evidence references must be non-empty strings.",
        "AI-originated actions always require evidence."]),
    ("policy_compliance",
      ["Check the active policies for blocked action types.",
        "Review which policy version is currently active.",
        "If this action is legitimately required, submit an exception request."]),
    ("provenance_integrity",
      ["The request hash does not match — the request may have been modified.",
        "Resubmit the request without modification."]),
    ("schema_conformance",
      ["Ensure proposed_payload is a valid dict.",
        "Check for required schema fields for this action type."])]

def buildRemediationSteps (gate : String) : List String :=
  ((remediationMap.find? fun p => p.1 = gate).map Prod.snd).getD
    ["Review the validation chain configuration.", "Contact your platform administrator."]

def humanSummaryBlock (actionType blockingGate blockingReason : String)
    (remediationSteps : List String) : String :=
  let step := remediationSteps.head?.getD "review the validation chain configuration."
  s!"Action '{actionType}' was blocked at the {blockingGate} gate. {blockingReason}. " ++
    s!"To release this action: {step}"

def explainBlock (uc : Casing) (auditResult : Dict String String) : BlockExplanation :=
  let get (key : String) := (auditResult.get? key).getD ""
  let failureReason := get "failure_reason"
  let gateName := extractGateName uc failureReason
  let remediation := buildRemediationSteps gateName
  { requestId := get "dispatch_id"
    actionType := get "action_type"
    origin := get "origin"
    requestedBy := get "requested_by"
    requestedAt := get "dispatched_at"
    overallOutcome := "blocked"
    blockingGate := gateName
    blockingReason := failureReason
    gates := buildGateTimeline uc failureReason
    missingEvidence := extractMissingEvidence uc failureReason
    remediationSteps := remediation
    humanSummary := humanSummaryBlock (get "action_type") gateName failureReason remediation }

/-- What the route hands to the engine for an audit entry. -/
def auditResult (result : ActionDispatchResult) : Dict String String :=
  ((Dict.empty.set "dispatch_id" result.dispatchId).set "failure_reason"
    (result.failureReason.getD "")).set "dispatched_at" result.dispatchedAt.isoformat

/-- The explanation names this check as the one that failed, those before it in the chain as passed,
and evidence as missing if the check is the one of evidence. -/
structure BlockExplanation.Names (e : BlockExplanation) (before : List ValidationCheckName)
    (failed : ValidationCheckName) : Prop where
  blockingGate : e.blockingGate = failed.value
  timeline : e.gates.map (fun g => (g.gateName, g.outcome)) =
    before.map (fun check => (check.value, "passed")) ++ [(failed.value, "failed")]
  missing : e.missingEvidence ≠ [] ↔ failed = .evidenceSufficiency

theorem gateTimeline_eq {failureReason failedGate : String} {gates : List String}
    (h : failedGate ∈ gates) :
    (gateTimeline failureReason failedGate gates).map (fun g => (g.gateName, g.outcome)) =
      (gates.takeWhile (· ≠ failedGate)).map (fun gate => (gate, "passed")) ++
        [(failedGate, "failed")] := by
  induction gates with
  | nil => cases h
  | cons gate gates ih =>
    by_cases hgate : gate = failedGate
    · simp [gateTimeline, hgate]
    · have hmem : failedGate ∈ gates := (List.mem_cons.mp h).resolve_left (Ne.symm hgate)
      simp [gateTimeline, hgate, ih hmem]

/-! ### Which gate is named -/

/-- The text in lower case says neither of the two words that the engine finds before the policy. -/
def Silent (uc : Casing) (text : String) : Prop :=
  ¬ occursIn "completeness" (lower uc text) ∧ ¬ occursIn "evidence" (lower uc text)

/-- Another gate than that of the policies refuses the submission, or what the policy gate quotes is
silent on the others. -/
def Explainable (rt : Runtime) (uc : Casing) (policies : ActivePolicies) (s : Submission) : Prop :=
  (s.actionType = "" ∨ s.requestedBy = "" ∨ s.proposedPayload = []) ∨
  (s.origin = .aiInference ∧ s.evidenceReferences.getD [] = []) ∨
  Silent uc s.actionType ∧ (s.actionType ∉ policies.blockedActionTypes.getD [] →
    ∀ allowed ∈ (policies.requiredOriginsFor.getD Dict.empty).get? s.actionType,
      Silent uc (reprList rt.isPrintable allowed))

section Names
variable {uc : Casing} {reason : String}

/-- A timeline ends with the gate that was found in the reason. -/
theorem names_explainBlock_iff {result : ActionDispatchResult}
    (hreason : result.failureReason = some reason) {before after : List ValidationCheckName}
    {failed : ValidationCheckName}
    (hnames : gateNames = (before ++ failed :: after).map ValidationCheckName.value) :
    (explainBlock uc (auditResult result)).Names before failed ↔
      extractGateName uc reason = failed.value ∧
        (extractMissingEvidence uc reason ≠ [] ↔ failed = .evidenceSufficiency) := by
  have hget : ((auditResult result).get? "failure_reason").getD "" = reason := by
    rw [auditResult, Dict.get?_set_of_ne (by decide), Dict.get?_set_self, hreason]
    rfl
  have hgate : (explainBlock uc (auditResult result)).blockingGate = extractGateName uc reason := by
    simp only [explainBlock, hget]
  have hgates : (explainBlock uc (auditResult result)).gates =
      gateTimeline reason (extractGateName uc reason) gateNames := by
    simp only [explainBlock, buildGateTimeline, hget]
  have hmissing : (explainBlock uc (auditResult result)).missingEvidence =
      extractMissingEvidence uc reason := by
    simp only [explainBlock, hget]
  have hnodup : gateNames.Nodup := by decide
  rw [List.map_append, List.map_cons] at hnames
  constructor
  · rintro ⟨hblocking, -, hiff⟩
    exact ⟨hgate ▸ hblocking, hmissing ▸ hiff⟩
  · rintro ⟨hblocking, hiff⟩
    refine ⟨hgate.trans hblocking, ?_, hmissing ▸ hiff⟩
    have hmem : failed.value ∈ gateNames := by
      rw [hnames]
      exact List.mem_append_right _ List.mem_cons_self
    have hfresh : ∀ name ∈ before.map ValidationCheckName.value, name ≠ failed.value := by
      rintro name hname rfl
      rw [hnames] at hnodup
      exact List.disjoint_of_nodup_append hnodup hname List.mem_cons_self
    have htake : gateNames.takeWhile (· ≠ failed.value) = before.map ValidationCheckName.value := by
      rw [hnames, List.takeWhile_append_of_pos (by simpa using hfresh)]
      simp
    rw [hgates, hblocking, gateTimeline_eq hmem, htake, List.map_map]
    rfl

theorem occursIn_evidence {text : String} (h : occursIn "evidence_sufficiency" text) :
    occursIn "evidence" text := by
  unfold occursIn at h ⊢
  simp only [decide_eq_true_eq] at h ⊢
  exact (by decide : "evidence".toList <:+: "evidence_sufficiency".toList).trans h

/-- What stands before the policy gate in the list of gates is not found. -/
theorem extractGateName_policy (hpolicy : occursIn "policy_compliance" (lower uc reason)) :
    extractGateName uc reason = "policy_compliance" ∧ extractMissingEvidence uc reason = [] ↔
      Silent uc reason := by
  unfold extractGateName extractMissingEvidence gateNames Silent
  by_cases hcompleteness : occursIn "completeness" (lower uc reason)
  · simp [hcompleteness]
  · by_cases hevidence : occursIn "evidence" (lower uc reason)
    · simp [hevidence]
    · have hsufficiency := mt occursIn_evidence hevidence
      simp [hcompleteness, hevidence, hsufficiency, hpolicy]

end Names

section Policy
variable (uc : Casing)

/-- A word in quotes after the opening of a refusal by the policy gate. -/
theorem infix_quoted_iff {word : String} (hword : word = "completeness" ∨ word = "evidence")
    (quoted closing : List Char) :
    word.toList <:+: lowerFrom uc []
        ("policy_compliance: action_type ".toList ++ '\'' :: (quoted ++ '\'' :: closing)) ↔
      word.toList <:+: lowerFrom uc [] quoted ∨ word.toList <:+: lowerFrom uc [] closing := by
  have hletters : 'ς' ∉ word.toList ∧ 'σ' ∉ word.toList ∧ '\''.toLower ∉ word.toList ∧
      ¬ word.toList <:+: "policy_compliance: action_type ".toList.map Char.toLower := by
    rcases hword with rfl | rfl <;> decide
  obtain ⟨hfinal, hsigma, hquote, hopening⟩ := hletters
  rw [infix_lower_quoted uc hfinal hsigma ⟨by decide, hquote⟩ ⟨by decide, hquote⟩ quoted
    (by decide), or_iff_right hopening]

theorem occursIn_blocked {word : String} (hword : word = "completeness" ∨ word = "evidence")
    (actionType : String) :
    occursIn word (lower uc
        ("policy_compliance: " ++ s!"action_type '{actionType}' is blocked by active policy")) ↔
      occursIn word (lower uc actionType) := by
  have htext : ("policy_compliance: " ++
      s!"action_type '{actionType}' is blocked by active policy").toList =
        "policy_compliance: action_type ".toList ++
          '\'' :: (actionType.toList ++ '\'' :: " is blocked by active policy".toList) := by
    simp [toString]
  have hclosing : ¬ word.toList <:+: lowerFrom uc [] " is blocked by active policy".toList := by
    rw [lowerFrom_ascii uc (by decide)]
    rcases hword with rfl | rfl <;> decide
  simp only [occursIn, lower, decide_eq_true_eq, String.toList_ofList, htext,
    infix_quoted_iff uc hword, or_iff_left hclosing]

theorem occursIn_requires {word : String} (hword : word = "completeness" ∨ word = "evidence")
    (actionType origins : String) (origin : ActionOrigin) :
    occursIn word (lower uc ("policy_compliance: " ++
        (s!"action_type '{actionType}' requires origin in " ++
          s!"{origins}, got '{origin.value}'"))) ↔
      occursIn word (lower uc actionType) ∨ occursIn word (lower uc origins) := by
  have htext : ("policy_compliance: " ++ (s!"action_type '{actionType}' requires origin in " ++
      s!"{origins}, got '{origin.value}'")).toList =
        "policy_compliance: action_type ".toList ++ '\'' :: (actionType.toList ++ '\'' ::
          (" requires origin in".toList ++ ' ' :: (origins.toList ++ ',' ::
            (" got '" ++ origin.value ++ "'").toList))) := by
    simp [toString]
  have hletters : 'ς' ∉ word.toList ∧ 'σ' ∉ word.toList ∧ ' '.toLower ∉ word.toList ∧
      ','.toLower ∉ word.toList ∧
      ¬ word.toList <:+: " requires origin in".toList.map Char.toLower := by
    rcases hword with rfl | rfl <;> decide
  obtain ⟨hfinal, hsigma, hblank, hcomma, hopening⟩ := hletters
  have hclosing : ¬ word.toList <:+: lowerFrom uc [] (" got '" ++ origin.value ++ "'").toList := by
    rw [lowerFrom_ascii uc (by cases origin <;> decide)]
    rcases hword with rfl | rfl <;> cases origin <;> decide
  simp only [occursIn, lower, decide_eq_true_eq, String.toList_ofList, htext,
    infix_quoted_iff uc hword]
  rw [infix_lower_quoted uc hfinal hsigma ⟨by decide, hblank⟩ ⟨by decide, hcomma⟩ origins.toList
    (by decide), or_iff_right hopening, or_iff_left hclosing]

/-- The refusal of a blocked action type is as silent as the type. -/
theorem silent_blocked (actionType : String) :
    Silent uc ("policy_compliance: " ++ s!"action_type '{actionType}' is blocked by active policy") ↔
      Silent uc actionType := by
  unfold Silent
  rw [occursIn_blocked uc (Or.inl rfl), occursIn_blocked uc (Or.inr rfl)]

theorem silent_requires (actionType origins : String) (origin : ActionOrigin) :
    Silent uc ("policy_compliance: " ++ (s!"action_type '{actionType}' requires origin in " ++
        s!"{origins}, got '{origin.value}'")) ↔
      Silent uc actionType ∧ Silent uc origins := by
  unfold Silent
  rw [occursIn_requires uc (Or.inl rfl), occursIn_requires uc (Or.inr rfl), not_or, not_or,
    and_and_and_comm]

theorem toList_reason (name detail : String) :
    (name ++ ": " ++ detail).toList = name.toList ++ (": ".toList ++ detail.toList) := by
  simp

/-- The name in front of a reason is found in it. -/
theorem occursIn_name {name : String} (hascii : Ascii name.toList)
    (hlower : name.toList.map Char.toLower = name.toList) (detail : String) :
    occursIn name (lower uc (name ++ ": " ++ detail)) := by
  simp only [occursIn, lower, decide_eq_true_eq, String.toList_ofList, toList_reason,
    lowerFrom_ascii_append uc hascii, hlower]
  exact (List.prefix_append _ _).isInfix

/-- A word with a letter that a reason in ASCII lacks is not found in it. -/
theorem not_occursIn_reason {word name detail : String} {letter : Char} (hletter : letter ∈ word.toList)
    (hascii : Ascii (name.toList ++ (": ".toList ++ detail.toList)))
    (hnone : letter ∉ (name.toList ++ (": ".toList ++ detail.toList)).map Char.toLower) :
    ¬ occursIn word (lower uc (name ++ ": " ++ detail)) := by
  simp only [occursIn, lower, decide_eq_true_eq, String.toList_ofList, toList_reason,
    lowerFrom_ascii uc hascii]
  exact fun h => hnone (h.subset hletter)

end Policy

/-- Where the gates stop. -/
theorem gates_split {rt : Runtime} {policies : ActivePolicies} {pre post : List Check} {c : Check}
    (h : gates rt policies = pre ++ c :: post) :
    pre = [] ∧ c = checkCompleteness ∨ pre = [checkCompleteness] ∧ c = checkEvidence ∨
      pre = [checkCompleteness, checkEvidence] ∧ c = checkPolicy rt policies ∨
      c = checkProvenance rt ∨ c = checkSchema := by
  unfold gates at h
  rcases pre with _ | ⟨a, _ | ⟨b, _ | ⟨d, _ | ⟨e, _ | ⟨f, pre⟩⟩⟩⟩⟩
  all_goals simp only [List.nil_append, List.cons_append, List.cons.injEq] at h
  · exact Or.inl ⟨rfl, h.1.symm⟩
  · obtain ⟨rfl, rfl, -⟩ := h
    exact Or.inr (Or.inl ⟨rfl, rfl⟩)
  · obtain ⟨rfl, rfl, rfl, -⟩ := h
    exact Or.inr (Or.inr (Or.inl ⟨rfl, rfl⟩))
  · exact Or.inr (Or.inr (Or.inr (Or.inl h.2.2.2.1.symm)))
  · exact Or.inr (Or.inr (Or.inr (Or.inr h.2.2.2.2.1.symm)))
  · exact absurd h.2.2.2.2.2 (by simp)

/-- The timeline lists the gates in the order of the chain. -/
theorem gateNames_of_split {rt : Runtime} {policies : ActivePolicies} {pre post : List Check}
    {c : Check} (h : gates rt policies = pre ++ c :: post) : gateNames =
      (pre.map Check.name ++ c.name :: post.map Check.name).map ValidationCheckName.value := by
  rw [← List.map_cons, ← List.map_append, ← h]
  rfl

section Submit
variable {rt : Runtime} {uc : Casing} {s : Submission} {policies : ActivePolicies}

/-- The text the gate logs for a check that fails. -/
def reasonOf (c : Check) (request : ValidationRequest) : String :=
  s!"{c.name.value}: {(c.verdict request).2}"

/-- The engine finds the check in the reason. -/
def Found (uc : Casing) (reason : String) (failed : ValidationCheckName) : Prop :=
  extractGateName uc reason = failed.value ∧
    (extractMissingEvidence uc reason ≠ [] ↔ failed = .evidenceSufficiency)

/-- Completeness is the first name that is looked for. -/
theorem found_first {reason : String} (hname : occursIn "completeness" (lower uc reason))
    (hsilent : ¬ occursIn "evidence" (lower uc reason)) : Found uc reason .completeness := by
  simp [Found, extractGateName, extractMissingEvidence, gateNames, hname, hsilent,
    ValidationCheckName.value]

theorem found_second {reason : String} (hname : occursIn "evidence_sufficiency" (lower uc reason))
    (hsilent : ¬ occursIn "completeness" (lower uc reason)) :
    Found uc reason .evidenceSufficiency := by
  simp [Found, extractGateName, extractMissingEvidence, gateNames, hname, hsilent,
    occursIn_evidence hname, ValidationCheckName.value]

theorem found_completeness {request : ValidationRequest}
    (h : (checkCompleteness.verdict request).1 = .fail) :
    Found uc (reasonOf checkCompleteness request) .completeness := by
  have hreason : reasonOf checkCompleteness request =
      "completeness" ++ ": " ++ (checkCompleteness.verdict request).2 := rfl
  rw [hreason]
  refine found_first (occursIn_name uc (by decide) (by decide) _) ?_
  unfold checkCompleteness at h ⊢
  dsimp only at h ⊢
  split_ifs at h ⊢
  · exact not_occursIn_reason uc (by decide : 'v' ∈ _) (by decide) (by decide)
  · exact not_occursIn_reason uc (by decide : 'v' ∈ _) (by decide) (by decide)
  · exact not_occursIn_reason uc (by decide : 'v' ∈ _) (by decide) (by decide)

theorem found_evidence {request : ValidationRequest}
    (h : (checkEvidence.verdict request).1 = .fail) :
    Found uc (reasonOf checkEvidence request) .evidenceSufficiency := by
  have hreason : reasonOf checkEvidence request =
      "evidence_sufficiency" ++ ": " ++ (checkEvidence.verdict request).2 := rfl
  rw [hreason]
  refine found_second (occursIn_name uc (by decide) (by decide) _) ?_
  unfold checkEvidence at h ⊢
  dsimp only at h ⊢
  split_ifs at h ⊢
  exact not_occursIn_reason uc (by decide : 'm' ∈ _) (by decide) (by decide)

/-- The policy gate is found exactly when nothing it quotes says a word of the others. -/
theorem found_policy {request : ValidationRequest}
    (h : ((checkPolicy rt policies).verdict request).1 = .fail) :
    Found uc (reasonOf (checkPolicy rt policies) request) .policyCompliance ↔
      Silent uc request.actionType ∧
        (request.actionType ∉ policies.blockedActionTypes.getD [] →
          ∀ allowed ∈ (policies.requiredOriginsFor.getD Dict.empty).get? request.actionType,
            Silent uc (reprList rt.isPrintable allowed)) := by
  have hname : (checkPolicy rt policies).name = .policyCompliance := rfl
  have hfound (detail : String) : Found uc ("policy_compliance: " ++ detail) .policyCompliance ↔
      Silent uc ("policy_compliance: " ++ detail) := by
    have hprefix : occursIn "policy_compliance" (lower uc ("policy_compliance: " ++ detail)) :=
      occursIn_name uc (by decide) (by decide) detail
    rw [← extractGateName_policy hprefix]
    simp [Found, ValidationCheckName.value]
  have hreason : reasonOf (checkPolicy rt policies) request =
      "policy_compliance: " ++ ((checkPolicy rt policies).verdict request).2 := rfl
  rw [hreason, hfound]
  unfold checkPolicy at h ⊢
  dsimp only at h ⊢
  split_ifs at h ⊢ with hblocked
  · rw [silent_blocked]
    simp [hblocked]
  · cases hallowed : (policies.requiredOriginsFor.getD Dict.empty).get? request.actionType with
    | none => simp [hallowed] at h
    | some allowed =>
      simp only [hallowed] at h ⊢
      split_ifs at h ⊢
      rw [silent_requires]
      simp [hblocked]

/-- The check that fails is found exactly when the submission is explainable. -/
theorem found_iff_explainable {n : ℕ} {context : ActivePolicies} {pre post : List Check} {c : Check}
    (hgates : gates rt policies = pre ++ c :: post)
    (hpre : ∀ d ∈ pre, (d.verdict (s.request rt n context)).1 = .pass)
    (hc : (c.verdict (s.request rt n context)).1 = .fail) :
    Found uc (reasonOf c (s.request rt n context)) c.name ↔ Explainable rt uc policies s := by
  have hcompleteness : (checkCompleteness.verdict (s.request rt n context)).1 = .pass ↔
      ¬ (s.actionType = "" ∨ s.requestedBy = "" ∨ s.proposedPayload = []) := by
    simp only [checkCompleteness]
    split_ifs <;> simp_all [Submission.request, ValidationRequest.new,
      ValidationRequest.computeRequestHash, Json.truthy]
  have hevidence : (checkEvidence.verdict (s.request rt n context)).1 = .pass ↔
      ¬ (s.origin = .aiInference ∧ s.evidenceReferences.getD [] = []) := by
    simp only [checkEvidence]
    split_ifs <;> simp_all [Submission.request, ValidationRequest.new,
      ValidationRequest.computeRequestHash]
  unfold Explainable
  rcases gates_split hgates with ⟨-, rfl⟩ | ⟨rfl, rfl⟩ | ⟨rfl, rfl⟩ | rfl | rfl
  · have hempty := mt hcompleteness.mpr (by rw [hc]; decide)
    exact iff_of_true (found_completeness hc) (Or.inl (not_not.mp hempty))
  · have hnone := mt hevidence.mpr (by rw [hc]; decide)
    exact iff_of_true (found_evidence hc) (Or.inr (Or.inl (not_not.mp hnone)))
  · have hfilled := hcompleteness.mp (hpre _ List.mem_cons_self)
    have hsome := hevidence.mp (hpre _ (List.mem_cons_of_mem _ List.mem_cons_self))
    rw [or_iff_right hfilled, or_iff_right hsome]
    exact found_policy hc
  · simp [checkProvenance, Submission.request, ValidationRequest.new,
      ValidationRequest.computeRequestHash, ValidationRequest.hashText] at hc
  · simp [checkSchema, Submission.request, ValidationRequest.new,
      ValidationRequest.computeRequestHash, Json.isDict] at hc

end Submit

/-- The audit entry of a rejected submission is explained by the check that failed, as the chain
recorded it, exactly when the submission is explainable. -/
theorem explain_block_iff (rt : Runtime) (uc : Casing) {s : Submission}
    {w : World PlatformActionReleaseGate} (h : ¬ s.Admissible w.self.chain.activePolicies) :
    let request := s.request rt w.env.draws w.self.activePolicies
    ∃ (pre : List Check) (c : Check) (post : List Check) (result : ActionDispatchResult)
      (rejection : ValidationRejection) (w' : World PlatformActionReleaseGate),
      gates rt w.self.chain.activePolicies = pre ++ c :: post ∧
      (∀ d ∈ pre, (d.verdict request).1 = .pass) ∧ (c.verdict request).1 = .fail ∧
      (submit rt s).run w = .ok result w' ∧ result.status = .blocked ∧
      w'.self.auditLog = w.self.auditLog ++ [result] ∧
      w'.self.chain.processed = w.self.chain.processed ++ [(request, Sum.inr rejection)] ∧
      rejection.failedCheck = c.name ∧
      ((explainBlock uc (auditResult result)).Names (pre.map Check.name) c.name ↔
        Explainable rt uc w.self.chain.activePolicies s) := by
  intro request
  obtain ⟨pre, c, post, hgates, hpre, hc, hrun⟩ := submit_rejected rt h
  refine ⟨pre, c, post, _, _, _, hgates, hpre, hc, hrun, rfl, rfl, rfl, rfl, ?_⟩
  rw [names_explainBlock_iff rfl (gateNames_of_split hgates)]
  exact found_iff_explainable hgates hpre hc

/-- A submission of the deployment bot. -/
def botAction (actionType : String) : Submission where
  actionType := actionType
  proposedPayload := [("service", .str "billing")]
  requestedBy := "deploy-bot"
  origin := .automatedWorkflow
  evidenceReferences := some ["ci-1"]
  provenanceChain := none
  executor := none

/-- A gate that blocks deletions. -/
def retentionGate : World PlatformActionReleaseGate where
  self := PlatformActionReleaseGate.new none
    (some ⟨some ["delete_evidence", "delete_service"], none, []⟩)
  env := Env.initial "north"

theorem explain_block_iff_delete :
    let s := botAction "delete_service"
    let w := retentionGate
    let request := s.request .reference w.env.draws w.self.activePolicies
    ∃ (pre : List Check) (c : Check) (post : List Check) (result : ActionDispatchResult)
      (rejection : ValidationRejection) (w' : World PlatformActionReleaseGate),
      gates .reference w.self.chain.activePolicies = pre ++ c :: post ∧
      (∀ d ∈ pre, (d.verdict request).1 = .pass) ∧ (c.verdict request).1 = .fail ∧
      (submit .reference s).run w = .ok result w' ∧ result.status = .blocked ∧
      w'.self.auditLog = w.self.auditLog ++ [result] ∧
      w'.self.chain.processed = w.self.chain.processed ++ [(request, Sum.inr rejection)] ∧
      rejection.failedCheck = c.name ∧
      ((explainBlock .ascii (auditResult result)).Names (pre.map Check.name) c.name ↔
        Explainable .reference .ascii w.self.chain.activePolicies s) :=
  explain_block_iff .reference .ascii (by decide)

/-- The refusal to delete evidence is explained as a lack of evidence. -/
theorem explain_block_misses_policy :
    ¬ ∀ (rt : Runtime) (uc : Casing) (s : Submission) (w : World PlatformActionReleaseGate),
      ¬ s.Admissible w.self.chain.activePolicies →
      let request := s.request rt w.env.draws w.self.activePolicies
      ∀ (pre : List Check) (c : Check) (post : List Check) (result : ActionDispatchResult)
        (w' : World PlatformActionReleaseGate),
        gates rt w.self.chain.activePolicies = pre ++ c :: post →
        (∀ d ∈ pre, (d.verdict request).1 = .pass) → (c.verdict request).1 = .fail →
        (submit rt s).run w = .ok result w' →
          (explainBlock uc (auditResult result)).Names (pre.map Check.name) c.name := by
  intro h
  have hblocked : ¬ (botAction "delete_evidence").Admissible
      retentionGate.self.chain.activePolicies := by decide
  have hloud : ¬ Explainable .reference .ascii retentionGate.self.chain.activePolicies
      (botAction "delete_evidence") := by
    rintro ((htype | hrequester | hpayload) | ⟨horigin, -⟩ | ⟨⟨-, hevidence⟩, -⟩)
    · exact absurd htype (by decide)
    · exact absurd hrequester (by decide)
    · cases hpayload
    · cases horigin
    · exact hevidence (by decide)
  obtain ⟨pre, c, post, hgates, hpre, hc, hrun⟩ := submit_rejected .reference hblocked
  have hnamed := h .reference .ascii _ retentionGate hblocked pre c post _ _ hgates hpre hc hrun
  rw [names_explainBlock_iff rfl (gateNames_of_split hgates)] at hnamed
  exact hloud ((found_iff_explainable hgates hpre hc).mp hnamed)

end ControlFabric.Explainability
