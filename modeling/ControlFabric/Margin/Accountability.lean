import ControlFabric.Lib.Assign
import ControlFabric.Lib.Raise
import ControlFabric.Margin.Values

/-! Who is accountable for a service level when field work was blocked. Whether a blocker excuses the
provider is collected over all of them; the adjusted status is that of the last one to set it. -/
namespace ControlFabric.Margin
open Lib Ingress

namespace SLAAccountabilityLinker

/-- An entry of `blocker_type_map`. -/
structure Mapping where
  accountable : Bool
  mitigation : Option String
  adjustedStatus : Option String

def blockerTypeMap : List (String × Mapping) :=
  [("customer_access", {
      accountable := false
      mitigation := some "SLA clock paused — customer access blocker"
      adjustedStatus := some "paused" }),
    ("local_authority_permit", {
      accountable := false
      mitigation := some "SLA clock paused — local authority permit delay"
      adjustedStatus := some "paused" }),
    ("weather_force_majeure", {
      accountable := false
      mitigation := some "SLA exclusion — force majeure weather event"
      adjustedStatus := some "excluded" }),
    ("customer_nominated_supplier", {
      accountable := false
      mitigation := some "Material supply failure by customer-nominated supplier"
      adjustedStatus := some "paused" }),
    ("third_party_dependency", {
      accountable := true
      mitigation := some "Third-party dependency (DNO/council) — partial mitigation"
      adjustedStatus := some "mitigated" }),
    ("provider_resource_shortage", {
      accountable := true
      mitigation := none
      adjustedStatus := none })]

structure MitigationFactor where
  blockerType : String
  mitigation : Option String
  description : Json

/-- The returned dict. -/
structure Assessment where
  accountable : Bool
  mitigationFactors : List MitigationFactor
  adjustedSlaStatus : Json

/-- The variables of the loop over the blockers. -/
structure Progress where
  hasNonAccountable : Bool := false
  fullyAccountableOnly : Bool := true
  mitigationFactors : List MitigationFactor := []
  adjustedStatus : Json

/-- `blocker_type_map.get(blocker_type)`, with the type that it is found under. -/
def mappingOf (blocker : JsonDict) : Except PyError (Option (String × Mapping)) := do
  let blockerType ← hash (dictGet blocker "blocker_type" (.str ""))
  return blockerType.text?.bind fun text => blockerTypeMap.find? fun entry => entry.1 = text

/-- Appends a factor and takes the status of its mapping over. -/
def mitigate (p : Progress) (blocker : JsonDict) (blockerType : String) (mapping : Mapping) :
    Progress :=
  { p with
    fullyAccountableOnly := false
    mitigationFactors := p.mitigationFactors ++
      [⟨blockerType, mapping.mitigation, dictGet blocker "description" (.str "")⟩]
    adjustedStatus := (mapping.adjustedStatus.map Json.str).getD p.adjustedStatus }

def visit (p : Progress) (blocker : JsonDict) : Except PyError Progress := do
  match ← mappingOf blocker with
  | none => return p
  | some (blockerType, mapping) =>
    if ¬ mapping.accountable then
      return mitigate { p with hasNonAccountable := true } blocker blockerType mapping
    else if mapping.mitigation.isSome then return mitigate p blocker blockerType mapping
    else return p

/-- The last argument is not used, as in the source. -/
def evaluate (slaStatus : JsonDict) (fieldBlockers _contractAssumptions : List JsonDict) :
    Except PyError Assessment := do
  let p ← fieldBlockers.foldlM visit { adjustedStatus := dictGet slaStatus "status" (.str "within") }
  return {
    accountable :=
      if p.hasNonAccountable then false
      else if ¬ p.fullyAccountableOnly ∧ ¬ p.mitigationFactors.isEmpty then true
      else true
    mitigationFactors := p.mitigationFactors
    adjustedSlaStatus := p.adjustedStatus }

/-! ### What the blockers contribute -/

/-- The entry of the map that the type of the blocker has. -/
def entryOf (blocker : JsonDict) : Option (String × Mapping) :=
  match mappingOf blocker with
  | .ok entry => entry
  | .error _ => none

/-- The type of the blocker is one for which the provider is not accountable. -/
def excuses (blocker : JsonDict) : Bool := (entryOf blocker).any fun entry => ¬ entry.2.accountable

/-- The blocker mitigates, wholly or in part. -/
def mitigating (entry : String × Mapping) : Bool :=
  ¬ entry.2.accountable ∨ entry.2.mitigation.isSome

/-- The factor that the blocker adds. -/
def factorOf (blocker : JsonDict) : Option MitigationFactor :=
  ((entryOf blocker).filter mitigating).map fun entry =>
    ⟨entry.1, entry.2.mitigation, dictGet blocker "description" (.str "")⟩

/-- The status that the blocker sets. -/
def statusOf (blocker : JsonDict) : Option String :=
  ((entryOf blocker).filter mitigating).bind fun entry => entry.2.adjustedStatus

/-- The type of the blocker can be looked up. -/
def Hashable (blocker : JsonDict) : Prop :=
  ∃ key, hash (dictGet blocker "blocker_type" (.str "")) = .ok key

/-- Two assessments that differ in the order of the factors only. -/
structure Assessment.Same (a a' : Assessment) : Prop where
  accountable : a.accountable = a'.accountable
  adjustedSlaStatus : a.adjustedSlaStatus = a'.adjustedSlaStatus
  mitigationFactors : a.mitigationFactors.Perm a'.mitigationFactors

/-- Both calls raise, or both return the same assessment. -/
def SameOutcome : Except PyError Assessment → Except PyError Assessment → Prop
  | .ok a, .ok a' => a.Same a'
  | .error _, .error _ => True
  | _, _ => False

/-- All blockers that set a status set the same one. -/
def OneStatus (blockers : List JsonDict) : Prop :=
  ∀ s ∈ blockers.filterMap statusOf, ∀ t ∈ blockers.filterMap statusOf, s = t

/-! ### The loop -/

theorem mappingOf_eq {blocker : JsonDict} (h : Hashable blocker) :
    mappingOf blocker = .ok (entryOf blocker) := by
  obtain ⟨key, hkey⟩ := h
  unfold entryOf mappingOf
  rw [hkey]
  rfl

theorem visit_error {blocker : JsonDict} (h : ¬ Hashable blocker) (p : Progress) :
    ∃ e, visit p blocker = .error e := by
  unfold visit mappingOf
  cases hhash : hash (dictGet blocker "blocker_type" (.str "")) with
  | error e => exact ⟨e, rfl⟩
  | ok key => exact absurd ⟨key, hhash⟩ h

/-- What a blocker makes of the variables of the loop. -/
def absorb (p : Progress) (blocker : JsonDict) : Progress where
  hasNonAccountable := p.hasNonAccountable || excuses blocker
  fullyAccountableOnly := p.fullyAccountableOnly && ¬ (entryOf blocker).any mitigating
  mitigationFactors := p.mitigationFactors ++ (factorOf blocker).toList
  adjustedStatus := ((statusOf blocker).map Json.str).getD p.adjustedStatus

theorem visit_eq {blocker : JsonDict} (h : Hashable blocker) (p : Progress) :
    visit p blocker = .ok (absorb p blocker) := by
  unfold visit absorb excuses factorOf statusOf
  rw [mappingOf_eq h]
  rcases entryOf blocker with - | ⟨blockerType, mapping⟩
  · simp
  · by_cases hmitigating : mitigating (blockerType, mapping) = true
    · cases hacc : mapping.accountable with
      | false => simp [hacc, hmitigating, mitigate, Option.filter_some]
      | true =>
        have hsome : mapping.mitigation.isSome = true := by simpa [mitigating, hacc] using hmitigating
        simp [hacc, hmitigating, hsome, mitigate, Option.filter_some]
    · have hnone : mapping.accountable = true ∧ mapping.mitigation.isSome = false := by
        simpa [mitigating] using hmitigating
      simp [hnone, hmitigating, Option.filter_some]

theorem hasNonAccountable_foldl (blockers : List JsonDict) (p : Progress) :
    (blockers.foldl absorb p).hasNonAccountable = (p.hasNonAccountable || blockers.any excuses) := by
  induction blockers generalizing p with
  | nil => simp
  | cons b blockers ih => simp [ih, absorb, Bool.or_assoc]

theorem mitigationFactors_foldl (blockers : List JsonDict) (p : Progress) :
    (blockers.foldl absorb p).mitigationFactors =
      p.mitigationFactors ++ blockers.filterMap factorOf := by
  induction blockers generalizing p with
  | nil => simp
  | cons b blockers ih => cases hfactor : factorOf b <;> simp [ih, absorb, hfactor]

theorem adjustedStatus_foldl (blockers : List JsonDict) (p : Progress) :
    (blockers.foldl absorb p).adjustedStatus =
      overwritten (fun b => (statusOf b).map Json.str) p.adjustedStatus blockers := by
  induction blockers using List.reverseRecOn with
  | nil => rfl
  | append_singleton blockers b ih =>
    rw [List.foldl_concat, overwritten_concat, ← ih]
    rfl

section Evaluate
variable (slaStatus : JsonDict) {blockers : List JsonDict} (assumptions : List JsonDict)

theorem evaluate_error (h : ¬ ∀ b ∈ blockers, Hashable b) :
    ∃ e, evaluate slaStatus blockers assumptions = .error e := by
  simp only [not_forall] at h
  obtain ⟨b, hb, hnot⟩ := h
  obtain ⟨e, he⟩ := foldlM_error hb (visit_error hnot)
    { adjustedStatus := dictGet slaStatus "status" (.str "within") }
  exact ⟨e, by simp [evaluate, he]⟩

/-- The provider is accountable unless some blocker excuses him, however the rest of the flags
stand. -/
theorem evaluate_eq (h : ∀ b ∈ blockers, Hashable b) :
    evaluate slaStatus blockers assumptions = .ok {
      accountable := ¬ blockers.any excuses
      mitigationFactors := blockers.filterMap factorOf
      adjustedSlaStatus := overwritten (fun b => (statusOf b).map Json.str)
        (dictGet slaStatus "status" (.str "within")) blockers } := by
  unfold evaluate
  rw [foldlM_eq_ok_foldl fun b hb => visit_eq (h b hb)]
  simp only [ok_bind, pure_eq_ok, hasNonAccountable_foldl, mitigationFactors_foldl,
    adjustedStatus_foldl]
  cases blockers.any excuses <;> simp

/-- What a status is written as. -/
theorem oneStatus_iff : OneStatus blockers ↔
    ∀ s ∈ blockers.filterMap (fun b => (statusOf b).map Json.str),
      ∀ t ∈ blockers.filterMap (fun b => (statusOf b).map Json.str), s = t := by
  have hmap : blockers.filterMap (fun b => (statusOf b).map Json.str) =
      (blockers.filterMap statusOf).map Json.str := by rw [List.map_filterMap]
  rw [hmap]
  simp only [OneStatus, List.forall_mem_map, Json.str.injEq]

/-- With types that can be looked up, the order of the blockers shows in the status only. -/
theorem sameOutcome_iff (h : ∀ b ∈ blockers, Hashable b) {blockers' : List JsonDict}
    (hperm : blockers.Perm blockers') :
    SameOutcome (evaluate slaStatus blockers' assumptions)
        (evaluate slaStatus blockers assumptions) ↔
      overwritten (fun b => (statusOf b).map Json.str)
          (dictGet slaStatus "status" (.str "within")) blockers' =
        overwritten (fun b => (statusOf b).map Json.str)
          (dictGet slaStatus "status" (.str "within")) blockers := by
  have h' : ∀ b ∈ blockers', Hashable b := fun b hb => h b (hperm.mem_iff.mpr hb)
  rw [evaluate_eq slaStatus assumptions h, evaluate_eq slaStatus assumptions h']
  constructor
  · intro hsame
    exact hsame.adjustedSlaStatus
  · intro hstatus
    have hany : blockers'.any excuses = blockers.any excuses := by
      rw [Bool.eq_iff_iff, List.any_eq_true, List.any_eq_true]
      simp only [hperm.mem_iff]
    exact ⟨by simp only [hany], hstatus, (hperm.filterMap factorOf).symm⟩

theorem accountable_iff {a : Assessment} (ha : evaluate slaStatus blockers assumptions = .ok a) :
    a.accountable = false ↔ ∃ b ∈ blockers, excuses b = true := by
  by_cases h : ∀ b ∈ blockers, Hashable b
  · rw [evaluate_eq slaStatus assumptions h] at ha
    obtain rfl := Except.ok.inj ha
    simp
  · obtain ⟨e, he⟩ := evaluate_error slaStatus assumptions h
    rw [he] at ha
    cases ha

/-- The provider is accountable exactly if no blocker excuses him, and the assessment does not
depend on the order of the blockers exactly if all that set a status set the same one. -/
theorem evaluate_order_free_iff (slaStatus : JsonDict) (blockers assumptions : List JsonDict) :
    ((∀ blockers', blockers.Perm blockers' →
        SameOutcome (evaluate slaStatus blockers' assumptions)
          (evaluate slaStatus blockers assumptions)) ∧
      ∀ a, evaluate slaStatus blockers assumptions = .ok a →
        (a.accountable = false ↔ ∃ b ∈ blockers, excuses b = true)) ↔
    ((∀ b ∈ blockers, Hashable b) → OneStatus blockers) := by
  rw [and_iff_left fun a => accountable_iff slaStatus assumptions]
  by_cases h : ∀ b ∈ blockers, Hashable b
  · rw [forall_prop_of_true h, oneStatus_iff, ← overwritten_perm_iff _
      (dictGet slaStatus "status" (.str "within")) blockers]
    exact forall_congr' fun blockers' =>
      forall_congr' fun hperm => sameOutcome_iff slaStatus assumptions h hperm
  · refine iff_of_true ?_ (fun hall => absurd hall h)
    intro blockers' hperm
    have h' : ¬ ∀ b ∈ blockers', Hashable b := by
      intro hall
      exact h fun b hb => hall b (hperm.mem_iff.mp hb)
    obtain ⟨e, he⟩ := evaluate_error slaStatus assumptions h
    obtain ⟨e', he'⟩ := evaluate_error slaStatus assumptions h'
    rw [he, he']
    trivial

end Evaluate

/-- A closed site, and a council that takes its time. -/
def closedSite : List JsonDict :=
  [[("blocker_type", .str "customer_access")], [("blocker_type", .str "third_party_dependency")]]

/-- The clock that one blocker pauses is reported as running when the other one is named last. -/
theorem status_follows_order :
    ¬ ∀ (slaStatus : JsonDict) (blockers blockers' assumptions : List JsonDict),
      blockers.Perm blockers' → SameOutcome (evaluate slaStatus blockers' assumptions)
        (evaluate slaStatus blockers assumptions) := by
  intro h
  have hsame := h [] closedSite closedSite.reverse [] (List.reverse_perm closedSite).symm
  have hstatus : Json.str "paused" = Json.str "mitigated" := hsame.adjustedSlaStatus
  simp at hstatus

end SLAAccountabilityLinker
end ControlFabric.Margin
