import ControlFabric.Margin.Diagnosis
import ControlFabric.Margin.LeakageTotals

/-! How often the value of a work order is at risk because the work is unbilled or cannot be billed:
once for each of three patterns that it meets, for each of its entries. -/
namespace ControlFabric.Margin
open Lib Ingress

namespace MarginLeakageReconciler

/-- The patterns of work that is unbilled or cannot be billed. -/
def unbilledTypes : List String :=
  ["field_completion_not_billed", "variation_work_unbilled", "incomplete_evidence_prevents_billing"]

/-- What identifies a work order, if it can be looked up. -/
def idKey (id : Json) : Option Key :=
  match hash id with
  | .ok key => some key
  | .error _ => none

/-- The trigger puts the value of the work order at risk as unbilled. -/
def Charged (key : Key) (t : LeakageTrigger) : Prop :=
  t.triggerType ∈ unbilledTypes ∧ t.workOrderId.bind idKey = some key

instance (key : Key) : DecidablePred (Charged key) := fun _ => inferInstanceAs (Decidable (_ ∧ _))

/-- The values put at risk for the work order as unbilled. -/
def charged (key : Key) (triggers : List LeakageTrigger) : List ℚ :=
  (triggers.filter fun t => Charged key t).map LeakageTrigger.atRiskValue

section Patterns
variable (contractData : ContractData) (wo : JsonDict)

def Invoiced : Prop :=
  ∃ inv ∈ contractData.invoices,
    idKey (dictGet inv "work_order_id" .null) = idKey (workOrderId wo)

def EvidenceMissing : Prop := ∃ missing, missingEvidence wo = .ok missing ∧ missing ≠ []

def UnbilledVariation : Prop :=
  Json.flag wo "is_variation" ∧ ¬ (dictGet wo "variation_order_ref" .null).truthy

instance : Decidable (Invoiced contractData wo) := List.decidableBEx ..

instance : Decidable (EvidenceMissing wo) :=
  match h : missingEvidence wo with
  | .ok missing => decidable_of_iff (missing ≠ []) (by simp [EvidenceMissing, h])
  | .error _ => isFalse (by simp [EvidenceMissing, h])

instance : Decidable (UnbilledVariation wo) := inferInstanceAs (Decidable (_ ∧ _))

/-- How many of the three patterns the work order meets. -/
def patternsMet : ℕ :=
  (if completed wo ∧ ¬ Invoiced contractData wo then 1 else 0) +
    (if UnbilledVariation wo then 1 else 0) +
    (if completed wo ∧ EvidenceMissing wo then 1 else 0)

end Patterns

/-- The pattern charges the value of the work order so many times, and nothing for another. -/
def Charges (ip : Interpreter) (key : Key) (wo : JsonDict) (n : ℕ) (l l' : Ledger) : Prop :=
  charged key l'.triggers = charged key l.triggers ++
    if idKey (workOrderId wo) = some key then List.replicate n (workOrderValue ip wo) else []

section Charges
variable {ip : Interpreter} {key : Key} {wo : JsonDict} {n m : ℕ} {l l' l'' : Ledger}

theorem Charges.nothing (ip : Interpreter) (key : Key) (wo : JsonDict) (l : Ledger) :
    Charges ip key wo 0 l l := by
  simp [Charges]

theorem Charges.andThen (h : Charges ip key wo n l l') (h' : Charges ip key wo m l' l'') :
    Charges ip key wo (n + m) l l'' := by
  unfold Charges at h h' ⊢
  rw [h', h]
  split
  · rw [List.append_assoc, List.replicate_append_replicate]
  · simp

theorem charged_record (key : Key) (l : Ledger) (t : LeakageTrigger) (atRisk : ℚ)
    (recommendation : String) : charged key (l.record t atRisk recommendation).triggers =
      charged key l.triggers ++ if Charged key t then [t.atRiskValue] else [] := by
  unfold charged Ledger.record
  rw [List.filter_append, List.map_append]
  split <;> simp_all

/-- A pattern of another type charges nothing. -/
theorem charged_pattern {type : String} {pattern : Ledger → Except PyError Ledger}
    (hpattern : Pattern type pattern) (htype : type ∉ unbilledTypes) (h : pattern l = .ok l')
    (key : Key) : charged key l'.triggers = charged key l.triggers := by
  cases hpattern with
  | raises e => cases h
  | nothing =>
    obtain rfl := Except.ok.inj h
    rfl
  | record trigger hrecorded _ _ =>
    obtain rfl := Except.ok.inj h
    have hnot : ¬ Charged key trigger := fun hcharged => htype (hrecorded ▸ hcharged.1)
    rw [charged_record, if_neg hnot, List.append_nil]

theorem Charges.other {type : String} {pattern : Ledger → Except PyError Ledger}
    (hpattern : Pattern type pattern) (htype : type ∉ unbilledTypes) (h : pattern l = .ok l') :
    Charges ip key wo 0 l l' := by
  simp [Charges, charged_pattern hpattern htype h]

/-- A trigger for the work order. -/
theorem Charges.once {t : LeakageTrigger} (ht : t.triggerType ∈ unbilledTypes)
    (hid : t.workOrderId = some (workOrderId wo)) (hvalue : t.atRiskValue = workOrderValue ip wo)
    (atRisk : ℚ) (recommendation : String) :
    Charges ip key wo 1 l (l.record t atRisk recommendation) := by
  unfold Charges
  rw [charged_record, hvalue]
  simp [Charged, ht, hid]

/-! ### The patterns -/

variable {contractData : ContractData} {invoiced : List Key}

theorem idKey_eq_some {v : Json} : idKey v = some key ↔ hash v = .ok key := by
  unfold idKey
  cases hash v <;> simp

theorem charges_fieldCompletionNotBilled
    (hinvoiced : contractData.invoices.mapM (fun inv => hash (dictGet inv "work_order_id" .null)) =
      .ok invoiced)
    (h : fieldCompletionNotBilled ip invoiced wo l = .ok l') :
    Charges ip key wo (if completed wo ∧ ¬ Invoiced contractData wo then 1 else 0) l l' := by
  unfold fieldCompletionNotBilled at h
  by_cases hcompleted : completed wo = true
  · rw [if_pos hcompleted] at h
    obtain ⟨id, hid, h⟩ := bind_eq_ok_iff.mp h
    have hmem : id ∈ invoiced ↔ Invoiced contractData wo := by
      unfold Invoiced
      rw [idKey_eq_some.mpr hid]
      simp only [idKey_eq_some]
      constructor
      · exact mem_mapM hinvoiced
      · rintro ⟨inv, hinv, hkey⟩
        obtain ⟨id', hid', hkey'⟩ := returns_of_mapM hinvoiced hinv
        rwa [Except.ok.inj (hkey.symm.trans hkey')]
    by_cases hin : id ∈ invoiced
    · rw [if_pos hin] at h
      obtain rfl := Except.ok.inj h
      rw [if_neg fun hboth => hboth.2 (hmem.mp hin)]
      exact .nothing ip key wo l
    · rw [if_neg hin] at h
      obtain rfl := Except.ok.inj h
      rw [if_pos ⟨hcompleted, fun hinv => hin (hmem.mpr hinv)⟩]
      exact .once (by simp [unbilledTypes]) rfl rfl _ _
  · rw [if_neg hcompleted] at h
    obtain rfl := Except.ok.inj h
    rw [if_neg fun hboth => hcompleted hboth.1]
    exact .nothing ip key wo l

theorem charges_variationWorkUnbilled (ip : Interpreter) (key : Key) (wo : JsonDict) (l : Ledger) :
    Charges ip key wo (if UnbilledVariation wo then 1 else 0) l (variationWorkUnbilled ip wo l) := by
  unfold variationWorkUnbilled
  by_cases h : UnbilledVariation wo
  · rw [if_pos h]
    unfold UnbilledVariation at h
    rw [if_pos h]
    exact .once (by simp [unbilledTypes]) rfl rfl _ _
  · rw [if_neg h]
    unfold UnbilledVariation at h
    rw [if_neg h]
    exact .nothing ip key wo l

theorem charges_incompleteEvidencePreventsBilling
    (h : incompleteEvidencePreventsBilling ip wo l = .ok l') :
    Charges ip key wo (if completed wo ∧ EvidenceMissing wo then 1 else 0) l l' := by
  unfold incompleteEvidencePreventsBilling at h
  obtain ⟨missing, hmissing, h⟩ := bind_eq_ok_iff.mp h
  have hiff : EvidenceMissing wo ↔ missing ≠ [] := by
    simp [EvidenceMissing, hmissing]
  by_cases hnone : missing.isEmpty ∨ ¬ completed wo
  · rw [if_pos hnone] at h
    obtain rfl := Except.ok.inj h
    have hnot : ¬ (completed wo ∧ EvidenceMissing wo) := by
      rw [hiff]
      rintro ⟨hcompleted, hsome⟩
      rcases hnone with hempty | hopen
      · exact hsome (List.isEmpty_iff.mp hempty)
      · exact hopen hcompleted
    rw [if_neg hnot]
    exact .nothing ip key wo l
  · rw [if_neg hnone] at h
    obtain ⟨names, -, h⟩ := bind_eq_ok_iff.mp h
    obtain rfl := Except.ok.inj h
    have hboth : completed wo ∧ EvidenceMissing wo := by
      rw [hiff]
      simpa [and_comm] using hnone
    rw [if_pos hboth]
    exact .once (by simp [unbilledTypes]) rfl rfl _ _

theorem charges_visit {rates : Dict String JsonDict}
    (hinvoiced : contractData.invoices.mapM (fun inv => hash (dictGet inv "work_order_id" .null)) =
      .ok invoiced)
    (h : visit ip invoiced rates wo l = .ok l') :
    Charges ip key wo (patternsMet contractData wo) l l' := by
  unfold visit at h
  obtain ⟨l₁, h₁, h⟩ := bind_eq_ok_iff.mp h
  obtain ⟨l₂, h₂, h⟩ := bind_eq_ok_iff.mp h
  have hbilled : Charges ip key wo _ _ _ := charges_fieldCompletionNotBilled hinvoiced h₁
  have habortive (l : Ledger) : Charges ip key wo 0 l (abortiveVisitNotClaimed ip wo l) :=
    .other (pattern_abortiveVisitNotClaimed ip wo) (by simp [unbilledTypes]) rfl
  have hemergency (l : Ledger) : Charges ip key wo 0 l (emergencyBilledAtBaseRate ip rates wo l) :=
    .other (pattern_emergencyBilledAtBaseRate ip rates wo) (by simp [unbilledTypes]) rfl
  have hrework : Charges ip key wo 0 _ l₂ :=
    .other (pattern_reattendanceIncorrectlyBilled ip wo) (by simp [unbilledTypes]) h₂
  have hpermit (l : Ledger) : Charges ip key wo 0 l (permitCostNotRecovered ip wo l) :=
    .other (pattern_permitCostNotRecovered ip wo) (by simp [unbilledTypes]) rfl
  have hescalation (l : Ledger) : Charges ip key wo 0 l (rateEscalationNotApplied ip wo l) :=
    .other (pattern_rateEscalationNotApplied ip wo) (by simp [unbilledTypes]) rfl
  have hfirst := ((hbilled.andThen (habortive _)).andThen (hemergency _)).andThen hrework
  have hsecond := (hfirst.andThen (hpermit _)).andThen (hescalation _)
  exact (hsecond.andThen (charges_variationWorkUnbilled ip key wo _)).andThen
    (charges_incompleteEvidencePreventsBilling h)

end Charges

/-! ### The runs -/

/-- The values that the entries of the work order put at risk, each once for each pattern. -/
def entriesCharged (ip : Interpreter) (contractData : ContractData) (workOrders : List JsonDict)
    (key : Key) : List ℚ :=
  (workOrders.filter fun wo => idKey (workOrderId wo) = some key).flatMap fun wo =>
    List.replicate (patternsMet contractData wo) (workOrderValue ip wo)

section Runs
variable {ip : Interpreter} {contractData : ContractData} {workOrders slaBreaches : List JsonDict}
  {invoiced : List Key} {rates : Dict String JsonDict} {l l' : Ledger} {key : Key}

theorem charged_visits
    (hinvoiced : contractData.invoices.mapM (fun inv => hash (dictGet inv "work_order_id" .null)) =
      .ok invoiced)
    (h : workOrders.foldlM (fun l wo => visit ip invoiced rates wo l) l = .ok l') :
    charged key l'.triggers =
      charged key l.triggers ++ entriesCharged ip contractData workOrders key := by
  induction workOrders generalizing l with
  | nil =>
    obtain rfl := Except.ok.inj h
    simp [entriesCharged]
  | cons wo workOrders ih =>
    rw [List.foldlM_cons] at h
    obtain ⟨l₁, h₁, h⟩ := bind_eq_ok_iff.mp h
    have hone : Charges ip key wo (patternsMet contractData wo) l l₁ := charges_visit hinvoiced h₁
    unfold Charges at hone
    rw [ih h, hone, List.append_assoc]
    congr 1
    unfold entriesCharged
    by_cases hkey : idKey (workOrderId wo) = some key
    · simp [hkey]
    · simp [hkey]

theorem charged_credits (key : Key) (l : Ledger) :
    charged key (slaBreaches.foldl (fun l breach => slaCreditNotDeducted ip breach l) l).triggers =
      charged key l.triggers := by
  induction slaBreaches generalizing l with
  | nil => rfl
  | cons breach slaBreaches ih =>
    rw [List.foldl_cons, ih]
    exact charged_pattern (pattern_slaCreditNotDeducted ip breach) (by simp [unbilledTypes]) rfl key

theorem charged_duplicates {groups : List (String × List Json)}
    (h : groups.foldlM (fun l p => duplicateClaimRisk p.2 l) l = .ok l') :
    charged key l'.triggers = charged key l.triggers := by
  induction groups generalizing l with
  | nil =>
    obtain rfl := Except.ok.inj h
    rfl
  | cons p groups ih =>
    rw [List.foldlM_cons] at h
    obtain ⟨l₁, h₁, h⟩ := bind_eq_ok_iff.mp h
    rw [ih h]
    exact charged_pattern (pattern_duplicateClaimRisk p.2) (by simp [unbilledTypes]) h₁ key

theorem charged_reconcile {r : Leakage}
    (h : reconcile ip contractData workOrders slaBreaches = .ok r) (key : Key) :
    charged key r.leakageTriggers = entriesCharged ip contractData workOrders key := by
  unfold reconcile at h
  obtain ⟨invoiced, hinvoiced, h⟩ := bind_eq_ok_iff.mp h
  obtain ⟨visited, hvisited, h⟩ := bind_eq_ok_iff.mp h
  obtain ⟨done, hdone, h⟩ := bind_eq_ok_iff.mp h
  obtain rfl := Except.ok.inj h
  show charged key done.triggers = _
  rw [charged_duplicates hdone, charged_credits, charged_visits hinvoiced hvisited]
  rfl

end Runs
end MarginLeakageReconciler

open MarginLeakageReconciler

/-- Both reconcilers put the value of a work order at risk once for each of the three patterns that
it meets, for each of its entries; the diagnosis has those of the work orders and of the history. -/
theorem charged_per_pattern (ip : Interpreter) :
    (∀ contractData workOrders slaBreaches r,
      MarginLeakageReconciler.reconcile ip contractData workOrders slaBreaches = .ok r →
      ∀ key, charged key r.leakageTriggers = entriesCharged ip contractData workOrders key) ∧
    ∀ input d, MarginDiagnosisReconciler.reconcile ip input = .ok d →
      ∀ key, charged key d.leakagePatterns =
        entriesCharged ip (MarginDiagnosisReconciler.buildContractData ip input.contractObjects)
          (input.workOrders ++ input.workHistory) key := by
  constructor
  · intro contractData workOrders slaBreaches r h key
    exact charged_reconcile h key
  · intro input d h key
    obtain ⟨s, rfl⟩ := MarginDiagnosisReconciler.reconcile_eq_ok_iff.mp h
    exact charged_reconcile s.leakage_eq key

/-- Completed work, neither invoiced nor covered by a variation order. -/
def uncovered : JsonDict :=
  [("work_order_id", .str "WO-1"), ("status", .str "completed"), ("is_variation", .bool true),
    ("value", .int 100)]

/-- The history repeats the entry of a work order. -/
def repeated : MarginDiagnosisReconciler.Input where
  workOrders := [[("work_order_id", .str "WO-1"), ("status", .str "completed")]]
  workHistory := [[("work_order_id", .str "WO-1"), ("status", .str "completed")]]

theorem charged_per_pattern_uncovered : ∃ r,
    MarginLeakageReconciler.reconcile .ascii {} [uncovered] [] = .ok r ∧
      charged (.text "WO-1") r.leakageTriggers =
        entriesCharged .ascii {} [uncovered] (.text "WO-1") := by
  obtain ⟨r, hr⟩ := returns_of_isOk
    (x := MarginLeakageReconciler.reconcile .ascii {} [uncovered] []) (by decide +kernel)
  exact ⟨r, hr, (charged_per_pattern .ascii).1 {} [uncovered] [] r hr (.text "WO-1")⟩

/-- The value of a work order is counted twice for two patterns, and for two entries. -/
theorem charged_twice :
    (¬ ∀ ip contractData workOrders slaBreaches r,
      MarginLeakageReconciler.reconcile ip contractData workOrders slaBreaches = .ok r →
      ∀ key, (charged key r.leakageTriggers).length ≤ 1) ∧
    ¬ ∀ ip input d, MarginDiagnosisReconciler.reconcile ip input = .ok d →
      ∀ key, (charged key d.leakagePatterns).length ≤ 1 := by
  constructor
  · intro h
    obtain ⟨r, hr⟩ := returns_of_isOk
      (x := MarginLeakageReconciler.reconcile .ascii {} [uncovered] []) (by decide +kernel)
    have hone := h .ascii {} [uncovered] [] r hr (.text "WO-1")
    rw [charged_reconcile hr] at hone
    exact absurd hone (by decide +kernel)
  · intro h
    obtain ⟨d, hd⟩ := returns_of_isOk
      (x := MarginDiagnosisReconciler.reconcile .ascii repeated) (by decide +kernel)
    have hone := h .ascii repeated d hd (.text "WO-1")
    obtain ⟨s, rfl⟩ := MarginDiagnosisReconciler.reconcile_eq_ok_iff.mp hd
    rw [MarginDiagnosisReconciler.Steps.diagnosis, charged_reconcile s.leakage_eq] at hone
    exact absurd hone (by decide +kernel)

end ControlFabric.Margin
