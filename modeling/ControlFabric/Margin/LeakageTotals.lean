import ControlFabric.Margin.Leakage

/-! The accounts of the leakage patterns. Each pattern appends to the ledger what does not depend on
it, and records value, trigger and recommendation together; so the totals are those of the triggers,
and the order of the records does not matter. -/
namespace ControlFabric.Margin
open Lib Ingress

namespace MarginLeakageReconciler

namespace Ledger

/-- The entries of one ledger after those of the other. -/
def append (l l' : Ledger) : Ledger where
  triggers := l.triggers ++ l'.triggers
  totalAtRisk := l.totalAtRisk + l'.totalAtRisk
  recommendations := l.recommendations ++ l'.recommendations

/-- The total is that of the triggers, and there is a recommendation for each. -/
structure Accounted (l : Ledger) : Prop where
  total : l.totalAtRisk = (l.triggers.map LeakageTrigger.atRiskValue).sum
  recommended : l.recommendations.length = l.triggers.length

@[simp] theorem append_empty (l : Ledger) : l.append {} = l := by simp [append]

@[simp] theorem empty_append (l : Ledger) : append {} l = l := by simp [append]

theorem append_assoc (l l' l'' : Ledger) : (l.append l').append l'' = l.append (l'.append l'') := by
  simp [append, add_assoc]

theorem accounted_empty : Accounted {} := by constructor <;> simp

theorem Accounted.append {l l' : Ledger} (h : l.Accounted) (h' : l'.Accounted) :
    (l.append l').Accounted := by
  constructor
  · simp [Ledger.append, h.total, h'.total]
  · simp [Ledger.append, h.recommended, h'.recommended]

end Ledger

/-- A step that appends what does not depend on the ledger, and keeps the accounts. -/
structure Books (pattern : Ledger → Except PyError Ledger) : Prop where
  appends : ∀ l, pattern l = l.append <$> pattern {}
  accounted : ∀ l, pattern {} = .ok l → l.Accounted

namespace Books
variable {pattern pattern' : Ledger → Except PyError Ledger}

theorem andThen (h : Books pattern) (h' : Books pattern') :
    Books fun l => pattern l >>= pattern' := by
  constructor
  · intro l
    show (pattern l >>= pattern') = l.append <$> (pattern {} >>= pattern')
    rw [h.appends l]
    cases hp : pattern {} with
    | error e => rfl
    | ok l₁ =>
      simp only [map_ok, ok_bind]
      rw [h'.appends (l.append l₁), h'.appends l₁]
      cases pattern' {} with
      | error e => rfl
      | ok l₂ => simp [Ledger.append_assoc]
  · intro l hl
    obtain ⟨l₁, hl₁, hl⟩ := bind_eq_ok_iff.mp hl
    rw [h'.appends l₁] at hl
    obtain ⟨l₂, hl₂, rfl⟩ := map_eq_ok_iff.mp hl
    exact (h.accounted l₁ hl₁).append (h'.accounted l₂ hl₂)

end Books

/-- A pattern raises, leaves the ledger as it is, or records one trigger of its type, whatever the
ledger. -/
inductive Pattern (type : String) : (Ledger → Except PyError Ledger) → Prop
  | raises (e : PyError) : Pattern type fun _ => .error e
  | nothing : Pattern type .ok
  | record (trigger : LeakageTrigger) {atRisk : ℚ} (htype : trigger.triggerType = type)
      (hvalue : trigger.atRiskValue = atRisk) (recommendation : String) :
      Pattern type fun l => .ok (l.record trigger atRisk recommendation)

namespace Pattern
variable {type : String} {pattern pattern' : Ledger → Except PyError Ledger}

theorem books (h : Pattern type pattern) : Books pattern := by
  cases h with
  | raises e => exact ⟨fun _ => rfl, fun _ h => by cases h⟩
  | nothing =>
    constructor
    · intro l
      simp
    · intro l hl
      obtain rfl := Except.ok.inj hl
      exact Ledger.accounted_empty
  | record _ _ hvalue recommendation =>
    constructor
    · intro l
      simp [Ledger.record, Ledger.append]
    · intro l hl
      obtain rfl := Except.ok.inj hl
      constructor <;> simp [Ledger.record, hvalue]

/-- A pattern that first looks something up. -/
theorem given {α : Type} (x : Except PyError α) {pattern : α → Ledger → Except PyError Ledger}
    (h : ∀ a, Pattern type (pattern a)) : Pattern type fun l => x >>= fun a => pattern a l := by
  cases x with
  | error e => exact raises e
  | ok a => exact h a

theorem ite {p : Prop} [Decidable p] (h : Pattern type pattern) (h' : Pattern type pattern') :
    Pattern type fun l => if p then pattern l else pattern' l := by
  by_cases hp : p
  · simpa [hp] using h
  · simpa [hp] using h'

end Pattern

section Patterns
variable (ip : Interpreter)

theorem pattern_fieldCompletionNotBilled (invoiced : List Key) (wo : JsonDict) :
    Pattern "field_completion_not_billed" (fieldCompletionNotBilled ip invoiced wo) :=
  .ite (.given _ fun _ => .ite .nothing (.record _ (by rfl) (by rfl) _)) .nothing

theorem pattern_abortiveVisitNotClaimed (wo : JsonDict) :
    Pattern "abortive_visit_not_claimed" fun l => .ok (abortiveVisitNotClaimed ip wo l) := by
  unfold abortiveVisitNotClaimed
  split
  · exact .record _ (by rfl) (by rfl) _
  · exact .nothing

theorem pattern_emergencyBilledAtBaseRate (rates : Dict String JsonDict) (wo : JsonDict) :
    Pattern "emergency_billed_at_base_rate" fun l =>
      .ok (emergencyBilledAtBaseRate ip rates wo l) := by
  unfold emergencyBilledAtBaseRate
  dsimp only
  split
  · split
    · exact .record _ (by rfl) (by rfl) _
    · exact .nothing
  · exact .nothing

theorem pattern_reattendanceIncorrectlyBilled (wo : JsonDict) :
    Pattern "reattendance_incorrectly_billed" (reattendanceIncorrectlyBilled ip wo) := by
  unfold reattendanceIncorrectlyBilled
  split
  · exact .ite (.record _ (by rfl) (by rfl) _) .nothing
  · exact .raises _

theorem pattern_permitCostNotRecovered (wo : JsonDict) :
    Pattern "permit_cost_not_recovered" fun l => .ok (permitCostNotRecovered ip wo l) := by
  unfold permitCostNotRecovered
  dsimp only
  split
  · exact .record _ (by rfl) (by rfl) _
  · exact .nothing

theorem pattern_rateEscalationNotApplied (wo : JsonDict) :
    Pattern "rate_escalation_not_applied" fun l => .ok (rateEscalationNotApplied ip wo l) := by
  unfold rateEscalationNotApplied
  dsimp only
  split
  · split
    · exact .record _ (by rfl) (by rfl) _
    · exact .nothing
  · exact .nothing

theorem pattern_variationWorkUnbilled (wo : JsonDict) :
    Pattern "variation_work_unbilled" fun l => .ok (variationWorkUnbilled ip wo l) := by
  unfold variationWorkUnbilled
  split
  · exact .record _ (by rfl) (by rfl) _
  · exact .nothing

theorem pattern_incompleteEvidencePreventsBilling (wo : JsonDict) :
    Pattern "incomplete_evidence_prevents_billing" (incompleteEvidencePreventsBilling ip wo) :=
  .given _ fun _ => .ite .nothing (.given _ fun _ => .record _ (by rfl) (by rfl) _)

theorem books_visit (invoiced : List Key) (rates : Dict String JsonDict) (wo : JsonDict) :
    Books (visit ip invoiced rates wo) :=
  (pattern_fieldCompletionNotBilled ip invoiced wo).books.andThen <|
    (pattern_abortiveVisitNotClaimed ip wo).books.andThen <|
    (pattern_emergencyBilledAtBaseRate ip rates wo).books.andThen <|
    (pattern_reattendanceIncorrectlyBilled ip wo).books.andThen <|
    (pattern_permitCostNotRecovered ip wo).books.andThen <|
    (pattern_rateEscalationNotApplied ip wo).books.andThen <|
    (pattern_variationWorkUnbilled ip wo).books.andThen <|
    (pattern_incompleteEvidencePreventsBilling ip wo).books

theorem pattern_slaCreditNotDeducted (breach : JsonDict) :
    Pattern "sla_credit_not_deducted" fun l => .ok (slaCreditNotDeducted ip breach l) := by
  unfold slaCreditNotDeducted
  split
  · exact .nothing
  · exact .record _ (by rfl) (by rfl) _

theorem pattern_duplicateClaimRisk (woIds : List Json) :
    Pattern "duplicate_claim_risk" (duplicateClaimRisk woIds) := by
  refine .ite .nothing (.given _ fun names => ?_)
  have hvalue : (duplicateTrigger woIds names).atRiskValue = 0 := rfl
  have hrecord : Pattern "duplicate_claim_risk" _ :=
    .record _ rfl hvalue s!"Review potential duplicate: {names}"
  simpa [Ledger.record] using hrecord

end Patterns

/-! ### The loops -/

/-- The entries of the ledgers, one after the other. -/
def collect (ledgers : List Ledger) : Ledger where
  triggers := ledgers.flatMap Ledger.triggers
  totalAtRisk := (ledgers.map Ledger.totalAtRisk).sum
  recommendations := ledgers.flatMap Ledger.recommendations

theorem foldl_append (ledgers : List Ledger) (l : Ledger) :
    ledgers.foldl Ledger.append l = l.append (collect ledgers) := by
  induction ledgers generalizing l with
  | nil => simp [collect, Ledger.append]
  | cons l' ledgers ih =>
    rw [List.foldl_cons, ih, Ledger.append_assoc]
    simp [collect, Ledger.append]

theorem accounted_collect {ledgers : List Ledger} (h : ∀ l ∈ ledgers, l.Accounted) :
    (collect ledgers).Accounted := by
  induction ledgers with
  | nil => exact Ledger.accounted_empty
  | cons l ledgers ih =>
    have hrest := ih fun l' hl' => h l' (List.mem_cons_of_mem _ hl')
    exact (h l List.mem_cons_self).append hrest

/-- A loop of patterns appends what each records in an empty ledger. -/
theorem foldlM_books {α : Type} {pattern : α → Ledger → Except PyError Ledger}
    (h : ∀ a, Books (pattern a)) (items : List α) (l : Ledger) :
    items.foldlM (fun l a => pattern a l) l =
      (fun ledgers => l.append (collect ledgers)) <$> items.mapM fun a => pattern a {} := by
  rw [foldlM_eq_map_mapM fun l a => (h a).appends l]
  simp only [foldl_append]

/-- The ledgers of the single records, of which the result consists. -/
structure Parts (ip : Interpreter) (contractData : ContractData)
    (workOrders slaBreaches : List JsonDict) where
  invoiced : List Key
  visits : List Ledger
  duplicates : List Ledger
  invoiced_eq : contractData.invoices.mapM (fun inv => hash (dictGet inv "work_order_id" .null)) =
    .ok invoiced
  visits_eq : workOrders.mapM (fun wo => visit ip invoiced (rateMap ip contractData.rateCard) wo {}) =
    .ok visits
  duplicates_eq : (activityWoMap ip workOrders).entries.mapM
    (fun p => duplicateClaimRisk p.2 {}) = .ok duplicates

section Reconcile
variable {ip : Interpreter} {contractData : ContractData} {workOrders slaBreaches : List JsonDict}

/-- All ledgers in their order. -/
def Parts.ledgers (parts : Parts ip contractData workOrders slaBreaches) : List Ledger :=
  parts.visits ++ slaBreaches.map (fun breach => slaCreditNotDeducted ip breach {}) ++
    parts.duplicates

def Ledger.close (l : Ledger) : Leakage :=
  ⟨l.triggers, Py.roundDigits l.totalAtRisk 2, l.recommendations⟩

theorem collect_append (ledgers ledgers' : List Ledger) :
    collect (ledgers ++ ledgers') = (collect ledgers).append (collect ledgers') := by
  simp [collect, Ledger.append]

theorem foldl_slaCreditNotDeducted (l : Ledger) :
    slaBreaches.foldl (fun l breach => slaCreditNotDeducted ip breach l) l =
      l.append (collect (slaBreaches.map fun breach => slaCreditNotDeducted ip breach {})) := by
  have hone : ∀ breach l', slaCreditNotDeducted ip breach l' =
      l'.append (slaCreditNotDeducted ip breach {}) := fun breach l' =>
    Except.ok.inj ((pattern_slaCreditNotDeducted ip breach).books.appends l')
  rw [← foldl_append, List.foldl_map]
  congr 1
  funext l' breach
  exact hone breach l'

theorem reconcile_eq_ok_iff {r : Leakage} : reconcile ip contractData workOrders slaBreaches = .ok r ↔
    ∃ parts : Parts ip contractData workOrders slaBreaches, r = (collect parts.ledgers).close := by
  unfold reconcile
  simp only [bind_eq_ok_iff, pure_eq_ok, Except.ok.injEq, foldl_slaCreditNotDeducted,
    foldlM_books (books_visit ip _ _), foldlM_books fun p : String × List Json =>
      (pattern_duplicateClaimRisk p.2).books, map_eq_ok_iff]
  constructor
  · rintro ⟨invoiced, hinvoiced, _, ⟨visits, hvisits, rfl⟩, _, ⟨duplicates, hduplicates, rfl⟩, rfl⟩
    refine ⟨⟨invoiced, visits, duplicates, hinvoiced, hvisits, hduplicates⟩, ?_⟩
    simp [Parts.ledgers, collect_append, Ledger.append_assoc, Ledger.close]
  · rintro ⟨⟨invoiced, visits, duplicates, hinvoiced, hvisits, hduplicates⟩, rfl⟩
    refine ⟨invoiced, hinvoiced, _, ⟨visits, hvisits, rfl⟩, _, ⟨duplicates, hduplicates, rfl⟩, ?_⟩
    simp [Parts.ledgers, collect_append, Ledger.append_assoc, Ledger.close]

/-- The totals are those of the triggers. -/
theorem Parts.accounted (parts : Parts ip contractData workOrders slaBreaches) :
    (collect parts.ledgers).Accounted := by
  apply accounted_collect
  intro l hl
  rcases List.mem_append.mp hl with hl | hl
  · rcases List.mem_append.mp hl with hl | hl
    · obtain ⟨wo, -, hwo⟩ := mem_mapM parts.visits_eq hl
      exact (books_visit ip _ _ wo).accounted l hwo
    · obtain ⟨breach, -, rfl⟩ := List.mem_map.mp hl
      exact (pattern_slaCreditNotDeducted ip breach).books.accounted _ rfl
  · obtain ⟨p, -, hp⟩ := mem_mapM parts.duplicates_eq hl
    exact (pattern_duplicateClaimRisk p.2).books.accounted l hp

end Reconcile

/-! ### The order of the records -/

/-- The same trigger, but for the order of the work orders of a duplicate claim, in which their ids
are listed. -/
inductive SameTrigger : LeakageTrigger → LeakageTrigger → Prop
  | same (t : LeakageTrigger) : SameTrigger t t
  | duplicate {woIds woIds' : List Json} {names names' : String} : woIds.Perm woIds' →
      joinTexts woIds = .ok names → joinTexts woIds' = .ok names' →
      SameTrigger (duplicateTrigger woIds names) (duplicateTrigger woIds' names')

/-- The same triggers as a multiset, up to the order of the ids in those of duplicate claims. -/
def SameTriggers (ts ts' : List LeakageTrigger) : Prop :=
  ∃ m, ts.Perm m ∧ List.Forall₂ SameTrigger m ts'

/-- What two ledgers have in common that differ in such an order only. -/
structure SameEntries (l l' : Ledger) : Prop where
  total : l.totalAtRisk = l'.totalAtRisk
  triggers : SameTriggers l.triggers l'.triggers

theorem SameTriggers.append {ts ts' us us' : List LeakageTrigger} (h : SameTriggers ts ts')
    (h' : SameTriggers us us') : SameTriggers (ts ++ us) (ts' ++ us') := by
  obtain ⟨m, hperm, hall⟩ := h
  obtain ⟨m', hperm', hall'⟩ := h'
  exact ⟨m ++ m', hperm.append hperm', List.rel_append hall hall'⟩

theorem SameEntries.append {l l' k k' : Ledger} (h : SameEntries l l') (h' : SameEntries k k') :
    SameEntries (l.append k) (l'.append k') := by
  constructor
  · simp [Ledger.append, h.total, h'.total]
  · exact h.triggers.append h'.triggers

theorem SameEntries.refl (l : Ledger) : SameEntries l l :=
  ⟨rfl, l.triggers, .refl _, List.forall₂_same.mpr fun t _ => .same t⟩

theorem sameEntries_of_forall₂ {ledgers ledgers' : List Ledger}
    (h : List.Forall₂ SameEntries ledgers ledgers') :
    SameEntries (collect ledgers) (collect ledgers') := by
  induction h with
  | nil => exact .refl _
  | cons hl _ ih => exact hl.append ih

/-- Ledgers collected in another order, each with the same entries. -/
theorem sameEntries_of_perm {ledgers m ledgers' : List Ledger} (hperm : ledgers.Perm m)
    (h : List.Forall₂ SameEntries m ledgers') :
    SameEntries (collect ledgers) (collect ledgers') := by
  obtain ⟨htotal, ts, hts, hall⟩ := sameEntries_of_forall₂ h
  constructor
  · exact ((hperm.map Ledger.totalAtRisk).sum_eq).trans htotal
  · exact ⟨ts, (hperm.flatMap_right Ledger.triggers).trans hts, hall⟩

theorem joinTexts_ok_iff {items : List Json} :
    (∃ names, joinTexts items = .ok names) ↔ ∀ v ∈ items, (str? v).isSome := by
  have hmapM : (items.mapM str?).isSome ↔ ∀ v ∈ items, (str? v).isSome := by
    induction items with
    | nil => simp
    | cons v items ih =>
      rw [List.mapM_cons, List.forall_mem_cons, ← ih]
      cases str? v <;> cases items.mapM str? <;> simp
  rw [← hmapM]
  unfold joinTexts
  cases items.mapM str? <;> simp

theorem duplicateClaimRisk_perm {woIds woIds' : List Json} {l : Ledger} (h : woIds.Perm woIds')
    (hl : duplicateClaimRisk woIds {} = .ok l) :
    ∃ l', duplicateClaimRisk woIds' {} = .ok l' ∧ SameEntries l l' := by
  unfold duplicateClaimRisk at hl ⊢
  rw [← h.length_eq]
  by_cases hone : woIds.length ≤ 1
  · rw [if_pos hone] at hl ⊢
    obtain rfl := Except.ok.inj hl
    exact ⟨{}, rfl, .refl _⟩
  · rw [if_neg hone] at hl ⊢
    obtain ⟨names, hnames, hl⟩ := bind_eq_ok_iff.mp hl
    obtain rfl := Except.ok.inj hl
    obtain ⟨names', hnames'⟩ : ∃ names', joinTexts woIds' = .ok names' := by
      apply joinTexts_ok_iff.mpr
      intro v hv
      exact joinTexts_ok_iff.mp ⟨names, hnames⟩ v (h.mem_iff.mpr hv)
    rw [hnames']
    exact ⟨_, rfl, rfl, _, .refl _, .cons (.duplicate h hnames hnames') .nil⟩

section Order
variable {ip : Interpreter} {contractData : ContractData}
  {invoices' workOrders workOrders' slaBreaches slaBreaches' : List JsonDict}

/-- Only what is in the set of invoiced work orders matters. -/
theorem visit_perm {invoiced invoiced' : List Key} (h : invoiced.Perm invoiced') :
    visit ip invoiced = visit ip invoiced' := by
  unfold visit fieldCompletionNotBilled
  simp only [h.mem_iff]

/-- From permuted records come permuted parts. -/
theorem Parts.of_perm (parts : Parts ip contractData workOrders slaBreaches)
    (hinvoices : contractData.invoices.Perm invoices') (hworkOrders : workOrders.Perm workOrders')
    (hbreaches : slaBreaches.Perm slaBreaches') :
    ∃ parts' : Parts ip { contractData with invoices := invoices' } workOrders' slaBreaches',
      SameEntries (collect parts.ledgers) (collect parts'.ledgers) := by
  obtain ⟨invoiced', hinvoiced', hset⟩ := mapM_of_perm hinvoices parts.invoiced_eq
  obtain ⟨visits', hvisits', hvisited⟩ := mapM_of_perm hworkOrders parts.visits_eq
  obtain ⟨m, hm, hall⟩ := keyedGroups_perm (activityKey ip) workOrderId hworkOrders
  obtain ⟨permuted, hpermuted, hduplicates⟩ := mapM_of_perm hm parts.duplicates_eq
  obtain ⟨duplicates', hduplicates', hsame⟩ := mapM_of_forall₂ (S := SameEntries)
    (fun p p' l hp hl => duplicateClaimRisk_perm hp.2 hl) hall hpermuted
  refine ⟨⟨invoiced', visits', duplicates', hinvoiced', ?_, hduplicates'⟩, ?_⟩
  · rwa [visit_perm hset] at hvisits'
  · have hcredits := hbreaches.map fun breach => slaCreditNotDeducted ip breach {}
    unfold Parts.ledgers
    rw [collect_append _ parts.duplicates, collect_append _ duplicates']
    have hfirst := sameEntries_of_perm (hvisited.append hcredits)
      (List.forall₂_same.mpr fun l _ => SameEntries.refl l)
    exact hfirst.append (sameEntries_of_perm hduplicates hsame)

end Order

/-! ### Records that are read without errors -/

/-- The ids are texts, what is read as a dict is one, and the types of evidence are texts in
lists. -/
structure Shaped (wo : JsonDict) : Prop where
  id : ∃ s, workOrderId wo = .str s
  reattendance : ∃ info, dictGet wo "reattendance_info" (.obj []) = .obj info
  required : ∃ types : List String,
    dictGet wo "required_evidence_types" (.arr []) = .arr (types.map Json.str)
  evidence : ∃ items : List JsonDict,
    dictGet wo "completion_evidence" (.arr []) = .arr (items.map Json.obj) ∧
      ∀ e ∈ items, ∃ s, dictGet e "evidence_type" (.str "") = .str s

theorem joinSorted_returns {keys : List Key} (h : ∀ key ∈ keys, ∃ s, key = .text s) :
    ∃ names, joinSorted keys = .ok names := by
  have htexts : ∃ texts, keys.mapM Key.text? = some texts := by
    induction keys with
    | nil => exact ⟨[], rfl⟩
    | cons key keys ih =>
      obtain ⟨s, rfl⟩ := h key List.mem_cons_self
      obtain ⟨texts, htexts⟩ := ih fun k hk => h k (List.mem_cons_of_mem _ hk)
      exact ⟨s :: texts, by simp [List.mapM_cons, htexts, Key.text?]⟩
  obtain ⟨texts, htexts⟩ := htexts
  exact ⟨", ".intercalate (Py.sorted texts), by rw [joinSorted, htexts]⟩

/-- The body returns, whatever the ledger. -/
def Returns (pattern : Ledger → Except PyError Ledger) : Prop := ∀ l, ∃ l', pattern l = .ok l'

namespace Shaped
variable {wo : JsonDict} (h : Shaped wo) (ip : Interpreter)
include h

theorem fieldCompletionNotBilled (invoiced : List Key) :
    Returns (fieldCompletionNotBilled ip invoiced wo) := by
  intro l
  obtain ⟨s, hs⟩ := h.id
  unfold MarginLeakageReconciler.fieldCompletionNotBilled
  rw [hs]
  simp only [hash, ok_bind]
  split
  · split <;> exact ⟨_, rfl⟩
  · exact ⟨l, rfl⟩

theorem reattendanceIncorrectlyBilled : Returns (reattendanceIncorrectlyBilled ip wo) := by
  intro l
  obtain ⟨info, hinfo⟩ := h.reattendance
  unfold MarginLeakageReconciler.reattendanceIncorrectlyBilled
  rw [hinfo]
  dsimp only
  split <;> exact ⟨_, rfl⟩

theorem missingEvidence :
    ∃ missing, missingEvidence wo = .ok missing ∧ ∀ key ∈ missing, ∃ s, key = .text s := by
  obtain ⟨types, htypes⟩ := h.required
  obtain ⟨items, hitems, hevidence⟩ := h.evidence
  have hkeys : (types.map Json.str).mapM hash = .ok (types.map Key.text) := by
    rw [mapM_eq_ok_iff, List.forall₂_map_left_iff, List.forall₂_map_right_iff, List.forall₂_same]
    intro s _
    rfl
  obtain ⟨provided, hprovided⟩ : ∃ provided, (items.map Json.obj).mapM providedEvidence =
      .ok provided := by
    apply mapM_returns
    intro v hv
    obtain ⟨e, he, rfl⟩ := List.mem_map.mp hv
    obtain ⟨s, hs⟩ := hevidence e he
    unfold providedEvidence
    dsimp only
    rw [hs]
    split <;> exact ⟨_, rfl⟩
  refine ⟨(types.map Key.text).dedup.filter fun key => some key ∉ provided, ?_, ?_⟩
  · simp [MarginLeakageReconciler.missingEvidence, toSet, htypes, hitems, Json.iterate, hkeys,
      hprovided]
  · intro key hkey
    have hmem := List.mem_dedup.mp (List.mem_of_mem_filter hkey)
    obtain ⟨s, -, rfl⟩ := List.mem_map.mp hmem
    exact ⟨s, rfl⟩

theorem incompleteEvidencePreventsBilling : Returns (incompleteEvidencePreventsBilling ip wo) := by
  intro l
  obtain ⟨missing, hmissing, htexts⟩ := h.missingEvidence
  obtain ⟨names, hnames⟩ := joinSorted_returns htexts
  unfold MarginLeakageReconciler.incompleteEvidencePreventsBilling
  rw [hmissing, ok_bind, hnames]
  split <;> exact ⟨_, rfl⟩

theorem visit (invoiced : List Key) (rates : Dict String JsonDict) :
    Returns (visit ip invoiced rates wo) := by
  intro l
  obtain ⟨l₁, h₁⟩ := h.fieldCompletionNotBilled ip invoiced l
  obtain ⟨l₂, h₂⟩ := h.reattendanceIncorrectlyBilled ip
    (emergencyBilledAtBaseRate ip rates wo (abortiveVisitNotClaimed ip wo l₁))
  unfold MarginLeakageReconciler.visit
  rw [h₁, ok_bind]
  dsimp only
  rw [h₂, ok_bind]
  exact h.incompleteEvidencePreventsBilling ip _

end Shaped

theorem reconcile_returns (ip : Interpreter) {contractData : ContractData}
    {workOrders slaBreaches : List JsonDict}
    (hinvoices : ∀ inv ∈ contractData.invoices,
      ∃ key, hash (dictGet inv "work_order_id" .null) = .ok key)
    (hworkOrders : ∀ wo ∈ workOrders, Shaped wo) :
    ∃ r, reconcile ip contractData workOrders slaBreaches = .ok r := by
  obtain ⟨invoiced, hinvoiced⟩ := mapM_returns hinvoices
  obtain ⟨visits, hvisits⟩ := mapM_returns fun wo hwo =>
    (hworkOrders wo hwo).visit ip invoiced (rateMap ip contractData.rateCard) {}
  obtain ⟨duplicates, hduplicates⟩ : ∃ duplicates, (activityWoMap ip workOrders).entries.mapM
      (fun p => duplicateClaimRisk p.2 {}) = .ok duplicates := by
    apply mapM_returns
    rintro ⟨key, woIds⟩ hmem
    obtain ⟨-, rfl⟩ := (mem_entries_keyedGroups (activityKey ip) workOrderId).mp hmem
    obtain ⟨names, hnames⟩ : ∃ names, joinTexts (members (activityKey ip) workOrderId workOrders key) =
        .ok names := by
      apply joinTexts_ok_iff.mpr
      intro v hv
      obtain ⟨wo, hwo, rfl⟩ := List.mem_map.mp hv
      obtain ⟨s, hs⟩ := (hworkOrders wo (List.mem_of_mem_filter hwo)).id
      rw [hs]
      rfl
    unfold duplicateClaimRisk
    rw [hnames]
    split <;> exact ⟨_, rfl⟩
  exact ⟨_, reconcile_eq_ok_iff.mpr ⟨⟨invoiced, visits, duplicates, hinvoiced, hvisits, hduplicates⟩,
    rfl⟩⟩

/-- On records that are read without errors the analysis returns. Whenever it returns, the total is
that of the triggers, rounded, each trigger has a recommendation, and with the records in another
order it returns the same total and the same triggers. -/
theorem totals_account (ip : Interpreter) (contractData : ContractData)
    (workOrders slaBreaches : List JsonDict) :
    ((∀ inv ∈ contractData.invoices, ∃ key, hash (dictGet inv "work_order_id" .null) = .ok key) →
      (∀ wo ∈ workOrders, Shaped wo) →
      ∃ r, reconcile ip contractData workOrders slaBreaches = .ok r) ∧
    ∀ r, reconcile ip contractData workOrders slaBreaches = .ok r →
      r.totalAtRiskValue =
        Py.roundDigits (r.leakageTriggers.map LeakageTrigger.atRiskValue).sum 2 ∧
      r.recommendations.length = r.leakageTriggers.length ∧
      ∀ invoices' workOrders' slaBreaches', contractData.invoices.Perm invoices' →
        workOrders.Perm workOrders' → slaBreaches.Perm slaBreaches' →
        ∃ r', reconcile ip { contractData with invoices := invoices' } workOrders' slaBreaches' =
            .ok r' ∧
          r'.totalAtRiskValue = r.totalAtRiskValue ∧
          SameTriggers r.leakageTriggers r'.leakageTriggers := by
  refine ⟨reconcile_returns ip, fun r hr => ?_⟩
  obtain ⟨parts, rfl⟩ := reconcile_eq_ok_iff.mp hr
  have haccounted := parts.accounted
  refine ⟨?_, haccounted.recommended, fun invoices' workOrders' slaBreaches' hi hw hs => ?_⟩
  · rw [Ledger.close, haccounted.total]
  · obtain ⟨parts', hsame⟩ := parts.of_perm hi hw hs
    refine ⟨_, reconcile_eq_ok_iff.mpr ⟨parts', rfl⟩, ?_, hsame.triggers⟩
    rw [Ledger.close, Ledger.close, hsame.total]

/-- Two entries for one repair. -/
def repairs : List JsonDict :=
  [[("work_order_id", .str "WO-1"), ("activity", .str "repair"), ("status", .str "completed"),
      ("value", .int 100)],
    [("work_order_id", .str "WO-2"), ("activity", .str "repair")]]

theorem totals_account_repairs : ∃ r, reconcile .ascii {} repairs [] = .ok r ∧
    r.totalAtRiskValue = Py.roundDigits (r.leakageTriggers.map LeakageTrigger.atRiskValue).sum 2 ∧
    ∃ r', reconcile .ascii {} repairs.reverse [] = .ok r' ∧
      r'.totalAtRiskValue = r.totalAtRiskValue ∧
      SameTriggers r.leakageTriggers r'.leakageTriggers := by
  have hshaped : ∀ wo ∈ repairs, Shaped wo := by
    unfold repairs
    simp only [List.forall_mem_cons, List.not_mem_nil, false_imp_iff, implies_true, and_true]
    exact ⟨⟨⟨"WO-1", rfl⟩, ⟨[], rfl⟩, ⟨[], rfl⟩, ⟨[], rfl, by simp⟩⟩,
      ⟨⟨"WO-2", rfl⟩, ⟨[], rfl⟩, ⟨[], rfl⟩, ⟨[], rfl, by simp⟩⟩⟩
  obtain ⟨hreturns, haccounts⟩ := totals_account .ascii {} repairs []
  obtain ⟨r, hr⟩ := hreturns (by simp) hshaped
  obtain ⟨htotal, -, hreordered⟩ := haccounts r hr
  exact ⟨r, hr, htotal, hreordered [] repairs.reverse [] (.refl _) (List.reverse_perm repairs).symm
    (.refl _)⟩

end MarginLeakageReconciler
end ControlFabric.Margin
