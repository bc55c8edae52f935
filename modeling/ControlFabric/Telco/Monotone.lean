import ControlFabric.Telco.Escalation

/-! Escalation by risk: what a case with more risk factors is escalated to, against the case without
them. The common rules lower it in one situation, the rules of the managed services never. -/
namespace ControlFabric.Telco
open Ingress

/-- The place of a level in `none < l1 < l2 < l3 < management`. -/
def rank : Option EscalationLevel → ℕ
  | none => 0
  | some .l1 => 1
  | some .l2 => 2
  | some .l3 => 3
  | some .management => 4

/-- The second decision escalates at least as far as the first. -/
def EscalationDecision.Below (d d' : EscalationDecision) : Prop :=
  rank d.level ≤ rank d'.level ∧ (d.escalate = true → d'.escalate = true)

/-! ### The common rules -/

namespace EscalationRuleEngine
variable {order : List String → List String} {c c' : Case}

/-- The second case is the first with risk factors added. -/
structure Case.Riskier (c c' : Case) : Prop where
  severity : c'.incident.severity = c.incident.severity
  services : c.incident.affectedServices ⊆ c'.incident.affectedServices
  outage : c'.serviceState = c.serviceState ∨ c'.serviceState = some .outage
  breach : c.slaBreached = true → c'.slaBreached = true
  repeats : c.repeatCount ≤ c'.repeatCount

/-- A breach took a P1 incident to the management, from where the outage takes it back. -/
def OutageLowers (c c' : Case) : Prop :=
  c.incident.severity = .p1 ∧ c.slaBreached = true ∧ c.serviceState ≠ some .outage ∧
    c'.serviceState = some .outage ∧ (affectedCritical c'.incident).length < 2

instance (c c' : Case) : Decidable (OutageLowers c c') := by
  unfold OutageLowers
  infer_instance

/-- The place of the level that the rules come to; the outage overrides what stands above it. -/
def place (c : Case) : ℕ :=
  if 2 ≤ (affectedCritical c.incident).length ∨ c.incident.severity = .p2 ∧ c.slaBreached then 4
  else if c.serviceState = some .outage then 3
  else if c.incident.severity = .p1 ∧ c.slaBreached then 4
  else if c.incident.severity = .p1 ∨ c.slaBreached then 3
  else if c.incident.severity = .p2 ∨ 3 ≤ c.repeatCount then 2
  else 0

theorem rank_severityRule (c : Case) : rank (severityRule c).level =
    if c.incident.severity = .p1 then 3 else if c.incident.severity = .p2 then 2 else 0 := by
  unfold severityRule
  cases c.incident.severity <;> simp [rank]

theorem rank_slaBreachRule (c : Case) (d : Draft) : rank (slaBreachRule c d).level =
    if c.slaBreached then if rank d.level = 3 then 4 else 3 else rank d.level := by
  unfold slaBreachRule
  split
  · rcases d.level with - | level
    · simp [rank]
    · cases level <;> simp [rank]
  · rfl

/-- Among the levels reached so far, the texts of the values are in the order of the levels. -/
theorem rank_repeatRule (c : Case) (d : Draft) : rank (repeatRule c d).level =
    if 3 ≤ c.repeatCount then max 2 (rank d.level) else rank d.level := by
  have hvalue : ∀ level : EscalationLevel,
      level.value < EscalationLevel.l2.value ↔ level = .l1 := by
    intro level
    cases level <;> decide
  unfold repeatRule
  split
  · rcases d.level with - | level
    · simp [rank]
    · cases level <;> simp [rank, hvalue]
  · rfl

theorem rank_outageRule (c : Case) (d : Draft) : rank (outageRule c d).level =
    if c.serviceState = some .outage then 3 else rank d.level := by
  unfold outageRule
  split <;> simp [rank]

theorem rank_criticalServicesRule (order : List String → List String) (c : Case) (d : Draft) :
    rank (criticalServicesRule order c d).level =
      if 2 ≤ (affectedCritical c.incident).length then 4 else rank d.level := by
  simp only [criticalServicesRule]
  split <;> simp [rank]

theorem rank_breachedP2Rule (c : Case) (d : Draft) : rank (breachedP2Rule c d).level =
    if c.incident.severity = .p2 ∧ c.slaBreached then 4 else rank d.level := by
  unfold breachedP2Rule
  split <;> simp [rank]

theorem rank_evaluate (order : List String → List String) (c : Case) :
    rank (evaluate order c).level = place c := by
  simp only [evaluate, rank_breachedP2Rule, rank_criticalServicesRule, rank_outageRule,
    rank_repeatRule, rank_slaBreachRule, rank_severityRule]
  unfold place
  by_cases hcritical : 2 ≤ (affectedCritical c.incident).length
  · simp [hcritical]
  · by_cases houtage : c.serviceState = some .outage
    · simp [hcritical, houtage]
    · cases c.incident.severity <;> cases c.slaBreached <;> simp [hcritical, houtage]

/-! ### No rule takes an escalation back -/

theorem escalate_severityRule (c : Case) : (severityRule c).shouldEscalate = true ↔
    c.incident.severity = .p1 ∨ c.incident.severity = .p2 := by
  unfold severityRule
  cases c.incident.severity <;> simp

theorem escalate_slaBreachRule (c : Case) (d : Draft) :
    (slaBreachRule c d).shouldEscalate = true ↔
      c.slaBreached = true ∨ d.shouldEscalate = true := by
  unfold slaBreachRule
  split <;> simp [*]

theorem escalate_repeatRule (c : Case) (d : Draft) : (repeatRule c d).shouldEscalate = true ↔
    3 ≤ c.repeatCount ∨ d.shouldEscalate = true := by
  unfold repeatRule
  split <;> simp [*]

theorem escalate_outageRule (c : Case) (d : Draft) : (outageRule c d).shouldEscalate = true ↔
    c.serviceState = some .outage ∨ d.shouldEscalate = true := by
  unfold outageRule
  split <;> simp [*]

theorem escalate_criticalServicesRule (order : List String → List String) (c : Case) (d : Draft) :
    (criticalServicesRule order c d).shouldEscalate = true ↔
      2 ≤ (affectedCritical c.incident).length ∨ d.shouldEscalate = true := by
  simp only [criticalServicesRule]
  split <;> simp [*]

theorem escalate_breachedP2Rule (c : Case) (d : Draft) :
    (breachedP2Rule c d).shouldEscalate = d.shouldEscalate := by
  unfold breachedP2Rule
  split <;> rfl

theorem escalate_evaluate (order : List String → List String) (c : Case) :
    (evaluate order c).escalate = true ↔
      c.incident.severity = .p1 ∨ c.incident.severity = .p2 ∨ c.slaBreached = true ∨
        3 ≤ c.repeatCount ∨ c.serviceState = some .outage ∨
          2 ≤ (affectedCritical c.incident).length := by
  simp only [evaluate, escalate_breachedP2Rule, escalate_criticalServicesRule, escalate_outageRule,
    escalate_repeatRule, escalate_slaBreachRule, escalate_severityRule]
  tauto

theorem length_affectedCritical_le {i i' : ParsedIncident}
    (h : i.affectedServices ⊆ i'.affectedServices) :
    (affectedCritical i).length ≤ (affectedCritical i').length := by
  apply List.Sublist.length_le
  apply List.monotone_filter_right
  intro service hservice
  simp only [decide_eq_true_eq] at hservice ⊢
  exact h hservice

/-- With more risk the level is lowered only where an outage takes a breached P1 incident back. -/
theorem place_le_iff (h : c.Riskier c') : place c ≤ place c' ↔ ¬ OutageLowers c c' := by
  have hcritical := length_affectedCritical_le h.services
  have hoverride : c'.serviceState ≠ some .outage → c.serviceState ≠ some .outage := by
    intro hnot hout
    rcases h.outage with hsame | hnew
    · exact hnot (hsame.trans hout)
    · exact hnot hnew
  have hbreach := h.breach
  have hrepeats : 3 ≤ c.repeatCount → 3 ≤ c'.repeatCount := fun h3 => h3.trans h.repeats
  unfold OutageLowers place
  rw [h.severity]
  by_cases hmany : 2 ≤ (affectedCritical c'.incident).length
  · -- Nothing stands above the management.
    grind
  · have hfew : ¬ 2 ≤ (affectedCritical c.incident).length := fun hc => hmany (hc.trans hcritical)
    have hlt : (affectedCritical c'.incident).length < 2 := by omega
    simp only [hmany, hfew, hlt, false_or, and_true]
    cases hseverity : c.incident.severity with
    | p1 => grind
    | p2 => grind
    | p3 => grind
    | p4 => grind

theorem below_iff (order : List String → List String) (h : c.Riskier c') :
    (evaluate order c).Below (evaluate order c') ↔ ¬ OutageLowers c c' := by
  have hescalate : (evaluate order c).escalate = true → (evaluate order c').escalate = true := by
    rw [escalate_evaluate, escalate_evaluate, h.severity]
    have hcritical := length_affectedCritical_le h.services
    have hrepeats := h.repeats
    rintro (hp1 | hp2 | hbreach | hrepeat | houtage | hmany)
    · exact Or.inl hp1
    · exact Or.inr (Or.inl hp2)
    · exact Or.inr (Or.inr (Or.inl (h.breach hbreach)))
    · exact Or.inr (Or.inr (Or.inr (Or.inl (hrepeat.trans hrepeats))))
    · refine Or.inr (Or.inr (Or.inr (Or.inr (Or.inl ?_))))
      rcases h.outage with hsame | hnew
      · rw [hsame, houtage]
      · exact hnew
    · exact Or.inr (Or.inr (Or.inr (Or.inr (Or.inr (hmany.trans hcritical)))))
  unfold EscalationDecision.Below
  rw [rank_evaluate, rank_evaluate, place_le_iff h, and_iff_left hescalate]

end EscalationRuleEngine

/-! ### The rules of the managed services -/

namespace VodafoneEscalationEngine
variable {lower : String → String} {c c' : Case}

/-- The resolution time of the service level is exceeded. -/
def Case.breached (c : Case) : Bool := (dictGet c.slaStatus "resolution_sla" .null).isStr "breached"

def Case.warned (c : Case) : Bool :=
  (dictGet c.slaStatus "resolution_sla" (.str "within")).isStr "warning"

/-- The second case is the first with risk factors added. -/
structure Case.Riskier (c c' : Case) : Prop where
  severity : c'.incident.severity = c.incident.severity
  services : c.incident.affectedServices ⊆ c'.incident.affectedServices
  tags : c.incident.tags ⊆ c'.incident.tags
  bridge : (dictGet c.slaStatus "bridge_call_required" (.bool false)).truthy = true →
    (dictGet c'.slaStatus "bridge_call_required" (.bool false)).truthy = true
  sla : Json.field c'.slaStatus "resolution_sla" = Json.field c.slaStatus "resolution_sla" ∨
    c'.breached = true
  domain : c'.serviceDomain = c.serviceDomain ∨ c'.serviceDomain ∈ criticalDomains
  repeats : c.repeatCount ≤ c'.repeatCount

/-- The place of the level that the severity comes to. -/
def base (lower : String → String) (c : Case) : ℕ :=
  match c.incident.severity with
  | .p1 => 3
  | .p2 => if isOutage lower c then 3 else 2
  | .p3 => if c.warned then 2 else 1
  | .p4 => 0

/-- The same, after the elevation of a critical domain. -/
def elevated (lower : String → String) (c : Case) : ℕ :=
  if c.serviceDomain ∈ criticalDomains ∧ base lower c ≠ 0 then min 4 (base lower c + 1)
  else base lower c

theorem rank_severityRule (lower : String → String) (c : Case) :
    rank (severityRule lower c).level = base lower c := by
  unfold severityRule base Case.warned
  cases c.incident.severity with
  | p1 => rfl
  | p2 => dsimp only; split <;> rfl
  | p3 => dsimp only; split <;> rfl
  | p4 => rfl

theorem rank_criticalDomainRule (c : Case) (d : Draft) : rank (criticalDomainRule c d).level =
    if c.serviceDomain ∈ criticalDomains ∧ rank d.level ≠ 0 then min 4 (rank d.level + 1)
    else rank d.level := by
  unfold criticalDomainRule
  by_cases hdomain : c.serviceDomain ∈ criticalDomains
  · rcases hlevel : d.level with - | level
    · simp [hdomain, hlevel, rank]
    · cases level <;> simp [hdomain, hlevel, rank, levels, levelOrder]
  · simp [hdomain]

theorem rank_slaBreachRule (c : Case) (d : Draft) :
    rank (slaBreachRule c d).level = if c.breached then 4 else rank d.level := by
  unfold slaBreachRule Case.breached
  split <;> simp [rank]

theorem rank_repeatRule (c : Case) (d : Draft) : rank (repeatRule c d).level =
    if 3 ≤ c.repeatCount then max 3 (rank d.level) else rank d.level := by
  unfold repeatRule
  split
  · rcases d.level with - | level
    · simp [rank]
    · cases level <;> simp [rank, levelOrder]
  · rfl

theorem rank_evaluate (lower : String → String) (c : Case) : rank (evaluate lower c).level =
    if c.breached then 4 else if 3 ≤ c.repeatCount then max 3 (elevated lower c)
    else elevated lower c := by
  simp only [evaluate, rank_repeatRule, rank_slaBreachRule, rank_criticalDomainRule,
    rank_severityRule]
  unfold elevated
  cases c.breached <;> simp

/-- From the second level on, and only there, the draft escalates. -/
def Draft.Sound (d : Draft) : Prop := d.shouldEscalate = true ↔ 2 ≤ rank d.level

theorem sound_severityRule (lower : String → String) (c : Case) : (severityRule lower c).Sound := by
  unfold Draft.Sound severityRule
  cases c.incident.severity with
  | p1 => simp [rank]
  | p2 => dsimp only; split <;> simp [rank]
  | p3 => dsimp only; split <;> simp [rank]
  | p4 => simp [rank]

theorem Draft.Sound.criticalDomainRule {d : Draft} (h : d.Sound) (c : Case) :
    (criticalDomainRule c d).Sound := by
  unfold VodafoneEscalationEngine.criticalDomainRule
  by_cases hdomain : c.serviceDomain ∈ criticalDomains
  · rcases hlevel : d.level with - | level
    · simpa [hdomain, hlevel] using h
    · cases level with
      | l1 => simp [hdomain, Draft.Sound, rank, levels, levelOrder]
      | l2 => simp [hdomain, Draft.Sound, rank, levels, levelOrder]
      | l3 => simp [hdomain, Draft.Sound, rank, levels, levelOrder]
      | management => simpa [hdomain, hlevel, levels, levelOrder] using h
  · simpa [hdomain] using h

theorem Draft.Sound.slaBreachRule {d : Draft} (h : d.Sound) (c : Case) :
    (slaBreachRule c d).Sound := by
  unfold VodafoneEscalationEngine.slaBreachRule
  split
  · simp [Draft.Sound, rank]
  · exact h

theorem Draft.Sound.repeatRule {d : Draft} (h : d.Sound) (c : Case) : (repeatRule c d).Sound := by
  have hrank := rank_repeatRule c d
  unfold Draft.Sound
  rw [hrank]
  unfold VodafoneEscalationEngine.repeatRule
  split
  · simp
  · exact h

theorem escalate_evaluate (lower : String → String) (c : Case) :
    (evaluate lower c).escalate = true ↔ 2 ≤ rank (evaluate lower c).level :=
  (((sound_severityRule lower c).criticalDomainRule c).slaBreachRule c).repeatRule c

/-- Without a breach the risk factors raise the level before the elevation. -/
theorem base_le (lower : String → String) (h : c.Riskier c') (hwithin : c'.breached ≠ true) :
    base lower c ≤ base lower c' := by
  have hsla := h.sla.resolve_right hwithin
  have hwarned : c'.warned = c.warned := by simp only [Case.warned, dictGet, hsla]
  have houtage : isOutage lower c = true → isOutage lower c' = true := by
    simp only [isOutage, decide_eq_true_eq, List.any_eq_true, List.mem_map]
    rintro (⟨text, ⟨tag, htag, htext⟩, hout⟩ | hbridge)
    · exact Or.inl ⟨text, ⟨tag, h.tags htag, htext⟩, hout⟩
    · exact Or.inr (h.bridge hbridge)
  unfold base
  rw [h.severity, hwarned]
  cases c.incident.severity with
  | p1 => exact le_rfl
  | p2 =>
    dsimp only
    by_cases hout : isOutage lower c = true
    · simp [hout, houtage hout]
    · rw [if_neg hout]
      split <;> simp
  | p3 => exact le_rfl
  | p4 => exact le_rfl

theorem base_le_three (lower : String → String) (c : Case) : base lower c ≤ 3 := by
  unfold base
  cases c.incident.severity with
  | p1 => exact le_rfl
  | p2 => dsimp only; split <;> simp
  | p3 => dsimp only; split <;> simp
  | p4 => simp

theorem elevated_le_four (lower : String → String) (c : Case) : elevated lower c ≤ 4 := by
  have hbase := base_le_three lower c
  unfold elevated
  split <;> omega

theorem elevated_le (lower : String → String) (h : c.Riskier c') (hwithin : c'.breached ≠ true) :
    elevated lower c ≤ elevated lower c' := by
  have hbase := base_le lower h hwithin
  have hthree := base_le_three lower c'
  have hdomain : c.serviceDomain ∈ criticalDomains → c'.serviceDomain ∈ criticalDomains := by
    intro hcritical
    rcases h.domain with hsame | hnew
    · rwa [hsame]
    · exact hnew
  unfold elevated
  split
  next hc =>
    have hbase' : base lower c' ≠ 0 := by omega
    rw [if_pos ⟨hdomain hc.1, hbase'⟩]
    omega
  next => split <;> omega

theorem below (lower : String → String) (h : c.Riskier c') :
    (evaluate lower c).Below (evaluate lower c') := by
  have hrank : rank (evaluate lower c).level ≤ rank (evaluate lower c').level := by
    rw [rank_evaluate, rank_evaluate]
    by_cases hbreached : c'.breached = true
    · rw [if_pos hbreached]
      have hle := elevated_le_four lower c
      split_ifs <;> omega
    · have hbefore : c.breached ≠ true := by
        intro hbreach
        apply hbreached
        rcases h.sla with hsame | hnew
        · simpa only [Case.breached, dictGet, hsame] using hbreach
        · exact hnew
      have hle := elevated_le lower h hbreached
      have hrepeats := h.repeats
      rw [if_neg hbreached, if_neg hbefore]
      split_ifs <;> omega
  refine ⟨hrank, ?_⟩
  rw [escalate_evaluate, escalate_evaluate]
  exact fun h2 => h2.trans hrank

end VodafoneEscalationEngine

/-- More risk never lowers the level of a case and never ends its escalation, under either set of
rules, exactly unless an outage comes to a P1 incident that a breach alone took to the management. -/
theorem escalation_monotone_iff (order : List String → List String) (lower : String → String)
    {c c' : EscalationRuleEngine.Case} (hc : c.Riskier c')
    {v v' : VodafoneEscalationEngine.Case} (hv : v.Riskier v') :
    ((EscalationRuleEngine.evaluate order c).Below (EscalationRuleEngine.evaluate order c') ∧
      (VodafoneEscalationEngine.evaluate lower v).Below
        (VodafoneEscalationEngine.evaluate lower v')) ↔
    ¬ EscalationRuleEngine.OutageLowers c c' := by
  rw [EscalationRuleEngine.below_iff order hc,
    and_iff_left (VodafoneEscalationEngine.below lower hv)]

/-- A P1 incident with its service level breached. -/
def breachedP1 : EscalationRuleEngine.Case := { incident := { severity := .p1 }, slaBreached := true }

/-- A P2 incident of the core network that has come back. -/
def recurringP2 : VodafoneEscalationEngine.Case :=
  { incident := { severity := .p2 }, slaStatus := [], serviceDomain := "core_network",
    repeatCount := 3 }

/-- Two critical services more take the breached incident no lower, nor does an outage the other. -/
theorem escalation_monotone_iff_core :
    ((EscalationRuleEngine.evaluate id breachedP1).Below
        (EscalationRuleEngine.evaluate id { breachedP1 with
          incident := { severity := .p1, affectedServices := ["billing", "hss"] }
          serviceState := some .outage }) ∧
      (VodafoneEscalationEngine.evaluate id recurringP2).Below
        (VodafoneEscalationEngine.evaluate id { recurringP2 with
          incident := { severity := .p2, tags := ["outage"] } })) ↔
    ¬ EscalationRuleEngine.OutageLowers breachedP1 { breachedP1 with
      incident := { severity := .p1, affectedServices := ["billing", "hss"] }
      serviceState := some .outage } := by
  apply escalation_monotone_iff id id
  · exact ⟨rfl, List.nil_subset _, Or.inr rfl, id, le_rfl⟩
  · exact ⟨rfl, List.nil_subset _, List.nil_subset _, id, Or.inl rfl, Or.inl rfl, le_rfl⟩

/-- The outage of its service takes the breached incident from the management to the third level. -/
theorem outage_lowers_breached :
    ¬ ∀ (order : List String → List String) (c c' : EscalationRuleEngine.Case), c.Riskier c' →
      (EscalationRuleEngine.evaluate order c).Below (EscalationRuleEngine.evaluate order c') := by
  intro h
  have hbelow := h id breachedP1 { breachedP1 with serviceState := some .outage }
    ⟨rfl, List.nil_subset _, Or.inr rfl, id, le_rfl⟩
  have hranks : ¬ rank (EscalationRuleEngine.evaluate id breachedP1).level ≤
      rank (EscalationRuleEngine.evaluate id
        { breachedP1 with serviceState := some .outage }).level := by decide
  exact hranks hbelow.1

end ControlFabric.Telco
