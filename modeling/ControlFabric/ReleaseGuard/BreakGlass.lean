import ControlFabric.ReleaseGuard.Approval

/-! Emergency exceptions over whole runs: how often one is decided, and which release its approval
touches. Raising one looks at the release; the decisions look neither at the exception nor at the
release. -/
namespace ControlFabric.ReleaseGuard
open Lib Method Services

/-- The exception that a call decides. -/
def decisions (call : ServiceCall) (s : Services) : List String :=
  match call with
  | .guard (.approveException exceptionId _ _) | .guard (.rejectException exceptionId _ _) =>
    if exceptionId ∈ s.exceptions then [exceptionId] else []
  | _ => []

/-- The approval of an exception changes the status of a blocked release only. -/
def ActsOnBlocked (call : ServiceCall) (s s' : Services) : Prop :=
  match call with
  | .guard (.approveException _ _ _) => ∀ releaseId, ∀ r ∈ s.releases.get? releaseId,
      ∀ r' ∈ s'.releases.get? releaseId, r'.status ≠ r.status → r.status = .blocked
  | _ => True

/-- An exception is pending when it is decided, and its release is blocked when it is approved, or
approved already. -/
def Timely (call : ServiceCall) (s : Services) : Prop :=
  match call with
  | .guard (.approveException exceptionId _ _) => ∀ exc ∈ s.exceptions.get? exceptionId,
      exc.status = .pendingApproval ∧
        ∀ r ∈ s.releases.get? exc.releaseId, r.status = .blocked ∨ r.status = .approved
  | .guard (.rejectException exceptionId _ _) =>
    ∀ exc ∈ s.exceptions.get? exceptionId, exc.status = .pendingApproval
  | _ => True

/-- The exception has been decided. -/
def DecidedException (s : Services) (exceptionId : String) : Prop :=
  ∃ exc ∈ s.exceptions.get? exceptionId, exc.status ≠ .pendingApproval

section Step
variable {rt : Runtime} {call : ServiceCall} {w w' : World Services}

theorem decidedException_of_same (hself : w'.self.exceptions = w.self.exceptions)
    (hnone : decisions call w.self = []) (exceptionId : String) :
    DecidedException w'.self exceptionId ↔
      DecidedException w.self exceptionId ∨ exceptionId ∈ decisions call w.self := by
  unfold DecidedException
  rw [hself, hnone]
  simp

theorem decidedException_of_set {id : String} {exc : ExceptionRequest} (exc' : ExceptionRequest)
    (hexc : w.self.exceptions.get? id = some exc) (hstatus : exc'.status ≠ .pendingApproval)
    (hself : w'.self.exceptions = w.self.exceptions.set id exc')
    (hone : decisions call w.self = if id ∈ w.self.exceptions then [id] else [])
    (exceptionId : String) : DecidedException w'.self exceptionId ↔
      DecidedException w.self exceptionId ∨ exceptionId ∈ decisions call w.self := by
  unfold DecidedException
  rw [hself, Dict.get?_set, hone, if_pos (Dict.mem_of_get? hexc), List.mem_singleton]
  by_cases hid : exceptionId = id
  · simp [hid, hstatus]
  · simp [hid]

theorem Refused.decisions_eq_nil {call : GuardCall} {s : Services} (h : Refused call s) :
    decisions (.guard call) s = [] := by
  cases call with
  | approveException exceptionId approvedBy note => exact if_neg (Dict.get?_eq_none.mp h)
  | rejectException exceptionId rejectedBy note => exact if_neg (Dict.get?_eq_none.mp h)
  | _ => rfl

/-- Decided is what was decided before and what the call decides. -/
theorem Act.decidedException_iff (h : Act rt w w' call)
    (hfresh : w.env.draws < w'.env.draws → ¬ w.self.Stores (rt.uuid4 w.env.draws))
    (exceptionId : String) : DecidedException w'.self exceptionId ↔
      DecidedException w.self exceptionId ∨ exceptionId ∈ decisions call w.self := by
  cases h with
  | refused hrefused hself =>
    exact decidedException_of_same (by rw [hself]) hrefused.decisions_eq_nil exceptionId
  | created _ _ _ hself => exact decidedException_of_same (by rw [hself]) rfl exceptionId
  | evidenceAdded _ _ _ _ _ _ hself =>
    exact decidedException_of_same (by simp [hself]) rfl exceptionId
  | evidenceRemoved _ _ hself => exact decidedException_of_same (by simp [hself]) rfl exceptionId
  | submitted _ _ _ _ _ _ hself => exact decidedException_of_same (by simp [hself]) rfl exceptionId
  | cancelled _ _ hself => exact decidedException_of_same (by simp [hself]) rfl exceptionId
  | requested _ _ _ _ hself => exact decidedException_of_same (by simp [hself]) rfl exceptionId
  | stepApproved _ _ _ _ _ _ _ hself =>
    refine decidedException_of_same ?_ rfl exceptionId
    rw [hself]
    split <;> simp
  | stepRejected _ _ _ _ _ _ _ hself =>
    exact decidedException_of_same (by simp [hself]) rfl exceptionId
  | raised _ _ _ exc _ _ hstatus _ hdraw _ hself =>
    have hnew : rt.uuid4 w.env.draws ∉ w.self.exceptions := fun hmem =>
      hfresh hdraw (.inr (.inr hmem))
    have hset : w'.self.exceptions = w.self.exceptions.set (rt.uuid4 w.env.draws) exc := by
      rw [hself, rewrite_exceptions]
      rfl
    unfold DecidedException
    rw [hset, Dict.get?_set]
    by_cases hid : exceptionId = rt.uuid4 w.env.draws
    · simp [hid, hstatus, Dict.get?_eq_none.mpr hnew, decisions]
    · simp [hid, decisions]
  | exceptionApproved exc exc' _ hexc hstatus _ hself =>
    refine decidedException_of_set exc' hexc (by simp [hstatus]) ?_ rfl exceptionId
    rw [hself, rewrite_exceptions]
    rfl
  | exceptionRejected exc exc' _ hexc hstatus _ hself =>
    refine decidedException_of_set exc' hexc (by simp [hstatus]) ?_ rfl exceptionId
    rw [hself, rewrite_exceptions]
    rfl
  | markedApproved _ _ hself => exact decidedException_of_same (by simp [hself]) rfl exceptionId
  | markedBlocked _ _ hself => exact decidedException_of_same (by simp [hself]) rfl exceptionId

theorem actsOnBlocked_iff {exceptionId approvedBy note : String} {exc : ExceptionRequest}
    (h : Act rt w w' (.guard (.approveException exceptionId approvedBy note)))
    (hexc : w.self.exceptions.get? exceptionId = some exc) :
    ActsOnBlocked (.guard (.approveException exceptionId approvedBy note)) w.self w'.self ↔
      ∀ r ∈ w.self.releases.get? exc.releaseId, r.status = .blocked ∨ r.status = .approved := by
  cases h with
  | refused hrefused hself => exact absurd (hrefused.symm.trans hexc) (by simp)
  | exceptionApproved exc₁ exc' f hexc₁ hstatus hf hself =>
    obtain rfl := Option.some.inj (hexc.symm.trans hexc₁)
    have hget (releaseId : String) : w'.self.releases.get? releaseId =
        if releaseId = exc.releaseId then (w.self.releases.get? exc.releaseId).map f
        else w.self.releases.get? releaseId := by
      rw [hself, get?_rewrite]
      rfl
    constructor
    · intro hblocked r hr
      by_cases happroved : r.status = .approved
      · exact .inr happroved
      · refine .inl (hblocked exc.releaseId r hr (f r) ?_ ?_)
        · rw [hget, if_pos rfl, hr]
          rfl
        · rw [hf.status]
          exact Ne.symm happroved
    · intro hspared releaseId r hr r' hr' hchanged
      rw [hget] at hr'
      by_cases hid : releaseId = exc.releaseId
      · rw [if_pos hid, ← hid, hr] at hr'
        obtain rfl := Option.some.inj hr'
        rcases hspared r (hid ▸ hr) with hblocked | happroved
        · exact hblocked
        · rw [hf.status] at hchanged
          exact absurd happroved.symm hchanged
      · rw [if_neg hid] at hr'
        obtain rfl := Option.some.inj (hr.symm.trans hr')
        exact absurd rfl hchanged

theorem undecided_iff {s : Services} {exceptionId : String} :
    (∀ id ∈ (if exceptionId ∈ s.exceptions then [exceptionId] else []), ¬ DecidedException s id) ↔
      ∀ exc ∈ s.exceptions.get? exceptionId, exc.status = .pendingApproval := by
  unfold DecidedException
  by_cases hmem : exceptionId ∈ s.exceptions
  · rw [if_pos hmem]
    simp
  · rw [if_neg hmem, Dict.get?_eq_none.mpr hmem]
    simp

theorem nodup_decisions (call : ServiceCall) (s : Services) : (decisions call s).Nodup := by
  unfold decisions
  split
  · split <;> simp
  · split <;> simp
  · exact List.nodup_nil

/-- A call decides no exception again, and acts on a blocked release, exactly if it is timely. -/
theorem timely_iff (h : Act rt w w' call) : (((decisions call w.self).Nodup ∧
      ∀ id ∈ decisions call w.self, ¬ DecidedException w.self id) ∧
    ActsOnBlocked call w.self w'.self) ↔ Timely call w.self := by
  rw [and_iff_right (nodup_decisions call w.self)]
  cases call with
  | markApproved releaseId approvedBy => simp [decisions, ActsOnBlocked, Timely]
  | markBlocked releaseId reason blockedBy => simp [decisions, ActsOnBlocked, Timely]
  | guard call => cases call with
    | approveException exceptionId approvedBy note =>
      refine (and_congr_left' undecided_iff).trans ?_
      unfold Timely
      dsimp only
      cases hexc : w.self.exceptions.get? exceptionId with
      | none =>
        simp only [Option.not_mem_none, IsEmpty.forall_iff, implies_true, true_and, iff_true]
        cases h with
        | refused hrefused hself =>
          intro releaseId r hr r' hr' hchanged
          rw [hself] at hr'
          obtain rfl := Option.some.inj (hr.symm.trans hr')
          exact absurd rfl hchanged
        | exceptionApproved _ _ _ hexc₁ => exact absurd (hexc.symm.trans hexc₁) (by simp)
      | some exc =>
        simp only [Option.mem_some_iff, forall_eq']
        rw [actsOnBlocked_iff h hexc]
    | rejectException exceptionId rejectedBy note =>
      exact (and_iff_left trivial).trans undecided_iff
    | _ => simp [decisions, ActsOnBlocked, Timely]

end Step

/-! ### Every run -/

/-- In every run, no exception is decided twice and approvals change blocked releases only, exactly
if every decision is timely. -/
theorem decided_once_iff_timely (rt : Runtime) (env : Env) (calls : List ServiceCall)
    (huuid : Set.InjOn rt.uuid4
      (Set.Iio (run (serviceStep rt) ⟨.empty, env⟩ calls).env.draws)) :
    (trace (serviceStep rt) (fun call w => decisions call w.self) ⟨.empty, env⟩ calls).Nodup ∧
        Conforms (serviceStep rt) (fun call w =>
          ActsOnBlocked call w.self (serviceStep rt call w).self) ⟨.empty, env⟩ calls ↔
      Conforms (serviceStep rt) (fun call w => Timely call w.self) ⟨.empty, env⟩ calls := by
  have hready : Ready rt ⟨.empty, env⟩ calls := ready_empty huuid
  have hstep : ∀ w call calls, Ready rt w (call :: calls) →
      Ready rt (serviceStep rt call w) calls := fun _ _ _ h => h.step
  have hseen : ∀ w call calls, Ready rt w (call :: calls) → ∀ id,
      DecidedException (serviceStep rt call w).self id ↔
        DecidedException w.self id ∨ id ∈ decisions call w.self :=
    fun _ call _ h id => (does rt call).act.decidedException_iff h.not_stores id
  have hnone : ∀ id, ¬ DecidedException Services.empty id := by
    rintro id ⟨exc, hexc, -⟩
    cases hexc
  have honce := nodup_trace_iff_conforms (serviceStep rt) (fun call w => decisions call w.self)
    (fun w id => DecidedException w.self id) hstep hseen hready
  rw [and_iff_left fun id _ => hnone id] at honce
  rw [honce, conforms_and]
  exact conforms_congr (serviceStep rt) hstep
    (fun w call _ _ => timely_iff (does rt call).act) hready

def payException : String := "00000000-0000-4000-8000-000000000004"

/-- An exception is raised for a release without evidence. -/
def raisedCalls : List ServiceCall :=
  [GuardCall.create "shop" "default" "Pay" "payments" "production" .critical "ada" "",
    GuardCall.submit payRelease .startupDefault,
    GuardCall.raiseException payRelease "shop" "ada" "outage" "customers wait" "cto" "high"].map
      .guard

/-- The exception is approved while its release is blocked. -/
theorem decided_once_approved :
    let calls := raisedCalls ++ [.guard (.approveException payException "cto" "")]
    (trace (serviceStep .reference) (fun call w => decisions call w.self)
        ⟨.empty, .initial "default"⟩ calls).Nodup ∧
      Conforms (serviceStep .reference) (fun call w =>
        ActsOnBlocked call w.self (serviceStep .reference call w).self)
          ⟨.empty, .initial "default"⟩ calls := by
  intro calls
  refine (decided_once_iff_timely .reference (.initial "default") calls ?_).mpr ?_
  · apply Runtime.reference_uuid4.mono
    apply Set.Iio_subset_Iio
    decide +kernel
  · refine ⟨trivial, trivial, trivial, ?_, trivial⟩
    show ∀ exc ∈ Dict.get? _ _, _ ∧ ∀ r ∈ Dict.get? _ _, _ ∨ _
    decide +kernel

/-- The release is cancelled, the exception approved all the same, and then rejected. -/
def twiceDecided : List ServiceCall :=
  raisedCalls ++ [GuardCall.cancel payRelease "ada",
    GuardCall.approveException payException "cto" "",
    GuardCall.rejectException payException "cto" "too late"].map .guard

theorem not_decided_once : ¬ ∀ (rt : Runtime) (env : Env) (calls : List ServiceCall),
    Set.InjOn rt.uuid4 (Set.Iio (run (serviceStep rt) ⟨.empty, env⟩ calls).env.draws) →
      (trace (serviceStep rt) (fun call w => decisions call w.self) ⟨.empty, env⟩ calls).Nodup ∧
        Conforms (serviceStep rt) (fun call w =>
          ActsOnBlocked call w.self (serviceStep rt call w).self) ⟨.empty, env⟩ calls := by
  intro h
  have huuid : Set.InjOn Runtime.reference.uuid4 (Set.Iio (run (serviceStep .reference)
      ⟨.empty, .initial "default"⟩ twiceDecided).env.draws) := by
    apply Runtime.reference_uuid4.mono
    apply Set.Iio_subset_Iio
    decide +kernel
  have htwice : trace (serviceStep .reference) (fun call w => decisions call w.self)
      ⟨.empty, .initial "default"⟩ twiceDecided = [payException, payException] := by
    decide +kernel
  have honce := (h .reference (.initial "default") twiceDecided huuid).1
  rw [htwice] at honce
  simp at honce

end ControlFabric.ReleaseGuard
