import ControlFabric.Runtime
import ControlFabric.Lib.Run

/-! Legal holds of the data governance manager. Which entities are held is kept beside the holds: it
grows with each placement and is computed anew from the active holds at each release. So holds
protect exactly the held entities, whatever holds overlap and in whatever order they are released. -/
namespace ControlFabric.Governance
open Lib Py Method

structure LegalHold where
  holdId : String
  holdName : String
  description : String
  entityIds : List String
  entityTypes : List String
  placedBy : String
  legalContact : String
  tenantId : String
  placedAt : String
  releasedAt : Option String
  releasedBy : Option String
  isActive : Bool
  holdHash : String

structure DataGovernanceManager where
  holds : Dict String LegalHold
  heldEntities : Finset String

namespace DataGovernanceManager

def new : DataGovernanceManager := ⟨Dict.empty, ∅⟩

def placeHold (rt : Runtime) (holdName description : String) (entityIds entityTypes : List String)
    (placedBy legalContact tenantId : String) : Method DataGovernanceManager LegalHold := do
  let holdId := rt.uuid4 (← draw)
  let placedAt := (rt.now (← draw)).isoformat
  let hold : LegalHold := {
    holdId := holdId
    holdName := holdName
    description := description
    entityIds := entityIds
    entityTypes := entityTypes
    placedBy := placedBy
    legalContact := legalContact
    tenantId := tenantId
    placedAt := placedAt
    releasedAt := none
    releasedBy := none
    isActive := true
    holdHash := String.ofList ((rt.sha256 (holdId ++ placedBy ++ placedAt)).toList.take 16) }
  assign fun m => ⟨m.holds.set hold.holdId hold, m.heldEntities ∪ entityIds.toFinset⟩
  return hold

/-- The entities of the active holds. -/
def activeHeld (holds : Dict String LegalHold) : Finset String :=
  ((holds.values.filter fun h => h.isActive).flatMap LegalHold.entityIds).toFinset

def releaseHold (rt : Runtime) (holdId releasedBy : String) :
    Method DataGovernanceManager LegalHold := do
  match (← self).holds.get? holdId with
  | none => raise (.valueError s!"Legal hold {holdId} not found")
  | some hold =>
    if ¬ hold.isActive then
      raise (.valueError s!"Hold {holdId} is already released")
    let releasedAt := (rt.now (← draw)).isoformat
    let released := { hold with
      isActive := false
      releasedAt := some releasedAt
      releasedBy := some releasedBy }
    assign fun m =>
      ⟨m.holds.set holdId released, activeHeld (m.holds.set holdId released)⟩
    return released

def isOnHold (m : DataGovernanceManager) (entityId : String) : Bool := entityId ∈ m.heldEntities

def canDelete (m : DataGovernanceManager) (entityId : String) : Bool × String :=
  if m.isOnHold entityId then
    let activeHolds := (m.holds.values.filter fun h =>
      h.isActive ∧ entityId ∈ h.entityIds).map LegalHold.holdName
    (false, "Entity is under legal hold: " ++ ", ".intercalate activeHolds)
  else (true, "No legal hold — deletion permitted by retention policy")

end DataGovernanceManager

inductive HoldCall where
  | placeHold (holdName description : String) (entityIds entityTypes : List String)
      (placedBy legalContact tenantId : String)
  | releaseHold (holdId releasedBy : String)

def HoldCall.perform (rt : Runtime) : HoldCall → Method DataGovernanceManager LegalHold
  | placeHold holdName description entityIds entityTypes placedBy legalContact tenantId =>
    DataGovernanceManager.placeHold rt holdName description entityIds entityTypes placedBy
      legalContact tenantId
  | releaseHold holdId releasedBy => DataGovernanceManager.releaseHold rt holdId releasedBy

def holdStep (rt : Runtime) (call : HoldCall) (w : World DataGovernanceManager) :
    World DataGovernanceManager := (call.perform rt).after w

/-- A hold that was placed, with the entities it lists, or released. -/
inductive HoldEvent where
  | placed (holdId : String) (entityIds : List String)
  | released (holdId : String)
  deriving DecidableEq

/-- What the call that returned has done. -/
def holdEvent (rt : Runtime) (call : HoldCall) (w : World DataGovernanceManager) :
    List HoldEvent :=
  match (call.perform rt).run w with
  | .error _ _ => []
  | .ok hold _ =>
    match call with
    | .placeHold _ _ entityIds _ _ _ _ => [.placed hold.holdId entityIds]
    | .releaseHold holdId _ => [.released holdId]

/-! ### What is held -/
open DataGovernanceManager

inductive Effect (rt : Runtime) (w w' : World DataGovernanceManager) : List HoldEvent → Prop where
  | raised (hdraws : w.env.draws ≤ w'.env.draws) (hself : w'.self = w.self) : Effect rt w w' []
  | placed {hold : LegalHold} (hid : hold.holdId = rt.uuid4 w.env.draws) (hactive : hold.isActive)
      (hdraws : w.env.draws < w'.env.draws)
      (hholds : w'.self.holds = w.self.holds.set hold.holdId hold)
      (hheld : w'.self.heldEntities = w.self.heldEntities ∪ hold.entityIds.toFinset) :
      Effect rt w w' [.placed hold.holdId hold.entityIds]
  | released {holdId : String} {hold new : LegalHold} (hstored : w.self.holds.get? holdId = some hold)
      (hactive : hold.isActive) (hdone : new.isActive = false)
      (hentities : new.entityIds = hold.entityIds) (hdraws : w.env.draws ≤ w'.env.draws)
      (hholds : w'.self.holds = w.self.holds.set holdId new)
      (hheld : w'.self.heldEntities = activeHeld (w.self.holds.set holdId new)) :
      Effect rt w w' [.released holdId]

section Steps
variable {rt : Runtime} {w : World DataGovernanceManager}

variable (rt w) in
/-- A release that raises leaves everything as it was. -/
theorem release_cases (holdId releasedBy : String) :
    (∃ e, (releaseHold rt holdId releasedBy).run w = .error e w) ∨
    ∃ hold new, w.self.holds.get? holdId = some hold ∧ hold.isActive ∧ new.isActive = false ∧
      new.entityIds = hold.entityIds ∧ (releaseHold rt holdId releasedBy).run w = .ok new
        ⟨⟨w.self.holds.set holdId new, activeHeld (w.self.holds.set holdId new)⟩, w.env.tick 1⟩ := by
  simp only [releaseHold, EStateM.run_bind, run_self]
  cases hstored : w.self.holds.get? holdId with
  | none => exact Or.inl ⟨_, rfl⟩
  | some hold =>
    by_cases hactive : ¬ hold.isActive
    · simp only [EStateM.run_bind, if_pos hactive, run_raise]
      exact Or.inl ⟨_, rfl⟩
    · right
      simp only [EStateM.run_bind, if_neg hactive]
      let released : LegalHold := { hold with
        isActive := false
        releasedAt := some (rt.now w.env.draws).isoformat
        releasedBy := some releasedBy }
      exact ⟨hold, released, rfl, not_not.mp hactive, rfl, rfl, rfl⟩

variable (rt w) in
theorem effect (call : HoldCall) : Effect rt w (holdStep rt call w) (holdEvent rt call w) := by
  cases call with
  | placeHold holdName description entityIds entityTypes placedBy legalContact tenantId =>
    have hdraws : w.env.draws < w.env.draws + 1 + 1 := by omega
    exact .placed rfl rfl hdraws rfl rfl
  | releaseHold holdId releasedBy =>
    unfold holdStep holdEvent HoldCall.perform
    rcases release_cases rt w holdId releasedBy with ⟨e, hrun⟩ |
      ⟨hold, new, hstored, hactive, hdone, hentities, hrun⟩
    · rw [after_error hrun, hrun]
      exact .raised le_rfl rfl
    · rw [after_ok hrun, hrun]
      exact .released hstored hactive hdone hentities (Nat.le_add_right _ 1) rfl rfl

theorem mem_activeHeld {holds : Dict String LegalHold} {e : String} : e ∈ activeHeld holds ↔
    ∃ holdId hold, holds.get? holdId = some hold ∧ hold.isActive ∧ e ∈ hold.entityIds := by
  unfold activeHeld
  simp only [List.mem_toFinset, List.mem_flatMap, List.mem_filter, Dict.mem_values]
  constructor
  · rintro ⟨hold, ⟨⟨holdId, hget⟩, hactive⟩, he⟩
    exact ⟨holdId, hold, hget, hactive, he⟩
  · rintro ⟨holdId, hold, hget, hactive, he⟩
    exact ⟨hold, ⟨⟨holdId, hget⟩, hactive⟩, he⟩

/-- How the holds and the held entities go with what was placed and released. -/
structure Agrees (w : World DataGovernanceManager) (history : List HoldEvent) : Prop where
  placed : ∀ holdId entityIds, .placed holdId entityIds ∈ history ↔
    ∃ hold, w.self.holds.get? holdId = some hold ∧ hold.entityIds = entityIds
  released : ∀ holdId, .released holdId ∈ history ↔
    ∃ hold, w.self.holds.get? holdId = some hold ∧ hold.isActive = false
  once : ∀ holdId, history.count (.released holdId) ≤ 1
  held : ∀ e, e ∈ w.self.heldEntities ↔ ∃ holdId hold,
    w.self.holds.get? holdId = some hold ∧ hold.isActive ∧ e ∈ hold.entityIds

theorem Agrees.place {w' : World DataGovernanceManager} {history : List HoldEvent}
    (h : Agrees w history) {hold : LegalHold} (hnew : hold.holdId ∉ w.self.holds)
    (hactive : hold.isActive) (hholds : w'.self.holds = w.self.holds.set hold.holdId hold)
    (hheld : w'.self.heldEntities = w.self.heldEntities ∪ hold.entityIds.toFinset) :
    Agrees w' (history ++ [.placed hold.holdId hold.entityIds]) := by
  have hnone : w.self.holds.get? hold.holdId = none := Dict.get?_eq_none.mpr hnew
  constructor
  · intro holdId entityIds
    rw [List.mem_append, h.placed, hholds, Dict.get?_set]
    by_cases hid : holdId = hold.holdId
    · subst hid
      simp [hnone, eq_comm]
    · simp [hid]
  · intro holdId
    rw [List.mem_append, h.released, hholds, Dict.get?_set]
    by_cases hid : holdId = hold.holdId
    · subst hid
      simp [hnone, hactive]
    · simp [hid]
  · intro holdId
    rw [List.count_append]
    simpa using h.once holdId
  · intro e
    rw [hheld, Finset.mem_union, List.mem_toFinset, h.held, hholds]
    constructor
    · rintro (⟨holdId, old, hget, hcovers⟩ | he)
      · have hid : holdId ≠ hold.holdId := fun heq => hnew (heq ▸ Dict.mem_of_get? hget)
        exact ⟨holdId, old, by rwa [Dict.get?_set_of_ne hid], hcovers⟩
      · exact ⟨hold.holdId, hold, Dict.get?_set_self _ _ _, hactive, he⟩
    · rintro ⟨holdId, found, hget, hfound, he⟩
      rw [Dict.get?_set] at hget
      split at hget
      · obtain rfl := Option.some.inj hget
        exact Or.inr he
      · exact Or.inl ⟨holdId, found, hget, hfound, he⟩

theorem Agrees.release {w' : World DataGovernanceManager} {history : List HoldEvent}
    (h : Agrees w history) {holdId : String} {hold new : LegalHold}
    (hstored : w.self.holds.get? holdId = some hold) (hactive : hold.isActive)
    (hdone : new.isActive = false) (hentities : new.entityIds = hold.entityIds)
    (hholds : w'.self.holds = w.self.holds.set holdId new)
    (hheld : w'.self.heldEntities = activeHeld (w.self.holds.set holdId new)) :
    Agrees w' (history ++ [.released holdId]) := by
  constructor
  · intro k entityIds
    rw [List.mem_append, h.placed, hholds, Dict.get?_set]
    by_cases hid : k = holdId
    · subst hid
      simp [hstored, hentities]
    · simp [hid]
  · intro k
    rw [List.mem_append, h.released, hholds, Dict.get?_set]
    by_cases hid : k = holdId
    · subst hid
      simp [hdone]
    · simp [hid]
  · intro k
    rw [List.count_append]
    by_cases hid : k = holdId
    · subst hid
      have hnot : .released k ∉ history := by
        rw [h.released]
        rintro ⟨old, hold, hinactive⟩
        obtain rfl := Option.some.inj (hstored.symm.trans hold)
        simp [hactive] at hinactive
      rw [List.count_eq_zero_of_not_mem hnot]
      simp
    · have hne : HoldEvent.released holdId ≠ .released k := by simpa using Ne.symm hid
      simpa [hne] using h.once k
  · intro e
    rw [hheld, mem_activeHeld, hholds]

end Steps

theorem names (rt : Runtime) : Names (holdStep rt) (fun w => w.env.draws) rt.uuid4
    fun w holdId => holdId ∈ w.self.holds where
  draws_le := by
    intro call w
    have heffect := effect rt w call
    generalize holdEvent rt call w = events at heffect
    cases heffect with
    | raised hdraws _ => exact hdraws
    | placed _ _ hdraws _ _ => exact hdraws.le
    | released _ _ _ _ hdraws _ _ => exact hdraws
  drawn := by
    intro call w holdId hmem
    have heffect := effect rt w call
    generalize holdEvent rt call w = events at heffect
    cases heffect with
    | raised _ hself =>
      rw [hself] at hmem
      exact Or.inl hmem
    | placed hid _ hdraws hholds _ =>
      rw [hholds, Dict.mem_set] at hmem
      rcases hmem with rfl | hmem
      · exact Or.inr ⟨_, le_rfl, hdraws, hid⟩
      · exact Or.inl hmem
    | released hstored _ _ _ _ hholds _ =>
      rw [hholds, Dict.mem_set] at hmem
      rcases hmem with rfl | hmem
      · exact Or.inl (Dict.mem_of_get? hstored)
      · exact Or.inl hmem

theorem Agrees.step {rt : Runtime} {call : HoldCall} {w : World DataGovernanceManager}
    {history : List HoldEvent} (h : Agrees w history)
    (hnew : ∀ n, w.env.draws ≤ n → n < (holdStep rt call w).env.draws → rt.uuid4 n ∉ w.self.holds) :
    Agrees (holdStep rt call w) (history ++ holdEvent rt call w) := by
  have heffect := effect rt w call
  revert hnew heffect
  generalize holdEvent rt call w = events
  generalize holdStep rt call w = w'
  intro hnew heffect
  cases heffect with
  | raised _ hself =>
    obtain ⟨hplaced, hreleased, honce, hheld⟩ := h
    rw [List.append_nil]
    exact ⟨by rwa [hself], by rwa [hself], honce, by rwa [hself]⟩
  | placed hid hactive hdraws hholds hheld =>
    exact h.place (hid ▸ hnew _ le_rfl hdraws) hactive hholds hheld
  | released hstored hactive hdone hentities _ hholds hheld =>
    exact h.release hstored hactive hdone hentities hholds hheld

/-- The holds placed and released over a run. -/
def holdEvents (rt : Runtime) (w : World DataGovernanceManager) (calls : List HoldCall) :
    List HoldEvent := trace (holdStep rt) (holdEvent rt) w calls

theorem agrees_run {rt : Runtime} {env : Env} {calls : List HoldCall} (huuid : Set.InjOn rt.uuid4
    (Set.Iio (run (holdStep rt) ⟨.new, env⟩ calls).env.draws)) :
    Agrees (run (holdStep rt) ⟨.new, env⟩ calls) (holdEvents rt ⟨.new, env⟩ calls) := by
  let J (w : World DataGovernanceManager) (history : List HoldEvent) (calls : List HoldCall) : Prop :=
    Agrees w history ∧ Fresh (holdStep rt) (fun w => w.env.draws) rt.uuid4
      (fun w holdId => holdId ∈ w.self.holds) w calls
  have hstep : ∀ call w history calls, J w history (call :: calls) →
      J (holdStep rt call w) (history ++ holdEvent rt call w) calls := by
    rintro call w history calls ⟨hagrees, hfresh⟩
    exact ⟨hagrees.step fun n hle hlt => (names rt).not_has hfresh hle hlt,
      (names rt).fresh_step hfresh⟩
  have hnew : Agrees ⟨.new, env⟩ [] := by
    constructor <;> simp [DataGovernanceManager.new]
  have hfresh : Fresh (holdStep rt) (fun w => w.env.draws) rt.uuid4
      (fun w holdId => holdId ∈ w.self.holds) ⟨.new, env⟩ calls :=
    ⟨huuid, fun holdId hmem => absurd hmem (Dict.not_mem_empty holdId)⟩
  exact (trace_resource (holdStep rt) (holdEvent rt) hstep ⟨hnew, hfresh⟩).1

/-- After every sequence of calls an entity is on hold exactly when some hold that lists it was
placed and has not been released; deletion is refused exactly then; a hold is released at most once;
and a call that raises changes nothing. -/
theorem legal_holds (rt : Runtime) (env : Env) (calls : List HoldCall) (huuid : Set.InjOn rt.uuid4
    (Set.Iio (run (holdStep rt) ⟨.new, env⟩ calls).env.draws)) :
    let m := (run (holdStep rt) ⟨.new, env⟩ calls).self
    let history := holdEvents rt ⟨.new, env⟩ calls
    (∀ e, m.isOnHold e = true ↔ ∃ holdId entityIds, .placed holdId entityIds ∈ history ∧
      .released holdId ∉ history ∧ e ∈ entityIds) ∧
    (∀ e, (m.canDelete e).1 = false ↔ m.isOnHold e = true) ∧
    (∀ holdId, history.count (.released holdId) ≤ 1) ∧
    ∀ before call after, calls = before ++ call :: after →
      (call.perform rt).returns (run (holdStep rt) ⟨.new, env⟩ before) = false →
        (holdStep rt call (run (holdStep rt) ⟨.new, env⟩ before)).self =
          (run (holdStep rt) ⟨.new, env⟩ before).self := by
  intro m history
  have hagrees : Agrees (run (holdStep rt) ⟨.new, env⟩ calls) history := agrees_run huuid
  refine ⟨fun e => ?_, fun e => ?_, hagrees.once, fun before call after _ hraised => ?_⟩
  · rw [isOnHold, decide_eq_true_iff, hagrees.held]
    constructor
    · rintro ⟨holdId, hold, hget, hactive, he⟩
      refine ⟨holdId, hold.entityIds, (hagrees.placed _ _).mpr ⟨hold, hget, rfl⟩, ?_, he⟩
      rw [hagrees.released]
      rintro ⟨old, hold', hinactive⟩
      obtain rfl := Option.some.inj (hget.symm.trans hold')
      simp [hactive] at hinactive
    · rintro ⟨holdId, entityIds, hplaced, hreleased, he⟩
      obtain ⟨hold, hget, rfl⟩ := (hagrees.placed _ _).mp hplaced
      rw [hagrees.released] at hreleased
      refine ⟨holdId, hold, hget, ?_, he⟩
      by_contra hinactive
      exact hreleased ⟨hold, hget, Bool.eq_false_iff.mpr hinactive⟩
  · unfold canDelete
    split <;> simp_all
  · cases call with
    | placeHold => cases hraised
    | releaseHold holdId releasedBy =>
      generalize run (holdStep rt) ⟨.new, env⟩ before = w at hraised ⊢
      rcases release_cases rt w holdId releasedBy with ⟨e, hrun⟩ |
        ⟨hold, new, -, -, -, -, hrun⟩
      · rw [holdStep, HoldCall.perform, after_error hrun]
      · rw [HoldCall.perform, returns, hrun] at hraised
        cases hraised

/-- Two holds on one entity, of which one is released, twice. -/
def overlappingHolds : List HoldCall :=
  [.placeHold "audit" "" ["obj-1", "obj-2"] ["invoice"] "legal" "counsel" "acme",
    .placeHold "dispute" "" ["obj-1"] ["invoice"] "legal" "counsel" "acme",
    .releaseHold (Runtime.reference.uuid4 0) "legal",
    .releaseHold (Runtime.reference.uuid4 0) "legal"]

theorem legal_holds_overlapping :
    let m := (run (holdStep .reference) ⟨.new, .initial "acme"⟩ overlappingHolds).self
    let history := holdEvents .reference ⟨.new, .initial "acme"⟩ overlappingHolds
    (∀ e, m.isOnHold e = true ↔ ∃ holdId entityIds, .placed holdId entityIds ∈ history ∧
      .released holdId ∉ history ∧ e ∈ entityIds) ∧
    (∀ e, (m.canDelete e).1 = false ↔ m.isOnHold e = true) ∧
    (∀ holdId, history.count (.released holdId) ≤ 1) ∧
    ∀ before call after, overlappingHolds = before ++ call :: after →
      (call.perform .reference).returns
          (run (holdStep .reference) ⟨.new, .initial "acme"⟩ before) = false →
        (holdStep .reference call
            (run (holdStep .reference) ⟨.new, .initial "acme"⟩ before)).self =
          (run (holdStep .reference) ⟨.new, .initial "acme"⟩ before).self := by
  apply legal_holds
  apply Runtime.reference_uuid4.mono
  apply Set.Iio_subset_Iio
  decide +kernel

end ControlFabric.Governance
