import ControlFabric.Fabric.ControlObject

/-! What the methods of an object and the module functions do. -/
namespace ControlFabric.Fabric
open Lib Py Method
namespace ControlObject
variable (rt : Runtime)

/-- What no method of an object assigns. -/
structure SameIdentity (obj obj' : ControlObject) : Prop where
  id : obj'.id = obj.id
  tenantId : obj'.tenantId = obj.tenantId
  objectType : obj'.objectType = obj.objectType
  objectKind : obj'.objectKind = obj.objectKind
  plane : obj'.plane = obj.plane
  version : obj'.version = obj.version
  confidence : obj'.confidence = obj.confidence
  derivedFrom : obj'.derivedFrom = obj.derivedFrom

theorem SameIdentity.refl (obj : ControlObject) : obj.SameIdentity obj :=
  ⟨rfl, rfl, rfl, rfl, rfl, rfl, rfl, rfl⟩

theorem SameIdentity.trans {obj obj' obj'' : ControlObject} (h : obj.SameIdentity obj')
    (h' : obj'.SameIdentity obj'') : obj.SameIdentity obj'' where
  id := h'.id.trans h.id
  tenantId := h'.tenantId.trans h.tenantId
  objectType := h'.objectType.trans h.objectType
  objectKind := h'.objectKind.trans h.objectKind
  plane := h'.plane.trans h.plane
  version := h'.version.trans h.version
  confidence := h'.confidence.trans h.confidence
  derivedFrom := h'.derivedFrom.trans h.derivedFrom

/-- The same object with this state, payload and successor, and the same evidence. -/
structure Becomes (obj obj' : ControlObject) (state : ControlState) (payload : JsonDict)
    (supersededBy : Option String) : Prop extends SameIdentity obj obj' where
  evidence : obj'.evidence = obj.evidence
  state : obj'.state = state
  payload : obj'.payload = payload
  supersededBy : obj'.supersededBy = supersededBy

/-- The object behind a transition. -/
def moved (obj : ControlObject) (newState : ControlState) (updatedAt : DateTime)
    (audit : AuditContext) : ControlObject :=
  { obj with
    state := newState
    updatedAt := updatedAt
    auditTrail := obj.auditTrail ++ [audit] }

theorem becomes_moved (obj : ControlObject) (newState : ControlState) (updatedAt : DateTime)
    (audit : AuditContext) :
    obj.Becomes (obj.moved newState updatedAt audit) newState obj.payload obj.supersededBy :=
  ⟨⟨rfl, rfl, rfl, rfl, rfl, rfl, rfl, rfl⟩, rfl, rfl, rfl, rfl⟩

theorem run_transitionState_ok {newState : ControlState} (audit : AuditContext)
    {w : World ControlObject} (h : newState ∈ w.self.state.validStateTransitions) :
    (transitionState rt newState audit).run w =
      .ok () ⟨w.self.moved newState (rt.now w.env.draws) audit, w.env.tick 1⟩ := by
  unfold transitionState
  rw [EStateM.run_bind, run_self]
  dsimp only
  rw [if_neg (not_not.mpr h)]
  rfl

theorem run_transitionState_error {newState : ControlState} (audit : AuditContext)
    {w : World ControlObject} (h : newState ∉ w.self.state.validStateTransitions) :
    ∃ e, (transitionState rt newState audit).run w = .error e w := by
  unfold transitionState
  rw [EStateM.run_bind, run_self]
  dsimp only
  rw [if_pos h]
  exact ⟨_, rfl⟩

/-- The object referring to a new version. -/
def referring (obj : ControlObject) (newVersionId : String) : ControlObject :=
  { obj with supersededBy := some newVersionId }

theorem becomes_referring (obj : ControlObject) (newVersionId : String) :
    obj.Becomes (obj.referring newVersionId) obj.state obj.payload (some newVersionId) :=
  ⟨⟨rfl, rfl, rfl, rfl, rfl, rfl, rfl, rfl⟩, rfl, rfl, rfl, rfl⟩

theorem run_supersede_ok (newVersionId : String) (audit : AuditContext) {w : World ControlObject}
    (h : ControlState.superseded ∈ w.self.state.validStateTransitions) :
    ∃ obj', w.self.Becomes obj' .superseded w.self.payload (some newVersionId) ∧
      (supersede rt newVersionId audit).run w = .ok () ⟨obj', w.env.tick 1⟩ := by
  have hrun := run_transitionState_ok rt audit (w := ⟨w.self.referring newVersionId, w.env⟩) h
  refine ⟨_, ?_, hrun⟩
  exact ⟨⟨rfl, rfl, rfl, rfl, rfl, rfl, rfl, rfl⟩, rfl, rfl, rfl, rfl⟩

/-- The reference stays behind when the transition is refused. -/
theorem run_supersede_error (newVersionId : String) (audit : AuditContext)
    {w : World ControlObject} (h : ControlState.superseded ∉ w.self.state.validStateTransitions) :
    ∃ e, (supersede rt newVersionId audit).run w =
      .error e ⟨w.self.referring newVersionId, w.env⟩ :=
  run_transitionState_error rt audit (w := ⟨w.self.referring newVersionId, w.env⟩) h

/-- The state that enriching leads to. -/
def enrichedState (obj : ControlObject) : ControlState :=
  if obj.state = .active then .enriched else obj.state

theorem run_enrich_ok (payloadUpdate : JsonDict) (audit : AuditContext) {w : World ControlObject}
    (h : w.self.state ≠ .frozen) :
    ∃ obj', w.self.Becomes obj' w.self.enrichedState (updateDict w.self.payload payloadUpdate)
        w.self.supersededBy ∧
      (enrich rt payloadUpdate audit).run w = .ok () ⟨obj', w.env.tick 1⟩ := by
  unfold enrich enrichedState
  rw [EStateM.run_bind, run_self]
  dsimp only
  rw [if_neg h]
  by_cases hactive : w.self.state = .active
  · have hvalid : ControlState.enriched ∈ w.self.state.validStateTransitions := by
      rw [hactive]
      decide
    rw [if_pos hactive, if_pos hactive]
    refine ⟨_, ?_, run_transitionState_ok rt audit hvalid⟩
    exact ⟨⟨rfl, rfl, rfl, rfl, rfl, rfl, rfl, rfl⟩, rfl, rfl, rfl, rfl⟩
  · rw [if_neg hactive, if_neg hactive]
    refine ⟨_, ?_, rfl⟩
    exact ⟨⟨rfl, rfl, rfl, rfl, rfl, rfl, rfl, rfl⟩, rfl, rfl, rfl, rfl⟩

theorem run_enrich_error (payloadUpdate : JsonDict) (audit : AuditContext)
    {w : World ControlObject} (h : w.self.state = .frozen) :
    ∃ e, (enrich rt payloadUpdate audit).run w = .error e w := by
  unfold enrich
  rw [EStateM.run_bind, run_self]
  dsimp only
  rw [if_pos h]
  exact ⟨_, rfl⟩

theorem run_freeze_ok (audit : AuditContext) {w : World ControlObject}
    (h : w.self.state = .active ∨ w.self.state = .enriched) :
    (freeze rt audit).run w =
      .ok () ⟨w.self.moved .frozen (rt.now w.env.draws) audit, w.env.tick 1⟩ := by
  have hvalid : ControlState.frozen ∈ w.self.state.validStateTransitions := by
    rcases h with h | h <;> rw [h] <;> decide
  unfold freeze
  rw [EStateM.run_bind, run_self]
  dsimp only
  rw [if_pos h]
  exact run_transitionState_ok rt audit hvalid

theorem run_freeze_error (audit : AuditContext) {w : World ControlObject}
    (h : ¬ (w.self.state = .active ∨ w.self.state = .enriched)) :
    ∃ e, (freeze rt audit).run w = .error e w := by
  unfold freeze
  rw [EStateM.run_bind, run_self]
  dsimp only
  rw [if_neg h]
  exact ⟨_, rfl⟩

end ControlObject

section Build
variable {σ : Type} (rt : Runtime) (uc : Unicode)

/-- The checks of `build_control_object`. -/
def ControlObjectCreate.Buildable (create : ControlObjectCreate) : Prop :=
  strStrip uc create.label.toList ≠ [] ∧ strStrip uc create.domain.toList ≠ [] ∧
    0 ≤ create.confidence ∧ create.confidence ≤ 1

/-- A request that passes the checks. -/
def ControlObjectCreate.workOrder (plane : PlaneType) : ControlObjectCreate :=
  { objectType := .workOrder, plane := plane, domain := "field", label := "visit" }

theorem ControlObjectCreate.workOrder_buildable (plane : PlaneType) :
    (workOrder plane).Buildable .ascii := by
  refine ⟨?_, ?_, ?_, le_rfl⟩
  · show strStrip .ascii "visit".toList ≠ []
    decide
  · show strStrip .ascii "field".toList ≠ []
    decide
  · show (0 : ℚ) ≤ 1
    decide

/-- A new object in its first state, with the contents asked for. -/
structure ControlObjectCreate.Built (create : ControlObjectCreate) (tenantId : String)
    (obj : ControlObject) : Prop where
  tenantId : obj.tenantId = tenantId
  objectType : obj.objectType = create.objectType
  objectKind : obj.objectKind = create.objectKind
  plane : obj.plane = create.plane
  version : obj.version = 1
  derivedFrom : obj.derivedFrom = create.derivedFrom
  state : obj.state = .draft
  supersededBy : obj.supersededBy = none

theorem run_buildControlObject_ok (tenantId : String) {create : ControlObjectCreate}
    (actor : String) (w : World σ) (h : create.Buildable uc) :
    ∃ obj, obj.id = rt.uuid4 w.env.draws ∧ create.Built tenantId obj ∧
      (buildControlObject rt uc tenantId create actor).run w = .ok obj ⟨w.self, w.env.tick 1⟩ := by
  obtain ⟨hlabel, hdomain, hlow, hhigh⟩ := h
  unfold buildControlObject
  rw [if_neg hlabel, if_neg hdomain, if_neg (not_or.mpr ⟨not_lt.mpr hlow, not_lt.mpr hhigh⟩)]
  refine ⟨_, ?_, ?_, rfl⟩
  · rfl
  · exact ⟨rfl, rfl, rfl, rfl, rfl, rfl, rfl, rfl⟩

theorem run_buildControlObject_error (tenantId : String) {create : ControlObjectCreate}
    (actor : String) (w : World σ) (h : ¬ create.Buildable uc) :
    ∃ e, (buildControlObject rt uc tenantId create actor).run w = .error e w := by
  unfold buildControlObject
  split_ifs with hlabel hdomain hconfidence
  · exact ⟨_, rfl⟩
  · exact ⟨_, rfl⟩
  · exact ⟨_, rfl⟩
  · obtain ⟨hlow, hhigh⟩ := not_or.mp hconfidence
    exact absurd ⟨hlabel, hdomain, not_lt.mp hlow, not_lt.mp hhigh⟩ h

theorem run_supersedeObject_error {update : ControlObjectCreate} (actor : String)
    {w : World ControlObject} (h : ¬ update.Buildable uc) :
    ∃ e, (supersedeObject rt uc update actor).run w = .error e w := by
  obtain ⟨e, he⟩ := run_buildControlObject_error rt uc w.self.tenantId actor w h
  unfold supersedeObject
  rw [EStateM.run_bind, run_self]
  dsimp only
  rw [EStateM.run_bind, he]
  exact ⟨e, rfl⟩

/-- The original refers to the new version before it is known whether it may be superseded. -/
theorem run_supersedeObject_invalid {update : ControlObjectCreate} (actor : String)
    {w : World ControlObject} (h : update.Buildable uc)
    (hinvalid : ControlState.superseded ∉ w.self.state.validStateTransitions) :
    ∃ e, (supersedeObject rt uc update actor).run w =
      .error e ⟨w.self.referring (rt.uuid4 w.env.draws), w.env.tick 2⟩ := by
  obtain ⟨built, hid, -, hbuilt⟩ := run_buildControlObject_ok rt uc w.self.tenantId actor w h
  obtain ⟨e, he⟩ := ControlObject.run_supersede_error rt (rt.uuid4 w.env.draws)
    { actor := actor, action := "superseded", timestamp := rt.now (w.env.draws + 1) }
    (w := ⟨w.self, w.env.tick 2⟩) hinvalid
  unfold supersedeObject
  rw [EStateM.run_bind, run_self]
  dsimp only
  rw [EStateM.run_bind, hbuilt]
  dsimp only
  rw [EStateM.run_bind, run_draw_tick, Env.tick_tick, hid]
  dsimp only
  rw [EStateM.run_bind, Env.tick_draws, he]
  exact ⟨e, rfl⟩

/-- A new version of an object, made from an update. -/
structure ControlObjectCreate.Successor (update : ControlObjectCreate)
    (original newObj : ControlObject) : Prop where
  tenantId : newObj.tenantId = original.tenantId
  objectType : newObj.objectType = update.objectType
  objectKind : newObj.objectKind = update.objectKind
  plane : newObj.plane = update.plane
  version : newObj.version = original.version + 1
  derivedFrom : newObj.derivedFrom = [original.id]
  supersededBy : newObj.supersededBy = none

/-- What happens to the new version later does not matter. -/
theorem ControlObjectCreate.Successor.becomes {update : ControlObjectCreate}
    {original newObj newObj' : ControlObject} {state : ControlState} {payload : JsonDict}
    (h : update.Successor original newObj)
    (h' : newObj.Becomes newObj' state payload newObj.supersededBy) :
    update.Successor original newObj' where
  tenantId := h'.tenantId.trans h.tenantId
  objectType := h'.objectType.trans h.objectType
  objectKind := h'.objectKind.trans h.objectKind
  plane := h'.plane.trans h.plane
  version := h'.version.trans h.version
  derivedFrom := h'.derivedFrom.trans h.derivedFrom
  supersededBy := h'.supersededBy.trans h.supersededBy

/-- A built object as the new version of an original. -/
def ControlObject.newVersion (built original : ControlObject) : ControlObject :=
  { built with version := original.version + 1, derivedFrom := [original.id] }

theorem run_supersedeObject_ok {update : ControlObjectCreate} (actor : String)
    {w : World ControlObject} (h : update.Buildable uc)
    (hvalid : ControlState.superseded ∈ w.self.state.validStateTransitions) :
    ∃ newObj original, newObj.id = rt.uuid4 w.env.draws ∧ update.Successor w.self newObj ∧
      newObj.state = .draft ∧
      w.self.Becomes original .superseded w.self.payload (some newObj.id) ∧
      (supersedeObject rt uc update actor).run w = .ok newObj ⟨original, w.env.tick 3⟩ := by
  obtain ⟨built, hid, hnew, hbuilt⟩ := run_buildControlObject_ok rt uc w.self.tenantId actor w h
  obtain ⟨original, hbecomes, hsupersede⟩ :=
    ControlObject.run_supersede_ok rt built.id
      { actor := actor, action := "superseded", timestamp := rt.now (w.env.draws + 1) }
      (w := ⟨w.self, w.env.tick 2⟩) hvalid
  have hsuccessor : update.Successor w.self (built.newVersion w.self) :=
    ⟨hnew.tenantId, hnew.objectType, hnew.objectKind, hnew.plane, rfl, rfl, hnew.supersededBy⟩
  refine ⟨built.newVersion w.self, original, hid, hsuccessor, hnew.state, hbecomes, ?_⟩
  unfold supersedeObject
  rw [EStateM.run_bind, run_self]
  dsimp only
  rw [EStateM.run_bind, hbuilt]
  dsimp only
  rw [EStateM.run_bind, run_draw_tick, Env.tick_tick]
  dsimp only
  rw [EStateM.run_bind, Env.tick_draws, hsupersede, Env.tick_tick]
  rfl

theorem run_buildControlLink (tenantId : String) (create : ControlLinkCreate)
    (sourcePlane targetPlane : Option PlaneType) (w : World σ) :
    ∃ link, link.id = rt.uuid4 w.env.draws ∧ link.tenantId = tenantId ∧
      link.sourceId = create.sourceId ∧ link.targetId = create.targetId ∧
      link.linkType = create.linkType ∧
      (buildControlLink rt tenantId create sourcePlane targetPlane).run w =
        .ok link ⟨w.self, w.env.tick 1⟩ := by
  refine ⟨_, ?_, ?_, ?_, ?_, ?_, rfl⟩ <;> rfl

end Build
end ControlFabric.Fabric
