import ControlFabric.Fabric.Effects

/-! Every operation of a graph service ends in one of its effects. -/
namespace ControlFabric.Fabric
open Lib Py Method

/-- Objects are stored under their own identifiers. -/
def InMemoryGraphRepository.Keyed (repo : InMemoryGraphRepository) : Prop :=
  ∀ id obj, repo.objects.get? id = some obj → obj.id = id

section Outcome
variable {α β : Type} {rt : Runtime} {uc : Unicode} {op : GraphServiceOp} {w : World GraphService}

/-- The call ends within seven draws, in an effect of the operation. -/
def Outcome (rt : Runtime) (uc : Unicode) (op : GraphServiceOp) (m : Method GraphService α)
    (w : World GraphService) : Prop :=
  ∃ k ≤ 7, ∃ raised s, Leads m w k raised s ∧ Effect (rt.fresh w.env k) uc w.self op raised s

theorem Outcome.map {m : Method GraphService α} (f : α → β) (h : Outcome rt uc op m w) :
    Outcome rt uc op (f <$> m) w := by
  obtain ⟨k, hk, raised, s, hleads, heffect⟩ := h
  exact ⟨k, hk, raised, s, hleads.map f, heffect⟩

theorem announces_stateChanged {obj obj' : ControlObject} (hid : obj'.id = obj.id)
    {e : FabricAuditEvent} (hobject : e.controlObjectId = some obj'.id)
    (hlink : e.controlLinkId = none) (htype : e.eventType ≠ .controlObjectCreated)
    (hnew : e.newState = some obj'.state) (hprevious : ∀ p ∈ e.previousState, p = obj.state) :
    Announces e obj obj' where
  about := ⟨by rw [hobject, hid], hlink⟩
  eventType := htype
  follow := by
    unfold FabricAuditEvent.follow
    rw [hnew]
    exact if_pos hprevious

variable {objectId : String}

theorem outcome_missing {f : ControlObject → Method GraphService ControlObject}
    (hget : w.self.repo.objects.get? objectId = none) (hop : op.Rejected uc w.self) :
    Outcome rt uc op (GraphService.withObject objectId f) w :=
  ⟨0, Nat.zero_le 7, false, w.self, leads_withObject_none hget, .rejected hop⟩

variable {obj obj' : ControlObject} {m : ℕ → Method ControlObject Unit}
  {rest : ControlObject → ControlObject → Method GraphService ControlObject}

theorem outcome_refused (hget : w.self.repo.objects.get? objectId = some obj)
    (hid : obj.id = objectId)
    (hm : ∃ e, (m w.env.draws).run ⟨obj, w.env.tick 1⟩ = .error e ⟨obj, w.env.tick 1⟩)
    (hop : op.Rejected uc w.self) : Outcome rt uc op (changeStored objectId m rest) w := by
  obtain ⟨e, he⟩ := hm
  exact ⟨1, by omega, true, w.self, leads_refuse hget hid he, .rejected hop⟩

/-- The event of a change is logged behind it. -/
theorem outcome_changed {event : String → DateTime → FabricAuditEvent}
    (hget : w.self.repo.objects.get? objectId = some obj) (hid : obj.id = objectId)
    (hm : (m w.env.draws).run ⟨obj, w.env.tick 1⟩ = .ok () ⟨obj', w.env.tick 2⟩)
    (hrest : rest obj obj' = announceStored rt event obj') (hmoves : op.Moves obj obj'.state)
    (hbecomes : obj.Becomes obj' obj'.state (updateDict obj.payload op.payloadUpdate)
      obj.supersededBy)
    (hstate : obj'.state ≠ obj.state)
    (hevent : ∀ id timestamp, Announces (event id timestamp) obj obj') :
    Outcome rt uc op (changeStored objectId m rest) w := by
  have hstored : (GraphService.storeObject obj' w.self).repo.objects.get? obj'.id = some obj' :=
    Dict.get?_set_self _ _ _
  have hannounce := leads_announceStored rt event
    (w := ⟨GraphService.storeObject obj' w.self, w.env.tick 2⟩) hstored
  rw [← hrest] at hannounce
  exact ⟨3, by omega, _, _, leads_change hget hm hannounce,
    .changed (hid ▸ hget) hmoves hbecomes hstate (hevent _ _)⟩

/-- Nothing is logged behind a change that keeps the state. -/
theorem outcome_changedSilently (hget : w.self.repo.objects.get? objectId = some obj)
    (hid : obj.id = objectId)
    (hm : (m w.env.draws).run ⟨obj, w.env.tick 1⟩ = .ok () ⟨obj', w.env.tick 2⟩)
    (hrest : rest obj obj' = do
      assign (GraphService.storeObject obj')
      return obj')
    (hmoves : op.Moves obj obj'.state)
    (hbecomes : obj.Becomes obj' obj.state (updateDict obj.payload op.payloadUpdate)
      obj.supersededBy) : Outcome rt uc op (changeStored objectId m rest) w := by
  have hagain : GraphService.storeObject obj' (GraphService.storeObject obj' w.self) =
      GraphService.storeObject obj' w.self := GraphService.storeObject_storeObject rfl w.self
  have hstored : Leads (rest obj obj') ⟨GraphService.storeObject obj' w.self, w.env.tick 2⟩ 0 false
      (GraphService.storeObject obj' w.self) := by
    apply leads_ok (a := obj')
    rw [hrest, EStateM.run_bind, run_assign]
    dsimp only
    rw [hagain]
    rfl
  exact ⟨2, by omega, _, _, leads_change hget hm hstored,
    .changedSilently (hid ▸ hget) hmoves hbecomes⟩

end Outcome

section Operations
variable {rt : Runtime} {uc : Unicode} {w : World GraphService}

theorem outcome_freezeObject (hkeyed : w.self.repo.Keyed) (objectId actor : String) :
    Outcome rt uc (.freezeObject objectId actor) (GraphService.freezeObject rt objectId actor) w := by
  cases hget : w.self.repo.objects.get? objectId with
  | none => exact outcome_missing hget (Dict.forall_get?_of_none hget)
  | some obj =>
    have hid := hkeyed objectId obj hget
    by_cases hvalid : obj.state = .active ∨ obj.state = .enriched
    · have hrun := ControlObject.run_freeze_ok rt
        { actor := actor, action := "frozen", timestamp := rt.now w.env.draws }
        (w := ⟨obj, w.env.tick 1⟩) hvalid
      have hne : ControlState.frozen ≠ obj.state := by
        rcases hvalid with hactive | henriched
        · rw [hactive]
          decide
        · rw [henriched]
          decide
      have hmoves : GraphServiceOp.Moves obj .frozen (.freezeObject objectId actor) :=
        ⟨hid.symm, hvalid, rfl⟩
      apply outcome_changed hget hid hrun rfl hmoves (obj.becomes_moved _ _ _) hne
      intro id timestamp
      exact announces_stateChanged (obj.becomes_moved _ _ _).id rfl rfl nofun rfl nofun
    · exact outcome_refused hget hid
        (ControlObject.run_freeze_error rt _ (w := ⟨obj, w.env.tick 1⟩) hvalid)
        ((Dict.forall_get?_of_some hget).mpr hvalid)

theorem ne_of_mem_validStateTransitions {state newState : ControlState}
    (h : newState ∈ state.validStateTransitions) : newState ≠ state := by
  rintro rfl
  exact newState.not_mem_validStateTransitions_self h

theorem outcome_deprecateObject (hkeyed : w.self.repo.Keyed) (objectId actor : String) :
    Outcome rt uc (.deprecateObject objectId actor)
      (GraphService.deprecateObject rt objectId actor) w := by
  cases hget : w.self.repo.objects.get? objectId with
  | none => exact outcome_missing hget (Dict.forall_get?_of_none hget)
  | some obj =>
    have hid := hkeyed objectId obj hget
    by_cases hvalid : ControlState.deprecated ∈ obj.state.validStateTransitions
    · have hrun := ControlObject.run_transitionState_ok rt
        { actor := actor, action := "deprecated", timestamp := rt.now w.env.draws }
        (w := ⟨obj, w.env.tick 1⟩) hvalid
      have hne := ne_of_mem_validStateTransitions hvalid
      have hmoves : GraphServiceOp.Moves obj .deprecated (.deprecateObject objectId actor) :=
        ⟨hid.symm, hvalid, rfl⟩
      apply outcome_changed hget hid hrun rfl hmoves (obj.becomes_moved _ _ _) hne
      intro id timestamp
      exact announces_stateChanged (obj.becomes_moved _ _ _).id rfl rfl nofun rfl nofun
    · exact outcome_refused hget hid
        (ControlObject.run_transitionState_error rt _ (w := ⟨obj, w.env.tick 1⟩) hvalid)
        ((Dict.forall_get?_of_some hget).mpr hvalid)

theorem stateToEvent_ne_created (state : ControlState) :
    FabricAuditHook.stateToEvent state ≠ .controlObjectCreated := by
  cases state <;> nofun

theorem outcome_transitionObject (hkeyed : w.self.repo.Keyed) (objectId : String)
    (newState : ControlState) (actor : String) (reason : Option String) :
    Outcome rt uc (.transitionObject objectId newState actor reason)
      (GraphService.transitionObject rt objectId newState actor reason) w := by
  cases hget : w.self.repo.objects.get? objectId with
  | none => exact outcome_missing hget (Dict.forall_get?_of_none hget)
  | some obj =>
    have hid := hkeyed objectId obj hget
    by_cases hvalid : newState ∈ obj.state.validStateTransitions
    · have hrun := ControlObject.run_transitionState_ok rt
        { actor := actor
          action := s!"transitioned_to_{newState.value}"
          reason := reason
          timestamp := rt.now w.env.draws }
        (w := ⟨obj, w.env.tick 1⟩) hvalid
      have hne := ne_of_mem_validStateTransitions hvalid
      have hmoves : GraphServiceOp.Moves obj newState
          (.transitionObject objectId newState actor reason) :=
        ⟨hid.symm, hvalid, rfl⟩
      apply outcome_changed hget hid hrun rfl hmoves (obj.becomes_moved _ _ _) hne
      intro id timestamp
      exact announces_stateChanged (obj.becomes_moved _ _ _).id rfl rfl
        (stateToEvent_ne_created newState) rfl (fun p hp => (Option.some.inj hp).symm)
    · exact outcome_refused hget hid
        (ControlObject.run_transitionState_error rt _ (w := ⟨obj, w.env.tick 1⟩) hvalid)
        ((Dict.forall_get?_of_some hget).mpr hvalid)

/-- An active object becomes enriched, with an event; one in another state changes silently. -/
theorem outcome_enrichObject (hkeyed : w.self.repo.Keyed) (objectId : String)
    (payloadUpdate : JsonDict) (actor : String) :
    Outcome rt uc (.enrichObject objectId payloadUpdate actor)
      (GraphService.enrichObject rt objectId payloadUpdate actor) w := by
  cases hget : w.self.repo.objects.get? objectId with
  | none => exact outcome_missing hget (Dict.forall_get?_of_none hget)
  | some obj =>
    have hid := hkeyed objectId obj hget
    by_cases hfrozen : obj.state = .frozen
    · exact outcome_refused hget hid
        (ControlObject.run_enrich_error rt _ _ (w := ⟨obj, w.env.tick 1⟩) hfrozen)
        ((Dict.forall_get?_of_some hget).mpr hfrozen)
    obtain ⟨obj', hbecomes, hrun⟩ := ControlObject.run_enrich_ok rt payloadUpdate
      { actor := actor, action := "enriched", timestamp := rt.now w.env.draws }
      (w := ⟨obj, w.env.tick 1⟩) hfrozen
    dsimp only at hbecomes
    have hmoves : GraphServiceOp.Moves obj obj'.state (.enrichObject objectId payloadUpdate actor) :=
      ⟨hid.symm, hfrozen, hbecomes.state⟩
    by_cases hactive : obj.state = .active
    · have hne : obj'.state ≠ obj.state := by
        rw [hbecomes.state, ControlObject.enrichedState, if_pos hactive, hactive]
        decide
      rw [← hbecomes.state] at hbecomes
      apply outcome_changed hget hid hrun (if_pos hne) hmoves hbecomes hne
      intro id timestamp
      exact announces_stateChanged hbecomes.id rfl rfl (stateToEvent_ne_created obj'.state) rfl
        (fun p hp => (Option.some.inj hp).symm)
    · have hsilent : obj'.state = obj.state := by
        rw [hbecomes.state, ControlObject.enrichedState, if_neg hactive]
      rw [← hbecomes.state, hsilent] at hbecomes
      exact outcome_changedSilently hget hid hrun (if_neg (not_not.mpr hsilent)) hmoves hbecomes

variable (rt) in
theorem controlObjectCreated_about (objectId tenantId : String) (plane : PlaneType)
    (domain actor : String) :
    ∃ event, FabricAuditHook.controlObjectCreated rt objectId tenantId plane domain actor =
        FabricAuditHook.emit rt event ∧
      ∀ id timestamp, (event id timestamp).About objectId ∧
        (event id timestamp).eventType = .controlObjectCreated ∧
        (event id timestamp).newState = some .draft := by
  unfold FabricAuditHook.controlObjectCreated
  refine ⟨_, rfl, ?_⟩
  intro id timestamp
  exact ⟨⟨rfl, rfl⟩, rfl, rfl⟩

variable (rt) in
theorem controlObjectStateChanged_about (objectId tenantId : String)
    (previousState newState : ControlState) (actor : String) :
    ∃ event, FabricAuditHook.controlObjectStateChanged rt objectId tenantId previousState newState
        actor = FabricAuditHook.emit rt event ∧
      ∀ id timestamp, (event id timestamp).About objectId ∧
        (event id timestamp).eventType ≠ .controlObjectCreated ∧
        (event id timestamp).follow previousState = some newState := by
  unfold FabricAuditHook.controlObjectStateChanged
  refine ⟨_, rfl, ?_⟩
  intro id timestamp
  refine ⟨⟨rfl, rfl⟩, stateToEvent_ne_created newState, ?_⟩
  exact if_pos (fun p hp => (Option.some.inj hp).symm)

variable (rt) in
theorem run_activateNew {obj : ControlObject} (hstate : obj.state = .draft) (audit : AuditContext)
    (w : World GraphService) :
    ∃ active, obj.Becomes active .active obj.payload obj.supersededBy ∧
      (GraphService.callNew obj (ControlObject.activate rt audit)).run w =
        .ok active ⟨w.self, w.env.tick 1⟩ := by
  have hvalid : ControlState.active ∈ obj.state.validStateTransitions := by
    rw [hstate]
    decide
  have hrun := ControlObject.run_transitionState_ok rt audit (w := ⟨obj, w.env⟩) hvalid
  exact ⟨_, obj.becomes_moved _ _ _, run_callNew_ok hrun⟩

/-- The end of creating an object that is activated at once. -/
def activateNew (rt : Runtime) (obj : ControlObject) (tenantId actor : String) :
    Method GraphService ControlObject := do
  let n ← draw
  let active ← GraphService.callNew obj (ControlObject.activate rt
    { actor := actor, action := "activated", timestamp := rt.now n })
  GraphService.hook (FabricAuditHook.controlObjectStateChanged rt obj.id tenantId obj.state
    active.state actor)
  assign (GraphService.storeObject active)
  return active

variable (rt) in
theorem leads_activateNew {obj : ControlObject} (hstate : obj.state = .draft)
    (tenantId actor : String) (w : World GraphService) :
    ∃ active event, obj.Becomes active .active obj.payload obj.supersededBy ∧
      event.About obj.id ∧ event.eventType ≠ .controlObjectCreated ∧
      event.follow .draft = some .active ∧
      (w.self.audit.objection ≠ none ∧
          Leads (activateNew rt obj tenantId actor) w 3 true (w.self.logged [event]) ∨
        Leads (activateNew rt obj tenantId actor) w 3 false
          (GraphService.storeObject active (w.self.logged [event]))) := by
  obtain ⟨active, hactive, hcall⟩ := run_activateNew rt hstate
    { actor := actor, action := "activated", timestamp := rt.now w.env.draws }
    ⟨w.self, w.env.tick 1⟩
  obtain ⟨event, hevent, habout⟩ := controlObjectStateChanged_about rt obj.id tenantId
    obj.state .active actor
  obtain ⟨habout, htype, hfollow⟩ := habout (rt.uuid4 (w.env.draws + 2)) (rt.now (w.env.draws + 2))
  rw [hstate] at hfollow
  refine ⟨active, _, hactive, habout, htype, hfollow, ?_⟩
  by_cases hobjection : w.self.audit.objection = none
  · apply Or.inr
    apply leads_draw
    apply Leads.after hcall
    dsimp only
    rw [hactive.state, hevent, Env.tick_tick]
    exact leads_hook_none rt event hobjection (leads_ok rfl)
  · refine Or.inl ⟨hobjection, ?_⟩
    apply leads_draw
    apply Leads.after hcall
    dsimp only
    rw [hactive.state, hevent, Env.tick_tick]
    exact leads_hook_some rt event hobjection

/-- The end of creating an object, behind its event. -/
def storeNew (rt : Runtime) (obj : ControlObject) (tenantId actor : String) (autoActivate : Bool) :
    Method GraphService ControlObject :=
  if autoActivate = true then activateNew rt obj tenantId actor
  else do
    assign (GraphService.storeObject obj)
    return obj

theorem leads_createObject {tenantId actor : String} {create : ControlObjectCreate}
    {autoActivate : Bool} {obj : ControlObject} {event : String → DateTime → FabricAuditEvent}
    {k : ℕ} {raised : Bool} {s : GraphService}
    (hrun : (buildControlObject rt uc tenantId create actor).run w =
      .ok obj ⟨w.self, w.env.tick 1⟩)
    (hevent : FabricAuditHook.controlObjectCreated rt obj.id tenantId obj.plane obj.domain actor =
      FabricAuditHook.emit rt event) (hobjection : w.self.audit.objection = none)
    (h : Leads (storeNew rt obj tenantId actor autoActivate)
      ⟨w.self.logged [event (rt.uuid4 (w.env.draws + 1)) (rt.now (w.env.draws + 1))],
        w.env.tick 2⟩ k raised s) :
    Leads (GraphService.createObject rt uc tenantId create actor autoActivate) w (k + 2) raised
      s := by
  apply Leads.after hrun
  rw [hevent]
  apply leads_hook_none rt event (w := ⟨w.self, w.env.tick 1⟩) hobjection
  rw [Env.tick_tick]
  exact h

theorem outcome_createObject (tenantId : String) (create : ControlObjectCreate) (actor : String)
    (autoActivate : Bool) :
    Outcome rt uc (.createObject tenantId create actor autoActivate)
      (GraphService.createObject rt uc tenantId create actor autoActivate) w := by
  by_cases hbuild : create.Buildable uc
  · obtain ⟨obj, hid, hbuilt, hrun⟩ := run_buildControlObject_ok rt uc tenantId actor w hbuild
    obtain ⟨event, hevent, habout⟩ := controlObjectCreated_about rt obj.id tenantId
      obj.plane obj.domain actor
    obtain ⟨habout, htype, hdraft⟩ := habout (rt.uuid4 (w.env.draws + 1)) (rt.now (w.env.draws + 1))
    have hfresh {k : ℕ} (hk : 0 < k) : obj.id ∈ rt.fresh w.env k := by
      rw [hid]
      exact rt.mem_fresh w.env hk
    by_cases hobjection : w.self.audit.objection = none
    · let logged := w.self.logged [event (rt.uuid4 (w.env.draws + 1)) (rt.now (w.env.draws + 1))]
      have hafter {raised : Bool} {k : ℕ} {s : GraphService}
          (h : Leads (storeNew rt obj tenantId actor autoActivate) ⟨logged, w.env.tick 2⟩ k raised
            s) : Leads (GraphService.createObject rt uc tenantId create actor autoActivate) w (k + 2)
              raised s := leads_createObject hrun hevent hobjection h
      unfold storeNew at hafter
      by_cases hauto : autoActivate = true
      · rw [if_pos hauto] at hafter
        obtain ⟨active, event', hactive, habout', htype', hfollow, hleads⟩ :=
          leads_activateNew rt hbuilt.state tenantId actor ⟨logged, w.env.tick 2⟩
        have hboth : ∀ e ∈ [event (rt.uuid4 (w.env.draws + 1)) (rt.now (w.env.draws + 1)), event'],
            e.About obj.id :=
          List.forall_mem_cons.mpr ⟨habout, List.forall_mem_singleton.mpr habout'⟩
        rw [GraphService.logged_logged] at hleads
        rcases hleads with ⟨-, hleads⟩ | hleads
        · exact ⟨5, by omega, true, _, hafter hleads, .unborn (hfresh (by omega)) hboth⟩
        · have hcreated : Created (rt.fresh w.env 5) create tenantId active
              (event (rt.uuid4 (w.env.draws + 1)) (rt.now (w.env.draws + 1))) [event'] :=
            { id := by
                rw [hactive.id]
                exact hfresh (by omega)
              tenantId := hactive.tenantId.trans hbuilt.tenantId
              version := hactive.version.trans hbuilt.version
              derivedFrom := hactive.derivedFrom.trans hbuilt.derivedFrom
              state := Or.inr hactive.state
              supersededBy := hactive.supersededBy.trans hbuilt.supersededBy
              about := by
                rw [hactive.id]
                exact hboth
              eventType := htype
              draft := hdraft
              later_eventType := List.forall_mem_singleton.mpr htype'
              replay := by
                rw [replay_singleton, hfollow, hactive.state] }
          exact ⟨5, by omega, false, _, hafter hleads, .created hbuild hcreated⟩
      · rw [if_neg hauto] at hafter
        have hcreated : Created (rt.fresh w.env 2) create tenantId obj
            (event (rt.uuid4 (w.env.draws + 1)) (rt.now (w.env.draws + 1))) [] :=
          { id := hfresh Nat.two_pos
            tenantId := hbuilt.tenantId
            version := hbuilt.version
            derivedFrom := hbuilt.derivedFrom
            state := Or.inl hbuilt.state
            supersededBy := hbuilt.supersededBy
            about := List.forall_mem_singleton.mpr habout
            eventType := htype
            draft := hdraft
            later_eventType := fun _ he => absurd he List.not_mem_nil
            replay := by rw [replay_nil, hbuilt.state] }
        exact ⟨2, by omega, false, _, hafter (leads_ok rfl), .created hbuild hcreated⟩
    · have hleads : Leads (GraphService.createObject rt uc tenantId create actor autoActivate) w 2
          true (w.self.logged [event (rt.uuid4 (w.env.draws + 1)) (rt.now (w.env.draws + 1))]) := by
        apply Leads.after hrun
        rw [hevent]
        exact leads_hook_some rt event hobjection
      exact ⟨2, by omega, true, _, hleads,
        .unborn (hfresh Nat.two_pos) (List.forall_mem_singleton.mpr habout)⟩
  · obtain ⟨e, he⟩ := run_buildControlObject_error rt uc tenantId actor w hbuild
    exact ⟨0, by omega, true, w.self, leads_bind_error he, .rejected hbuild⟩

theorem objection_of_listeners {hook : FabricAuditHook} (h : hook.listeners = []) :
    hook.objection = none := by
  unfold FabricAuditHook.objection
  rw [h]
  rfl

variable (rt) in
/-- Creating an object that nobody listens to. -/
theorem serviceStep_createObject {create : ControlObjectCreate} (hbuild : create.Buildable uc)
    (hlisteners : w.self.audit.listeners = []) (tenantId actor : String) (autoActivate : Bool) :
    ∃ obj events, obj.id = rt.uuid4 w.env.draws ∧ obj.tenantId = tenantId ∧
      obj.objectType = create.objectType ∧ obj.objectKind = create.objectKind ∧
      obj.plane = create.plane ∧ obj.state = (if autoActivate then .active else .draft) ∧
      obj.supersededBy = none ∧
      serviceStep rt uc (.createObject tenantId create actor autoActivate) w =
        ⟨GraphService.storeObject obj (w.self.logged events),
          w.env.tick (if autoActivate then 5 else 2)⟩ := by
  obtain ⟨obj, hid, hbuilt, hrun⟩ := run_buildControlObject_ok rt uc tenantId actor w hbuild
  obtain ⟨event, hevent, -⟩ := controlObjectCreated_about rt obj.id tenantId obj.plane
    obj.domain actor
  have hobjection := objection_of_listeners hlisteners
  have hstep {k : ℕ} {s : GraphService} (h : Leads (storeNew rt obj tenantId actor autoActivate)
      ⟨w.self.logged [event (rt.uuid4 (w.env.draws + 1)) (rt.now (w.env.draws + 1))],
        w.env.tick 2⟩ k false s) :
      serviceStep rt uc (.createObject tenantId create actor autoActivate) w =
        ⟨s, w.env.tick (k + 2)⟩ :=
    ((leads_createObject hrun hevent hobjection h).map _).self_after
  unfold storeNew at hstep
  cases autoActivate with
  | false =>
    refine ⟨obj, _, hid, hbuilt.tenantId, hbuilt.objectType, hbuilt.objectKind, hbuilt.plane,
      hbuilt.state, hbuilt.supersededBy, hstep (leads_ok rfl)⟩
  | true =>
    obtain ⟨active, event', hactive, -, -, -, ⟨hsome, -⟩ | hleads⟩ := leads_activateNew rt
      hbuilt.state tenantId actor ⟨w.self.logged
        [event (rt.uuid4 (w.env.draws + 1)) (rt.now (w.env.draws + 1))], w.env.tick 2⟩
    · exact (hsome (objection_of_listeners hlisteners)).elim
    · rw [GraphService.logged_logged] at hleads
      exact ⟨active, _, hactive.id.trans hid, hactive.tenantId.trans hbuilt.tenantId,
        hactive.objectType.trans hbuilt.objectType, hactive.objectKind.trans hbuilt.objectKind,
        hactive.plane.trans hbuilt.plane, hactive.state,
        hactive.supersededBy.trans hbuilt.supersededBy, hstep hleads⟩

variable (rt) in
/-- Two objects of different tenants, made from one request. -/
theorem serviceStep_createTwo {create : ControlObjectCreate} (hbuild : create.Buildable uc)
    (hlisteners : w.self.audit.listeners = [])
    (huuid : rt.uuid4 w.env.draws ≠ rt.uuid4 (w.env.draws + 5)) (tenantId tenantId' actor : String) :
    ∃ obj obj' : ControlObject, obj.id ≠ obj'.id ∧ obj.tenantId = tenantId ∧
      obj'.tenantId = tenantId' ∧ obj.objectType = obj'.objectType ∧ obj.plane = obj'.plane ∧
      let w' := serviceStep rt uc (.createObject tenantId' create actor true)
        (serviceStep rt uc (.createObject tenantId create actor true) w)
      w'.self.repo.objects.get? obj.id = some obj ∧
        w'.self.repo.objects.get? obj'.id = some obj' ∧ w'.self.policy = w.self.policy ∧
        w'.self.audit.listeners = [] := by
  obtain ⟨obj, events, hid, htenant, htype, -, hplane, -, -, hfirst⟩ :=
    serviceStep_createObject rt (w := w) hbuild hlisteners tenantId actor true
  obtain ⟨obj', events', hid', htenant', htype', -, hplane', -, -, hsecond⟩ :=
    serviceStep_createObject rt (w := ⟨GraphService.storeObject obj (w.self.logged events),
      w.env.tick 5⟩) hbuild hlisteners tenantId' actor true
  have hne : obj.id ≠ obj'.id := by
    rw [hid, hid']
    exact huuid
  refine ⟨obj, obj', hne, htenant, htenant', htype.trans htype'.symm, hplane.trans hplane'.symm, ?_⟩
  rw [hfirst, if_pos rfl, hsecond]
  refine ⟨?_, Dict.get?_set_self _ _ _, rfl, hlisteners⟩
  exact (Dict.get?_set_of_ne hne _ _).trans (Dict.get?_set_self _ _ _)

variable (rt) in
theorem controlLinkCreated_about (linkId tenantId sourceId targetId : String)
    (linkType : ControlLinkType) (isCrossPlane : Bool) (actor : String) :
    ∃ event, FabricAuditHook.controlLinkCreated rt linkId tenantId sourceId targetId linkType
        isCrossPlane actor = FabricAuditHook.emit rt event ∧
      ∀ id timestamp, (event id timestamp).controlObjectId = none ∧
        (event id timestamp).controlLinkId = some linkId ∧
        (event id timestamp).eventType = .controlLinkCreated := by
  unfold FabricAuditHook.controlLinkCreated
  refine ⟨_, rfl, ?_⟩
  intro id timestamp
  exact ⟨rfl, rfl, rfl⟩

section Enforce
variable {engine : GraphPolicyEngine} {create : ControlLinkCreate} {source target : ControlObject}

theorem run_enforceLink_ok (h : engine.validateLink create source target = [])
    (w : World GraphService) : (engine.enforceLink create source target).run w = .ok () w := by
  unfold GraphPolicyEngine.enforceLink
  dsimp only
  rw [if_neg (not_not.mpr h)]
  rfl

theorem run_enforceLink_error (h : engine.validateLink create source target ≠ [])
    (w : World GraphService) : ∃ e, (engine.enforceLink create source target).run w = .error e w := by
  unfold GraphPolicyEngine.enforceLink
  dsimp only
  rw [if_pos h]
  exact ⟨_, rfl⟩

end Enforce

variable (rt uc) in
/-- The end of an accepted `create_link`. -/
theorem outcome_linkAccepted (tenantId : String) {create : ControlLinkCreate}
    {source target : ControlObject} (sourcePlane targetPlane : Option PlaneType)
    (hsource : w.self.repo.objects.get? create.sourceId = some source)
    (htarget : w.self.repo.objects.get? create.targetId = some target)
    (haccepted : w.self.policy.validateLink create source target = []) :
    Outcome rt uc (.createLink tenantId create) (do
      let link ← buildControlLink rt tenantId create sourcePlane targetPlane
      assign (GraphService.storeLink link)
      GraphService.hook (FabricAuditHook.controlLinkCreated rt link.id tenantId link.sourceId
        link.targetId link.linkType link.isCrossPlane "system")
      return link) w := by
  obtain ⟨link, hid, htenant, hsourceId, htargetId, hlinkType, hrun⟩ :=
    run_buildControlLink rt tenantId create sourcePlane targetPlane w
  obtain ⟨event, hevent, habout⟩ := controlLinkCreated_about rt link.id tenantId
    link.sourceId link.targetId link.linkType link.isCrossPlane "system"
  obtain ⟨hobject, habout, htype⟩ := habout (rt.uuid4 (w.env.draws + 1)) (rt.now (w.env.draws + 1))
  have hlinked : Linked (rt.fresh w.env 2) tenantId create link
      (event (rt.uuid4 (w.env.draws + 1)) (rt.now (w.env.draws + 1))) :=
    { id := by
        rw [hid]
        exact rt.mem_fresh w.env Nat.two_pos
      tenantId := htenant
      sourceId := hsourceId
      targetId := htargetId
      linkType := hlinkType
      object := hobject
      about := habout
      eventType := htype }
  refine ⟨2, by omega, _, _, ?_, .linked hsource htarget haccepted hlinked⟩
  apply Leads.after hrun
  apply Leads.behind (run_assign _ _)
  rw [hevent]
  exact leads_hook_last rt event link

theorem outcome_createLink (tenantId : String) (create : ControlLinkCreate) :
    Outcome rt uc (.createLink tenantId create) (GraphService.createLink rt tenantId create) w := by
  cases hsource : w.self.repo.objects.get? create.sourceId with
  | none =>
    have hrun : ∃ e, (GraphService.createLink rt tenantId create).run w = .error e w := by
      unfold GraphService.createLink
      rw [EStateM.run_bind, run_self]
      dsimp only
      rw [hsource]
      exact ⟨_, rfl⟩
    obtain ⟨e, he⟩ := hrun
    exact ⟨0, by omega, true, w.self, leads_error he, .rejected (Dict.forall_get?_of_none hsource)⟩
  | some source =>
    cases htarget : w.self.repo.objects.get? create.targetId with
    | none =>
      have hrun : ∃ e, (GraphService.createLink rt tenantId create).run w = .error e w := by
        unfold GraphService.createLink
        rw [EStateM.run_bind, run_self]
        dsimp only
        rw [hsource, htarget]
        exact ⟨_, rfl⟩
      obtain ⟨e, he⟩ := hrun
      exact ⟨0, by omega, true, w.self, leads_error he,
        .rejected fun _ _ => Dict.forall_get?_of_none htarget⟩
    | some target =>
      by_cases haccepted : w.self.policy.validateLink create source target = []
      · obtain ⟨k, hk, raised, s, hleads, heffect⟩ := outcome_linkAccepted rt uc
          tenantId (some source.plane) (some target.plane) hsource htarget haccepted
        refine ⟨k, hk, raised, s, ?_, heffect⟩
        apply Leads.behind (run_self w)
        rw [hsource, htarget]
        exact Leads.behind (run_enforceLink_ok haccepted w) hleads
      · obtain ⟨e, he⟩ := run_enforceLink_error haccepted w
        have hleads : Leads (GraphService.createLink rt tenantId create) w 0 true w.self := by
          apply Leads.behind (run_self w)
          rw [hsource, htarget]
          exact leads_bind_error he
        exact ⟨0, by omega, true, w.self, hleads, .rejected
          ((Dict.forall_get?_of_some hsource).mpr ((Dict.forall_get?_of_some htarget).mpr haccepted))⟩

variable (rt) in
/-- Logged as having been active. -/
theorem controlObjectSuperseded_about (original : ControlObject) (newId tenantId actor : String) :
    ∃ event, FabricAuditHook.controlObjectSuperseded rt original.id newId tenantId actor =
        FabricAuditHook.emit rt event ∧
      ∀ id timestamp, (event id timestamp).Succession original := by
  unfold FabricAuditHook.controlObjectSuperseded
  refine ⟨_, rfl, ?_⟩
  intro id timestamp
  exact ⟨⟨rfl, rfl⟩, nofun, rfl, rfl⟩

variable (rt) in
/-- The end of superseding an object, behind the event. -/
theorem leads_storeSuccessor {original : ControlObject} (newObj : ControlObject)
    (w : World GraphService)
    (hstored : w.self.repo.objects.get? original.id = some original) :
    ∃ link, link.id = rt.uuid4 w.env.draws ∧ link.tenantId = original.tenantId ∧
      link.sourceId = newObj.id ∧ link.targetId = original.id ∧ link.linkType = .supercedes ∧
      Leads (do
          assign (GraphService.storeObject original)
          assign (GraphService.storeObject newObj)
          let link ← buildControlLink rt original.tenantId
            { sourceId := newObj.id, targetId := original.id, linkType := .supercedes }
            (some newObj.plane) (some original.plane)
          assign (GraphService.storeLink link)
          return newObj) w 1 false
        (GraphService.storeLink link (GraphService.storeObject newObj w.self)) := by
  obtain ⟨link, hid, htenant, hsource, htarget, htype, hrun⟩ :=
    run_buildControlLink rt original.tenantId
      { sourceId := newObj.id, targetId := original.id, linkType := .supercedes }
      (some newObj.plane) (some original.plane) ⟨GraphService.storeObject newObj w.self, w.env⟩
  refine ⟨link, hid, htenant, hsource, htarget, htype, ?_⟩
  apply Leads.behind (run_assign _ _)
  rw [GraphService.storeObject_of_get? hstored]
  apply Leads.behind (run_assign _ _)
  apply Leads.after hrun
  exact leads_ok rfl

theorem outcome_supersedeValid {original : ControlObject} {update : ControlObjectCreate}
    (actor : String) (hstored : w.self.repo.objects.get? original.id = some original)
    (hbuild : update.Buildable uc)
    (hvalid : ControlState.superseded ∈ original.state.validStateTransitions) :
    Outcome rt uc (.supersedeObject original.id update actor)
      (GraphService.supersedeObject rt uc original.id update actor) w := by
  obtain ⟨built, original', hid, hsuccessor, hdraft, hbecomes, hrun⟩ :=
    run_supersedeObject_ok rt uc actor (w := ⟨original, w.env⟩) hbuild hvalid
  have hcall := run_supersedeStored_ok hrun
  obtain ⟨newObj, hactive, hactivate⟩ := run_activateNew rt hdraft
    { actor := actor, action := "activated", timestamp := rt.now (w.env.draws + 3) }
    ⟨GraphService.storeObject original' w.self, w.env.tick 4⟩
  obtain ⟨event, hevent, habout⟩ := controlObjectSuperseded_about rt original newObj.id
    original.tenantId actor
  let announced := (GraphService.storeObject original' w.self).logged
    [event (rt.uuid4 (w.env.draws + 5)) (rt.now (w.env.draws + 5))]
  have hstored' : announced.repo.objects.get? original'.id = some original' :=
    Dict.get?_set_self _ _ _
  have hfresh {k : ℕ} (hk : 0 < k) : built.id ∈ rt.fresh w.env k := by
    rw [hid]
    exact rt.mem_fresh w.env hk
  have hafter {k : ℕ} {raised : Bool} {s : GraphService}
      (h : Leads (do
          GraphService.hook (FabricAuditHook.controlObjectSuperseded rt original'.id newObj.id
            original'.tenantId actor)
          assign (GraphService.storeObject original')
          assign (GraphService.storeObject newObj)
          let link ← buildControlLink rt original'.tenantId
            { sourceId := newObj.id, targetId := original'.id, linkType := .supercedes }
            (some newObj.plane) (some original'.plane)
          assign (GraphService.storeLink link)
          return newObj) ⟨GraphService.storeObject original' w.self, w.env.tick 5⟩ k raised s) :
      Leads (GraphService.supersedeObject rt uc original.id update actor) w (k + 5) raised s := by
    apply leads_withObject hstored
    apply Leads.after hcall
    apply leads_draw
    rw [Env.tick_tick]
    apply Leads.after hactivate
    rw [Env.tick_tick]
    exact h
  rw [hbecomes.id, hbecomes.tenantId, hevent] at hafter
  have hsuccession := habout (rt.uuid4 (w.env.draws + 5)) (rt.now (w.env.draws + 5))
  by_cases hobjection : w.self.audit.objection = none
  · obtain ⟨link, hlink, htenant, hsource, htarget, htype, hstore⟩ :=
      leads_storeSuccessor rt newObj ⟨announced, w.env.tick 6⟩ hstored'
    rw [hbecomes.id, hbecomes.tenantId] at hstore
    have hleads := hafter (leads_hook_none rt event hobjection hstore)
    have hsuperseded : Superseded (rt.fresh w.env 7) update original original' newObj link :=
      { becomes := by
          rw [hactive.id]
          exact hbecomes
        id := by
          rw [hactive.id]
          exact hfresh (by omega)
        successor := hsuccessor.becomes hactive
        state := hactive.state
        link_id := by
          rw [hlink]
          exact rt.mem_fresh w.env (by omega)
        link_tenantId := htenant.trans hbecomes.tenantId
        sourceId := hsource
        targetId := htarget.trans hbecomes.id
        linkType := htype }
    exact ⟨7, le_rfl, false, _, hleads,
      .superseded hbuild hstored hvalid hobjection hsuperseded hsuccession⟩
  · have hleads := hafter (leads_hook_some rt event hobjection)
    exact ⟨6, by omega, true, _, hleads, .interrupted hbuild hstored hvalid hobjection
      (hfresh (by omega)) hbecomes hsuccession⟩

theorem outcome_supersedeObject (hkeyed : w.self.repo.Keyed) (objectId : String)
    (update : ControlObjectCreate) (actor : String) :
    Outcome rt uc (.supersedeObject objectId update actor)
      (GraphService.supersedeObject rt uc objectId update actor) w := by
  cases hget : w.self.repo.objects.get? objectId with
  | none => exact outcome_missing hget (Dict.forall_get?_of_none hget)
  | some original =>
    obtain rfl := hkeyed objectId original hget
    by_cases hbuild : update.Buildable uc
    · by_cases hvalid : ControlState.superseded ∈ original.state.validStateTransitions
      · exact outcome_supersedeValid actor hget hbuild hvalid
      · obtain ⟨e, he⟩ := run_supersedeObject_invalid rt uc actor (w := ⟨original, w.env⟩) hbuild
          hvalid
        have hleads : Leads (GraphService.supersedeObject rt uc original.id update actor) w 2 true
            (GraphService.storeObject (original.referring (rt.uuid4 w.env.draws)) w.self) :=
          leads_withObject hget (leads_bind_error (run_supersedeStored_error he))
        exact ⟨2, by omega, true, _, hleads,
          .referred hbuild hget hvalid (rt.mem_fresh w.env Nat.two_pos)
            (original.becomes_referring _)⟩
    · obtain ⟨e, he⟩ := run_supersedeObject_error rt uc actor (w := ⟨original, w.env⟩) hbuild
      have hcall := run_supersedeStored_error he
      rw [GraphService.storeObject_of_get? hget] at hcall
      have hleads : Leads (GraphService.supersedeObject rt uc original.id update actor) w 0 true
          w.self := leads_withObject hget (leads_bind_error hcall)
      exact ⟨0, by omega, true, w.self, hleads,
        .rejected ((Dict.forall_get?_of_some hget).mpr hbuild)⟩

variable (rt) in
theorem graphConsistencyChecked_about (tenantId : String) (isConsistent : Bool)
    (errorCount warningCount : ℕ) (actor : String) :
    ∃ event, FabricAuditHook.graphConsistencyChecked rt tenantId isConsistent errorCount
        warningCount actor = FabricAuditHook.emit rt event ∧
      ∀ id timestamp, (event id timestamp).controlObjectId = none ∧
        (event id timestamp).controlLinkId = none := by
  unfold FabricAuditHook.graphConsistencyChecked
  refine ⟨_, rfl, ?_⟩
  intro id timestamp
  exact ⟨rfl, rfl⟩

theorem outcome_checkConsistency (tenantId : String) (plane : Option PlaneType) :
    Outcome rt uc (.checkConsistency tenantId plane)
      (GraphService.checkConsistency rt tenantId plane) w := by
  have hlast (report : ConsistencyReport) :
      Outcome rt uc (.checkConsistency tenantId plane) (do
        GraphService.hook (FabricAuditHook.graphConsistencyChecked rt tenantId report.isConsistent
          report.errorCount report.warningCount "system")
        return report) w := by
    obtain ⟨event, hevent, habout⟩ := graphConsistencyChecked_about rt tenantId
      report.isConsistent report.errorCount report.warningCount "system"
    rw [hevent]
    exact ⟨1, by omega, _, _, leads_hook_last rt event report,
      .checked (habout _ _).1 (habout _ _).2⟩
  obtain ⟨k, hk, raised, s, hleads, heffect⟩ := hlast _
  exact ⟨k, hk, raised, s, Leads.behind (run_self w) hleads, heffect⟩

theorem outcome_registerLinkPolicy (policy : LinkPolicySpec) :
    Outcome rt uc (.registerLinkPolicy policy) (GraphService.registerLinkPolicy policy) w :=
  ⟨0, by omega, false, _, leads_ok rfl, .registered⟩

variable (rt uc) in
/-- Every call ends in one of the effects of its operation. -/
theorem outcome_call (hkeyed : w.self.repo.Keyed) (op : GraphServiceOp) :
    Outcome rt uc op (op.call rt uc) w := by
  cases op with
  | createObject tenantId create actor autoActivate =>
    exact (outcome_createObject tenantId create actor autoActivate).map _
  | enrichObject objectId payloadUpdate actor =>
    exact (outcome_enrichObject hkeyed objectId payloadUpdate actor).map _
  | freezeObject objectId actor => exact (outcome_freezeObject hkeyed objectId actor).map _
  | supersedeObject objectId update actor =>
    exact (outcome_supersedeObject hkeyed objectId update actor).map _
  | deprecateObject objectId actor => exact (outcome_deprecateObject hkeyed objectId actor).map _
  | transitionObject objectId newState actor reason =>
    exact (outcome_transitionObject hkeyed objectId newState actor reason).map _
  | createLink tenantId create => exact (outcome_createLink tenantId create).map _
  | checkConsistency tenantId plane => exact (outcome_checkConsistency tenantId plane).map _
  | registerLinkPolicy policy => exact outcome_registerLinkPolicy policy

end Operations

/-! Whatever is stored, is stored under its own identifier. -/
section Keyed

theorem InMemoryGraphRepository.Keyed.storeObject {repo : InMemoryGraphRepository}
    (h : repo.Keyed) (obj : ControlObject) : (repo.storeObject obj).Keyed := by
  intro id stored hget
  rw [InMemoryGraphRepository.storeObject, Dict.get?_set] at hget
  by_cases hid : id = obj.id
  · rw [if_pos hid] at hget
    rw [← Option.some.inj hget, hid]
  · rw [if_neg hid] at hget
    exact h id stored hget

theorem Effect.keyed {fresh : Set String} {uc : Unicode} {s s' : GraphService} {op : GraphServiceOp}
    {raised : Bool} (heffect : Effect fresh uc s op raised s') (h : s.repo.Keyed) :
    s'.repo.Keyed := by
  cases heffect with
  | rejected _ | checked _ _ | registered | unborn _ _ | linked _ _ _ _ => exact h
  | created _ _ | changed _ _ _ _ _ | changedSilently _ _ _ | referred _ _ _ _ _
  | interrupted _ _ _ _ _ _ _ => exact h.storeObject _
  | superseded _ _ _ _ _ _ => exact (h.storeObject _).storeObject _

theorem keyed_serviceStep {rt : Runtime} {uc : Unicode} {w : World GraphService}
    (h : w.self.repo.Keyed) (op : GraphServiceOp) : (serviceStep rt uc op w).self.repo.Keyed := by
  obtain ⟨_, _, _, _, hleads, heffect⟩ := outcome_call rt uc h op
  rw [serviceStep, hleads.self_after]
  exact heffect.keyed h

end Keyed
end ControlFabric.Fabric
