import ControlFabric.Fabric.Reachable

/-! The audit log replays to the stored objects and links exactly when no object is superseded. -/
namespace ControlFabric.Fabric
open Lib Py Method

/-- The events of an object are its creation and then changes that lead from a draft to its state. -/
def Replays (hook : FabricAuditHook) (obj : ControlObject) : Prop :=
  ∃ created later, hook.getEventsForObject obj.id = created :: later ∧
    created.eventType = .controlObjectCreated ∧ created.newState = some .draft ∧
    (∀ e ∈ later, e.eventType ≠ .controlObjectCreated) ∧ replay .draft later = some obj.state

/-- The events of the creation of a link. -/
def linkEvents (hook : FabricAuditHook) (linkId : String) : List FabricAuditEvent :=
  hook.events.filter fun e => e.controlLinkId = some linkId ∧ e.eventType = .controlLinkCreated

/-- Every stored object replays, and every stored link has been logged once. -/
structure AuditReplays (s : GraphService) : Prop where
  objects : ∀ id obj, s.repo.objects.get? id = some obj → Replays s.audit obj
  links : ∀ id link, s.repo.links.get? id = some link → (linkEvents s.audit id).length = 1

section Events
variable {s : GraphService} {events : List FabricAuditEvent} {id : String}

theorem getEventsForObject_logged (s : GraphService) (events : List FabricAuditEvent)
    (id : String) : (s.logged events).audit.getEventsForObject id =
      s.audit.getEventsForObject id ++ events.filter fun e => e.controlObjectId = some id :=
  List.filter_append ..

theorem linkEvents_logged (s : GraphService) (events : List FabricAuditEvent) (id : String) :
    linkEvents (s.logged events).audit id = linkEvents s.audit id ++
      events.filter fun e => e.controlLinkId = some id ∧ e.eventType = .controlLinkCreated :=
  List.filter_append ..

theorem filter_about (h : ∀ e ∈ events, e.About id) :
    (events.filter fun e => e.controlObjectId = some id) = events := by
  rw [List.filter_eq_self]
  intro e he
  simp [(h e he).1]

theorem filter_other (h : ∀ e ∈ events, e.controlObjectId ≠ some id) :
    (events.filter fun e => e.controlObjectId = some id) = [] := by
  rw [List.filter_eq_nil_iff]
  intro e he
  simpa using h e he

theorem about_other {id' : String} (h : ∀ e ∈ events, e.About id) (hne : id' ≠ id) :
    ∀ e ∈ events, e.controlObjectId ≠ some id' := by
  intro e he heq
  rw [(h e he).1] at heq
  exact hne (Option.some.inj heq).symm

theorem linkEvents_about (h : ∀ e ∈ events, e.About id) (linkId : String) :
    linkEvents (s.logged events).audit linkId = linkEvents s.audit linkId := by
  rw [linkEvents_logged, List.append_right_eq_self, List.filter_eq_nil_iff]
  intro e he
  simp [(h e he).2]

/-- Nothing has been logged about an identifier that has not been drawn. -/
theorem Known.getEventsForObject_eq_nil {ids : Set String} (h : Known ids s) (hid : id ∉ ids) :
    s.audit.getEventsForObject id = [] := by
  unfold FabricAuditHook.getEventsForObject
  rw [List.filter_eq_nil_iff]
  intro e he hobject
  exact hid (h.eventObject e he id (of_decide_eq_true hobject))

theorem Known.linkEvents_eq_nil {ids : Set String} (h : Known ids s) (hid : id ∉ ids) :
    linkEvents s.audit id = [] := by
  unfold linkEvents
  rw [List.filter_eq_nil_iff]
  intro e he hlink
  exact hid (h.eventLink e he id (of_decide_eq_true hlink).1)

/-- Events about another object do not matter. -/
theorem Replays.logged_other {obj : ControlObject} (h : Replays s.audit obj)
    (hother : ∀ e ∈ events, e.controlObjectId ≠ some obj.id) :
    Replays (s.logged events).audit obj := by
  unfold Replays
  rw [getEventsForObject_logged, filter_other hother, List.append_nil]
  exact h

/-- What further events about an object must do for it to replay. -/
theorem Replays.logged_iff {obj obj' : ControlObject} (h : Replays s.audit obj)
    (hid : obj'.id = obj.id) (habout : ∀ e ∈ events, e.About obj.id)
    (htype : ∀ e ∈ events, e.eventType ≠ .controlObjectCreated) :
    Replays (s.logged events).audit obj' ↔ replay obj.state events = some obj'.state := by
  obtain ⟨created, later, hevents, hcreated, hdraft, hlater, hreplay⟩ := h
  have hall : (s.logged events).audit.getEventsForObject obj'.id = created :: (later ++ events) := by
    rw [getEventsForObject_logged, hid, hevents, filter_about habout]
    rfl
  unfold Replays
  rw [hall]
  constructor
  · rintro ⟨_, _, hsplit, -, -, -, hreplay'⟩
    obtain ⟨-, rfl⟩ := List.cons.inj hsplit
    rw [replay_append, hreplay] at hreplay'
    exact hreplay'
  · intro hfollow
    refine ⟨created, later ++ events, rfl, hcreated, hdraft, ?_, ?_⟩
    · intro e he
      rcases List.mem_append.mp he with he | he
      · exact hlater e he
      · exact htype e he
    · rw [replay_append, hreplay]
      exact hfollow

end Events
namespace GraphServiceOp

/-- No object is superseded, unless it is an active one and a listener stops the call behind the
event. -/
def Audited (uc : Unicode) (s : GraphService) : GraphServiceOp → Prop
  | supersedeObject objectId update _ => ∀ obj ∈ s.repo.objects.get? objectId,
      update.Buildable uc → .superseded ∈ obj.state.validStateTransitions →
        obj.state = .active ∧ s.audit.objection ≠ none
  | _ => True

variable {uc : Unicode} {s : GraphService} {op : GraphServiceOp}

theorem Rejected.audited (h : op.Rejected uc s) : op.Audited uc s := by
  cases op with
  | supersedeObject _ _ _ => exact fun obj hobj hbuild => absurd hbuild (h obj hobj)
  | _ => trivial

theorem Moves.audited {obj : ControlObject} {newState : ControlState} (h : op.Moves obj newState) :
    op.Audited uc s := by
  cases op with
  | supersedeObject _ _ _ => exact h.elim
  | _ => trivial

end GraphServiceOp

section Effects
variable {ids fresh : Set String} {uc : Unicode} {s s' : GraphService} {op : GraphServiceOp}
  {raised : Bool}

/-- Changing one object, with events about it, keeps the others in step. -/
theorem AuditReplays.changed_iff (h : AuditReplays s) (hkeyed : s.repo.Keyed)
    {obj obj' : ControlObject} {state : ControlState} {payload : JsonDict}
    {successor : Option String} {events : List FabricAuditEvent}
    (hstored : s.repo.objects.get? obj.id = some obj)
    (hbecomes : obj.Becomes obj' state payload successor)
    (habout : ∀ e ∈ events, e.About obj.id)
    (htype : ∀ e ∈ events, e.eventType ≠ .controlObjectCreated) :
    AuditReplays ((GraphService.storeObject obj' s).logged events) ↔
      replay obj.state events = some obj'.state := by
  have hone : Replays ((GraphService.storeObject obj' s).logged events).audit obj' ↔
      replay obj.state events = some obj'.state :=
    (h.objects _ _ hstored).logged_iff (s := GraphService.storeObject obj' s) hbecomes.id habout
      htype
  constructor
  · intro h'
    exact hone.mp (h'.objects obj'.id obj' (Dict.get?_set_self _ _ _))
  · intro hreplay
    constructor
    · intro id other hget
      rw [GraphService.logged_repo, GraphService.storeObject_objects, Dict.get?_set] at hget
      split at hget
      next =>
        obtain rfl := Option.some.inj hget
        exact hone.mpr hreplay
      next hne =>
        have hid := hkeyed id other hget
        rw [hbecomes.id, ← hid] at hne
        exact (h.objects id other hget).logged_other (s := GraphService.storeObject obj' s)
          (about_other habout hne)
    · intro id link hlink
      rw [linkEvents_about (s := GraphService.storeObject obj' s) habout]
      exact h.links id link hlink

theorem AuditReplays.changedSilently (h : AuditReplays s) (hkeyed : s.repo.Keyed)
    {obj obj' : ControlObject} {payload : JsonDict} {successor : Option String}
    (hstored : s.repo.objects.get? obj.id = some obj)
    (hbecomes : obj.Becomes obj' obj.state payload successor) :
    AuditReplays (GraphService.storeObject obj' s) := by
  have hnothing : AuditReplays ((GraphService.storeObject obj' s).logged []) ↔
      replay obj.state [] = some obj'.state :=
    h.changed_iff hkeyed hstored hbecomes (fun _ he => absurd he List.not_mem_nil)
      (fun _ he => absurd he List.not_mem_nil)
  rw [GraphService.logged_nil, replay_nil, hbecomes.state] at hnothing
  exact hnothing.mpr rfl

/-- Events that are not about stored objects or links do not matter. -/
theorem AuditReplays.logged (h : AuditReplays s) (hkeyed : s.repo.Keyed)
    {events : List FabricAuditEvent}
    (hobjects : ∀ id ∈ s.repo.objects, ∀ e ∈ events, e.controlObjectId ≠ some id)
    (hlinks : ∀ id ∈ s.repo.links, ∀ e ∈ events, e.controlLinkId ≠ some id) :
    AuditReplays (s.logged events) := by
  constructor
  · intro id obj hget
    apply (h.objects id obj hget).logged_other
    rw [hkeyed id obj hget]
    exact hobjects id (Dict.mem_of_get? hget)
  · intro id link hlink
    have hnone : (events.filter fun e => e.controlLinkId = some id ∧
        e.eventType = .controlLinkCreated) = [] := by
      rw [List.filter_eq_nil_iff]
      intro e he
      simp [hlinks id (Dict.mem_of_get? hlink) e he]
    rw [linkEvents_logged, hnone, List.append_nil]
    exact h.links id link hlink

theorem AuditReplays.storeObject (h : AuditReplays s) {obj : ControlObject}
    (hobj : Replays s.audit obj) : AuditReplays (GraphService.storeObject obj s) := by
  refine ⟨?_, h.links⟩
  intro id other hget
  rw [GraphService.storeObject_objects, Dict.get?_set] at hget
  split at hget
  next =>
    obtain rfl := Option.some.inj hget
    exact hobj
  next => exact h.objects id other hget

theorem AuditReplays.storeLink (h : AuditReplays s) {link : ControlLink}
    (hlink : (linkEvents s.audit link.id).length = 1) :
    AuditReplays (GraphService.storeLink link s) := by
  refine ⟨h.objects, ?_⟩
  intro id other hget
  rw [GraphService.storeLink_links, Dict.get?_set] at hget
  split at hget
  next heq => rwa [heq]
  next => exact h.links id other hget

/-- Events about an identifier that has just been drawn are about nothing that is stored. -/
theorem AuditReplays.logged_fresh (hreplays : AuditReplays s) (h : Known ids s)
    (hdisjoint : Disjoint ids fresh) {events : List FabricAuditEvent} {id : String}
    (hid : id ∈ fresh) (habout : ∀ e ∈ events, e.About id) : AuditReplays (s.logged events) := by
  apply hreplays.logged h.keyed
  · exact fun id' hid' => about_other habout (h.ne_fresh hdisjoint hid' hid)
  · intro id' _ e he hlink
    rw [(habout e he).2] at hlink
    cases hlink

/-- The log keeps replaying exactly when no object is superseded. -/
theorem Effect.auditReplays_iff (heffect : Effect fresh uc s op raised s') (h : Known ids s)
    (hdisjoint : Disjoint ids fresh) (hreplays : AuditReplays s) :
    AuditReplays s' ↔ op.Audited uc s := by
  have hnew {id : String} (hid : id ∈ fresh) : id ∉ ids :=
    fun hmem => Set.disjoint_left.mp hdisjoint hmem hid
  cases heffect with
  | rejected hrejected => exact iff_of_true hreplays hrejected.audited
  | checked hobject hlink =>
    refine iff_of_true ?_ trivial
    apply hreplays.logged h.keyed
    · intro id _
      rw [List.forall_mem_singleton, hobject]
      exact nofun
    · intro id _
      rw [List.forall_mem_singleton, hlink]
      exact nofun
  | registered => exact iff_of_true ⟨hreplays.objects, hreplays.links⟩ trivial
  | created _ hcreated =>
    refine iff_of_true ?_ trivial
    apply (hreplays.logged_fresh h hdisjoint hcreated.id hcreated.about).storeObject
    refine ⟨_, _, ?_, hcreated.eventType, hcreated.draft, hcreated.later_eventType,
      hcreated.replay⟩
    rw [getEventsForObject_logged, h.getEventsForObject_eq_nil (hnew hcreated.id),
      filter_about hcreated.about]
    rfl
  | unborn hid habout => exact iff_of_true (hreplays.logged_fresh h hdisjoint hid habout) trivial
  | changed hstored hmoves hbecomes _ hannounces =>
    rw [hreplays.changed_iff h.keyed hstored hbecomes
      (List.forall_mem_singleton.mpr hannounces.about)
      (List.forall_mem_singleton.mpr hannounces.eventType), replay_singleton]
    exact iff_of_true hannounces.follow hmoves.audited
  | changedSilently hstored hmoves hbecomes =>
    exact iff_of_true (hreplays.changedSilently h.keyed hstored hbecomes) hmoves.audited
  | referred _ hstored hinvalid _ hbecomes =>
    refine iff_of_true (hreplays.changedSilently h.keyed hstored hbecomes) ?_
    exact (Dict.forall_get?_of_some hstored).mpr fun _ hvalid => absurd hvalid hinvalid
  | interrupted hbuild hstored hvalid hobjection _ hbecomes hsuccession =>
    rw [hreplays.changed_iff h.keyed hstored hbecomes
      (List.forall_mem_singleton.mpr hsuccession.about)
      (List.forall_mem_singleton.mpr hsuccession.eventType), replay_singleton, hbecomes.state]
    have hfollow := hsuccession.follow_iff
    constructor
    · intro hreplay
      exact (Dict.forall_get?_of_some hstored).mpr fun _ _ => ⟨hfollow.mp hreplay, hobjection⟩
    · intro haudited
      exact hfollow.mpr (haudited _ hstored hbuild hvalid).1
  | @superseded original original' newObj _ _ link event hbuild hstored hvalid hobjection
      hsuperseded hsuccession =>
    constructor
    · intro hreplays'
      have hnone : s.audit.getEventsForObject newObj.id = [] :=
        h.getEventsForObject_eq_nil (hnew hsuperseded.id)
      have hne := h.ne_fresh hdisjoint (Dict.mem_of_get? hstored) hsuperseded.id
      obtain ⟨created, later, hevents, -⟩ :=
        hreplays'.objects newObj.id newObj (Dict.get?_set_self _ _ _)
      have hall : ((GraphService.storeObject original' s).logged [event]).audit.getEventsForObject
          newObj.id = [] := by
        rw [getEventsForObject_logged, filter_other (about_other
          (List.forall_mem_singleton.mpr hsuccession.about) hne.symm), List.append_nil]
        exact hnone
      have hempty := hall.symm.trans hevents
      cases hempty
    · intro haudited
      exact absurd hobjection ((haudited _ hstored hbuild hvalid).2)
  | @linked tenantId create source target link event _ _ _ hlinked =>
    refine iff_of_true ?_ trivial
    have hlogged : AuditReplays (s.logged [event]) := by
      apply hreplays.logged h.keyed
      · intro id _
        rw [List.forall_mem_singleton, hlinked.object]
        exact nofun
      · intro id hid
        rw [List.forall_mem_singleton, hlinked.about]
        intro heq
        exact h.link_ne_fresh hdisjoint hid hlinked.id (Option.some.inj heq).symm
    apply hlogged.storeLink
    rw [linkEvents_logged, h.linkEvents_eq_nil (hnew hlinked.id)]
    simp [hlinked.about, hlinked.eventType]

end Effects

theorem Undrawn.auditReplays_iff {rt : Runtime} (uc : Unicode) {ops : List GraphServiceOp}
    {w : World GraphService} (hw : Undrawn rt w ops) (hreplays : AuditReplays w.self) :
    Always (serviceStep rt uc) (fun w => AuditReplays w.self) w ops ↔
      Conforms (serviceStep rt uc) (fun op w => op.Audited uc w.self) w ops :=
  always_iff_of_effect
    (fun _ _ _ _ _ _ h hdisjoint heffect hreplays => heffect.auditReplays_iff h hdisjoint hreplays)
    hw hreplays

theorem auditReplays_new (policy : GraphPolicyEngine) (checker : GraphConsistencyChecker)
    (listeners : List FabricAuditListener) : AuditReplays (.new policy checker listeners) where
  objects := fun id obj hobj => absurd hobj (GraphService.new_objects _ _ _ id obj)
  links := fun id link hlink => absurd hlink (GraphService.new_links _ _ _ id link)

/-- The audit log replays to the stored objects and links in every state that a run of a new service
goes through exactly when every call is audited. -/
theorem serviceRun_auditReplays_iff {rt : Runtime} (uc : Unicode) (policy : GraphPolicyEngine)
    (checker : GraphConsistencyChecker) (listeners : List FabricAuditListener) (env : Env)
    {ops : List GraphServiceOp} (huuid : Set.InjOn rt.uuid4 (Set.Iio (env.draws + 7 * ops.length))) :
    Always (serviceStep rt uc) (fun w => AuditReplays w.self)
        ⟨.new policy checker listeners, env⟩ ops ↔
      Conforms (serviceStep rt uc) (fun op w => op.Audited uc w.self)
        ⟨.new policy checker listeners, env⟩ ops :=
  (undrawn_new policy checker listeners huuid).auditReplays_iff uc (auditReplays_new _ _ _)

theorem serviceRun_auditReplays_iff_superseded :
    Always (serviceStep .reference .ascii) (fun w => AuditReplays w.self)
        ⟨.new ⟨none⟩ (fun _ _ => ⟨true, 0, 0⟩) [], .initial "t"⟩
        supersededOrder ↔
      Conforms (serviceStep .reference .ascii) (fun op w => op.Audited .ascii w.self)
        ⟨.new ⟨none⟩ (fun _ _ => ⟨true, 0, 0⟩) [], .initial "t"⟩
        supersededOrder :=
  serviceRun_auditReplays_iff .ascii ⟨none⟩ (fun _ _ => ⟨true, 0, 0⟩) [] (.initial "t")
    (Runtime.reference_uuid4.mono (Set.Iio_subset_Iio (by decide)))

/-- The new version of a superseded object has no creation event. -/
theorem serviceRun_supersede_unlogged :
    ¬ ∀ (rt : Runtime) (uc : Unicode) (policy : GraphPolicyEngine)
        (checker : GraphConsistencyChecker) (listeners : List FabricAuditListener) (env : Env)
        (ops : List GraphServiceOp),
      Set.InjOn rt.uuid4 (Set.Iio (env.draws + 7 * ops.length)) →
        Always (serviceStep rt uc) (fun w => AuditReplays w.self)
          ⟨.new policy checker listeners, env⟩ ops := by
  intro h
  have hbuild := ControlObjectCreate.workOrder_buildable .field
  have huuid : Set.InjOn Runtime.reference.uuid4 (Set.Iio (0 + 7 * 2)) :=
    Runtime.reference_uuid4.mono (Set.Iio_subset_Iio (by decide))
  obtain ⟨obj, events, -, -, -, -, -, hactive, -, hstep⟩ :=
    serviceStep_createObject .reference (w := ⟨.new ⟨none⟩ (fun _ _ => ⟨true, 0, 0⟩) [],
      .initial "t"⟩) hbuild rfl "t" "ada" true
  obtain ⟨-, haudited, -⟩ := ((undrawn_new _ _ _ huuid).auditReplays_iff .ascii
    (auditReplays_new _ _ _)).mp (h .reference .ascii ⟨none⟩ (fun _ _ => ⟨true, 0, 0⟩) []
      (.initial "t") [.createObject "t" (.workOrder .field) "ada" true,
        .supersedeObject obj.id (.workOrder .field) "ada"] huuid)
  rw [hstep] at haudited
  have hvalid : ControlState.superseded ∈ obj.state.validStateTransitions := by
    rw [hactive]
    decide
  exact (haudited obj (Dict.get?_set_self _ _ _) hbuild hvalid).2 rfl

end ControlFabric.Fabric
