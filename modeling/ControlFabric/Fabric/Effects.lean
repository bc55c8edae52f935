import ControlFabric.Fabric.Calls

/-! What one call on a graph service can do to it, said once for all its operations. -/
namespace ControlFabric.Fabric
open Lib Py

/-- The event is about the object, and about no link. -/
def FabricAuditEvent.About (id : String) (e : FabricAuditEvent) : Prop :=
  e.controlObjectId = some id ∧ e.controlLinkId = none

/-- The state behind an event, `none` if the event records another previous state. -/
def FabricAuditEvent.follow (state : ControlState) (e : FabricAuditEvent) : Option ControlState :=
  match e.newState with
  | none => some state
  | some newState => if ∀ previous ∈ e.previousState, previous = state then some newState else none

/-- The state reached from `state` along the events. -/
def replay (state : ControlState) (events : List FabricAuditEvent) : Option ControlState :=
  events.foldlM FabricAuditEvent.follow state

@[simp] theorem replay_nil (state : ControlState) : replay state [] = some state := rfl

theorem replay_append (state : ControlState) (events events' : List FabricAuditEvent) :
    replay state (events ++ events') = (replay state events).bind fun s => replay s events' := by
  unfold replay
  rw [List.foldlM_append]
  rfl

theorem replay_singleton (state : ControlState) (e : FabricAuditEvent) :
    replay state [e] = e.follow state := by
  unfold replay
  rw [List.foldlM_cons]
  cases e.follow state <;> rfl

namespace GraphServiceOp
variable (uc : Unicode) (s : GraphService)

/-- The operation is refused before it changes anything, or finds no object to change. -/
def Rejected : GraphServiceOp → Prop
  | createObject _ create _ _ => ¬ create.Buildable uc
  | enrichObject objectId _ _ => ∀ obj ∈ s.repo.objects.get? objectId, obj.state = .frozen
  | freezeObject objectId _ => ∀ obj ∈ s.repo.objects.get? objectId,
      ¬ (obj.state = .active ∨ obj.state = .enriched)
  | supersedeObject objectId update _ => ∀ _ ∈ s.repo.objects.get? objectId, ¬ update.Buildable uc
  | deprecateObject objectId _ => ∀ obj ∈ s.repo.objects.get? objectId,
      .deprecated ∉ obj.state.validStateTransitions
  | transitionObject objectId newState _ _ => ∀ obj ∈ s.repo.objects.get? objectId,
      newState ∉ obj.state.validStateTransitions
  | createLink _ create => ∀ source ∈ s.repo.objects.get? create.sourceId,
      ∀ target ∈ s.repo.objects.get? create.targetId, s.policy.validateLink create source target ≠ []
  | checkConsistency _ _ | registerLinkPolicy _ => False

/-- The operation calls a method of the object that leads to the state. -/
def Moves (obj : ControlObject) (newState : ControlState) : GraphServiceOp → Prop
  | enrichObject objectId _ _ =>
      objectId = obj.id ∧ obj.state ≠ .frozen ∧ newState = obj.enrichedState
  | freezeObject objectId _ =>
      objectId = obj.id ∧ (obj.state = .active ∨ obj.state = .enriched) ∧ newState = .frozen
  | deprecateObject objectId _ =>
      objectId = obj.id ∧ .deprecated ∈ obj.state.validStateTransitions ∧ newState = .deprecated
  | transitionObject objectId state _ _ =>
      objectId = obj.id ∧ state ∈ obj.state.validStateTransitions ∧ newState = state
  | _ => False

def payloadUpdate : GraphServiceOp → JsonDict
  | enrichObject _ payloadUpdate _ => payloadUpdate
  | _ => []

end GraphServiceOp

/-- What an event says about the change of an object. -/
structure Announces (e : FabricAuditEvent) (obj obj' : ControlObject) : Prop where
  about : e.About obj.id
  eventType : e.eventType ≠ .controlObjectCreated
  follow : e.follow obj.state = some obj'.state

/-- A new object with the events of its creation. -/
structure Created (fresh : Set String) (create : ControlObjectCreate) (tenantId : String)
    (obj : ControlObject) (created : FabricAuditEvent) (later : List FabricAuditEvent) : Prop where
  id : obj.id ∈ fresh
  tenantId : obj.tenantId = tenantId
  version : obj.version = 1
  derivedFrom : obj.derivedFrom = create.derivedFrom
  state : obj.state = .draft ∨ obj.state = .active
  supersededBy : obj.supersededBy = none
  about : ∀ e ∈ created :: later, e.About obj.id
  eventType : created.eventType = .controlObjectCreated
  draft : created.newState = some .draft
  later_eventType : ∀ e ∈ later, e.eventType ≠ .controlObjectCreated
  replay : replay .draft later = some obj.state

/-- A new link with the event of its creation. -/
structure Linked (fresh : Set String) (tenantId : String) (create : ControlLinkCreate)
    (link : ControlLink) (event : FabricAuditEvent) : Prop where
  id : link.id ∈ fresh
  tenantId : link.tenantId = tenantId
  sourceId : link.sourceId = create.sourceId
  targetId : link.targetId = create.targetId
  linkType : link.linkType = create.linkType
  object : event.controlObjectId = none
  about : event.controlLinkId = some link.id
  eventType : event.eventType = .controlLinkCreated

/-- The event of a supersession is about the original only, and calls it active. -/
structure FabricAuditEvent.Succession (e : FabricAuditEvent) (original : ControlObject) : Prop where
  about : e.About original.id
  eventType : e.eventType ≠ .controlObjectCreated
  previousState : e.previousState = some .active
  newState : e.newState = some .superseded

theorem FabricAuditEvent.Succession.follow_iff {e : FabricAuditEvent} {original : ControlObject}
    (h : e.Succession original) :
    e.follow original.state = some .superseded ↔ original.state = .active := by
  unfold FabricAuditEvent.follow
  rw [h.newState, h.previousState]
  by_cases hactive : original.state = .active
  · simp [hactive]
  · simp [hactive, Ne.symm hactive]

/-- What is stored when an object is superseded. -/
structure Superseded (fresh : Set String) (update : ControlObjectCreate)
    (original original' newObj : ControlObject) (link : ControlLink) : Prop where
  becomes : original.Becomes original' .superseded original.payload (some newObj.id)
  id : newObj.id ∈ fresh
  successor : update.Successor original newObj
  state : newObj.state = .active
  link_id : link.id ∈ fresh
  link_tenantId : link.tenantId = original.tenantId
  sourceId : link.sourceId = newObj.id
  targetId : link.targetId = original.id
  linkType : link.linkType = .supercedes

/-- What a call can leave behind, by whether it raised. -/
inductive Effect (fresh : Set String) (uc : Unicode) (s : GraphService) :
    GraphServiceOp → Bool → GraphService → Prop
  | rejected {op : GraphServiceOp} {raised : Bool} (h : op.Rejected uc s) :
      Effect fresh uc s op raised s
  | checked {raised : Bool} {tenantId : String} {plane : Option PlaneType}
      {event : FabricAuditEvent} (hobject : event.controlObjectId = none)
      (hlink : event.controlLinkId = none) :
      Effect fresh uc s (.checkConsistency tenantId plane) raised (s.logged [event])
  | registered {policy : LinkPolicySpec} :
      Effect fresh uc s (.registerLinkPolicy policy) false
        { s with policy := s.policy.registerLinkPolicy policy }
  | created {tenantId : String} {create : ControlObjectCreate} {actor : String}
      {autoActivate : Bool} {obj : ControlObject} {created : FabricAuditEvent}
      {later : List FabricAuditEvent} (hbuild : create.Buildable uc)
      (h : Created fresh create tenantId obj created later) :
      Effect fresh uc s (.createObject tenantId create actor autoActivate) false
        (GraphService.storeObject obj (s.logged (created :: later)))
  | unborn {tenantId : String} {create : ControlObjectCreate} {actor : String}
      {autoActivate : Bool} {id : String} {events : List FabricAuditEvent} (hid : id ∈ fresh)
      (h : ∀ e ∈ events, e.About id) :
      Effect fresh uc s (.createObject tenantId create actor autoActivate) true (s.logged events)
  | changed {op : GraphServiceOp} {obj obj' : ControlObject} {event : FabricAuditEvent}
      (hstored : s.repo.objects.get? obj.id = some obj) (hmoves : op.Moves obj obj'.state)
      (h : obj.Becomes obj' obj'.state (updateDict obj.payload op.payloadUpdate) obj.supersededBy)
      (hstate : obj'.state ≠ obj.state) (he : Announces event obj obj') :
      Effect fresh uc s op s.audit.objection.isSome
        ((GraphService.storeObject obj' s).logged [event])
  | changedSilently {op : GraphServiceOp} {obj obj' : ControlObject}
      (hstored : s.repo.objects.get? obj.id = some obj) (hmoves : op.Moves obj obj'.state)
      (h : obj.Becomes obj' obj.state (updateDict obj.payload op.payloadUpdate) obj.supersededBy) :
      Effect fresh uc s op false (GraphService.storeObject obj' s)
  | referred {original original' : ControlObject} {update : ControlObjectCreate}
      {actor successor : String} (hbuild : update.Buildable uc)
      (hstored : s.repo.objects.get? original.id = some original)
      (hinvalid : ControlState.superseded ∉ original.state.validStateTransitions)
      (hid : successor ∈ fresh)
      (h : original.Becomes original' original.state original.payload (some successor)) :
      Effect fresh uc s (.supersedeObject original.id update actor) true
        (GraphService.storeObject original' s)
  | interrupted {original original' : ControlObject} {update : ControlObjectCreate}
      {actor successor : String} {event : FabricAuditEvent} (hbuild : update.Buildable uc)
      (hstored : s.repo.objects.get? original.id = some original)
      (hvalid : ControlState.superseded ∈ original.state.validStateTransitions)
      (hobjection : s.audit.objection ≠ none) (hid : successor ∈ fresh)
      (h : original.Becomes original' .superseded original.payload (some successor))
      (he : event.Succession original) :
      Effect fresh uc s (.supersedeObject original.id update actor) true
        ((GraphService.storeObject original' s).logged [event])
  | superseded {original original' newObj : ControlObject} {update : ControlObjectCreate}
      {actor : String} {link : ControlLink} {event : FabricAuditEvent}
      (hbuild : update.Buildable uc) (hstored : s.repo.objects.get? original.id = some original)
      (hvalid : ControlState.superseded ∈ original.state.validStateTransitions)
      (hobjection : s.audit.objection = none)
      (h : Superseded fresh update original original' newObj link)
      (he : event.Succession original) :
      Effect fresh uc s (.supersedeObject original.id update actor) false
        (GraphService.storeLink link (GraphService.storeObject newObj
          ((GraphService.storeObject original' s).logged [event])))
  | linked {tenantId : String} {create : ControlLinkCreate} {source target : ControlObject}
      {link : ControlLink} {event : FabricAuditEvent}
      (hsource : s.repo.objects.get? create.sourceId = some source)
      (htarget : s.repo.objects.get? create.targetId = some target)
      (haccepted : s.policy.validateLink create source target = [])
      (h : Linked fresh tenantId create link event) :
      Effect fresh uc s (.createLink tenantId create) s.audit.objection.isSome
        ((GraphService.storeLink link s).logged [event])

namespace GraphServiceOp
variable {obj : ControlObject} {newState : ControlState} {op : GraphServiceOp}

/-- A method either keeps the state or makes a valid transition. -/
theorem Moves.valid (h : op.Moves obj newState) :
    newState = obj.state ∨ newState ∈ obj.state.validStateTransitions := by
  cases op with
  | enrichObject _ _ _ =>
    obtain ⟨-, -, rfl⟩ := h
    unfold ControlObject.enrichedState
    by_cases hactive : obj.state = .active
    · rw [if_pos hactive, hactive]
      exact Or.inr (by decide)
    · rw [if_neg hactive]
      exact Or.inl rfl
  | freezeObject _ _ =>
    obtain ⟨-, hstate, rfl⟩ := h
    rcases hstate with hstate | hstate
    · rw [hstate]
      exact Or.inr (by decide)
    · rw [hstate]
      exact Or.inr (by decide)
  | deprecateObject _ _ =>
    obtain ⟨-, hvalid, rfl⟩ := h
    exact Or.inr hvalid
  | transitionObject _ _ _ _ =>
    obtain ⟨-, hvalid, rfl⟩ := h
    exact Or.inr hvalid
  | _ => exact h.elim

end GraphServiceOp
end ControlFabric.Fabric
