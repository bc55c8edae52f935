import ControlFabric.Fabric.Steps

/-! The states a graph service reaches: every identifier in them has been drawn, and what is stored
stays stored. -/
namespace ControlFabric.Fabric
open Lib Py Method

/-- The object is a first version, or one made from stored objects. -/
def ControlObject.Descends (objects : Dict String ControlObject) (obj : ControlObject) : Prop :=
  1 ≤ obj.version ∧ (1 < obj.version → ∀ id ∈ obj.derivedFrom, id ∈ objects)

theorem ControlObject.Descends.same {objects : Dict String ControlObject} {obj obj' : ControlObject}
    (h : obj.Descends objects) (hsame : obj.SameIdentity obj') : obj'.Descends objects := by
  unfold ControlObject.Descends
  rw [hsame.version, hsame.derivedFrom]
  exact h

/-- The identifiers in a service are among `ids`, and everything is stored under its own one. -/
structure Known (ids : Set String) (s : GraphService) : Prop where
  keyed : s.repo.Keyed
  object : ∀ id obj, s.repo.objects.get? id = some obj → id ∈ ids
  successor : ∀ id obj, s.repo.objects.get? id = some obj → ∀ n ∈ obj.supersededBy, n ∈ ids
  lineage : ∀ id obj, s.repo.objects.get? id = some obj → obj.Descends s.repo.objects
  link : ∀ id link, s.repo.links.get? id = some link → link.id = id ∧ id ∈ ids
  ends : ∀ id link, s.repo.links.get? id = some link →
    link.sourceId ∈ s.repo.objects ∧ link.targetId ∈ s.repo.objects
  eventObject : ∀ e ∈ s.audit.events, ∀ id ∈ e.controlObjectId, id ∈ ids
  eventLink : ∀ e ∈ s.audit.events, ∀ id ∈ e.controlLinkId, id ∈ ids

namespace GraphService
variable (policy : GraphPolicyEngine) (checker : GraphConsistencyChecker)
  (listeners : List FabricAuditListener)

theorem new_objects (id : String) (obj : ControlObject) :
    (new policy checker listeners).repo.objects.get? id ≠ some obj := nofun

theorem new_links (id : String) (link : ControlLink) :
    (new policy checker listeners).repo.links.get? id ≠ some link := nofun

theorem new_events (e : FabricAuditEvent) : e ∉ (new policy checker listeners).audit.events :=
  List.not_mem_nil

end GraphService

namespace Known
variable {ids fresh : Set String} {s : GraphService}

theorem new (policy : GraphPolicyEngine) (checker : GraphConsistencyChecker)
    (listeners : List FabricAuditListener) (ids : Set String) :
    Known ids (.new policy checker listeners) where
  keyed := fun id obj h => absurd h (GraphService.new_objects _ _ _ id obj)
  object := fun id obj h => absurd h (GraphService.new_objects _ _ _ id obj)
  successor := fun id obj h => absurd h (GraphService.new_objects _ _ _ id obj)
  lineage := fun id obj h => absurd h (GraphService.new_objects _ _ _ id obj)
  link := fun id link h => absurd h (GraphService.new_links _ _ _ id link)
  ends := fun id link h => absurd h (GraphService.new_links _ _ _ id link)
  eventObject := fun e he => absurd he (GraphService.new_events _ _ _ e)
  eventLink := fun e he => absurd he (GraphService.new_events _ _ _ e)

theorem mono {ids' : Set String} (h : Known ids s) (hsub : ids ⊆ ids') : Known ids' s where
  keyed := h.keyed
  object := fun id obj hobj => hsub (h.object id obj hobj)
  successor := fun id obj hobj n hn => hsub (h.successor id obj hobj n hn)
  lineage := h.lineage
  link := fun id link hlink => ⟨(h.link id link hlink).1, hsub (h.link id link hlink).2⟩
  ends := h.ends
  eventObject := fun e he id hid => hsub (h.eventObject e he id hid)
  eventLink := fun e he id hid => hsub (h.eventLink e he id hid)

theorem logged {events : List FabricAuditEvent} (h : Known ids s)
    (hevents : ∀ e ∈ events, (∀ id ∈ e.controlObjectId, id ∈ ids) ∧
      ∀ id ∈ e.controlLinkId, id ∈ ids) : Known ids (s.logged events) where
  keyed := h.keyed
  object := h.object
  successor := h.successor
  lineage := h.lineage
  link := h.link
  ends := h.ends
  eventObject := by
    intro e he
    rcases List.mem_append.mp he with he | he
    · exact h.eventObject e he
    · exact (hevents e he).1
  eventLink := by
    intro e he
    rcases List.mem_append.mp he with he | he
    · exact h.eventLink e he
    · exact (hevents e he).2

theorem logged_about {events : List FabricAuditEvent} {id : String} (h : Known ids s)
    (hid : id ∈ ids) (hevents : ∀ e ∈ events, e.About id) : Known ids (s.logged events) := by
  apply h.logged
  intro e he
  obtain ⟨hobject, hlink⟩ := hevents e he
  rw [hobject, hlink]
  constructor
  · rintro n ⟨⟩
    exact hid
  · rintro n ⟨⟩

theorem storeObject {obj : ControlObject} (h : Known ids s) (hid : obj.id ∈ ids)
    (hsuccessor : ∀ n ∈ obj.supersededBy, n ∈ ids) (hdescends : obj.Descends s.repo.objects) :
    Known ids (GraphService.storeObject obj s) where
  keyed := by
    intro id obj' hget
    rw [GraphService.storeObject_objects, Dict.get?_set] at hget
    split at hget
    next heq =>
      obtain rfl := Option.some.inj hget
      exact heq.symm
    next => exact h.keyed id obj' hget
  object := by
    intro id obj' hget
    rw [GraphService.storeObject_objects, Dict.get?_set] at hget
    split at hget
    next heq => rwa [heq]
    next => exact h.object id obj' hget
  successor := by
    intro id obj' hget
    rw [GraphService.storeObject_objects, Dict.get?_set] at hget
    split at hget
    next =>
      obtain rfl := Option.some.inj hget
      exact hsuccessor
    next => exact h.successor id obj' hget
  lineage := by
    intro id obj' hget
    have hold : obj'.Descends s.repo.objects := by
      rw [GraphService.storeObject_objects, Dict.get?_set] at hget
      split at hget
      next =>
        obtain rfl := Option.some.inj hget
        exact hdescends
      next => exact h.lineage id obj' hget
    constructor
    · exact hold.1
    · intro hlater id' hid'
      exact Dict.mem_set.mpr (Or.inr (hold.2 hlater id' hid'))
  link := h.link
  ends := by
    intro id link hlink
    obtain ⟨hsource, htarget⟩ := h.ends id link hlink
    rw [GraphService.storeObject_objects]
    exact ⟨Dict.mem_set.mpr (Or.inr hsource), Dict.mem_set.mpr (Or.inr htarget)⟩
  eventObject := h.eventObject
  eventLink := h.eventLink

theorem storeLink {link : ControlLink} (h : Known ids s) (hid : link.id ∈ ids)
    (hsource : link.sourceId ∈ s.repo.objects) (htarget : link.targetId ∈ s.repo.objects) :
    Known ids (GraphService.storeLink link s) where
  keyed := h.keyed
  object := h.object
  successor := h.successor
  lineage := h.lineage
  link := by
    intro id link' hget
    rw [GraphService.storeLink_links, Dict.get?_set] at hget
    split at hget
    next heq =>
      obtain rfl := Option.some.inj hget
      exact ⟨heq.symm, by rwa [heq]⟩
    next => exact h.link id link' hget
  ends := by
    intro id link' hget
    rw [GraphService.storeLink_links, Dict.get?_set] at hget
    split at hget
    next =>
      obtain rfl := Option.some.inj hget
      exact ⟨hsource, htarget⟩
    next => exact h.ends id link' hget
  eventObject := h.eventObject
  eventLink := h.eventLink

theorem effect {uc : Unicode} {op : GraphServiceOp} {raised : Bool} {s' : GraphService}
    (h : Known ids s) (heffect : Effect fresh uc s op raised s') : Known (ids ∪ fresh) s' := by
  have hold := h.mono (Set.subset_union_left (t := fresh))
  have hnew : fresh ⊆ ids ∪ fresh := Set.subset_union_right
  have hkept {obj obj' : ControlObject} {state : ControlState} {payload : JsonDict}
      {successor : Option String} (hstored : s.repo.objects.get? obj.id = some obj)
      (hbecomes : obj.Becomes obj' state payload successor)
      (hsuccessor : ∀ n ∈ successor, n ∈ ids ∪ fresh) :
      Known (ids ∪ fresh) (GraphService.storeObject obj' s) := by
    apply hold.storeObject
    · rw [hbecomes.id]
      exact hold.object obj.id obj hstored
    · rw [hbecomes.supersededBy]
      exact hsuccessor
    · exact (hold.lineage obj.id obj hstored).same hbecomes.toSameIdentity
  have hreferred {successor : String} (hid : successor ∈ fresh) :
      ∀ n ∈ some successor, n ∈ ids ∪ fresh := by
    rintro n ⟨⟩
    exact hnew hid
  cases heffect with
  | rejected _ => exact hold
  | checked hobject hlink =>
    apply hold.logged
    rw [List.forall_mem_singleton, hobject, hlink]
    exact ⟨nofun, nofun⟩
  | registered =>
    exact ⟨hold.keyed, hold.object, hold.successor, hold.lineage, hold.link, hold.ends,
      hold.eventObject, hold.eventLink⟩
  | created hbuild hcreated =>
    apply (hold.logged_about (hnew hcreated.id) hcreated.about).storeObject (hnew hcreated.id)
    · rw [hcreated.supersededBy]
      nofun
    · unfold ControlObject.Descends
      rw [hcreated.version]
      exact ⟨le_rfl, fun hlater => absurd hlater (lt_irrefl 1)⟩
  | unborn hid habout => exact hold.logged_about (hnew hid) habout
  | changed hstored _ hbecomes _ hannounces =>
    apply (hkept hstored hbecomes (hold.successor _ _ hstored)).logged_about
      (hold.object _ _ hstored)
    exact List.forall_mem_singleton.mpr hannounces.about
  | changedSilently hstored _ hbecomes =>
    exact hkept hstored hbecomes (hold.successor _ _ hstored)
  | referred _ hstored _ hid hbecomes => exact hkept hstored hbecomes (hreferred hid)
  | interrupted _ hstored _ _ hid hbecomes hsuccession =>
    apply (hkept hstored hbecomes (hreferred hid)).logged_about (hold.object _ _ hstored)
    exact List.forall_mem_singleton.mpr hsuccession.about
  | @superseded original original' newObj update actor link event _ hstored _ _ hsuperseded
      hsuccession =>
    have hlogged := (hkept hstored hsuperseded.becomes (hreferred hsuperseded.id)).logged_about
      (hold.object _ _ hstored) (List.forall_mem_singleton.mpr hsuccession.about)
    have hstored' : Known (ids ∪ fresh) (GraphService.storeObject newObj
        ((GraphService.storeObject original' s).logged [event])) := by
      apply hlogged.storeObject (hnew hsuperseded.id)
      · rw [hsuperseded.successor.supersededBy]
        nofun
      · unfold ControlObject.Descends
        rw [hsuperseded.successor.version, hsuperseded.successor.derivedFrom,
          List.forall_mem_singleton, ← hsuperseded.becomes.id]
        have hfirst := (hold.lineage _ _ hstored).1
        exact ⟨by omega, fun _ => Dict.mem_set.mpr (Or.inl rfl)⟩
    apply hstored'.storeLink (hnew hsuperseded.link_id)
    · rw [hsuperseded.sourceId]
      exact Dict.mem_set.mpr (Or.inl rfl)
    · rw [hsuperseded.targetId, ← hsuperseded.becomes.id]
      exact Dict.mem_set.mpr (Or.inr (Dict.mem_set.mpr (Or.inl rfl)))
  | linked hsource htarget _ hlinked =>
    have hstored := hold.storeLink (hnew hlinked.id)
      (by
        rw [hlinked.sourceId]
        exact Dict.mem_of_get? hsource)
      (by
        rw [hlinked.targetId]
        exact Dict.mem_of_get? htarget)
    apply hstored.logged
    rw [List.forall_mem_singleton, hlinked.object, hlinked.about]
    constructor
    · nofun
    · rintro n ⟨⟩
      exact hnew hlinked.id

end Known
section Frame
variable {ids fresh : Set String} {uc : Unicode} {s s' : GraphService} {op : GraphServiceOp}
  {raised : Bool}

theorem Known.ne_fresh (h : Known ids s) (hdisjoint : Disjoint ids fresh) {id id' : String}
    (hid : id ∈ s.repo.objects) (hid' : id' ∈ fresh) : id ≠ id' := by
  rintro rfl
  obtain ⟨obj, hobj⟩ := Dict.mem_iff_get?.mp hid
  exact Set.disjoint_left.mp hdisjoint (h.object id obj hobj) hid'

theorem Known.link_ne_fresh (h : Known ids s) (hdisjoint : Disjoint ids fresh) {id id' : String}
    (hid : id ∈ s.repo.links) (hid' : id' ∈ fresh) : id ≠ id' := by
  rintro rfl
  obtain ⟨link, hlink⟩ := Dict.mem_iff_get?.mp hid
  exact Set.disjoint_left.mp hdisjoint (h.link id link hlink).2 hid'

open ControlObject in
/-- A stored object stays stored, with its identity. -/
theorem Effect.keeps_object (heffect : Effect fresh uc s op raised s') (h : Known ids s)
    (hdisjoint : Disjoint ids fresh) {id : String} {obj : ControlObject}
    (hobj : s.repo.objects.get? id = some obj) :
    ∃ obj', s'.repo.objects.get? id = some obj' ∧ obj.SameIdentity obj' := by
  have hchanged {old new : ControlObject} {state : ControlState} {payload : JsonDict}
      {successor : Option String} (hstored : s.repo.objects.get? old.id = some old)
      (hbecomes : old.Becomes new state payload successor) :
      ∃ obj', (s.repo.objects.set new.id new).get? id = some obj' ∧ obj.SameIdentity obj' := by
    rw [Dict.get?_set, hbecomes.id]
    by_cases hid : id = old.id
    · subst hid
      obtain rfl := Option.some.inj (hstored.symm.trans hobj)
      exact ⟨new, if_pos rfl, hbecomes.toSameIdentity⟩
    · exact ⟨obj, (if_neg hid).trans hobj, SameIdentity.refl obj⟩
  cases heffect with
  | rejected _ => exact ⟨obj, hobj, SameIdentity.refl obj⟩
  | checked _ _ => exact ⟨obj, hobj, SameIdentity.refl obj⟩
  | registered => exact ⟨obj, hobj, SameIdentity.refl obj⟩
  | unborn _ _ => exact ⟨obj, hobj, SameIdentity.refl obj⟩
  | linked _ _ _ _ => exact ⟨obj, hobj, SameIdentity.refl obj⟩
  | created _ hcreated =>
    have hne := h.ne_fresh hdisjoint (Dict.mem_of_get? hobj) hcreated.id
    exact ⟨obj, (Dict.get?_set_of_ne hne _ _).trans hobj, SameIdentity.refl obj⟩
  | changed hstored _ hbecomes _ _ => exact hchanged hstored hbecomes
  | changedSilently hstored _ hbecomes => exact hchanged hstored hbecomes
  | referred _ hstored _ _ hbecomes => exact hchanged hstored hbecomes
  | interrupted _ hstored _ _ _ hbecomes _ => exact hchanged hstored hbecomes
  | superseded _ hstored _ _ hsuperseded _ =>
    have hne := h.ne_fresh hdisjoint (Dict.mem_of_get? hobj) hsuperseded.id
    obtain ⟨obj', hobj', hsame⟩ := hchanged hstored hsuperseded.becomes
    exact ⟨obj', (Dict.get?_set_of_ne hne _ _).trans hobj', hsame⟩

/-- A stored link stays as it is. -/
theorem Effect.keeps_link (heffect : Effect fresh uc s op raised s') (h : Known ids s)
    (hdisjoint : Disjoint ids fresh) {id : String} {link : ControlLink}
    (hlink : s.repo.links.get? id = some link) : s'.repo.links.get? id = some link := by
  cases heffect with
  | superseded _ _ _ _ hsuperseded _ =>
    have hne := h.link_ne_fresh hdisjoint (Dict.mem_of_get? hlink) hsuperseded.link_id
    exact (Dict.get?_set_of_ne hne _ _).trans hlink
  | linked _ _ _ hlinked =>
    have hne := h.link_ne_fresh hdisjoint (Dict.mem_of_get? hlink) hlinked.id
    exact (Dict.get?_set_of_ne hne _ _).trans hlink
  | _ => exact hlink

end Frame

section Run
variable {rt : Runtime} {uc : Unicode} {w : World GraphService} {op : GraphServiceOp}
  {ops : List GraphServiceOp}

/-- What holds while the operations are still to come: the identifiers in the service have been
drawn, and none of those to be drawn repeats another. -/
structure Undrawn (rt : Runtime) (w : World GraphService) (ops : List GraphServiceOp) : Prop where
  known : Known (rt.drawn w.env) w.self
  uuid4 : Set.InjOn rt.uuid4 (Set.Iio (w.env.draws + 7 * ops.length))

theorem undrawn_new (policy : GraphPolicyEngine) (checker : GraphConsistencyChecker)
    (listeners : List FabricAuditListener) {env : Env}
    (huuid : Set.InjOn rt.uuid4 (Set.Iio (env.draws + 7 * ops.length))) :
    Undrawn rt ⟨.new policy checker listeners, env⟩ ops :=
  ⟨Known.new policy checker listeners _, huuid⟩

/-- One call, by its effect. -/
theorem Undrawn.effect (uc : Unicode) (h : Undrawn rt w (op :: ops)) :
    ∃ k ≤ 7, ∃ raised s, (op.call rt uc).returns w = !raised ∧
      serviceStep rt uc op w = ⟨s, w.env.tick k⟩ ∧
      Disjoint (rt.drawn w.env) (rt.fresh w.env k) ∧
      Effect (rt.fresh w.env k) uc w.self op raised s := by
  obtain ⟨k, hk, raised, s, hleads, heffect⟩ :=
    outcome_call rt uc h.known.keyed op
  have huuid : Set.InjOn rt.uuid4 (Set.Iio (w.env.draws + k)) := by
    apply h.uuid4.mono
    apply Set.Iio_subset_Iio
    rw [List.length_cons]
    omega
  exact ⟨k, hk, raised, s, hleads.returns, hleads.self_after, Runtime.disjoint_drawn_fresh huuid,
    heffect⟩

theorem Undrawn.step (uc : Unicode) (h : Undrawn rt w (op :: ops)) :
    Undrawn rt (serviceStep rt uc op w) ops := by
  obtain ⟨k, hk, raised, s, -, hstep, -, heffect⟩ := h.effect uc
  rw [hstep]
  constructor
  · rw [Runtime.drawn_tick]
    exact h.known.effect heffect
  · apply h.uuid4.mono
    apply Set.Iio_subset_Iio
    rw [List.length_cons, Env.tick_draws]
    omega

theorem Undrawn.run (uc : Unicode) {ops' : List GraphServiceOp} (h : Undrawn rt w (ops ++ ops')) :
    Undrawn rt (serviceRun rt uc w ops) ops' :=
  resource_run (serviceStep rt uc) (fun _ _ _ hw => hw.step uc) h

theorem Known.step (uc : Unicode) (h : Known (rt.drawn w.env) w.self) :
    Known (rt.drawn (serviceStep rt uc op w).env) (serviceStep rt uc op w).self := by
  obtain ⟨k, -, raised, s, hleads, heffect⟩ := outcome_call rt uc h.keyed op
  have hstep : serviceStep rt uc op w = ⟨s, w.env.tick k⟩ := hleads.self_after
  rw [hstep, Runtime.drawn_tick]
  exact h.effect heffect

/-- What is stored in a service that began empty is known, whatever is drawn. -/
theorem known_serviceRun (rt : Runtime) (uc : Unicode) (policy : GraphPolicyEngine)
    (checker : GraphConsistencyChecker) (listeners : List FabricAuditListener) (env : Env)
    (ops : List GraphServiceOp) :
    let w := serviceRun rt uc ⟨.new policy checker listeners, env⟩ ops
    Known (rt.drawn w.env) w.self :=
  run_invariant (I := fun w => Known (rt.drawn w.env) w.self) (serviceStep rt uc)
    (fun _ _ _ h => h.step uc) (Known.new policy checker listeners _)

/-- Exact condition rule for the states of a service: what each effect keeps exactly under a
condition holds along a run exactly when every call meets it. -/
theorem always_iff_of_effect {P : GraphService → Prop} {C : GraphServiceOp → GraphService → Prop}
    (h : ∀ (ids fresh : Set String) (s : GraphService) (op : GraphServiceOp) (raised : Bool)
      (s' : GraphService), Known ids s → Disjoint ids fresh → Effect fresh uc s op raised s' →
        P s → (P s' ↔ C op s))
    (hw : Undrawn rt w ops) (hP : P w.self) :
    Always (serviceStep rt uc) (fun w => P w.self) w ops ↔
      Conforms (serviceStep rt uc) (fun op w => C op w.self) w ops := by
  apply always_iff_conforms_of_resource (serviceStep rt uc) (fun _ _ _ hw => hw.step uc)
    (I := Undrawn rt) _ hw hP
  intro w op ops hw hP
  obtain ⟨k, -, raised, s, -, hstep, hdisjoint, heffect⟩ := hw.effect uc
  rw [hstep]
  exact h _ _ _ _ _ _ hw.known hdisjoint heffect hP

end Run

/-- Two work orders, a link from the second to the first, and the first superseded. -/
def supersededOrder : List GraphServiceOp :=
  [.createObject "t" (.workOrder .field) "ada" true,
    .createObject "t" (.workOrder .field) "ada" true,
    .createLink "t"
      { sourceId := "00000000-0000-4000-8000-000000000005"
        targetId := "00000000-0000-4000-8000-000000000000"
        linkType := .derivesFrom },
    .supersedeObject "00000000-0000-4000-8000-000000000000" (.workOrder .field) "ada"]

end ControlFabric.Fabric
