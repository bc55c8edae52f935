import ControlFabric.Fabric.Reachable

/-! Supersession is a well-formed successor relation exactly when every object that is superseded
gets its successor in the same call. -/
namespace ControlFabric.Fabric
open Lib Py Method ControlObject

/-- The object is a later version, made from `obj`. A first version may be derived from others
without superseding them. -/
def ControlObject.Supersedes (newObj obj : ControlObject) : Prop :=
  1 < newObj.version ∧ obj.id ∈ newObj.derivedFrom

theorem ControlObject.Supersedes.same {newObj newObj' obj obj' : ControlObject}
    (h : newObj.Supersedes obj) (hnew : newObj.SameIdentity newObj') (hobj : obj'.id = obj.id) :
    newObj'.Supersedes obj' := by
  unfold Supersedes
  rw [hnew.version, hnew.derivedFrom, hobj]
  exact h

namespace GraphService

/-- The object stored under `id` lists `obj` as the predecessor it supersedes. -/
def Listed (s : GraphService) (id : String) (obj : ControlObject) : Prop :=
  ∃ newObj, s.repo.objects.get? id = some newObj ∧ newObj.Supersedes obj

/-- What a successor has to be. -/
structure Follows (s : GraphService) (id : String) (newObj obj : ControlObject) : Prop where
  tenantId : newObj.tenantId = obj.tenantId
  version : newObj.version = obj.version + 1
  supersededBy : obj.supersededBy = some id
  link : ∃ linkId link, s.repo.links.get? linkId = some link ∧ link.linkType = .supercedes ∧
    link.sourceId = id ∧ link.targetId = obj.id

/-- State, pointer, successor and link of an object are in step. -/
structure WellSucceeded (s : GraphService) (obj : ControlObject) : Prop where
  state : obj.state = .superseded ↔ obj.supersededBy ≠ none
  successor : obj.supersededBy ≠ none ↔ ∃! id, s.Listed id obj
  follows : ∀ id newObj, s.repo.objects.get? id = some newObj → newObj.Supersedes obj →
    s.Follows id newObj obj

def SuccessionSound (s : GraphService) : Prop :=
  ∀ id obj, s.repo.objects.get? id = some obj → s.WellSucceeded obj

variable {s s' : GraphService} {obj obj' : ControlObject}

/-- An object that nothing supersedes. -/
theorem wellSucceeded_of_none (hstate : obj.state ≠ .superseded) (hnone : obj.supersededBy = none)
    (hlast : ∀ id newObj, s.repo.objects.get? id = some newObj → ¬ newObj.Supersedes obj) :
    s.WellSucceeded obj where
  state := iff_of_false hstate (not_not.mpr hnone)
  successor := by
    apply iff_of_false (not_not.mpr hnone)
    rintro ⟨id, ⟨newObj, hnew, hsupersedes⟩, -⟩
    exact hlast id newObj hnew hsupersedes
  follows := fun id newObj hnew hsupersedes => absurd hsupersedes (hlast id newObj hnew)

/-- What is not superseded has no pointer, and nothing supersedes it. -/
theorem WellSucceeded.last (h : s.WellSucceeded obj) (hstate : obj.state ≠ .superseded) :
    obj.supersededBy = none ∧
      ∀ id newObj, s.repo.objects.get? id = some newObj → ¬ newObj.Supersedes obj := by
  have hnone : obj.supersededBy = none := by
    by_contra hsome
    exact hstate (h.state.mpr hsome)
  refine ⟨hnone, ?_⟩
  intro id newObj hnew hsupersedes
  have hfollows := (h.follows id newObj hnew hsupersedes).supersededBy
  rw [hnone] at hfollows
  cases hfollows

/-- An object stays in step with its successors while they stay the same. -/
theorem WellSucceeded.keep (h : s.WellSucceeded obj) (hsame : obj.SameIdentity obj')
    (hstate : obj'.state = .superseded ↔ obj.state = .superseded)
    (hsupersededBy : obj'.supersededBy = obj.supersededBy)
    (hkept : ∀ id newObj, s.repo.objects.get? id = some newObj →
      ∃ newObj', s'.repo.objects.get? id = some newObj' ∧ newObj.SameIdentity newObj')
    (hback : ∀ id newObj', s'.repo.objects.get? id = some newObj' → newObj'.Supersedes obj' →
      ∃ newObj, s.repo.objects.get? id = some newObj ∧ newObj.SameIdentity newObj')
    (hlinks : ∀ id link, s.repo.links.get? id = some link → s'.repo.links.get? id = some link) :
    s'.WellSucceeded obj' := by
  have hbefore : ∀ id newObj', s'.repo.objects.get? id = some newObj' → newObj'.Supersedes obj' →
      ∃ newObj, s.repo.objects.get? id = some newObj ∧ newObj.SameIdentity newObj' ∧
        newObj.Supersedes obj := by
    intro id newObj' hnew' hsupersedes
    obtain ⟨newObj, hnew, hnewSame⟩ := hback id newObj' hnew' hsupersedes
    refine ⟨newObj, hnew, hnewSame, ?_⟩
    unfold Supersedes at hsupersedes ⊢
    rw [hnewSame.version, hnewSame.derivedFrom, hsame.id] at hsupersedes
    exact hsupersedes
  have hlisted : ∀ id, s'.Listed id obj' ↔ s.Listed id obj := by
    intro id
    constructor
    · rintro ⟨newObj', hnew', hsupersedes⟩
      obtain ⟨newObj, hnew, -, hsupersedes⟩ := hbefore id newObj' hnew' hsupersedes
      exact ⟨newObj, hnew, hsupersedes⟩
    · rintro ⟨newObj, hnew, hsupersedes⟩
      obtain ⟨newObj', hnew', hnewSame⟩ := hkept id newObj hnew
      exact ⟨newObj', hnew', hsupersedes.same hnewSame hsame.id⟩
  constructor
  · rw [hstate, hsupersededBy]
    exact h.state
  · simp only [hlisted, hsupersededBy]
    exact h.successor
  · intro id newObj' hnew' hsupersedes
    obtain ⟨newObj, hnew, hnewSame, hsupersedes⟩ := hbefore id newObj' hnew' hsupersedes
    obtain ⟨htenant, hversion, hpointer, linkId, link, hlink, htype, hsource, htarget⟩ :=
      h.follows id newObj hnew hsupersedes
    exact
      { tenantId := by rw [hnewSame.tenantId, hsame.tenantId, htenant]
        version := by rw [hnewSame.version, hsame.version, hversion]
        supersededBy := hsupersededBy.trans hpointer
        link := ⟨linkId, link, hlinks linkId link hlink, htype, hsource,
          htarget.trans hsame.id.symm⟩ }

end GraphService

namespace GraphServiceOp
variable (uc : Unicode) (s : GraphService)

/-- An object becomes superseded only by a call that gives it a successor, and such a call goes
through: the object may be superseded, and no listener objects. -/
def HandsOver : GraphServiceOp → Prop
  | supersedeObject objectId update _ => ∀ obj ∈ s.repo.objects.get? objectId,
      update.Buildable uc → .superseded ∈ obj.state.validStateTransitions ∧
        s.audit.objection = none
  | transitionObject objectId newState _ _ => ∀ obj ∈ s.repo.objects.get? objectId,
      newState = .superseded → .superseded ∉ obj.state.validStateTransitions
  | _ => True

variable {uc s} {op : GraphServiceOp}

theorem Rejected.handsOver (h : op.Rejected uc s) : op.HandsOver uc s := by
  cases op with
  | supersedeObject _ _ _ => exact fun obj hobj hbuild => absurd hbuild (h obj hobj)
  | transitionObject _ _ _ _ =>
    rintro obj hobj rfl
    exact h obj hobj
  | _ => trivial

theorem Moves.handsOver_iff {obj : ControlObject} {newState : ControlState}
    (hstored : s.repo.objects.get? obj.id = some obj) (h : op.Moves obj newState) :
    op.HandsOver uc s ↔ (newState = .superseded → obj.state = .superseded) := by
  cases op with
  | enrichObject _ _ _ =>
    obtain ⟨-, -, rfl⟩ := h
    apply iff_of_true trivial
    unfold ControlObject.enrichedState
    split
    · nofun
    · exact id
  | freezeObject _ _ =>
    obtain ⟨-, -, rfl⟩ := h
    exact iff_of_true trivial nofun
  | deprecateObject _ _ =>
    obtain ⟨-, -, rfl⟩ := h
    exact iff_of_true trivial nofun
  | transitionObject _ _ _ _ =>
    obtain ⟨rfl, hvalid, rfl⟩ := h
    apply (Dict.forall_get?_of_some hstored).trans
    constructor
    · rintro hinvalid rfl
      exact absurd hvalid (hinvalid rfl)
    · rintro hsame rfl
      rw [hsame rfl] at hvalid
      cases hvalid
  | _ => exact h.elim

end GraphServiceOp

section Effects
variable {ids fresh : Set String} {uc : Unicode} {s s' : GraphService} {op : GraphServiceOp}
  {raised : Bool}

/-- Nothing stored supersedes an object that is still to come. -/
theorem Known.not_supersedes_fresh (h : Known ids s) (hdisjoint : Disjoint ids fresh)
    {id : String} {newObj obj : ControlObject} (hnew : s.repo.objects.get? id = some newObj)
    (hobj : obj.id ∈ fresh) : ¬ newObj.Supersedes obj := by
  rintro ⟨hlater, hderived⟩
  exact h.ne_fresh hdisjoint ((h.lineage id newObj hnew).2 hlater _ hderived) hobj rfl

/-- The same object, in a state that is superseded exactly when it was and with the same pointer. -/
def ControlObject.SameSuccession (obj obj' : ControlObject) : Prop :=
  obj.SameIdentity obj' ∧ (obj'.state = .superseded ↔ obj.state = .superseded) ∧
    obj'.supersededBy = obj.supersededBy

theorem ControlObject.SameSuccession.refl (obj : ControlObject) : obj.SameSuccession obj :=
  ⟨SameIdentity.refl obj, Iff.rfl, rfl⟩

/-- Every object behind the change of one is as before it or that one. -/
theorem before_storeObject {obj obj' : ControlObject}
    (hstored : s.repo.objects.get? obj.id = some obj) (hsame : obj.SameSuccession obj') {id : String}
    {o' : ControlObject} (ho' : (GraphService.storeObject obj' s).repo.objects.get? id = some o') :
    ∃ o, s.repo.objects.get? id = some o ∧ o.SameSuccession o' := by
  rw [GraphService.storeObject_objects, Dict.get?_set, hsame.1.id] at ho'
  split at ho'
  next heq =>
    obtain rfl := Option.some.inj ho'
    exact ⟨obj, heq ▸ hstored, hsame⟩
  next => exact ⟨o', ho', SameSuccession.refl o'⟩

/-- Supersession is not sound behind a pointer to an object that is not stored. -/
theorem not_successionSound_of_dangling (h : Known ids s) (hdisjoint : Disjoint ids fresh)
    {obj obj' : ControlObject} {state : ControlState} {payload : JsonDict} {successor : String}
    (hstored : s.repo.objects.get? obj.id = some obj) (hid : successor ∈ fresh)
    (hbecomes : obj.Becomes obj' state payload (some successor))
    (hobjects : s'.repo.objects = (GraphService.storeObject obj' s).repo.objects) :
    ¬ s'.SuccessionSound := by
  intro hsound
  have hget : s'.repo.objects.get? obj'.id = some obj' := by
    rw [hobjects]
    exact Dict.get?_set_self _ _ _
  have hwell := hsound obj'.id obj' hget
  have hsome : obj'.supersededBy ≠ none := by
    rw [hbecomes.supersededBy]
    exact Option.some_ne_none successor
  obtain ⟨id, ⟨newObj, hnew, hsupersedes⟩, -⟩ := hwell.successor.mp hsome
  have hpointer := (hwell.follows id newObj hnew hsupersedes).supersededBy
  rw [hbecomes.supersededBy] at hpointer
  obtain rfl := Option.some.inj hpointer
  have hmem := Dict.mem_of_get? hnew
  rw [hobjects, GraphService.storeObject_objects, Dict.mem_set, hbecomes.id] at hmem
  rcases hmem with rfl | hmem
  · exact h.ne_fresh hdisjoint (Dict.mem_of_get? hstored) hid rfl
  · exact h.ne_fresh hdisjoint hmem hid rfl

/-- A new object supersedes nothing, and nothing supersedes it. -/
theorem Created.successionSound {create : ControlObjectCreate} {tenantId : String}
    {obj : ControlObject} {created : FabricAuditEvent} {later events : List FabricAuditEvent}
    (hcreated : Created fresh create tenantId obj created later) (hsound : s.SuccessionSound)
    (h : Known ids s) (hdisjoint : Disjoint ids fresh)
    (hkept : ∀ id o, s.repo.objects.get? id = some o → ∃ o',
      (GraphService.storeObject obj (s.logged events)).repo.objects.get? id = some o' ∧
        o.SameIdentity o')
    (hlinks : ∀ id l, s.repo.links.get? id = some l →
      (GraphService.storeObject obj (s.logged events)).repo.links.get? id = some l) :
    (GraphService.storeObject obj (s.logged events)).SuccessionSound := by
  have hfirst : ∀ {o : ControlObject}, ¬ obj.Supersedes o := by
    rintro o ⟨hlater, -⟩
    rw [hcreated.version] at hlater
    exact lt_irrefl 1 hlater
  have hback : ∀ id o', (s.repo.objects.set obj.id obj).get? id = some o' →
      o' = obj ∨ s.repo.objects.get? id = some o' := by
    intro id o' ho'
    rw [Dict.get?_set] at ho'
    split at ho'
    next => exact Or.inl (Option.some.inj ho').symm
    next => exact Or.inr ho'
  intro id o' ho'
  rcases hback id o' ho' with rfl | hold
  · apply GraphService.wellSucceeded_of_none _ hcreated.supersededBy
    · intro id' n hn hlists
      rcases hback id' n hn with rfl | hn
      · exact hfirst hlists
      · exact h.not_supersedes_fresh hdisjoint hn hcreated.id hlists
    · rcases hcreated.state with hdraft | hactive
      · rw [hdraft]
        decide
      · rw [hactive]
        decide
  · apply (hsound id o' hold).keep (SameIdentity.refl o') Iff.rfl rfl hkept _ hlinks
    intro id' n hn hlists
    rcases hback id' n hn with rfl | hn
    · exact absurd hlists hfirst
    · exact ⟨n, hn, SameIdentity.refl n⟩

theorem Superseded.successionSound {update : ControlObjectCreate}
    {original original' newObj : ControlObject} {link : ControlLink} {events : List FabricAuditEvent}
    (hsuperseded : Superseded fresh update original original' newObj link)
    (hsound : s.SuccessionSound) (h : Known ids s) (hdisjoint : Disjoint ids fresh)
    (hstored : s.repo.objects.get? original.id = some original)
    (hstate : original.state ≠ .superseded)
    (hkept : ∀ id obj, s.repo.objects.get? id = some obj → ∃ obj',
      (GraphService.storeLink link (GraphService.storeObject newObj
        ((GraphService.storeObject original' s).logged events))).repo.objects.get? id = some obj' ∧
      obj.SameIdentity obj')
    (hlinks : ∀ id l, s.repo.links.get? id = some l →
      (GraphService.storeLink link (GraphService.storeObject newObj
        ((GraphService.storeObject original' s).logged events))).repo.links.get? id = some l) :
    (GraphService.storeLink link (GraphService.storeObject newObj
      ((GraphService.storeObject original' s).logged events))).SuccessionSound := by
  have hne : newObj.id ≠ original.id :=
    (h.ne_fresh hdisjoint (Dict.mem_of_get? hstored) hsuperseded.id).symm
  have hbecomes := hsuperseded.becomes
  -- What is stored besides the new version was stored before, the original in another state.
  have hback : ∀ id o', ((s.repo.objects.set original'.id original').set newObj.id newObj).get? id =
      some o' → (id = newObj.id ∧ o' = newObj) ∨ (id = original.id ∧ o' = original') ∨
        id ≠ original.id ∧ s.repo.objects.get? id = some o' := by
    intro id o' ho'
    rw [Dict.get?_set, Dict.get?_set, hbecomes.id] at ho'
    split at ho'
    next heq => exact Or.inl ⟨heq, (Option.some.inj ho').symm⟩
    next =>
      split at ho'
      next heq => exact Or.inr (Or.inl ⟨heq, (Option.some.inj ho').symm⟩)
      next hid => exact Or.inr (Or.inr ⟨hid, ho'⟩)
  have hsupersedes {obj : ControlObject} : newObj.Supersedes obj ↔ obj.id = original.id := by
    unfold Supersedes
    rw [hsuperseded.successor.version, hsuperseded.successor.derivedFrom, List.mem_singleton]
    have hfirst := (h.lineage _ _ hstored).1
    exact and_iff_right (by omega)
  obtain ⟨hnone, hlast⟩ := (hsound _ _ hstored).last hstate
  have horiginal {obj : ControlObject} (hlists : original'.Supersedes obj) :
      original.Supersedes obj := by
    unfold Supersedes at hlists ⊢
    rwa [hbecomes.version, hbecomes.derivedFrom] at hlists
  intro id obj hobj
  rcases hback id obj hobj with ⟨rfl, rfl⟩ | ⟨rfl, rfl⟩ | ⟨hid, hold⟩
  -- The new version.
  · apply GraphService.wellSucceeded_of_none
    · rw [hsuperseded.state]
      decide
    · exact hsuperseded.successor.supersededBy
    · intro id n hn hlists
      rcases hback id n hn with ⟨rfl, rfl⟩ | ⟨rfl, rfl⟩ | ⟨-, hold⟩
      · exact hne (hsupersedes.mp hlists)
      · exact h.not_supersedes_fresh hdisjoint hstored hsuperseded.id (horiginal hlists)
      · exact h.not_supersedes_fresh hdisjoint hold hsuperseded.id hlists
  -- The original.
  · have honly : ∀ id n, ((s.repo.objects.set obj.id obj).set newObj.id newObj).get? id = some n →
        n.Supersedes obj → id = newObj.id ∧ n = newObj := by
      intro id n hn hlists
      have hlists' : n.Supersedes original := hlists.same (SameIdentity.refl n) hbecomes.id.symm
      rcases hback id n hn with heq | ⟨rfl, rfl⟩ | ⟨-, hold⟩
      · exact heq
      · exact absurd (horiginal hlists') (hlast _ _ hstored)
      · exact absurd hlists' (hlast id n hold)
    have hsome : obj.supersededBy ≠ none := by
      rw [hbecomes.supersededBy]
      exact Option.some_ne_none _
    constructor
    · exact iff_of_true hbecomes.state hsome
    · apply iff_of_true hsome
      refine ⟨newObj.id, ⟨newObj, Dict.get?_set_self _ _ _, hsupersedes.mpr hbecomes.id⟩, ?_⟩
      rintro id' ⟨n, hn, hlists⟩
      exact (honly id' n hn hlists).1
    · intro id' n hn hlists
      obtain ⟨rfl, rfl⟩ := honly id' n hn hlists
      exact
        { tenantId := by rw [hsuperseded.successor.tenantId, hbecomes.tenantId]
          version := by rw [hsuperseded.successor.version, hbecomes.version]
          supersededBy := hbecomes.supersededBy
          link := ⟨link.id, link, Dict.get?_set_self _ _ _, hsuperseded.linkType,
            hsuperseded.sourceId, hsuperseded.targetId.trans hbecomes.id.symm⟩ }
  -- Any other object.
  · apply (hsound id obj hold).keep (SameIdentity.refl obj) Iff.rfl rfl hkept _ hlinks
    intro id' n hn hlists
    rcases hback id' n hn with ⟨rfl, rfl⟩ | ⟨rfl, rfl⟩ | ⟨-, hold'⟩
    · rw [hsupersedes, h.keyed id obj hold] at hlists
      exact absurd hlists hid
    · exact ⟨original, hstored, hbecomes.toSameIdentity⟩
    · exact ⟨n, hold', SameIdentity.refl n⟩

open GraphService in
/-- Supersession stays sound exactly when an object that is superseded is handed over. -/
theorem Effect.successionSound_iff (heffect : Effect fresh uc s op raised s') (h : Known ids s)
    (hdisjoint : Disjoint ids fresh) (hsound : s.SuccessionSound) :
    s'.SuccessionSound ↔ op.HandsOver uc s := by
  have hkept := fun (id : String) (obj : ControlObject)
    (hobj : s.repo.objects.get? id = some obj) => heffect.keeps_object h hdisjoint hobj
  have hlinks := fun (id : String) (link : ControlLink)
    (hlink : s.repo.links.get? id = some link) => heffect.keeps_link h hdisjoint hlink
  have hkeep (hback : ∀ id o', s'.repo.objects.get? id = some o' →
      ∃ o, s.repo.objects.get? id = some o ∧ o.SameSuccession o') : s'.SuccessionSound := by
    intro id o' ho'
    obtain ⟨o, ho, hsame, hstate, hpointer⟩ := hback id o' ho'
    apply (hsound id o ho).keep hsame hstate hpointer hkept _ hlinks
    intro id' n hn _
    obtain ⟨o, ho, hsame, -⟩ := hback id' n hn
    exact ⟨o, ho, hsame⟩
  cases heffect with
  | rejected hrejected => exact iff_of_true hsound hrejected.handsOver
  | checked _ _ => exact iff_of_true (hkeep fun _ o ho => ⟨o, ho, SameSuccession.refl o⟩) trivial
  | registered => exact iff_of_true (hkeep fun _ o ho => ⟨o, ho, SameSuccession.refl o⟩) trivial
  | unborn _ _ => exact iff_of_true (hkeep fun _ o ho => ⟨o, ho, SameSuccession.refl o⟩) trivial
  | linked _ _ _ _ =>
    exact iff_of_true (hkeep fun _ o ho => ⟨o, ho, SameSuccession.refl o⟩) trivial
  | created _ hcreated =>
    exact iff_of_true (hcreated.successionSound hsound h hdisjoint hkept hlinks) trivial
  | @changed _ obj obj' _ hstored hmoves hbecomes hstate _ =>
    have hnot : obj.state ≠ .superseded := by
      intro hsuperseded
      rcases hmoves.valid with hsame | hvalid
      · exact hstate hsame
      · rw [hsuperseded] at hvalid
        cases hvalid
    rw [hmoves.handsOver_iff hstored]
    constructor
    · intro hsound' hstate'
      have hwell := hsound' obj'.id obj' (Dict.get?_set_self _ _ _)
      have hnone := ((hsound _ _ hstored).last hnot).1
      rw [← hbecomes.supersededBy] at hnone
      exact absurd hnone (hwell.state.mp hstate')
    · intro hop
      exact hkeep fun _ _ ho' => before_storeObject hstored ⟨hbecomes.toSameIdentity,
        iff_of_false (fun hstate' => hnot (hop hstate')) hnot, hbecomes.supersededBy⟩ ho'
  | changedSilently hstored hmoves hbecomes =>
    apply iff_of_true
    · exact hkeep fun _ _ ho' => before_storeObject hstored ⟨hbecomes.toSameIdentity,
        by rw [hbecomes.state], hbecomes.supersededBy⟩ ho'
    · rw [hmoves.handsOver_iff hstored, hbecomes.state]
      exact id
  | referred hbuild hstored hinvalid hid hbecomes =>
    apply iff_of_false (not_successionSound_of_dangling h hdisjoint hstored hid hbecomes rfl)
    intro hop
    exact hinvalid (hop _ hstored hbuild).1
  | @interrupted _ original' _ _ _ event hbuild hstored _ hobjection hid hbecomes _ =>
    have hdangling : ¬ ((storeObject original' s).logged [event]).SuccessionSound :=
      not_successionSound_of_dangling h hdisjoint hstored hid hbecomes rfl
    apply iff_of_false hdangling
    intro hop
    exact hobjection (hop _ hstored hbuild).2
  | superseded _ hstored hvalid hobjection hsuperseded _ =>
    apply iff_of_true
    · apply hsuperseded.successionSound hsound h hdisjoint hstored _ hkept hlinks
      intro hstate
      rw [hstate] at hvalid
      cases hvalid
    · exact (Dict.forall_get?_of_some hstored).mpr fun _ => ⟨hvalid, hobjection⟩

end Effects

theorem successionSound_new (policy : GraphPolicyEngine) (checker : GraphConsistencyChecker)
    (listeners : List FabricAuditListener) :
    (GraphService.new policy checker listeners).SuccessionSound :=
  fun id obj hobj => absurd hobj (GraphService.new_objects policy checker listeners id obj)

theorem Undrawn.successionSound_iff {rt : Runtime} (uc : Unicode) {ops : List GraphServiceOp}
    {w : World GraphService} (hw : Undrawn rt w ops) (hsound : w.self.SuccessionSound) :
    Always (serviceStep rt uc) (fun w => w.self.SuccessionSound) w ops ↔
      Conforms (serviceStep rt uc) (fun op w => op.HandsOver uc w.self) w ops :=
  always_iff_of_effect
    (fun _ _ _ _ _ _ h hdisjoint heffect hsound => heffect.successionSound_iff h hdisjoint hsound)
    hw hsound

/-- In every state that a run of a new service goes through supersession is sound exactly when every
call hands over what it supersedes. -/
theorem serviceRun_successionSound_iff {rt : Runtime} (uc : Unicode) (policy : GraphPolicyEngine)
    (checker : GraphConsistencyChecker) (listeners : List FabricAuditListener) (env : Env)
    {ops : List GraphServiceOp} (huuid : Set.InjOn rt.uuid4 (Set.Iio (env.draws + 7 * ops.length))) :
    Always (serviceStep rt uc) (fun w => w.self.SuccessionSound)
        ⟨.new policy checker listeners, env⟩ ops ↔
      Conforms (serviceStep rt uc) (fun op w => op.HandsOver uc w.self)
        ⟨.new policy checker listeners, env⟩ ops :=
  (undrawn_new policy checker listeners huuid).successionSound_iff uc (successionSound_new _ _ _)

theorem serviceRun_successionSound_iff_superseded :
    Always (serviceStep .reference .ascii) (fun w => w.self.SuccessionSound)
        ⟨.new ⟨none⟩ (fun _ _ => ⟨true, 0, 0⟩) [], .initial "t"⟩
        supersededOrder ↔
      Conforms (serviceStep .reference .ascii) (fun op w => op.HandsOver .ascii w.self)
        ⟨.new ⟨none⟩ (fun _ _ => ⟨true, 0, 0⟩) [], .initial "t"⟩
        supersededOrder :=
  serviceRun_successionSound_iff .ascii ⟨none⟩ (fun _ _ => ⟨true, 0, 0⟩) [] (.initial "t")
    (Runtime.reference_uuid4.mono (Set.Iio_subset_Iio (by decide)))

/-- An active object that is moved to the state of a superseded one has no successor. -/
theorem serviceRun_transition_leaves_no_successor :
    ¬ ∀ (rt : Runtime) (uc : Unicode) (policy : GraphPolicyEngine)
        (checker : GraphConsistencyChecker) (listeners : List FabricAuditListener) (env : Env)
        (ops : List GraphServiceOp),
      Set.InjOn rt.uuid4 (Set.Iio (env.draws + 7 * ops.length)) →
        Always (serviceStep rt uc) (fun w => w.self.SuccessionSound)
          ⟨.new policy checker listeners, env⟩ ops := by
  intro h
  have huuid : Set.InjOn Runtime.reference.uuid4 (Set.Iio (0 + 7 * 2)) :=
    Runtime.reference_uuid4.mono (Set.Iio_subset_Iio (by decide))
  obtain ⟨obj, events, -, -, -, -, -, hactive, -, hstep⟩ :=
    serviceStep_createObject .reference (w := ⟨.new ⟨none⟩ (fun _ _ => ⟨true, 0, 0⟩) [],
      .initial "t"⟩) (ControlObjectCreate.workOrder_buildable .field) rfl "t" "ada" true
  have hrun := h .reference .ascii ⟨none⟩ (fun _ _ => ⟨true, 0, 0⟩) [] (.initial "t")
    [.createObject "t" (.workOrder .field) "ada" true,
      .transitionObject obj.id .superseded "ada" none] huuid
  obtain ⟨-, hop, -⟩ := ((undrawn_new _ _ _ huuid).successionSound_iff .ascii
    (successionSound_new _ _ _)).mp hrun
  rw [hstep] at hop
  have hinvalid := hop obj (Dict.get?_set_self _ _ _) rfl
  rw [hactive] at hinvalid
  exact hinvalid (by decide)

end ControlFabric.Fabric
