import ControlFabric.Fabric.Reachable

/-! What is not mutable keeps its contents exactly when nothing is added to a superseded or
deprecated object. -/
namespace ControlFabric.Fabric
open Lib Py Method ControlObject

/-- The value that an update gives to a key: of several the last one. -/
def lastValue (u : JsonDict) (key : String) : Option Json := u.reverse.lookup key

theorem lastValue_concat (u : JsonDict) (p : String × Json) (key : String) :
    lastValue (u ++ [p]) key = if key = p.1 then some p.2 else lastValue u key := by
  unfold lastValue
  rw [List.reverse_concat, List.lookup_cons]
  by_cases h : key = p.1
  · rw [if_pos h, h, beq_self_eq_true]
  · rw [if_neg h, beq_false_of_ne h]

/-- The update names only keys that the dictionary has, with the values it has. -/
def Repeats (d u : JsonDict) : Prop :=
  (∀ p ∈ u, p.1 ∈ d.map Prod.fst) ∧ ∀ q ∈ d, ∀ value ∈ lastValue u q.1, value = q.2

/-- What an update makes of an entry. -/
def overwrite (u : JsonDict) (q : String × Json) : String × Json :=
  (q.1, (lastValue u q.1).getD q.2)

theorem overwrite_concat (u : JsonDict) (p q : String × Json) :
    overwrite (u ++ [p]) q = if q.1 = p.1 then p else overwrite u q := by
  unfold overwrite
  rw [lastValue_concat]
  by_cases h : q.1 = p.1
  · rw [if_pos h, if_pos h, h]
    rfl
  · rw [if_neg h, if_neg h]

theorem overwrite_eq_self_iff {u : JsonDict} {q : String × Json} :
    overwrite u q = q ↔ ∀ value ∈ lastValue u q.1, value = q.2 := by
  unfold overwrite
  rw [Prod.ext_iff]
  cases lastValue u q.1 <;> simp

/-- An update overwrites the entries and adds those of new keys behind them. -/
theorem updateDict_split (d u : JsonDict) :
    ∃ added, updateDict d u = d.map (overwrite u) ++ added ∧
      (added = [] ↔ ∀ p ∈ u, p.1 ∈ d.map Prod.fst) := by
  have hkeys (u : JsonDict) : (d.map (overwrite u)).map Prod.fst = d.map Prod.fst := by
    rw [List.map_map]
    rfl
  induction u using List.reverseRecOn with
  | nil =>
    have hnone : d.map (overwrite []) = d := List.map_id'' (fun _ => rfl) d
    exact ⟨[], by rw [List.append_nil, hnone]; rfl, by simp⟩
  | append_singleton u p ih =>
    obtain ⟨added, hupdate, hadded⟩ := ih
    have hstep : updateDict d (u ++ [p]) = if p.1 ∈ (updateDict d u).map Prod.fst then
        (updateDict d u).map fun q => if q.1 = p.1 then p else q else updateDict d u ++ [p] := by
      unfold updateDict
      rw [List.foldl_append]
      rfl
    rw [hstep, hupdate, List.map_append, hkeys]
    by_cases hmem : p.1 ∈ d.map Prod.fst ++ added.map Prod.fst
    · rw [if_pos hmem]
      refine ⟨added.map fun q => if q.1 = p.1 then p else q, ?_, ?_⟩
      · rw [List.map_append, List.map_map]
        congr 1
        apply List.map_congr_left
        intro q _
        exact (overwrite_concat u p q).symm
      · rw [List.map_eq_nil_iff, List.forall_mem_append, List.forall_mem_singleton, ← hadded]
        refine ⟨?_, And.left⟩
        rintro rfl
        rw [List.map_nil, List.append_nil] at hmem
        exact ⟨rfl, hmem⟩
    · rw [if_neg hmem]
      rw [List.mem_append, not_or] at hmem
      refine ⟨added ++ [p], ?_, ?_⟩
      · rw [List.append_assoc]
        congr 1
        apply List.map_congr_left
        intro q hq
        rw [overwrite_concat, if_neg]
        intro heq
        exact hmem.1 (heq ▸ List.mem_map_of_mem hq)
      · apply iff_of_false
        · simp
        · rw [List.forall_mem_append, List.forall_mem_singleton]
          exact fun h => hmem.1 h.2

/-- An update changes nothing exactly when it repeats what is there. -/
theorem updateDict_eq_self_iff {d u : JsonDict} : updateDict d u = d ↔ Repeats d u := by
  obtain ⟨added, hupdate, hadded⟩ := updateDict_split d u
  unfold Repeats
  rw [hupdate, ← hadded]
  have hvalues : d.map (overwrite u) = d ↔ ∀ q ∈ d, ∀ value ∈ lastValue u q.1, value = q.2 := by
    have hmap := List.map_eq_map_iff (l := d) (f := overwrite u) (g := id)
    rw [List.map_id] at hmap
    simp only [hmap, id_eq, overwrite_eq_self_iff]
  rw [← hvalues]
  constructor
  · intro h
    have hlength := congrArg List.length h
    rw [List.length_append, List.length_map] at hlength
    have hnil : added = [] := List.eq_nil_of_length_eq_zero (by omega)
    rw [hnil, List.append_nil] at h
    exact ⟨hnil, h⟩
  · rintro ⟨rfl, h⟩
    rw [List.append_nil, h]

/-- A call on the service, or on a stored object that the caller holds. -/
inductive FabricOp where
  | service (op : GraphServiceOp)
  | enrich (objectId : String) (payloadUpdate : JsonDict) (audit : AuditContext)
  | attachEvidence (objectId : String) (evidence : EvidenceRef)

/-- A method called on a stored object, if there is one. -/
def callHeld (objectId : String) (m : Method ControlObject Unit) : Method GraphService Unit :=
  discard (GraphService.withObject objectId fun obj => GraphService.callStored obj m)

def FabricOp.call (rt : Runtime) (uc : Unicode) : FabricOp → Method GraphService Unit
  | service op => op.call rt uc
  | enrich objectId payloadUpdate audit =>
    callHeld objectId (ControlObject.enrich rt payloadUpdate audit)
  | attachEvidence objectId evidence => callHeld objectId (ControlObject.attachEvidence rt evidence)

def fabricStep (rt : Runtime) (uc : Unicode) (op : FabricOp) (w : World GraphService) :
    World GraphService := (op.call rt uc).after w

/-- What no call may change of an object that is not mutable, besides a valid transition. -/
structure ControlObject.Untouched (obj obj' : ControlObject) : Prop where
  payload : obj'.payload = obj.payload
  evidence : obj'.evidence = obj.evidence
  confidence : obj'.confidence = obj.confidence
  state : obj'.state = obj.state ∨ obj'.state ∈ obj.state.validStateTransitions

theorem ControlObject.Untouched.refl (obj : ControlObject) : obj.Untouched obj :=
  ⟨rfl, rfl, rfl, Or.inl rfl⟩

/-- What is not mutable is untouched behind a step. -/
def KeepsImmutable (s s' : GraphService) : Prop :=
  ∀ id obj, s.repo.objects.get? id = some obj → obj.isMutable = false →
    ∃ obj', s'.repo.objects.get? id = some obj' ∧ obj.Untouched obj'

/-- Nothing is added to an object that is not mutable, unless it is frozen: then the call raises. -/
def FabricOp.Respects (s : GraphService) : FabricOp → Prop
  | service (.enrichObject objectId payloadUpdate _) | enrich objectId payloadUpdate _ =>
    ∀ obj ∈ s.repo.objects.get? objectId, obj.isMutable = false → obj.state ≠ .frozen →
      Repeats obj.payload payloadUpdate
  | attachEvidence objectId _ =>
    ∀ obj ∈ s.repo.objects.get? objectId, obj.isMutable = false → obj.state = .frozen
  | service _ => True

section Effects
variable {ids fresh : Set String} {uc : Unicode} {s s' : GraphService}

theorem keepsImmutable_of_same (h : s'.repo.objects = s.repo.objects) : KeepsImmutable s s' := by
  intro id obj hobj _
  rw [h]
  exact ⟨obj, hobj, Untouched.refl obj⟩

/-- A change of one object keeps what is not mutable exactly when that object is mutable or
untouched. -/
theorem keepsImmutable_storeObject_iff {obj obj' : ControlObject}
    (hstored : s.repo.objects.get? obj.id = some obj) (hid : obj'.id = obj.id)
    (hobjects : s'.repo.objects = (GraphService.storeObject obj' s).repo.objects) :
    KeepsImmutable s s' ↔ (obj.isMutable = false → obj.Untouched obj') := by
  unfold KeepsImmutable
  rw [hobjects, GraphService.storeObject_objects, hid]
  constructor
  · intro h himmutable
    obtain ⟨o, ho, huntouched⟩ := h obj.id obj hstored himmutable
    rw [Dict.get?_set_self] at ho
    obtain rfl := Option.some.inj ho
    exact huntouched
  · intro h id o ho himmutable
    by_cases heq : id = obj.id
    · subst heq
      obtain rfl := Option.some.inj (hstored.symm.trans ho)
      exact ⟨obj', Dict.get?_set_self _ _ _, h himmutable⟩
    · exact ⟨o, (Dict.get?_set_of_ne heq _ _).trans ho, Untouched.refl o⟩

theorem ControlObject.Becomes.untouched_iff {obj obj' : ControlObject} {state : ControlState}
    {payload : JsonDict} {successor : Option String}
    (h : obj.Becomes obj' state payload successor)
    (hstate : state = obj.state ∨ state ∈ obj.state.validStateTransitions) :
    obj.Untouched obj' ↔ payload = obj.payload := by
  constructor
  · intro huntouched
    rw [← h.payload, huntouched.payload]
  · intro hpayload
    exact
      { payload := h.payload.trans hpayload
        evidence := h.evidence
        confidence := h.confidence
        state := by rwa [h.state] }

theorem GraphServiceOp.Moves.respects_iff {op : GraphServiceOp} {obj : ControlObject}
    {newState : ControlState} (hstored : s.repo.objects.get? obj.id = some obj)
    (h : op.Moves obj newState) : FabricOp.Respects s (.service op) ↔
      (obj.isMutable = false → updateDict obj.payload op.payloadUpdate = obj.payload) := by
  cases op with
  | enrichObject _ payloadUpdate _ =>
    obtain ⟨rfl, hstate, -⟩ := h
    apply (Dict.forall_get?_of_some hstored).trans
    have hrepeats : Repeats obj.payload payloadUpdate ↔
        updateDict obj.payload payloadUpdate = obj.payload := updateDict_eq_self_iff.symm
    rw [forall_prop_of_true hstate, hrepeats]
    rfl
  | freezeObject _ _ => exact iff_of_true trivial fun _ => rfl
  | deprecateObject _ _ => exact iff_of_true trivial fun _ => rfl
  | transitionObject _ _ _ _ => exact iff_of_true trivial fun _ => rfl
  | _ => exact h.elim

theorem GraphServiceOp.Rejected.respects {op : GraphServiceOp} (h : op.Rejected uc s) :
    FabricOp.Respects s (.service op) := by
  cases op with
  | enrichObject _ _ _ => exact fun obj hobj _ hstate => absurd (h obj hobj) hstate
  | _ => trivial

theorem Effect.keepsImmutable_iff {op : GraphServiceOp} {raised : Bool}
    (heffect : Effect fresh uc s op raised s') (h : Known ids s) (hdisjoint : Disjoint ids fresh) :
    KeepsImmutable s s' ↔ FabricOp.Respects s (.service op) := by
  -- An object that is superseded, or refers to a new version, keeps its contents.
  have hreferring {original original' : ControlObject} {state : ControlState} {successor : String}
      (hbecomes : original.Becomes original' state original.payload (some successor))
      (hstate : state = original.state ∨ state ∈ original.state.validStateTransitions) :
      original.isMutable = false → original.Untouched original' := fun _ =>
    (hbecomes.untouched_iff hstate).mpr rfl
  cases heffect with
  | rejected hrejected => exact iff_of_true (keepsImmutable_of_same rfl) hrejected.respects
  | checked _ _ => exact iff_of_true (keepsImmutable_of_same rfl) trivial
  | registered => exact iff_of_true (keepsImmutable_of_same rfl) trivial
  | unborn _ _ => exact iff_of_true (keepsImmutable_of_same rfl) trivial
  | linked _ _ _ _ => exact iff_of_true (keepsImmutable_of_same rfl) trivial
  | created _ hcreated =>
    apply iff_of_true _ trivial
    intro id obj hobj _
    have hne := h.ne_fresh hdisjoint (Dict.mem_of_get? hobj) hcreated.id
    exact ⟨obj, (Dict.get?_set_of_ne hne _ _).trans hobj, Untouched.refl obj⟩
  | changed hstored hmoves hbecomes _ _ =>
    refine Iff.trans (keepsImmutable_storeObject_iff hstored hbecomes.id rfl) ?_
    rw [hmoves.respects_iff hstored, hbecomes.untouched_iff hmoves.valid]
  | changedSilently hstored hmoves hbecomes =>
    rw [keepsImmutable_storeObject_iff hstored hbecomes.id rfl, hmoves.respects_iff hstored,
      hbecomes.untouched_iff (Or.inl rfl)]
  | referred _ hstored _ _ hbecomes =>
    rw [keepsImmutable_storeObject_iff hstored hbecomes.id rfl]
    exact iff_of_true (hreferring hbecomes (Or.inl rfl)) trivial
  | interrupted _ hstored hvalid _ _ hbecomes _ =>
    refine Iff.trans (keepsImmutable_storeObject_iff hstored hbecomes.id rfl) ?_
    exact iff_of_true (hreferring hbecomes (Or.inr hvalid)) trivial
  | superseded _ hstored hvalid _ hsuperseded _ =>
    apply iff_of_true _ trivial
    intro id obj hobj himmutable
    have hne := h.ne_fresh hdisjoint (Dict.mem_of_get? hobj) hsuperseded.id
    have hstep := (keepsImmutable_storeObject_iff hstored hsuperseded.becomes.id rfl).mpr
      (hreferring hsuperseded.becomes (Or.inr hvalid))
    obtain ⟨obj', hobj', huntouched⟩ := hstep id obj hobj himmutable
    exact ⟨obj', (Dict.get?_set_of_ne hne _ _).trans hobj', huntouched⟩

end Effects

section Held
variable {rt : Runtime} {w : World GraphService} {objectId : String} {obj obj' : ControlObject}
  {m : Method ControlObject Unit}

theorem leads_callHeld_none (hget : w.self.repo.objects.get? objectId = none) :
    Leads (callHeld objectId m) w 0 false w.self := (leads_withObject_none hget).map _

theorem leads_callHeld_ok {k : ℕ} (hget : w.self.repo.objects.get? objectId = some obj)
    (hm : m.run ⟨obj, w.env⟩ = .ok () ⟨obj', w.env.tick k⟩) :
    Leads (callHeld objectId m) w k false (GraphService.storeObject obj' w.self) :=
  (leads_withObject hget (leads_ok (run_callStored_ok hm))).map _

theorem leads_callHeld_error {e : PyError} (hget : w.self.repo.objects.get? objectId = some obj)
    (hid : obj.id = objectId) (hm : m.run ⟨obj, w.env⟩ = .error e ⟨obj, w.env⟩) :
    Leads (callHeld objectId m) w 0 true w.self := by
  have hcall := run_callStored_error hm
  rw [GraphService.storeObject_of_get? (hid ▸ hget)] at hcall
  exact (leads_withObject hget (leads_error hcall)).map _

theorem run_attachEvidence_ok (rt : Runtime) (evidence : EvidenceRef) {w : World ControlObject}
    (h : w.self.state ≠ .frozen) :
    ∃ obj', w.self.SameIdentity obj' ∧ obj'.supersededBy = w.self.supersededBy ∧
      obj'.evidence = w.self.evidence ++ [evidence] ∧
      (attachEvidence rt evidence).run w = .ok () ⟨obj', w.env.tick 1⟩ := by
  unfold attachEvidence
  rw [EStateM.run_bind, run_self]
  dsimp only
  rw [if_neg h]
  refine ⟨_, ?_, ?_, ?_, rfl⟩
  · exact ⟨rfl, rfl, rfl, rfl, rfl, rfl, rfl, rfl⟩
  · rfl
  · rfl

theorem run_attachEvidence_error (rt : Runtime) (evidence : EvidenceRef) {w : World ControlObject}
    (h : w.self.state = .frozen) : ∃ e, (attachEvidence rt evidence).run w = .error e w := by
  unfold attachEvidence
  rw [EStateM.run_bind, run_self]
  dsimp only
  rw [if_pos h]
  exact ⟨_, rfl⟩

/-- What a call within seven draws leaves behind, and whether it keeps what is not mutable. -/
def Respected (rt : Runtime) (op : FabricOp) (m : Method GraphService Unit)
    (w : World GraphService) : Prop :=
  ∃ k ≤ 7, ∃ raised s, Leads m w k raised s ∧ (∀ ids, Known ids w.self →
    Known (ids ∪ rt.fresh w.env k) s) ∧ (KeepsImmutable w.self s ↔ op.Respects w.self)

theorem respected_refused {op : FabricOp} {m : Method GraphService Unit} {raised : Bool}
    (h : Leads m w 0 raised w.self) (hop : op.Respects w.self) : Respected rt op m w :=
  ⟨0, Nat.zero_le 7, raised, w.self, h, fun _ hknown => hknown.mono Set.subset_union_left,
    iff_of_true (keepsImmutable_of_same rfl) hop⟩

theorem Known.change {ids : Set String} {s : GraphService} (h : Known ids s)
    (hstored : s.repo.objects.get? obj.id = some obj) (hsame : obj.SameIdentity obj')
    (hsupersededBy : obj'.supersededBy = obj.supersededBy) :
    Known ids (GraphService.storeObject obj' s) := by
  apply h.storeObject
  · rw [hsame.id]
    exact h.object obj.id obj hstored
  · rw [hsupersededBy]
    exact h.successor obj.id obj hstored
  · exact (h.lineage obj.id obj hstored).same hsame

theorem respected_enrich (hkeyed : w.self.repo.Keyed) (objectId : String)
    (payloadUpdate : JsonDict) (audit : AuditContext) :
    Respected rt (.enrich objectId payloadUpdate audit)
      (callHeld objectId (ControlObject.enrich rt payloadUpdate audit)) w := by
  cases hget : w.self.repo.objects.get? objectId with
  | none => exact respected_refused (leads_callHeld_none hget) (Dict.forall_get?_of_none hget)
  | some obj =>
    obtain rfl := hkeyed objectId obj hget
    by_cases hfrozen : obj.state = .frozen
    · obtain ⟨e, he⟩ := run_enrich_error rt payloadUpdate audit (w := ⟨obj, w.env⟩) hfrozen
      exact respected_refused (leads_callHeld_error hget rfl he)
        ((Dict.forall_get?_of_some hget).mpr fun _ hstate => absurd hfrozen hstate)
    · obtain ⟨obj', hbecomes, hrun⟩ := run_enrich_ok rt payloadUpdate audit (w := ⟨obj, w.env⟩)
        hfrozen
      refine ⟨1, by omega, _, _, leads_callHeld_ok hget hrun, ?_, ?_⟩
      · intro ids h
        exact (h.change hget hbecomes.toSameIdentity hbecomes.supersededBy).mono
          Set.subset_union_left
      · have hmoves : GraphServiceOp.Moves obj obj.enrichedState
            (.enrichObject obj.id payloadUpdate audit.actor) := ⟨rfl, hfrozen, rfl⟩
        have hrepeats : (obj.state ≠ .frozen → Repeats obj.payload payloadUpdate) ↔
            Repeats obj.payload payloadUpdate := forall_prop_of_true hfrozen
        rw [keepsImmutable_storeObject_iff hget hbecomes.id rfl, hbecomes.untouched_iff hmoves.valid,
          updateDict_eq_self_iff, ← hrepeats]
        symm
        exact Dict.forall_get?_of_some hget

theorem respected_attachEvidence (hkeyed : w.self.repo.Keyed) (objectId : String)
    (evidence : EvidenceRef) : Respected rt (.attachEvidence objectId evidence)
      (callHeld objectId (ControlObject.attachEvidence rt evidence)) w := by
  cases hget : w.self.repo.objects.get? objectId with
  | none => exact respected_refused (leads_callHeld_none hget) (Dict.forall_get?_of_none hget)
  | some obj =>
    obtain rfl := hkeyed objectId obj hget
    by_cases hfrozen : obj.state = .frozen
    · obtain ⟨e, he⟩ := run_attachEvidence_error rt evidence (w := ⟨obj, w.env⟩) hfrozen
      exact respected_refused (leads_callHeld_error hget rfl he)
        ((Dict.forall_get?_of_some hget).mpr fun _ => hfrozen)
    · obtain ⟨obj', hsame, hsupersededBy, hevidence, hrun⟩ :=
        run_attachEvidence_ok rt evidence (w := ⟨obj, w.env⟩) hfrozen
      refine ⟨1, by omega, _, _, leads_callHeld_ok hget hrun, ?_, ?_⟩
      · intro ids h
        exact (h.change hget hsame hsupersededBy).mono Set.subset_union_left
      · have htouched : ¬ obj.Untouched obj' := by
          intro huntouched
          dsimp only at hevidence
          have hlength := congrArg List.length (hevidence.symm.trans huntouched.evidence)
          rw [List.length_append, List.length_singleton] at hlength
          omega
        rw [keepsImmutable_storeObject_iff hget hsame.id rfl]
        refine Iff.trans ?_ (Dict.forall_get?_of_some hget).symm
        exact forall_congr' fun _ => iff_of_false htouched hfrozen

theorem respected_call {uc : Unicode} {op : FabricOp} {w : World GraphService}
    (h : Known (rt.drawn w.env) w.self)
    (huuid : Set.InjOn rt.uuid4 (Set.Iio (w.env.draws + 7))) :
    Respected rt op (op.call rt uc) w := by
  cases op with
  | service op =>
    obtain ⟨k, hk, raised, s, hleads, heffect⟩ :=
      outcome_call rt uc h.keyed op
    have hdisjoint := Runtime.disjoint_drawn_fresh
      (huuid.mono (Set.Iio_subset_Iio (Nat.add_le_add_left hk w.env.draws)))
    exact ⟨k, hk, raised, s, hleads, fun _ hknown => hknown.effect heffect,
      heffect.keepsImmutable_iff h hdisjoint⟩
  | enrich objectId payloadUpdate audit => exact respected_enrich h.keyed objectId payloadUpdate audit
  | attachEvidence objectId evidence => exact respected_attachEvidence h.keyed objectId evidence

end Held

section Run
variable {rt : Runtime} {w : World GraphService} {op : FabricOp} {ops : List FabricOp}

/-- What holds while the calls are still to come. -/
structure Held (rt : Runtime) (w : World GraphService) (ops : List FabricOp) : Prop where
  known : Known (rt.drawn w.env) w.self
  uuid4 : Set.InjOn rt.uuid4 (Set.Iio (w.env.draws + 7 * ops.length))

theorem Held.respected (uc : Unicode) (h : Held rt w (op :: ops)) :
    Respected rt op (op.call rt uc) w := by
  apply respected_call h.known
  apply h.uuid4.mono
  apply Set.Iio_subset_Iio
  rw [List.length_cons]
  omega

theorem Held.step (uc : Unicode) (h : Held rt w (op :: ops)) :
    Held rt (fabricStep rt uc op w) ops := by
  obtain ⟨k, hk, raised, s, hleads, hknown, -⟩ := h.respected uc
  unfold fabricStep
  rw [hleads.self_after]
  constructor
  · rw [Runtime.drawn_tick]
    exact hknown _ h.known
  · apply h.uuid4.mono
    apply Set.Iio_subset_Iio
    rw [List.length_cons, Env.tick_draws]
    omega

theorem Held.immutable_iff (uc : Unicode) (h : Held rt w ops) :
    Conforms (fabricStep rt uc) (fun op w => KeepsImmutable w.self (fabricStep rt uc op w).self) w
        ops ↔ Conforms (fabricStep rt uc) (fun op w => op.Respects w.self) w ops := by
  apply conforms_congr (fabricStep rt uc) (I := Held rt) (fun _ _ _ hw => hw.step uc) _ h
  intro w op ops hw
  obtain ⟨k, -, raised, s, hleads, -, hiff⟩ := hw.respected uc
  unfold fabricStep
  rw [hleads.self_after]
  exact hiff

end Run

theorem held_new {rt : Runtime} (policy : GraphPolicyEngine) (checker : GraphConsistencyChecker)
    (listeners : List FabricAuditListener) {env : Env} {ops : List FabricOp}
    (huuid : Set.InjOn rt.uuid4 (Set.Iio (env.draws + 7 * ops.length))) :
    Held rt ⟨.new policy checker listeners, env⟩ ops := ⟨Known.new policy checker listeners _, huuid⟩

/-- Along a run of a new service every call keeps what is not mutable exactly when every call
respects it. -/
theorem fabricRun_immutable_iff {rt : Runtime} (uc : Unicode) (policy : GraphPolicyEngine)
    (checker : GraphConsistencyChecker) (listeners : List FabricAuditListener) (env : Env)
    {ops : List FabricOp} (huuid : Set.InjOn rt.uuid4 (Set.Iio (env.draws + 7 * ops.length))) :
    Conforms (fabricStep rt uc) (fun op w => KeepsImmutable w.self (fabricStep rt uc op w).self)
        ⟨.new policy checker listeners, env⟩ ops ↔
      Conforms (fabricStep rt uc) (fun op w => op.Respects w.self)
        ⟨.new policy checker listeners, env⟩ ops :=
  (held_new policy checker listeners huuid).immutable_iff uc

theorem fabricRun_immutable_iff_superseded :
    Conforms (fabricStep .reference .ascii)
        (fun op w => KeepsImmutable w.self (fabricStep .reference .ascii op w).self)
        ⟨.new ⟨none⟩ (fun _ _ => ⟨true, 0, 0⟩) [], .initial "t"⟩
        (supersededOrder.map .service) ↔
      Conforms (fabricStep .reference .ascii) (fun op w => op.Respects w.self)
        ⟨.new ⟨none⟩ (fun _ _ => ⟨true, 0, 0⟩) [], .initial "t"⟩
        (supersededOrder.map .service) :=
  fabricRun_immutable_iff .ascii ⟨none⟩ (fun _ _ => ⟨true, 0, 0⟩) [] (.initial "t")
    (Runtime.reference_uuid4.mono (Set.Iio_subset_Iio (by decide)))

theorem Effect.deprecated {fresh : Set String} {uc : Unicode} {s s' : GraphService} {raised : Bool}
    {obj : ControlObject} {actor : String}
    (heffect : Effect fresh uc s (.deprecateObject obj.id actor) raised s')
    (hstored : s.repo.objects.get? obj.id = some obj) (hactive : obj.state = .active) :
    ∃ obj', s'.repo.objects.get? obj.id = some obj' ∧ obj'.state = .deprecated := by
  cases heffect with
  | rejected hrejected =>
    have hvalid := hrejected obj hstored
    rw [hactive] at hvalid
    exact absurd (by decide) hvalid
  | changed hstored' hmoves hbecomes _ _ =>
    obtain ⟨hid, -, hstate⟩ := hmoves
    refine ⟨_, ?_, hstate⟩
    rw [hid, ← hbecomes.id]
    exact Dict.get?_set_self _ _ _
  | changedSilently hstored' hmoves hbecomes =>
    obtain ⟨hid, -, hstate⟩ := hmoves
    refine ⟨_, ?_, hstate⟩
    rw [hid, ← hbecomes.id]
    exact Dict.get?_set_self _ _ _

/-- Evidence may be attached to a deprecated object. -/
theorem fabricRun_attaches_to_deprecated :
    ¬ ∀ (rt : Runtime) (uc : Unicode) (policy : GraphPolicyEngine)
        (checker : GraphConsistencyChecker) (listeners : List FabricAuditListener) (env : Env)
        (ops : List FabricOp),
      Set.InjOn rt.uuid4 (Set.Iio (env.draws + 7 * ops.length)) →
        Conforms (fabricStep rt uc) (fun op w => KeepsImmutable w.self (fabricStep rt uc op w).self)
          ⟨.new policy checker listeners, env⟩ ops := by
  intro h
  have huuid : Set.InjOn Runtime.reference.uuid4 (Set.Iio (0 + 7 * 3)) :=
    Runtime.reference_uuid4.mono (Set.Iio_subset_Iio (by decide))
  obtain ⟨obj, events, -, -, -, -, -, hactive, -, hstep⟩ :=
    serviceStep_createObject _ (w := ⟨.new ⟨none⟩ (fun _ _ => ⟨true, 0, 0⟩) [], .initial "t"⟩)
      (ControlObjectCreate.workOrder_buildable .field) rfl "t" "ada" true
  let evidence : EvidenceRef :=
    { evidenceId := "e", evidenceType := "doc", sourceLabel := "test", sourceId := none,
      confidence := 1, metadata := [] }
  let ops : List FabricOp := [.service (.createObject "t" (.workOrder .field) "ada" true),
    .service (.deprecateObject obj.id "ada"), .attachEvidence obj.id evidence]
  have hnew : Held .reference ⟨.new ⟨none⟩ (fun _ _ => ⟨true, 0, 0⟩) [], .initial "t"⟩ ops :=
    held_new _ _ _ huuid
  obtain ⟨-, -, hop, -⟩ := (hnew.immutable_iff .ascii).mp
    (h .reference .ascii ⟨none⟩ (fun _ _ => ⟨true, 0, 0⟩) [] (.initial "t") ops huuid)
  have hcreated : fabricStep .reference .ascii
      (.service (.createObject "t" (.workOrder .field) "ada" true))
      ⟨.new ⟨none⟩ (fun _ _ => ⟨true, 0, 0⟩) [], .initial "t"⟩ = _ := hstep
  have hknown := (hnew.step .ascii).known
  rw [hcreated] at hop hknown
  obtain ⟨k, -, raised, s, hleads, heffect⟩ :=
    outcome_call _ .ascii hknown.keyed (.deprecateObject obj.id "ada")
  obtain ⟨obj', hstored, hdeprecated⟩ := heffect.deprecated (Dict.get?_set_self _ _ _) hactive
  have hdone : fabricStep .reference .ascii (.service (.deprecateObject obj.id "ada")) _ = _ :=
    hleads.self_after
  rw [hdone] at hop
  have himmutable : obj'.isMutable = false := by
    unfold isMutable
    rw [hdeprecated]
    decide
  have hfrozen := hop obj' hstored himmutable
  rw [hdeprecated] at hfrozen
  cases hfrozen

end ControlFabric.Fabric
