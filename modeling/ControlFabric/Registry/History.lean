import ControlFabric.Registry.Steps

/-! The version history is linear, append-only and current; and which runs keep the lifecycle states
that it records on the transition table. -/
namespace ControlFabric
open Lib Method ObjectRegistry

/-- The record was taken of this version of the object. -/
structure VersionRecord.Of (record : VersionRecord) (obj : ControlObject) : Prop where
  objectId : record.objectId = obj.objectId
  version : record.version = obj.version
  state : record.state = obj.state.value
  objectHash : record.objectHash = obj.objectHash
  snapshot : record.snapshot = obj.modelDump

structure ObjectRegistry.Linear (r : ObjectRegistry) : Prop where
  keyed : r.Keyed
  recorded_iff : ∀ id, r.getVersionHistory id ≠ [] ↔ id ∈ r.objects
  current : ∀ id obj, r.objects.get? id = some obj →
    ∃ record, (r.getVersionHistory id).getLast? = some record ∧ record.Of obj
  consecutive : ∀ id, (r.getVersionHistory id).IsChain fun a b => b.version = a.version + 1

theorem RegistryOp.Writes.successor {op : RegistryOp} {r : ObjectRegistry} {obj : ControlObject}
    (h : op.Writes r obj) (hkeyed : r.Keyed) {old : ControlObject}
    (hold : r.objects.get? obj.objectId = some old) : obj.version = old.version + 1 := by
  cases op with
  | register o registeredBy reason =>
    obtain ⟨hnew, he⟩ := h
    rw [he] at hold
    exact absurd (Dict.mem_of_get? hold) hnew
  | update o updatedBy reason =>
    obtain ⟨⟨stored, hstored, hversion⟩, he⟩ := h
    rw [he, hstored, Option.some.injEq] at hold
    rw [he, hversion, hold]
  | transitionState id newState transitionedBy reason releaseGate =>
    obtain ⟨current, updatedAt, hcurrent, -, -, he⟩ := h
    have hid : obj.objectId = id := by rw [he]; exact hkeyed id current hcurrent
    rw [hid, hcurrent, Option.some.injEq] at hold
    rw [he, ← hold]
    rfl

namespace ObjectRegistry
variable {rt : Runtime} {r : ObjectRegistry} {obj : ControlObject} {changedBy reason : String}
  {n : ℕ}

theorem getVersionHistory_write (id : String) :
    (r.write rt n obj changedBy reason).getVersionHistory id =
      if id = obj.objectId then
        r.getVersionHistory id ++ [VersionRecord.new rt n obj changedBy reason]
      else r.getVersionHistory id := by
  simp only [getVersionHistory, write_versionHistory, Dict.getD_set]
  split
  next h => rw [h]
  next => rfl

/-- A relation between consecutive records survives a write exactly when the new record continues
it. -/
theorem isChain_write_iff {R : VersionRecord → VersionRecord → Prop}
    (hchain : ∀ id, (r.getVersionHistory id).IsChain R) :
    (∀ id, ((r.write rt n obj changedBy reason).getVersionHistory id).IsChain R) ↔
      ∀ last, (r.getVersionHistory obj.objectId).getLast? = some last →
        R last (VersionRecord.new rt n obj changedBy reason) := by
  constructor
  · intro h last hlast
    have hid := h obj.objectId
    rw [getVersionHistory_write, if_pos rfl, List.isChain_append] at hid
    exact hid.2.2 last hlast _ rfl
  · intro hlast id
    rw [getVersionHistory_write]
    split
    next h =>
      refine (hchain id).append (List.isChain_singleton _) ?_
      intro last hl next hn
      rw [List.head?_cons, Option.mem_some] at hn
      rw [← hn]
      exact hlast last (h ▸ hl)
    next => exact hchain id

theorem Linear.write (h : r.Linear)
    (hnext : ∀ old, r.objects.get? obj.objectId = some old → obj.version = old.version + 1) :
    (r.write rt n obj changedBy reason).Linear where
  keyed := h.keyed.write rt n obj changedBy reason
  recorded_iff id := by
    rw [getVersionHistory_write, write_objects, Dict.mem_set]
    split
    next hid => simp [hid]
    next hid => simp [hid, h.recorded_iff id]
  current id o hget := by
    rw [write_objects, Dict.get?_set] at hget
    rw [getVersionHistory_write]
    split
    next hid =>
      rw [if_pos hid, Option.some.injEq] at hget
      rw [← hget]
      exact ⟨_, List.getLast?_concat, ⟨rfl, rfl, rfl, rfl, rfl⟩⟩
    next hid =>
      rw [if_neg hid] at hget
      exact h.current id o hget
  consecutive := by
    apply (isChain_write_iff h.consecutive).mpr
    intro last hlast
    have hstored : obj.objectId ∈ r.objects := (h.recorded_iff _).mp fun hnil => by
      simp [hnil] at hlast
    obtain ⟨old, hold⟩ := Dict.mem_iff_get?.mp hstored
    obtain ⟨record, hrecord, hof⟩ := h.current _ old hold
    have hsame : record = last := Option.some.inj (hrecord.symm.trans hlast)
    calc (VersionRecord.new rt n obj changedBy reason).version = obj.version := rfl
      _ = old.version + 1 := hnext old hold
      _ = last.version + 1 := by rw [← hof.version, hsame]

theorem Linear.new (schemas : SchemaRegistry) : (ObjectRegistry.new schemas).Linear where
  keyed id obj h := by simp [ObjectRegistry.new] at h
  recorded_iff id := by simp [ObjectRegistry.new, getVersionHistory]
  current id obj h := by simp [ObjectRegistry.new] at h
  consecutive id := by simp [ObjectRegistry.new, getVersionHistory]

end ObjectRegistry

theorem registryStep_linear (rt : Runtime) (op : RegistryOp) {w : World ObjectRegistry}
    (h : w.self.Linear) : (registryStep rt op w).self.Linear := by
  refine registryStep_invariant (fun r events hr => ?_) (fun r hr => hr.keyed)
    (fun obj n changedBy reason hw => ?_) h
  · exact ⟨hr.keyed, hr.recorded_iff, hr.current, hr.consecutive⟩
  · exact h.write fun old hold => hw.successor h.keyed hold

theorem registryRun_linear_of (rt : Runtime) {w : World ObjectRegistry} (h : w.self.Linear)
    (ops : List RegistryOp) : (registryRun rt w ops).self.Linear :=
  run_invariant (registryStep rt) (I := fun w => w.self.Linear)
    (fun op _ _ hw => registryStep_linear rt op hw) h

theorem registryStep_prefix (rt : Runtime) (op : RegistryOp) {w : World ObjectRegistry}
    (h : w.self.Keyed) (id : String) :
    w.self.getVersionHistory id <+: (registryStep rt op w).self.getVersionHistory id := by
  rcases registryStep_cases rt op h with ⟨obj, n, changedBy, detail, events, -, hself⟩ | ⟨-, hself⟩
  · have hwrite : (registryStep rt op w).self.getVersionHistory id =
        (w.self.write rt n obj changedBy detail).getVersionHistory id := by rw [hself]; rfl
    rw [hwrite, getVersionHistory_write]
    split
    · exact List.prefix_append _ _
    · exact List.prefix_refl _
  · rw [hself]

/-- Over any run from the empty registry: histories are linear and current, earlier histories are
prefixes of later ones, and a call that raises changes nothing. -/
theorem registryRun_history (rt : Runtime) (schemas : SchemaRegistry) (env : Env)
    (ops : List RegistryOp) :
    let start : World ObjectRegistry := ⟨.new schemas, env⟩
    let final := registryRun rt start ops
    final.self.Linear ∧
      (∀ pre, pre <+: ops → ∀ id,
        (registryRun rt start pre).self.getVersionHistory id <+: final.self.getVersionHistory id) ∧
      ∀ pre op post, ops = pre ++ op :: post → ∀ e w,
        (op.call rt).run (registryRun rt start pre) = .error e w →
          w.self = (registryRun rt start pre).self := by
  intro start final
  have hlinear (l : List RegistryOp) : (registryRun rt start l).self.Linear :=
    registryRun_linear_of rt (Linear.new schemas) l
  refine ⟨hlinear ops, ?_, ?_⟩
  · rintro pre ⟨post, hpost⟩ id
    have hfinal : final = registryRun rt (registryRun rt start pre) post := by
      rw [registryRun, registryRun, ← run_append, hpost]
      rfl
    rw [hfinal]
    exact run_rel (registryStep rt)
      (R := fun a b => a.self.Linear → b.self.Linear ∧
        a.self.getVersionHistory id <+: b.self.getVersionHistory id)
      (fun a ha => ⟨ha, List.prefix_refl _⟩)
      (fun a b c hab hbc ha => ⟨(hbc (hab ha).1).1, (hab ha).2.trans (hbc (hab ha).1).2⟩)
      (fun op a ha => ⟨registryStep_linear rt op ha, registryStep_prefix rt op ha.keyed id⟩)
      (registryRun rt start pre) post (hlinear pre) |>.2
  · intro pre op post _ e w herror
    rcases op.call_cases rt (hlinear pre).keyed (registryRun rt start pre).env with
      ⟨obj, n, changedBy, detail, events, env', -, -, hrun⟩ | ⟨-, e', env', -, hrun⟩
    · exact absurd (herror.symm.trans hrun) (by simp)
    · have hw := herror.symm.trans hrun
      rw [EStateM.Result.error.injEq] at hw
      rw [hw.2]

/-! ### The recorded states -/

theorem ControlObjectState.value_injective : Function.Injective ControlObjectState.value := by
  intro s t
  cases s <;> cases t <;> decide

/-- The recorded states are equal or an edge of the transition table. -/
def VersionRecord.Follows (a b : VersionRecord) : Prop :=
  a.state = b.state ∨ ∃ s t : ControlObjectState,
    a.state = s.value ∧ b.state = t.value ∧ t ∈ s.validStateTransitions

structure ObjectRegistry.LifecycleSound (r : ObjectRegistry) : Prop where
  consecutive : ∀ id, (r.getVersionHistory id).IsChain VersionRecord.Follows
  retired : ∀ id pre a post, r.getVersionHistory id = pre ++ a :: post →
    a.state = ControlObjectState.retired.value →
      ∀ b ∈ post, b.state = ControlObjectState.retired.value

/-- An accepted update writes the stored state or a valid target of it. -/
def RegistryOp.RespectsLifecycle (r : ObjectRegistry) : RegistryOp → Prop
  | register _ _ _ => True
  | update obj _ _ => ∀ old, r.objects.get? obj.objectId = some old → obj.version = old.version + 1 →
    obj.state = old.state ∨ obj.state ∈ old.state.validStateTransitions
  | transitionState .. => True

theorem VersionRecord.follows_iff {a b : VersionRecord} {s t : ControlObjectState}
    (ha : a.state = s.value) (hb : b.state = t.value) :
    a.Follows b ↔ t = s ∨ t ∈ s.validStateTransitions := by
  rw [Follows, ha, hb]
  constructor
  · rintro (he | ⟨s', t', hs, ht, hvalid⟩)
    · exact Or.inl (ControlObjectState.value_injective he).symm
    · rw [ControlObjectState.value_injective hs, ControlObjectState.value_injective ht]
      exact Or.inr hvalid
  · rintro (he | hvalid)
    · exact Or.inl (by rw [he])
    · exact Or.inr ⟨s, t, rfl, rfl, hvalid⟩

/-- No edge leaves the retired state, so nothing follows a retired record but retired records. -/
theorem VersionRecord.Follows.retired {a b : VersionRecord} (h : a.Follows b)
    (ha : a.state = ControlObjectState.retired.value) :
    b.state = ControlObjectState.retired.value := by
  rcases h with he | ⟨s, t, hs, -, hvalid⟩
  · rw [← he, ha]
  · have hretired : s = .retired := ControlObjectState.value_injective (hs.symm.trans ha)
    rw [hretired] at hvalid
    exact absurd hvalid List.not_mem_nil

private theorem retired_of_isChain {a : VersionRecord} {post : List VersionRecord}
    (h : (a :: post).IsChain VersionRecord.Follows)
    (ha : a.state = ControlObjectState.retired.value) :
    ∀ b ∈ post, b.state = ControlObjectState.retired.value := by
  induction post generalizing a with
  | nil => simp
  | cons c post ih =>
    obtain ⟨hac, hpost⟩ := List.isChain_cons_cons.mp h
    have hc := hac.retired ha
    intro b hb
    rcases List.mem_cons.mp hb with hbc | hb
    · rw [hbc, hc]
    · exact ih hpost hc b hb

namespace ObjectRegistry
variable {rt : Runtime} {r : ObjectRegistry}

theorem lifecycleSound_iff :
    r.LifecycleSound ↔ ∀ id, (r.getVersionHistory id).IsChain VersionRecord.Follows := by
  refine ⟨fun h => h.consecutive, fun h => ⟨h, fun id pre a post hsplit ha => ?_⟩⟩
  have hid := h id
  rw [hsplit] at hid
  exact retired_of_isChain hid.right_of_append ha

/-- Writing a version keeps the lifecycle sound exactly when its state follows the stored one. -/
theorem lifecycleSound_write_iff {obj : ControlObject} {changedBy reason : String} {n : ℕ}
    (hlinear : r.Linear) (h : r.LifecycleSound) :
    (r.write rt n obj changedBy reason).LifecycleSound ↔
      ∀ old, r.objects.get? obj.objectId = some old →
        obj.state = old.state ∨ obj.state ∈ old.state.validStateTransitions := by
  rw [lifecycleSound_iff, isChain_write_iff h.consecutive]
  constructor
  · intro hlast old hold
    obtain ⟨record, hrecord, hof⟩ := hlinear.current _ old hold
    exact (VersionRecord.follows_iff hof.state rfl).mp (hlast record hrecord)
  · intro hstored last hlast
    have hmem : obj.objectId ∈ r.objects := (hlinear.recorded_iff _).mp fun hnil => by
      simp [hnil] at hlast
    obtain ⟨old, hold⟩ := Dict.mem_iff_get?.mp hmem
    obtain ⟨record, hrecord, hof⟩ := hlinear.current _ old hold
    rw [Option.some.inj (hrecord.symm.trans hlast)] at hof
    exact (VersionRecord.follows_iff hof.state rfl).mpr (hstored old hold)

end ObjectRegistry

theorem registryStep_lifecycleSound_iff {rt : Runtime} {op : RegistryOp}
    {w : World ObjectRegistry} (hlinear : w.self.Linear) (h : w.self.LifecycleSound) :
    (registryStep rt op w).self.LifecycleSound ↔ op.RespectsLifecycle w.self := by
  have hevents (r : ObjectRegistry) (events : List RegistryEvent) :
      ({ r with events := events } : ObjectRegistry).LifecycleSound ↔ r.LifecycleSound := by
    rw [lifecycleSound_iff, lifecycleSound_iff]
    rfl
  rcases registryStep_cases rt op hlinear.keyed with
    ⟨obj, n, changedBy, detail, events, hwrites, hself⟩ | ⟨hno, hself⟩
  · rw [hself, hevents, lifecycleSound_write_iff hlinear h]
    cases op with
    | register o registeredBy reason =>
      obtain ⟨hnew, he⟩ := hwrites
      rw [he]
      exact iff_of_true (fun old hold => absurd (Dict.mem_of_get? hold) hnew) trivial
    | update o updatedBy reason =>
      obtain ⟨⟨stored, hstored, hversion⟩, he⟩ := hwrites
      simp [he, RegistryOp.RespectsLifecycle, hstored, hversion]
    | transitionState id newState transitionedBy reason releaseGate =>
      obtain ⟨current, updatedAt, hcurrent, -, hvalid, he⟩ := hwrites
      refine iff_of_true (fun old hold => ?_) trivial
      have hid : obj.objectId = id := by rw [he]; exact hlinear.keyed id current hcurrent
      rw [hid, hcurrent, Option.some.injEq] at hold
      rw [he, ← hold]
      exact Or.inr hvalid
  · rw [hself]
    refine iff_of_true h ?_
    cases op with
    | register _ _ _ => trivial
    | update o _ _ =>
      exact fun old hold hversion => absurd ⟨⟨old, hold, hversion⟩, rfl⟩ (hno o)
    | transitionState _ _ _ _ _ => trivial

theorem ObjectRegistry.LifecycleSound.new (schemas : SchemaRegistry) :
    (ObjectRegistry.new schemas).LifecycleSound :=
  lifecycleSound_iff.mpr fun id => by simp [ObjectRegistry.new, getVersionHistory]

/-- A run keeps every recorded lifecycle on the table exactly when its accepted updates do. -/
theorem registryRun_lifecycleSound_iff (rt : Runtime) (schemas : SchemaRegistry) (env : Env)
    (ops : List RegistryOp) :
    Always (registryStep rt) (fun w => w.self.LifecycleSound) ⟨.new schemas, env⟩ ops ↔
      Conforms (registryStep rt) (fun op w => op.RespectsLifecycle w.self)
        ⟨.new schemas, env⟩ ops :=
  always_iff_conforms (registryStep rt) (I := fun w => w.self.Linear)
    (fun op _ _ hlinear _ => registryStep_linear rt op hlinear)
    (fun _ _ _ hlinear h => registryStep_lifecycleSound_iff hlinear h)
    (Linear.new schemas) (LifecycleSound.new schemas)

/-- An update can take a draft straight to the retired state. -/
theorem registryRun_update_skips_table :
    ¬ ∀ (rt : Runtime) (schemas : SchemaRegistry) (env : Env) (ops : List RegistryOp),
      Always (registryStep rt) (fun w => w.self.LifecycleSound) ⟨.new schemas, env⟩ ops := by
  intro h
  let policy := draftPolicy .reference
  let retired : ControlObject :=
    ({ policy with version := 2, state := .retired } : ControlObject).computeObjectHash .reference
  let start : World ObjectRegistry := ⟨.new Dict.empty, .initial "default"⟩
  let registered := registryStep .reference (.register policy "ada" "initial") start
  obtain ⟨-, hsound, hfinal⟩ := h .reference Dict.empty (.initial "default")
    [.register policy "ada" "initial", .update retired "ada" "cleanup"]
  have hlinear : registered.self.Linear := registryStep_linear _ _ (Linear.new Dict.empty)
  have hrespects := (registryStep_lifecycleSound_iff hlinear hsound).mp hfinal
  have hold : registered.self.objects.get? retired.objectId = some policy :=
    registryStep_register_get? (Dict.not_mem_empty _)
  rcases hrespects policy hold rfl with he | hvalid
  · exact absurd he (by decide)
  · exact absurd hvalid (by decide)

end ControlFabric
