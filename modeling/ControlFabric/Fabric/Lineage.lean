import ControlFabric.Fabric.Reachable
import ControlFabric.Lib.Acyclic

/-! The lineage of an object, and when supersession has no cycles. -/
namespace ControlFabric.Fabric
open Lib Py Method ControlObject

structure ControlObjectLineage where
  objectId : String
  derivedFrom : List String
  supersedes : List String
  supersededBy : Option String
  derivationChain : List String
  depth : ℕ

/-- The local variables of the loop in `get_lineage`. -/
structure LineageWalk where
  depth : ℕ
  current : String
  derivationChain : List String

namespace InMemoryGraphRepository
variable (repo : InMemoryGraphRepository)

/-- The links by which an object supersedes others. -/
def supersedesLinks (objectId : String) : List ControlLink :=
  repo.getLinksForObject objectId "outgoing" (some .supercedes)

/-- The body of the loop; `none` when it breaks. The depth that breaks it behind a round is compared
at the beginning of the next one. -/
def lineageStep (s : LineageWalk) : Option LineageWalk :=
  if 50 < s.depth then none
  else
    match repo.supersedesLinks s.current with
    | [] => none
    | link :: _ => some
      { depth := s.depth + 1
        current := link.targetId
        derivationChain := s.derivationChain ++ [link.targetId] }

end InMemoryGraphRepository

/-- `get_lineage`, with its `while` loop run for at most `fuel` rounds. -/
def GraphService.getLineage (fuel : ℕ) (s : GraphService) (objectId : String) :
    Option (Option ControlObjectLineage) :=
  match s.repo.objects.get? objectId with
  | none => some none
  | some obj =>
    (loop s.repo.lineageStep fuel ⟨0, objectId, []⟩).map fun walk => some
      { objectId := objectId
        derivedFrom := obj.derivedFrom
        supersedes := (s.repo.supersedesLinks objectId).map ControlLink.targetId
        supersededBy := obj.supersededBy
        derivationChain := walk.derivationChain
        depth := walk.depth }

namespace InMemoryGraphRepository
variable {repo : InMemoryGraphRepository}

/-- A stored link says that the first object supersedes the second. -/
def Supersedes (repo : InMemoryGraphRepository) (id id' : String) : Prop :=
  ∃ linkId link, repo.links.get? linkId = some link ∧ link.linkType = .supercedes ∧
    link.sourceId = id ∧ link.targetId = id'

theorem mem_supersedesLinks {objectId : String} {link : ControlLink} :
    link ∈ repo.supersedesLinks objectId ↔ link ∈ repo.links.values ∧ link.sourceId = objectId ∧
      link.linkType = .supercedes := by
  unfold supersedesLinks getLinksForObject
  simp [List.mem_filter]

theorem supersedes_iff {id id' : String} :
    repo.Supersedes id id' ↔ ∃ link ∈ repo.supersedesLinks id, link.targetId = id' := by
  simp only [mem_supersedesLinks, Dict.mem_values]
  constructor
  · rintro ⟨linkId, link, hget, htype, hsource, htarget⟩
    exact ⟨link, ⟨⟨linkId, hget⟩, hsource, htype⟩, htarget⟩
  · rintro ⟨link, ⟨⟨linkId, hget⟩, hsource, htype⟩, htarget⟩
    exact ⟨linkId, link, hget, htype, hsource, htarget⟩

/-- What the loop of `get_lineage` keeps: the walk follows links, and ends at the current object. -/
structure Walks (repo : InMemoryGraphRepository) (objectId : String) (s : LineageWalk) : Prop where
  depth : s.depth = s.derivationChain.length
  bound : s.depth ≤ 51
  linked : (objectId :: s.derivationChain).IsChain repo.Supersedes
  current : (objectId :: s.derivationChain).getLast? = some s.current

theorem lineageStep_walks {objectId : String} {s s' : LineageWalk} (hs : repo.Walks objectId s)
    (hstep : repo.lineageStep s = some s') :
    repo.Walks objectId s' ∧ 51 - s'.depth < 51 - s.depth := by
  unfold lineageStep at hstep
  split at hstep
  next => cases hstep
  next hdepth =>
    split at hstep
    next => cases hstep
    next link rest hlinks =>
      obtain rfl := Option.some.inj hstep
      have hedge : repo.Supersedes s.current link.targetId := by
        rw [supersedes_iff, hlinks]
        exact ⟨link, List.mem_cons_self, rfl⟩
      have hless : 51 - (s.depth + 1) < 51 - s.depth := by omega
      refine ⟨?_, hless⟩
      constructor
      · rw [List.length_append, List.length_singleton, hs.depth]
      · dsimp only
        omega
      · rw [← List.cons_append, List.isChain_append]
        refine ⟨hs.linked, List.isChain_singleton _, ?_⟩
        rw [hs.current]
        rintro _ ⟨⟩ _ ⟨⟩
        exact hedge
      · rw [← List.cons_append, List.getLast?_concat]

end InMemoryGraphRepository

/-- The chain follows links of supersession. It is cut off behind the 51st object, and ends
otherwise at one that supersedes nothing. -/
structure ControlObjectLineage.Sound (lineage : ControlObjectLineage)
    (repo : InMemoryGraphRepository) : Prop where
  depth : lineage.depth = lineage.derivationChain.length
  bound : lineage.derivationChain.length ≤ 51
  linked : (lineage.objectId :: lineage.derivationChain).IsChain repo.Supersedes
  last : lineage.derivationChain.length ≤ 50 →
    ∀ id ∈ (lineage.objectId :: lineage.derivationChain).getLast?, ∀ id', ¬ repo.Supersedes id id'

/-- The lineage of a stored object is found within 52 rounds, and is sound. -/
theorem GraphService.getLineage_sound {s : GraphService} {objectId : String} {obj : ControlObject}
    (hobj : s.repo.objects.get? objectId = some obj) {fuel : ℕ} (hfuel : 51 < fuel) :
    ∃ lineage, s.getLineage fuel objectId = some (some lineage) ∧ lineage.objectId = objectId ∧
      lineage.derivedFrom = obj.derivedFrom ∧ lineage.supersededBy = obj.supersededBy ∧
      (∀ id, id ∈ lineage.supersedes ↔ s.repo.Supersedes objectId id) ∧ lineage.Sound s.repo := by
  have hstart : s.repo.Walks objectId ⟨0, objectId, []⟩ :=
    ⟨rfl, Nat.zero_le 51, List.isChain_singleton _, rfl⟩
  obtain ⟨walk, hloop, hwalk, hend⟩ := loop_terminates (I := s.repo.Walks objectId)
    (fun walk => 51 - walk.depth)
    (fun _ _ hs hstep => InMemoryGraphRepository.lineageStep_walks hs hstep) hstart hfuel
  unfold GraphService.getLineage
  rw [hobj]
  dsimp only
  rw [hloop]
  refine ⟨_, rfl, rfl, rfl, rfl, ?_, hwalk.depth, ?_, hwalk.linked, ?_⟩
  · intro id
    rw [InMemoryGraphRepository.supersedes_iff, List.mem_map]
  · rw [← hwalk.depth]
    exact hwalk.bound
  · intro hshort id hid id' hedge
    rw [← hwalk.depth] at hshort
    rw [hwalk.current] at hid
    obtain rfl := Option.some.inj hid
    obtain ⟨link, hlink, -⟩ := InMemoryGraphRepository.supersedes_iff.mp hedge
    unfold InMemoryGraphRepository.lineageStep at hend
    rw [if_neg (by omega)] at hend
    split at hend
    next hnone =>
      rw [hnone] at hlink
      cases hlink
    next => cases hend

namespace InMemoryGraphRepository
variable {repo repo' : InMemoryGraphRepository}

/-- A new link of supersession is one more edge. -/
theorem supersedes_link {link : ControlLink} (hnew : link.id ∉ repo.links)
    (hlinks : repo'.links = repo.links.set link.id link) (htype : link.linkType = .supercedes) :
    repo'.Supersedes = addEdge repo.Supersedes link.sourceId link.targetId := by
  funext id id'
  apply propext
  constructor
  · rintro ⟨linkId, l, hget, hl, hsource, htarget⟩
    rw [hlinks, Dict.get?_set] at hget
    split at hget
    next =>
      obtain rfl := Option.some.inj hget
      exact Or.inr ⟨hsource.symm, htarget.symm⟩
    next => exact Or.inl ⟨linkId, l, hget, hl, hsource, htarget⟩
  · rintro (⟨linkId, l, hget, hl, hsource, htarget⟩ | ⟨rfl, rfl⟩)
    · have hne : linkId ≠ link.id := by
        rintro rfl
        exact hnew (Dict.mem_of_get? hget)
      refine ⟨linkId, l, ?_, hl, hsource, htarget⟩
      rw [hlinks, Dict.get?_set_of_ne hne, hget]
    · refine ⟨link.id, link, ?_, htype, rfl, rfl⟩
      rw [hlinks, Dict.get?_set_self]

/-- A link of another type changes nothing. -/
theorem supersedes_link_of_ne {link : ControlLink} (hnew : link.id ∉ repo.links)
    (hlinks : repo'.links = repo.links.set link.id link) (htype : link.linkType ≠ .supercedes) :
    repo'.Supersedes = repo.Supersedes := by
  funext id id'
  apply propext
  constructor
  · rintro ⟨linkId, l, hget, hl, hsource, htarget⟩
    rw [hlinks, Dict.get?_set] at hget
    split at hget
    next =>
      obtain rfl := Option.some.inj hget
      exact absurd hl htype
    next => exact ⟨linkId, l, hget, hl, hsource, htarget⟩
  · rintro ⟨linkId, l, hget, hl, hsource, htarget⟩
    have hne : linkId ≠ link.id := by
      rintro rfl
      exact hnew (Dict.mem_of_get? hget)
    refine ⟨linkId, l, ?_, hl, hsource, htarget⟩
    rw [hlinks, Dict.get?_set_of_ne hne, hget]

end InMemoryGraphRepository

/-- A link of supersession that is created leads to nothing that supersedes its source already. -/
def GraphServiceOp.ClosesNoCycle (s : GraphService) : GraphServiceOp → Prop
  | createLink _ create => create.linkType = .supercedes →
      ∀ source ∈ s.repo.objects.get? create.sourceId,
        ∀ target ∈ s.repo.objects.get? create.targetId,
          s.policy.validateLink create source target = [] →
            ¬ Relation.ReflTransGen s.repo.Supersedes create.targetId create.sourceId
  | _ => True

section Effects
variable {ids fresh : Set String} {uc : Unicode} {s s' : GraphService} {op : GraphServiceOp}
  {raised : Bool}

/-- Nothing supersedes an object that is still to come, and it supersedes nothing. -/
theorem Known.no_supersession_fresh (h : Known ids s) (hdisjoint : Disjoint ids fresh) {id : String}
    (hid : id ∈ fresh) (id' : String) :
    ¬ s.repo.Supersedes id' id ∧ ¬ s.repo.Supersedes id id' := by
  constructor
  · rintro ⟨linkId, link, hlink, -, -, htarget⟩
    exact h.ne_fresh hdisjoint (h.ends linkId link hlink).2 hid htarget
  · rintro ⟨linkId, link, hlink, -, hsource, -⟩
    exact h.ne_fresh hdisjoint (h.ends linkId link hlink).1 hid hsource

/-- Supersession stays without cycles exactly when no created link closes one. -/
theorem Effect.acyclic_iff (heffect : Effect fresh uc s op raised s') (h : Known ids s)
    (hdisjoint : Disjoint ids fresh) (hacyclic : Acyclic s.repo.Supersedes) :
    Acyclic s'.repo.Supersedes ↔ op.ClosesNoCycle s := by
  cases heffect with
  | @rejected op _ hrejected =>
    apply iff_of_true hacyclic
    cases op with
    | createLink _ _ =>
      intro _ source hsource target htarget haccepted
      exact absurd haccepted (hrejected source hsource target htarget)
    | _ => trivial
  | checked _ _ => exact iff_of_true hacyclic trivial
  | registered => exact iff_of_true hacyclic trivial
  | created _ _ => exact iff_of_true hacyclic trivial
  | unborn _ _ => exact iff_of_true hacyclic trivial
  | @changed op _ _ _ _ hmoves _ _ _ =>
    apply iff_of_true hacyclic
    cases op with
    | createLink _ _ => exact hmoves.elim
    | _ => trivial
  | @changedSilently op _ _ _ hmoves _ =>
    apply iff_of_true hacyclic
    cases op with
    | createLink _ _ => exact hmoves.elim
    | _ => trivial
  | referred _ _ _ _ _ => exact iff_of_true hacyclic trivial
  | interrupted _ _ _ _ _ _ _ => exact iff_of_true hacyclic trivial
  | superseded _ hstored _ _ hsuperseded _ =>
    apply iff_of_true _ trivial
    have hnew := fun hmem => h.link_ne_fresh hdisjoint hmem hsuperseded.link_id rfl
    rw [InMemoryGraphRepository.supersedes_link hnew rfl hsuperseded.linkType, hsuperseded.sourceId,
      hsuperseded.targetId]
    apply acyclic_addEdge_of_source hacyclic
    · exact h.ne_fresh hdisjoint (Dict.mem_of_get? hstored) hsuperseded.id
    · exact fun id => (h.no_supersession_fresh hdisjoint hsuperseded.id id).1
  | @linked tenantId create source target link event hsource htarget haccepted hlinked =>
    have hnew := fun hmem => h.link_ne_fresh hdisjoint hmem hlinked.id rfl
    have hcloses : GraphServiceOp.ClosesNoCycle s (.createLink tenantId create) ↔
        (create.linkType = .supercedes →
          ¬ Relation.ReflTransGen s.repo.Supersedes create.targetId create.sourceId) := by
      apply forall_congr'
      intro _
      refine Iff.trans (Dict.forall_get?_of_some hsource) ?_
      refine Iff.trans (Dict.forall_get?_of_some htarget) ?_
      exact forall_prop_of_true haccepted
    rw [hcloses, ← hlinked.linkType, ← hlinked.sourceId, ← hlinked.targetId]
    by_cases htype : link.linkType = .supercedes
    · rw [InMemoryGraphRepository.supersedes_link hnew rfl htype, acyclic_addEdge_iff hacyclic,
        forall_prop_of_true htype]
    · rw [InMemoryGraphRepository.supersedes_link_of_ne hnew rfl htype]
      exact iff_of_true hacyclic fun heq => absurd heq htype

end Effects

theorem acyclic_new (policy : GraphPolicyEngine) (checker : GraphConsistencyChecker)
    (listeners : List FabricAuditListener) :
    Acyclic (GraphService.new policy checker listeners).repo.Supersedes := by
  intro id hcycle
  obtain ⟨_, ⟨linkId, link, hlink, -⟩, -⟩ := Relation.TransGen.head'_iff.mp hcycle
  exact GraphService.new_links policy checker listeners linkId link hlink

theorem Undrawn.acyclic_iff {rt : Runtime} (uc : Unicode) {ops : List GraphServiceOp}
    {w : World GraphService} (hw : Undrawn rt w ops) (hacyclic : Acyclic w.self.repo.Supersedes) :
    Always (serviceStep rt uc) (fun w => Acyclic w.self.repo.Supersedes) w ops ↔
      Conforms (serviceStep rt uc) (fun op w => op.ClosesNoCycle w.self) w ops :=
  always_iff_of_effect
    (fun _ _ _ _ _ _ h hdisjoint heffect hacyclic => heffect.acyclic_iff h hdisjoint hacyclic)
    hw hacyclic

/-- The lineage of every object is found and sound, and repeats nothing unless there is a cycle. -/
def LineagesSound (s : GraphService) : Prop :=
  ∀ objectId obj, s.repo.objects.get? objectId = some obj → ∀ fuel, 51 < fuel →
    ∃ lineage, s.getLineage fuel objectId = some (some lineage) ∧ lineage.objectId = objectId ∧
      lineage.Sound s.repo ∧
      (Acyclic s.repo.Supersedes → (objectId :: lineage.derivationChain).Nodup)

theorem lineagesSound (s : GraphService) : LineagesSound s := by
  intro objectId obj hobj fuel hfuel
  obtain ⟨lineage, hlineage, rfl, -, -, -, hsound⟩ := GraphService.getLineage_sound hobj hfuel
  exact ⟨lineage, hlineage, rfl, hsound, fun hacyclic => nodup_of_isChain hacyclic hsound.linked⟩

/-- In every state that a run of a new service goes through supersession has no cycle exactly when
no link that is created closes one, and every lineage is sound. -/
theorem serviceRun_supersession_acyclic_iff {rt : Runtime} (uc : Unicode)
    (policy : GraphPolicyEngine) (checker : GraphConsistencyChecker)
    (listeners : List FabricAuditListener) (env : Env) {ops : List GraphServiceOp}
    (huuid : Set.InjOn rt.uuid4 (Set.Iio (env.draws + 7 * ops.length))) :
    (Always (serviceStep rt uc) (fun w => Acyclic w.self.repo.Supersedes)
        ⟨.new policy checker listeners, env⟩ ops ↔
      Conforms (serviceStep rt uc) (fun op w => op.ClosesNoCycle w.self)
        ⟨.new policy checker listeners, env⟩ ops) ∧
    Always (serviceStep rt uc) (fun w => LineagesSound w.self)
      ⟨.new policy checker listeners, env⟩ ops :=
  ⟨(undrawn_new policy checker listeners huuid).acyclic_iff uc (acyclic_new _ _ _),
    (always_iff_prefixes _).mpr fun _ _ => lineagesSound _⟩

theorem serviceRun_supersession_acyclic_iff_superseded :
    (Always (serviceStep .reference .ascii) (fun w => Acyclic w.self.repo.Supersedes)
        ⟨.new ⟨none⟩ (fun _ _ => ⟨true, 0, 0⟩) [], .initial "t"⟩
        supersededOrder ↔
      Conforms (serviceStep .reference .ascii) (fun op w => op.ClosesNoCycle w.self)
        ⟨.new ⟨none⟩ (fun _ _ => ⟨true, 0, 0⟩) [], .initial "t"⟩
        supersededOrder) ∧
    Always (serviceStep .reference .ascii) (fun w => LineagesSound w.self)
      ⟨.new ⟨none⟩ (fun _ _ => ⟨true, 0, 0⟩) [], .initial "t"⟩
      supersededOrder :=
  serviceRun_supersession_acyclic_iff .ascii ⟨none⟩ (fun _ _ => ⟨true, 0, 0⟩) [] (.initial "t")
    (Runtime.reference_uuid4.mono (Set.Iio_subset_Iio (by decide)))

section Cut
variable {ids fresh : Set String} {uc : Unicode} {s s' : GraphService} {op : GraphServiceOp}
  {raised : Bool}

/-- What an accepted link of supersession leaves behind. -/
theorem Effect.supersedes_linked {tenantId : String} {create : ControlLinkCreate}
    {source target : ControlObject}
    (heffect : Effect fresh uc s (.createLink tenantId create) raised s') (h : Known ids s)
    (hdisjoint : Disjoint ids fresh) (hsource : s.repo.objects.get? create.sourceId = some source)
    (htarget : s.repo.objects.get? create.targetId = some target)
    (haccepted : s.policy.validateLink create source target = [])
    (htype : create.linkType = .supercedes) :
    s'.repo.Supersedes create.sourceId create.targetId ∧ s'.repo.objects = s.repo.objects ∧
      s'.policy = s.policy := by
  cases heffect with
  | rejected hrejected => exact absurd haccepted (hrejected source hsource target htarget)
  | changed _ hmoves _ _ _ => exact hmoves.elim
  | changedSilently _ hmoves _ => exact hmoves.elim
  | @linked _ _ _ _ link event _ _ _ hlinked =>
    have hnew := fun hmem => h.link_ne_fresh hdisjoint hmem hlinked.id rfl
    refine ⟨?_, rfl, rfl⟩
    rw [InMemoryGraphRepository.supersedes_link hnew rfl (hlinked.linkType.trans htype),
      hlinked.sourceId, hlinked.targetId]
    exact Or.inr ⟨rfl, rfl⟩

/-- A chain of versions that ends in an active one, each with one predecessor at most. -/
structure Versions (s : GraphService) (obj : ControlObject) (chain : List String) : Prop where
  listeners : s.audit.listeners = []
  stored : s.repo.objects.get? obj.id = some obj
  active : obj.state = .active
  linked : (obj.id :: chain).IsChain s.repo.Supersedes
  unique : ∀ a b c, s.repo.Supersedes a b → s.repo.Supersedes a c → b = c

theorem Versions.superseded {obj : ControlObject} {chain : List String}
    {update : ControlObjectCreate} {actor : String} (hversions : Versions s obj chain)
    (hbuild : update.Buildable uc) (h : Known ids s) (hdisjoint : Disjoint ids fresh)
    (heffect : Effect fresh uc s (.supersedeObject obj.id update actor) raised s') :
    ∃ newObj, Versions s' newObj (obj.id :: chain) := by
  have hvalid : ControlState.superseded ∈ obj.state.validStateTransitions := by
    rw [hversions.active]
    decide
  have hstored := hversions.stored
  have hobjection := objection_of_listeners hversions.listeners
  generalize hid : obj.id = id at heffect
  cases heffect with
  | rejected hrejected => exact absurd hbuild (hrejected obj (hid ▸ hstored))
  | changed _ hmoves _ _ _ => exact hmoves.elim
  | changedSilently _ hmoves _ => exact hmoves.elim
  | referred _ hstored' hinvalid _ _ =>
    rw [← hid] at hstored'
    obtain rfl := Option.some.inj (hstored.symm.trans hstored')
    exact absurd hvalid hinvalid
  | interrupted _ _ _ hsome _ _ _ => exact absurd hobjection hsome
  | @superseded original original' newObj _ _ link event _ hstored' _ _ hsuperseded _ =>
    rw [← hid] at hstored'
    obtain rfl := Option.some.inj (hstored.symm.trans hstored')
    have hnew := fun hmem => h.link_ne_fresh hdisjoint hmem hsuperseded.link_id rfl
    have hsupersedes : (GraphService.storeLink link (GraphService.storeObject newObj
        ((GraphService.storeObject original' s).logged [event]))).repo.Supersedes =
        addEdge s.repo.Supersedes link.sourceId link.targetId :=
      InMemoryGraphRepository.supersedes_link hnew rfl hsuperseded.linkType
    rw [hsuperseded.sourceId, hsuperseded.targetId] at hsupersedes
    refine ⟨newObj, hversions.listeners, Dict.get?_set_self _ _ _, hsuperseded.state, ?_, ?_⟩
    · rw [hsupersedes, List.isChain_cons_cons]
      exact ⟨Or.inr ⟨rfl, rfl⟩, hversions.linked.imp fun _ _ hedge => Or.inl hedge⟩
    · rw [hsupersedes]
      have hno := h.no_supersession_fresh hdisjoint hsuperseded.id
      rintro a b c (hb | ⟨rfl, rfl⟩) (hc | ⟨ha, rfl⟩)
      · exact hversions.unique a b c hb hc
      · subst ha
        exact absurd hb (hno b).2
      · exact absurd hc (hno c).2
      · rfl

theorem Versions.run {rt : Runtime} {update : ControlObjectCreate} (hbuild : update.Buildable uc)
    (n : ℕ) {w : World GraphService} {obj : ControlObject} {chain : List String}
    (hversions : Versions w.self obj chain) (h : Known (rt.drawn w.env) w.self)
    (huuid : Set.InjOn rt.uuid4 (Set.Iio (w.env.draws + 7 * n))) :
    ∃ ops newObj newChain, ops.length = n ∧ newChain.length = chain.length + n ∧
      Versions (serviceRun rt uc w ops).self newObj newChain ∧
      Conforms (serviceStep rt uc) (fun op w => op.ClosesNoCycle w.self) w ops := by
  induction n generalizing w obj chain with
  | zero => exact ⟨[], obj, chain, rfl, rfl, hversions, trivial⟩
  | succ n ih =>
    let op : GraphServiceOp := .supersedeObject obj.id update "ada"
    have hundrawn : Undrawn rt w (op :: List.replicate n op) := by
      constructor
      · exact h
      · rwa [List.length_cons, List.length_replicate]
    obtain ⟨k, -, raised, s, -, hstep, hdisjoint, heffect⟩ := hundrawn.effect uc
    have hnext := hundrawn.step uc
    obtain ⟨newObj, hversions'⟩ := hversions.superseded hbuild h hdisjoint heffect
    have hself : s = (serviceStep rt uc op w).self := by rw [hstep]
    rw [hself] at hversions'
    have huuid' := hnext.uuid4
    rw [List.length_replicate] at huuid'
    obtain ⟨ops, newObj', newChain, hops, hchain, hrun, hconforms⟩ :=
      ih hversions' hnext.known huuid'
    refine ⟨op :: ops, newObj', newChain, ?_, ?_, hrun, trivial, hconforms⟩
    · rw [List.length_cons, hops]
    · rw [hchain, List.length_cons]
      omega

/-- A new service reaches versions in a row, any number of them. -/
theorem exists_versions (rt : Runtime) (policy : GraphPolicyEngine)
    (checker : GraphConsistencyChecker) (env : Env) (n : ℕ)
    (huuid : Set.InjOn rt.uuid4 (Set.Iio (env.draws + 7 * (n + 1)))) :
    ∃ ops newObj chain, ops.length = n + 1 ∧ chain.length = n ∧
      Versions (serviceRun rt .ascii ⟨.new policy checker [], env⟩ ops).self newObj chain ∧
      Conforms (serviceStep rt .ascii) (fun op w => op.ClosesNoCycle w.self)
        ⟨.new policy checker [], env⟩ ops := by
  have hcreate := ControlObjectCreate.workOrder_buildable .field
  let op : GraphServiceOp := .createObject "t" (.workOrder .field) "ada" true
  obtain ⟨obj, events, -, -, -, -, -, hactive, -, hstep⟩ :=
    serviceStep_createObject rt (w := ⟨.new policy checker [], env⟩) hcreate rfl "t" "ada"
      true
  have hundrawn : Undrawn rt ⟨.new policy checker [], env⟩ (op :: List.replicate n op) := by
    apply undrawn_new
    rwa [List.length_cons, List.length_replicate]
  have hversions : Versions (serviceStep rt .ascii op ⟨.new policy checker [], env⟩).self obj [] := by
    rw [hstep]
    refine ⟨rfl, Dict.get?_set_self _ _ _, hactive, List.isChain_singleton _, ?_⟩
    rintro a b c ⟨linkId, link, hlink, -⟩
    exact absurd hlink (GraphService.new_links policy checker [] linkId link)
  have hnext := hundrawn.step .ascii
  have huuid' := hnext.uuid4
  rw [List.length_replicate] at huuid'
  obtain ⟨ops, newObj, chain, hops, hchain, hrun, hconforms⟩ :=
    hversions.run hcreate n hnext.known huuid'
  refine ⟨op :: ops, newObj, chain, ?_, ?_, hrun, trivial, hconforms⟩
  · rw [List.length_cons, hops]
  · rw [hchain, List.length_nil, Nat.zero_add]

end Cut

/-- Two objects may supersede each other, and the lineage of the 53rd version ends at one that
supersedes another. -/
theorem serviceRun_supersession_not_traced :
    (¬ ∀ (rt : Runtime) (uc : Unicode) (policy : GraphPolicyEngine)
        (checker : GraphConsistencyChecker) (listeners : List FabricAuditListener) (env : Env)
        (ops : List GraphServiceOp),
      Set.InjOn rt.uuid4 (Set.Iio (env.draws + 7 * ops.length)) →
        Always (serviceStep rt uc) (fun w => Acyclic w.self.repo.Supersedes)
          ⟨.new policy checker listeners, env⟩ ops) ∧
    ¬ ∀ (rt : Runtime) (uc : Unicode) (policy : GraphPolicyEngine)
        (checker : GraphConsistencyChecker) (listeners : List FabricAuditListener) (env : Env)
        (ops : List GraphServiceOp),
      Set.InjOn rt.uuid4 (Set.Iio (env.draws + 7 * ops.length)) →
      Conforms (serviceStep rt uc) (fun op w => op.ClosesNoCycle w.self)
        ⟨.new policy checker listeners, env⟩ ops →
      ∀ objectId fuel lineage,
        (serviceRun rt uc ⟨.new policy checker listeners, env⟩ ops).self.getLineage fuel objectId =
          some (some lineage) →
        ∀ id ∈ (objectId :: lineage.derivationChain).getLast?, ∀ id',
          ¬ (serviceRun rt uc ⟨.new policy checker listeners, env⟩ ops).self.repo.Supersedes id
            id' := by
  have hcreate := ControlObjectCreate.workOrder_buildable .field
  constructor
  · intro h
    have huuid : Set.InjOn Runtime.reference.uuid4 (Set.Iio (0 + 7 * 4)) :=
      Runtime.reference_uuid4.mono (Set.Iio_subset_Iio (by decide))
    let w : World GraphService := ⟨.new ⟨none⟩ (fun _ _ => ⟨true, 0, 0⟩) [], .initial "t"⟩
    obtain ⟨first, second, hne, -, -, htype, hplane, hfirst, hsecond, hpolicy, -⟩ :=
      serviceStep_createTwo _ (w := w) hcreate rfl
        (fun heq => absurd (huuid (by decide) (by decide) heq) (by decide)) "t" "t" "ada"
    have haccepted {source target : ControlObject} (hne : source.id ≠ target.id)
        (htype : source.objectType = target.objectType) (hplane : source.plane = target.plane) :
        GraphPolicyEngine.validateLink ⟨none⟩
          { sourceId := source.id, targetId := target.id, linkType := .supercedes } source target =
            [] := by
      unfold GraphPolicyEngine.validateLink
      rw [if_neg hne]
      simp [htype, hplane]
    let there : ControlLinkCreate :=
      { sourceId := first.id, targetId := second.id, linkType := .supercedes }
    let back : ControlLinkCreate :=
      { sourceId := second.id, targetId := first.id, linkType := .supercedes }
    let ops : List GraphServiceOp := [.createObject "t" (.workOrder .field) "ada" true,
      .createObject "t" (.workOrder .field) "ada" true, .createLink "t" there,
      .createLink "t" back]
    have hw : Undrawn .reference w ops := undrawn_new _ _ _ huuid
    obtain ⟨-, -, -, hop, -⟩ := (hw.acyclic_iff .ascii (acyclic_new _ _ _)).mp
      (h .reference .ascii ⟨none⟩ (fun _ _ => ⟨true, 0, 0⟩) [] (.initial "t") ops huuid)
    have hw' := (hw.step .ascii).step .ascii
    obtain ⟨k, -, raised, s, -, hstep, hdisjoint, heffect⟩ := hw'.effect .ascii
    obtain ⟨hedge, hobjects, hpolicy'⟩ := heffect.supersedes_linked hw'.known hdisjoint hfirst
      hsecond (hpolicy ▸ haccepted hne htype hplane) rfl
    have hfirst' : s.repo.objects.get? first.id = some first := by
      rw [hobjects]
      exact hfirst
    have hsecond' : s.repo.objects.get? second.id = some second := by
      rw [hobjects]
      exact hsecond
    have hback : s.policy.validateLink back second first = [] := by
      rw [hpolicy', hpolicy]
      exact haccepted hne.symm htype.symm hplane.symm
    rw [hstep] at hop
    exact hop rfl second hsecond' first hfirst' hback (Relation.ReflTransGen.single hedge)
  · intro h
    obtain ⟨ops, newObj, chain, hops, hchain, hrun, hconforms⟩ := exists_versions
      .reference ⟨none⟩ (fun _ _ => ⟨true, 0, 0⟩) (.initial "t") 52
      (Runtime.reference_uuid4.mono (Set.Iio_subset_Iio (by decide)))
    obtain ⟨lineage, hlineage, hid, -, -, -, hsound⟩ :=
      GraphService.getLineage_sound hrun.stored (by decide : 51 < 52)
    have huuid : Set.InjOn Runtime.reference.uuid4 (Set.Iio (0 + 7 * ops.length)) := by
      rw [hops]
      exact Runtime.reference_uuid4.mono (Set.Iio_subset_Iio (by decide))
    have hlast := h .reference .ascii ⟨none⟩ (fun _ _ => ⟨true, 0, 0⟩) [] (.initial "t") ops huuid
      hconforms newObj.id 52 lineage hlineage
    have hlinked := hsound.linked
    rw [hid] at hlinked
    have hbound := hsound.bound
    have hshort : lineage.derivationChain.length < chain.length := by omega
    obtain ⟨id, hmem, id', hedge⟩ :=
      exists_next_of_longer hrun.unique hlinked hrun.linked hshort
    exact hlast id hmem id' hedge

end ControlFabric.Fabric
