import ControlFabric.Fabric.Reachable

/-! Tenants are kept apart, by links and by searches of any depth, exactly when every link that is
created belongs to the tenant of both its ends. -/
namespace ControlFabric.Fabric
open Lib Py Method

namespace InMemoryGraphRepository

/-- An object of the tenant is stored under the identifier. -/
def InTenant (repo : InMemoryGraphRepository) (tenantId id : String) : Prop :=
  ∃ obj, repo.objects.get? id = some obj ∧ obj.tenantId = tenantId

/-- A stored link belongs to the tenant of both its ends. -/
def LinksScoped (repo : InMemoryGraphRepository) : Prop :=
  ∀ id link, repo.links.get? id = some link →
    repo.InTenant link.tenantId link.sourceId ∧ repo.InTenant link.tenantId link.targetId

/-- Tenants are kept apart by the links and by all searches that start in a tenant. -/
structure Isolated (repo : InMemoryGraphRepository) : Prop where
  links : repo.LinksScoped
  neighbours : ∀ tenantId id, repo.InTenant tenantId id → ∀ direction linkType,
    ∀ obj ∈ repo.getNeighbours id direction linkType, obj.tenantId = tenantId
  path : ∀ tenantId sourceId, repo.InTenant tenantId sourceId → ∀ targetId maxDepth fuel,
    repo.objects.keys.length + 1 < fuel →
      ∃ result, repo.findPath fuel sourceId targetId maxDepth = some result ∧
        ∀ path ∈ result, ∀ id ∈ path, repo.InTenant tenantId id
  slice : ∀ tenantId rootIds, (∀ id ∈ rootIds, repo.InTenant tenantId id) →
    ∀ maxDepth allowedPlanes allowedLinkTypes fuel,
      rootIds.length + repo.objects.keys.length < fuel →
        ∃ objects links, repo.getGraphSlice fuel rootIds maxDepth allowedPlanes allowedLinkTypes =
            some (objects, links) ∧
          (∀ obj ∈ objects, obj.tenantId = tenantId) ∧ ∀ link ∈ links, link.tenantId = tenantId

variable {repo : InMemoryGraphRepository} {tenantId : String}

theorem InTenant.unique {tenantId' id : String} (h : repo.InTenant tenantId id)
    (h' : repo.InTenant tenantId' id) : tenantId' = tenantId := by
  obtain ⟨obj, hobj, rfl⟩ := h
  obtain ⟨obj', hobj', rfl⟩ := h'
  rw [hobj] at hobj'
  obtain rfl := Option.some.inj hobj'
  rfl

theorem InTenant.stored {id : String} (h : repo.InTenant tenantId id) : id ∈ repo.objects := by
  obtain ⟨obj, hobj, -⟩ := h
  exact Dict.mem_of_get? hobj

/-- A link between an object of the tenant and another one stays in the tenant. -/
theorem LinksScoped.across (h : repo.LinksScoped) {link : ControlLink}
    (hlink : link ∈ repo.links.values) {current neighbor : String}
    (hcurrent : repo.InTenant tenantId current) (hneighbor : link.neighbor current = some neighbor) :
    link.tenantId = tenantId ∧ repo.InTenant tenantId neighbor := by
  obtain ⟨id, hid⟩ := Dict.mem_values.mp hlink
  obtain ⟨hsource, htarget⟩ := h id link hid
  unfold ControlLink.neighbor at hneighbor
  split_ifs at hneighbor with hs ht
  · obtain rfl := Option.some.inj hneighbor
    have htenant := hcurrent.unique (hs ▸ hsource)
    exact ⟨htenant, htenant ▸ htarget⟩
  · obtain rfl := Option.some.inj hneighbor
    have htenant := hcurrent.unique (ht ▸ htarget)
    exact ⟨htenant, htenant ▸ hsource⟩

theorem LinksScoped.neighbours (h : repo.LinksScoped) {id : String}
    (hid : repo.InTenant tenantId id) (direction : String) (linkType : Option ControlLinkType) :
    ∀ obj ∈ repo.getNeighbours id direction linkType, obj.tenantId = tenantId := by
  intro obj hobj
  unfold getNeighbours at hobj
  obtain ⟨neighbor, hneighbor, hget⟩ := List.mem_filterMap.mp hobj
  obtain ⟨link, hlink, hend⟩ := List.mem_flatMap.mp (List.mem_dedup.mp hneighbor)
  obtain ⟨key, hkey⟩ := Dict.mem_values.mp (List.mem_of_mem_filter hlink)
  obtain ⟨hsource, htarget⟩ := h key link hkey
  have hin : repo.InTenant tenantId neighbor := by
    rcases List.mem_append.mp hend with hend | hend
    · split_ifs at hend with hs
      · obtain rfl := List.mem_singleton.mp hend
        exact hid.unique (hs ▸ hsource) ▸ htarget
      · exact absurd hend List.not_mem_nil
    · split_ifs at hend with ht
      · obtain rfl := List.mem_singleton.mp hend
        exact hid.unique (ht ▸ htarget) ▸ hsource
      · exact absurd hend List.not_mem_nil
  obtain ⟨obj', hobj', htenant⟩ := hin
  rw [hget] at hobj'
  obtain rfl := Option.some.inj hobj'
  exact htenant

/-! ### Paths -/

/-- A search for a path that has seen objects of the tenant only. -/
structure PathConfined (repo : InMemoryGraphRepository) (tenantId : String) (s : PathSearch) :
    Prop where
  queue : ∀ entry ∈ s.queue, repo.InTenant tenantId entry.1 ∧
    ∀ id ∈ entry.2, repo.InTenant tenantId id
  found : ∀ path ∈ s.found, ∀ id ∈ path, repo.InTenant tenantId id

/-- What is still to do: the queue, and the objects that may still join it. -/
def pathWork (repo : InMemoryGraphRepository) (s : PathSearch) : ℕ :=
  s.queue.length + unvisited repo.objects.keys s.visited

theorem visitLink_confined (h : repo.LinksScoped) {current : String} {path : List String}
    (hcurrent : repo.InTenant tenantId current) (hpath : ∀ id ∈ path, repo.InTenant tenantId id)
    {link : ControlLink} (hlink : link ∈ repo.links.values) {s : PathSearch}
    (hs : repo.PathConfined tenantId s) :
    repo.PathConfined tenantId (repo.visitLink current path s link) ∧
      repo.pathWork (repo.visitLink current path s link) ≤ repo.pathWork s := by
  unfold visitLink
  split
  next => exact ⟨hs, le_rfl⟩
  next neighbor hneighbor =>
    obtain ⟨-, hin⟩ := h.across hlink hcurrent hneighbor
    split_ifs with hnew
    · obtain ⟨hnew, hstored⟩ := hnew
      have hlt := unvisited_visit_lt (Dict.mem_iff_keys.mp hstored) hnew
      constructor
      · refine ⟨?_, hs.found⟩
        intro entry hentry
        rcases List.mem_append.mp hentry with hentry | hentry
        · exact hs.queue entry hentry
        · obtain rfl := List.mem_singleton.mp hentry
          refine ⟨hin, ?_⟩
          intro id hid
          rcases List.mem_append.mp hid with hid | hid
          · exact hpath id hid
          · obtain rfl := List.mem_singleton.mp hid
            exact hin
      · unfold pathWork
        rw [List.length_append, List.length_singleton]
        dsimp only
        omega
    · exact ⟨hs, le_rfl⟩

theorem visitLinks_confined (h : repo.LinksScoped) {current : String} {path : List String}
    (hcurrent : repo.InTenant tenantId current) (hpath : ∀ id ∈ path, repo.InTenant tenantId id)
    {links : List ControlLink} (hlinks : ∀ link ∈ links, link ∈ repo.links.values) {s : PathSearch}
    (hs : repo.PathConfined tenantId s) :
    repo.PathConfined tenantId (links.foldl (repo.visitLink current path) s) ∧
      repo.pathWork (links.foldl (repo.visitLink current path) s) ≤ repo.pathWork s := by
  induction links generalizing s with
  | nil => exact ⟨hs, le_rfl⟩
  | cons link links ih =>
    obtain ⟨hlink, hlinks⟩ := List.forall_mem_cons.mp hlinks
    obtain ⟨hvisit, hle⟩ := visitLink_confined h hcurrent hpath hlink hs
    obtain ⟨hrest, hle'⟩ := ih hlinks hvisit
    exact ⟨hrest, hle'.trans hle⟩

theorem pathStep_confined (h : repo.LinksScoped) (targetId : String) (maxDepth : ℤ)
    {s s' : PathSearch} (hs : repo.PathConfined tenantId s)
    (hstep : repo.pathStep targetId maxDepth s = some s') :
    repo.PathConfined tenantId s' ∧ repo.pathWork s' < repo.pathWork s := by
  unfold pathStep at hstep
  split at hstep
  next => cases hstep
  next => cases hstep
  next current path queue hfound hqueue =>
    have hconfined := hs.queue
    rw [hqueue, List.forall_mem_cons] at hconfined
    obtain ⟨⟨hcurrent, hpath⟩, hqueued⟩ := hconfined
    have hpopped : repo.PathConfined tenantId { s with queue := queue } := ⟨hqueued, hs.found⟩
    have hless : repo.pathWork { s with queue := queue } < repo.pathWork s := by
      unfold pathWork
      rw [hqueue, List.length_cons]
      dsimp only
      omega
    split_ifs at hstep with htarget hdeep
    · obtain rfl := Option.some.inj hstep
      refine ⟨⟨hqueued, ?_⟩, hless⟩
      rintro found ⟨⟩
      exact hpath
    · obtain rfl := Option.some.inj hstep
      exact ⟨hpopped, hless⟩
    · obtain rfl := Option.some.inj hstep
      obtain ⟨hvisit, hle⟩ := visitLinks_confined h hcurrent hpath (fun _ hlink => hlink) hpopped
      exact ⟨hvisit, hle.trans_lt hless⟩

theorem LinksScoped.path (h : repo.LinksScoped) {sourceId : String}
    (hsource : repo.InTenant tenantId sourceId) (targetId : String) (maxDepth : ℤ) {fuel : ℕ}
    (hfuel : repo.objects.keys.length + 1 < fuel) :
    ∃ result, repo.findPath fuel sourceId targetId maxDepth = some result ∧
      ∀ path ∈ result, ∀ id ∈ path, repo.InTenant tenantId id := by
  unfold findPath
  split_ifs
  · exact ⟨none, rfl, nofun⟩
  · have hstart : repo.PathConfined tenantId ⟨[(sourceId, [sourceId])], [sourceId], none⟩ := by
      refine ⟨?_, nofun⟩
      rw [List.forall_mem_singleton, List.forall_mem_singleton]
      exact ⟨hsource, hsource⟩
    have hwork : repo.pathWork ⟨[(sourceId, [sourceId])], [sourceId], none⟩ < fuel := by
      have hle := unvisited_le repo.objects.keys [sourceId]
      unfold pathWork
      rw [List.length_singleton]
      dsimp only
      omega
    obtain ⟨final, hloop, hfinal, -⟩ := loop_terminates repo.pathWork
      (fun _ _ hs hstep => pathStep_confined h targetId maxDepth hs hstep) hstart hwork
    exact ⟨final.found, by rw [hloop]; rfl, hfinal.found⟩

/-! ### Slices -/

/-- A slice that has collected objects and links of the tenant only. -/
structure SliceConfined (repo : InMemoryGraphRepository) (tenantId : String) (s : SliceSearch) :
    Prop where
  queue : ∀ entry ∈ s.queue, repo.InTenant tenantId entry.1
  visited : ∀ id ∈ s.visited, repo.InTenant tenantId id
  links : ∀ link ∈ s.collectedLinks, link.tenantId = tenantId

def sliceWork (repo : InMemoryGraphRepository) (s : SliceSearch) : ℕ :=
  s.queue.length + unvisited repo.objects.keys s.visited

variable (maxDepth : ℤ) (allowedPlanes : Option (List PlaneType))
  (allowedLinkTypes : Option (List ControlLinkType))

variable (repo) in
/-- A link is passed over, or collected, or collected with its other end queued. -/
theorem collectLink_cases (currentId : String) (depth : ℤ) (s : SliceSearch) (link : ControlLink) :
    repo.collectLink maxDepth allowedPlanes allowedLinkTypes currentId depth s link = s ∨
    ∃ neighborId, link.neighbor currentId = some neighborId ∧ neighborId ∈ repo.objects ∧
      (repo.collectLink maxDepth allowedPlanes allowedLinkTypes currentId depth s link =
          { s with collectedLinks := s.collectedLinks ++ [link] } ∨
        neighborId ∉ s.visited ∧
        repo.collectLink maxDepth allowedPlanes allowedLinkTypes currentId depth s link =
          ⟨s.queue ++ [(neighborId, depth + 1)], s.visited ++ [neighborId],
            s.collectedLinks ++ [link]⟩) := by
  unfold collectLink
  cases hneighbor : link.neighbor currentId with
  | none => exact Or.inl rfl
  | some neighborId =>
    dsimp only
    by_cases htype : allows allowedLinkTypes link.linkType = true
    · rw [if_neg (not_not.mpr htype)]
      cases hget : repo.objects.get? neighborId with
      | none => exact Or.inl rfl
      | some neighbor =>
        dsimp only
        by_cases hplane : allows allowedPlanes neighbor.plane = true
        · rw [if_neg (not_not.mpr hplane)]
          refine Or.inr ⟨neighborId, rfl, Dict.mem_of_get? hget, ?_⟩
          by_cases hnew : neighborId ∉ s.visited ∧ depth + 1 ≤ maxDepth
          · exact Or.inr ⟨hnew.1, if_pos hnew⟩
          · exact Or.inl (if_neg hnew)
        · exact Or.inl (if_pos hplane)
    · exact Or.inl (if_pos htype)

theorem collectLink_confined (h : repo.LinksScoped) {currentId : String} (depth : ℤ)
    (hcurrent : repo.InTenant tenantId currentId) {link : ControlLink}
    (hlink : link ∈ repo.links.values) {s : SliceSearch} (hs : repo.SliceConfined tenantId s) :
    repo.SliceConfined tenantId
        (repo.collectLink maxDepth allowedPlanes allowedLinkTypes currentId depth s link) ∧
      repo.sliceWork
          (repo.collectLink maxDepth allowedPlanes allowedLinkTypes currentId depth s link) ≤
        repo.sliceWork s := by
  rcases collectLink_cases repo maxDepth allowedPlanes allowedLinkTypes currentId depth s
    link with hsame | ⟨neighborId, hneighbor, hstored, hcases⟩
  · rw [hsame]
    exact ⟨hs, le_rfl⟩
  obtain ⟨htenant, hin⟩ := h.across hlink hcurrent hneighbor
  have hlinks : ∀ l ∈ s.collectedLinks ++ [link], l.tenantId = tenantId := by
    intro l hl
    rcases List.mem_append.mp hl with hl | hl
    · exact hs.links l hl
    · obtain rfl := List.mem_singleton.mp hl
      exact htenant
  rcases hcases with hcollected | ⟨hnew, hqueued⟩
  · rw [hcollected]
    exact ⟨⟨hs.queue, hs.visited, hlinks⟩, le_rfl⟩
  · rw [hqueued]
    constructor
    · refine ⟨?_, ?_, hlinks⟩
      · intro entry hentry
        rcases List.mem_append.mp hentry with hentry | hentry
        · exact hs.queue entry hentry
        · obtain rfl := List.mem_singleton.mp hentry
          exact hin
      · intro id hid
        rcases List.mem_append.mp hid with hid | hid
        · exact hs.visited id hid
        · obtain rfl := List.mem_singleton.mp hid
          exact hin
    · have hlt := unvisited_visit_lt (Dict.mem_iff_keys.mp hstored) hnew
      unfold sliceWork
      rw [List.length_append, List.length_singleton]
      dsimp only
      omega

theorem collectLinks_confined (h : repo.LinksScoped) {currentId : String} (depth : ℤ)
    (hcurrent : repo.InTenant tenantId currentId) {links : List ControlLink}
    (hlinks : ∀ link ∈ links, link ∈ repo.links.values) {s : SliceSearch}
    (hs : repo.SliceConfined tenantId s) :
    repo.SliceConfined tenantId
        (links.foldl (repo.collectLink maxDepth allowedPlanes allowedLinkTypes currentId depth) s) ∧
      repo.sliceWork
          (links.foldl (repo.collectLink maxDepth allowedPlanes allowedLinkTypes currentId depth)
            s) ≤ repo.sliceWork s := by
  induction links generalizing s with
  | nil => exact ⟨hs, le_rfl⟩
  | cons link links ih =>
    obtain ⟨hlink, hlinks⟩ := List.forall_mem_cons.mp hlinks
    obtain ⟨hcollect, hle⟩ := collectLink_confined maxDepth allowedPlanes allowedLinkTypes h depth
      hcurrent hlink hs
    obtain ⟨hrest, hle'⟩ := ih hlinks hcollect
    exact ⟨hrest, hle'.trans hle⟩

theorem sliceStep_confined (h : repo.LinksScoped) {s s' : SliceSearch}
    (hs : repo.SliceConfined tenantId s)
    (hstep : repo.sliceStep maxDepth allowedPlanes allowedLinkTypes s = some s') :
    repo.SliceConfined tenantId s' ∧ repo.sliceWork s' < repo.sliceWork s := by
  unfold sliceStep at hstep
  split at hstep
  next => cases hstep
  next currentId depth queue hqueue =>
    obtain rfl := Option.some.inj hstep
    have hconfined := hs.queue
    rw [hqueue, List.forall_mem_cons] at hconfined
    obtain ⟨hcurrent, hqueued⟩ := hconfined
    have hpopped : repo.SliceConfined tenantId { s with queue := queue } :=
      ⟨hqueued, hs.visited, hs.links⟩
    have hless : repo.sliceWork { s with queue := queue } < repo.sliceWork s := by
      unfold sliceWork
      rw [hqueue, List.length_cons]
      dsimp only
      omega
    obtain ⟨hcollect, hle⟩ := collectLinks_confined maxDepth allowedPlanes allowedLinkTypes h depth
      hcurrent (fun _ hlink => hlink) hpopped
    exact ⟨hcollect, hle.trans_lt hless⟩

theorem LinksScoped.slice (h : repo.LinksScoped) {rootIds : List String}
    (hroots : ∀ id ∈ rootIds, repo.InTenant tenantId id) {fuel : ℕ}
    (hfuel : rootIds.length + repo.objects.keys.length < fuel) :
    ∃ objects links, repo.getGraphSlice fuel rootIds maxDepth allowedPlanes allowedLinkTypes =
        some (objects, links) ∧
      (∀ obj ∈ objects, obj.tenantId = tenantId) ∧ ∀ link ∈ links, link.tenantId = tenantId := by
  have hstart : repo.SliceConfined tenantId (repo.sliceStart rootIds) := by
    refine ⟨?_, ?_, fun _ hlink => absurd hlink List.not_mem_nil⟩
    · intro entry hentry
      obtain ⟨id, hid, rfl⟩ := List.mem_map.mp hentry
      exact hroots id (List.mem_of_mem_filter hid)
    · intro id hid
      exact hroots id (List.mem_of_mem_filter (List.mem_dedup.mp hid))
  have hwork : repo.sliceWork (repo.sliceStart rootIds) < fuel := by
    have hle := unvisited_le repo.objects.keys (repo.sliceStart rootIds).visited
    have hroots : (repo.sliceStart rootIds).queue.length ≤ rootIds.length := by
      unfold sliceStart
      rw [List.length_map]
      exact List.length_filter_le _ _
    unfold sliceWork
    omega
  obtain ⟨final, hloop, hfinal, -⟩ := loop_terminates repo.sliceWork
    (fun _ _ hs hstep => sliceStep_confined maxDepth allowedPlanes allowedLinkTypes h hs hstep)
    hstart hwork
  refine ⟨final.visited.filterMap repo.objects.get?, final.collectedLinks, ?_, ?_, hfinal.links⟩
  · unfold getGraphSlice
    rw [hloop]
    rfl
  · intro obj hobj
    obtain ⟨id, hid, hget⟩ := List.mem_filterMap.mp hobj
    obtain ⟨obj', hobj', htenant⟩ := hfinal.visited id hid
    rw [hget] at hobj'
    obtain rfl := Option.some.inj hobj'
    exact htenant

theorem isolated_iff (repo : InMemoryGraphRepository) : repo.Isolated ↔ repo.LinksScoped := by
  constructor
  · exact Isolated.links
  · intro h
    exact
      { links := h
        neighbours := fun _ _ hid direction linkType => h.neighbours hid direction linkType
        path := fun _ _ hsource targetId maxDepth _ hfuel => h.path hsource targetId maxDepth hfuel
        slice := fun _ _ hroots maxDepth allowedPlanes allowedLinkTypes _ hfuel =>
          h.slice maxDepth allowedPlanes allowedLinkTypes hroots hfuel }

end InMemoryGraphRepository
namespace GraphServiceOp

/-- A link that is created belongs to the tenant of both its ends. -/
def Scoped (s : GraphService) : GraphServiceOp → Prop
  | createLink tenantId create => ∀ source ∈ s.repo.objects.get? create.sourceId,
      ∀ target ∈ s.repo.objects.get? create.targetId,
        s.policy.validateLink create source target = [] →
          source.tenantId = tenantId ∧ target.tenantId = tenantId
  | _ => True

variable {uc : Unicode} {s : GraphService} {op : GraphServiceOp}

theorem Rejected.inTenants (h : op.Rejected uc s) : op.Scoped s := by
  cases op with
  | createLink _ _ =>
    exact fun source hsource target htarget hnone => absurd hnone (h source hsource target htarget)
  | _ => trivial

theorem Moves.inTenants {obj : ControlObject} {newState : ControlState}
    (h : op.Moves obj newState) : op.Scoped s := by
  cases op with
  | createLink _ _ => exact h.elim
  | _ => trivial

end GraphServiceOp

section Effects
variable {ids fresh : Set String} {uc : Unicode} {s s' : GraphService} {op : GraphServiceOp}
  {raised : Bool}

theorem Effect.keeps_inTenant (heffect : Effect fresh uc s op raised s') (h : Known ids s)
    (hdisjoint : Disjoint ids fresh) {tenantId id : String} (hid : s.repo.InTenant tenantId id) :
    s'.repo.InTenant tenantId id := by
  obtain ⟨obj, hobj, htenant⟩ := hid
  obtain ⟨obj', hobj', hsame⟩ := heffect.keeps_object h hdisjoint hobj
  exact ⟨obj', hobj', hsame.tenantId.trans htenant⟩

/-- Links stay within tenants exactly when a link that is created does. -/
theorem Effect.linksScoped_iff (heffect : Effect fresh uc s op raised s') (h : Known ids s)
    (hdisjoint : Disjoint ids fresh) (hscoped : s.repo.LinksScoped) :
    s'.repo.LinksScoped ↔ op.Scoped s := by
  have hstays {tenantId id : String} (hid : s.repo.InTenant tenantId id) :
      s'.repo.InTenant tenantId id := heffect.keeps_inTenant h hdisjoint hid
  have hkept : ∀ id link, s.repo.links.get? id = some link →
      s'.repo.InTenant link.tenantId link.sourceId ∧
        s'.repo.InTenant link.tenantId link.targetId := fun id link hlink =>
    ⟨hstays (hscoped id link hlink).1, hstays (hscoped id link hlink).2⟩
  cases heffect with
  | rejected hrejected => exact iff_of_true hscoped hrejected.inTenants
  | checked _ _ => exact iff_of_true hkept trivial
  | registered => exact iff_of_true hkept trivial
  | created _ _ => exact iff_of_true hkept trivial
  | unborn _ _ => exact iff_of_true hkept trivial
  | changed _ hmoves _ _ _ => exact iff_of_true hkept hmoves.inTenants
  | changedSilently _ hmoves _ => exact iff_of_true hkept hmoves.inTenants
  | referred _ _ _ _ _ => exact iff_of_true hkept trivial
  | interrupted _ _ _ _ _ _ _ => exact iff_of_true hkept trivial
  | superseded _ hstored _ _ hsuperseded _ =>
    refine iff_of_true ?_ trivial
    intro id link' hlink
    rw [GraphService.storeLink_links, Dict.get?_set] at hlink
    split at hlink
    next =>
      obtain rfl := Option.some.inj hlink
      rw [hsuperseded.sourceId, hsuperseded.targetId, hsuperseded.link_tenantId]
      exact ⟨⟨_, Dict.get?_set_self _ _ _, hsuperseded.successor.tenantId⟩,
        hstays ⟨_, hstored, rfl⟩⟩
    next => exact hkept id link' hlink
  | linked hsource htarget haccepted hlinked =>
    constructor
    · intro hscoped' source' hsource' target' htarget' _
      obtain ⟨⟨_, hfirst, hsourceTenant⟩, ⟨_, hsecond, htargetTenant⟩⟩ :=
        hscoped' _ _ (Dict.get?_set_self _ _ _)
      rw [hlinked.tenantId] at hsourceTenant htargetTenant
      rw [hlinked.sourceId] at hfirst
      rw [hlinked.targetId] at hsecond
      obtain rfl := Option.some.inj (hsource'.symm.trans hfirst)
      obtain rfl := Option.some.inj (htarget'.symm.trans hsecond)
      exact ⟨hsourceTenant, htargetTenant⟩
    · intro hop id link' hlink
      obtain ⟨hsourceTenant, htargetTenant⟩ := hop _ hsource _ htarget haccepted
      rw [GraphService.logged_repo, GraphService.storeLink_links, Dict.get?_set] at hlink
      split at hlink
      next =>
        obtain rfl := Option.some.inj hlink
        rw [hlinked.sourceId, hlinked.targetId, hlinked.tenantId]
        exact ⟨⟨_, hsource, hsourceTenant⟩, ⟨_, htarget, htargetTenant⟩⟩
      next => exact hkept id link' hlink

end Effects

theorem Undrawn.isolated_iff {rt : Runtime} (uc : Unicode) {ops : List GraphServiceOp}
    {w : World GraphService} (hw : Undrawn rt w ops) (hscoped : w.self.repo.LinksScoped) :
    Always (serviceStep rt uc) (fun w => w.self.repo.Isolated) w ops ↔
      Conforms (serviceStep rt uc) (fun op w => op.Scoped w.self) w ops := by
  simp only [InMemoryGraphRepository.isolated_iff]
  exact always_iff_of_effect
    (fun _ _ _ _ _ _ h hdisjoint heffect hscoped => heffect.linksScoped_iff h hdisjoint hscoped)
    hw hscoped

theorem linksScoped_new (policy : GraphPolicyEngine) (checker : GraphConsistencyChecker)
    (listeners : List FabricAuditListener) :
    (GraphService.new policy checker listeners).repo.LinksScoped :=
  fun id link hlink => absurd hlink (GraphService.new_links policy checker listeners id link)

/-- In every state that a run of a new service goes through tenants are kept apart exactly when
every call creates links within tenants only. -/
theorem serviceRun_isolated_iff {rt : Runtime} (uc : Unicode) (policy : GraphPolicyEngine)
    (checker : GraphConsistencyChecker) (listeners : List FabricAuditListener) (env : Env)
    {ops : List GraphServiceOp} (huuid : Set.InjOn rt.uuid4 (Set.Iio (env.draws + 7 * ops.length))) :
    Always (serviceStep rt uc) (fun w => w.self.repo.Isolated)
        ⟨.new policy checker listeners, env⟩ ops ↔
      Conforms (serviceStep rt uc) (fun op w => op.Scoped w.self)
        ⟨.new policy checker listeners, env⟩ ops :=
  (undrawn_new policy checker listeners huuid).isolated_iff uc (linksScoped_new _ _ _)

theorem serviceRun_isolated_iff_superseded :
    Always (serviceStep .reference .ascii) (fun w => w.self.repo.Isolated)
        ⟨.new ⟨none⟩ (fun _ _ => ⟨true, 0, 0⟩) [], .initial "t"⟩
        supersededOrder ↔
      Conforms (serviceStep .reference .ascii) (fun op w => op.Scoped w.self)
        ⟨.new ⟨none⟩ (fun _ _ => ⟨true, 0, 0⟩) [], .initial "t"⟩
        supersededOrder :=
  serviceRun_isolated_iff .ascii ⟨none⟩ (fun _ _ => ⟨true, 0, 0⟩) [] (.initial "t")
    (Runtime.reference_uuid4.mono (Set.Iio_subset_Iio (by decide)))

/-- A link may lead from one tenant into another. -/
theorem serviceRun_createLink_leaks :
    ¬ ∀ (rt : Runtime) (uc : Unicode) (policy : GraphPolicyEngine)
        (checker : GraphConsistencyChecker) (listeners : List FabricAuditListener) (env : Env)
        (ops : List GraphServiceOp),
      Set.InjOn rt.uuid4 (Set.Iio (env.draws + 7 * ops.length)) →
        Always (serviceStep rt uc) (fun w => w.self.repo.Isolated)
          ⟨.new policy checker listeners, env⟩ ops := by
  intro h
  have hbuild := ControlObjectCreate.workOrder_buildable .field
  have huuid : Set.InjOn Runtime.reference.uuid4 (Set.Iio (0 + 7 * 3)) :=
    Runtime.reference_uuid4.mono (Set.Iio_subset_Iio (by decide))
  obtain ⟨ours, theirs, hne, hours, htheirs, -, -, hstored, hstored', hpolicy, -⟩ :=
    serviceStep_createTwo .reference (w := ⟨.new ⟨none⟩ (fun _ _ => ⟨true, 0, 0⟩) [],
      .initial "t"⟩) hbuild rfl (fun heq => absurd (huuid (by decide) (by decide) heq) (by decide))
      "ours" "theirs" "ada"
  let create : ControlLinkCreate :=
    { sourceId := ours.id, targetId := theirs.id, linkType := .impacts }
  obtain ⟨-, -, hlink, -⟩ := ((undrawn_new _ _ _ huuid).isolated_iff .ascii
    (linksScoped_new _ _ _)).mp (h .reference .ascii ⟨none⟩ (fun _ _ => ⟨true, 0, 0⟩) []
      (.initial "t") [.createObject "ours" (.workOrder .field) "ada" true,
        .createObject "theirs" (.workOrder .field) "ada" true, .createLink "ours" create] huuid)
  have haccepted : GraphPolicyEngine.validateLink ⟨none⟩ create ours theirs = [] := by
    unfold GraphPolicyEngine.validateLink
    rw [if_neg hne]
    rfl
  have htenants := hlink ours hstored theirs hstored' (hpolicy ▸ haccepted)
  rw [htheirs] at htenants
  exact absurd htenants.2 (by decide)

end ControlFabric.Fabric
