import ControlFabric.Wave1.PairsOnce

/-! What another link does to the pairs of a reconciliation. It adds a pair at most, but the first
pair that is linked puts an end to the comparison by keys. -/
namespace ControlFabric.Fabric.Wave1
open Lib Py Method

/-- The link is one of the tenant and leads from one of the objects to the other, across planes. -/
def JoinedBy (link : ControlLink) (tenantId : String) (src tgt : ControlObject) : Prop :=
  link.tenantId = tenantId ∧ (Joins src tgt link ∨ Joins tgt src link)

section Spec
variable (repo : InMemoryGraphRepository) (tenantId : String) (sourcePlane targetPlane : PlaneType)
  (domain : String)

/-- A pair that a reconciliation may compare. -/
def Selectable (src tgt : ControlObject) : Prop :=
  Selected repo tenantId domain sourcePlane src ∧ Selected repo tenantId domain targetPlane tgt

def AnyLinked : Prop :=
  ∃ src tgt, Selectable repo tenantId sourcePlane targetPlane domain src tgt ∧
    Linked repo tenantId src tgt

/-- The link hides no pair: some pair was linked before, or it joins none, or it joins all that
share a key. -/
def HidesNothing (link : ControlLink) : Prop :=
  AnyLinked repo tenantId sourcePlane targetPlane domain ∨
    (∀ src tgt, Selectable repo tenantId sourcePlane targetPlane domain src tgt →
      ¬ JoinedBy link tenantId src tgt) ∨
    ∀ src tgt, Selectable repo tenantId sourcePlane targetPlane domain src tgt →
      Correlated src tgt → JoinedBy link tenantId src tgt

end Spec

section Added
variable {repo : InMemoryGraphRepository} {tenantId : String} {sourcePlane targetPlane : PlaneType}
  {domain : String} {link : ControlLink} {src tgt : ControlObject}

theorem mem_getAllLinks_storeLink (hnew : link.id ∉ repo.links) {link' : ControlLink} :
    link' ∈ (repo.storeLink link).getAllLinks tenantId ↔
      link' ∈ repo.getAllLinks tenantId ∨ link' = link ∧ link.tenantId = tenantId := by
  unfold InMemoryGraphRepository.getAllLinks InMemoryGraphRepository.storeLink
  rw [Dict.values_set_new hnew, List.filter_append, List.mem_append]
  refine or_congr_right ?_
  rw [List.mem_filter, List.mem_singleton, decide_eq_true_iff]
  refine and_congr_right fun heq => ?_
  rw [heq]

/-- The two are linked by the new link, or were linked before. -/
theorem linked_storeLink (hnew : link.id ∉ repo.links) :
    Linked (repo.storeLink link) tenantId src tgt ↔
      Linked repo tenantId src tgt ∨ JoinedBy link tenantId src tgt := by
  unfold Linked JoinedBy Joins
  simp only [mem_getAllLinks_storeLink hnew]
  constructor
  · rintro ⟨link', hlink' | ⟨rfl, htenant⟩, hcross, hends⟩
    · exact Or.inl ⟨link', hlink', hcross, hends⟩
    · refine Or.inr ⟨htenant, ?_⟩
      rcases hends with ⟨hsource, htarget⟩ | ⟨htarget, hsource⟩
      · exact Or.inl ⟨hcross, hsource, htarget⟩
      · exact Or.inr ⟨hcross, hsource, htarget⟩
  · rintro (⟨link', hlink', hcross, hends⟩ | ⟨htenant, ⟨hcross, hends⟩ | ⟨hcross, hsource, htarget⟩⟩)
    · exact ⟨link', Or.inl hlink', hcross, hends⟩
    · exact ⟨link, Or.inr ⟨rfl, htenant⟩, hcross, Or.inl hends⟩
    · exact ⟨link, Or.inr ⟨rfl, htenant⟩, hcross, Or.inr ⟨htarget, hsource⟩⟩

theorem compared_iff : Compared repo tenantId sourcePlane targetPlane domain src tgt ↔
    Selectable repo tenantId sourcePlane targetPlane domain src tgt ∧
      (Linked repo tenantId src tgt ∨
        Correlated src tgt ∧ ¬ AnyLinked repo tenantId sourcePlane targetPlane domain) := by
  have hnone : (∀ src' tgt', Selected repo tenantId domain sourcePlane src' →
        Selected repo tenantId domain targetPlane tgt' → ¬ Linked repo tenantId src' tgt') ↔
      ¬ AnyLinked repo tenantId sourcePlane targetPlane domain := by
    unfold AnyLinked Selectable
    push Not
    exact forall₂_congr fun src' tgt' => and_imp.symm
  unfold Compared
  rw [hnone]
  rfl

/-- A pair that the new link leaves compared is linked before or after, or no pair is. -/
theorem compared_storeLink (hnew : link.id ∉ repo.links) :
    Compared (repo.storeLink link) tenantId sourcePlane targetPlane domain src tgt ↔
      Selectable repo tenantId sourcePlane targetPlane domain src tgt ∧
        ((Linked repo tenantId src tgt ∨ JoinedBy link tenantId src tgt) ∨
          Correlated src tgt ∧ ¬ AnyLinked repo tenantId sourcePlane targetPlane domain ∧
            ∀ src' tgt', Selectable repo tenantId sourcePlane targetPlane domain src' tgt' →
              ¬ JoinedBy link tenantId src' tgt') := by
  have hselectable : Selectable (repo.storeLink link) tenantId sourcePlane targetPlane domain =
      Selectable repo tenantId sourcePlane targetPlane domain := rfl
  have hnone : ¬ AnyLinked (repo.storeLink link) tenantId sourcePlane targetPlane domain ↔
      ¬ AnyLinked repo tenantId sourcePlane targetPlane domain ∧
        ∀ src' tgt', Selectable repo tenantId sourcePlane targetPlane domain src' tgt' →
          ¬ JoinedBy link tenantId src' tgt' := by
    unfold AnyLinked
    simp only [hselectable, linked_storeLink hnew]
    push Not
    constructor
    · intro h
      exact ⟨fun src' tgt' hselected => (h src' tgt' hselected).1,
        fun src' tgt' hselected => (h src' tgt' hselected).2⟩
    · rintro ⟨hlinked, hjoined⟩ src' tgt' hselected
      exact ⟨hlinked src' tgt' hselected, hjoined src' tgt' hselected⟩
  rw [compared_iff, hselectable, linked_storeLink hnew, hnone]

/-- What was compared stays compared exactly when the link hides nothing. -/
theorem compared_kept_iff (hnew : link.id ∉ repo.links) :
    (∀ src tgt, Compared repo tenantId sourcePlane targetPlane domain src tgt →
        Compared (repo.storeLink link) tenantId sourcePlane targetPlane domain src tgt) ↔
      HidesNothing repo tenantId sourcePlane targetPlane domain link := by
  unfold HidesNothing
  by_cases hany : AnyLinked repo tenantId sourcePlane targetPlane domain
  · refine iff_of_true (fun src tgt h => ?_) (Or.inl hany)
    obtain ⟨hselected, hlinked | ⟨-, hnone⟩⟩ := compared_iff.mp h
    · exact (compared_storeLink hnew).mpr ⟨hselected, Or.inl (Or.inl hlinked)⟩
    · exact absurd hany hnone
  rw [or_iff_right hany]
  by_cases hjoins : ∀ src tgt, Selectable repo tenantId sourcePlane targetPlane domain src tgt →
      ¬ JoinedBy link tenantId src tgt
  · refine iff_of_true (fun src tgt h => ?_) (Or.inl hjoins)
    obtain ⟨hselected, hlinked | ⟨hcorrelated, -⟩⟩ := compared_iff.mp h
    · exact (compared_storeLink hnew).mpr ⟨hselected, Or.inl (Or.inl hlinked)⟩
    · exact (compared_storeLink hnew).mpr ⟨hselected, Or.inr ⟨hcorrelated, hany, hjoins⟩⟩
  rw [or_iff_right hjoins]
  constructor
  · intro hkept src tgt hselected hcorrelated
    have hcompared := hkept src tgt (compared_iff.mpr ⟨hselected, Or.inr ⟨hcorrelated, hany⟩⟩)
    obtain ⟨-, (hlinked | hjoined) | ⟨-, -, hnone⟩⟩ := (compared_storeLink hnew).mp hcompared
    · exact absurd ⟨src, tgt, hselected, hlinked⟩ hany
    · exact hjoined
    · exact absurd hnone hjoins
  · intro hall src tgt h
    obtain ⟨hselected, hlinked | ⟨hcorrelated, -⟩⟩ := compared_iff.mp h
    · exact (compared_storeLink hnew).mpr ⟨hselected, Or.inl (Or.inl hlinked)⟩
    · exact (compared_storeLink hnew).mpr
        ⟨hselected, Or.inl (Or.inr (hall src tgt hselected hcorrelated))⟩

end Added

/-- On every graph, the pairs compared before a new link is stored are all compared after it exactly
when the link hides nothing. -/
theorem pairs_kept_iff (ops : List RepositoryOp) {link : ControlLink}
    (hnew : link.id ∉ (repositoryOf ops).links) (tenantId : String)
    (sourcePlane targetPlane : PlaneType) (domain : String) :
    comparedPairs (repositoryOf ops) tenantId sourcePlane targetPlane domain ⊆
        comparedPairs (repositoryOf (ops ++ [.storeLink link])) tenantId sourcePlane targetPlane
          domain ↔
      HidesNothing (repositoryOf ops) tenantId sourcePlane targetPlane domain link := by
  have hstored : repositoryOf (ops ++ [.storeLink link]) = (repositoryOf ops).storeLink link :=
    run_concat RepositoryOp.apply _ ops _
  have hfiled := InMemoryGraphRepository.filed_repositoryOf ops
  have hfiled' := InMemoryGraphRepository.filed_repositoryOf (ops ++ [.storeLink link])
  rw [← compared_kept_iff hnew, ← hstored]
  constructor
  · intro hkept src tgt h
    exact (mem_findCrossPlanePairs hfiled').mp (hkept ((mem_findCrossPlanePairs hfiled).mpr h))
  · rintro hkept ⟨src, tgt⟩ h
    exact (mem_findCrossPlanePairs hfiled').mpr
      (hkept src tgt ((mem_findCrossPlanePairs hfiled).mp h))

/-- A contract and a visit with a common key, and an unrelated duty and repair. -/
def keyedVisit : List RepositoryOp :=
  [.storeObject { plainObject "contract" "north" .commercial with
      correlationKeys := [("order", "7")] },
    .storeObject { plainObject "visit" "north" .field with correlationKeys := [("order", "7")] },
    .storeObject (plainObject "duty" "north" .commercial),
    .storeObject (plainObject "repair" "north" .field)]

/-- A link of the unrelated two. -/
def repairLink : ControlLink :=
  { plainLink "l1" "duty" "repair" .fulfills with
    sourcePlane := some .commercial
    targetPlane := some .field }

theorem pairs_kept_iff_repair :
    comparedPairs (repositoryOf keyedVisit) "north" .commercial .field "grid" ⊆
        comparedPairs (repositoryOf (keyedVisit ++ [.storeLink repairLink])) "north" .commercial
          .field "grid" ↔
      HidesNothing (repositoryOf keyedVisit) "north" .commercial .field "grid" repairLink :=
  pairs_kept_iff keyedVisit (by decide +kernel) "north" .commercial .field "grid"

/-- Once the duty is linked to the repair, the contract is no longer compared with the visit. -/
theorem repairLink_hides_visit :
    ¬ comparedPairs (repositoryOf keyedVisit) "north" .commercial .field "grid" ⊆
      comparedPairs (repositoryOf (keyedVisit ++ [.storeLink repairLink])) "north" .commercial
        .field "grid" := by
  intro h
  let contract : ControlObject :=
    { plainObject "contract" "north" .commercial with correlationKeys := [("order", "7")] }
  let visit : ControlObject :=
    { plainObject "visit" "north" .field with correlationKeys := [("order", "7")] }
  have hbefore : comparedPairs (repositoryOf keyedVisit) "north" .commercial .field "grid" =
      [(contract, visit)] := rfl
  have hafter : comparedPairs (repositoryOf (keyedVisit ++ [.storeLink repairLink])) "north"
      .commercial .field "grid" =
        [(plainObject "duty" "north" .commercial, plainObject "repair" "north" .field)] := rfl
  rw [hbefore, hafter] at h
  have hmem := List.mem_singleton.mp (h List.mem_cons_self)
  have hid := congrArg (fun pair => pair.1.id) hmem
  exact absurd hid (by decide)

end ControlFabric.Fabric.Wave1
