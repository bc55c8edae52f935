import ControlFabric.Reconciliation.Orchestrator

/-! What each stage of a reconciliation makes of the candidates of the stage before. -/
namespace ControlFabric.Fabric.Reconciliation
open Lib

/-! ### Mismatches and their draws -/

section Draws
variable (rt : Runtime)

theorem buildMismatches_ids (n : ℕ) (reports : List MismatchReport) :
    (buildMismatches rt n reports).map ReconciliationMismatch.id =
      (List.range' n reports.length).map rt.uuid4 := by
  apply List.ext_getElem
  · simp [buildMismatches]
  · intro i hi hi'
    simp [buildMismatches]

theorem buildMismatches_reports (n : ℕ) (reports : List MismatchReport) :
    (buildMismatches rt n reports).map ReconciliationMismatch.toMismatchReport = reports := by
  apply List.ext_getElem
  · simp [buildMismatches]
  · intro i hi hi'
    simp [buildMismatches]

@[simp] theorem buildMismatches_length (n : ℕ) (reports : List MismatchReport) :
    (buildMismatches rt n reports).length = reports.length := List.length_mapIdx

theorem mem_buildMismatches {n : ℕ} {reports : List MismatchReport} {m : ReconciliationMismatch}
    (h : m ∈ buildMismatches rt n reports) : m.toMismatchReport ∈ reports := by
  rw [← buildMismatches_reports rt n reports]
  exact List.mem_map_of_mem h

theorem exists_buildMismatches {n : ℕ} {reports : List MismatchReport} {r : MismatchReport}
    (h : r ∈ reports) : ∃ m ∈ buildMismatches rt n reports, m.toMismatchReport = r := by
  rw [← buildMismatches_reports rt n reports] at h
  exact List.mem_map.mp h

end Draws

/-! ### Candidates -/

theorem findObject_some {id : String} {objects : List ControlObject} {obj : ControlObject}
    (h : findObject id objects = some obj) : obj ∈ objects ∧ obj.id = id :=
  ⟨List.mem_of_find?_eq_some h, by simpa using List.find?_some h⟩

namespace CandidateGenerator
variable {sourceObjects targetObjects : List ControlObject} {links : List ControlLink}

theorem mem_linkCandidates {matchMethod sourceId targetId : String} {c : MatchCandidate}
    (h : c ∈ linkCandidates sourceObjects targetObjects matchMethod sourceId targetId) :
    ∃ src ∈ sourceObjects, ∃ tgt ∈ targetObjects, src.id = sourceId ∧ tgt.id = targetId ∧
      c = newCandidate matchMethod src tgt := by
  unfold linkCandidates at h
  split at h
  next src tgt hsrc htgt =>
    obtain ⟨hsrc, hsourceId⟩ := findObject_some hsrc
    obtain ⟨htgt, htargetId⟩ := findObject_some htgt
    exact ⟨src, hsrc, tgt, htgt, hsourceId, htargetId, List.mem_singleton.mp h⟩
  next => exact absurd h List.not_mem_nil

theorem mem_fromTexts {matchMethod : String} {texts : ControlObject → List (String × String)}
    {src : ControlObject} {c : MatchCandidate} :
    c ∈ fromTexts targetObjects matchMethod texts src ↔ ∃ tgt ∈ targetObjects,
      (∃ p ∈ texts src, p.2 ≠ "" ∧ textField (texts tgt) p.1 = some p.2) ∧
        c = newCandidate matchMethod src tgt := by
  unfold fromTexts
  rw [List.mem_flatMap]
  constructor
  · rintro ⟨p, hp, hc⟩
    split at hc
    · exact absurd hc List.not_mem_nil
    next hne =>
      obtain ⟨tgt, htgt, rfl⟩ := List.mem_map.mp hc
      obtain ⟨htgt, hfield⟩ := List.mem_filter.mp htgt
      exact ⟨tgt, htgt, ⟨p, hp, hne, by simpa using hfield⟩, rfl⟩
  · rintro ⟨tgt, htgt, ⟨p, hp, hne, hfield⟩, rfl⟩
    refine ⟨p, hp, ?_⟩
    rw [if_neg hne]
    exact List.mem_map_of_mem (List.mem_filter.mpr ⟨htgt, by simpa using hfield⟩)

/-- A proposed candidate is made of a source object and a target object. -/
theorem mem_proposed {c : MatchCandidate} (h : c ∈ proposed sourceObjects targetObjects links) :
    ∃ src ∈ sourceObjects, ∃ tgt ∈ targetObjects, ∃ matchMethod,
      c = newCandidate matchMethod src tgt := by
  rcases List.mem_append.mp h with h | h
  · rcases List.mem_append.mp h with h | h
    · obtain ⟨link, -, hc⟩ := List.mem_flatMap.mp h
      unfold fromLink at hc
      split at hc
      · exact absurd hc List.not_mem_nil
      · rcases List.mem_append.mp hc with hc | hc
        · obtain ⟨src, hsrc, tgt, htgt, -, -, rfl⟩ := mem_linkCandidates hc
          exact ⟨src, hsrc, tgt, htgt, _, rfl⟩
        · obtain ⟨src, hsrc, tgt, htgt, -, -, rfl⟩ := mem_linkCandidates hc
          exact ⟨src, hsrc, tgt, htgt, _, rfl⟩
    · obtain ⟨src, hsrc, hc⟩ := List.mem_flatMap.mp h
      obtain ⟨tgt, htgt, -, rfl⟩ := mem_fromTexts.mp hc
      exact ⟨src, hsrc, tgt, htgt, _, rfl⟩
  · obtain ⟨src, hsrc, hc⟩ := List.mem_flatMap.mp h
    obtain ⟨tgt, htgt, -, rfl⟩ := mem_fromTexts.mp hc
    exact ⟨src, hsrc, tgt, htgt, _, rfl⟩

theorem generate_nodup :
    ((generate sourceObjects targetObjects links).map MatchCandidate.pair).Nodup := firsts_nodup _

theorem mem_generate {c : MatchCandidate} (h : c ∈ generate sourceObjects targetObjects links) :
    ∃ src ∈ sourceObjects, ∃ tgt ∈ targetObjects, ∃ matchMethod,
      c = newCandidate matchMethod src tgt := mem_proposed (mem_of_mem_firsts h)

end CandidateGenerator

/-! ### Scores -/

namespace CandidateScorer
variable {rt : Runtime} {ops : ValueOps} {registry : ReconciliationRuleRegistry}
  {objectsById : Dict String ControlObject} {links : List ControlLink}

/-- Both objects of the candidate are known. -/
def Resolved (objectsById : Dict String ControlObject) (c : MatchCandidate) : Prop :=
  c.sourceObjectId ∈ objectsById ∧ c.targetObjectId ∈ objectsById

theorem scoreAll_cons (rt : Runtime) (ops : ValueOps) (registry : ReconciliationRuleRegistry)
    (links : List ControlLink) {c : MatchCandidate} (h : Resolved objectsById c) (n : ℕ)
    (candidates : List MatchCandidate) : ∃ source target,
      objectsById.get? c.sourceObjectId = some source ∧
      objectsById.get? c.targetObjectId = some target ∧
      scoreAll rt ops registry objectsById links n (c :: candidates) =
        scoreCandidate rt ops registry n c source target links ::
          scoreAll rt ops registry objectsById links
            (n + (scoreCandidate rt ops registry n c source target links).mismatches.length)
            candidates := by
  obtain ⟨source, hsource⟩ := Dict.mem_iff_get?.mp h.1
  obtain ⟨target, htarget⟩ := Dict.mem_iff_get?.mp h.2
  refine ⟨source, target, hsource, htarget, ?_⟩
  rw [scoreAll, hsource, htarget]

theorem scoreAll_pairs {candidates : List MatchCandidate}
    (h : ∀ c ∈ candidates, Resolved objectsById c) (n : ℕ) :
    (scoreAll rt ops registry objectsById links n candidates).map MatchCandidate.pair =
      candidates.map MatchCandidate.pair := by
  induction candidates generalizing n with
  | nil => rfl
  | cons c candidates ih =>
    obtain ⟨hc, h⟩ := List.forall_mem_cons.mp h
    obtain ⟨source, target, -, -, heq⟩ :=
      scoreAll_cons rt ops registry links hc n candidates
    rw [heq, List.map_cons, ih h, List.map_cons]
    rfl

/-- A scored candidate is the candidate with the score of its two objects. -/
theorem mem_scoreAll {candidates : List MatchCandidate} {n : ℕ} {c : MatchCandidate}
    (h : c ∈ scoreAll rt ops registry objectsById links n candidates) :
    ∃ c₀ ∈ candidates, ∃ source target k,
      objectsById.get? c₀.sourceObjectId = some source ∧
      objectsById.get? c₀.targetObjectId = some target ∧
      c = scoreCandidate rt ops registry k c₀ source target links := by
  induction candidates generalizing n with
  | nil => exact absurd h List.not_mem_nil
  | cons c₀ candidates ih =>
    have htail {m : ℕ} (h : c ∈ scoreAll rt ops registry objectsById links m candidates) :
        ∃ c₁ ∈ c₀ :: candidates, ∃ source target k,
          objectsById.get? c₁.sourceObjectId = some source ∧
          objectsById.get? c₁.targetObjectId = some target ∧
          c = scoreCandidate rt ops registry k c₁ source target links := by
      obtain ⟨c₁, hc₁, hfacts⟩ := ih h
      exact ⟨c₁, List.mem_cons_of_mem _ hc₁, hfacts⟩
    rw [scoreAll] at h
    split at h
    next source target hsource htarget =>
      rcases List.mem_cons.mp h with rfl | h
      · exact ⟨c₀, List.mem_cons_self, source, target, n, hsource, htarget, rfl⟩
      · exact htail h
    next => exact htail h

/-- The mismatches that rules report are drawn one after the other. -/
theorem scoreAll_ids (n : ℕ) (candidates : List MatchCandidate) :
    ((scoreAll rt ops registry objectsById links n candidates).flatMap
        MatchCandidate.mismatches).map ReconciliationMismatch.id =
      (List.range' n ((scoreAll rt ops registry objectsById links n candidates).map
        fun c => c.mismatches.length).sum).map rt.uuid4 := by
  induction candidates generalizing n with
  | nil => rfl
  | cons c candidates ih =>
    rw [scoreAll]
    split
    next source target hsource htarget =>
      set scored := scoreCandidate rt ops registry n c source target links with hscored
      have hids : scored.mismatches.map ReconciliationMismatch.id =
          (List.range' n scored.mismatches.length).map rt.uuid4 := by
        rw [hscored, scoreCandidate]
        dsimp only
        rw [buildMismatches_ids, buildMismatches_length]
      rw [List.flatMap_cons, List.map_append, hids, ih, List.map_cons, List.sum_cons,
        ← List.map_append, List.range'_append_1]
    next => exact ih n

end CandidateScorer

/-! ### Leading candidates and groups -/

/-- The candidate has the best score of its source, and is the first one with it. -/
def Leading (candidates : List MatchCandidate) (c : MatchCandidate) : Prop :=
  LeadsIn MatchCandidate.score
    (candidates.filter fun c' => c'.sourceObjectId = c.sourceObjectId) c

/-- The score lies within the gap of the best score of the source. -/
def CloseToTop (ops : ValueOps) (gap : ℚ) (candidates : List MatchCandidate) (c : MatchCandidate) :
    Prop := c ∈ candidates ∧ ∃ top, Leading candidates top ∧
      top.sourceObjectId = c.sourceObjectId ∧ DuplicateDetector.isClose ops gap top.score c

/-- The candidate and another one of its source are close to the top. -/
def Grouped (ops : ValueOps) (gap : ℚ) (candidates : List MatchCandidate) (c : MatchCandidate) :
    Prop := CloseToTop ops gap candidates c ∧ ∃ c', CloseToTop ops gap candidates c' ∧
      c'.sourceObjectId = c.sourceObjectId ∧ c' ≠ c

section Leading
variable {candidates : List MatchCandidate} {c c' : MatchCandidate}

theorem Leading.mem (h : Leading candidates c) : c ∈ candidates :=
  List.mem_of_mem_filter (LeadsIn.mem h)

theorem Leading.le (h : Leading candidates c) (hc' : c' ∈ candidates)
    (hsource : c'.sourceObjectId = c.sourceObjectId) : c'.score ≤ c.score :=
  LeadsIn.le h (List.mem_filter.mpr ⟨hc', by simpa using hsource⟩)

theorem leading_iff_of_source {s : String} (hs : c.sourceObjectId = s) : Leading candidates c ↔
    LeadsIn MatchCandidate.score (candidates.filter fun c' => c'.sourceObjectId = s) c := by
  subst hs
  rfl

/-- A source has one leading candidate. -/
theorem Leading.unique (h : Leading candidates c) (h' : Leading candidates c')
    (hsource : c'.sourceObjectId = c.sourceObjectId) : c' = c :=
  LeadsIn.unique ((leading_iff_of_source hsource).mp h') h

/-- Each source that has candidates has a leading one. -/
theorem exists_leading (hc : c ∈ candidates) :
    ∃ top, Leading candidates top ∧ top.sourceObjectId = c.sourceObjectId := by
  have hne : candidates.filter (fun c' => c'.sourceObjectId = c.sourceObjectId) ≠ [] :=
    List.ne_nil_of_mem (List.mem_filter.mpr ⟨hc, by simp⟩)
  obtain ⟨top, htop⟩ := exists_leadsIn MatchCandidate.score hne
  have hsource : top.sourceObjectId = c.sourceObjectId := by
    simpa using (List.mem_filter.mp htop.mem).2
  exact ⟨top, (leading_iff_of_source hsource).mpr htop, hsource⟩

theorem closeToTop_iff {ops : ValueOps} {gap : ℚ} {top : MatchCandidate}
    (htop : Leading candidates top) (hsource : c.sourceObjectId = top.sourceObjectId) :
    CloseToTop ops gap candidates c ↔
      c ∈ candidates ∧ DuplicateDetector.isClose ops gap top.score c := by
  constructor
  · rintro ⟨hc, top', htop', hsource', hclose⟩
    obtain rfl := htop.unique htop' (hsource'.trans hsource)
    exact ⟨hc, hclose⟩
  · rintro ⟨hc, hclose⟩
    exact ⟨hc, top, htop, hsource.symm, hclose⟩

instance : Decidable (Leading candidates c) := inferInstanceAs (Decidable (LeadsIn _ _ c))

instance (ops : ValueOps) (gap : ℚ) : Decidable (CloseToTop ops gap candidates c) :=
  decidable_of_iff (c ∈ candidates ∧ ∃ top ∈ candidates, Leading candidates top ∧
      top.sourceObjectId = c.sourceObjectId ∧ DuplicateDetector.isClose ops gap top.score c)
    ⟨fun ⟨hc, top, _, htop⟩ => ⟨hc, top, htop⟩, fun ⟨hc, top, htop⟩ => ⟨hc, top, htop.1.mem, htop⟩⟩

instance (ops : ValueOps) (gap : ℚ) : Decidable (Grouped ops gap candidates c) :=
  decidable_of_iff (CloseToTop ops gap candidates c ∧ ∃ c' ∈ candidates,
      CloseToTop ops gap candidates c' ∧ c'.sourceObjectId = c.sourceObjectId ∧ c' ≠ c)
    ⟨fun ⟨hc, c', _, hc'⟩ => ⟨hc, c', hc'⟩, fun ⟨hc, c', hc'⟩ => ⟨hc, c', hc'.1.1, hc'⟩⟩

end Leading

namespace DuplicateDetector
variable {ops : ValueOps} {gap : ℚ} {candidates : List MatchCandidate}

theorem mem_bySource {s : String} {g : List MatchCandidate} :
    (s, g) ∈ (bySource candidates).entries ↔
      (∃ c ∈ candidates, c.sourceObjectId = s) ∧
        g = candidates.filter fun c => c.sourceObjectId = s := by
  unfold bySource
  rw [mem_groups, List.mem_map]

/-- The outcomes of the rankings are those of the leading candidates. -/
theorem mem_rankingOutcomes {matchThreshold : ℚ} {outcome : ReconciliationOutcome} :
    outcome ∈ (buildRankings ops gap candidates).filterMap
        (ReconciliationAssembler.rankingOutcome matchThreshold) ↔
      ∃ c, Leading candidates c ∧
        ReconciliationAssembler.topOutcome matchThreshold c = some outcome := by
  unfold buildRankings
  rw [List.filterMap_map, List.mem_filterMap]
  constructor
  · rintro ⟨⟨s, g⟩, hentry, houtcome⟩
    obtain ⟨⟨c, hc, hcs⟩, rfl⟩ := mem_bySource.mp hentry
    obtain ⟨top, htop, hresult⟩ := Option.bind_eq_some_iff.mp houtcome
    have hleads : LeadsIn MatchCandidate.score _ top := head?_ranked.mp htop
    have hsource : top.sourceObjectId = s := by
      simpa using (List.mem_filter.mp hleads.mem).2
    exact ⟨top, (leading_iff_of_source hsource).mpr hleads, hresult⟩
  · rintro ⟨c, hc, hresult⟩
    refine ⟨(c.sourceObjectId, _), mem_bySource.mpr ⟨⟨c, hc.mem, rfl⟩, rfl⟩, ?_⟩
    exact Option.bind_eq_some_iff.mpr ⟨c, head?_ranked.mpr hc, hresult⟩

/-- The candidates of the source of `top` that are close to it, best first. -/
def closeMatches (ops : ValueOps) (gap : ℚ) (candidates : List MatchCandidate)
    (top : MatchCandidate) : List MatchCandidate :=
  (sortedCandidates (candidates.filter fun c => c.sourceObjectId = top.sourceObjectId)).filter
    (isClose ops gap top.score)

theorem mem_closeMatches {top c : MatchCandidate} : c ∈ closeMatches ops gap candidates top ↔
    c ∈ candidates ∧ c.sourceObjectId = top.sourceObjectId ∧ isClose ops gap top.score c := by
  unfold closeMatches sortedCandidates
  rw [List.mem_filter, (ranked_perm _ _).mem_iff, List.mem_filter, and_assoc, decide_eq_true_eq]

theorem closeMatches_nodup (ops : ValueOps) (gap : ℚ) (hnodup : candidates.Nodup)
    (top : MatchCandidate) : (closeMatches ops gap candidates top).Nodup :=
  ((ranked_perm _ _).nodup_iff.mpr (hnodup.filter _)).filter _

/-- The duplicate set of a source, if several of its candidates are close. -/
theorem duplicatesOf_eq {top : MatchCandidate} (htop : Leading candidates top) :
    duplicatesOf ops gap top.sourceObjectId
        (candidates.filter fun c => c.sourceObjectId = top.sourceObjectId) =
      if 1 < (closeMatches ops gap candidates top).length then
        some {
          sourceObjectId := top.sourceObjectId
          duplicateTargetIds :=
            (closeMatches ops gap candidates top).map MatchCandidate.targetObjectId
          scores := (closeMatches ops gap candidates top).map MatchCandidate.score }
      else none := by
  have hlen := (ranked_perm MatchCandidate.score
    (candidates.filter fun c => c.sourceObjectId = top.sourceObjectId)).length_eq
  have hhead := head?_ranked.mpr htop
  unfold duplicatesOf closeMatches sortedCandidates
  split
  next hfew =>
    have hclose := List.length_filter_le (isClose ops gap top.score)
      (ranked MatchCandidate.score
        (candidates.filter fun c => c.sourceObjectId = top.sourceObjectId))
    exact (if_neg (by omega)).symm
  next =>
    split
    next hnil =>
      rw [hnil] at hhead
      cases hhead
    next first rest hsorted =>
      rw [hsorted] at hhead
      obtain rfl := Option.some.inj hhead
      rw [hsorted]

theorem mem_detect {dupSet : DuplicateCandidateSet} : dupSet ∈ detect ops gap candidates ↔
    ∃ top, Leading candidates top ∧ 1 < (closeMatches ops gap candidates top).length ∧
      dupSet = {
        sourceObjectId := top.sourceObjectId
        duplicateTargetIds :=
          (closeMatches ops gap candidates top).map MatchCandidate.targetObjectId
        scores := (closeMatches ops gap candidates top).map MatchCandidate.score } := by
  unfold detect
  rw [List.mem_filterMap]
  constructor
  · rintro ⟨⟨s, g⟩, hentry, hset⟩
    obtain ⟨⟨c, hc, rfl⟩, rfl⟩ := mem_bySource.mp hentry
    obtain ⟨top, htop, hsource⟩ := exists_leading hc
    rw [← hsource, duplicatesOf_eq htop] at hset
    split at hset
    next hlen => exact ⟨top, htop, hlen, (Option.some.inj hset).symm⟩
    next => cases hset
  · rintro ⟨top, htop, hlen, rfl⟩
    refine ⟨(top.sourceObjectId, _), mem_bySource.mpr ⟨⟨top, htop.mem, rfl⟩, rfl⟩, ?_⟩
    rw [duplicatesOf_eq htop, if_pos hlen]

/-- Among the close candidates of a source there are several. -/
theorem one_lt_closeMatches (hnodup : candidates.Nodup) {top : MatchCandidate}
    (htop : Leading candidates top) : 1 < (closeMatches ops gap candidates top).length ↔
      ∃ c, Grouped ops gap candidates c ∧ c.sourceObjectId = top.sourceObjectId := by
  have hclose {c : MatchCandidate} : c ∈ closeMatches ops gap candidates top ↔
      CloseToTop ops gap candidates c ∧ c.sourceObjectId = top.sourceObjectId := by
    rw [mem_closeMatches]
    constructor
    · rintro ⟨hc, hsource, hisClose⟩
      exact ⟨(closeToTop_iff htop hsource).mpr ⟨hc, hisClose⟩, hsource⟩
    · rintro ⟨hcloseToTop, hsource⟩
      obtain ⟨hc, hisClose⟩ := (closeToTop_iff htop hsource).mp hcloseToTop
      exact ⟨hc, hsource, hisClose⟩
  constructor
  · intro hlen
    cases hl : closeMatches ops gap candidates top with
    | nil => simp [hl] at hlen
    | cons c rest =>
      cases rest with
      | nil => simp [hl] at hlen
      | cons c' rest =>
        have hnodup' := closeMatches_nodup ops gap hnodup top
        rw [hl] at hnodup'
        have hne : c' ≠ c := fun heq =>
          (List.nodup_cons.mp hnodup').1 (heq ▸ List.mem_cons_self)
        obtain ⟨hc, hsource⟩ := hclose.mp (hl ▸ List.mem_cons_self)
        obtain ⟨hc', hsource'⟩ :=
          hclose.mp (hl ▸ List.mem_cons_of_mem _ List.mem_cons_self)
        exact ⟨c, ⟨hc, c', hc', hsource'.trans hsource.symm, hne⟩, hsource⟩
  · rintro ⟨c, ⟨hc, c', hc', hsource', hne⟩, hsource⟩
    have hmem := hclose.mpr ⟨hc, hsource⟩
    have hmem' := hclose.mpr ⟨hc', hsource'.trans hsource⟩
    have hsub : [c, c'] ⊆ closeMatches ops gap candidates top := by
      rintro x (_ | ⟨_, _ | ⟨_, hx⟩⟩)
      · exact hmem
      · exact hmem'
      · exact absurd hx List.not_mem_nil
    have hpair : [c, c'].Nodup := by simpa using hne.symm
    exact (hpair.subperm hsub).length_le

/-- The targets reported as duplicates of a source are those of its grouped candidates. -/
theorem mem_duplicateTargetIds (hnodup : candidates.Nodup) {s t : String} :
    (∃ dupSet ∈ detect ops gap candidates, dupSet.sourceObjectId = s ∧
        t ∈ dupSet.duplicateTargetIds) ↔
      ∃ c, Grouped ops gap candidates c ∧ c.sourceObjectId = s ∧ c.targetObjectId = t := by
  constructor
  · rintro ⟨dupSet, hset, rfl, ht⟩
    obtain ⟨top, htop, hlen, rfl⟩ := mem_detect.mp hset
    obtain ⟨c, hc, rfl⟩ := List.mem_map.mp ht
    obtain ⟨hmem, hsource, hisClose⟩ := mem_closeMatches.mp hc
    obtain ⟨c₁, ⟨hc₁, c₂, hc₂, hsource₂, hne⟩, hsource₁⟩ := (one_lt_closeMatches hnodup htop).mp hlen
    have hcloseToTop := (closeToTop_iff htop hsource).mpr ⟨hmem, hisClose⟩
    refine ⟨c, ⟨hcloseToTop, ?_⟩, hsource, rfl⟩
    by_cases heq : c₁ = c
    · exact ⟨c₂, hc₂, (hsource₂.trans hsource₁).trans hsource.symm, heq ▸ hne⟩
    · exact ⟨c₁, hc₁, hsource₁.trans hsource.symm, heq⟩
  · rintro ⟨c, hc, rfl, rfl⟩
    obtain ⟨hmem, top, htop, hsource, hisClose⟩ := hc.1
    have hlen := (one_lt_closeMatches hnodup htop).mpr ⟨c, hc, hsource.symm⟩
    have hclose := mem_closeMatches.mpr ⟨hmem, hsource.symm, hisClose⟩
    exact ⟨_, mem_detect.mpr ⟨top, htop, hlen, rfl⟩, hsource, List.mem_map_of_mem hclose⟩

/-- The sources with a duplicate set are those with grouped candidates. -/
theorem exists_detect_iff (hnodup : candidates.Nodup) {s : String} :
    (∃ dupSet ∈ detect ops gap candidates, dupSet.sourceObjectId = s) ↔
      ∃ c, Grouped ops gap candidates c ∧ c.sourceObjectId = s := by
  constructor
  · rintro ⟨dupSet, hset, rfl⟩
    obtain ⟨top, htop, hlen, rfl⟩ := mem_detect.mp hset
    exact (one_lt_closeMatches hnodup htop).mp hlen
  · rintro ⟨c, hc, rfl⟩
    obtain ⟨-, top, htop, hsource, -⟩ := hc.1
    have hlen := (one_lt_closeMatches hnodup htop).mpr ⟨c, hc, hsource.symm⟩
    exact ⟨_, mem_detect.mpr ⟨top, htop, hlen, rfl⟩, hsource⟩

end DuplicateDetector
end ControlFabric.Fabric.Reconciliation
