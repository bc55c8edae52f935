import ControlFabric.Inference.ScopeEnforcer

/-! What the sanitised context does not depend on: two contexts that differ only where the scope
hides are sanitised alike. -/
namespace ControlFabric.Inference
open Lib Py

def AboveCeiling (ceiling : ℕ) (d : JsonDict) : Prop :=
  ∃ level, classificationLevel d = .ok level ∧ ceiling < level

/-- The fields of a classified dict that the filters read. -/
def frameKeys : List String := ["id", "type", "source_id", "target_id", "classification"]

def SameFrame (keep : List String) (d d' : JsonDict) : Prop :=
  ∀ key ∈ keep, Json.field d' key = Json.field d key

/-! Values that differ in redacted fields and in the contents of dicts above the ceiling only, where
the fields to keep stay. -/
mutual

inductive Alike (keep : List String) (ceiling : ℕ) : Json → Json → Prop
  | same (v : Json) : Alike keep ceiling v v
  | arr {l l' : List Json} : AlikeItems keep ceiling l l' → Alike keep ceiling (.arr l) (.arr l')
  | obj {d d' : JsonDict} : AlikeFields keep ceiling d d' → Alike keep ceiling (.obj d) (.obj d')
  | classified {d d' : JsonDict} : AboveCeiling ceiling d → SameFrame keep d d' →
      Alike keep ceiling (.obj d) (.obj d')

inductive AlikeItems (keep : List String) (ceiling : ℕ) : List Json → List Json → Prop
  | nil : AlikeItems keep ceiling [] []
  | cons {v v' : Json} {l l' : List Json} : Alike keep ceiling v v' → AlikeItems keep ceiling l l' →
      AlikeItems keep ceiling (v :: l) (v' :: l')

inductive AlikeFields (keep : List String) (ceiling : ℕ) :
    List (String × Json) → List (String × Json) → Prop
  | nil : AlikeFields keep ceiling [] []
  | redacted {k : String} {v v' : Json} {d d' : List (String × Json)} :
      k ∈ alwaysRedactedFields → AlikeFields keep ceiling d d' →
      AlikeFields keep ceiling ((k, v) :: d) ((k, v') :: d')
  | field {k : String} {v v' : Json} {d d' : List (String × Json)} : Alike keep ceiling v v' →
      AlikeFields keep ceiling d d' → AlikeFields keep ceiling ((k, v) :: d) ((k, v') :: d')

end

/-- One entry of a dict, in the two contexts. -/
def AlikeEntry (keep : List String) (ceiling : ℕ) (p p' : String × Json) : Prop :=
  p.1 = p'.1 ∧ (p.1 ∈ alwaysRedactedFields ∨ Alike keep ceiling p.2 p'.2)

variable {keep : List String} {ceiling : ℕ}

theorem alikeItems_of_forall₂ {l l' : List Json} (h : List.Forall₂ (Alike keep ceiling) l l') :
    AlikeItems keep ceiling l l' := by
  induction h with
  | nil => exact .nil
  | cons hv _ ih => exact .cons hv ih

theorem alikeFields_of_forall₂ {d d' : JsonDict} (h : List.Forall₂ (AlikeEntry keep ceiling) d d') :
    AlikeFields keep ceiling d d' := by
  induction h with
  | nil => exact .nil
  | @cons p p' _ _ hp _ ih =>
    obtain ⟨k, v⟩ := p
    obtain ⟨k', v'⟩ := p'
    obtain ⟨hk, hv⟩ := hp
    obtain rfl : k = k' := hk
    rcases hv with hv | hv
    · exact .redacted hv ih
    · exact .field hv ih

theorem AlikeFields.lookup {key : String} (hkey : key ∉ alwaysRedactedFields) {d d' : JsonDict}
    (h : AlikeFields keep ceiling d d') :
    Option.Rel (Alike keep ceiling) (Json.field d key) (Json.field d' key) := by
  cases h with
  | nil => exact Option.Rel.none
  | @redacted k v v' d d' hk hrest =>
    have hne : k ≠ key := fun he => hkey (he ▸ hk)
    simpa [Json.field, hne] using hrest.lookup hkey
  | @field k v v' d d' hv hrest =>
    by_cases he : k = key
    · simpa [Json.field, he] using Option.Rel.some hv
    · simpa [Json.field, he] using hrest.lookup hkey

theorem AlikeFields.classificationLevel_eq {d d' : JsonDict} (h : AlikeFields keep ceiling d d')
    {level level' : ℕ} (hl : classificationLevel d = .ok level)
    (hl' : classificationLevel d' = .ok level') : level' = level := by
  have hrel := h.lookup (show "classification" ∉ alwaysRedactedFields by decide)
  unfold classificationLevel at hl hl'
  generalize Json.field d "classification" = o at hl hrel
  generalize Json.field d' "classification" = o' at hl' hrel
  cases hrel with
  | none => exact Except.ok.inj (hl'.symm.trans hl)
  | @some v v' hv =>
    cases hv with
    | same => exact Except.ok.inj (hl'.symm.trans hl)
    | arr => cases hl
    | obj => cases hl
    | classified => cases hl

theorem SameFrame.classificationLevel_eq (hkeep : "classification" ∈ keep) {d d' : JsonDict}
    (h : SameFrame keep d d') : classificationLevel d' = classificationLevel d := by
  unfold classificationLevel
  rw [h "classification" hkeep]

theorem redactIfAbove_above {d : JsonDict} {r : Json} (h : AboveCeiling ceiling d)
    (hr : redactIfAbove ceiling (.obj d) = .ok r) : r = redactedMarker := by
  obtain ⟨level, hlevel, hlt⟩ := h
  simp only [redactIfAbove, hlevel, bind, Except.bind, if_pos hlt, pure, Except.pure] at hr
  exact (Except.ok.inj hr).symm

/-! Alike values are the same once redacted and stripped. -/
mutual

theorem Alike.strip_eq (hkeep : "classification" ∈ keep) {v v' r r' : Json}
    (h : Alike keep ceiling v v') (hr : redactIfAbove ceiling v = .ok r)
    (hr' : redactIfAbove ceiling v' = .ok r') :
    strip r = strip r' := by
  cases h with
  | same =>
    obtain rfl := Except.ok.inj (hr.symm.trans hr')
    rfl
  | arr hitems =>
    simp only [redactIfAbove, bind_eq_ok_iff, pure, Except.pure, Except.ok.injEq] at hr hr'
    obtain ⟨out, hout, rfl⟩ := hr
    obtain ⟨out', hout', rfl⟩ := hr'
    simp only [strip, hitems.strip_eq hkeep hout hout']
  | obj hfields =>
    simp only [redactIfAbove, bind_eq_ok_iff] at hr hr'
    obtain ⟨level, hlevel, hr⟩ := hr
    obtain ⟨level', hlevel', hr'⟩ := hr'
    obtain rfl := hfields.classificationLevel_eq hlevel hlevel'
    split at hr
    next hlt =>
      rw [if_pos hlt] at hr'
      rw [Except.ok.inj (hr.symm.trans hr')]
    next hlt =>
      rw [if_neg hlt] at hr'
      obtain ⟨out, hout, ho⟩ := bind_eq_ok_iff.mp hr
      obtain ⟨out', hout', ho'⟩ := bind_eq_ok_iff.mp hr'
      obtain rfl := Except.ok.inj ho
      obtain rfl := Except.ok.inj ho'
      simp only [strip, hfields.strip_eq hkeep hout hout']
  | classified habove hframe =>
    have habove' := habove
    rw [AboveCeiling, ← hframe.classificationLevel_eq hkeep] at habove'
    rw [redactIfAbove_above habove hr, redactIfAbove_above habove' hr']
termination_by sizeOf v

theorem AlikeItems.strip_eq (hkeep : "classification" ∈ keep) {l l' r r' : List Json}
    (h : AlikeItems keep ceiling l l') (hr : redactItems ceiling l = .ok r)
    (hr' : redactItems ceiling l' = .ok r') :
    stripItems r = stripItems r' := by
  cases h with
  | nil => rw [Except.ok.inj (hr.symm.trans hr')]
  | cons hv hrest =>
    simp only [redactItems, bind_eq_ok_iff, pure, Except.pure, Except.ok.injEq] at hr hr'
    obtain ⟨x, hx, out, hout, rfl⟩ := hr
    obtain ⟨x', hx', out', hout', rfl⟩ := hr'
    simp only [stripItems, hv.strip_eq hkeep hx hx', hrest.strip_eq hkeep hout hout']
termination_by sizeOf l

theorem AlikeFields.strip_eq (hkeep : "classification" ∈ keep) {d d' r r' : JsonDict}
    (h : AlikeFields keep ceiling d d') (hr : redactFields ceiling d = .ok r)
    (hr' : redactFields ceiling d' = .ok r') :
    stripFields r = stripFields r' := by
  cases h with
  | nil => rw [Except.ok.inj (hr.symm.trans hr')]
  | redacted hk hrest =>
    simp only [redactFields, bind_eq_ok_iff, pure, Except.pure, Except.ok.injEq] at hr hr'
    obtain ⟨x, hx, out, hout, rfl⟩ := hr
    obtain ⟨x', hx', out', hout', rfl⟩ := hr'
    simp only [stripFields, if_pos hk, hrest.strip_eq hkeep hout hout']
  | field hv hrest =>
    simp only [redactFields, bind_eq_ok_iff, pure, Except.pure, Except.ok.injEq] at hr hr'
    obtain ⟨x, hx, out, hout, rfl⟩ := hr
    obtain ⟨x', hx', out', hout', rfl⟩ := hr'
    simp only [stripFields, hv.strip_eq hkeep hx hx', hrest.strip_eq hkeep hout hout']
termination_by sizeOf d

end

/-! ### The filters on alike values -/

theorem isIn_eq {names : List String} {o o' : Option Json} (h : Option.Rel (Alike keep ceiling) o o')
    {b b' : Bool} (hb : isIn names o = .ok b) (hb' : isIn names o' = .ok b') : b' = b := by
  cases h with
  | none => exact Except.ok.inj (hb'.symm.trans hb)
  | some hv =>
    cases hv with
    | same => exact Except.ok.inj (hb'.symm.trans hb)
    | arr => cases hb
    | obj => cases hb
    | classified => cases hb

theorem Alike.frame {d d' : JsonDict} (h : Alike frameKeys ceiling (.obj d) (.obj d')) {key : String}
    (hkey : key ∈ frameKeys) :
    Option.Rel (Alike frameKeys ceiling) (Json.field d key) (Json.field d' key) := by
  have hself (o : Option Json) : Option.Rel (Alike frameKeys ceiling) o o := by
    cases o with
    | none => exact .none
    | some v => exact .some (.same v)
  have hplain : ∀ key ∈ frameKeys, key ∉ alwaysRedactedFields := by decide
  cases h with
  | same => exact hself _
  | obj hfields => exact hfields.lookup (hplain key hkey)
  | classified _ hframe =>
    rw [hframe key hkey]
    exact hself _

namespace ScopeEnforcer
variable (uc : Unicode) (e : ScopeEnforcer)

theorem approvesObject_eq {v v' : Json} (h : Alike frameKeys e.ceilingLevel v v') {b b' : Bool}
    (hb : e.approvesObject v = .ok b) (hb' : e.approvesObject v' = .ok b') : b' = b := by
  have hdict {d d' : JsonDict} (hd : Alike frameKeys e.ceilingLevel (.obj d) (.obj d'))
      (hb : e.approvesObject (.obj d) = .ok b) (hb' : e.approvesObject (.obj d') = .ok b') :
      b' = b := isIn_eq (hd.frame (by decide)) hb hb'
  cases h with
  | same => exact Except.ok.inj (hb'.symm.trans hb)
  | arr => exact (Except.ok.inj hb').symm.trans (Except.ok.inj hb)
  | obj hfields => exact hdict (.obj hfields) hb hb'
  | classified habove hframe => exact hdict (.classified habove hframe) hb hb'

theorem approvesRelationship_eq {v v' : Json} (h : Alike frameKeys e.ceilingLevel v v') {b b' : Bool}
    (hb : e.approvesRelationship v = .ok b) (hb' : e.approvesRelationship v' = .ok b') :
    b' = b := by
  have hdict {d d' : JsonDict} (hd : Alike frameKeys e.ceilingLevel (.obj d) (.obj d'))
      (hb : e.approvesRelationship (.obj d) = .ok b)
      (hb' : e.approvesRelationship (.obj d') = .ok b') : b' = b := by
    simp only [approvesRelationship, bind_eq_ok_iff] at hb hb'
    obtain ⟨t, ht, hb⟩ := hb
    obtain ⟨t', ht', hb'⟩ := hb'
    obtain rfl := isIn_eq (hd.frame (by decide)) ht ht'
    cases t' with
    | false => exact Except.ok.inj (hb'.symm.trans hb)
    | true =>
      simp only [if_true, bind_eq_ok_iff] at hb hb'
      obtain ⟨s, hs, hb⟩ := hb
      obtain ⟨s', hs', hb'⟩ := hb'
      obtain rfl := isIn_eq (hd.frame (by decide)) hs hs'
      cases s' with
      | false => exact Except.ok.inj (hb'.symm.trans hb)
      | true => exact isIn_eq (hd.frame (by decide)) hb hb'
  cases h with
  | same => exact Except.ok.inj (hb'.symm.trans hb)
  | arr => exact (Except.ok.inj hb').symm.trans (Except.ok.inj hb)
  | obj hfields => exact hdict (.obj hfields) hb hb'
  | classified habove hframe => exact hdict (.classified habove hframe) hb hb'

/-! ### Contexts that differ where the scope hides -/

/-- A dict whose `id` is not approved. -/
def HidesObject (v : Json) : Prop :=
  ∃ d, v = .obj d ∧ ∀ id ∈ e.scope.allowedControlObjectIds, Json.field d "id" ≠ some (.str id)

/-- A dict with an unapproved type or endpoint. -/
def HidesRelationship (v : Json) : Prop :=
  ∃ d, v = .obj d ∧
    ((∀ t ∈ e.scope.allowedRelationshipTypes, Json.field d "type" ≠ some (.str t)) ∨
      (∀ id ∈ e.scope.allowedControlObjectIds, Json.field d "source_id" ≠ some (.str id)) ∨
      ∀ id ∈ e.scope.allowedControlObjectIds, Json.field d "target_id" ≠ some (.str id))

def HidesLevel (p : String × Json) : Prop := e.scope.maxGraphDepth < getNodeDepth uc p.1

def HidesPlane (p : String × Json) : Prop := p.1 ∉ e.scope.allowedOperationalPlanes

def ListsAlike (hidden : Json → Prop) (v v' : Json) : Prop :=
  ∃ l l', v = .arr l ∧ v' = .arr l' ∧ UpTo hidden (Alike frameKeys e.ceilingLevel) l l'

/-- Dicts that differ in hidden entries, or that are above the ceiling themselves, going by the
classification among the entries that count as their own. -/
def DictsAlike (own : JsonDict → JsonDict) (hidden : String × Json → Prop) (v v' : Json) : Prop :=
  ∃ d d', v = .obj d ∧ v' = .obj d' ∧
    (AboveCeiling e.ceilingLevel (own d) ∧ SameFrame frameKeys d d' ∨
      UpTo hidden (AlikeEntry frameKeys e.ceilingLevel) d d')

/-- Two contexts that agree but for what the scope hides: unapproved objects, relationships, levels
and planes, other top-level keys, redacted fields, and the contents of dicts above the ceiling.
Which entries of `plane_data` classify `plane_data` itself is a parameter. -/
structure Interchangeable (own : JsonDict → JsonDict) (c c' : JsonDict) : Prop where
  controlObjects : Option.Rel (e.ListsAlike e.HidesObject)
    (Json.field c "control_objects") (Json.field c' "control_objects")
  relationships : Option.Rel (e.ListsAlike e.HidesRelationship)
    (Json.field c "relationships") (Json.field c' "relationships")
  graphData : Option.Rel (e.DictsAlike id (e.HidesLevel uc))
    (Json.field c "graph_data") (Json.field c' "graph_data")
  planeData : Option.Rel (e.DictsAlike own e.HidesPlane)
    (Json.field c "plane_data") (Json.field c' "plane_data")

theorem isIn_of_ne {names : List String} {o : Option Json} (h : ∀ s ∈ names, o ≠ some (.str s)) :
    isIn names o ≠ .ok true := by
  cases o with
  | none => simp [isIn]
  | some v =>
    cases v with
    | str s =>
      have hs : s ∉ names := fun hmem => h s hmem rfl
      simp [isIn, hs]
    | _ => simp [isIn]

theorem approvesObject_hidden {v : Json} (h : e.HidesObject v) :
    e.approvesObject v ≠ .ok true := by
  obtain ⟨d, rfl, hid⟩ := h
  exact isIn_of_ne hid

theorem approvesRelationship_hidden {v : Json} (h : e.HidesRelationship v) :
    e.approvesRelationship v ≠ .ok true := by
  obtain ⟨d, rfl, h⟩ := h
  intro happroved
  simp only [approvesRelationship, bind_eq_ok_iff] at happroved
  obtain ⟨t, ht, happroved⟩ := happroved
  cases t with
  | false => exact absurd happroved (by simp [pure, Except.pure])
  | true =>
    simp only [if_true, bind_eq_ok_iff] at happroved
    obtain ⟨s, hs, happroved⟩ := happroved
    cases s with
    | false => exact absurd happroved (by simp [pure, Except.pure])
    | true =>
      rcases h with htype | hsource | htarget
      · exact isIn_of_ne htype ht
      · exact isIn_of_ne hsource hs
      · exact isIn_of_ne htarget happroved

/-- Alike lists stay alike behind a filter that decides alike and drops what is hidden. -/
theorem filterE_alike {hidden : Json → Prop} {p : Json → Except PyError Bool}
    (hhidden : ∀ v, hidden v → p v ≠ .ok true)
    (hp : ∀ {v v' : Json}, Alike frameKeys e.ceilingLevel v v' → ∀ {b b' : Bool}, p v = .ok b →
      p v' = .ok b' → b' = b) {l l' k k' : List Json}
    (h : UpTo hidden (Alike frameKeys e.ceilingLevel) l l') (hk : filterE p l = .ok k)
    (hk' : filterE p l' = .ok k') : Alike frameKeys e.ceilingLevel (.arr k) (.arr k') := by
  obtain ⟨hall, rfl⟩ := filterE_eq_ok.mp hk
  obtain ⟨hall', rfl⟩ := filterE_eq_ok.mp hk'
  apply Alike.arr
  apply alikeItems_of_forall₂
  apply h.filter
  · intro v hv
    have hne := hhidden v hv
    cases hpv : p v with
    | error => rfl
    | ok b => cases b with
      | false => rfl
      | true => exact absurd hpv hne
  · intro v hv v' hv' hvv
    obtain ⟨b, hb⟩ := hall v hv
    obtain ⟨b', hb'⟩ := hall' v' hv'
    rw [hb, hb', hp hvv hb hb']

theorem iterate_filter_alike {hidden : Json → Prop} {p : Json → Except PyError Bool}
    (hhidden : ∀ v, hidden v → p v ≠ .ok true)
    (hp : ∀ {v v' : Json}, Alike frameKeys e.ceilingLevel v v' → ∀ {b b' : Bool}, p v = .ok b →
      p v' = .ok b' → b' = b) {v v' w w' : Json} (h : e.ListsAlike hidden v v')
    (hw : (do return Json.arr (← filterE p (← iterate v)) : Except PyError Json) = .ok w)
    (hw' : (do return Json.arr (← filterE p (← iterate v')) : Except PyError Json) = .ok w') :
    Alike frameKeys e.ceilingLevel w w' := by
  obtain ⟨l, l', rfl, rfl, hl⟩ := h
  simp only [iterate, bind_eq_ok_iff, pure, Except.pure, Except.ok.injEq, exists_eq_left'] at hw hw'
  obtain ⟨k, hk, rfl⟩ := hw
  obtain ⟨k', hk', rfl⟩ := hw'
  exact e.filterE_alike hhidden hp hl hk hk'

/-- Alike dicts stay alike behind a filter by key that keeps the entries that count as their own. -/
theorem filter_alike {own : JsonDict → JsonDict} {hidden : String × Json → Prop}
    (p : String → Bool) (hhidden : ∀ q, hidden q → p q.1 = false)
    (hown : ∀ d, AboveCeiling e.ceilingLevel (own d) →
      AboveCeiling e.ceilingLevel (d.filter fun q => p q.1))
    {v v' w w' : Json} (h : e.DictsAlike own hidden v v')
    (hw : (do return Json.obj ((← itemsOf v).filter fun q => p q.1) : Except PyError Json) = .ok w)
    (hw' : (do return Json.obj ((← itemsOf v').filter fun q => p q.1) : Except PyError Json) =
      .ok w') : Alike frameKeys e.ceilingLevel w w' := by
  obtain ⟨d, d', rfl, rfl, hd⟩ := h
  simp only [itemsOf, bind_eq_ok_iff, pure, Except.pure, Except.ok.injEq, exists_eq_left'] at hw hw'
  subst hw hw'
  rcases hd with ⟨habove, hframe⟩ | hd
  · apply Alike.classified (hown d habove)
    intro key hkey
    rw [field_filter, field_filter, hframe key hkey]
  · apply Alike.obj
    apply alikeFields_of_forall₂
    apply hd.filter hhidden
    rintro q - q' - ⟨hkey, -⟩
    rw [hkey]

/-- A section is the same in both contexts where its filter leaves alike values behind. -/
theorem sectionYields_eq {keep : List String} (hkeep : "classification" ∈ keep)
    {R : Json → Json → Prop} {f : Json → Except PyError Json} {o o' y y' : Option Json}
    (hf : ∀ v ∈ o, ∀ v' ∈ o', R v v' → ∀ w w' r, f v = .ok w → f v' = .ok w' →
      redactIfAbove e.ceilingLevel w = .ok r → Alike keep e.ceilingLevel w w')
    (h : Option.Rel R o o') (hy : e.SectionYields f o y) (hy' : e.SectionYields f o' y') :
    y' = y := by
  cases h with
  | none => exact Eq.trans hy' (Eq.symm hy)
  | some hv =>
    obtain ⟨x, hx, rfl⟩ := hy
    obtain ⟨x', hx', rfl⟩ := hy'
    obtain ⟨w, r, hw, hr, rfl⟩ := e.sanitise_eq_ok.mp hx
    obtain ⟨w', r', hw', hr', rfl⟩ := e.sanitise_eq_ok.mp hx'
    rw [(hf _ rfl _ rfl hv w w' r hw hw' hr).strip_eq hkeep hr hr']

/-- The classification among the entries of approved planes. -/
def planeOwn (d : JsonDict) : JsonDict := d.filter e.inApprovedPlane

theorem aboveCeiling_withinDepth (d : JsonDict) (h : AboveCeiling e.ceilingLevel d) :
    AboveCeiling e.ceilingLevel (d.filter (e.withinDepth uc)) := by
  have hdepth : getNodeDepth uc "classification" = 1 := rfl
  have hkeep : decide (getNodeDepth uc "classification" ≤ e.scope.maxGraphDepth) = true := by
    rw [hdepth]
    exact decide_eq_true e.scope.depth_valid.1
  have hfield := field_filter (fun k => getNodeDepth uc k ≤ e.scope.maxGraphDepth) d
    "classification"
  rw [hkeep, if_pos rfl] at hfield
  obtain ⟨level, hlevel, hlt⟩ := h
  refine ⟨level, ?_, hlt⟩
  unfold classificationLevel at hlevel ⊢
  rw [← hfield] at hlevel
  exact hlevel

section Filters
variable {v v' w w' : Json}

theorem filterControlObjects_alike (h : e.ListsAlike e.HidesObject v v')
    (hw : e.filterControlObjects v = .ok w) (hw' : e.filterControlObjects v' = .ok w') :
    Alike frameKeys e.ceilingLevel w w' :=
  e.iterate_filter_alike (fun _ => e.approvesObject_hidden) e.approvesObject_eq h hw hw'

theorem filterRelationships_alike (h : e.ListsAlike e.HidesRelationship v v')
    (hw : e.filterRelationships v = .ok w) (hw' : e.filterRelationships v' = .ok w') :
    Alike frameKeys e.ceilingLevel w w' :=
  e.iterate_filter_alike (fun _ => e.approvesRelationship_hidden) e.approvesRelationship_eq h hw hw'

theorem enforceGraphDepth_alike (h : e.DictsAlike id (e.HidesLevel uc) v v')
    (hw : e.enforceGraphDepth uc v = .ok w) (hw' : e.enforceGraphDepth uc v' = .ok w') :
    Alike frameKeys e.ceilingLevel w w' :=
  e.filter_alike (fun k => getNodeDepth uc k ≤ e.scope.maxGraphDepth)
    (fun _ hq => decide_eq_false (not_le.mpr hq)) (e.aboveCeiling_withinDepth uc) h hw hw'

theorem filterPlanes_alike (h : e.DictsAlike e.planeOwn e.HidesPlane v v')
    (hw : e.filterPlanes v = .ok w) (hw' : e.filterPlanes v' = .ok w') :
    Alike frameKeys e.ceilingLevel w w' :=
  e.filter_alike (fun k => k ∈ e.scope.allowedOperationalPlanes)
    (fun _ hq => decide_eq_false hq) (fun _ habove => habove) h hw hw'

end Filters

/-- Two interchangeable contexts that are both sanitised are sanitised to the same context. -/
theorem enforce_interchangeable {c c' r r' : JsonDict}
    (h : e.Interchangeable uc e.planeOwn c c') (hr : e.enforce uc c = .ok r)
    (hr' : e.enforce uc c' = .ok r') : r' = r := by
  obtain ⟨o, rel, g, p, ho, hrel, hg, hp, rfl⟩ := (e.enforce_eq_ok uc).mp hr
  obtain ⟨o', rel', g', p', ho', hrel', hg', hp', rfl⟩ := (e.enforce_eq_ok uc).mp hr'
  have hkeep : "classification" ∈ frameKeys := by decide
  have heo : o' = o := e.sectionYields_eq hkeep (f := e.filterControlObjects)
    (fun _ _ _ _ hv _ _ _ hw hw' _ => e.filterControlObjects_alike hv hw hw') h.controlObjects ho ho'
  have her : rel' = rel := e.sectionYields_eq hkeep (f := e.filterRelationships)
    (fun _ _ _ _ hv _ _ _ hw hw' _ => e.filterRelationships_alike hv hw hw')
    h.relationships hrel hrel'
  have heg : g' = g := e.sectionYields_eq hkeep (f := e.enforceGraphDepth uc)
    (fun _ _ _ _ hv _ _ _ hw hw' _ => e.enforceGraphDepth_alike uc hv hw hw') h.graphData hg hg'
  have hep : p' = p := e.sectionYields_eq hkeep (f := e.filterPlanes)
    (fun _ _ _ _ hv _ _ _ hw hw' _ => e.filterPlanes_alike hv hw hw') h.planeData hp hp'
  rw [heo, her, heg, hep]

end ScopeEnforcer
/-! ### JSON-shaped contexts -/

def StringAt (d : JsonDict) (key : String) : Prop := ∀ v ∈ Json.field d key, ∃ s, v = .str s

/-! Every classification at any depth is a string. -/
mutual

def StringClassified : Json → Prop
  | .arr items => StringClassifiedItems items
  | .obj fields => StringAt fields "classification" ∧ StringClassifiedFields fields
  | _ => True

def StringClassifiedItems : List Json → Prop
  | [] => True
  | v :: rest => StringClassified v ∧ StringClassifiedItems rest

def StringClassifiedFields : List (String × Json) → Prop
  | [] => True
  | (_, v) :: rest => StringClassified v ∧ StringClassifiedFields rest

end

theorem StringAt.classificationLevel {d : JsonDict} (h : StringAt d "classification") :
    ∃ level, classificationLevel d = .ok level := by
  unfold Inference.classificationLevel
  cases hv : Json.field d "classification" with
  | none => exact ⟨_, rfl⟩
  | some v =>
    obtain ⟨s, rfl⟩ := h v hv
    exact ⟨_, rfl⟩

mutual

theorem StringClassified.readable {ceiling : ℕ} {v : Json} (h : StringClassified v) :
    Readable ceiling v := by
  cases v with
  | arr items => exact StringClassifiedItems.readable h
  | obj fields =>
    obtain ⟨level, hlevel⟩ := h.1.classificationLevel
    exact ⟨level, hlevel, fun _ => StringClassifiedFields.readable h.2⟩
  | _ => trivial

theorem StringClassifiedItems.readable {ceiling : ℕ} {l : List Json}
    (h : StringClassifiedItems l) : ReadableItems ceiling l := by
  cases l with
  | nil => trivial
  | cons v l => exact ⟨StringClassified.readable h.1, StringClassifiedItems.readable h.2⟩

theorem StringClassifiedFields.readable {ceiling : ℕ} {d : JsonDict}
    (h : StringClassifiedFields d) : ReadableFields ceiling d := by
  cases d with
  | nil => trivial
  | cons p d => exact ⟨StringClassified.readable h.1, StringClassifiedFields.readable h.2⟩

end

/-- Two lists of dicts and two dicts, whose identifiers, relationship keys and classifications are
strings. -/
structure JsonShaped (c : JsonDict) : Prop where
  controlObjects : ∀ v ∈ Json.field c "control_objects", ∃ l, v = .arr l ∧
    ∀ x ∈ l, StringClassified x ∧ ∃ d, x = .obj d ∧ StringAt d "id"
  relationships : ∀ v ∈ Json.field c "relationships", ∃ l, v = .arr l ∧
    ∀ x ∈ l, StringClassified x ∧ ∃ d, x = .obj d ∧ StringAt d "type" ∧
      StringAt d "source_id" ∧ StringAt d "target_id"
  graphData : ∀ v ∈ Json.field c "graph_data", ∃ d, v = .obj d ∧ StringClassified (.obj d)
  planeData : ∀ v ∈ Json.field c "plane_data", ∃ d, v = .obj d ∧ StringClassified (.obj d)

theorem StringAt.isIn {d : JsonDict} {key : String} (h : StringAt d key) (names : List String) :
    ∃ b, Inference.isIn names (Json.field d key) = .ok b := by
  cases hv : Json.field d key with
  | none => exact ⟨_, rfl⟩
  | some v =>
    obtain ⟨s, rfl⟩ := h v hv
    exact ⟨_, rfl⟩

theorem StringClassified.filter {d : JsonDict} (p : String → Bool) (h : StringClassified (.obj d))
    (ceiling : ℕ) : Readable ceiling (.obj (d.filter fun q => p q.1)) := by
  obtain ⟨hstring, hfields⟩ := h
  have hkept : StringAt (d.filter fun q => p q.1) "classification" := by
    intro v hv
    rw [field_filter] at hv
    split at hv
    · exact hstring v hv
    · cases hv
  obtain ⟨level, hlevel⟩ := hkept.classificationLevel
  refine ⟨level, hlevel, fun _ => readableFields_iff.mpr fun q hq => ?_⟩
  exact readableFields_iff.mp (StringClassifiedFields.readable hfields) q
    (List.mem_of_mem_filter hq)

namespace ScopeEnforcer
variable (uc : Unicode) (e : ScopeEnforcer)

theorem approvesRelationship_returns {d : JsonDict} (htype : StringAt d "type")
    (hsource : StringAt d "source_id") (htarget : StringAt d "target_id") :
    ∃ b, e.approvesRelationship (.obj d) = .ok b := by
  obtain ⟨t, ht⟩ := htype.isIn e.scope.allowedRelationshipTypes
  obtain ⟨s, hs⟩ := hsource.isIn e.scope.allowedControlObjectIds
  simp only [approvesRelationship, ht, hs, bind, Except.bind]
  cases t with
  | false => exact ⟨_, rfl⟩
  | true => cases s with
    | false => exact ⟨_, rfl⟩
    | true => exact htarget.isIn _

theorem enforceable_of_jsonShaped {c : JsonDict} (h : JsonShaped c) : e.Enforceable uc c where
  controlObjects := by
    intro v hv
    obtain ⟨l, rfl, hl⟩ := h.controlObjects v hv
    refine ⟨l, rfl, fun x hx => ?_⟩
    obtain ⟨hclass, d, rfl, hid⟩ := hl x hx
    obtain ⟨b, hb⟩ := hid.isIn e.scope.allowedControlObjectIds
    exact ⟨b, hb, fun _ => hclass.readable⟩
  relationships := by
    intro v hv
    obtain ⟨l, rfl, hl⟩ := h.relationships v hv
    refine ⟨l, rfl, fun x hx => ?_⟩
    obtain ⟨hclass, d, rfl, htype, hsource, htarget⟩ := hl x hx
    obtain ⟨b, hb⟩ := e.approvesRelationship_returns htype hsource htarget
    exact ⟨b, hb, fun _ => hclass.readable⟩
  graphData := by
    intro v hv
    obtain ⟨d, rfl, hd⟩ := h.graphData v hv
    exact ⟨d, rfl, hd.filter (fun k => getNodeDepth uc k ≤ e.scope.maxGraphDepth) _⟩
  planeData := by
    intro v hv
    obtain ⟨d, rfl, hd⟩ := h.planeData v hv
    exact ⟨d, rfl, hd.filter (fun k => k ∈ e.scope.allowedOperationalPlanes) _⟩

/-- Whatever the scope, JSON-shaped contexts that differ only where it hides are sanitised to the
same context. -/
theorem enforce_noninterference {c c' : JsonDict} (h : JsonShaped c) (h' : JsonShaped c')
    (hcc : e.Interchangeable uc e.planeOwn c c') :
    ∃ sanitised, e.enforce uc c = .ok sanitised ∧ e.enforce uc c' = .ok sanitised := by
  obtain ⟨r, hr⟩ := (e.enforce_returns_iff uc).mpr (e.enforceable_of_jsonShaped uc h)
  obtain ⟨r', hr'⟩ := (e.enforce_returns_iff uc).mpr (e.enforceable_of_jsonShaped uc h')
  exact ⟨r, hr, e.enforce_interchangeable uc hcc hr hr' ▸ hr'⟩

end ScopeEnforcer

/-- Two objects in the risk plane, up to internal data. -/
def riskScope : ScopeEnforcer :=
  ⟨⟨["obj-1", "obj-2"], ["risk"], 2, ["mitigates"], "internal", "", by decide⟩⟩

/-- A context with a note in every place the scope hides. -/
def noted (note : ℤ) : JsonDict :=
  [("control_objects", .arr [.obj [("id", .str "obj-1"), ("credentials", .int note)],
      .obj [("id", .str "obj-2"), ("classification", .str "restricted"), ("finding", .int note)],
      .obj [("id", .str "obj-3"), ("finding", .int note)]]),
    ("graph_data", .obj [("level_3_x", .int note), ("level_1_y", .null)]),
    ("plane_data", .obj [("risk", .null), ("financial", .int note)]),
    ("trace", .int note)]

theorem noted_jsonShaped (note : ℤ) : JsonShaped (noted note) := by
  constructor <;>
    simp [noted, Json.field, StringAt, StringClassified, StringClassifiedFields]

theorem noted_interchangeable (note note' : ℤ) : riskScope.Interchangeable .ascii riskScope.planeOwn
    (noted note) (noted note') where
  controlObjects := by
    apply Option.Rel.some
    refine ⟨_, _, rfl, rfl, ?_⟩
    apply UpTo.both
    · exact .obj (.field (.same _) (.redacted (by decide) .nil))
    apply UpTo.both
    · exact .classified ⟨3, rfl, by decide⟩ (by simp [SameFrame, frameKeys, Json.field])
    have hhidden (n : ℤ) : riskScope.HidesObject (.obj [("id", .str "obj-3"), ("finding", .int n)]) :=
      ⟨_, rfl, by simp [riskScope, Json.field]⟩
    exact .left (hhidden note) (.right (hhidden note') .nil)
  relationships := Option.Rel.none
  graphData := by
    apply Option.Rel.some
    refine ⟨_, _, rfl, rfl, Or.inr ?_⟩
    have hhidden (n : ℤ) : riskScope.HidesLevel .ascii ("level_3_x", .int n) := by
      show (2 : ℤ) < getNodeDepth .ascii "level_3_x"
      decide
    exact .left (hhidden note) (.right (hhidden note') (.both ⟨rfl, Or.inr (.same _)⟩ .nil))
  planeData := by
    apply Option.Rel.some
    refine ⟨_, _, rfl, rfl, Or.inr ?_⟩
    have hhidden (n : ℤ) : riskScope.HidesPlane ("financial", .int n) := by
      show "financial" ∉ ["risk"]
      decide
    exact .both ⟨rfl, Or.inr (.same _)⟩ (.left (hhidden note) (.right (hhidden note') .nil))

theorem enforce_noninterference_noted :
    ∃ sanitised, riskScope.enforce .ascii (noted 1) = .ok sanitised ∧
      riskScope.enforce .ascii (noted 2) = .ok sanitised :=
  riskScope.enforce_noninterference .ascii (noted_jsonShaped 1) (noted_jsonShaped 2)
    (noted_interchangeable 1 2)

/-- A `plane_data` that is classified itself. -/
def classifiedPlanes (note : ℤ) : JsonDict :=
  [("plane_data", .obj [("classification", .str "top_secret"), ("risk", .int note)])]

/-- The plane filter drops the classification of `plane_data` before the ceiling pass reads it. -/
theorem enforce_classifiedPlanes_leaks :
    ¬ ∀ (uc : Unicode) (e : ScopeEnforcer) (c c' : JsonDict), JsonShaped c → JsonShaped c' →
      e.Interchangeable uc id c c' →
      ∃ sanitised, e.enforce uc c = .ok sanitised ∧ e.enforce uc c' = .ok sanitised := by
  intro h
  have hshaped (n : ℤ) : JsonShaped (classifiedPlanes n) := by
    constructor <;>
      simp [classifiedPlanes, Json.field, StringAt, StringClassified, StringClassifiedFields]
  have hinter : riskScope.Interchangeable .ascii id (classifiedPlanes 1) (classifiedPlanes 2) := {
    controlObjects := Option.Rel.none
    relationships := Option.Rel.none
    graphData := Option.Rel.none
    planeData := by
      apply Option.Rel.some
      exact ⟨_, _, rfl, rfl, Or.inl ⟨⟨4, rfl, by decide⟩, by simp [SameFrame, frameKeys, Json.field]⟩⟩ }
  obtain ⟨r, h1, h2⟩ := h .ascii riskScope _ _ (hshaped 1) (hshaped 2) hinter
  have hshown (n : ℤ) : (riskScope.enforce .ascii (classifiedPlanes n)).map
      (fun d => Json.field d "plane_data") = .ok (some (.obj [("risk", .int n)])) := rfl
  have hone := hshown 1
  rw [h1, ← h2, hshown 2] at hone
  simp at hone

end ControlFabric.Inference
