import ControlFabric.Inference.Noninterference

/-! What unapproved objects change in the result of the enforcer: only the top-level list is filtered
by object id, so everywhere else the filters let through, the ceiling pass comes to an object whatever
its id, and makes the sanitised context of it or raises over it. -/
namespace ControlFabric.Inference
open Lib Py

/-! Values that differ only inside dicts with an `id` outside the names, the ids being kept. -/
mutual

inductive DiffersIn (ids : List String) : Json → Json → Prop
  | same (v : Json) : DiffersIn ids v v
  | arr {l l' : List Json} : DiffersInItems ids l l' → DiffersIn ids (.arr l) (.arr l')
  | obj {d d' : JsonDict} : DiffersInFields ids d d' → DiffersIn ids (.obj d) (.obj d')
  | object {d d' : JsonDict} {id : Json} : Json.field d "id" = some id →
      Json.field d' "id" = some id → isIn ids (some id) = .ok false →
      DiffersIn ids (.obj d) (.obj d')

inductive DiffersInItems (ids : List String) : List Json → List Json → Prop
  | nil : DiffersInItems ids [] []
  | cons {v v' : Json} {l l' : List Json} : DiffersIn ids v v' → DiffersInItems ids l l' →
      DiffersInItems ids (v :: l) (v' :: l')

inductive DiffersInFields (ids : List String) :
    List (String × Json) → List (String × Json) → Prop
  | nil : DiffersInFields ids [] []
  | cons {k : String} {v v' : Json} {d d' : List (String × Json)} : DiffersIn ids v v' →
      DiffersInFields ids d d' → DiffersInFields ids ((k, v) :: d) ((k, v') :: d')

end

/-- The ceiling pass comes to a dict with an unapproved `id`: through lists, and through dicts that are
not above the ceiling, past nothing that it raises on. -/
inductive Reaches (ids : List String) (ceiling : ℕ) : Json → Prop
  | object {d : JsonDict} {id : Json} : Json.field d "id" = some id →
      isIn ids (some id) = .ok false → Reaches ids ceiling (.obj d)
  | item {pre post : List Json} {v : Json} : ReadableItems ceiling pre → Reaches ids ceiling v →
      Reaches ids ceiling (.arr (pre ++ v :: post))
  | field {pre post : JsonDict} {k : String} {v : Json} {level : ℕ} :
      classificationLevel (pre ++ (k, v) :: post) = .ok level → level ≤ ceiling →
      ReadableFields ceiling pre → Reaches ids ceiling v →
      Reaches ids ceiling (.obj (pre ++ (k, v) :: post))

/-- Likewise in one of the fields of a dict. -/
inductive ReachesBelow (ids : List String) (ceiling : ℕ) : JsonDict → Prop
  | field {pre post : JsonDict} {k : String} {v : Json} {level : ℕ} :
      classificationLevel (pre ++ (k, v) :: post) = .ok level → level ≤ ceiling →
      ReadableFields ceiling pre → Reaches ids ceiling v →
      ReachesBelow ids ceiling (pre ++ (k, v) :: post)

variable {ids : List String} {ceiling : ℕ}

theorem DiffersInItems.refl (l : List Json) : DiffersInItems ids l l := by
  induction l with
  | nil => exact .nil
  | cons v l ih => exact .cons (.same v) ih

theorem DiffersInFields.refl (d : JsonDict) : DiffersInFields ids d d := by
  induction d with
  | nil => exact .nil
  | cons p d ih => exact .cons (.same p.2) ih

theorem DiffersInItems.at {v v' : Json} (h : DiffersIn ids v v') (pre post : List Json) :
    DiffersInItems ids (pre ++ v :: post) (pre ++ v' :: post) := by
  induction pre with
  | nil => exact .cons h (.refl post)
  | cons w pre ih => exact .cons (.same w) ih

theorem DiffersInFields.at {v v' : Json} (h : DiffersIn ids v v') (k : String)
    (pre post : JsonDict) :
    DiffersInFields ids (pre ++ (k, v) :: post) (pre ++ (k, v') :: post) := by
  induction pre with
  | nil => exact .cons h (.refl post)
  | cons p pre ih => exact .cons (.same p.2) ih

theorem DiffersInFields.lookup {d d' : JsonDict} (h : DiffersInFields ids d d') (key : String) :
    Option.Rel (DiffersIn ids) (Json.field d key) (Json.field d' key) := by
  cases h with
  | nil => exact .none
  | @cons k v v' d d' hv hrest =>
    by_cases he : k = key
    · simpa [Json.field, he] using Option.Rel.some hv
    · simpa [Json.field, he] using hrest.lookup key

theorem DiffersInFields.filter {d d' : JsonDict} (h : DiffersInFields ids d d')
    (p : String → Bool) :
    DiffersInFields ids (d.filter fun q => p q.1) (d'.filter fun q => p q.1) := by
  cases h with
  | nil => exact .nil
  | @cons k v v' d d' hv hrest =>
    rw [List.filter_cons, List.filter_cons (x := (k, v'))]
    split
    · exact .cons hv (hrest.filter p)
    · exact hrest.filter p

/-! ### What the filters and the ceiling pass ask of a dict -/

theorem isIn_differs {names : List String} {o o' : Option Json}
    (h : Option.Rel (DiffersIn ids) o o') : isIn names o' = isIn names o := by
  cases h with
  | none => rfl
  | some hv => cases hv <;> rfl

theorem DiffersInFields.classificationLevel_eq {d d' : JsonDict} (h : DiffersInFields ids d d') :
    classificationLevel d' = classificationLevel d := by
  have hrel := h.lookup "classification"
  unfold classificationLevel
  generalize Json.field d "classification" = o at hrel
  generalize Json.field d' "classification" = o' at hrel
  cases hrel with
  | none => rfl
  | some hv => cases hv <;> rfl

/-! ### Nothing reached, nothing changed -/

mutual

theorem DiffersIn.redact_eq {v v' : Json} (h : DiffersIn ids v v') (hv : ¬ Reaches ids ceiling v) :
    redactIfAbove ceiling v' = redactIfAbove ceiling v := by
  cases h with
  | same => rfl
  | arr hitems =>
    rw [redactIfAbove, redactIfAbove, hitems.redact_eq]
    rintro pre w post rfl hpre hw
    exact hv (.item hpre hw)
  | obj hfields =>
    apply hfields.redact_obj
    rintro ⟨hlevel, hle, hpre, hw⟩
    exact hv (.field hlevel hle hpre hw)
  | object hid _ hne => exact absurd (.object hid hne) hv
termination_by (sizeOf v, 0)

theorem DiffersInItems.redact_eq {l l' : List Json} (h : DiffersInItems ids l l')
    (hl : ∀ pre v post, l = pre ++ v :: post → ReadableItems ceiling pre →
      ¬ Reaches ids ceiling v) : redactItems ceiling l' = redactItems ceiling l := by
  cases h with
  | nil => rfl
  | @cons v v' l l' hfirst hrest =>
    rw [redactItems, redactItems, hfirst.redact_eq (hl [] v l rfl trivial)]
    cases hout : redactIfAbove ceiling v with
    | error e => rfl
    | ok out =>
      have hreadable := (redactIfAbove_returns ceiling v).mp ⟨out, hout⟩
      rw [hrest.redact_eq]
      intro pre w post heq hpre
      exact hl (v :: pre) w post (by rw [heq, List.cons_append]) ⟨hreadable, hpre⟩
termination_by (sizeOf l, 0)

theorem DiffersInFields.redact_obj {d d' : JsonDict} (h : DiffersInFields ids d d')
    (hd : ¬ ReachesBelow ids ceiling d) :
    redactIfAbove ceiling (.obj d') = redactIfAbove ceiling (.obj d) := by
  rw [redactIfAbove, redactIfAbove, h.classificationLevel_eq]
  cases hlevel : classificationLevel d with
  | error e => rfl
  | ok level =>
    rw [ok_bind, ok_bind]
    split
    next => rfl
    next hbelow =>
      rw [h.redact_eq]
      intro pre k w post heq hpre hw
      rw [heq] at hd hlevel
      exact hd (.field hlevel (not_lt.mp hbelow) hpre hw)
termination_by (sizeOf d, 1)

theorem DiffersInFields.redact_eq {d d' : JsonDict} (h : DiffersInFields ids d d')
    (hd : ∀ pre k v post, d = pre ++ (k, v) :: post → ReadableFields ceiling pre →
      ¬ Reaches ids ceiling v) : redactFields ceiling d' = redactFields ceiling d := by
  cases h with
  | nil => rfl
  | @cons k v v' d d' hfirst hrest =>
    rw [redactFields, redactFields, hfirst.redact_eq (hd [] k v d rfl trivial)]
    cases hout : redactIfAbove ceiling v with
    | error e => rfl
    | ok out =>
      have hreadable := (redactIfAbove_returns ceiling v).mp ⟨out, hout⟩
      rw [hrest.redact_eq]
      intro pre k' w post heq hpre
      exact hd ((k, v) :: pre) k' w post (by rw [heq, List.cons_append]) ⟨hreadable, hpre⟩
termination_by (sizeOf d, 0)

end

/-- The same for a list whose items are related otherwise. -/
theorem redactItems_congr {R : Json → Json → Prop} {l l' : List Json} (h : List.Forall₂ R l l')
    (hR : ∀ pre v post v', l = pre ++ v :: post → ReadableItems ceiling pre → R v v' →
      redactIfAbove ceiling v' = redactIfAbove ceiling v) :
    redactItems ceiling l' = redactItems ceiling l := by
  induction h with
  | nil => rfl
  | @cons v v' l l' hv _ ih =>
    rw [redactItems, redactItems, hR [] v l v' rfl trivial hv]
    cases hout : redactIfAbove ceiling v with
    | error e => rfl
    | ok out =>
      have hreadable := (redactIfAbove_returns ceiling v).mp ⟨out, hout⟩
      rw [ih]
      intro pre w post w' heq hpre
      exact hR (v :: pre) w post w' (by rw [heq, List.cons_append]) ⟨hreadable, hpre⟩

/-! ### Something reached can be made to raise -/

theorem redactItems_raises {pre post : List Json} {v : Json} {err : PyError}
    (hpre : ReadableItems ceiling pre) (hv : redactIfAbove ceiling v = .error err) :
    redactItems ceiling (pre ++ v :: post) = .error err := by
  induction pre with
  | nil =>
    rw [List.nil_append, redactItems, hv]
    rfl
  | cons w pre ih =>
    obtain ⟨hw, hpre⟩ := hpre
    obtain ⟨out, hout⟩ := (redactIfAbove_returns ceiling w).mpr hw
    rw [List.cons_append, redactItems, hout, ok_bind, ih hpre]
    rfl

theorem redactFields_raises {pre post : JsonDict} {k : String} {v : Json} {err : PyError}
    (hpre : ReadableFields ceiling pre) (hv : redactIfAbove ceiling v = .error err) :
    redactFields ceiling (pre ++ (k, v) :: post) = .error err := by
  induction pre with
  | nil =>
    rw [List.nil_append, redactFields, hv]
    rfl
  | cons p pre ih =>
    obtain ⟨hp, hpre⟩ := hpre
    obtain ⟨out, hout⟩ := (redactIfAbove_returns ceiling p.2).mpr hp
    rw [List.cons_append, redactFields, hout, ok_bind, ih hpre]
    rfl

theorem redact_field_raises {pre post : JsonDict} {k : String} {v v' : Json} {level : ℕ}
    {err : PyError} (hlevel : classificationLevel (pre ++ (k, v) :: post) = .ok level)
    (hle : level ≤ ceiling) (hpre : ReadableFields ceiling pre) (hdiff : DiffersIn ids v v')
    (hv' : redactIfAbove ceiling v' = .error err) :
    redactIfAbove ceiling (.obj (pre ++ (k, v') :: post)) = .error err := by
  rw [redactIfAbove, (DiffersInFields.at hdiff k pre post).classificationLevel_eq, hlevel, ok_bind,
    if_neg (not_lt.mpr hle), redactFields_raises hpre hv']
  rfl

section Raises
variable {bad : Json} {err : PyError}
  (hbad : ∀ d, Json.field d "classification" = some bad → classificationLevel d = .error err)
include hbad

/-- The data of an object that is reached can be made such that the ceiling pass raises over it. -/
theorem Reaches.raises {v : Json} (h : Reaches ids ceiling v) :
    ∃ v', DiffersIn ids v v' ∧ redactIfAbove ceiling v' = .error err := by
  induction h with
  | @object d id hid hne =>
    refine ⟨.obj [("id", id), ("classification", bad)], .object hid rfl hne, ?_⟩
    rw [redactIfAbove, hbad _ rfl]
    rfl
  | item hpre _ ih =>
    obtain ⟨v', hdiff, hraises⟩ := ih
    refine ⟨_, .arr (.at hdiff _ _), ?_⟩
    rw [redactIfAbove, redactItems_raises hpre hraises]
    rfl
  | field hlevel hle hpre _ ih =>
    obtain ⟨v', hdiff, hraises⟩ := ih
    exact ⟨_, .obj (.at hdiff _ _ _), redact_field_raises hlevel hle hpre hdiff hraises⟩

theorem ReachesBelow.raises {d : JsonDict} (h : ReachesBelow ids ceiling d) :
    ∃ d', DiffersInFields ids d d' ∧ redactIfAbove ceiling (.obj d') = .error err := by
  obtain ⟨hlevel, hle, hpre, hv⟩ := h
  obtain ⟨v', hdiff, hraises⟩ := hv.raises hbad
  exact ⟨_, .at hdiff _ _ _, redact_field_raises hlevel hle hpre hdiff hraises⟩

end Raises

/-! ### Contexts -/

/-- A control object with an `id` outside the names. -/
def UnapprovedObject (ids : List String) (v : Json) : Prop :=
  ∃ d id, v = .obj d ∧ Json.field d "id" = some id ∧ isIn ids (some id) = .ok false

/-- A relationship, graph data and plane data are no objects themselves; they may hold some. -/
def FieldsDiffer (ids : List String) (v v' : Json) : Prop :=
  v = v' ∨ ∃ d d', v = .obj d ∧ v' = .obj d' ∧ DiffersInFields ids d d'

def ObjectsDiffer (ids : List String) (v v' : Json) : Prop :=
  v = v' ∨ ∃ l l', v = .arr l ∧ v' = .arr l' ∧ UpTo (UnapprovedObject ids) (DiffersIn ids) l l'

def RelationshipsDiffer (ids : List String) (v v' : Json) : Prop :=
  v = v' ∨ ∃ l l', v = .arr l ∧ v' = .arr l' ∧ List.Forall₂ (FieldsDiffer ids) l l'

/-- Two raw contexts that differ only in data of control objects with an unapproved id. Such
objects may also come and go in the top-level list. -/
structure DiffersOnly (ids : List String) (c c' : JsonDict) : Prop where
  controlObjects : Option.Rel (ObjectsDiffer ids)
    (Json.field c "control_objects") (Json.field c' "control_objects")
  relationships : Option.Rel (RelationshipsDiffer ids)
    (Json.field c "relationships") (Json.field c' "relationships")
  graphData : Option.Rel (FieldsDiffer ids)
    (Json.field c "graph_data") (Json.field c' "graph_data")
  planeData : Option.Rel (FieldsDiffer ids)
    (Json.field c "plane_data") (Json.field c' "plane_data")

namespace ScopeEnforcer
variable (uc : Unicode) (e : ScopeEnforcer)

/-- No filter raises on the context. -/
def Filterable (c : JsonDict) : Prop :=
  ∀ s ∈ e.sectionFilters uc, ∀ v ∈ Json.field c s.1, ∃ w, s.2 v = .ok w

/-- The ceiling pass gets past the section with this filter. -/
def Passes (c : JsonDict) (s : String × (Json → Except PyError Json)) : Prop :=
  ∀ v ∈ Json.field c s.1, ∀ w, s.2 v = .ok w → Readable e.ceilingLevel w

/-- Where the ceiling pass comes to an object with an unapproved id behind the filters: in an approved
object or relationship, in graph data of an allowed level, or in data of an approved plane. -/
inductive Exposes (c : JsonDict) : Prop
  | controlObject {pre post : List Json} {x : Json} : e.Filterable uc c →
      Json.field c "control_objects" = some (.arr (pre ++ x :: post)) →
      e.approvesObject x = .ok true →
      (∀ y ∈ pre, e.approvesObject y = .ok true → Readable e.ceilingLevel y) →
      Reaches e.scope.allowedControlObjectIds e.ceilingLevel x → Exposes c
  | relationship {pre post : List Json} {d : JsonDict} : e.Filterable uc c →
      e.Passes c ("control_objects", e.filterControlObjects) →
      Json.field c "relationships" = some (.arr (pre ++ .obj d :: post)) →
      e.approvesRelationship (.obj d) = .ok true →
      (∀ y ∈ pre, e.approvesRelationship y = .ok true → Readable e.ceilingLevel y) →
      ReachesBelow e.scope.allowedControlObjectIds e.ceilingLevel d → Exposes c
  | graphData {d : JsonDict} : e.Filterable uc c →
      e.Passes c ("control_objects", e.filterControlObjects) →
      e.Passes c ("relationships", e.filterRelationships) →
      Json.field c "graph_data" = some (.obj d) →
      ReachesBelow e.scope.allowedControlObjectIds e.ceilingLevel (d.filter (e.withinDepth uc)) →
      Exposes c
  | planeData {d : JsonDict} : e.Filterable uc c →
      e.Passes c ("control_objects", e.filterControlObjects) →
      e.Passes c ("relationships", e.filterRelationships) →
      e.Passes c ("graph_data", e.enforceGraphDepth uc) →
      Json.field c "plane_data" = some (.obj d) →
      ReachesBelow e.scope.allowedControlObjectIds e.ceilingLevel (d.filter e.inApprovedPlane) →
      Exposes c

/-! ### The filters on contexts that differ -/

theorem approvesObject_differs {v v' : Json} (h : DiffersIn e.scope.allowedControlObjectIds v v') :
    e.approvesObject v' = e.approvesObject v := by
  cases h with
  | same => rfl
  | arr => rfl
  | obj hfields => exact isIn_differs (hfields.lookup "id")
  | object hid hid' _ =>
    show isIn _ (Json.field _ "id") = isIn _ (Json.field _ "id")
    rw [hid', hid]

theorem approvesRelationship_differs {ids : List String} {v v' : Json} (h : FieldsDiffer ids v v') :
    e.approvesRelationship v' = e.approvesRelationship v := by
  rcases h with rfl | ⟨d, d', rfl, rfl, hd⟩
  · rfl
  · simp only [approvesRelationship, isIn_differs (hd.lookup _)]

/-- Two computations raise alike, or return related values. -/
inductive RaisesAlike {α : Type} (R : α → α → Prop) : Except PyError α → Except PyError α → Prop
  | error (err : PyError) : RaisesAlike R (.error err) (.error err)
  | ok {a a' : α} : R a a' → RaisesAlike R (.ok a) (.ok a')

theorem RaisesAlike.bind {α β : Type} {R : α → α → Prop} {S : β → β → Prop}
    {x x' : Except PyError α} {f f' : α → Except PyError β} (h : RaisesAlike R x x')
    (hf : ∀ a a', R a a' → RaisesAlike S (f a) (f' a')) : RaisesAlike S (x >>= f) (x' >>= f') := by
  cases h with
  | error err => exact .error err
  | ok ha => exact hf _ _ ha

theorem RaisesAlike.refl {α : Type} {R : α → α → Prop} (hrefl : ∀ a, R a a) (x : Except PyError α) :
    RaisesAlike R x x := by
  cases x with
  | error err => exact .error err
  | ok a => exact .ok (hrefl a)

/-- A filter decides alike on lists whose entries differ, and leaves hidden entries out. -/
theorem filterE_differs (hidden : Json → Prop) {R : Json → Json → Prop}
    {p : Json → Except PyError Bool} (hhidden : ∀ v, hidden v → p v = .ok false)
    (hR : ∀ v v', R v v' → p v' = p v) {l l' : List Json} (h : UpTo hidden R l l') :
    RaisesAlike (List.Forall₂ R) (filterE p l) (filterE p l') := by
  have hskip {v : Json} (hv : hidden v) (l : List Json) : filterE p (v :: l) = filterE p l := by
    rw [filterE, hhidden v hv, ok_bind]
    cases filterE p l <;> rfl
  induction h with
  | nil => exact .ok .nil
  | left ha _ ih => rwa [hskip ha]
  | right ha _ ih => rwa [hskip ha]
  | @both a b l l' hab _ ih =>
    rw [filterE, filterE, hR a b hab]
    refine (RaisesAlike.refl (R := Eq) (fun _ => rfl) (p a)).bind ?_
    rintro keep _ rfl
    refine ih.bind fun rest rest' hrest => ?_
    cases keep with
    | false => exact .ok hrest
    | true => exact .ok (.cons hab hrest)

theorem keptObjects_differ {l l' : List Json}
    (h : UpTo (UnapprovedObject e.scope.allowedControlObjectIds)
      (DiffersIn e.scope.allowedControlObjectIds) l l') :
    RaisesAlike (List.Forall₂ (DiffersIn e.scope.allowedControlObjectIds))
      (filterE e.approvesObject l) (filterE e.approvesObject l') := by
  apply filterE_differs (UnapprovedObject e.scope.allowedControlObjectIds)
    (fun v hv => ?_) (fun _ _ hvv => e.approvesObject_differs hvv) h
  obtain ⟨d, id, rfl, hid, hne⟩ := hv
  rw [approvesObject, hid, hne]

theorem keptRelationships_differ {ids : List String} {l l' : List Json}
    (h : List.Forall₂ (FieldsDiffer ids) l l') :
    RaisesAlike (List.Forall₂ (FieldsDiffer ids)) (filterE e.approvesRelationship l)
      (filterE e.approvesRelationship l') :=
  filterE_differs (fun _ => False) (fun _ => False.elim)
    (fun _ _ hvv => e.approvesRelationship_differs hvv) (UpTo.of_forall₂ h)

/-- On sections that differ each filter raises alike, or returns for both. -/
theorem filters_alike {c c' : JsonDict} (h : DiffersOnly e.scope.allowedControlObjectIds c c') :
    ∀ s ∈ e.sectionFilters uc, RaisesAlike (fun _ _ => True)
      (filterSection c s.1 s.2) (filterSection c' s.1 s.2) := by
  have hsection {R : Json → Json → Prop} {key : String} {f : Json → Except PyError Json}
      (hrel : Option.Rel R (Json.field c key) (Json.field c' key))
      (hf : ∀ v v', R v v' → RaisesAlike (fun _ _ => True) (f v) (f v')) :
      RaisesAlike (fun _ _ => True) (filterSection c key f) (filterSection c' key f) := by
    unfold filterSection
    generalize Json.field c key = o at hrel
    generalize Json.field c' key = o' at hrel
    cases hrel with
    | none => exact .ok trivial
    | some hvv => exact (hf _ _ hvv).bind fun _ _ _ => .ok trivial
  have hkept {R : List Json → List Json → Prop} {k k' : Except PyError (List Json)}
      (hk : RaisesAlike R k k') :
      RaisesAlike (fun _ _ => True) (k >>= fun k => .ok (Json.arr k)) (k' >>= fun k => .ok (.arr k)) :=
    hk.bind fun _ _ _ => .ok trivial
  have hfields {ids : List String} {f : Json → Except PyError Json}
      (hf : ∀ d, ∃ w, f (.obj d) = .ok w) (v v' : Json) (hvv : FieldsDiffer ids v v') :
      RaisesAlike (fun _ _ => True) (f v) (f v') := by
    rcases hvv with rfl | ⟨d, d', rfl, rfl, -⟩
    · exact .refl (fun _ => trivial) _
    · obtain ⟨w, hw⟩ := hf d
      obtain ⟨w', hw'⟩ := hf d'
      rw [hw, hw']
      exact .ok trivial
  simp only [sectionFilters, List.forall_mem_cons, List.not_mem_nil, false_implies, implies_true,
    and_true]
  refine ⟨hsection h.controlObjects ?_, hsection h.relationships ?_,
    hsection h.graphData (hfields fun _ => ⟨_, rfl⟩),
    hsection h.planeData (hfields fun _ => ⟨_, rfl⟩)⟩
  · rintro v v' (rfl | ⟨l, l', rfl, rfl, hl⟩)
    · exact .refl (fun _ => trivial) _
    · exact hkept (e.keptObjects_differ hl)
  · rintro v v' (rfl | ⟨l, l', rfl, rfl, hl⟩)
    · exact .refl (fun _ => trivial) _
    · exact hkept (e.keptRelationships_differ hl)

/-! ### An unexposed context -/

/-- An item that a filter has kept, in the list it is kept from. -/
theorem filterE_split {p : Json → Except PyError Bool} {l pre post : List Json} {x : Json}
    (h : filterE p l = .ok (pre ++ x :: post)) :
    ∃ before after, l = before ++ x :: after ∧ p x = .ok true ∧
      ∀ y ∈ before, p y = .ok true → y ∈ pre := by
  obtain ⟨hall, hkept⟩ := filterE_eq_ok.mp h
  obtain ⟨first, rest, rfl, hfirst, hrest⟩ := List.filter_eq_append_iff.mp hkept.symm
  obtain ⟨skipped, after, rfl, hskipped, hx, -⟩ := List.filter_eq_cons_iff.mp hrest
  refine ⟨first ++ skipped, after, by rw [List.append_assoc], ?_, fun y hy hpy => ?_⟩
  · obtain ⟨b, hb⟩ := hall x (List.mem_append_right _ (List.mem_append_right _ List.mem_cons_self))
    rw [hb] at hx ⊢
    rw [show b = true from hx]
  · rcases List.mem_append.mp hy with hy | hy
    · rw [← hfirst, List.mem_filter, hpy]
      exact ⟨hy, rfl⟩
    · exact absurd (by rw [hpy]; rfl) (hskipped y hy)

/-- What is kept of two lists is redacted alike if each approved item is that the pass comes to. -/
theorem keptItems_redact_eq {ceiling : ℕ} {p : Json → Except PyError Bool} {R : Json → Json → Prop}
    {l l' : List Json} (hkept : RaisesAlike (List.Forall₂ R) (filterE p l) (filterE p l'))
    {w w' : Json} (hw : (do return Json.arr (← filterE p l) : Except PyError Json) = .ok w)
    (hw' : (do return Json.arr (← filterE p l') : Except PyError Json) = .ok w')
    (hR : ∀ before x after x', l = before ++ x :: after → p x = .ok true →
      (∀ y ∈ before, p y = .ok true → Readable ceiling y) → R x x' →
      redactIfAbove ceiling x' = redactIfAbove ceiling x) :
    redactIfAbove ceiling w' = redactIfAbove ceiling w := by
  obtain ⟨k, hk, hw⟩ := bind_eq_ok_iff.mp hw
  obtain ⟨k', hk', hw'⟩ := bind_eq_ok_iff.mp hw'
  obtain rfl := Except.ok.inj hw
  obtain rfl := Except.ok.inj hw'
  have hrel : List.Forall₂ R k k' := by
    rw [hk, hk'] at hkept
    cases hkept with
    | ok hrel => exact hrel
  rw [redactIfAbove, redactIfAbove, redactItems_congr hrel]
  rintro pre x post x' rfl hpre hxx
  obtain ⟨before, after, hl, hx, hbefore⟩ := filterE_split hk
  exact hR before x after x' hl hx
    (fun y hy hpy => readableItems_iff.mp hpre y (hbefore y hy hpy)) hxx

/-- The same for the entries kept of two dicts. -/
theorem keptEntries_redact_eq {ids : List String} {ceiling : ℕ} {p : String → Bool} {v v' w w' : Json}
    (h : FieldsDiffer ids v v')
    (hw : (do return Json.obj ((← itemsOf v).filter fun q => p q.1) : Except PyError Json) = .ok w)
    (hw' : (do return Json.obj ((← itemsOf v').filter fun q => p q.1) : Except PyError Json) = .ok w')
    (hno : ∀ d, v = .obj d → ¬ ReachesBelow ids ceiling (d.filter fun q => p q.1)) :
    redactIfAbove ceiling w' = redactIfAbove ceiling w := by
  rcases h with rfl | ⟨d, d', rfl, rfl, hd⟩
  · rw [Except.ok.inj (hw'.symm.trans hw)]
  · obtain rfl := Except.ok.inj hw
    obtain rfl := Except.ok.inj hw'
    exact (hd.filter p).redact_obj (hno d rfl)

/-- The sections of a context that exposes nothing are redacted alike, as far as the pass gets. -/
theorem section_redact_eq {c c' : JsonDict} (h : DiffersOnly e.scope.allowedControlObjectIds c c')
    (hno : ¬ e.Exposes uc c) (hfilters : e.Filterable uc c)
    {pre post : List (String × (Json → Except PyError Json))} {key : String}
    {f : Json → Except PyError Json} (hsplit : e.sectionFilters uc = pre ++ (key, f) :: post)
    (hpre : ∀ s ∈ pre, e.Passes c s) {v v' w w' : Json} (hv : Json.field c key = some v)
    (hv' : Json.field c' key = some v') (hw : f v = .ok w) (hw' : f v' = .ok w') :
    redactIfAbove e.ceilingLevel w' = redactIfAbove e.ceilingLevel w := by
  have hrel {R : Json → Json → Prop} (h : Option.Rel R (Json.field c key) (Json.field c' key)) :
      R v v' := by
    rw [hv, hv'] at h
    exact Option.rel_some_some.mp h
  unfold sectionFilters at hsplit
  rcases pre with _ | ⟨s₁, _ | ⟨s₂, _ | ⟨s₃, _ | ⟨s₄, pre⟩⟩⟩⟩
  · obtain ⟨⟨rfl, rfl⟩, -⟩ : (_ = key ∧ _ = f) ∧ _ := by simpa using hsplit
    rcases hrel h.controlObjects with rfl | ⟨l, l', rfl, rfl, hl⟩
    · rw [Except.ok.inj (hw'.symm.trans hw)]
    · refine keptItems_redact_eq (e.keptObjects_differ hl) hw hw' ?_
      rintro before x after x' rfl hx hbefore hxx
      exact hxx.redact_eq fun hreaches =>
        hno (.controlObject hfilters hv hx hbefore hreaches)
  · obtain ⟨rfl, ⟨rfl, rfl⟩, -⟩ : _ = s₁ ∧ (_ = key ∧ _ = f) ∧ _ := by simpa using hsplit
    rcases hrel h.relationships with rfl | ⟨l, l', rfl, rfl, hl⟩
    · rw [Except.ok.inj (hw'.symm.trans hw)]
    · refine keptItems_redact_eq (e.keptRelationships_differ hl) hw hw' ?_
      rintro before x after x' rfl hx hbefore (rfl | ⟨d, d', rfl, rfl, hd⟩)
      · rfl
      · exact hd.redact_obj fun hreaches =>
          hno (.relationship hfilters (hpre _ (by simp)) hv hx hbefore hreaches)
  · obtain ⟨rfl, rfl, ⟨rfl, rfl⟩, -⟩ : _ = s₁ ∧ _ = s₂ ∧ (_ = key ∧ _ = f) ∧ _ := by
      simpa using hsplit
    refine keptEntries_redact_eq (p := fun k => getNodeDepth uc k ≤ e.scope.maxGraphDepth)
      (hrel h.graphData) hw hw' ?_
    rintro d rfl hreaches
    exact hno (.graphData hfilters (hpre _ (by simp)) (hpre _ (by simp)) hv hreaches)
  · obtain ⟨rfl, rfl, rfl, ⟨rfl, rfl⟩, -⟩ :
        _ = s₁ ∧ _ = s₂ ∧ _ = s₃ ∧ (_ = key ∧ _ = f) ∧ _ := by simpa using hsplit
    refine keptEntries_redact_eq (p := fun k => k ∈ e.scope.allowedOperationalPlanes)
      (hrel h.planeData) hw hw' ?_
    rintro d rfl hreaches
    exact hno (.planeData hfilters (hpre _ (by simp)) (hpre _ (by simp)) (hpre _ (by simp)) hv
      hreaches)
  · simp at hsplit

/-! ### The sections one after the other -/

theorem filterSections_eq (c : JsonDict) : e.filterSections uc c =
    List.flatten <$> (e.sectionFilters uc).mapM fun s => filterSection c s.1 s.2 := by
  simp only [filterSections, sectionFilters, List.mapM_cons, List.mapM_nil]
  cases filterSection c "control_objects" e.filterControlObjects with
  | error err => rfl
  | ok o =>
    cases filterSection c "relationships" e.filterRelationships with
    | error err => rfl
    | ok r =>
      cases filterSection c "graph_data" (e.enforceGraphDepth uc) with
      | error err => rfl
      | ok g =>
        cases filterSection c "plane_data" e.filterPlanes with
        | error err => rfl
        | ok p => simp

theorem enforce_eq (c : JsonDict) : e.enforce uc c = (do
    let sections ← (e.sectionFilters uc).mapM fun s => filterSection c s.1 s.2
    let redacted ← redactFields e.ceilingLevel sections.flatten
    return stripFields redacted ++ [("_scope_metadata", e.scopeMetadata (stripFields redacted))]) := by
  rw [enforce, filterSections_eq]
  cases (e.sectionFilters uc).mapM fun s => filterSection c s.1 s.2 <;> rfl

section Sections
variable {c c' : JsonDict} {ceiling : ℕ}

/-- A section that is let through is absent, or has the value its filter returns. -/
theorem filterSection_eq_ok {key : String} {f : Json → Except PyError Json} {a : JsonDict} :
    filterSection c key f = .ok a ↔ Json.field c key = none ∧ a = [] ∨
      ∃ v w, Json.field c key = some v ∧ f v = .ok w ∧ a = [(key, w)] := by
  unfold filterSection
  cases hv : Json.field c key with
  | none => simp [eq_comm]
  | some v =>
    simp only [bind_eq_ok_iff, pure_eq_ok, Except.ok.injEq, reduceCtorEq, false_and, false_or]
    constructor
    · rintro ⟨w, hw, rfl⟩
      exact ⟨v, w, rfl, hw, rfl⟩
    · rintro ⟨v', w, hv', hw, rfl⟩
      obtain rfl := Option.some.inj hv'
      exact ⟨w, hw, rfl⟩

/-- Computations that raise alike one by one raise alike one after the other. -/
theorem mapM_alike {α β : Type} {f f' : α → Except PyError β} {l : List α}
    (h : ∀ a ∈ l, RaisesAlike (fun _ _ => True) (f a) (f' a)) :
    RaisesAlike (fun _ _ => True) (l.mapM f) (l.mapM f') := by
  induction l with
  | nil => exact .ok trivial
  | cons a l ih =>
    obtain ⟨ha, hl⟩ := List.forall_mem_cons.mp h
    rw [List.mapM_cons, List.mapM_cons]
    exact ha.bind fun _ _ _ => (ih hl).bind fun _ _ _ => .ok trivial

theorem redactFields_append_eq (l m : JsonDict) : redactFields ceiling (l ++ m) = (do
    return (← redactFields ceiling l) ++ (← redactFields ceiling m)) := by
  induction l with
  | nil =>
    rw [List.nil_append, redactFields, ok_bind]
    cases redactFields ceiling m <;> rfl
  | cons p l ih =>
    rw [List.cons_append, redactFields, redactFields, ih]
    cases redactIfAbove ceiling p.2 with
    | error err => rfl
    | ok out =>
      cases redactFields ceiling l with
      | error err => rfl
      | ok l' => cases redactFields ceiling m <;> rfl

/-- Sections of which each is redacted alike once the pass has got past those before it. -/
theorem redact_sections_eq {α : Type} {f f' : α → Except PyError JsonDict} {l : List α}
    {as as' : List JsonDict} (has : l.mapM f = .ok as) (has' : l.mapM f' = .ok as')
    (h : ∀ pre s post, l = pre ++ s :: post →
      (∀ t ∈ pre, ∀ a, f t = .ok a → ReadableFields ceiling a) → ∀ a a', f s = .ok a →
      f' s = .ok a' → redactFields ceiling a' = redactFields ceiling a) :
    redactFields ceiling as'.flatten = redactFields ceiling as.flatten := by
  induction l generalizing as as' with
  | nil =>
    obtain rfl := Except.ok.inj has
    obtain rfl := Except.ok.inj has'
    rfl
  | cons s l ih =>
    obtain ⟨a, as, ha, hl, rfl⟩ := List.forall₂_cons_left_iff.mp (mapM_eq_ok_iff.mp has)
    obtain ⟨a', as', ha', hl', rfl⟩ := List.forall₂_cons_left_iff.mp (mapM_eq_ok_iff.mp has')
    have hfirst := h [] s l rfl (List.forall_mem_nil _) a a' ha ha'
    rw [List.flatten_cons, List.flatten_cons, redactFields_append_eq, redactFields_append_eq, hfirst]
    cases hout : redactFields ceiling a with
    | error err => rfl
    | ok out =>
      rw [ih (mapM_eq_ok_iff.mpr hl) (mapM_eq_ok_iff.mpr hl')]
      intro pre t post heq hpre b b' hb hb'
      refine h (s :: pre) t post (by rw [heq, List.cons_append]) ?_ b b' hb hb'
      refine List.forall_mem_cons.mpr ⟨fun a₁ ha₁ => ?_, hpre⟩
      obtain rfl := Except.ok.inj (ha.symm.trans ha₁)
      exact (redactFields_returns ceiling a).mp ⟨out, hout⟩

end Sections

/-- What lets a section through the filters and the pass. -/
theorem filterable_of_mapM {c : JsonDict} {as : List JsonDict}
    (h : ((e.sectionFilters uc).mapM fun s => filterSection c s.1 s.2) = .ok as) :
    e.Filterable uc c := by
  intro s hs v hv
  obtain ⟨a, -, ha⟩ := returns_of_mapM h hs
  rcases filterSection_eq_ok.mp ha with ⟨hnone, -⟩ | ⟨v', w, hv', hw, -⟩
  · cases hnone.symm.trans hv
  · obtain rfl := Option.some.inj (hv'.symm.trans hv)
    exact ⟨w, hw⟩

theorem DiffersOnly.field_isSome {c c' : JsonDict} {ids : List String} (h : DiffersOnly ids c c') :
    ∀ s ∈ e.sectionFilters uc, (Json.field c' s.1).isSome = (Json.field c s.1).isSome := by
  have hrel {R : Json → Json → Prop} {o o' : Option Json} (h : Option.Rel R o o') :
      o'.isSome = o.isSome := by
    cases h <;> rfl
  simp only [sectionFilters, List.forall_mem_cons, List.not_mem_nil, false_implies, implies_true,
    and_true]
  exact ⟨hrel h.controlObjects, hrel h.relationships, hrel h.graphData, hrel h.planeData⟩

theorem enforce_unexposed {c c' : JsonDict} (hno : ¬ e.Exposes uc c)
    (h : DiffersOnly e.scope.allowedControlObjectIds c c') : e.enforce uc c' = e.enforce uc c := by
  rw [enforce_eq, enforce_eq]
  have halike := mapM_alike (e.filters_alike uc h)
  generalize hc : ((e.sectionFilters uc).mapM fun s => filterSection c s.1 s.2) = x at halike
  generalize hc' : ((e.sectionFilters uc).mapM fun s => filterSection c' s.1 s.2) = x' at halike
  cases halike with
  | error err => rfl
  | @ok as as' _ =>
    rw [ok_bind, ok_bind, redact_sections_eq hc hc']
    rintro pre ⟨key, f⟩ post hsplit hpre a a' ha ha'
    have hpasses : ∀ s ∈ pre, e.Passes c s := by
      intro s hs v hv w hw
      exact (hpre s hs _ (filterSection_eq_ok.mpr (Or.inr ⟨v, w, hv, hw, rfl⟩))).1
    have hsome := DiffersOnly.field_isSome uc e h (key, f) (by rw [hsplit]; simp)
    rcases filterSection_eq_ok.mp ha with ⟨hv, rfl⟩ | ⟨v, w, hv, hw, rfl⟩ <;>
      rcases filterSection_eq_ok.mp ha' with ⟨hv', rfl⟩ | ⟨v', w', hv', hw', rfl⟩
    · rfl
    · simp [hv, hv'] at hsome
    · simp [hv, hv'] at hsome
    · have hsame := e.section_redact_eq uc h hno (e.filterable_of_mapM uc hc) hsplit hpasses hv hv'
        hw hw'
      simp only [redactFields, hsame]

/-! ### An exposed context -/

theorem differsOnly_replaceField {c : JsonDict} {key : String} {v v' : Json}
    (hv : Json.field c key = some v)
    (hobjects : key = "control_objects" → ObjectsDiffer ids v v')
    (hrelationships : key = "relationships" → RelationshipsDiffer ids v v')
    (hentries : key = "graph_data" ∨ key = "plane_data" → FieldsDiffer ids v v') :
    DiffersOnly ids c (replaceField c key v') := by
  have hrel {R : Json → Json → Prop} (hrefl : ∀ w, R w w) (key' : String)
      (h : key = key' → R v v') :
      Option.Rel R (Json.field c key') (Json.field (replaceField c key v') key') := by
    rw [field_replaceField]
    split
    next he =>
      rw [he, hv]
      exact .some (h he.symm)
    next =>
      cases Json.field c key' with
      | none => exact .none
      | some w => exact .some (hrefl w)
  exact {
    controlObjects := hrel (fun _ => Or.inl rfl) _ hobjects
    relationships := hrel (fun _ => Or.inl rfl) _ hrelationships
    graphData := hrel (fun _ => Or.inl rfl) _ fun h => hentries (Or.inl h)
    planeData := hrel (fun _ => Or.inl rfl) _ fun h => hentries (Or.inr h) }

section Replaced
variable {c : JsonDict} {pre post : List (String × (Json → Except PyError Json))} {key : String}
  {f : Json → Except PyError Json}

/-- With a section replaced the others stand as they did. -/
theorem field_replace_other (hsplit : e.sectionFilters uc = pre ++ (key, f) :: post) (v' : Json) :
    ∀ s ∈ pre ++ post, Json.field (replaceField c key v') s.1 = Json.field c s.1 := by
  have hnodup : ((e.sectionFilters uc).map Prod.fst).Nodup := by
    simp [sectionFilters]
  rw [hsplit, List.map_append, List.map_cons, List.nodup_middle] at hnodup
  intro s hs
  rw [field_replaceField, if_neg]
  intro heq
  have hmem : s.1 ∈ (pre ++ post).map Prod.fst := List.mem_map_of_mem hs
  rw [heq, List.map_append] at hmem
  exact (List.nodup_cons.mp hnodup).1 hmem

theorem filterSection_replace_other (hfilters : e.Filterable uc c)
    (hsplit : e.sectionFilters uc = pre ++ (key, f) :: post) (v' : Json) :
    ∀ s ∈ pre ++ post, ∃ a, filterSection (replaceField c key v') s.1 s.2 = .ok a := by
  intro s hs
  have hmem : s ∈ e.sectionFilters uc := by
    rw [hsplit]
    simp only [List.mem_append, List.mem_cons] at hs ⊢
    tauto
  have hfield := e.field_replace_other uc (c := c) hsplit v' s hs
  cases hold : Json.field c s.1 with
  | none => exact ⟨[], filterSection_eq_ok.mpr (Or.inl ⟨hfield.trans hold, rfl⟩)⟩
  | some u =>
    obtain ⟨w, hw⟩ := hfilters s hmem u hold
    exact ⟨_, filterSection_eq_ok.mpr (Or.inr ⟨u, w, hfield.trans hold, hw, rfl⟩)⟩

end Replaced

/-- A section replaced by one that the ceiling pass raises over, with the pass getting through to it. -/
theorem enforce_replace_raises {c : JsonDict} (hfilters : e.Filterable uc c)
    (pre : List (String × (Json → Except PyError Json)))
    {post : List (String × (Json → Except PyError Json))} {key : String}
    {f : Json → Except PyError Json} (hsplit : e.sectionFilters uc = pre ++ (key, f) :: post)
    (hpre : ∀ s ∈ pre, e.Passes c s) {v v' w' : Json} {err : PyError}
    (hv : Json.field c key = some v) (hw' : f v' = .ok w')
    (hraises : redactIfAbove e.ceilingLevel w' = .error err) :
    e.enforce uc (replaceField c key v') = .error err := by
  have hother := e.field_replace_other uc (c := c) hsplit v'
  have hreturns := e.filterSection_replace_other uc hfilters hsplit v'
  obtain ⟨as, has⟩ := mapM_returns fun s hs => hreturns s (List.mem_append_left _ hs)
  obtain ⟨bs, hbs⟩ := mapM_returns fun s hs => hreturns s (List.mem_append_right _ hs)
  have hself : filterSection (replaceField c key v') key f = .ok [(key, w')] := by
    refine filterSection_eq_ok.mpr (Or.inr ⟨v', w', ?_, hw', rfl⟩)
    rw [field_replaceField, if_pos rfl, hv]
    rfl
  have hall : ((e.sectionFilters uc).mapM fun s => filterSection (replaceField c key v') s.1 s.2) =
      .ok (as ++ [(key, w')] :: bs) := by
    rw [hsplit, mapM_eq_ok_iff]
    exact List.rel_append (mapM_eq_ok_iff.mp has) (.cons hself (mapM_eq_ok_iff.mp hbs))
  have hreadable : ReadableFields e.ceilingLevel as.flatten := by
    rw [readableFields_iff]
    intro p hp
    obtain ⟨a, ha, hp⟩ := List.mem_flatten.mp hp
    obtain ⟨s, hs, hfs⟩ := mem_mapM has ha
    rcases filterSection_eq_ok.mp hfs with ⟨-, rfl⟩ | ⟨u, w, hu, hw, rfl⟩
    · cases hp
    · obtain rfl := List.mem_singleton.mp hp
      rw [hother s (List.mem_append_left _ hs)] at hu
      exact hpre s hs u hu w hw
  rw [enforce_eq, hall, ok_bind, List.flatten_append, List.flatten_cons, List.singleton_append,
    redactFields_raises hreadable hraises]
  rfl

/-- An approved item of a list section exchanged for one that the pass raises over. -/
theorem keptItem_raises {ceiling : ℕ} {p : Json → Except PyError Bool} {pre post : List Json}
    {x x' w : Json} {err : PyError}
    (hw : (do return Json.arr (← filterE p (pre ++ x :: post)) : Except PyError Json) = .ok w)
    (hx : p x = .ok true) (hx' : p x' = .ok true)
    (hbefore : ∀ y ∈ pre, p y = .ok true → Readable ceiling y)
    (hraises : redactIfAbove ceiling x' = .error err) :
    ∃ w', (do return Json.arr (← filterE p (pre ++ x' :: post)) : Except PyError Json) = .ok w' ∧
      redactIfAbove ceiling w' = .error err := by
  obtain ⟨k, hk, -⟩ := bind_eq_ok_iff.mp hw
  obtain ⟨pre', post', -, hpre', hexchange⟩ := filterE_at hk hx
  refine ⟨.arr (pre' ++ x' :: post'), by rw [hexchange x' hx']; rfl, ?_⟩
  have hreadable : ReadableItems ceiling pre' :=
    readableItems_iff.mpr fun y hy => hbefore y (hpre' y hy).1 (hpre' y hy).2
  rw [redactIfAbove, redactItems_raises hreadable hraises]
  rfl

/-- An entry kept of a dict section exchanged likewise. -/
theorem keptEntries_raise {ids : List String} {ceiling : ℕ} {p : String → Bool} {d : JsonDict}
    {bad : Json} {err : PyError}
    (hbad : ∀ d, Json.field d "classification" = some bad → classificationLevel d = .error err)
    (h : ReachesBelow ids ceiling (d.filter fun q => p q.1)) :
    ∃ d', DiffersInFields ids d d' ∧
      redactIfAbove ceiling (.obj (d'.filter fun q => p q.1)) = .error err := by
  generalize hkept : (d.filter fun q => p q.1) = kept at h
  obtain @⟨pre, post, k, v, level, hlevel, hle, hpre, hv⟩ := h
  obtain ⟨v', hdiff, hraises⟩ := hv.raises hbad
  obtain ⟨first, rest, rfl, hfirst, hrest⟩ := List.filter_eq_append_iff.mp hkept
  obtain ⟨skipped, after, rfl, hskipped, hk, hafter⟩ := List.filter_eq_cons_iff.mp hrest
  refine ⟨(first ++ skipped) ++ (k, v') :: after, ?_, ?_⟩
  · rw [← List.append_assoc]
    exact .at hdiff k (first ++ skipped) after
  · have hnone : (skipped.filter fun q => p q.1) = [] := List.filter_eq_nil_iff.mpr hskipped
    have hcons : ((k, v') :: after).filter (fun q => p q.1) =
        (k, v') :: after.filter fun q => p q.1 := List.filter_cons_of_pos hk
    rw [List.filter_append, List.filter_append, hfirst, hnone, List.append_nil, hcons, hafter]
    exact redact_field_raises hlevel hle hpre hdiff hraises

theorem enforce_exposed {c : JsonDict} (h : e.Exposes uc c) {bad : Json} {err : PyError}
    (hbad : ∀ d, Json.field d "classification" = some bad → classificationLevel d = .error err) :
    ∃ c', DiffersOnly e.scope.allowedControlObjectIds c c' ∧ e.enforce uc c' = .error err := by
  cases h with
  | @controlObject pre post x hfilters hfield hx hbefore hreaches =>
    obtain ⟨x', hdiff, hraises⟩ := hreaches.raises hbad
    obtain ⟨w, hw⟩ := hfilters ("control_objects", e.filterControlObjects) (by simp [sectionFilters])
      _ hfield
    obtain ⟨w', hw', hraises'⟩ := keptItem_raises hw hx
      ((e.approvesObject_differs hdiff).trans hx) hbefore hraises
    refine ⟨_, differsOnly_replaceField hfield (fun _ => Or.inr ⟨_, _, rfl, rfl, ?_⟩) (by simp)
      (by simp), e.enforce_replace_raises uc hfilters [] rfl (List.forall_mem_nil _) hfield
        hw' hraises'⟩
    exact UpTo.of_forall₂ (forall₂_at DiffersIn.same pre post hdiff)
  | @relationship pre post d hfilters hobjects hfield hx hbefore hreaches =>
    obtain ⟨d', hdiff, hraises⟩ := hreaches.raises hbad
    obtain ⟨w, hw⟩ := hfilters ("relationships", e.filterRelationships) (by simp [sectionFilters])
      _ hfield
    have hfields : FieldsDiffer e.scope.allowedControlObjectIds (.obj d) (.obj d') :=
      Or.inr ⟨d, d', rfl, rfl, hdiff⟩
    obtain ⟨w', hw', hraises'⟩ := keptItem_raises hw hx
      ((e.approvesRelationship_differs hfields).trans hx) hbefore hraises
    refine ⟨_, differsOnly_replaceField hfield (by simp) (fun _ => Or.inr ⟨_, _, rfl, rfl, ?_⟩)
      (by simp), e.enforce_replace_raises uc hfilters [_] rfl (by simpa using hobjects) hfield
        hw' hraises'⟩
    exact forall₂_at (R := FieldsDiffer _) (fun _ => Or.inl rfl) pre post hfields
  | @graphData d hfilters hobjects hrelationships hfield hreaches =>
    obtain ⟨d', hdiff, hraises⟩ :=
      keptEntries_raise (p := fun k => getNodeDepth uc k ≤ e.scope.maxGraphDepth) hbad hreaches
    exact ⟨_, differsOnly_replaceField hfield (by simp) (by simp)
      fun _ => Or.inr ⟨_, _, rfl, rfl, hdiff⟩,
      e.enforce_replace_raises uc hfilters [_, _] rfl
        (by simpa using ⟨hobjects, hrelationships⟩) hfield rfl hraises⟩
  | @planeData d hfilters hobjects hrelationships hgraph hfield hreaches =>
    obtain ⟨d', hdiff, hraises⟩ :=
      keptEntries_raise (p := fun k => k ∈ e.scope.allowedOperationalPlanes) hbad hreaches
    exact ⟨_, differsOnly_replaceField hfield (by simp) (by simp)
      fun _ => Or.inr ⟨_, _, rfl, rfl, hdiff⟩,
      e.enforce_replace_raises uc hfilters [_, _, _] rfl
        (by simpa using ⟨hobjects, hrelationships, hgraph⟩) hfield rfl hraises⟩

/-- The outcome for a context, a result or an exception, depends on the data of unapproved objects
exactly when the context exposes such an object. -/
theorem enforce_confined_iff (c : JsonDict) :
    (∀ c', DiffersOnly e.scope.allowedControlObjectIds c c' → e.enforce uc c' = e.enforce uc c) ↔
      ¬ e.Exposes uc c := by
  constructor
  · intro h hexposed
    have hlist : ∀ d, Json.field d "classification" = some (.arr []) →
        classificationLevel d = .error (unhashable "list") :=
      fun d hd => by rw [classificationLevel, hd]
    have hdict : ∀ d, Json.field d "classification" = some (.obj []) →
        classificationLevel d = .error (unhashable "dict") :=
      fun d hd => by rw [classificationLevel, hd]
    obtain ⟨c₁, hdiff₁, hc₁⟩ := e.enforce_exposed uc hexposed hlist
    obtain ⟨c₂, hdiff₂, hc₂⟩ := e.enforce_exposed uc hexposed hdict
    have hsame := (h c₁ hdiff₁).trans (h c₂ hdiff₂).symm
    rw [hc₁, hc₂] at hsame
    exact absurd hsame (by simp [unhashable, toString])
  · exact fun hno c' hdiff => e.enforce_unexposed uc hno hdiff

end ScopeEnforcer

/-- A finding about an object, in data of the risk plane. -/
def riskData (id : String) (finding : ℤ) : Json :=
  .obj [("risk", .obj [("id", .str id), ("finding", .int finding)])]

/-- The sanitised context a context of risk data is passed on as. -/
def riskContext (id : String) (finding : ℤ) : JsonDict :=
  [("plane_data", riskData id finding),
    ("_scope_metadata", riskScope.scopeMetadata [("plane_data", riskData id finding)])]

theorem enforce_riskData (id : String) (finding : ℤ) :
    riskScope.enforce .ascii [("plane_data", riskData id finding)] =
      .ok (riskContext id finding) := rfl

/-- Findings about an object that is not in scope reach the sanitised context. -/
theorem enforce_riskData_leaks :
    ¬ ∀ (uc : Unicode) (e : ScopeEnforcer) (c c' : JsonDict),
      DiffersOnly e.scope.allowedControlObjectIds c c' → e.enforce uc c' = e.enforce uc c := by
  intro h
  have hdiff : DiffersOnly riskScope.scope.allowedControlObjectIds
      [("plane_data", riskData "obj-9" 1)] [("plane_data", riskData "obj-9" 2)] := {
    controlObjects := .none
    relationships := .none
    graphData := .none
    planeData := .some (Or.inr ⟨_, _, rfl, rfl, .cons (.object rfl rfl rfl) .nil⟩) }
  have hsame := h .ascii riskScope _ _ hdiff
  rw [enforce_riskData, enforce_riskData] at hsame
  simp [riskContext, riskData] at hsame

end ControlFabric.Inference
