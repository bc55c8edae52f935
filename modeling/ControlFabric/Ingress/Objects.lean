import ControlFabric.Ingress.Pipeline

/-! Which extracted fields make control objects, and what is drawn for them. -/
namespace ControlFabric.Ingress
open Lib Method Py

/-- What the constructor of a control object accepts. -/
structure Constructible (e : Extracted) : Prop where
  name : ∃ s, e.name = .str s ∧ s.length ≤ 500
  description : ∃ s, e.description = .str s
  schemaNamespace : ∃ s, e.schemaNamespace = .str s
  tags : ∃ tags : List String, e.tags = .arr (tags.map .str)

/-- A time that stands for any. -/
def someTime : DateTime := Runtime.reference.now 0

def maskedSource (source : ControlObjectProvenance) : ControlObjectProvenance :=
  { source with ingestedAt := someTime }

/-- The object without what is drawn for it: its identifier, its times and the hash over them. -/
def masked (obj : ControlObject) : ControlObject :=
  { obj with
    objectId := ""
    provenance := maskedSource obj.provenance
    createdAt := someTime
    updatedAt := someTime
    objectHash := "" }

section Fields

@[simp] theorem str?_eq_some {v : Json} {s : String} : str? v = some s ↔ v = .str s := by
  cases v <;> simp [str?]

theorem textField_ok_iff {v : Json} {loc : String} :
    (∃ s, textField loc v = .ok s) ↔ ∃ s, v = .str s := by
  cases v <;> simp [textField, str?]

theorem nameField_ok_iff {v : Json} :
    (∃ s, nameField v = .ok s) ↔ ∃ s, v = .str s ∧ s.length ≤ 500 := by
  cases v with
  | str s =>
    by_cases hs : 500 < s.length
    · simp [nameField, textField, str?, bind, Except.bind, hs]
    · simp [nameField, textField, str?, bind, Except.bind, hs, pure, Except.pure, not_lt.mp hs]
  | _ => simp [nameField, textField, str?, bind, Except.bind]

theorem mapM_str?_eq_some {items : List Json} {tags : List String} :
    items.mapM str? = some tags ↔ items = tags.map .str := by
  induction items generalizing tags with
  | nil => cases tags <;> simp
  | cons v items ih =>
    cases v with
    | str s =>
      cases tags with
      | nil => cases hitems : items.mapM str? <;> simp [List.mapM_cons, str?, hitems]
      | cons tag tags =>
        have hih := @ih tags
        cases hitems : items.mapM str? <;> simp_all [List.mapM_cons, str?]
    | _ => cases tags <;> simp [List.mapM_cons, str?]

theorem tagsField_ok_iff {v : Json} :
    (∃ tags, tagsField v = .ok tags) ↔ ∃ tags : List String, v = .arr (tags.map .str) := by
  cases v with
  | arr items =>
    cases h : items.mapM str? with
    | none =>
      have hno : ∀ tags : List String, items ≠ tags.map .str := by
        intro tags heq
        rw [mapM_str?_eq_some.mpr heq] at h
        cases h
      simp [tagsField, h, hno]
    | some tags =>
      have hitems := mapM_str?_eq_some.mp h
      have hok : tagsField (.arr items) = .ok tags := by simp only [tagsField, h]
      exact iff_of_true ⟨tags, hok⟩ ⟨tags, by rw [hitems]⟩
  | _ => simp [tagsField]

end Fields

section Construct
variable {rt : Runtime} {source source' : ControlObjectProvenance} {plane : String} {e : Extracted}

variable (rt plane) in
theorem construct_ok (h : Constructible e) :
    ∃ name description schemaNamespace tags, ∀ n source, construct rt n source plane e =
      .ok (build rt n source plane e name description schemaNamespace tags) := by
  obtain ⟨name, hname⟩ := nameField_ok_iff.mpr h.name
  obtain ⟨description, hdescription⟩ :=
    (@textField_ok_iff e.description "description").mpr h.description
  obtain ⟨schemaNamespace, hnamespace⟩ :=
    (@textField_ok_iff e.schemaNamespace "schema_namespace").mpr h.schemaNamespace
  obtain ⟨tags, htags⟩ := tagsField_ok_iff.mpr h.tags
  refine ⟨name, description, schemaNamespace, tags, fun n source => ?_⟩
  simp only [construct, hname, hdescription, hnamespace, htags]

variable (rt plane) in
theorem construct_error (h : ¬ Constructible e) :
    ∃ message, ∀ n source, construct rt n source plane e = .error (.validationError message) := by
  refine ⟨"\n".intercalate (fieldErrors (nameField e.name) ++
    fieldErrors (textField "description" e.description) ++
    fieldErrors (textField "schema_namespace" e.schemaNamespace) ++
    fieldErrors (tagsField e.tags)), fun n source => ?_⟩
  unfold construct
  split
  next name description schemaNamespace tags hname hdescription hnamespace htags =>
    exact absurd ⟨nameField_ok_iff.mp ⟨name, hname⟩,
      textField_ok_iff.mp ⟨description, hdescription⟩,
      textField_ok_iff.mp ⟨schemaNamespace, hnamespace⟩, tagsField_ok_iff.mp ⟨tags, htags⟩⟩ h
  next => rfl

variable (rt source plane) in
/-- What the objects made of the extracted fields are, but for what is drawn. -/
def maskedObjects (l : List Extracted) : List ControlObject :=
  l.filterMap fun e =>
    match construct rt 0 (maskedSource source) plane e with
    | .ok obj => some (masked obj)
    | .error _ => none

variable {σ : Type} {l : List Extracted}

variable (rt source plane) in
theorem run_constructAll (hl : ∀ e ∈ l, Constructible e) (w : World σ) :
    ∃ objs, (constructAll rt source plane l).run w = .ok objs ⟨w.self, w.env.tick l.length⟩ ∧
      objs.map ControlObject.objectId = (List.range' w.env.draws l.length).map rt.uuid4 ∧
      (∀ obj ∈ objs, obj.operationalPlane = plane) ∧
      objs.map masked = maskedObjects rt source plane l := by
  induction l generalizing w with
  | nil => exact ⟨[], rfl, rfl, by simp, rfl⟩
  | cons e l ih =>
    rw [List.forall_mem_cons] at hl
    obtain ⟨name, description, ns, tags, hmade⟩ := construct_ok rt plane hl.1
    obtain ⟨objs, hrun, hids, hplanes, hmasked⟩ := ih hl.2 ⟨w.self, w.env.tick 1⟩
    refine ⟨build rt w.env.draws source plane e name description ns tags :: objs, ?_, ?_, ?_, ?_⟩
    · simp only [constructAll, EStateM.run_bind, run_draw_tick, hmade, run_lift_ok, hrun,
        run_pure, Env.tick_tick, List.length_cons, Nat.add_comm]
    · rw [List.map_cons, hids, List.length_cons, List.range'_succ, List.map_cons]
      rfl
    · rw [List.forall_mem_cons]
      exact ⟨rfl, hplanes⟩
    · rw [List.map_cons, hmasked, maskedObjects, maskedObjects, List.filterMap_cons, hmade]
      rfl

variable (rt source plane) in
theorem run_constructAll_error (hl : ¬ ∀ e ∈ l, Constructible e) (w : World σ) :
    ∃ message env', (constructAll rt source plane l).run w =
      .error (.validationError message) ⟨w.self, env'⟩ ∧ w.env.draws ≤ env'.draws := by
  induction l generalizing w with
  | nil => simp at hl
  | cons e l ih =>
    by_cases he : Constructible e
    · obtain ⟨name, description, ns, tags, hmade⟩ := construct_ok rt plane he
      have hrest : ¬ ∀ d ∈ l, Constructible d := fun hrest =>
        hl (List.forall_mem_cons.mpr ⟨he, hrest⟩)
      obtain ⟨message, env', hrun, hle⟩ := ih hrest ⟨w.self, w.env.tick 1⟩
      refine ⟨message, env', ?_, (Nat.le_succ _).trans hle⟩
      simp only [constructAll, EStateM.run_bind, run_draw_tick, hmade, run_lift_ok, hrun]
    · obtain ⟨message, hno⟩ := construct_error rt plane he
      refine ⟨message, w.env.tick 1, ?_, Nat.le_succ _⟩
      simp only [constructAll, EStateM.run_bind, run_draw_tick, hno, run_lift_error]

end Construct

section Normalise
variable (rt : Runtime) {ip : Interpreter} {artefact : RawArtefact} (plane : String) {σ : Type}

theorem run_normaliseToObjects_failed {e : PyError} (h : extract ip artefact = .error e)
    (w : World σ) : (normaliseToObjects rt ip artefact plane).run w =
      .error (.normalisationError
        s!"Normalisation failed: {reprList rt.isPrintable [e.message]}") w := by
  simp [normaliseToObjects, normalise, h]

theorem run_normaliseToObjects_extracted {l : List Extracted} (h : extract ip artefact = .ok l)
    (w : World σ) : (normaliseToObjects rt ip artefact plane).run w =
      (constructAll rt (provenance rt ip w.env.draws artefact) plane l).run
        ⟨w.self, w.env.tick 1⟩ := by
  simp [normaliseToObjects, normalise, h]
  rfl

theorem run_normaliseToObjects {l : List Extracted} (h : extract ip artefact = .ok l)
    (hl : ∀ e ∈ l, Constructible e) (w : World σ) :
    ∃ objs, (normaliseToObjects rt ip artefact plane).run w =
        .ok objs ⟨w.self, w.env.tick (l.length + 1)⟩ ∧
      objs.map ControlObject.objectId = (List.range' (w.env.draws + 1) l.length).map rt.uuid4 ∧
      (∀ obj ∈ objs, obj.operationalPlane = plane) ∧
      objs.map masked = maskedObjects rt (provenance rt ip 0 artefact) plane l := by
  obtain ⟨objs, hrun, hids, hplanes, hmasked⟩ := run_constructAll rt
    (provenance rt ip w.env.draws artefact) plane hl ⟨w.self, w.env.tick 1⟩
  refine ⟨objs, ?_, hids, hplanes, hmasked⟩
  rw [run_normaliseToObjects_extracted rt plane h, hrun, Env.tick_tick, Nat.add_comm]

theorem run_normaliseToObjects_error {l : List Extracted} (h : extract ip artefact = .ok l)
    (hl : ¬ ∀ e ∈ l, Constructible e) (w : World σ) :
    ∃ message env', (normaliseToObjects rt ip artefact plane).run w =
      .error (.validationError message) ⟨w.self, env'⟩ ∧ w.env.draws ≤ env'.draws := by
  obtain ⟨message, env', hrun, hle⟩ := run_constructAll_error rt
    (provenance rt ip w.env.draws artefact) plane hl ⟨w.self, w.env.tick 1⟩
  refine ⟨message, env', ?_, (Nat.le_succ _).trans hle⟩
  rw [run_normaliseToObjects_extracted rt plane h, hrun]

end Normalise
end ControlFabric.Ingress
