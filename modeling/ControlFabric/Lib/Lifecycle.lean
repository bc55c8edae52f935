import ControlFabric.Lib.Run

/-! Actions that are proposed, approved, rejected and released: what a run must keep to, and the
condition on its steps under which it does. -/
namespace Lib.Lifecycle

inductive Mode where
  | dryRun
  | gated
  | auto
  deriving DecidableEq

inductive Phase where
  | waiting
  | approved
  | released
  | rejected
  deriving DecidableEq

/-- What is known of an action. -/
structure Action where
  mode : Mode
  phase : Phase
  deriving DecidableEq

/-- What a step does, and to which action. -/
inductive Event (κ : Type*) where
  | proposed (a : κ)
  | approved (a : κ)
  | rejected (a : κ)
  | released (a : κ)
  deriving DecidableEq

def Event.subject {κ : Type*} : Event κ → κ
  | proposed a | approved a | rejected a | released a => a

/-- Whether an event leaves an action in this phase as it was decided. -/
def Event.Fits {κ : Type*} : Event κ → Phase → Prop
  | proposed _, _ | released _, _ => True
  | approved _, phase => phase ≠ .released ∧ phase ≠ .rejected
  | rejected _, phase => phase ≠ .released

instance {κ : Type*} (e : Event κ) (phase : Phase) : Decidable (e.Fits phase) :=
  match e with
  | .proposed _ | .released _ => .isTrue trivial
  | .approved _ => inferInstanceAs (Decidable (phase ≠ .released ∧ phase ≠ .rejected))
  | .rejected _ => inferInstanceAs (Decidable (phase ≠ .released))

/-- How an event bears on one action: only a proposed action comes into being, only a gated one is
approved, and only an approved or an automatic one is released. -/
inductive Moves {κ : Type*} (a : κ) : Option (Event κ) → Option Action → Option Action → Prop
  | idle (x : Option Action) : Moves a none x x
  | elsewhere {e : Event κ} (x : Option Action)
      (he : e ≠ .proposed a ∧ e ≠ .approved a ∧ e ≠ .rejected a ∧ e ≠ .released a) :
      Moves a (some e) x x
  | proposed (mode : Mode) : Moves a (some (.proposed a)) none (some ⟨mode, .waiting⟩)
  | approved (phase : Phase) :
      Moves a (some (.approved a)) (some ⟨.gated, phase⟩) (some ⟨.gated, .approved⟩)
  | rejected (mode : Mode) (phase : Phase) :
      Moves a (some (.rejected a)) (some ⟨mode, phase⟩) (some ⟨mode, .rejected⟩)
  | releasedGated :
      Moves a (some (.released a)) (some ⟨.gated, .approved⟩) (some ⟨.gated, .released⟩)
  | releasedAuto :
      Moves a (some (.released a)) (some ⟨.auto, .waiting⟩) (some ⟨.auto, .released⟩)

section Law
variable {σ ι κ : Type*} (step : ι → σ → σ) (event : ι → σ → Option (Event κ))
  (view : σ → κ → Option Action)

/-- Released and rejected actions are not decided again. -/
def Undecided (i : ι) (s : σ) : Prop := ∀ e ∈ event i s, ∀ x ∈ view s e.subject, e.Fits x.phase

instance (i : ι) (s : σ) : Decidable (Undecided event view i s) :=
  inferInstanceAs (Decidable (∀ e ∈ event i s, ∀ x ∈ view s e.subject, e.Fits x.phase))

/-- What every run has to keep to, at each of its steps. -/
structure Lawful (s : σ) (ops : List ι) : Prop where
  once : ∀ a pre i mid j post, ops = pre ++ i :: (mid ++ j :: post) →
    event i (run step s pre) = some (.released a) →
      event j (run step s (pre ++ i :: mid)) ≠ some (.released a)
  rejected : ∀ a pre mid j post, ops = pre ++ (mid ++ j :: post) →
    (∃ mode, view (run step s pre) a = some ⟨mode, .rejected⟩) →
      event j (run step s (pre ++ mid)) ≠ some (.released a)
  stable : ∀ a mode pre mid post, ops = pre ++ (mid ++ post) →
    view (run step s pre) a = some ⟨mode, .released⟩ →
      view (run step s (pre ++ mid)) a = some ⟨mode, .released⟩
  dryRun : ∀ a pre j post phase, ops = pre ++ j :: post →
    view (run step s pre) a = some ⟨.dryRun, phase⟩ →
      event j (run step s pre) ≠ some (.released a)
  gated : ∀ a pre j post phase, ops = pre ++ j :: post →
    event j (run step s pre) = some (.released a) →
      view (run step s pre) a = some ⟨.gated, phase⟩ →
        ∃ before i after, pre = before ++ i :: after ∧
          event i (run step s before) = some (.approved a)

variable {step event view} {a : κ} {i : ι} {s : σ}

/-- A decided action. -/
def Phase.Final (phase : Phase) : Prop := phase = .released ∨ phase = .rejected

theorem Moves.off {e : Event κ} (h : a ≠ e.subject) (x : Option Action) : Moves a (some e) x x := by
  apply Moves.elsewhere
  cases e <;> simp_all [Event.subject, eq_comm]

/-- Only a proposal brings an action into being. -/
theorem Moves.born {e : Option (Event κ)} {x y : Option Action} (h : Moves a e x y)
    (hy : y ≠ none) : x ≠ none ∨ e = some (.proposed a) := by
  cases h with
  | idle | elsewhere _ _ => exact Or.inl hy
  | proposed _ => exact Or.inr rfl
  | approved _ | rejected _ _ | releasedGated | releasedAuto => exact Or.inl (Option.some_ne_none _)

theorem Moves.not_released {x y : Option Action} {mode : Mode} {phase : Phase}
    (h : Moves a (some (.released a)) x y) (hx : x = some ⟨mode, phase⟩) :
    ¬ phase.Final ∧ mode ≠ .dryRun ∧ (mode = .gated → phase = .approved) ∧
      y = some ⟨mode, .released⟩ := by
  subst hx
  cases h with
  | elsewhere _ he => exact absurd rfl he.2.2.2
  | releasedGated => simp [Phase.Final]
  | releasedAuto => simp [Phase.Final]

/-- The event of a release is that an action turns released. -/
theorem Moves.released_iff {e : Option (Event κ)} {x y : Option Action} (h : Moves a e x y) :
    e = some (.released a) ↔ x ≠ y ∧ ∃ mode, y = some ⟨mode, .released⟩ := by
  cases h with
  | idle => simp
  | elsewhere _ he => simp [he.2.2.2]
  | proposed | approved | rejected | releasedGated | releasedAuto => simp

/-- A step that decides no decided action leaves each as it is. -/
theorem Moves.final {mode : Mode} {phase : Phase} {y : Option Action}
    (h : Moves a (event i s) (view s a) y) (hfinal : phase.Final)
    (hview : view s a = some ⟨mode, phase⟩) (hundecided : Undecided event view i s) :
    y = some ⟨mode, phase⟩ := by
  unfold Undecided at hundecided
  rw [hview] at h
  generalize event i s = e at h hundecided
  cases h with
  | idle => rfl
  | elsewhere _ _ => rfl
  | approved _ =>
    obtain ⟨hreleased, hrejected⟩ := hundecided _ rfl _ hview
    rcases hfinal with rfl | rfl
    · exact absurd rfl hreleased
    · exact absurd rfl hrejected
  | rejected _ _ =>
    have hreleased := hundecided _ rfl _ hview
    rcases hfinal with rfl | rfl
    · exact absurd rfl hreleased
    · rfl
  | releasedGated => rcases hfinal with h | h <;> simp at h
  | releasedAuto => rcases hfinal with h | h <;> simp at h

section Run
variable {I : σ → List ι → Prop} (hI : ∀ s i ops, I s (i :: ops) → I (step i s) ops)
  (hmoves : ∀ s i ops, I s (i :: ops) → ∀ a, Moves a (event i s) (view s a) (view (step i s) a))
include hI hmoves

/-- A decided action stays as it is over a run that decides none again. -/
theorem final_run {mode : Mode} {phase : Phase} (hfinal : phase.Final) {ops ops' : List ι}
    (hs : I s (ops ++ ops')) (hundecided : Conforms step (Undecided event view) s ops)
    (hview : view s a = some ⟨mode, phase⟩) : view (run step s ops) a = some ⟨mode, phase⟩ := by
  induction ops generalizing s with
  | nil => exact hview
  | cons i ops ih =>
    have hnext := (hmoves s i (ops ++ ops') hs a).final hfinal hview hundecided.1
    exact ih (hI s i (ops ++ ops') hs) hundecided.2 hnext

/-- A gated action that is approved has been approved by a step of the run. -/
theorem approved_run {ops ops' : List ι} (hs : I s (ops ++ ops')) (hnone : view s a = none)
    (hview : view (run step s ops) a = some ⟨.gated, .approved⟩) :
    ∃ before i after, ops = before ++ i :: after ∧
      event i (run step s before) = some (.approved a) := by
  induction ops using List.reverseRecOn generalizing ops' with
  | nil =>
    rw [run_nil, hnone] at hview
    cases hview
  | append_singleton ops i ih =>
    rw [List.append_assoc] at hs
    have hmove := hmoves _ i ops' (resource_run step hI hs) a
    rw [← run_concat step s ops i, hview] at hmove
    generalize hevent : event i (run step s ops) = e at hmove
    generalize hbefore : view (run step s ops) a = x at hmove
    cases hmove with
    | approved _ => exact ⟨ops, i, [], rfl, hevent⟩
    | idle | elsewhere _ _ =>
      obtain ⟨before, j, after, hsplit, hj⟩ := ih hs hbefore
      exact ⟨before, j, after ++ [i], by rw [hsplit]; simp, hj⟩

/-- A run that decides no decided action again is lawful. -/
theorem lawful_of_undecided {ops : List ι} (hs : I s ops) (hnone : ∀ a, view s a = none)
    (hundecided : Conforms step (Undecided event view) s ops) :
    Lawful step event view s ops := by
  have hpart (pre mid post : List ι) (hops : ops = pre ++ (mid ++ post)) :
      I (run step s pre) (mid ++ post) ∧
        Conforms step (Undecided event view) (run step s pre) mid := by
    subst hops
    refine ⟨resource_run step hI hs, ?_⟩
    rw [conforms_iff_split] at hundecided ⊢
    intro before i after hmid
    rw [← run_append]
    exact hundecided (pre ++ before) i (after ++ post) (by rw [hmid]; simp)
  have hkeep (a : κ) (mode : Mode) (phase : Phase) (hfinal : phase.Final)
      (pre mid post : List ι) (hops : ops = pre ++ (mid ++ post))
      (hview : view (run step s pre) a = some ⟨mode, phase⟩) :
      view (run step s (pre ++ mid)) a = some ⟨mode, phase⟩ := by
    obtain ⟨hres, hconf⟩ := hpart pre mid post hops
    rw [run_append]
    exact final_run hI hmoves hfinal hres hconf hview
  have hmove (a : κ) (pre : List ι) (j : ι) (post : List ι) (hops : ops = pre ++ j :: post) :
      Moves a (event j (run step s pre)) (view (run step s pre) a)
        (view (run step s (pre ++ [j])) a) := by
    rw [run_concat]
    exact hmoves _ j post (resource_run step hI (hops ▸ hs)) a
  -- A final action is not released.
  have hnot (a : κ) (mode : Mode) (phase : Phase) (hfinal : phase.Final) (pre : List ι) (j : ι)
      (post : List ι) (hops : ops = pre ++ j :: post)
      (hview : view (run step s pre) a = some ⟨mode, phase⟩) :
      event j (run step s pre) ≠ some (.released a) := by
    intro hevent
    have h := hmove a pre j post hops
    rw [hevent] at h
    exact (h.not_released hview).1 hfinal
  constructor
  · intro a pre i mid j post hops hevent
    have h := hmove a pre i (mid ++ j :: post) hops
    rw [hevent] at h
    obtain ⟨-, mode, hview⟩ := h.released_iff.mp rfl
    have hlater := hkeep a mode .released (Or.inl rfl) (pre ++ [i]) mid (j :: post)
      (by rw [hops]; simp) hview
    rw [List.append_assoc, List.singleton_append] at hlater
    exact hnot a mode .released (Or.inl rfl) _ j post (by rw [hops]; simp) hlater
  · rintro a pre mid j post hops ⟨mode, hview⟩
    have hlater := hkeep a mode .rejected (Or.inr rfl) pre mid (j :: post) hops hview
    exact hnot a mode .rejected (Or.inr rfl) _ j post (by rw [hops]; simp) hlater
  · intro a mode pre mid post hops hview
    exact hkeep a mode .released (Or.inl rfl) pre mid post hops hview
  · intro a pre j post phase hops hview hevent
    have h := hmove a pre j post hops
    rw [hevent] at h
    exact (h.not_released hview).2.1 rfl
  · intro a pre j post phase hops hevent hview
    have h := hmove a pre j post hops
    rw [hevent] at h
    have hphase := (h.not_released hview).2.2.1 rfl
    subst hphase
    exact approved_run hI hmoves (hops ▸ hs) (hnone a) hview

end Run

/-! A system whose actions are named by draws: `K` is what its steps keep. -/
section Draws
variable {K : σ → Prop} {draws : σ → ℕ} {uuid : ℕ → κ}

variable (step event view K draws uuid) in
structure Draws : Prop where
  keeps : ∀ s i, K s → K (step i s)
  draws_le : ∀ s i, K s → draws s ≤ draws (step i s)
  drawn : ∀ s i a, K s → event i s = some (.proposed a) →
    ∃ n, draws s ≤ n ∧ n < draws (step i s) ∧ a = uuid n
  moves : ∀ s i a, K s → (event i s = some (.proposed a) → view s a = none) →
    Moves a (event i s) (view s a) (view (step i s) a)

theorem Draws.draws_run_le (h : Draws step event view K draws uuid) (hK : K s) (ops : List ι) :
    draws s ≤ draws (run step s ops) := by
  induction ops generalizing s with
  | nil => exact le_rfl
  | cons i ops ih => exact (h.draws_le s i hK).trans (ih (h.keeps s i hK))

variable (step view K draws uuid) in
/-- The actions there are have been named by draws, and no name is drawn twice. -/
structure Named (s : σ) (ops : List ι) : Prop where
  kept : K s
  distinct : Set.InjOn uuid (Set.Iio (draws (run step s ops)))
  named : ∀ a, view s a ≠ none → ∃ n < draws s, a = uuid n

/-- The name of a proposed action is new. -/
theorem Draws.moves_of_named (h : Draws step event view K draws uuid) {ops : List ι}
    (hs : Named step view K draws uuid s (i :: ops)) (a : κ) :
    Moves a (event i s) (view s a) (view (step i s) a) := by
  apply h.moves s i a hs.kept
  intro hevent
  by_contra hview
  obtain ⟨n, hn, rfl⟩ := hs.named a hview
  obtain ⟨m, hle, hlt, hm⟩ := h.drawn s i _ hs.kept hevent
  have hend : draws (step i s) ≤ draws (run step s (i :: ops)) :=
    h.draws_run_le (h.keeps s i hs.kept) ops
  have hsame : n = m := hs.distinct (Set.mem_Iio.mpr (by omega)) (Set.mem_Iio.mpr (by omega)) hm
  omega

theorem Draws.named_step (h : Draws step event view K draws uuid) {ops : List ι}
    (hs : Named step view K draws uuid s (i :: ops)) :
    Named step view K draws uuid (step i s) ops where
  kept := h.keeps s i hs.kept
  distinct := hs.distinct
  named := by
    intro a hview
    have hle := h.draws_le s i hs.kept
    rcases (h.moves_of_named hs a).born hview with hold | hevent
    · obtain ⟨n, hn, rfl⟩ := hs.named a hold
      exact ⟨n, by omega, rfl⟩
    · obtain ⟨n, -, hn, rfl⟩ := h.drawn s i a hs.kept hevent
      exact ⟨n, hn, rfl⟩

theorem Draws.lawful (h : Draws step event view K draws uuid) {ops : List ι} (hK : K s)
    (hnone : ∀ a, view s a = none) (huuid : Set.InjOn uuid (Set.Iio (draws (run step s ops))))
    (hundecided : Conforms step (Undecided event view) s ops) : Lawful step event view s ops := by
  have hs : Named step view K draws uuid s ops :=
    ⟨hK, huuid, fun a hview => absurd (hnone a) hview⟩
  apply lawful_of_undecided (I := Named step view K draws uuid) _ _ hs hnone hundecided
  · exact fun s i ops hs => h.named_step hs
  · exact fun s i ops hs => h.moves_of_named hs

end Draws
end Law
end Lib.Lifecycle
