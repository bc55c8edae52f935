import Mathlib.Data.List.Infix
import Mathlib.Tactic
import Mathlib.Data.List.Basic
import Mathlib.Data.Set.Function

/-! Runs of a deterministic system over a list of operations: invariants, properties of every state
reached, the exact condition on the steps under which such a property holds, sums over the steps, what
is held after operations that remove and add, names that are drawn, and courses of states. -/
namespace Lib

section Runs
variable {σ ι : Type*} (step : ι → σ → σ)

def run (s : σ) (ops : List ι) : σ := ops.foldl (fun s i => step i s) s

@[simp] theorem run_nil (s : σ) : run step s [] = s := rfl

@[simp] theorem run_cons (s : σ) (i : ι) (ops : List ι) :
    run step s (i :: ops) = run step (step i s) ops := rfl

theorem run_append (s : σ) (ops ops' : List ι) :
    run step s (ops ++ ops') = run step (run step s ops) ops' := List.foldl_append ..

theorem run_concat (s : σ) (ops : List ι) (i : ι) :
    run step s (ops ++ [i]) = step i (run step s ops) := by simp [run_append]

/-- What one step of the listed operations preserves, the whole run preserves. -/
theorem run_invariant {I : σ → Prop} {ops : List ι} (hstep : ∀ i ∈ ops, ∀ s, I s → I (step i s))
    {s : σ} (hs : I s) : I (run step s ops) := by
  induction ops generalizing s with
  | nil => exact hs
  | cons i ops ih =>
    exact ih (fun j hj => hstep j (List.mem_cons_of_mem _ hj)) (hstep i List.mem_cons_self s hs)

/-- A reflexive, transitive relation kept by each step relates the two ends of a run. -/
theorem run_rel {R : σ → σ → Prop} (hrefl : ∀ s, R s s) (htrans : ∀ a b c, R a b → R b c → R a c)
    (hstep : ∀ i s, R s (step i s)) (s : σ) (ops : List ι) : R s (run step s ops) := by
  induction ops generalizing s with
  | nil => exact hrefl s
  | cons i ops ih => exact htrans _ _ _ (hstep i s) (ih (step i s))

def Reachable (init s : σ) : Prop := ∃ ops, run step init ops = s

/-- Origin rule: what no step but a certain one brings forth, goes back to such a step. -/
theorem origin_run {β : Type*} {K : σ → Prop} {H : σ → β → Prop} {Q : σ → ι → β → Prop}
    (hK : ∀ s i, K s → K (step i s))
    (hstep : ∀ s i b, K s → H (step i s) b → H s b ∨ Q s i b) {s : σ} (hs : K s)
    (hnone : ∀ b, ¬ H s b) {ops : List ι} {b : β} (hb : H (run step s ops) b) :
    ∃ before i after, ops = before ++ i :: after ∧ Q (run step s before) i b := by
  induction ops using List.reverseRecOn with
  | nil => exact absurd hb (hnone b)
  | append_singleton ops i ih =>
    rw [run_concat] at hb
    have hrun : K (run step s ops) := run_invariant step (fun i _ => fun s => hK s i) hs
    rcases hstep _ i b hrun hb with hold | hnew
    · obtain ⟨before, j, after, rfl, hQ⟩ := ih hold
      exact ⟨before, j, after ++ [i], by simp, hQ⟩
    · exact ⟨ops, i, [], rfl, hnew⟩

/-- `P` holds in every state the run goes through, both ends included. -/
def Always (P : σ → Prop) : σ → List ι → Prop
  | s, [] => P s
  | s, i :: ops => P s ∧ Always P (step i s) ops

/-- Every step of the run is taken under its condition. -/
def Conforms (C : ι → σ → Prop) : σ → List ι → Prop
  | _, [] => True
  | s, i :: ops => C i s ∧ Conforms C (step i s) ops

instance Conforms.decidable (C : ι → σ → Prop) [∀ i s, Decidable (C i s)] :
    ∀ s ops, Decidable (Conforms step C s ops)
  | _, [] => .isTrue trivial
  | s, i :: ops => @instDecidableAnd _ _ _ (Conforms.decidable C (step i s) ops)

theorem always_iff_prefixes {P : σ → Prop} {s : σ} {ops : List ι} :
    Always step P s ops ↔ ∀ pre, pre <+: ops → P (run step s pre) := by
  induction ops generalizing s with
  | nil => simp [Always]
  | cons i ops ih =>
    simp only [Always, ih, List.prefix_cons_iff]
    constructor
    · rintro ⟨hs, h⟩ pre (rfl | ⟨t, rfl, ht⟩)
      · exact hs
      · exact h t ht
    · intro h
      exact ⟨h [] (Or.inl rfl), fun pre hpre => h (i :: pre) (Or.inr ⟨pre, rfl, hpre⟩)⟩

theorem Always.last {P : σ → Prop} {s : σ} {ops : List ι} (h : Always step P s ops) :
    P (run step s ops) := (always_iff_prefixes step).mp h ops (List.prefix_refl ops)

theorem conforms_iff_split {C : ι → σ → Prop} {s : σ} {ops : List ι} :
    Conforms step C s ops ↔ ∀ pre i post, ops = pre ++ i :: post → C i (run step s pre) := by
  induction ops generalizing s with
  | nil => simp [Conforms]
  | cons i ops ih =>
    simp only [Conforms, ih]
    constructor
    · rintro ⟨hi, h⟩ pre j post he
      cases pre with
      | nil =>
        obtain ⟨rfl, -⟩ := List.cons.inj he
        exact hi
      | cons k pre =>
        obtain ⟨rfl, he'⟩ := List.cons.inj he
        exact h pre j post he'
    · intro h
      exact ⟨h [] i ops rfl, fun pre j post he => h (i :: pre) j post (by rw [he]; rfl)⟩

/-- Exact condition rule: if, in states satisfying the invariant and the property, a step keeps the
property exactly when its condition holds, then the property holds in every state reached exactly
when all steps conform. -/
theorem always_iff_conforms {I P : σ → Prop} {C : ι → σ → Prop} {ops : List ι}
    (hinv : ∀ i ∈ ops, ∀ s, I s → P s → I (step i s))
    (hstep : ∀ i ∈ ops, ∀ s, I s → P s → (P (step i s) ↔ C i s)) {s : σ} (hI : I s) (hP : P s) :
    Always step P s ops ↔ Conforms step C s ops := by
  induction ops generalizing s with
  | nil => simp [Always, Conforms, hP]
  | cons i ops ih =>
    have hi := hstep i List.mem_cons_self s hI hP
    have hI' := hinv i List.mem_cons_self s hI hP
    have ih' := ih (fun j hj => hinv j (List.mem_cons_of_mem _ hj))
      (fun j hj => hstep j (List.mem_cons_of_mem _ hj)) hI'
    simp only [Always, Conforms, hP, true_and]
    constructor
    · intro h
      have hP' : P (step i s) := by cases ops with
        | nil => exact h
        | cons _ _ => exact h.1
      exact ⟨hi.mp hP', (ih' hP').mp h⟩
    · rintro ⟨hC, h⟩
      exact (ih' (hi.mpr hC)).mpr h

/-- The same, for a property of the states together with a property of the steps. -/
theorem always_and_conforms_iff {P : σ → Prop} {C D : ι → σ → Prop} {ops : List ι}
    (hstep : ∀ i ∈ ops, ∀ s, P s → (P (step i s) ∧ D i s ↔ C i s)) {s : σ} (hP : P s) :
    Always step P s ops ∧ Conforms step D s ops ↔ Conforms step C s ops := by
  induction ops generalizing s with
  | nil => simp [Always, Conforms, hP]
  | cons i ops ih =>
    have hi := hstep i List.mem_cons_self s hP
    have ih' := fun hP' => ih (fun j hj => hstep j (List.mem_cons_of_mem _ hj)) (s := step i s) hP'
    simp only [Always, Conforms, hP, true_and]
    constructor
    · rintro ⟨halways, hD, hrest⟩
      have hP' : P (step i s) := ((always_iff_prefixes step).mp halways) [] List.nil_prefix
      exact ⟨hi.mp ⟨hP', hD⟩, (ih' hP').mp ⟨halways, hrest⟩⟩
    · rintro ⟨hC, hrest⟩
      obtain ⟨hP', hD⟩ := hi.mpr hC
      obtain ⟨halways, hconforms⟩ := (ih' hP').mpr hrest
      exact ⟨halways, hD, hconforms⟩

/-- The sum over the steps of the run. -/
def total (c : ι → σ → ℕ) : σ → List ι → ℕ
  | _, [] => 0
  | s, i :: ops => c i s + total c (step i s) ops

/-! A resource invariant `I s ops` says what holds in `s` while `ops` are still to come. -/
section Resource
variable {I : σ → List ι → Prop} (hI : ∀ s i ops, I s (i :: ops) → I (step i s) ops)
include hI

theorem conforms_congr {C D : ι → σ → Prop} (h : ∀ s i ops, I s (i :: ops) → (C i s ↔ D i s))
    {s : σ} {ops : List ι} (hs : I s ops) : Conforms step C s ops ↔ Conforms step D s ops := by
  induction ops generalizing s with
  | nil => rfl
  | cons i ops ih => exact and_congr (h s i ops hs) (ih (hI s i ops hs))

theorem resource_run {s : σ} {ops ops' : List ι} (hs : I s (ops ++ ops')) :
    I (run step s ops) ops' := by
  induction ops generalizing s with
  | nil => exact hs
  | cons i ops ih => exact ih (hI s i (ops ++ ops') hs)

theorem always_iff_conforms_of_resource {P : σ → Prop} {C : ι → σ → Prop}
    (h : ∀ s i ops, I s (i :: ops) → P s → (P (step i s) ↔ C i s)) {s : σ} {ops : List ι}
    (hs : I s ops) (hP : P s) : Always step P s ops ↔ Conforms step C s ops := by
  induction ops generalizing s with
  | nil => simp [Always, Conforms, hP]
  | cons i ops ih =>
    have hi := h s i ops hs hP
    simp only [Always, Conforms, hP, true_and]
    constructor
    · intro hrest
      have hP' : P (step i s) := ((always_iff_prefixes step).mp hrest) [] List.nil_prefix
      exact ⟨hi.mp hP', (ih (hI s i ops hs) hP').mp hrest⟩
    · rintro ⟨hC, hrest⟩
      exact (ih (hI s i ops hs) (hi.mpr hC)).mpr hrest

/-- The same, for a property of the states together with a property of the steps. -/
theorem always_and_conforms_iff_of_resource {P : σ → Prop} {C D : ι → σ → Prop}
    (h : ∀ s i ops, I s (i :: ops) → P s → (P (step i s) ∧ D i s ↔ C i s)) {s : σ} {ops : List ι}
    (hs : I s ops) (hP : P s) :
    Always step P s ops ∧ Conforms step D s ops ↔ Conforms step C s ops := by
  induction ops generalizing s with
  | nil => simp [Always, Conforms, hP]
  | cons i ops ih =>
    have hi := h s i ops hs hP
    simp only [Always, Conforms, hP, true_and]
    constructor
    · rintro ⟨halways, hD, hrest⟩
      have hP' : P (step i s) := ((always_iff_prefixes step).mp halways) [] List.nil_prefix
      exact ⟨hi.mp ⟨hP', hD⟩, (ih (hI s i ops hs) hP').mp ⟨halways, hrest⟩⟩
    · rintro ⟨hC, hrest⟩
      obtain ⟨hP', hD⟩ := hi.mpr hC
      obtain ⟨halways, hconforms⟩ := (ih (hI s i ops hs) hP').mpr hrest
      exact ⟨halways, hD, hconforms⟩

theorem measure_run {m : σ → ℕ} {c : ι → σ → ℕ}
    (h : ∀ s i ops, I s (i :: ops) → m (step i s) = m s + c i s) {s : σ} {ops : List ι}
    (hs : I s ops) : m (run step s ops) = m s + total step c s ops := by
  induction ops generalizing s with
  | nil => rfl
  | cons i ops ih => rw [run_cons, ih (hI s i ops hs), h s i ops hs, total, Nat.add_assoc]

/-- What steps add to a measure and what they take from it balances over the whole run. -/
theorem balance_run {m : σ → ℕ} {c d : ι → σ → ℕ}
    (h : ∀ s i ops, I s (i :: ops) → m (step i s) + d i s = m s + c i s) {s : σ} {ops : List ι}
    (hs : I s ops) : m (run step s ops) + total step d s ops = m s + total step c s ops := by
  induction ops generalizing s with
  | nil => rfl
  | cons i ops ih =>
    have hrest := ih (hI s i ops hs)
    have hi := h s i ops hs
    simp only [run_cons, total]
    omega

/-- A sum that dominates another step by step equals it exactly when each step does. -/
theorem total_eq_iff {c d : ι → σ → ℕ} {C : ι → σ → Prop}
    (hle : ∀ s i ops, I s (i :: ops) → d i s ≤ c i s)
    (heq : ∀ s i ops, I s (i :: ops) → (c i s = d i s ↔ C i s)) {s : σ} {ops : List ι}
    (hs : I s ops) : total step c s ops = total step d s ops ↔ Conforms step C s ops := by
  have hmono {s : σ} {ops : List ι} (hs : I s ops) : total step d s ops ≤ total step c s ops := by
    induction ops generalizing s with
    | nil => rfl
    | cons i ops ih => exact Nat.add_le_add (hle s i ops hs) (ih (hI s i ops hs))
  induction ops generalizing s with
  | nil => simp [total, Conforms]
  | cons i ops ih =>
    have hi := hle s i ops hs
    have hrest := hmono (hI s i ops hs)
    simp only [Conforms, ← heq s i ops hs, ← ih (hI s i ops hs), total]
    omega

/-! Things that come into being at a step and stay: `Has s b` says that `b` is in `s`. -/
section Birth
variable {β : Type*} {Has : σ → β → Prop}

theorem has_run (hstay : ∀ s i ops, I s (i :: ops) → ∀ b, Has s b → Has (step i s) b) {s : σ}
    {ops ops' : List ι} (hs : I s (ops ++ ops')) {b : β} (hb : Has s b) :
    Has (run step s ops) b := by
  induction ops generalizing s with
  | nil => exact hb
  | cons i ops ih =>
    exact ih (hI s i (ops ++ ops') hs) (hstay s i (ops ++ ops') hs b hb)

/-- Birth rule: in every state reached, each thing stands in a relation to the state in which it came
into being, exactly when every step brings forth only what stands in it. -/
theorem born_iff_conforms (Has : σ → β → Prop) (R : σ → σ → β → Prop)
    (hstay : ∀ s i ops, I s (i :: ops) → ∀ b, Has s b → Has (step i s) b)
    (hrel : ∀ s i ops, I s (i :: ops) → ∀ b, Has s b → ∀ s₀, (R s₀ (step i s) b ↔ R s₀ s b))
    {s : σ} {ops : List ι} (hs : I s ops) (hnone : ∀ b, ¬ Has s b) :
    (∀ pre, pre <+: ops → ∀ b, Has (run step s pre) b → ∃ before i after,
        pre = before ++ i :: after ∧ ¬ Has (run step s before) b ∧
          Has (run step s (before ++ [i])) b ∧ R (run step s before) (run step s pre) b) ↔
      Conforms step (fun i s => ∀ b, ¬ Has s b → Has (step i s) b → R s (step i s) b) s ops := by
  rw [conforms_iff_split]
  constructor
  · rintro h pre i post rfl b hnew hborn
    have hpre : pre ++ [i] <+: pre ++ i :: post := ⟨post, by simp⟩
    rw [← run_concat step s pre i] at hborn ⊢
    obtain ⟨before, j, after, heq, hbefore, hj, hR⟩ := h _ hpre b hborn
    -- The step that brings it forth is the last one, since what came before it stays.
    rcases List.eq_nil_or_concat after with rfl | ⟨after, k, rfl⟩
    · obtain ⟨rfl, -⟩ := List.append_inj' heq rfl
      exact hR
    · have hsplit : pre ++ [i] = (before ++ [j] ++ after) ++ [k] := by
        rw [heq, List.concat_eq_append]
        simp
      obtain ⟨rfl, -⟩ := List.append_inj' hsplit rfl
      have hresource : I (run step s (before ++ [j])) (after ++ i :: post) := by
        apply resource_run step hI
        rwa [← List.append_assoc]
      rw [run_append] at hnew
      exact absurd (has_run step hI hstay hresource hj) hnew
  · intro h pre
    induction pre using List.reverseRecOn with
    | nil => exact fun _ b hb => absurd hb (hnone b)
    | append_singleton pre i ih =>
      rintro ⟨post, rfl⟩ b hb
      have hsplit : pre ++ [i] ++ post = pre ++ i :: post := by simp
      rw [hsplit] at hs h ih
      by_cases hold : Has (run step s pre) b
      · obtain ⟨before, j, after, rfl, hbefore, hj, hR⟩ := ih ⟨i :: post, rfl⟩ b hold
        refine ⟨before, j, after ++ [i], by simp, hbefore, hj, ?_⟩
        rw [run_concat]
        exact (hrel _ i post (resource_run step hI hs) b hold _).mpr hR
      · rw [run_concat] at hb ⊢
        refine ⟨pre, i, [], rfl, hold, ?_, h pre i post rfl b hold hb⟩
        rwa [run_concat]

end Birth
end Resource

end Runs

/-! ### What is held -/

section Holding
variable {ι α : Type*} (adds : ι → List α) (removes : ι → α → Bool)

def held (ops : List ι) : List α :=
  ops.foldl (fun items i => (items.filter fun a => !removes i a) ++ adds i) []

@[simp] theorem held_nil : held adds removes [] = [] := rfl

theorem held_concat (ops : List ι) (i : ι) : held adds removes (ops ++ [i]) =
    ((held adds removes ops).filter fun a => !removes i a) ++ adds i := List.foldl_concat ..

/-- An item is held exactly when some operation added it that no later one took back. -/
theorem mem_held_iff {ops : List ι} {a : α} : a ∈ held adds removes ops ↔
    ∃ pre i post, ops = pre ++ i :: post ∧ a ∈ adds i ∧ ∀ j ∈ post, ¬ removes j a := by
  induction ops using List.reverseRecOn with
  | nil => simp
  | append_singleton ops i ih =>
    rw [held_concat, List.mem_append, List.mem_filter, ih]
    constructor
    · rintro (⟨⟨pre, j, post, rfl, hadded, hkept⟩, hlast⟩ | hadded)
      · refine ⟨pre, j, post ++ [i], by simp, hadded, fun k hk => ?_⟩
        rcases List.mem_append.mp hk with hk | hk
        · exact hkept k hk
        · obtain rfl := List.mem_singleton.mp hk
          simpa using hlast
      · exact ⟨ops, i, [], rfl, hadded, fun k hk => absurd hk List.not_mem_nil⟩
    · rintro ⟨pre, j, post, hsplit, hadded, hkept⟩
      rcases List.eq_nil_or_concat post with rfl | ⟨post, k, rfl⟩
      · obtain ⟨-, hlast⟩ := List.append_inj' hsplit rfl
        obtain rfl := List.singleton_inj.mp hlast
        exact Or.inr hadded
      · rw [List.concat_eq_append] at hsplit hkept
        have hshape : ops ++ [i] = (pre ++ j :: post) ++ [k] := by rw [hsplit]; simp
        obtain ⟨rfl, hlast⟩ := List.append_inj' hshape rfl
        obtain rfl := List.singleton_inj.mp hlast
        have hunremoved := hkept i (by simp)
        have hbefore : ∀ l ∈ post, ¬ removes l a := fun l hl => hkept l (by simp [hl])
        exact Or.inl ⟨⟨pre, j, post, rfl, hadded, hbefore⟩, by simpa using hunremoved⟩

end Holding

/-! ### Names that are drawn, none of them twice -/

section Drawn
variable {σ ι κ : Type*} {step : ι → σ → σ} {draws : σ → ℕ} {uuid : ℕ → κ} {Has : σ → κ → Prop}

variable (step draws uuid Has) in
/-- Draws go on, and what a step brings forth is named by one of its draws. -/
structure Names : Prop where
  draws_le : ∀ i s, draws s ≤ draws (step i s)
  drawn : ∀ i s a, Has (step i s) a → Has s a ∨ ∃ n, draws s ≤ n ∧ n < draws (step i s) ∧ a = uuid n

variable (step draws uuid Has) in
/-- While `ops` are to come: what there is has been named by draws, and no name comes twice. -/
structure Fresh (s : σ) (ops : List ι) : Prop where
  distinct : Set.InjOn uuid (Set.Iio (draws (run step s ops)))
  named : ∀ a, Has s a → ∃ n < draws s, a = uuid n

namespace Names

theorem draws_run_le (h : Names step draws uuid Has) (s : σ) (ops : List ι) :
    draws s ≤ draws (run step s ops) := by
  induction ops generalizing s with
  | nil => exact le_rfl
  | cons i ops ih => exact (h.draws_le i s).trans (ih (step i s))

theorem fresh_step (h : Names step draws uuid Has) {s : σ} {i : ι} {ops : List ι}
    (hs : Fresh step draws uuid Has s (i :: ops)) :
    Fresh step draws uuid Has (step i s) ops where
  distinct := hs.distinct
  named := by
    intro a ha
    have hle := h.draws_le i s
    rcases h.drawn i s a ha with hold | ⟨n, -, hn, rfl⟩
    · obtain ⟨n, hn, rfl⟩ := hs.named a hold
      exact ⟨n, by omega, rfl⟩
    · exact ⟨n, hn, rfl⟩

/-- A name drawn by the coming step is new. -/
theorem not_has (h : Names step draws uuid Has) {s : σ} {i : ι} {ops : List ι}
    (hs : Fresh step draws uuid Has s (i :: ops)) {n : ℕ} (hle : draws s ≤ n)
    (hlt : n < draws (step i s)) : ¬ Has s (uuid n) := by
  intro hhas
  obtain ⟨m, hm, hsame⟩ := hs.named _ hhas
  have hend : draws (step i s) ≤ draws (run step s (i :: ops)) := h.draws_run_le (step i s) ops
  have heq : n = m := hs.distinct (Set.mem_Iio.mpr (by omega)) (Set.mem_Iio.mpr (by omega)) hsame
  omega

end Names

end Drawn

end Lib

/-! What the steps of a run put out, one after the other, and the latest entry under a key. -/
namespace Lib
variable {σ ι β κ ν : Type*} (step : ι → σ → σ) (out : ι → σ → List β)

def trace : σ → List ι → List β
  | _, [] => []
  | s, i :: ops => out i s ++ trace (step i s) ops

@[simp] theorem trace_nil (s : σ) : trace step out s [] = [] := rfl

theorem trace_concat (s : σ) (ops : List ι) (i : ι) :
    trace step out s (ops ++ [i]) = trace step out s ops ++ out i (run step s ops) := by
  induction ops generalizing s with
  | nil => simp [trace]
  | cons j ops ih => simp [trace, ih]

/-- States that cannot be told apart by a step put out the same from there on. -/
theorem trace_eq_of_alike {R : σ → σ → Prop} (hout : ∀ i s s', R s s' → out i s = out i s')
    (hstep : ∀ i s s', R s s' → R (step i s) (step i s')) {s s' : σ} (h : R s s') (ops : List ι) :
    trace step out s ops = trace step out s' ops := by
  induction ops generalizing s s' with
  | nil => rfl
  | cons i ops ih => rw [trace, trace, hout i s s' h, ih (hstep i s s' h)]

theorem Conforms.of_prefix {C : ι → σ → Prop} {s : σ} {ops pre : List ι} (h : Conforms step C s ops)
    (hpre : pre <+: ops) : Conforms step C s pre := by
  obtain ⟨rest, rfl⟩ := hpre
  exact (conforms_iff_split step).mpr fun before i after he =>
    (conforms_iff_split step).mp h before i (after ++ rest) (by simp [he])

theorem conforms_and {C D : ι → σ → Prop} {s : σ} {ops : List ι} :
    Conforms step C s ops ∧ Conforms step D s ops ↔
      Conforms step (fun i s => C i s ∧ D i s) s ops := by
  simp only [conforms_iff_split]
  exact ⟨fun h before i after he => ⟨h.1 before i after he, h.2 before i after he⟩,
    fun h => ⟨fun before i after he => (h before i after he).1,
      fun before i after he => (h before i after he).2⟩⟩

/-- What each conforming step preserves, a conforming run preserves. -/
theorem Conforms.run_invariant {I : σ → Prop} {C : ι → σ → Prop} {s : σ} {ops : List ι}
    (hc : Conforms step C s ops) (hstep : ∀ i s, I s → C i s → I (step i s)) (hs : I s) :
    I (run step s ops) := by
  induction ops generalizing s with
  | nil => exact hs
  | cons i ops ih => exact ih hc.2 (hstep i s hs hc.1)

/-- What each conforming step keeps between the state and what was put out so far, holds in every
state a conforming run reaches. -/
theorem trace_invariant {J : σ → List β → Prop} {C : ι → σ → Prop}
    (hstep : ∀ i s l, J s l → C i s → J (step i s) (l ++ out i s)) {s : σ} (hs : J s [])
    {ops : List ι} (hc : Conforms step C s ops) : J (run step s ops) (trace step out s ops) := by
  induction ops using List.reverseRecOn with
  | nil => exact hs
  | append_singleton ops i ih =>
    have hi := (conforms_iff_split step).mp hc ops i [] rfl
    rw [run_concat, trace_concat]
    exact hstep i _ _ (ih (hc.of_prefix step ⟨[i], rfl⟩)) hi

/-- What a step keeps between the state, what was put out so far and the steps still to come. -/
theorem trace_resource {J : σ → List β → List ι → Prop}
    (hstep : ∀ i s l ops, J s l (i :: ops) → J (step i s) (l ++ out i s) ops) {s : σ} {l : List β}
    {ops : List ι} (hs : J s l ops) : J (run step s ops) (l ++ trace step out s ops) [] := by
  induction ops generalizing s l with
  | nil => rwa [trace_nil, List.append_nil]
  | cons i ops ih =>
    rw [run_cons, trace, ← List.append_assoc]
    exact ih (hstep i s l ops hs)

/-- Once rule: what is put out is all different exactly when no step puts out what has been seen, if
seen is just what was put out. -/
theorem nodup_trace_iff_conforms {I : σ → List ι → Prop} (Seen : σ → β → Prop)
    (hI : ∀ s i ops, I s (i :: ops) → I (step i s) ops)
    (hseen : ∀ s i ops, I s (i :: ops) → ∀ b, Seen (step i s) b ↔ Seen s b ∨ b ∈ out i s) {s : σ}
    {ops : List ι} (hs : I s ops) :
    ((trace step out s ops).Nodup ∧ ∀ b ∈ trace step out s ops, ¬ Seen s b) ↔
      Conforms step (fun i s => (out i s).Nodup ∧ ∀ b ∈ out i s, ¬ Seen s b) s ops := by
  induction ops generalizing s with
  | nil => simp [Conforms]
  | cons i ops ih =>
    simp only [Conforms, trace, ← ih (hI s i ops hs), hseen s i ops hs, List.nodup_append,
      List.mem_append]
    constructor
    · rintro ⟨⟨hout, hrest, hdisjoint⟩, hnew⟩
      refine ⟨⟨hout, fun b hb => hnew b (.inl hb)⟩, hrest, fun b hb => ?_⟩
      rintro (hold | hmem)
      · exact hnew b (.inr hb) hold
      · exact hdisjoint b hmem b hb rfl
    · rintro ⟨⟨hout, hnew⟩, hrest, hnot⟩
      refine ⟨⟨hout, hrest, ?_⟩, ?_⟩
      · rintro a ha b hb rfl
        exact hnot a hb (.inr ha)
      · rintro b (hb | hb)
        · exact hnew b hb
        · exact fun hold => hnot b hb (.inl hold)

section Latest
variable [DecidableEq κ]

/-- The last value entered under the key. -/
def latest (l : List (κ × ν)) (k : κ) : Option ν :=
  ((l.filter fun p => p.1 = k).getLast?).map Prod.snd

@[simp] theorem latest_nil (k : κ) : latest ([] : List (κ × ν)) k = none := rfl

theorem latest_concat (l : List (κ × ν)) (k k' : κ) (v : ν) :
    latest (l ++ [(k', v)]) k = if k' = k then some v else latest l k := by
  unfold latest
  by_cases h : k' = k <;> simp [h]

end Latest

section Courses
variable {S : Type*}

/-- `path` holds the states gone through from `init` to the last one, by allowed steps. -/
inductive Course (allowed : S → S → Prop) (init : S) : List S → S → Prop
  | start : Course allowed init [init] init
  | move {path : List S} {a b : S} :
      Course allowed init path a → allowed a b → Course allowed init (path ++ [b]) b

namespace Course
variable {allowed : S → S → Prop} {init a b : S} {path : List S}

theorem last (h : Course allowed init path a) : path.getLast? = some a := by
  cases h with
  | start => rfl
  | move _ _ => exact List.getLast?_concat

end Course

end Courses

end Lib
