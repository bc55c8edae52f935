import Mathlib.Data.Nat.Basic
import Mathlib.Tactic

/-! While loops with fuel, and loops over a list that stop at the first hit. -/
namespace Lib
variable {σ α : Type*}

/-- Runs `step` until it gives `none` and returns the state reached; `none` when the fuel runs out
before. -/
def loop (step : σ → Option σ) : ℕ → σ → Option σ
  | 0, _ => none
  | fuel + 1, s =>
    match step s with
    | none => some s
    | some s' => loop step fuel s'

/-- A view of the state that the body acts on follows a loop of its own. -/
theorem loop_map {τ : Type*} {step : σ → Option σ} {step' : τ → Option τ} {view : σ → τ}
    (hview : ∀ s, (step s).map view = step' (view s)) (fuel : ℕ) (s : σ) :
    (loop step fuel s).map view = loop step' fuel (view s) := by
  induction fuel generalizing s with
  | zero => rfl
  | succ fuel ih =>
    have h := hview s
    cases hstep : step s with
    | none =>
      rw [hstep] at h
      simp [loop, hstep, ← h]
    | some s' =>
      rw [hstep] at h
      simp [loop, hstep, ← h, ih s']

/-- A loop whose body keeps an invariant and decreases a measure ends, in a state in which the
invariant holds and the body has nothing left to do. -/
theorem loop_terminates {step : σ → Option σ} {I : σ → Prop} (measure : σ → ℕ)
    (hstep : ∀ s s', I s → step s = some s' → I s' ∧ measure s' < measure s) {s : σ} (hs : I s)
    {fuel : ℕ} (hfuel : measure s < fuel) :
    ∃ final, loop step fuel s = some final ∧ I final ∧ step final = none := by
  induction fuel generalizing s with
  | zero => omega
  | succ fuel ih =>
    cases h : step s with
    | none => exact ⟨s, by simp [loop, h], hs, h⟩
    | some s' =>
      obtain ⟨hs', hlt⟩ := hstep s s' hs h
      obtain ⟨final, hloop, hfinal⟩ := ih hs' (by omega)
      exact ⟨final, by simp [loop, h, hloop], hfinal⟩

/-- What the body keeps, holds when the loop ends. -/
theorem loop_invariant {step : σ → Option σ} {I : σ → Prop}
    (hstep : ∀ s s', I s → step s = some s' → I s') {fuel : ℕ} {s final : σ} (hs : I s)
    (h : loop step fuel s = some final) : I final ∧ step final = none := by
  induction fuel generalizing s with
  | zero => cases h
  | succ fuel ih =>
    cases hnext : step s with
    | none =>
      obtain rfl : s = final := by simpa [loop, hnext] using h
      exact ⟨hs, hnext⟩
    | some s' =>
      simp only [loop, hnext] at h
      exact ih (hstep s s' hs hnext) h

/-- More fuel does not change a result. -/
theorem loop_of_le {step : σ → Option σ} {fuel fuel' : ℕ} (hle : fuel ≤ fuel') {s final : σ}
    (h : loop step fuel s = some final) : loop step fuel' s = some final := by
  induction fuel generalizing s fuel' with
  | zero => cases h
  | succ fuel ih =>
    obtain ⟨fuel', rfl⟩ : ∃ n, fuel' = n + 1 := ⟨fuel' - 1, by omega⟩
    cases hstep : step s with
    | none => simpa [loop, hstep] using h
    | some s' =>
      simp only [loop, hstep] at h ⊢
      exact ih (by omega) h

/-- How much of a list a search has not visited. -/
def unvisited [DecidableEq α] (l visited : List α) : ℕ := (l.filter fun a => a ∉ visited).length

theorem unvisited_le [DecidableEq α] (l visited : List α) : unvisited l visited ≤ l.length :=
  List.length_filter_le _ _

theorem unvisited_visit_lt [DecidableEq α] {l visited : List α} {a : α} (ha : a ∈ l)
    (hnew : a ∉ visited) : unvisited l (visited ++ [a]) < unvisited l visited := by
  have hsplit : l.filter (fun b => b ∉ visited ++ [a]) =
      (l.filter fun b => b ∉ visited).filter fun b => b ≠ a := by
    rw [List.filter_filter]
    apply List.filter_congr
    intro b _
    simp [and_comm]
  unfold unvisited
  rw [hsplit, List.length_filter_lt_length_iff_exists]
  exact ⟨a, List.mem_filter.mpr ⟨ha, by simpa using hnew⟩, by simp⟩

/-- A loop that passes over items with `A` and stops at an item with `B` comes to such an item. -/
def FirstHit (A B : α → Prop) (l : List α) : Prop :=
  ∃ pre b post, l = pre ++ b :: post ∧ (∀ a ∈ pre, A a) ∧ B b

theorem not_firstHit_nil {A B : α → Prop} : ¬ FirstHit A B [] := by
  rintro ⟨pre, b, post, h, -⟩
  cases pre <;> cases h

theorem firstHit_cons {A B : α → Prop} {a : α} {l : List α} :
    FirstHit A B (a :: l) ↔ B a ∨ A a ∧ FirstHit A B l := by
  constructor
  · rintro ⟨pre, b, post, h, hpre, hb⟩
    cases pre with
    | nil =>
      obtain ⟨rfl, -⟩ := List.cons.inj h
      exact Or.inl hb
    | cons c pre =>
      obtain ⟨rfl, rfl⟩ := List.cons.inj h
      exact Or.inr ⟨hpre a List.mem_cons_self, pre, b, post, rfl,
        fun c hc => hpre c (List.mem_cons_of_mem _ hc), hb⟩
  · rintro (ha | ⟨ha, pre, b, post, rfl, hpre, hb⟩)
    · exact ⟨[], a, l, rfl, fun _ h => absurd h List.not_mem_nil, ha⟩
    · exact ⟨a :: pre, b, post, rfl, List.forall_mem_cons.mpr ⟨ha, hpre⟩, hb⟩

end Lib
