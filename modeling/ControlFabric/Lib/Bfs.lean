import ControlFabric.Lib.Distance
import ControlFabric.Lib.Loop

/-! Breadth-first search from several starts, to a bounded depth: it visits exactly the nodes that
few enough steps reach. -/
namespace Lib
variable {V : Type*}

/-- The nodes still to be expanded with their depths, and the nodes seen. -/
structure Frontier (V : Type*) where
  queue : List (V × ℤ)
  visited : List V

/-- `n` steps lead from one of the starts to `v`. -/
def StepsFrom (R : V → V → Prop) (starts : List V) (n : ℕ) (v : V) : Prop :=
  ∃ s ∈ starts, Steps R s n v

theorem StepsFrom.succ {R : V → V → Prop} {starts : List V} {n : ℕ} {u v : V}
    (h : StepsFrom R starts n u) (huv : R u v) : StepsFrom R starts (n + 1) v := by
  obtain ⟨s, hs, hsteps⟩ := h
  exact ⟨s, hs, hsteps.succ huv⟩

theorem StepsFrom.pred {R : V → V → Prop} {starts : List V} {n : ℕ} {v : V}
    (h : StepsFrom R starts (n + 1) v) : ∃ u, StepsFrom R starts n u ∧ R u v := by
  obtain ⟨s, hs, hsteps⟩ := h
  cases hsteps with
  | succ hu huv => exact ⟨_, ⟨s, hs, hu⟩, huv⟩

theorem stepsFrom_zero {R : V → V → Prop} {starts : List V} {v : V} :
    StepsFrom R starts 0 v ↔ v ∈ starts := by
  constructor
  · rintro ⟨s, hs, hsteps⟩
    cases hsteps
    exact hs
  · intro hv
    exact ⟨v, hv, Steps.zero⟩

/-- A start, or a node that at most `D` steps reach. -/
def WithinFrom (R : V → V → Prop) (starts : List V) (D : ℤ) (v : V) : Prop :=
  ∃ n : ℕ, (n = 0 ∨ (n : ℤ) ≤ D) ∧ StepsFrom R starts n v

/-- `n` is the least number of steps from a start to `v`. -/
structure DistFrom (R : V → V → Prop) (starts : List V) (n : ℕ) (v : V) : Prop where
  steps : StepsFrom R starts n v
  least : ∀ m, StepsFrom R starts m v → n ≤ m

theorem WithinFrom.dist_le {R : V → V → Prop} {starts : List V} {D : ℤ} {v : V} {n : ℕ}
    (h : WithinFrom R starts D v) (hdist : DistFrom R starts n v) : n = 0 ∨ (n : ℤ) ≤ D := by
  obtain ⟨m, hm, hsteps⟩ := h
  have := hdist.least m hsteps
  omega

namespace Frontier
variable [DecidableEq V]

/-- Queues a node that is new, unless it lies too deep. -/
def visit (D depth : ℤ) (s : Frontier V) (v : V) : Frontier V :=
  if v ∉ s.visited ∧ depth + 1 ≤ D then ⟨s.queue ++ [(v, depth + 1)], s.visited ++ [v]⟩ else s

/-- Expands the first node of the queue; `none` when it is empty. -/
def expand (next : V → List V) (D : ℤ) (s : Frontier V) : Option (Frontier V) :=
  match s.queue with
  | [] => none
  | (u, depth) :: queue => some ((next u).foldl (visit D depth) { s with queue := queue })

def start (starts : List V) : Frontier V := ⟨starts.map fun v => (v, 0), starts.dedup⟩

variable {next : V → List V} {D : ℤ} {starts : List V} {s : Frontier V} {u v : V} {k : ℕ}

abbrev Edge (next : V → List V) (u v : V) : Prop := v ∈ next u

/-- What holds whatever is still being expanded. -/
structure Sound (next : V → List V) (D : ℤ) (starts : List V) (s : Frontier V) : Prop where
  nodup : s.visited.Nodup
  starts_mem : ∀ v ∈ starts, v ∈ s.visited
  near : ∀ v ∈ s.visited, WithinFrom (Edge next) starts D v
  queued : ∀ e ∈ s.queue, e.1 ∈ s.visited ∧
    ∃ n : ℕ, e.2 = n ∧ StepsFrom (Edge next) starts n e.1

/-- The queue holds two layers in order, and a visited node whose steps are not all followed is
queued, no deeper than any walk to it, or is pending. -/
structure Layered (next : V → List V) (D : ℤ) (starts : List V) (pending : V → Prop) (b : ℕ)
    (s : Frontier V) : Prop where
  sorted : s.queue.Pairwise fun e e' => e.2 ≤ e'.2
  layers : ∀ e ∈ s.queue, (b : ℤ) ≤ e.2 ∧ e.2 ≤ b + 1
  open_queued : ∀ u ∈ s.visited, ∀ n : ℕ, StepsFrom (Edge next) starts n u → (n : ℤ) + 1 ≤ D →
    (∀ v ∈ next u, v ∈ s.visited) ∨ pending u ∨ ∃ e ∈ s.queue, e.1 = u ∧ e.2 ≤ n

theorem start_sound (next : V → List V) (D : ℤ) (starts : List V) :
    Sound next D starts (start starts) where
  nodup := List.nodup_dedup starts
  starts_mem := fun _ hv => List.mem_dedup.mpr hv
  near := fun v hv => ⟨0, Or.inl rfl, stepsFrom_zero.mpr (List.mem_dedup.mp hv)⟩
  queued := by
    intro e he
    obtain ⟨v, hv, rfl⟩ := List.mem_map.mp he
    exact ⟨List.mem_dedup.mpr hv, 0, rfl, stepsFrom_zero.mpr hv⟩

theorem start_layered (next : V → List V) (D : ℤ) (starts : List V) :
    Layered next D starts (fun _ => False) 0 (start starts) where
  sorted := by
    rw [start, List.pairwise_map]
    exact List.pairwise_of_forall fun _ _ => le_rfl
  layers := by
    intro e he
    obtain ⟨v, -, rfl⟩ := List.mem_map.mp he
    exact ⟨le_rfl, by norm_num⟩
  open_queued := by
    intro u hu n _ _
    have hentry : (u, 0) ∈ (start starts).queue :=
      List.mem_map_of_mem (List.mem_dedup.mp hu)
    exact Or.inr (Or.inr ⟨(u, 0), hentry, rfl, Int.natCast_nonneg n⟩)

/-- Every node that few enough steps reach is visited, while the queue starts at depth `b`. -/
theorem Layered.mem_of_steps (hsound : Sound next D starts s)
    (h : Layered next D starts (fun _ => False) k s) {b : ℕ} (hqueue : ∀ e ∈ s.queue, (b : ℤ) ≤ e.2)
    {n : ℕ} (hn : n ≤ b) (hD : n = 0 ∨ (n : ℤ) ≤ D) (hv : StepsFrom (Edge next) starts n v) :
    v ∈ s.visited := by
  induction n generalizing v with
  | zero => exact hsound.starts_mem v (stepsFrom_zero.mp hv)
  | succ n ih =>
    obtain ⟨u, hu, huv⟩ := hv.pred
    have hbound : (n : ℤ) + 1 ≤ D := by
      rcases hD with h0 | hD
      · omega
      · exact_mod_cast hD
    have hvisited := ih (by omega) (Or.inr (by omega)) hu
    rcases h.open_queued u hvisited n hu hbound with hall | hpending | ⟨e, he, -, hle⟩
    · exact hall v huv
    · exact absurd hpending not_false
    · have := hqueue e he
      omega

theorem visit_visited (depth : ℤ) (s : Frontier V) (v : V) :
    ∀ w ∈ s.visited, w ∈ (visit D depth s v).visited := by
  intro w hw
  unfold visit
  split
  · exact List.mem_append_left _ hw
  · exact hw

theorem mem_visit (depth : ℤ) (h : depth + 1 ≤ D) (s : Frontier V) (v : V) :
    v ∈ (visit D depth s v).visited := by
  unfold visit
  split
  next => simp
  next hold => exact Classical.byContradiction fun hnew => hold ⟨hnew, h⟩

theorem foldl_visit_visited (depth : ℤ) (l : List V) {s : Frontier V} :
    ∀ w ∈ s.visited, w ∈ (l.foldl (visit D depth) s).visited := by
  induction l generalizing s with
  | nil => exact fun w hw => hw
  | cons v l ih => exact fun w hw => ih w (visit_visited depth s v w hw)

theorem mem_foldl_visit (depth : ℤ) (h : depth + 1 ≤ D) (l : List V) {s : Frontier V} :
    ∀ v ∈ l, v ∈ (l.foldl (visit D depth) s).visited := by
  induction l generalizing s with
  | nil => exact fun v hv => absurd hv List.not_mem_nil
  | cons a l ih =>
    rintro v (_ | ⟨_, hv⟩)
    · exact foldl_visit_visited depth l a (mem_visit depth h s a)
    · exact ih v hv

/-- The node being expanded: all nodes up to its depth are visited. -/
structure Expanding (next : V → List V) (D : ℤ) (starts : List V) (u : V) (k : ℕ)
    (s : Frontier V) : Prop where
  reached : StepsFrom (Edge next) starts k u
  near : ∀ n ≤ k, ∀ v, (n = 0 ∨ (n : ℤ) ≤ D) → StepsFrom (Edge next) starts n v → v ∈ s.visited

theorem Sound.visit (h : Sound next D starts s) (hu : Expanding next D starts u k s)
    (hv : v ∈ next u) : Sound next D starts (visit D k s v) := by
  unfold Frontier.visit
  split
  next hnew =>
    obtain ⟨hnew, hD⟩ := hnew
    have hsteps : StepsFrom (Edge next) starts (k + 1) v := hu.reached.succ hv
    constructor
    · exact List.nodup_append.mpr ⟨h.nodup, List.nodup_singleton v, by grind⟩
    · exact fun w hw => List.mem_append_left _ (h.starts_mem w hw)
    · intro w hw
      rcases List.mem_append.mp hw with hw | hw
      · exact h.near w hw
      · obtain rfl := List.mem_singleton.mp hw
        exact ⟨k + 1, Or.inr (by exact_mod_cast hD), hsteps⟩
    · intro e he
      rcases List.mem_append.mp he with he | he
      · obtain ⟨hmem, hdepth⟩ := h.queued e he
        exact ⟨List.mem_append_left _ hmem, hdepth⟩
      · obtain rfl := List.mem_singleton.mp he
        exact ⟨List.mem_append_right _ (List.mem_singleton_self _), k + 1, by push_cast; rfl,
          hsteps⟩
  next => exact h

theorem Layered.visit {pending : V → Prop} (h : Layered next D starts pending k s)
    (hu : Expanding next D starts u k s) : Layered next D starts pending k (visit D k s v) := by
  unfold Frontier.visit
  split
  next hnew =>
    obtain ⟨hnew, hD⟩ := hnew
    constructor
    · rw [List.pairwise_append]
      refine ⟨h.sorted, List.pairwise_singleton _ _, ?_⟩
      intro e he e' he'
      obtain rfl := List.mem_singleton.mp he'
      exact (h.layers e he).2
    · intro e he
      rcases List.mem_append.mp he with he | he
      · exact h.layers e he
      · obtain rfl := List.mem_singleton.mp he
        exact ⟨by omega, le_rfl⟩
    · intro w hw n hn hbound
      rcases List.mem_append.mp hw with hw | hw
      · rcases h.open_queued w hw n hn hbound with hall | hpending | ⟨e, he, heq, hle⟩
        · exact Or.inl fun x hx => List.mem_append_left _ (hall x hx)
        · exact Or.inr (Or.inl hpending)
        · exact Or.inr (Or.inr ⟨e, List.mem_append_left _ he, heq, hle⟩)
      · obtain rfl := List.mem_singleton.mp hw
        have hfar : k < n := by
          by_contra hnear
          exact hnew (hu.near n (by omega) w (Or.inr (by omega)) hn)
        exact Or.inr (Or.inr ⟨(w, k + 1), by simp, rfl, by dsimp only; omega⟩)
  next => exact h

theorem Expanding.visit (h : Expanding next D starts u k s) :
    Expanding next D starts u k (visit D k s v) :=
  ⟨h.reached, fun n hn w hw hsteps => visit_visited k s v w (h.near n hn w hw hsteps)⟩

theorem foldl_visit_invariant {pending : V → Prop} {l : List V} (hl : ∀ v ∈ l, v ∈ next u)
    {s : Frontier V} (hsound : Sound next D starts s) (h : Layered next D starts pending k s)
    (hu : Expanding next D starts u k s) :
    Sound next D starts (l.foldl (Frontier.visit D k) s) ∧
      Layered next D starts pending k (l.foldl (Frontier.visit D k) s) := by
  induction l generalizing s with
  | nil => exact ⟨hsound, h⟩
  | cons v l ih =>
    obtain ⟨hv, hl⟩ := List.forall_mem_cons.mp hl
    exact ih hl (hsound.visit hu hv) (h.visit hu) hu.visit

/-- The invariant of the loop. -/
structure Searching (next : V → List V) (D : ℤ) (starts : List V) (s : Frontier V) : Prop where
  sound : Sound next D starts s
  layered : ∃ b, Layered next D starts (fun _ => False) b s

/-- All nodes up to the depth of the first node of the queue are visited. -/
theorem Searching.near {queue : List (V × ℤ)} {visited : List V}
    (h : Searching next D starts ⟨(u, (k : ℤ)) :: queue, visited⟩) {n : ℕ} (hn : n ≤ k)
    (hD : n = 0 ∨ (n : ℤ) ≤ D) (hv : StepsFrom (Edge next) starts n v) : v ∈ visited := by
  obtain ⟨b, hlayered⟩ := h.layered
  obtain ⟨hleast, -⟩ := List.pairwise_cons.mp hlayered.sorted
  have hqueue : ∀ e ∈ (u, (k : ℤ)) :: queue, (k : ℤ) ≤ e.2 := by
    rintro e (_ | ⟨_, he⟩)
    · exact le_rfl
    · exact hleast e he
  exact hlayered.mem_of_steps h.sound hqueue hn hD hv

/-- When the queue is empty, all nodes that few enough steps reach are visited. -/
theorem Searching.complete (h : Searching next D starts s) (hempty : s.queue = []) {n : ℕ}
    (hD : n = 0 ∨ (n : ℤ) ≤ D) (hv : StepsFrom (Edge next) starts n v) : v ∈ s.visited := by
  obtain ⟨b, hlayered⟩ := h.layered
  refine hlayered.mem_of_steps h.sound (b := n) ?_ le_rfl hD hv
  rw [hempty]
  exact fun e he => absurd he List.not_mem_nil

theorem Searching.expand (h : Searching next D starts s) {s' : Frontier V}
    (hstep : s.expand next D = some s') : Searching next D starts s' := by
  obtain ⟨b, hlayered⟩ := h.layered
  obtain ⟨queue, visited⟩ := s
  cases queue with
  | nil => cases hstep
  | cons e queue =>
    obtain ⟨u, depth⟩ := e
    obtain rfl := Option.some.inj hstep
    obtain ⟨hu, k, hk, hreached⟩ := h.sound.queued (u, depth) List.mem_cons_self
    obtain rfl : depth = k := hk
    obtain ⟨hleast, hsorted⟩ := List.pairwise_cons.mp hlayered.sorted
    have hbk := (hlayered.layers (u, k) List.mem_cons_self).1
    have hnear : ∀ n ≤ k, ∀ v, (n = 0 ∨ (n : ℤ) ≤ D) → StepsFrom (Edge next) starts n v →
        v ∈ visited := fun n hn v hD hv => h.near hn hD hv
    have hexpanding : Expanding next D starts u k ⟨queue, visited⟩ := ⟨hreached, hnear⟩
    have hsound : Sound next D starts ⟨queue, visited⟩ :=
      ⟨h.sound.nodup, h.sound.starts_mem, h.sound.near,
        fun e he => h.sound.queued e (List.mem_cons_of_mem _ he)⟩
    -- The node being expanded leaves the queue; it is the only one pending.
    have hpending : Layered next D starts (· = u) k ⟨queue, visited⟩ := by
      refine ⟨hsorted, ?_, ?_⟩
      · intro e he
        have := (hlayered.layers e (List.mem_cons_of_mem _ he)).2
        exact ⟨hleast e he, by omega⟩
      · intro w hw n hn hbound
        rcases hlayered.open_queued w hw n hn hbound with hall | hno | ⟨e, he, heq, hle⟩
        · exact Or.inl hall
        · exact absurd hno not_false
        · rcases List.mem_cons.mp he with rfl | he
          · exact Or.inr (Or.inl heq.symm)
          · exact Or.inr (Or.inr ⟨e, he, heq, hle⟩)
    obtain ⟨hsound', hlayered'⟩ := foldl_visit_invariant (fun _ hv => hv) hsound hpending hexpanding
    refine ⟨hsound', k, hlayered'.sorted, hlayered'.layers, ?_⟩
    intro w hw n hn hbound
    rcases hlayered'.open_queued w hw n hn hbound with hall | rfl | hqueued
    · exact Or.inl hall
    · -- The node just expanded: all its steps are followed, unless it lies too deep.
      by_cases hD : (k : ℤ) + 1 ≤ D
      · exact Or.inl fun v hv => mem_foldl_visit k hD _ v hv
      · have hall : ∀ v ∈ next w, v ∈ visited := by
          intro v hv
          have hv' : StepsFrom (Edge next) starts (n + 1) v := hn.succ hv
          exact hexpanding.near (n + 1) (by omega) v (Or.inr (by push_cast; exact hbound)) hv'
        exact Or.inl fun v hv => foldl_visit_visited k _ v (hall v hv)
    · exact Or.inr (Or.inr hqueued)

/-- What is still to do: the queue, and the nodes that may still join it. -/
def work (nodes : List V) (s : Frontier V) : ℕ := s.queue.length + unvisited nodes s.visited

theorem foldl_visit_work {nodes : List V} (depth : ℤ) {l : List V} (hl : ∀ v ∈ l, v ∈ nodes)
    {s : Frontier V} : (l.foldl (visit D depth) s).work nodes ≤ s.work nodes := by
  induction l generalizing s with
  | nil => exact le_rfl
  | cons v l ih =>
    obtain ⟨hv, hl⟩ := List.forall_mem_cons.mp hl
    have hvisit : (visit D depth s v).work nodes ≤ s.work nodes := by
      unfold visit
      split
      next hnew =>
        have := unvisited_visit_lt hv hnew.1
        unfold work
        rw [List.length_append, List.length_singleton]
        dsimp only
        omega
      next => exact le_rfl
    exact (ih hl).trans hvisit

theorem expand_work {nodes : List V} (hnext : ∀ u, ∀ v ∈ next u, v ∈ nodes) {s' : Frontier V}
    (hstep : s.expand next D = some s') : s'.work nodes < s.work nodes := by
  obtain ⟨queue, visited⟩ := s
  cases queue with
  | nil => cases hstep
  | cons e queue =>
    obtain rfl := Option.some.inj hstep
    have := foldl_visit_work (D := D) e.2 (hnext e.1) (s := ⟨queue, visited⟩)
    unfold work at this ⊢
    rw [List.length_cons]
    dsimp only at this ⊢
    omega

/-- The search ends, and has visited the nodes that few enough steps reach, each once. -/
theorem loop_expand {nodes : List V} (hnext : ∀ u, ∀ v ∈ next u, v ∈ nodes) {fuel : ℕ}
    (hfuel : starts.length + nodes.length < fuel) :
    ∃ final, loop (expand next D) fuel (start starts) = some final ∧ final.visited.Nodup ∧
      ∀ v, v ∈ final.visited ↔ WithinFrom (Edge next) starts D v := by
  have hwork : (start starts).work nodes < fuel := by
    have := unvisited_le nodes (start starts).visited
    unfold work
    rw [start, List.length_map]
    rw [start] at this
    omega
  obtain ⟨final, hloop, hfinal, hdone⟩ := loop_terminates (work nodes)
    (fun s s' hs hstep => ⟨Searching.expand (D := D) hs hstep, expand_work hnext hstep⟩)
    ⟨start_sound next D starts, 0, start_layered next D starts⟩ hwork
  refine ⟨final, hloop, hfinal.sound.nodup, fun v => ⟨hfinal.sound.near v, ?_⟩⟩
  rintro ⟨n, hD, hv⟩
  have hempty : final.queue = [] := by
    cases hqueue : final.queue with
    | nil => rfl
    | cons e queue => simp [expand, hqueue] at hdone
  exact hfinal.complete hempty hD hv

end Frontier
end Lib
