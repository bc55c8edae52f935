import ControlFabric.Lib.Bfs

/-! Breadth-first search for one node, to a bounded depth, with a record of the walk to each node
queued: it finds a walk exactly when few enough steps reach the node, and a shortest one. -/
namespace Lib
variable {V L P : Type*}

/-- How a search records its walks: hop by hop, and a record tells how many hops it holds. -/
structure Recorder (V L P : Type*) where
  extend : P → L → V → P
  depth : P → ℤ
  depth_extend : ∀ p l v, depth (extend p l v) = depth p + 1

/-- `p` records a walk of `n` hops from `s`, where the record was `p₀`, to `v`. -/
inductive Recorded (r : Recorder V L P) (hops : V → List (L × V)) (s : V) (p₀ : P) :
    ℕ → V → P → Prop
  | zero : Recorded r hops s p₀ 0 s p₀
  | succ {n : ℕ} {u v : V} {p : P} {l : L} :
      Recorded r hops s p₀ n u p → (l, v) ∈ hops u → Recorded r hops s p₀ (n + 1) v (r.extend p l v)

/-- One hop leads from `u` to `v`. -/
def HopTo (hops : V → List (L × V)) (u v : V) : Prop := ∃ l, (l, v) ∈ hops u

/-- What a search for `target` has to answer: nothing when more than `D` hops are needed, else the
record of a shortest walk. -/
def ShortestRecord (r : Recorder V L P) (hops : V → List (L × V)) (s : V) (p₀ : P) (target : V)
    (D : ℤ) : Option P → Prop
  | none => ∀ n : ℕ, (n = 0 ∨ (n : ℤ) ≤ D) → ¬ Steps (HopTo hops) s n target
  | some p => ∃ n : ℕ, (n = 0 ∨ (n : ℤ) ≤ D) ∧ Dist (HopTo hops) s n target ∧
      Recorded r hops s p₀ n target p

/-- The nodes still to be expanded with their records, the nodes seen, and the record found. -/
structure Search (V P : Type*) where
  queue : List (V × P)
  visited : List V
  found : Option P

namespace Search
variable [DecidableEq V] (r : Recorder V L P) (hops : V → List (L × V)) (target : V) (D : ℤ)

def visit (p : P) (st : Search V P) (hop : L × V) : Search V P :=
  if hop.2 ∉ st.visited then
    { st with
      visited := st.visited ++ [hop.2]
      queue := st.queue ++ [(hop.2, r.extend p hop.1 hop.2)] }
  else st

/-- Takes the first node of the queue; `none` when the target is found or the queue is empty. -/
def step (st : Search V P) : Option (Search V P) :=
  match st.found, st.queue with
  | some _, _ => none
  | none, [] => none
  | none, (u, p) :: queue =>
    if u = target then some { st with queue := queue, found := some p }
    else if D ≤ r.depth p then some { st with queue := queue }
    else some ((hops u).foldl (visit r p) { st with queue := queue })

def start (s : V) (p₀ : P) : Search V P := ⟨[(s, p₀)], [s], none⟩

/-- The search without its records. -/
def frontier (st : Search V P) : Frontier V :=
  ⟨st.queue.map fun e => (e.1, r.depth e.2), st.visited⟩

def next (u : V) : List V := (hops u).map Prod.snd

variable {r hops target D} {s : V} {p₀ p : P} {st st' : Search V P} {u v : V}

omit [DecidableEq V] in
theorem edge_next : Frontier.Edge (next hops) = HopTo hops := by
  funext u v
  simp [Frontier.Edge, next, HopTo]

omit [DecidableEq V] in
theorem stepsFrom_iff {n : ℕ} :
    StepsFrom (Frontier.Edge (next hops)) [s] n v ↔ Steps (HopTo hops) s n v := by
  rw [edge_next]
  simp [StepsFrom]

theorem frontier_visit (hD : r.depth p + 1 ≤ D) (st : Search V P) (hop : L × V) :
    (visit r p st hop).frontier r = (st.frontier r).visit D (r.depth p) hop.2 := by
  unfold visit Frontier.visit
  by_cases hnew : hop.2 ∈ st.visited
  · rw [if_neg (not_not.mpr hnew), if_neg fun h => h.1 hnew]
  · rw [if_pos hnew, if_pos ⟨hnew, hD⟩]
    simp [frontier, r.depth_extend]

theorem frontier_foldl (hD : r.depth p + 1 ≤ D) (l : List (L × V)) (st : Search V P) :
    (l.foldl (visit r p) st).frontier r =
      (l.map Prod.snd).foldl (Frontier.visit D (r.depth p)) (st.frontier r) := by
  induction l generalizing st with
  | nil => rfl
  | cons hop l ih => rw [List.foldl_cons, ih, frontier_visit hD, List.map_cons, List.foldl_cons]

theorem foldl_visit_deep {depth : ℤ} (hD : ¬ depth + 1 ≤ D) (l : List V) (f : Frontier V) :
    l.foldl (Frontier.visit D depth) f = f := by
  induction l with
  | nil => rfl
  | cons v l ih => rw [List.foldl_cons, Frontier.visit, if_neg fun h => hD h.2, ih]

/-- What is queued is kept, and each node visited on the way is queued. -/
theorem foldl_visit_mem (p : P) (l : List (L × V)) (st : Search V P) :
    (∀ e ∈ st.queue, e ∈ (l.foldl (visit r p) st).queue) ∧
      ∀ v ∈ (l.foldl (visit r p) st).visited, v ∈ st.visited ∨
        ∃ q, (v, q) ∈ (l.foldl (visit r p) st).queue := by
  induction l generalizing st with
  | nil => exact ⟨fun _ he => he, fun _ hv => Or.inl hv⟩
  | cons hop l ih =>
    obtain ⟨hqueue, hvisited⟩ := ih (visit r p st hop)
    rw [List.foldl_cons]
    by_cases hnew : hop.2 ∈ st.visited
    · have hsame : visit r p st hop = st := if_neg (not_not.mpr hnew)
      rw [hsame] at hqueue hvisited ⊢
      exact ⟨hqueue, hvisited⟩
    · have hpush : visit r p st hop = { st with
          visited := st.visited ++ [hop.2]
          queue := st.queue ++ [(hop.2, r.extend p hop.1 hop.2)] } := if_pos hnew
      rw [hpush] at hqueue hvisited ⊢
      refine ⟨fun e he => hqueue e (List.mem_append_left _ he), fun v hv => ?_⟩
      rcases hvisited v hv with hold | hqueued
      · rcases List.mem_append.mp hold with hold | hhere
        · exact Or.inl hold
        · obtain rfl := List.mem_singleton.mp hhere
          exact Or.inr ⟨_, hqueue _ (List.mem_append_right _ (List.mem_singleton_self _))⟩
      · exact Or.inr hqueued

/-- What is queued on the way is an extension to a node not visited before. -/
theorem mem_foldl_queue {l : List (L × V)} {e : V × P}
    (he : e ∈ (l.foldl (visit r p) st).queue) :
    e ∈ st.queue ∨ ∃ hop ∈ l, hop.2 ∉ st.visited ∧ e = (hop.2, r.extend p hop.1 hop.2) := by
  induction l generalizing st with
  | nil => exact Or.inl he
  | cons hop l ih =>
    rw [List.foldl_cons] at he
    unfold visit at he
    split at he
    next hnew =>
      rcases ih he with hold | ⟨hop', hmem, hfresh, heq⟩
      · rcases List.mem_append.mp hold with hold | hhere
        · exact Or.inl hold
        · exact Or.inr ⟨hop, List.mem_cons_self, hnew, List.mem_singleton.mp hhere⟩
      · exact Or.inr ⟨hop', List.mem_cons_of_mem _ hmem,
          fun h => hfresh (List.mem_append_left _ h), heq⟩
    next =>
      rcases ih he with hold | ⟨hop', hmem, hfresh, heq⟩
      · exact Or.inl hold
      · exact Or.inr ⟨hop', List.mem_cons_of_mem _ hmem, hfresh, heq⟩

theorem foldl_visit_found (l : List (L × V)) (st : Search V P) :
    (l.foldl (visit r p) st).found = st.found := by
  induction l generalizing st with
  | nil => rfl
  | cons hop l ih =>
    rw [List.foldl_cons, ih]
    unfold visit
    split <;> rfl

/-- The invariant of the loop. -/
structure Seeking (r : Recorder V L P) (hops : V → List (L × V)) (s : V) (p₀ : P) (target : V)
    (D : ℤ) (st : Search V P) : Prop where
  searching : st.found = none → Frontier.Searching (next hops) D [s] (st.frontier r)
  recorded : ∀ e ∈ st.queue, ∃ n : ℕ, r.depth e.2 = n ∧ (n = 0 ∨ (n : ℤ) ≤ D) ∧
    Dist (HopTo hops) s n e.1 ∧ Recorded r hops s p₀ n e.1 e.2
  pending : st.found = none → target ∈ st.visited → ∃ q, (target, q) ∈ st.queue
  found : ∀ q, st.found = some q → ShortestRecord r hops s p₀ target D (some q)

theorem start_seeking (hdepth : r.depth p₀ = 0) :
    Seeking r hops s p₀ target D (start s p₀) where
  searching := by
    intro _
    have hstart : (start s p₀).frontier r = Frontier.start [s] := by
      simp [frontier, start, Frontier.start, hdepth]
    rw [hstart]
    exact ⟨Frontier.start_sound _ _ _, 0, Frontier.start_layered _ _ _⟩
  recorded := by
    intro e he
    obtain rfl := List.mem_singleton.mp he
    exact ⟨0, hdepth, Or.inl rfl, Dist.self, Recorded.zero⟩
  pending := by
    intro _ hmem
    obtain rfl := List.mem_singleton.mp hmem
    exact ⟨p₀, List.mem_singleton_self _⟩
  found := by
    intro q hq
    cases hq

/-- The first node of the queue is expanded as breadth-first search does it. -/
theorem frontier_expand (queue : List (V × P)) (visited : List V) :
    (frontier r ⟨(u, p) :: queue, visited, none⟩).expand (next hops) D =
      some (frontier r (if D ≤ r.depth p then ⟨queue, visited, none⟩
        else (hops u).foldl (visit r p) ⟨queue, visited, none⟩)) := by
  show some (((hops u).map Prod.snd).foldl (Frontier.visit D (r.depth p)) _) = _
  congr 1
  split
  next hdeep => exact foldl_visit_deep (show ¬ r.depth p + 1 ≤ D by omega) _ _
  next hnear =>
    exact (frontier_foldl (show r.depth p + 1 ≤ D by omega) (hops u) ⟨queue, visited, none⟩).symm

/-- A hop from the first node of the queue to a node not visited is the last of a shortest walk. -/
theorem Seeking.dist_succ {queue : List (V × P)} {visited : List V} {k : ℕ} {l : L}
    (h : Seeking r hops s p₀ target D ⟨(u, p) :: queue, visited, none⟩) (hk : r.depth p = k)
    (hD : (k : ℤ) < D) (hdist : Dist (HopTo hops) s k u) (hhop : (l, v) ∈ hops u)
    (hnew : v ∉ visited) : Dist (HopTo hops) s (k + 1) v := by
  refine hdist.succ ⟨l, hhop⟩ fun m hm hsteps => hnew ?_
  have hsearching := h.searching rfl
  rw [frontier, List.map_cons, hk] at hsearching
  exact hsearching.near hm (Or.inr (by omega)) (stepsFrom_iff.mpr hsteps)

theorem Seeking.step (h : Seeking r hops s p₀ target D st)
    (hstep : st.step r hops target D = some st') : Seeking r hops s p₀ target D st' := by
  obtain ⟨queue, visited, found⟩ := st
  cases found with
  | some q => cases hstep
  | none =>
    cases queue with
    | nil => cases hstep
    | cons e queue =>
      obtain ⟨u, p⟩ := e
      obtain ⟨k, hk, hkD, hdist, hrecorded⟩ := h.recorded (u, p) List.mem_cons_self
      dsimp only at hk hdist hrecorded
      have hrest : ∀ e ∈ queue, ∃ n : ℕ, r.depth e.2 = n ∧ (n = 0 ∨ (n : ℤ) ≤ D) ∧
          Dist (HopTo hops) s n e.1 ∧ Recorded r hops s p₀ n e.1 e.2 :=
        fun e he => h.recorded e (List.mem_cons_of_mem _ he)
      have hpending : u ≠ target → target ∈ visited → ∃ q, (target, q) ∈ queue := by
        intro hne hmem
        obtain ⟨q, hq⟩ := h.pending rfl hmem
        rcases List.mem_cons.mp hq with heq | hq
        · exact absurd (congrArg Prod.fst heq).symm hne
        · exact ⟨q, hq⟩
      have hsearching := (h.searching rfl).expand (frontier_expand queue visited)
      by_cases htarget : u = target
      · obtain rfl : ⟨queue, visited, some p⟩ = st' := by simpa [Search.step, htarget] using hstep
        refine ⟨fun hnone => ?_, hrest, fun hnone => ?_, fun q hq => ?_⟩
        · cases hnone
        · cases hnone
        · obtain rfl := Option.some.inj hq
          obtain rfl := htarget
          exact ⟨k, hkD, hdist, hrecorded⟩
      · by_cases hdeep : D ≤ r.depth p
        · obtain rfl : ⟨queue, visited, none⟩ = st' := by
            simpa [Search.step, htarget, hdeep] using hstep
          rw [if_pos hdeep] at hsearching
          refine ⟨fun _ => hsearching, hrest, fun _ => hpending htarget, fun q hq => ?_⟩
          cases hq
        · obtain rfl : (hops u).foldl (visit r p) ⟨queue, visited, none⟩ = st' := by
            simpa [Search.step, htarget, hdeep] using hstep
          rw [if_neg hdeep] at hsearching
          obtain ⟨hkept, hvisited⟩ := foldl_visit_mem p (hops u) (r := r) ⟨queue, visited, none⟩
          refine ⟨fun _ => hsearching, fun e he => ?_, fun _ hmem => ?_, fun q hq => ?_⟩
          · rcases mem_foldl_queue he with hold | ⟨hop, hhop, hnew, rfl⟩
            · exact hrest e hold
            · have hlt : (k : ℤ) < D := by omega
              exact ⟨k + 1, by rw [r.depth_extend, hk]; rfl, Or.inr (by exact_mod_cast hlt),
                h.dist_succ hk hlt hdist hhop hnew, hrecorded.succ hhop⟩
          · rcases hvisited target hmem with hold | hqueued
            · obtain ⟨q, hq⟩ := hpending htarget hold
              exact ⟨q, hkept _ hq⟩
            · exact hqueued
          · rw [foldl_visit_found] at hq
            cases hq

/-- Each round leaves less to do. -/
theorem step_work {nodes : List V} (hhops : ∀ u, ∀ hop ∈ hops u, hop.2 ∈ nodes)
    (hstep : st.step r hops target D = some st') :
    (st'.frontier r).work nodes < (st.frontier r).work nodes := by
  obtain ⟨queue, visited, found⟩ := st
  cases found with
  | some q => cases hstep
  | none =>
    cases queue with
    | nil => cases hstep
    | cons e queue =>
      obtain ⟨u, p⟩ := e
      have hnext : ∀ u, ∀ v ∈ next hops u, v ∈ nodes := by
        intro u v hv
        obtain ⟨hop, hhop, rfl⟩ := List.mem_map.mp hv
        exact hhops u hop hhop
      by_cases htarget : u = target
      · obtain rfl : ⟨queue, visited, some p⟩ = st' := by simpa [Search.step, htarget] using hstep
        simp [Frontier.work, frontier]
      · have hexpand : (frontier r ⟨(u, p) :: queue, visited, none⟩).expand (next hops) D = _ :=
          frontier_expand queue visited
        obtain rfl : (if D ≤ r.depth p then (⟨queue, visited, none⟩ : Search V P)
            else (hops u).foldl (visit r p) ⟨queue, visited, none⟩) = st' := by
          simpa [Search.step, htarget, ← apply_ite some] using hstep
        exact Frontier.expand_work hnext hexpand

/-- A search ends with the record of a shortest walk, if few enough hops lead to the target. -/
theorem loop_step {nodes : List V} (hhops : ∀ u, ∀ hop ∈ hops u, hop.2 ∈ nodes)
    (hdepth : r.depth p₀ = 0) (s target : V) (D : ℤ) {fuel : ℕ}
    (hfuel : nodes.length + 1 < fuel) :
    ∃ final, loop (step r hops target D) fuel (start s p₀) = some final ∧
      ShortestRecord r hops s p₀ target D final.found := by
  have hwork : ((start s p₀).frontier r).work nodes < fuel := by
    have := unvisited_le nodes [s]
    simp only [Frontier.work, frontier, start, List.map_cons, List.map_nil, List.length_singleton]
    omega
  obtain ⟨final, hloop, hfinal, hdone⟩ := loop_terminates (fun st => (frontier r st).work nodes)
    (fun st st' hst hstep => ⟨Seeking.step hst hstep, step_work hhops hstep⟩)
    (start_seeking hdepth) hwork
  refine ⟨final, hloop, ?_⟩
  cases hfound : final.found with
  | some q => exact hfinal.found q hfound
  | none =>
    intro n hn hsteps
    have hempty : final.queue = [] := by
      cases hqueue : final.queue with
      | nil => rfl
      | cons e queue =>
        simp only [step, hfound, hqueue] at hdone
        split_ifs at hdone
    have hvisited : target ∈ final.visited :=
      (hfinal.searching hfound).complete (by simp [frontier, hempty]) hn (stepsFrom_iff.mpr hsteps)
    obtain ⟨q, hq⟩ := hfinal.pending hfound hvisited
    rw [hempty] at hq
    exact List.not_mem_nil hq

end Search
end Lib
