import ControlFabric.Lib.Bfs

/-! Breadth-first search that notes the depth of each node it sees and stops when it has seen
enough: the depths are distances, and what it has seen when it stops is a ball and part of the next
layer. -/
namespace Lib
variable {V : Type*}

/-- The nodes still to be expanded, the nodes seen, both with their depths, the depth of the last
node taken, and whether the search was cut short. -/
structure Layers (V : Type*) where
  queue : List (V × ℤ)
  seen : List (V × ℤ)
  reached : ℤ
  truncated : Bool

namespace Layers
variable [DecidableEq V]

def ids (s : Layers V) : List V := s.seen.map Prod.fst

def visit (D depth : ℤ) (s : Layers V) (v : V) : Layers V :=
  if v ∉ s.ids ∧ depth + 1 ≤ D then
    { s with queue := s.queue ++ [(v, depth + 1)], seen := s.seen ++ [(v, depth + 1)] }
  else s

/-- Takes the first node of the queue, and expands it unless as many nodes as allowed are seen. -/
def expand (next : V → List V) (D budget : ℤ) (s : Layers V) : Option (Layers V) :=
  match s.truncated, s.queue with
  | true, _ | false, [] => none
  | false, (u, depth) :: queue =>
    let s := { s with queue := queue, reached := max s.reached depth }
    if budget ≤ s.seen.length then some { s with truncated := true }
    else some ((next u).foldl (visit D depth) s)

/-- The search at its begin; the starts are seen each once, in some order. -/
def start (starts ids : List V) : Layers V :=
  ⟨starts.map fun v => (v, 0), ids.map fun v => (v, 0), 0, false⟩

/-- The search without the depths of what it has seen. -/
def frontier (s : Layers V) : Frontier V := ⟨s.queue, s.ids⟩

variable {next : V → List V} {D budget : ℤ} {starts : List V} {s : Layers V} {u v : V} {k : ℕ}

open Frontier (Edge Searching)

theorem frontier_visit (depth : ℤ) (s : Layers V) (v : V) :
    (visit D depth s v).frontier = s.frontier.visit D depth v := by
  unfold visit Frontier.visit frontier
  split_ifs with h
  · simp [ids]
  · rfl

theorem frontier_foldl (depth : ℤ) (l : List V) (s : Layers V) :
    (l.foldl (visit D depth) s).frontier = l.foldl (Frontier.visit D depth) s.frontier := by
  induction l generalizing s with
  | nil => rfl
  | cons v l ih => rw [List.foldl_cons, List.foldl_cons, ih, frontier_visit]

/-- What visiting a list of nodes adds: new nodes of the list, one layer deeper. -/
theorem foldl_visit (depth : ℤ) (l : List V) (s : Layers V) : ∃ new : List V,
    l.foldl (visit D depth) s = { s with
      queue := s.queue ++ new.map (fun v => (v, depth + 1))
      seen := s.seen ++ new.map (fun v => (v, depth + 1)) } ∧
    ∀ v ∈ new, v ∈ l ∧ v ∉ s.ids ∧ depth + 1 ≤ D := by
  induction l generalizing s with
  | nil => exact ⟨[], by simp⟩
  | cons a l ih =>
    rw [List.foldl_cons]
    by_cases h : a ∉ s.ids ∧ depth + 1 ≤ D
    · obtain ⟨new, hfold, hnew⟩ := ih (visit D depth s a)
      rw [visit, if_pos h] at hfold hnew ⊢
      refine ⟨a :: new, by simp [hfold], ?_⟩
      rintro v (_ | ⟨_, hv⟩)
      · exact ⟨List.mem_cons_self, h⟩
      · obtain ⟨hmem, hout, hdeep⟩ := hnew v hv
        refine ⟨List.mem_cons_of_mem _ hmem, fun hold => hout ?_, hdeep⟩
        exact List.mem_map.mpr (by
          obtain ⟨e, he, rfl⟩ := List.mem_map.mp hold
          exact ⟨e, List.mem_append_left _ he, rfl⟩)
    · obtain ⟨new, hfold, hnew⟩ := ih s
      rw [visit, if_neg h]
      refine ⟨new, hfold, fun v hv => ?_⟩
      obtain ⟨hmem, hrest⟩ := hnew v hv
      exact ⟨List.mem_cons_of_mem _ hmem, hrest⟩

/-- The nodes seen stand with their distances. -/
def Dated (next : V → List V) (starts : List V) (s : Layers V) : Prop :=
  ∀ e ∈ s.seen, ∃ n : ℕ, e.2 = n ∧ DistFrom (Edge next) starts n e.1

/-- The invariant of the loop while it goes on. -/
structure Running (next : V → List V) (D budget : ℤ) (starts : List V) (s : Layers V) : Prop where
  goesOn : s.truncated = false
  searching : Searching next D starts s.frontier
  dated : Dated next starts s
  due : ∀ e ∈ s.seen, e.2 ≤ s.reached ∨ e ∈ s.queue
  queued : ∀ e ∈ s.queue, s.reached ≤ e.2 ∧ e ∈ s.seen
  attained : s.reached = 0 ∨ ∃ v, (v, s.reached) ∈ s.seen
  room : s.queue = [] → s.seen = [] ∨ s.seen.length < budget

/-- What holds when the search was cut short: it has seen all nodes up to the depth reached, and
some of the next layer. -/
structure CutShort (next : V → List V) (D budget : ℤ) (starts : List V) (s : Layers V) : Prop where
  stopped : s.truncated = true
  nodup : s.ids.Nodup
  near : ∀ v ∈ s.ids, WithinFrom (Edge next) starts D v
  dated : Dated next starts s
  full : budget ≤ s.seen.length
  ball : ∀ n : ℕ, (n : ℤ) ≤ s.reached → ∀ v, StepsFrom (Edge next) starts n v → v ∈ s.ids
  next_layer : ∀ e ∈ s.seen, e.2 ≤ s.reached + 1

omit [DecidableEq V] in
/-- In which order the nodes have been seen does not matter. -/
theorem searching_of_perm {queue : List (V × ℤ)} {visited visited' : List V}
    (h : Searching next D starts ⟨queue, visited⟩) (hperm : visited.Perm visited') :
    Searching next D starts ⟨queue, visited'⟩ := by
  obtain ⟨⟨hnodup, hstarts, hnear, hqueued⟩, b, hsorted, hlayers, hopen⟩ := h
  refine ⟨⟨hperm.nodup hnodup, fun v hv => hperm.mem_iff.mp (hstarts v hv),
    fun v hv => hnear v (hperm.mem_iff.mpr hv), fun e he => ?_⟩, b, hsorted, hlayers, ?_⟩
  · obtain ⟨hmem, hdepth⟩ := hqueued e he
    exact ⟨hperm.mem_iff.mp hmem, hdepth⟩
  · intro u hu n hn hbound
    rcases hopen u (hperm.mem_iff.mpr hu) n hn hbound with hall | hpending | hin
    · exact Or.inl fun v hv => hperm.mem_iff.mp (hall v hv)
    · exact Or.inr (Or.inl hpending)
    · exact Or.inr (Or.inr hin)

theorem start_running (next : V → List V) (D budget : ℤ) {starts ids : List V} (hnodup : ids.Nodup)
    (hids : ∀ v, v ∈ ids ↔ v ∈ starts) : Running next D budget starts (start starts ids) where
  goesOn := rfl
  searching := by
    have hperm : starts.dedup.Perm ids := (List.perm_ext_iff_of_nodup (List.nodup_dedup _) hnodup).mpr
      fun v => List.mem_dedup.trans (hids v).symm
    have hview : (start starts ids).frontier = ⟨starts.map fun v => (v, 0), ids⟩ := by
      simp [start, frontier, Layers.ids, Function.comp_def]
    rw [hview]
    exact searching_of_perm ⟨Frontier.start_sound next D starts, 0,
      Frontier.start_layered next D starts⟩ hperm
  dated := by
    intro e he
    obtain ⟨v, hv, rfl⟩ := List.mem_map.mp he
    exact ⟨0, rfl, stepsFrom_zero.mpr ((hids v).mp hv), fun m _ => Nat.zero_le m⟩
  due := by
    intro e he
    obtain ⟨v, hv, rfl⟩ := List.mem_map.mp he
    exact Or.inl le_rfl
  queued := by
    intro e he
    obtain ⟨v, hv, rfl⟩ := List.mem_map.mp he
    exact ⟨le_rfl, List.mem_map.mpr ⟨v, (hids v).mpr hv, rfl⟩⟩
  attained := Or.inl rfl
  room := by
    intro hempty
    obtain rfl : starts = [] := List.map_eq_nil_iff.mp hempty
    obtain rfl : ids = [] := List.eq_nil_iff_forall_not_mem.mpr fun v hv => by
      simpa using (hids v).mp hv
    exact Or.inl rfl

/-- The first node of the queue: how far it is, and what has been seen by then. -/
theorem Running.first (h : Running next D budget starts s) {depth : ℤ} {queue : List (V × ℤ)}
    (hqueue : s.queue = (u, depth) :: queue) : ∃ k : ℕ, depth = k ∧ s.reached ≤ k ∧
      StepsFrom (Edge next) starts k u ∧ (k = 0 ∨ (k : ℤ) ≤ D) ∧ (∀ e ∈ queue, (k : ℤ) ≤ e.2) ∧
      ∀ n ≤ k, ∀ v, StepsFrom (Edge next) starts n v → v ∈ s.ids := by
  have hfirst : (u, depth) ∈ s.queue := by
    rw [hqueue]
    exact List.mem_cons_self
  obtain ⟨-, k, hk, hsteps⟩ := h.searching.sound.queued _ hfirst
  obtain rfl : depth = k := hk
  obtain ⟨hle, hseen⟩ := h.queued _ hfirst
  obtain ⟨n, hn, hdist⟩ := h.dated _ hseen
  obtain rfl : k = n := Int.natCast_inj.mp hn
  have hbound : k = 0 ∨ (k : ℤ) ≤ D :=
    (h.searching.sound.near u (List.mem_map.mpr ⟨_, hseen, rfl⟩)).dist_le hdist
  have hsearching : Searching next D starts ⟨(u, (k : ℤ)) :: queue, s.ids⟩ := by
    rw [← hqueue]
    exact h.searching
  obtain ⟨b, hlayered⟩ := hsearching.layered
  obtain ⟨hleast, -⟩ := List.pairwise_cons.mp hlayered.sorted
  exact ⟨k, rfl, hle, hsteps, hbound, hleast, fun n hn v hv => hsearching.near hn (by omega) hv⟩

theorem Running.expand (h : Running next D budget starts s) {s' : Layers V}
    (hstep : s.expand next D budget = some s') :
    Running next D budget starts s' ∨ CutShort next D budget starts s' := by
  unfold Layers.expand at hstep
  rw [h.goesOn] at hstep
  cases hqueue : s.queue with
  | nil => simp [hqueue] at hstep
  | cons e queue =>
    obtain ⟨u, depth⟩ := e
    obtain ⟨k, rfl, hle, hsteps, hbound, hleast, hball⟩ := h.first hqueue
    have hsplit : ∀ e, e ∈ s.queue → e = (u, (k : ℤ)) ∨ e ∈ queue := by
      rw [hqueue]
      exact fun e he => List.mem_cons.mp he
    have hreached : max s.reached (k : ℤ) = k := max_eq_right hle
    have hfirst : (u, (k : ℤ)) ∈ s.seen := by
      refine (h.queued _ ?_).2
      rw [hqueue]
      exact List.mem_cons_self
    simp only [hqueue, hreached] at hstep
    split at hstep
    next hfull =>
      obtain rfl := Option.some.inj hstep
      refine Or.inr ⟨rfl, h.searching.sound.nodup, h.searching.sound.near, h.dated, hfull, ?_, ?_⟩
      · exact fun n hn v hv => hball n (Int.ofNat_le.mp hn) v hv
      · intro e he
        obtain ⟨b, hlayered⟩ := h.searching.layered
        have hb := (hlayered.layers (u, (k : ℤ)) (by
          rw [frontier, hqueue]
          exact List.mem_cons_self)).1
        dsimp only at hb ⊢
        rcases h.due e he with hdue | hdue
        · omega
        · have := (hlayered.layers e hdue).2
          omega
    next hroom =>
      obtain rfl := Option.some.inj hstep
      have hexpand : s.frontier.expand next D =
          some (((next u).foldl (visit D k) ⟨queue, s.seen, k, false⟩).frontier) := by
        rw [frontier_foldl, Frontier.expand, frontier, hqueue]
        rfl
      have hsearching := h.searching.expand hexpand
      obtain ⟨new, hfold, hnew⟩ := foldl_visit (D := D) k (next u) ⟨queue, s.seen, k, false⟩
      rw [hfold] at hsearching ⊢
      refine Or.inl ⟨rfl, hsearching, ?_, ?_, ?_, Or.inr ⟨u, List.mem_append_left _ hfirst⟩, ?_⟩
      · intro e he
        rcases List.mem_append.mp he with hold | hadded
        · exact h.dated e hold
        · obtain ⟨v, hv, rfl⟩ := List.mem_map.mp hadded
          obtain ⟨hmem, hout, -⟩ := hnew v hv
          refine ⟨k + 1, by push_cast; rfl, hsteps.succ hmem, fun m hm => ?_⟩
          by_contra hlt
          exact hout (hball m (by omega) v hm)
      · intro e he
        rcases List.mem_append.mp he with hold | hadded
        · rcases h.due e hold with hdue | hdue
          · exact Or.inl (hdue.trans hle)
          · rcases hsplit e hdue with rfl | hdue
            · exact Or.inl le_rfl
            · exact Or.inr (List.mem_append_left _ hdue)
        · exact Or.inr (List.mem_append_right _ hadded)
      · intro e he
        rcases List.mem_append.mp he with hold | hadded
        · refine ⟨hleast e hold, List.mem_append_left _ (h.queued e ?_).2⟩
          rw [hqueue]
          exact List.mem_cons_of_mem _ hold
        · obtain ⟨v, hv, rfl⟩ := List.mem_map.mp hadded
          exact ⟨by dsimp only; omega, List.mem_append_right _ hadded⟩
      · intro hempty
        obtain ⟨-, hnone⟩ := List.append_eq_nil_iff.mp hempty
        right
        simpa [hnone] using hroom

/-- What a search has to answer: the nodes within reach at their distances, all of them unless the
search was cut short, which it was exactly when it had seen as many as allowed. -/
structure Answers (next : V → List V) (D budget : ℤ) (starts : List V) (s : Layers V) : Prop where
  nodup : s.ids.Nodup
  near : ∀ v ∈ s.ids, WithinFrom (Edge next) starts D v
  dated : Dated next starts s
  complete : s.truncated = false → ∀ v, WithinFrom (Edge next) starts D v → v ∈ s.ids
  deepest : s.truncated = false → s.seen ≠ [] → IsGreatest {d | ∃ v, (v, d) ∈ s.seen} s.reached
  idle : s.truncated = false → s.seen = [] → s.reached = 0
  ball : s.truncated = true → ∀ n : ℕ, (n : ℤ) ≤ s.reached → ∀ v,
    StepsFrom (Edge next) starts n v → v ∈ s.ids
  next_layer : ∀ e ∈ s.seen, e.2 ≤ s.reached + 1
  cut_iff : 0 < budget → (s.truncated = true ↔ budget ≤ s.seen.length)

theorem Running.answers (h : Running next D budget starts s) (hdone : s.expand next D budget = none) :
    Answers next D budget starts s := by
  have hempty : s.queue = [] := by
    cases hqueue : s.queue with
    | nil => rfl
    | cons e queue =>
      simp only [Layers.expand, h.goesOn, hqueue] at hdone
      split at hdone <;> cases hdone
  have hdue : ∀ e ∈ s.seen, e.2 ≤ s.reached := by
    intro e he
    rcases h.due e he with hle | hmem
    · exact hle
    · rw [hempty] at hmem
      cases hmem
  refine ⟨h.searching.sound.nodup, h.searching.sound.near, h.dated, fun _ v hv => ?_, fun _ hsome => ?_,
    fun _ hnone => ?_, fun hcut => ?_, fun e he => (hdue e he).trans (by omega), fun hbudget => ?_⟩
  · obtain ⟨n, hD, hsteps⟩ := hv
    exact h.searching.complete hempty hD hsteps
  · refine ⟨?_, ?_⟩
    · rcases h.attained with hzero | hattained
      · obtain ⟨e, he⟩ := List.exists_mem_of_ne_nil _ hsome
        obtain ⟨n, hn, -⟩ := h.dated e he
        have hle := hdue e he
        have hz : e.2 = s.reached := by omega
        exact ⟨e.1, by rw [← hz]; exact he⟩
      · exact hattained
    · rintro d ⟨v, hv⟩
      exact hdue _ hv
  · rcases h.attained with hzero | ⟨v, hv⟩
    · exact hzero
    · rw [hnone] at hv
      cases hv
  · rw [h.goesOn] at hcut
    cases hcut
  · refine ⟨fun hcut => ?_, fun hfull => ?_⟩
    · rw [h.goesOn] at hcut
      cases hcut
    · rcases h.room hempty with hnone | hroom
      · rw [hnone, List.length_nil] at hfull
        omega
      · omega

omit [DecidableEq V] in
theorem CutShort.answers (h : CutShort next D budget starts s) : Answers next D budget starts s where
  nodup := h.nodup
  near := h.near
  dated := h.dated
  complete := by simp [h.stopped]
  deepest := by simp [h.stopped]
  idle := by simp [h.stopped]
  ball := fun _ => h.ball
  next_layer := h.next_layer
  cut_iff := fun _ => ⟨fun _ => h.full, fun _ => h.stopped⟩

/-- What is still to do. -/
def work (nodes : List V) (s : Layers V) : ℕ :=
  if s.truncated then 0 else s.frontier.work nodes + 1

theorem expand_work {nodes : List V} (hnext : ∀ u, ∀ v ∈ next u, v ∈ nodes) {s' : Layers V}
    (hstep : s.expand next D budget = some s') : s'.work nodes < s.work nodes := by
  obtain ⟨queue, seen, reached, truncated⟩ := s
  cases truncated with
  | true => cases hstep
  | false =>
    cases queue with
    | nil => cases hstep
    | cons e queue =>
      simp only [Layers.expand] at hstep
      split at hstep
      next =>
        obtain rfl := Option.some.inj hstep
        simp [work]
      next =>
        obtain rfl := Option.some.inj hstep
        obtain ⟨new, hfold, -⟩ := foldl_visit (D := D) e.2 (next e.1)
          ⟨queue, seen, max reached e.2, false⟩
        have hless := Frontier.foldl_visit_work (D := D) e.2 (hnext e.1)
          (s := ⟨queue, seen.map Prod.fst⟩)
        have hview := frontier_foldl (D := D) e.2 (next e.1) ⟨queue, seen, max reached e.2, false⟩
        have hgoes : ((next e.1).foldl (visit D e.2) ⟨queue, seen, max reached e.2, false⟩).truncated =
          false := by rw [hfold]
        rw [work, work, hgoes, hview]
        simp only [Frontier.work, frontier, ids, List.length_cons] at hless ⊢
        simp only [Bool.false_eq_true, if_false]
        omega

/-- The search ends, with the answer it has to give. -/
theorem loop_expand {nodes : List V} (hnext : ∀ u, ∀ v ∈ next u, v ∈ nodes) (D budget : ℤ)
    {ids : List V} (hnodup : ids.Nodup) (hids : ∀ v, v ∈ ids ↔ v ∈ starts) {fuel : ℕ}
    (hfuel : starts.length + nodes.length + 1 < fuel) :
    ∃ final, loop (expand next D budget) fuel (start starts ids) = some final ∧
      Answers next D budget starts final := by
  have hwork : (start starts ids).work nodes < fuel := by
    have := unvisited_le nodes (start starts ids).ids
    simp only [work, start, Frontier.work, frontier, Layers.ids, List.length_map] at this ⊢
    simp only [Bool.false_eq_true, if_false]
    omega
  have hinvariant : ∀ s s' : Layers V,
      Running next D budget starts s ∨ CutShort next D budget starts s →
      s.expand next D budget = some s' →
      (Running next D budget starts s' ∨ CutShort next D budget starts s') ∧
        s'.work nodes < s.work nodes := by
    rintro s s' (hrunning | hcut) hstep
    · exact ⟨hrunning.expand hstep, expand_work hnext hstep⟩
    · simp [Layers.expand, hcut.stopped] at hstep
  obtain ⟨final, hloop, hfinal, hdone⟩ := loop_terminates (work nodes) hinvariant
    (Or.inl (start_running next D budget hnodup hids)) hwork
  refine ⟨final, hloop, ?_⟩
  rcases hfinal with hrunning | hcut
  · exact hrunning.answers hdone
  · exact hcut.answers

end Layers

/-! ### What is gathered on the way -/

section Gathered
variable {E : Type*} {found : V → List E} {queue visited queue' visited' new : List V} {got got' : List E}
  {u : V}

/-- What a search gathers: only what is found at a node seen, and all of it unless the node still
waits to be expanded. -/
structure Gathered (found : V → List E) (queue visited : List V) (got : List E) : Prop where
  only : ∀ e ∈ got, ∃ v ∈ visited, e ∈ found v
  all : ∀ v ∈ visited, v ∈ queue ∨ ∀ e ∈ found v, e ∈ got
  queued : ∀ v ∈ queue, v ∈ visited

theorem Gathered.start {starts : List V} (h : ∀ v, v ∈ visited ↔ v ∈ starts) :
    Gathered found starts visited [] :=
  ⟨fun _ he => absurd he List.not_mem_nil, fun v hv => Or.inl ((h v).mp hv), fun v hv => (h v).mpr hv⟩

/-- Expanding a node gathers what is found at it and queues what is new. -/
theorem Gathered.expand (h : Gathered found (u :: queue) visited got) (hgot : got' = got ++ found u)
    (hqueue : queue' = queue ++ new) (hvisited : ∀ v, v ∈ visited' ↔ v ∈ visited ∨ v ∈ new) :
    Gathered found queue' visited' got' := by
  subst hgot hqueue
  refine ⟨fun e he => ?_, fun v hv => ?_, fun v hv => ?_⟩
  · rcases List.mem_append.mp he with hold | hadded
    · obtain ⟨v, hv, hfound⟩ := h.only e hold
      exact ⟨v, (hvisited v).mpr (Or.inl hv), hfound⟩
    · exact ⟨u, (hvisited u).mpr (Or.inl (h.queued u List.mem_cons_self)), hadded⟩
  · rcases (hvisited v).mp hv with hold | hnew
    · rcases h.all v hold with hwaits | hall
      · rcases List.mem_cons.mp hwaits with rfl | hwaits
        · exact Or.inr fun e he => List.mem_append_right _ he
        · exact Or.inl (List.mem_append_left _ hwaits)
      · exact Or.inr fun e he => List.mem_append_left _ (hall e he)
    · exact Or.inl (List.mem_append_right _ hnew)
  · rcases List.mem_append.mp hv with hold | hnew
    · exact (hvisited v).mpr (Or.inl (h.queued v (List.mem_cons_of_mem _ hold)))
    · exact (hvisited v).mpr (Or.inr hnew)

theorem Gathered.mem_iff (h : Gathered found [] visited got) {e : E} :
    e ∈ got ↔ ∃ v ∈ visited, e ∈ found v :=
  ⟨h.only e, fun ⟨v, hv, he⟩ => (h.all v hv).elim (fun hwaits => absurd hwaits List.not_mem_nil)
    fun hall => hall e he⟩

end Gathered
end Lib
