import Mathlib.Data.List.Basic
import Mathlib.Tactic

/-! Walks and distances in a directed graph with labelled hops. -/
namespace Lib
variable {V L : Type*}

/-- `v` is reached from `s` by exactly `n` steps. -/
inductive Steps (R : V → V → Prop) (s : V) : ℕ → V → Prop
  | zero : Steps R s 0 s
  | succ {n : ℕ} {u v : V} : Steps R s n u → R u v → Steps R s (n + 1) v

/-- `n` is the least number of steps from `s` to `v`. -/
structure Dist (R : V → V → Prop) (s : V) (n : ℕ) (v : V) : Prop where
  steps : Steps R s n v
  least : ∀ m, Steps R s m v → n ≤ m

section
variable {R : V → V → Prop} {s u v : V} {n m : ℕ}

theorem Dist.unique (h : Dist R s n v) (h' : Dist R s m v) : n = m :=
  le_antisymm (h.least m h'.steps) (h'.least n h.steps)

theorem Dist.self : Dist R s 0 s := ⟨Steps.zero, fun _ _ => Nat.zero_le _⟩

theorem Dist.eq_self (h : Dist R s 0 v) : v = s := by
  cases h.steps
  rfl

theorem Steps.exists_dist (h : Steps R s n v) : ∃ m ≤ n, Dist R s m v := by
  classical
  have hex : ∃ m, Steps R s m v := ⟨n, h⟩
  exact ⟨Nat.find hex, Nat.find_min' hex h, Nat.find_spec hex, fun m hm => Nat.find_min' hex hm⟩

/-- The node before the last on a shortest walk is one step nearer. -/
theorem Dist.pred (h : Dist R s (n + 1) v) : ∃ u, Dist R s n u ∧ R u v := by
  cases h.steps with
  | succ hu huv =>
    refine ⟨_, ⟨hu, fun m hm => ?_⟩, huv⟩
    have := h.least (m + 1) (hm.succ huv)
    omega

/-- A step from distance `n` to a node that `n` steps do not reach. -/
theorem Dist.succ (h : Dist R s n u) (huv : R u v) (hfar : ∀ m ≤ n, ¬ Steps R s m v) :
    Dist R s (n + 1) v := by
  refine ⟨h.steps.succ huv, fun m hm => ?_⟩
  by_contra hlt
  exact hfar m (by omega) hm

/-- A set that contains the start and every step from its nodes nearer than `b` contains all nodes
within `b` steps. -/
theorem mem_of_closed {S : V → Prop} {b : ℕ} (hs : S s)
    (hclosed : ∀ u n, S u → Dist R s n u → n < b → ∀ v, R u v → S v) (hn : n ≤ b)
    (h : Steps R s n v) : S v := by
  obtain ⟨m, hm, hdist⟩ := h.exists_dist
  have hall : ∀ k ≤ b, ∀ v, Dist R s k v → S v := by
    intro k
    induction k with
    | zero =>
      intro _ v hv
      rw [hv.eq_self]
      exact hs
    | succ k ih =>
      intro hk v hv
      obtain ⟨u, hu, huv⟩ := hv.pred
      exact hclosed u k (ih (by omega) u hu) hu (by omega) v huv
  exact hall m (by omega) v hdist

end

/-- A walk is a chain of nodes, one more than it has steps. -/
theorem steps_iff_chain {R : V → V → Prop} {s v : V} {n : ℕ} :
    Steps R s n v ↔ ∃ nodes : List V, nodes.IsChain R ∧ nodes.head? = some s ∧
      nodes.getLast? = some v ∧ nodes.length = n + 1 := by
  constructor
  · intro h
    induction h with
    | zero => exact ⟨[s], List.isChain_singleton s, rfl, rfl, rfl⟩
    | succ _ huv ih =>
      obtain ⟨nodes, hchain, hhead, hlast, hlength⟩ := ih
      refine ⟨nodes ++ [_], ?_, by simp [List.head?_append, hhead], List.getLast?_concat,
        by simp [hlength]⟩
      refine List.isChain_append.mpr ⟨hchain, List.isChain_singleton _, ?_⟩
      intro x hx y hy
      obtain rfl := Option.some.inj (hlast.symm.trans hx)
      obtain rfl := Option.some.inj hy
      exact huv
  · rintro ⟨nodes, hchain, hhead, hlast, hlength⟩
    induction n generalizing nodes v with
    | zero =>
      obtain ⟨a, rfl⟩ := List.length_eq_one_iff.mp hlength
      obtain rfl := Option.some.inj hhead
      obtain rfl := Option.some.inj hlast
      exact Steps.zero
    | succ n ih =>
      obtain rfl | ⟨before, last, rfl⟩ := List.eq_nil_or_concat' nodes
      · cases hlength
      · obtain rfl : last = v := by simpa using hlast
        have hbefore : before.length = n + 1 := by simpa using hlength
        have hne : before ≠ [] := List.length_pos_iff.mp (by omega)
        have hu := List.getLast?_eq_some_getLast hne
        obtain ⟨hchain, -, hlink⟩ := List.isChain_append.mp hchain
        have hhead' : before.head? = some s := by
          cases before with
          | nil => cases hbefore
          | cons a before => exact hhead
        exact (ih before hchain hhead' hu hbefore).succ (hlink _ hu last rfl)

/-- A walk from `s` with the nodes and the hop labels it passes, ending in the last node. -/
inductive Trail (hop : V → L → V → Prop) (s : V) : List V → List L → V → Prop
  | nil : Trail hop s [s] [] s
  | snoc {nodes : List V} {labels : List L} {u v : V} {l : L} :
      Trail hop s nodes labels u → hop u l v → Trail hop s (nodes ++ [v]) (labels ++ [l]) v

namespace Trail
variable {hop : V → L → V → Prop} {s v : V} {nodes : List V} {labels : List L}

theorem length_nodes (h : Trail hop s nodes labels v) : nodes.length = labels.length + 1 := by
  induction h with
  | nil => rfl
  | snoc _ _ ih => simp [ih]

theorem head_nodes (h : Trail hop s nodes labels v) : nodes.head? = some s := by
  induction h with
  | nil => rfl
  | snoc _ _ ih => simp [List.head?_append, ih]

theorem last_nodes (h : Trail hop s nodes labels v) : nodes.getLast? = some v := by
  cases h with
  | nil => rfl
  | snoc _ _ => exact List.getLast?_concat

theorem steps (h : Trail hop s nodes labels v) :
    Steps (fun u w => ∃ l, hop u l w) s labels.length v := by
  induction h with
  | nil => exact Steps.zero
  | snoc _ hhop ih =>
    rw [List.length_append, List.length_singleton]
    exact ih.succ ⟨_, hhop⟩

/-- Every node on a walk is reached by a part of it. -/
theorem reaches (h : Trail hop s nodes labels v) {w : V} (hw : w ∈ nodes) :
    ∃ m ≤ labels.length, Steps (fun u w => ∃ l, hop u l w) s m w := by
  induction h with
  | nil =>
    obtain rfl := List.mem_singleton.mp hw
    exact ⟨0, le_rfl, Steps.zero⟩
  | snoc h hhop ih =>
    rw [List.length_append, List.length_singleton]
    rcases List.mem_append.mp hw with hold | hhere
    · obtain ⟨m, hm, hsteps⟩ := ih hold
      exact ⟨m, by omega, hsteps⟩
    · obtain rfl := List.mem_singleton.mp hhere
      exact ⟨_, le_rfl, h.steps.succ ⟨_, hhop⟩⟩

/-- A shortest walk passes no node twice. -/
theorem nodup (h : Trail hop s nodes labels v)
    (hdist : Dist (fun u w => ∃ l, hop u l w) s labels.length v) : nodes.Nodup := by
  induction h with
  | nil => exact List.nodup_singleton s
  | snoc h hhop ih =>
    rw [List.length_append, List.length_singleton] at hdist
    have hbefore : Dist (fun u w => ∃ l, hop u l w) s _ _ := ⟨h.steps, fun m hm => by
      have := hdist.least (m + 1) (hm.succ ⟨_, hhop⟩)
      omega⟩
    refine List.nodup_append.mpr ⟨ih hbefore, List.nodup_singleton _, ?_⟩
    intro a ha b hb heq
    obtain rfl := List.mem_singleton.mp hb
    obtain ⟨m, hm, hsteps⟩ := h.reaches (heq ▸ ha)
    have := hdist.least m hsteps
    omega

theorem chain (h : Trail hop s nodes labels v) :
    nodes.IsChain fun u w => ∃ l, hop u l w := by
  induction h with
  | nil => exact List.isChain_singleton s
  | snoc h hhop ih =>
    refine List.isChain_append.mpr ⟨ih, List.isChain_singleton _, ?_⟩
    intro x hx y hy
    obtain rfl := Option.some.inj (h.last_nodes.symm.trans hx)
    obtain rfl := Option.some.inj hy
    exact ⟨_, hhop⟩

end Trail
end Lib
