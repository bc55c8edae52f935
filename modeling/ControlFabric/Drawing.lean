import ControlFabric.Runtime

/-! Computations that read the clock and draw identifiers, and do nothing else. -/
namespace ControlFabric

/-- A computation that begins at the given draw and returns the draw after its last. -/
def Drawing (α : Type) := ℕ → α × ℕ

namespace Drawing
variable {α β σ : Type}

instance : Monad Drawing where
  pure a := fun n => (a, n)
  bind m f := fun n => f (m n).1 (m n).2

def run (m : Drawing α) (n : ℕ) : α × ℕ := m n

/-- The draw of one object built with default factories, or of one clock reading. -/
def draw : Drawing ℕ := fun n => (n, n + 1)

/-- `for item in items: found.extend(body(item))`. -/
def collect (body : α → Drawing (List β)) : List α → Drawing (List β)
  | [] => pure []
  | item :: items => do
    let found ← body item
    let rest ← collect body items
    return found ++ rest

@[simp] theorem run_pure (a : α) (n : ℕ) : (pure a : Drawing α).run n = (a, n) := rfl

@[simp] theorem run_bind (m : Drawing α) (f : α → Drawing β) (n : ℕ) :
    (m >>= f).run n = (f (m.run n).1).run (m.run n).2 := rfl

@[simp] theorem run_draw (n : ℕ) : draw.run n = (n, n + 1) := rfl

@[simp ↓] theorem run_ite (p : Prop) [Decidable p] (m m' : Drawing α) (n : ℕ) :
    (if p then m else m').run n = if p then m.run n else m'.run n := by
  split <;> rfl

@[simp] theorem run_collect_nil (body : α → Drawing (List β)) (n : ℕ) :
    (collect body []).run n = ([], n) := rfl

theorem run_collect_cons (body : α → Drawing (List β)) (item : α) (items : List α) (n : ℕ) :
    (collect body (item :: items)).run n =
      (((body item).run n).1 ++ ((collect body items).run ((body item).run n).2).1,
        ((collect body items).run ((body item).run n).2).2) := rfl

/-- A relation between the first draw, the draw after the last and the list returned, which joining
two computations keeps, holds of a loop when it holds of every pass. -/
theorem collect_rule {R : ℕ → ℕ → List β → Prop} (hnil : ∀ n, R n n [])
    (happend : ∀ n m k found rest, R n m found → R m k rest → R n k (found ++ rest))
    {body : α → Drawing (List β)} {items : List α}
    (hbody : ∀ item ∈ items, ∀ n, R n ((body item).run n).2 ((body item).run n).1) (n : ℕ) :
    R n ((collect body items).run n).2 ((collect body items).run n).1 := by
  induction items generalizing n with
  | nil => exact hnil n
  | cons item items ih =>
    rw [run_collect_cons]
    exact happend _ _ _ _ _ (hbody item List.mem_cons_self n)
      (ih (fun i hi => hbody i (List.mem_cons_of_mem _ hi)) _)

/-- A computation that does not take draws back. -/
def Forward (m : Drawing α) : Prop := ∀ n, n ≤ (m.run n).2

theorem Forward.collect {body : α → Drawing (List β)} (h : ∀ item, (body item).Forward)
    (items : List α) : (Drawing.collect body items).Forward :=
  collect_rule (R := fun n m _ => n ≤ m) (fun _ => le_rfl)
    (fun _ _ _ _ _ hnm hmk => hnm.trans hmk) fun item _ => h item

/-- What every pass returns while its draws satisfy `P` relates to what is specified for its item;
then so does what the loop returns, when joining keeps the relation. -/
theorem collect_map_rel {γ : Type} {P : ℕ → Prop} {Q : List γ → List γ → Prop} (hnil : Q [] [])
    (happend : ∀ a b c d, Q a b → Q c d → Q (a ++ c) (b ++ d)) {body : α → Drawing (List β)}
    (f : β → γ) {spec : α → List γ} (hforward : ∀ item, (body item).Forward) {items : List α}
    (hbody : ∀ item ∈ items, ∀ n, (∀ j, n ≤ j → j < ((body item).run n).2 → P j) →
      Q (((body item).run n).1.map f) (spec item)) {n : ℕ}
    (hP : ∀ j, n ≤ j → j < ((collect body items).run n).2 → P j) :
    Q (((collect body items).run n).1.map f) (items.flatMap spec) := by
  induction items generalizing n with
  | nil => exact hnil
  | cons item items ih =>
    rw [run_collect_cons] at hP ⊢
    have hfirst := hforward item n
    have hrest := Forward.collect hforward items ((body item).run n).2
    rw [List.map_append, List.flatMap_cons]
    exact happend _ _ _ _
      (hbody item List.mem_cons_self n fun j hj hlt => hP j hj (lt_of_lt_of_le hlt hrest))
      (ih (fun i hi => hbody i (List.mem_cons_of_mem _ hi))
        fun j hj hlt => hP j (hfirst.trans hj) hlt)

/-- A loop returns what its passes return, each begun at a draw of the loop. -/
theorem collect_passes {body : α → Drawing (List β)} (hforward : ∀ item, (body item).Forward)
    (items : List α) (n : ℕ) :
    ∃ groups : List (List β), ((collect body items).run n).1 = groups.flatten ∧
      List.Forall₂ (fun item found => ∃ m, n ≤ m ∧
        ((body item).run m).2 ≤ ((collect body items).run n).2 ∧ found = ((body item).run m).1)
        items groups := by
  induction items generalizing n with
  | nil => exact ⟨[], rfl, .nil⟩
  | cons item items ih =>
    obtain ⟨groups, hgroups, hpasses⟩ := ih ((body item).run n).2
    rw [run_collect_cons]
    refine ⟨((body item).run n).1 :: groups, by rw [hgroups, List.flatten_cons], .cons ?_ ?_⟩
    · exact ⟨n, le_rfl, Forward.collect hforward items _, rfl⟩
    · refine hpasses.imp fun _ _ ⟨m, hm, hlast, hfound⟩ => ?_
      exact ⟨m, (hforward item n).trans hm, hlast, hfound⟩

end Drawing

/-- A computation of draws run by a method. -/
def Method.drawing {σ α : Type} (m : Drawing α) : Method σ α := fun w =>
  .ok (m.run w.env.draws).1 { w with env := { w.env with draws := (m.run w.env.draws).2 } }

@[simp] theorem Method.run_drawing {σ α : Type} (m : Drawing α) (w : World σ) :
    (Method.drawing m).run w = .ok (m.run w.env.draws).1
      { w with env := { w.env with draws := (m.run w.env.draws).2 } } := rfl

end ControlFabric
