import Mathlib.Data.List.Chain
import Mathlib.Logic.Relation
import Mathlib.Tactic

/-! Relations without directed cycles: what adding an edge does to them, and their chains. -/
namespace Lib
open Relation
variable {α : Type*} {r : α → α → Prop}

def Acyclic (r : α → α → Prop) : Prop := ∀ a, ¬ TransGen r a a

/-- The relation with one more edge. -/
def addEdge (r : α → α → Prop) (a b : α) (x y : α) : Prop := r x y ∨ x = a ∧ y = b

/-- A path with one more edge at hand passes over it or does not need it. -/
theorem transGen_addEdge {a b x y : α} (h : TransGen (addEdge r a b) x y) :
    TransGen r x y ∨ ReflTransGen r x a ∧ ReflTransGen r b y := by
  induction h with
  | single hedge =>
    rcases hedge with hold | ⟨rfl, rfl⟩
    · exact Or.inl (TransGen.single hold)
    · exact Or.inr ⟨ReflTransGen.refl, ReflTransGen.refl⟩
  | tail _ hedge ih =>
    rcases hedge with hold | ⟨rfl, rfl⟩
    · rcases ih with hpath | ⟨hto, hfrom⟩
      · exact Or.inl (hpath.tail hold)
      · exact Or.inr ⟨hto, hfrom.tail hold⟩
    · rcases ih with hpath | ⟨hto, -⟩
      · exact Or.inr ⟨hpath.to_reflTransGen, ReflTransGen.refl⟩
      · exact Or.inr ⟨hto, ReflTransGen.refl⟩

/-- An edge closes a cycle exactly when its source could be reached from its target. -/
theorem acyclic_addEdge_iff (h : Acyclic r) {a b : α} :
    Acyclic (addEdge r a b) ↔ ¬ ReflTransGen r b a := by
  constructor
  · intro hacyclic hback
    have hback' : ReflTransGen (addEdge r a b) b a :=
      ReflTransGen.mono (fun _ _ hold => Or.inl hold) b a hback
    exact hacyclic a (TransGen.head' (Or.inr ⟨rfl, rfl⟩) hback')
  · intro hback x hcycle
    rcases transGen_addEdge hcycle with hold | ⟨hto, hfrom⟩
    · exact h x hold
    · exact hback (hfrom.trans hto)

/-- An edge from what nothing leads to closes no cycle. -/
theorem acyclic_addEdge_of_source (h : Acyclic r) {a b : α} (hne : b ≠ a) (hsource : ∀ x, ¬ r x a) :
    Acyclic (addEdge r a b) := by
  rw [acyclic_addEdge_iff h]
  intro hback
  rcases ReflTransGen.cases_tail hback with heq | ⟨x, -, hedge⟩
  · exact hne heq.symm
  · exact hsource x hedge

/-- Where each thing has one successor at most, a chain that is shorter than another one from the
same beginning can be continued. -/
theorem exists_next_of_longer (hunique : ∀ a b c, r a b → r a c → b = c) {a : α} {l m : List α}
    (hl : (a :: l).IsChain r) (hm : (a :: m).IsChain r) (hlt : l.length < m.length) :
    ∃ b ∈ (a :: l).getLast?, ∃ c, r b c := by
  induction l generalizing a m with
  | nil =>
    cases m with
    | nil => exact absurd hlt (lt_irrefl 0)
    | cons c m =>
      obtain ⟨hedge, -⟩ := List.isChain_cons_cons.mp hm
      exact ⟨a, rfl, c, hedge⟩
  | cons b l ih =>
    cases m with
    | nil => exact absurd hlt (Nat.not_lt_zero _)
    | cons c m =>
      obtain ⟨hedge, hl⟩ := List.isChain_cons_cons.mp hl
      obtain ⟨hedge', hm⟩ := List.isChain_cons_cons.mp hm
      obtain rfl := hunique a b c hedge hedge'
      rw [List.getLast?_cons_cons]
      exact ih hl hm (Nat.lt_of_succ_lt_succ hlt)

/-- A chain in a relation without cycles repeats nothing. -/
theorem nodup_of_isChain (h : Acyclic r) {l : List α} (hl : l.IsChain r) : l.Nodup := by
  have hpairwise : l.Pairwise (TransGen r) :=
    List.isChain_iff_pairwise.mp (hl.imp fun _ _ hedge => TransGen.single hedge)
  apply hpairwise.imp
  rintro a b hpath rfl
  exact h a hpath

end Lib
