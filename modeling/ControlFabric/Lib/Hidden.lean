import Mathlib.Data.List.Forall2
import Mathlib.Tactic

/-! Lists that differ in hidden entries only, and lists that differ in one entry. -/
namespace Lib
variable {α : Type}

theorem forall₂_at {R : α → α → Prop} (hrefl : ∀ a, R a a) (pre post : List α) {a b : α}
    (h : R a b) : List.Forall₂ R (pre ++ a :: post) (pre ++ b :: post) := by
  have hsame (l : List α) : List.Forall₂ R l l := by
    induction l with
    | nil => exact .nil
    | cons c l ih => exact .cons (hrefl c) ih
  exact List.rel_append (hsame pre) (.cons h (hsame post))

/-- The lists agree entry by entry, up to hidden entries that may stand anywhere in either. -/
inductive UpTo (hidden : α → Prop) (R : α → α → Prop) : List α → List α → Prop
  | nil : UpTo hidden R [] []
  | left {a : α} {l l' : List α} : hidden a → UpTo hidden R l l' → UpTo hidden R (a :: l) l'
  | right {a : α} {l l' : List α} : hidden a → UpTo hidden R l l' → UpTo hidden R l (a :: l')
  | both {a b : α} {l l' : List α} : R a b → UpTo hidden R l l' →
      UpTo hidden R (a :: l) (b :: l')

namespace UpTo
variable {hidden : α → Prop} {R : α → α → Prop} {l l' : List α}

theorem of_forall₂ (h : List.Forall₂ R l l') : UpTo hidden R l l' := by
  induction h with
  | nil => exact nil
  | cons hab _ ih => exact both hab ih

/-- A filter that drops what is hidden, and decides alike on related entries, leaves lists that
agree entry by entry. -/
theorem filter {p : α → Bool} (h : UpTo hidden R l l') (hhidden : ∀ a, hidden a → p a = false)
    (hR : ∀ a ∈ l, ∀ b ∈ l', R a b → p a = p b) :
    List.Forall₂ R (l.filter p) (l'.filter p) := by
  induction h with
  | nil => exact List.Forall₂.nil
  | @left a l l' ha _ ih =>
    rw [List.filter_cons, hhidden a ha]
    exact ih fun b hb c hc => hR b (List.mem_cons_of_mem a hb) c hc
  | @right a l l' ha _ ih =>
    rw [List.filter_cons (x := a), hhidden a ha]
    exact ih fun b hb c hc => hR b hb c (List.mem_cons_of_mem a hc)
  | @both a b l l' hab _ ih =>
    have hrest := ih fun c hc d hd =>
      hR c (List.mem_cons_of_mem a hc) d (List.mem_cons_of_mem b hd)
    rw [List.filter_cons, List.filter_cons (x := b),
      hR a List.mem_cons_self b List.mem_cons_self hab]
    split
    · exact List.Forall₂.cons hab hrest
    · exact hrest

end UpTo
end Lib
