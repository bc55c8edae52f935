import ControlFabric.Lib.Dict
import Mathlib.Data.List.Perm.Basic

/-! What does not depend on the order of a list: the only item with a property, how often an element
is in a list of lists, what a dictionary holds, and what items with equal keys have in common. -/
namespace Lib
variable {α β γ κ ν : Type*} {l l' : List α} {p : α → Bool} {a b : α}

theorem eq_nil_iff_of_perm (h : l.Perm l') : l = [] ↔ l' = [] := by
  rw [← List.length_eq_zero_iff, h.length_eq, List.length_eq_zero_iff]

/-- An item that is the only one with a property is found in every order. -/
theorem find?_of_perm (h : l.Perm l') (honly : ∀ a ∈ l, ∀ b ∈ l, p a → p b → a = b) :
    l.find? p = l'.find? p := by
  cases hfind : l.find? p with
  | none =>
    have hnone : ∀ a ∈ l', ¬ p a := by
      intro a ha
      exact List.find?_eq_none.mp hfind a (h.mem_iff.mpr ha)
    exact (List.find?_eq_none.mpr hnone).symm
  | some a =>
    have ha := List.mem_of_find?_eq_some hfind
    cases hfind' : l'.find? p with
    | none =>
      have hno := List.find?_eq_none.mp hfind' a (h.mem_iff.mp ha)
      exact absurd (List.find?_some hfind) hno
    | some b =>
      have hb := h.mem_iff.mpr (List.mem_of_find?_eq_some hfind')
      rw [honly a ha b hb (List.find?_some hfind) (List.find?_some hfind')]

/-- It is the first item found in every order exactly if no other item has the property. -/
theorem find?_perm_iff : (∀ l', l.Perm l' → l'.find? p = some a) ↔
    a ∈ l ∧ p a = true ∧ ∀ b ∈ l, p b = true → b = a := by
  constructor
  · intro h
    have hfind := h l (List.Perm.refl l)
    refine ⟨List.mem_of_find?_eq_some hfind, List.find?_some hfind, fun b hb hpb => ?_⟩
    obtain ⟨before, after, rfl⟩ := List.append_of_mem hb
    have hfirst := h (b :: (before ++ after)) List.perm_middle
    rw [List.find?_cons_of_pos hpb] at hfirst
    exact Option.some.inj hfirst
  · intro ⟨ha, hpa, honly⟩ l' hperm
    obtain ⟨c, hc⟩ := Option.isSome_iff_exists.mp (List.find?_isSome.mpr ⟨a, hperm.mem_iff.mp ha, hpa⟩)
    have hmem := hperm.mem_iff.mpr (List.mem_of_find?_eq_some hc)
    rw [hc, honly c hmem (List.find?_some hc)]

/-- Lists with the same keys agree in all that the key of an item determines. -/
theorem map_perm_of_map {f : α → β} {g : α → γ} (h : (l.map f).Perm (l'.map f))
    (hg : ∀ a ∈ l, ∀ b ∈ l', f a = f b → g a = g b) : (l.map g).Perm (l'.map g) := by
  induction l generalizing l' with
  | nil =>
    obtain rfl := List.map_eq_nil_iff.mp (List.nil_perm.mp h)
    exact List.Perm.refl _
  | cons a l ih =>
    -- an item with the key of the first one stands somewhere in the other list
    obtain ⟨b, hb, hkey⟩ := List.mem_map.mp (h.mem_iff.mp List.mem_cons_self)
    obtain ⟨pre, post, rfl⟩ := List.append_of_mem hb
    have hmiddle : (pre ++ b :: post).Perm (b :: (pre ++ post)) := List.perm_middle
    have htail : (l.map f).Perm ((pre ++ post).map f) := by
      have hcons := h.trans (hmiddle.map f)
      rw [List.map_cons, List.map_cons, hkey] at hcons
      exact hcons.cons_inv
    have hrest : ∀ a' ∈ l, ∀ b' ∈ pre ++ post, f a' = f b' → g a' = g b' := by
      intro a' ha' b' hb'
      exact hg a' (List.mem_cons_of_mem _ ha') b'
        (hmiddle.mem_iff.mpr (List.mem_cons_of_mem _ hb'))
    have hhead : g a = g b := hg a List.mem_cons_self b hb hkey.symm
    refine List.Perm.trans ?_ (hmiddle.map g).symm
    rw [List.map_cons, List.map_cons, hhead]
    exact (ih htail hrest).cons _

/-- Of the items with a property there is one at most. -/
theorem eq_of_countP_le_one (h : l.countP p ≤ 1) (ha : a ∈ l) (hb : b ∈ l) (hpa : p a)
    (hpb : p b) : a = b := by
  rw [List.countP_eq_length_filter] at h
  have ha' : a ∈ l.filter p := List.mem_filter.mpr ⟨ha, hpa⟩
  have hb' : b ∈ l.filter p := List.mem_filter.mpr ⟨hb, hpb⟩
  cases hfilter : l.filter p with
  | nil =>
    rw [hfilter] at ha'
    exact absurd ha' List.not_mem_nil
  | cons c rest =>
    rw [hfilter, List.length_cons] at h
    have hrest : rest = [] := List.length_eq_zero_iff.mp (by omega)
    rw [hfilter, hrest] at ha' hb'
    rw [List.mem_singleton.mp ha', List.mem_singleton.mp hb']

section Count
variable [BEq β] {f : α → List β} {b : β}

/-- Where each item gives an element once or not at all, the element is in the whole as often as
there are items that give it. -/
theorem count_flatMap_eq_countP (h : ∀ a ∈ l, (f a).count b = if p a then 1 else 0) :
    (l.flatMap f).count b = l.countP p := by
  induction l with
  | nil => rfl
  | cons a l ih =>
    rw [List.flatMap_cons, List.count_append, h a List.mem_cons_self,
      ih fun a ha => h a (List.mem_cons_of_mem _ ha), List.countP_cons, Nat.add_comm]

variable [LawfulBEq β]

/-- Where one item only gives an element, the element is in the whole as often as in what that item
gives. -/
theorem count_flatMap_of_nodup (hnodup : l.Nodup) (ha : a ∈ l)
    (h : ∀ a' ∈ l, a' ≠ a → b ∉ f a') : (l.flatMap f).count b = (f a).count b := by
  obtain ⟨pre, post, rfl⟩ := List.append_of_mem ha
  rw [List.nodup_append, List.nodup_cons] at hnodup
  obtain ⟨-, ⟨hpost, -⟩, hpre⟩ := hnodup
  have hbefore : b ∉ pre.flatMap f := by
    intro hb
    obtain ⟨a', ha', hb⟩ := List.mem_flatMap.mp hb
    exact h a' (List.mem_append_left _ ha') (hpre a' ha' a List.mem_cons_self) hb
  have hafter : b ∉ post.flatMap f := by
    intro hb
    obtain ⟨a', ha', hb⟩ := List.mem_flatMap.mp hb
    have hne : a' ≠ a := fun heq => hpost (heq ▸ ha')
    exact h a' (List.mem_append_right _ (List.mem_cons_of_mem _ ha')) hne hb
  rw [List.flatMap_append, List.flatMap_cons, List.count_append, List.count_append,
    List.count_eq_zero.mpr hbefore, List.count_eq_zero.mpr hafter, Nat.zero_add, Nat.add_zero]

end Count

namespace Dict
variable [DecidableEq κ] {d d' : Dict κ ν}

theorem get?_of_perm (h : d.entries.Perm d'.entries) (k : κ) : d.get? k = d'.get? k := by
  unfold get?
  rw [find?_of_perm h]
  intro e he e' he' hk hk'
  exact List.inj_on_of_nodup_map d.nodup he he'
    ((of_decide_eq_true hk).trans (of_decide_eq_true hk').symm)

omit [DecidableEq κ] in
theorem mem_of_perm (h : d.entries.Perm d'.entries) {k : κ} : k ∈ d ↔ k ∈ d' :=
  (h.map Prod.fst).mem_iff

end Dict
end Lib
