import ControlFabric.Lib.Dict
import Mathlib.Data.List.Perm.Basic
import Mathlib.Tactic
import Mathlib.Data.List.Sort

/-! Lists whose items have a key and a score: each item with those before it, the first item of each
key, the groups of a key, and the ranking of a list from the best score down. -/
namespace Lib

section Earlier
variable {α β γ : Type*}

/-- Each item with those before it, behind the given ones. -/
def withEarlier (earlier : List α) : List α → List (List α × α)
  | [] => []
  | a :: l => (earlier, a) :: withEarlier (earlier ++ [a]) l

@[simp] theorem map_snd_withEarlier (earlier l : List α) :
    (withEarlier earlier l).map Prod.snd = l := by
  induction l generalizing earlier with
  | nil => rfl
  | cons a l ih => rw [withEarlier, List.map_cons, ih]

theorem forall₂_comp {R : α → β → Prop} {S : β → γ → Prop} {T : α → γ → Prop}
    (h : ∀ a b c, R a b → S b c → T a c) {l : List α} {m : List β} {n : List γ}
    (hR : List.Forall₂ R l m) (hS : List.Forall₂ S m n) : List.Forall₂ T l n := by
  induction hR generalizing n with
  | nil =>
    cases hS
    exact .nil
  | cons hab _ ih =>
    cases hS with
    | cons hbc hrest => exact .cons (h _ _ _ hab hbc) (ih hrest)

/-- What changes the items in place changes a rearrangement of them likewise. -/
theorem exists_perm_of_forall₂ {R : α → β → Prop} {l m : List α} {n : List β} (hperm : l.Perm m)
    (h : List.Forall₂ R m n) : ∃ l', List.Forall₂ R l l' ∧ l'.Perm n :=
  List.perm_comp_forall₂ hperm h

theorem forall_mem_of_forall₂ {R : α → β → Prop} {P : β → Prop} (hP : ∀ a b, R a b → P b)
    {l : List α} {m : List β} (h : List.Forall₂ R l m) : ∀ b ∈ m, P b := by
  induction h with
  | nil => exact fun b hb => absurd hb List.not_mem_nil
  | cons hab _ ih => exact List.forall_mem_cons.mpr ⟨hP _ _ hab, ih⟩

section Counts
variable {P Q : α → Prop} [DecidablePred P] [DecidablePred Q]

theorem countP_of_forall₂ {S : β → Prop} [DecidablePred S] {l : List α} {m : List β}
    (h : List.Forall₂ (fun a b => S b ↔ P a) l m) : l.countP P = m.countP S := by
  induction h with
  | nil => rfl
  | cons hab _ ih => simp [List.countP_cons, ih, hab]

/-- Of two tests one of which implies the other, both pass as often on a list only where they agree. -/
theorem countP_eq_iff {l : List α} (himp : ∀ a ∈ l, P a → Q a) :
    l.countP P = l.countP Q ↔ ∀ a ∈ l, Q a → P a := by
  induction l with
  | nil => simp
  | cons a l ih =>
    obtain ⟨hhead, htail⟩ := List.forall_mem_cons.mp himp
    have hle : l.countP P ≤ l.countP Q :=
      List.countP_mono_left fun b hb => by simpa using htail b hb
    rw [List.forall_mem_cons, ← ih htail, List.countP_cons, List.countP_cons]
    by_cases hp : P a
    · simp [hp, hhead hp]
    · by_cases hq : Q a
      · simp [hp, hq]
        omega
      · simp [hp, hq]

end Counts

end Earlier

/-! ### Keys and scores -/

section Scores
variable {α κ β : Type*}

/-! ### The first item of each key -/

section Firsts
variable [DecidableEq κ] (key : α → κ)

/-- Appends an item whose key is new. -/
def addFirst (l : List α) (a : α) : List α := if key a ∈ l.map key then l else l ++ [a]

def firsts (l : List α) : List α := l.foldl (addFirst key) []

variable {key}

theorem addFirst_nodup {l : List α} (h : (l.map key).Nodup) (a : α) :
    ((addFirst key l a).map key).Nodup := by
  unfold addFirst
  split
  · exact h
  next hnew =>
    rw [List.map_append, List.nodup_append]
    exact ⟨h, List.nodup_singleton _, by grind⟩

theorem mem_addFirst {l : List α} {a b : α} (h : b ∈ addFirst key l a) : b ∈ l ∨ b = a := by
  unfold addFirst at h
  split at h
  · exact Or.inl h
  · exact (List.mem_append.mp h).imp_right List.mem_singleton.mp

theorem mem_map_addFirst {l : List α} {a : α} {k : κ} :
    k ∈ (addFirst key l a).map key ↔ k ∈ l.map key ∨ k = key a := by
  unfold addFirst
  split
  next hold =>
    constructor
    · exact Or.inl
    · rintro (h | rfl)
      · exact h
      · exact hold
  next => simp

private theorem foldl_addFirst_nodup (l : List α) {m : List α} (h : (m.map key).Nodup) :
    ((l.foldl (addFirst key) m).map key).Nodup := by
  induction l generalizing m with
  | nil => exact h
  | cons a l ih => exact ih (addFirst_nodup h a)

private theorem mem_foldl_addFirst (l : List α) {m : List α} {b : α}
    (h : b ∈ l.foldl (addFirst key) m) : b ∈ m ∨ b ∈ l := by
  induction l generalizing m with
  | nil => exact Or.inl h
  | cons a l ih =>
    rcases ih h with hm | hl
    · rcases mem_addFirst hm with hm | rfl
      · exact Or.inl hm
      · exact Or.inr List.mem_cons_self
    · exact Or.inr (List.mem_cons_of_mem _ hl)

private theorem mem_map_foldl_addFirst (l : List α) {m : List α} {k : κ} :
    k ∈ (l.foldl (addFirst key) m).map key ↔ k ∈ m.map key ∨ k ∈ l.map key := by
  induction l generalizing m with
  | nil => simp
  | cons a l ih =>
    rw [List.foldl_cons, ih, mem_map_addFirst, List.map_cons, List.mem_cons, or_assoc]

theorem firsts_nodup (l : List α) : ((firsts key l).map key).Nodup :=
  foldl_addFirst_nodup l List.nodup_nil

theorem firsts_concat (l : List α) (a : α) :
    firsts key (l ++ [a]) = addFirst key (firsts key l) a := by
  rw [firsts, List.foldl_append, List.foldl_cons, List.foldl_nil, firsts]

theorem mem_of_mem_firsts {l : List α} {a : α} (h : a ∈ firsts key l) : a ∈ l :=
  (mem_foldl_addFirst l h).resolve_left List.not_mem_nil

theorem mem_map_firsts {l : List α} {k : κ} : k ∈ (firsts key l).map key ↔ k ∈ l.map key := by
  unfold firsts
  rw [mem_map_foldl_addFirst]
  simp

section Order
variable [DecidableEq α]

theorem mem_firsts_self {l : List α} {a : α} : a ∈ firsts id l ↔ a ∈ l := by
  have h : a ∈ (firsts id l).map id ↔ a ∈ l.map id := mem_map_firsts
  simpa using h

/-- The items stand in the order in which they first occur. -/
theorem firsts_ordered (l : List α) :
    (firsts id l).Pairwise fun a b => l.idxOf a < l.idxOf b := by
  induction l using List.reverseRecOn with
  | nil => exact List.Pairwise.nil
  | append_singleton l a ih =>
    have hold : (firsts id l).Pairwise fun b c => (l ++ [a]).idxOf b < (l ++ [a]).idxOf c := by
      refine ih.imp_of_mem fun hb hc hlt => ?_
      rw [List.idxOf_append_of_mem (mem_firsts_self.mp hb),
        List.idxOf_append_of_mem (mem_firsts_self.mp hc)]
      exact hlt
    rw [firsts_concat, addFirst, List.map_id]
    split
    · exact hold
    next hnew =>
      have hnew' : a ∉ l := fun h => hnew (mem_firsts_self.mpr h)
      refine List.pairwise_append.mpr ⟨hold, List.pairwise_singleton _ _, fun b hb c hc => ?_⟩
      obtain rfl := List.mem_singleton.mp hc
      rw [List.idxOf_append_of_mem (mem_firsts_self.mp hb), List.idxOf_append_of_notMem hnew']
      exact Nat.lt_add_right _ (List.idxOf_lt_length_of_mem (mem_firsts_self.mp hb))

end Order
end Firsts

/-! ### Groups -/

section Groups
variable [DecidableEq κ] (key : α → κ)

/-- `d.setdefault(key(a), []).append(a)`. -/
def addToGroup (d : Dict κ (List α)) (a : α) : Dict κ (List α) :=
  d.set (key a) (d.getD (key a) [] ++ [a])

def groups (l : List α) : Dict κ (List α) := l.foldl (addToGroup key) Dict.empty

variable {key}

/-- The dictionary holds the groups of a list. -/
private def Grouped (key : α → κ) (d : Dict κ (List α)) (l : List α) : Prop :=
  ∀ k, d.get? k = if k ∈ l.map key then some (l.filter fun a => key a = k) else none

private theorem Grouped.add {d : Dict κ (List α)} {l : List α} (h : Grouped key d l) (a : α) :
    Grouped key (addToGroup key d a) (l ++ [a]) := by
  have hgroup : d.getD (key a) [] = l.filter fun b => key b = key a := by
    unfold Dict.getD
    rw [h (key a)]
    split
    · rfl
    next hnew =>
      have hnil : l.filter (fun b => key b = key a) = [] := by
        rw [List.filter_eq_nil_iff]
        intro b hb
        have hne : key b ≠ key a := fun heq => hnew (heq ▸ List.mem_map_of_mem hb)
        simpa using hne
      rw [hnil]
      rfl
  intro k
  unfold addToGroup
  rw [Dict.get?_set, h k, hgroup]
  by_cases hk : k = key a
  · subst hk
    simp
  · have hk' : key a ≠ k := fun heq => hk heq.symm
    simp [hk, hk']

private theorem grouped_foldl (l : List α) {d : Dict κ (List α)} {m : List α}
    (h : Grouped key d m) : Grouped key (l.foldl (addToGroup key) d) (m ++ l) := by
  induction l generalizing d m with
  | nil => simpa using h
  | cons a l ih => simpa using ih (h.add a)

theorem get?_groups (l : List α) (k : κ) :
    (groups key l).get? k = if k ∈ l.map key then some (l.filter fun a => key a = k) else none :=
  grouped_foldl l (m := []) (fun _ => by simp) k

theorem mem_groups {l : List α} {k : κ} {g : List α} :
    (k, g) ∈ (groups key l).entries ↔ k ∈ l.map key ∧ g = l.filter fun a => key a = k := by
  rw [← Dict.get?_eq_some, get?_groups]
  split
  next h => simp [h, eq_comm]
  next h => simp [h]

theorem entries_groups (l : List α) : (groups key l).entries =
    (groups key l).keys.map fun k => (k, l.filter fun a => key a = k) := by
  unfold Dict.keys
  rw [List.map_map]
  refine (List.map_id _).symm.trans (List.map_congr_left ?_)
  rintro ⟨k, g⟩ he
  obtain ⟨-, rfl⟩ := mem_groups.mp he
  rfl

theorem mem_keys_groups {l : List α} {k : κ} : k ∈ (groups key l).keys ↔ k ∈ l.map key := by
  rw [← Dict.mem_iff_keys, Dict.mem_iff_get?, get?_groups]
  split <;> simp_all

end Groups

/-! ### Rankings -/

section Ranking
variable [LinearOrder β] (score : α → β)

/-- `sorted(l, key=score, reverse=True)`, which keeps the order of items with equal scores. -/
def ranked (l : List α) : List α := l.insertionSort fun a b => score b ≤ score a

/-- `a` has the best score of the list, and no item before it has the same. -/
def LeadsIn (l : List α) (a : α) : Prop :=
  ∃ pre post, l = pre ++ a :: post ∧ (∀ b ∈ pre, score b < score a) ∧
    ∀ b ∈ post, score b ≤ score a

theorem ranked_perm (l : List α) : (ranked score l).Perm l := List.perm_insertionSort _ l

theorem ranked_pairwise (l : List α) : (ranked score l).Pairwise fun a b => score b ≤ score a := by
  have htotal : Std.Total fun a b : α => score b ≤ score a := ⟨fun a b => le_total (score b) (score a)⟩
  have htrans : IsTrans α fun a b => score b ≤ score a := ⟨fun _ _ _ hab hbc => hbc.trans hab⟩
  exact List.pairwise_insertionSort _ l

/-- When an item passes only if all before it do, those that pass come first. -/
theorem filter_prefix {p : α → Bool} {l : List α} (h : l.Pairwise fun a b => p b → p a) :
    l.filter p <+: l := by
  induction l with
  | nil => exact List.nil_prefix
  | cons a l ih =>
    obtain ⟨ha, hl⟩ := List.pairwise_cons.mp h
    by_cases hpass : p a
    · rw [List.filter_cons_of_pos hpass]
      exact List.cons_prefix_cons.mpr ⟨rfl, ih hl⟩
    · have hnil : (a :: l).filter p = [] := by
        rw [List.filter_eq_nil_iff]
        rintro b (_ | ⟨_, hb⟩)
        · exact hpass
        · exact fun hpb => hpass (ha b hb hpb)
      rw [hnil]
      exact List.nil_prefix

/-- Several elements pass such a test exactly when the second one does. -/
theorem one_lt_length_filter {p : α → Bool} {a b : α} {l : List α}
    (h : (a :: b :: l).Pairwise fun a b => p b → p a) :
    1 < ((a :: b :: l).filter p).length ↔ p b := by
  obtain ⟨ha, hl⟩ := List.pairwise_cons.mp h
  constructor
  · intro hlen
    by_contra hb
    have hnil : (b :: l).filter p = [] := by
      rw [List.filter_eq_nil_iff, List.forall_mem_cons]
      exact ⟨hb, fun c hc hpass => hb ((List.pairwise_cons.mp hl).1 c hc hpass)⟩
    have hle := List.length_filter_le p [a]
    rw [show a :: b :: l = [a] ++ (b :: l) from rfl, List.filter_append, hnil,
      List.append_nil] at hlen
    exact absurd hlen (not_lt.mpr hle)
  · intro hb
    rw [List.filter_cons_of_pos (ha b List.mem_cons_self hb), List.filter_cons_of_pos hb]
    simp

variable {score} {l : List α} {a b : α}

theorem LeadsIn.mem (h : LeadsIn score l a) : a ∈ l := by
  obtain ⟨pre, post, rfl, -, -⟩ := h
  simp

theorem LeadsIn.le (h : LeadsIn score l a) (hb : b ∈ l) : score b ≤ score a := by
  obtain ⟨pre, post, rfl, hpre, hpost⟩ := h
  rcases List.mem_append.mp hb with hb | hb
  · exact (hpre b hb).le
  · rcases List.mem_cons.mp hb with rfl | hb
    · exact le_rfl
    · exact hpost b hb

theorem LeadsIn.score_eq (h : LeadsIn score l a) (h' : LeadsIn score l b) : score a = score b :=
  le_antisymm (h'.le h.mem) (h.le h'.mem)

theorem leadsIn_cons : LeadsIn score (a :: l) b ↔
    b = a ∧ (∀ c ∈ l, score c ≤ score a) ∨ score a < score b ∧ LeadsIn score l b := by
  constructor
  · rintro ⟨pre, post, heq, hpre, hpost⟩
    cases pre with
    | nil =>
      obtain ⟨rfl, rfl⟩ := List.cons.inj heq
      exact Or.inl ⟨rfl, hpost⟩
    | cons c pre =>
      obtain ⟨rfl, rfl⟩ := List.cons.inj heq
      obtain ⟨ha, hpre⟩ := List.forall_mem_cons.mp hpre
      exact Or.inr ⟨ha, pre, post, rfl, hpre, hpost⟩
  · rintro (⟨rfl, hall⟩ | ⟨hlt, pre, post, rfl, hpre, hpost⟩)
    · exact ⟨[], l, rfl, fun _ h => absurd h List.not_mem_nil, hall⟩
    · exact ⟨a :: pre, post, rfl, List.forall_mem_cons.mpr ⟨hlt, hpre⟩, hpost⟩

/-- The first item of the ranking is the leading one. -/
theorem head?_ranked : (ranked score l).head? = some b ↔ LeadsIn score l b := by
  induction l generalizing b with
  | nil =>
    constructor
    · intro h
      cases h
    · rintro ⟨pre, post, h, -⟩
      cases pre <;> cases h
  | cons a l ih =>
    have hcons : ranked score (a :: l) =
        (ranked score l).orderedInsert (fun a b => score b ≤ score a) a := rfl
    rw [leadsIn_cons, ← ih, hcons]
    cases hl : ranked score l with
    | nil =>
      have hnil : l = [] := List.perm_nil.mp (hl ▸ (ranked_perm score l).symm)
      simp [hnil, eq_comm]
    | cons c rest =>
      have hlead : LeadsIn score l c := ih.mp (by rw [hl]; rfl)
      by_cases hc : score c ≤ score a
      · have hall : ∀ d ∈ l, score d ≤ score a := fun d hd => (hlead.le hd).trans hc
        rw [List.orderedInsert_cons_of_le _ rest hc]
        simp only [List.head?_cons, Option.some.injEq]
        constructor
        · rintro rfl
          exact Or.inl ⟨rfl, hall⟩
        · rintro (⟨rfl, -⟩ | ⟨hlt, rfl⟩)
          · rfl
          · exact absurd hc (not_le.mpr hlt)
      · rw [List.orderedInsert_of_not_le _ rest hc]
        simp only [List.head?_cons, Option.some.injEq]
        constructor
        · rintro rfl
          exact Or.inr ⟨not_le.mp hc, rfl⟩
        · rintro (⟨rfl, hall⟩ | ⟨-, rfl⟩)
          · exact absurd (hall c hlead.mem) hc
          · rfl

instance [DecidableEq α] (l : List α) (a : α) : Decidable (LeadsIn score l a) :=
  decidable_of_iff ((ranked score l).head? = some a) head?_ranked

theorem LeadsIn.unique (h : LeadsIn score l a) (h' : LeadsIn score l b) : a = b := by
  rw [← head?_ranked] at h h'
  exact Option.some.inj (h.symm.trans h')

variable (score) in
theorem exists_leadsIn (h : l ≠ []) : ∃ a, LeadsIn score l a := by
  cases hl : ranked score l with
  | nil => exact absurd (List.perm_nil.mp (hl ▸ (ranked_perm score l).symm)) h
  | cons a rest => exact ⟨a, head?_ranked.mp (by rw [hl]; rfl)⟩

end Ranking

end Scores

end Lib
