import ControlFabric.Lib.Dict
import Mathlib.Data.List.Perm.Basic

/-! Loops that assign. A single value is the same in every order of the items exactly if all that is
written is the same; a dictionary holds for each key what was written last; and a dictionary of
lists holds under each key the values of the items with that key. -/
namespace Lib

section Overwritten
variable {α β κ : Type*} (written : α → Option β)

/-- What stands in the end, if `initial` stood there first. -/
def overwritten (initial : β) (l : List α) : β := (l.filterMap written).getLastD initial

theorem overwritten_concat (initial : β) (l : List α) (a : α) :
    overwritten written initial (l ++ [a]) = (written a).getD (overwritten written initial l) := by
  cases hwritten : written a <;> simp [overwritten, hwritten, List.filterMap_append]

/-- What is left of one item, if the item is put last. -/
theorem exists_perm_overwritten {l : List α} {a : α} {b : β} (ha : a ∈ l) (hb : written a = some b)
    (initial : β) : ∃ l', l.Perm l' ∧ overwritten written initial l' = b := by
  obtain ⟨before, after, rfl⟩ := List.append_of_mem ha
  refine ⟨(before ++ after) ++ [a], ?_, ?_⟩
  · calc (before ++ a :: after).Perm (a :: (before ++ after)) := List.perm_middle
      List.Perm _ ((before ++ after) ++ [a]) := (List.perm_append_singleton a _).symm
  · rw [overwritten_concat, hb]
    rfl

theorem overwritten_of_forall {l : List α} {b : β} (h : ∀ c ∈ l.filterMap written, c = b)
    (hne : l.filterMap written ≠ []) (initial : β) : overwritten written initial l = b := by
  unfold overwritten
  rw [List.getLastD_eq_getLast?, List.getLast?_eq_some_getLast hne, Option.getD_some]
  exact h _ (List.getLast_mem hne)

theorem overwritten_perm_iff (initial : β) (l : List α) :
    (∀ l', l.Perm l' → overwritten written initial l' = overwritten written initial l) ↔
      ∀ b ∈ l.filterMap written, ∀ c ∈ l.filterMap written, b = c := by
  constructor
  · intro h b hb c hc
    obtain ⟨a, ha, hab⟩ := List.mem_filterMap.mp hb
    obtain ⟨d, hd, hdc⟩ := List.mem_filterMap.mp hc
    obtain ⟨l₁, hperm₁, hlast₁⟩ := exists_perm_overwritten written ha hab initial
    obtain ⟨l₂, hperm₂, hlast₂⟩ := exists_perm_overwritten written hd hdc initial
    calc b = overwritten written initial l := hlast₁ ▸ h l₁ hperm₁
      _ = c := hlast₂ ▸ (h l₂ hperm₂).symm
  · intro h l' hperm
    have hwritten := hperm.filterMap written
    by_cases hnil : l.filterMap written = []
    · have hnil' : l'.filterMap written = [] := (hnil ▸ hwritten).nil_eq.symm
      simp [overwritten, hnil, hnil']
    · obtain ⟨b, hb⟩ := List.exists_mem_of_ne_nil _ hnil
      have hsame : ∀ c ∈ l.filterMap written, c = b := fun c hc => h c hc b hb
      have hsame' : ∀ c ∈ l'.filterMap written, c = b := fun c hc => hsame c (hwritten.mem_iff.mpr hc)
      have hne' : l'.filterMap written ≠ [] := List.ne_nil_of_mem (hwritten.mem_iff.mp hb)
      rw [overwritten_of_forall written hsame hnil, overwritten_of_forall written hsame' hne']

section Dict
variable [DecidableEq κ] (key : α → κ) (value : α → β)

/-- No later item of the list has the key of this one. -/
def LastOfKey (l : List α) (a : α) : Prop :=
  ∃ before after, l = before ++ a :: after ∧ ∀ b ∈ after, key b ≠ key a

omit [DecidableEq κ] in
theorem lastOfKey_concat (l : List α) (a b : α) :
    LastOfKey key (l ++ [b]) a ↔ a = b ∨ key b ≠ key a ∧ LastOfKey key l a := by
  constructor
  · rintro ⟨before, after, h, hlast⟩
    rcases List.eq_nil_or_concat after with rfl | ⟨after, c, rfl⟩
    · exact Or.inl (List.concat_inj.mp (by simpa using h)).2.symm
    · rw [List.concat_eq_append, ← List.cons_append, ← List.append_assoc] at h
      obtain ⟨rfl, hc⟩ := List.append_inj' h rfl
      obtain rfl : b = c := by simpa using hc
      refine Or.inr ⟨hlast b (by simp), before, after, rfl, fun d hd => ?_⟩
      exact hlast d (by simp [hd])
  · rintro (rfl | ⟨hne, before, after, rfl, hlast⟩)
    · exact ⟨l, [], rfl, by simp⟩
    · refine ⟨before, after ++ [b], by simp, fun d hd => ?_⟩
      rcases List.mem_append.mp hd with hold | hnew
      · exact hlast d hold
      · rw [List.mem_singleton.mp hnew]
        exact hne

/-- `d[key(a)] = value(a)` for each item in turn. -/
theorem mem_entries_foldl_set (l : List α) {k : κ} {v : β} :
    (k, v) ∈ (l.foldl (fun d a => d.set (key a) (value a)) Dict.empty).entries ↔
      ∃ a, LastOfKey key l a ∧ key a = k ∧ value a = v := by
  rw [← Dict.get?_eq_some]
  induction l using List.reverseRecOn with
  | nil => simp [LastOfKey]
  | append_singleton l b ih =>
    rw [List.foldl_concat, Dict.get?_set]
    simp only [lastOfKey_concat]
    split
    next hk =>
      constructor
      · intro hv
        exact ⟨b, Or.inl rfl, hk.symm, Option.some.inj hv⟩
      · rintro ⟨a, rfl | ⟨hne, -⟩, hak, hv⟩
        · rw [hv]
        · exact absurd (hk.symm.trans hak.symm) hne
    next hk =>
      rw [ih]
      constructor
      · rintro ⟨a, hlast, rfl, hv⟩
        exact ⟨a, Or.inr ⟨fun h => hk h.symm, hlast⟩, rfl, hv⟩
      · rintro ⟨a, rfl | ⟨-, hlast⟩, rfl, hv⟩
        · exact absurd rfl hk
        · exact ⟨a, hlast, rfl, hv⟩

/-- With one item for each key the dictionary holds under a key the value of its item. -/
theorem get?_foldl_set_of_nodup {l : List α} (h : (l.map key).Nodup) (k : κ) :
    (l.foldl (fun d a => d.set (key a) (value a)) Dict.empty).get? k =
      (l.find? fun a => key a = k).map value := by
  induction l using List.reverseRecOn with
  | nil => rfl
  | append_singleton l b ih =>
    rw [List.map_append, List.map_singleton, ← List.concat_eq_append, List.nodup_concat] at h
    rw [List.foldl_concat, Dict.get?_set, ih h.2, List.find?_append]
    by_cases hk : k = key b
    · have hnone : (l.find? fun a => key a = k) = none := by
        rw [List.find?_eq_none]
        intro a ha heq
        exact h.1 (List.mem_map.mpr ⟨a, ha, (of_decide_eq_true heq).trans hk⟩)
      simp [hk, hk ▸ hnone]
    · have hk' : key b ≠ k := Ne.symm hk
      simp [hk, hk']

end Dict

end Overwritten

/-! ### Items grouped under their keys -/

section Groups
variable {α κ ν : Type*} [DecidableEq κ]

/-- `groups.setdefault(key, []).append(value)` for each item that has a key. -/
def keyedGroups (key : α → Option κ) (value : α → ν) (l : List α) : Dict κ (List ν) :=
  l.foldl (fun d a =>
    match key a with
    | some k => d.set k (d.getD k [] ++ [value a])
    | none => d) Dict.empty

/-- The values of the items with the key. -/
def members (key : α → Option κ) (value : α → ν) (l : List α) (k : κ) : List ν :=
  (l.filter fun a => key a = some k).map value

variable (key : α → Option κ) (value : α → ν)

theorem keyedGroups_concat (l : List α) (a : α) : keyedGroups key value (l ++ [a]) =
    match key a with
    | some k => (keyedGroups key value l).set k ((keyedGroups key value l).getD k [] ++ [value a])
    | none => keyedGroups key value l := by
  rw [keyedGroups, List.foldl_concat]
  rfl

theorem mem_keyedGroups {l : List α} {k : κ} : k ∈ keyedGroups key value l ↔ ∃ a ∈ l, key a = some k := by
  induction l using List.reverseRecOn with
  | nil => simp [keyedGroups]
  | append_singleton l a ih =>
    rw [keyedGroups_concat]
    cases hkey : key a with
    | none => simp [ih, hkey, or_and_right, exists_or]
    | some k' =>
      simp only [Dict.mem_set, ih, List.mem_append, List.mem_singleton, or_and_right, exists_or,
        exists_eq_left, hkey, Option.some.injEq]
      rw [or_comm, eq_comm]

theorem getD_keyedGroups (l : List α) (k : κ) :
    (keyedGroups key value l).getD k [] = members key value l k := by
  induction l using List.reverseRecOn with
  | nil => rfl
  | append_singleton l a ih =>
    rw [keyedGroups_concat, members, List.filter_append, List.map_append, ← members, ← ih]
    cases hkey : key a with
    | none => simp [hkey]
    | some k' =>
      by_cases hk : k' = k
      · simp [Dict.getD_set, hkey, hk]
      · simp [Dict.getD_set, hkey, hk, Ne.symm hk]

theorem mem_entries_keyedGroups {l : List α} {k : κ} {vs : List ν} :
    (k, vs) ∈ (keyedGroups key value l).entries ↔
      (∃ a ∈ l, key a = some k) ∧ vs = members key value l k := by
  rw [← Dict.get?_eq_some, ← mem_keyedGroups key value, ← getD_keyedGroups, Dict.getD]
  constructor
  · intro h
    exact ⟨Dict.mem_of_get? h, by rw [h, Option.getD_some]⟩
  · rintro ⟨hmem, rfl⟩
    obtain ⟨vs, hvs⟩ := Dict.mem_iff_get?.mp hmem
    rw [hvs, Option.getD_some]

/-- In another order of the items the keys are the same, and under each key the values in that
order. -/
theorem keyedGroups_perm {l l' : List α} (h : l.Perm l') :
    ∃ m, (keyedGroups key value l).entries.Perm m ∧
      List.Forall₂ (fun p q => p.1 = q.1 ∧ p.2.Perm q.2) m (keyedGroups key value l').entries := by
  refine ⟨(keyedGroups key value l').entries.map fun p => (p.1, members key value l p.1), ?_, ?_⟩
  · have hnodup : ((keyedGroups key value l').entries.map fun p =>
        (p.1, members key value l p.1)).Nodup := by
      apply List.Nodup.of_map Prod.fst
      rw [List.map_map]
      exact (keyedGroups key value l').nodup
    apply (List.perm_ext_iff_of_nodup (keyedGroups key value l).nodup.of_map hnodup).mpr
    rintro ⟨k, vs⟩
    simp only [mem_entries_keyedGroups, List.mem_map, Prod.exists, Prod.mk.injEq, h.mem_iff]
    constructor
    · rintro ⟨hk, rfl⟩
      exact ⟨k, _, ⟨hk, rfl⟩, rfl, rfl⟩
    · rintro ⟨_, _, ⟨hk, -⟩, rfl, rfl⟩
      exact ⟨hk, rfl⟩
  · rw [List.forall₂_map_left_iff, List.forall₂_same]
    rintro ⟨k, vs⟩ hmem
    obtain ⟨-, rfl⟩ := (mem_entries_keyedGroups key value).mp hmem
    exact ⟨rfl, (h.filter _).map value⟩

end Groups

end Lib
