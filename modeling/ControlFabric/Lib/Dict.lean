import Mathlib.Data.List.Nodup
import Mathlib.Tactic

/-! Insertion-ordered dictionaries: assigning to a present key keeps its position,
assigning to a new key appends. No key occurs twice, by construction. -/
namespace Lib

structure Dict (κ ν : Type*) where
  entries : List (κ × ν)
  nodup : (entries.map Prod.fst).Nodup

namespace Dict
variable {κ ν ν' : Type*}

def empty : Dict κ ν := ⟨[], List.nodup_nil⟩

instance : Inhabited (Dict κ ν) := ⟨empty⟩

def keys (d : Dict κ ν) : List κ := d.entries.map Prod.fst

def values (d : Dict κ ν) : List ν := d.entries.map Prod.snd

/-- `k in d`. -/
instance : Membership κ (Dict κ ν) := ⟨fun d k => k ∈ d.keys⟩

theorem mem_iff_keys {d : Dict κ ν} {k : κ} : k ∈ d ↔ k ∈ d.keys := Iff.rfl

@[simp] theorem keys_empty : (empty : Dict κ ν).keys = [] := rfl

@[simp] theorem not_mem_empty (k : κ) : k ∉ (empty : Dict κ ν) := by simp [mem_iff_keys]

variable [DecidableEq κ]

def get? (d : Dict κ ν) (k : κ) : Option ν :=
  (d.entries.find? fun p => p.1 = k).map Prod.snd

instance (d : Dict κ ν) (k : κ) : Decidable (k ∈ d) := inferInstanceAs (Decidable (k ∈ d.keys))

private def setEntries (k : κ) (v : ν) (l : List (κ × ν)) : List (κ × ν) :=
  if k ∈ l.map Prod.fst then l.map fun p => if p.1 = k then (k, v) else p else l ++ [(k, v)]

private theorem setEntries_keys (k : κ) (v : ν) (l : List (κ × ν)) :
    (setEntries k v l).map Prod.fst =
      if k ∈ l.map Prod.fst then l.map Prod.fst else l.map Prod.fst ++ [k] := by
  unfold setEntries
  split
  · rw [List.map_map]
    apply List.map_congr_left
    intro p _
    by_cases h : p.1 = k <;> simp [h]
  · simp

/-- `d[k] = v`. -/
def set (d : Dict κ ν) (k : κ) (v : ν) : Dict κ ν where
  entries := setEntries k v d.entries
  nodup := by
    rw [setEntries_keys]
    split
    · exact d.nodup
    next h => exact List.nodup_append.mpr ⟨d.nodup, by simp, by grind⟩

/-- `d.get(k, default)`. -/
def getD (d : Dict κ ν) (k : κ) (default : ν) : ν := (d.get? k).getD default

@[simp] theorem get?_empty (k : κ) : (empty : Dict κ ν).get? k = none := rfl

theorem get?_eq_some {d : Dict κ ν} {k : κ} {v : ν} : d.get? k = some v ↔ (k, v) ∈ d.entries := by
  constructor
  · intro h
    obtain ⟨p, hp, rfl⟩ := Option.map_eq_some_iff.mp h
    have hk : p.1 = k := by simpa using List.find?_some hp
    exact hk ▸ List.mem_of_find?_eq_some hp
  · intro h
    cases hf : d.entries.find? (fun p => p.1 = k) with
    | none => simp [List.find?_eq_none] at hf; grind
    | some p =>
      have hk : p.1 = k := by simpa using List.find?_some hf
      have hp : p = (k, v) :=
        List.inj_on_of_nodup_map d.nodup (List.mem_of_find?_eq_some hf) h hk
      simp [get?, hf, hp]

theorem get?_eq_none {d : Dict κ ν} {k : κ} : d.get? k = none ↔ k ∉ d := by
  simp [get?, mem_iff_keys, keys]
  grind

theorem mem_iff_get? {d : Dict κ ν} {k : κ} : k ∈ d ↔ ∃ v, d.get? k = some v := by
  rw [← Option.isSome_iff_exists, Option.isSome_iff_ne_none, ne_eq, get?_eq_none, not_not]

theorem mem_of_get? {d : Dict κ ν} {k : κ} {v : ν} (h : d.get? k = some v) : k ∈ d :=
  mem_iff_get?.mpr ⟨v, h⟩

theorem forall_get?_of_some {d : Dict κ ν} {k : κ} {v : ν} (h : d.get? k = some v)
    {P : ν → Prop} : (∀ u ∈ d.get? k, P u) ↔ P v := by
  rw [h]
  simp

theorem forall_get?_of_none {d : Dict κ ν} {k : κ} (h : d.get? k = none) {P : ν → Prop} :
    ∀ u ∈ d.get? k, P u := by
  rw [h]
  rintro u ⟨⟩

theorem keys_set (d : Dict κ ν) (k : κ) (v : ν) :
    (d.set k v).keys = if k ∈ d then d.keys else d.keys ++ [k] := setEntries_keys k v d.entries

theorem mem_set {d : Dict κ ν} {k k' : κ} {v : ν} : k' ∈ d.set k v ↔ k' = k ∨ k' ∈ d := by
  rw [mem_iff_keys, keys_set]
  split
  · grind [mem_iff_keys]
  · simp [mem_iff_keys, or_comm]

theorem entries_set_new {d : Dict κ ν} {k : κ} (h : k ∉ d) (v : ν) :
    (d.set k v).entries = d.entries ++ [(k, v)] := if_neg h

theorem get?_set (d : Dict κ ν) (k k' : κ) (v : ν) :
    (d.set k v).get? k' = if k' = k then some v else d.get? k' := by
  ext w
  rw [get?_eq_some]
  have hentries : (d.set k v).entries = setEntries k v d.entries := rfl
  rw [hentries]
  unfold setEntries
  split
  next hk =>
    obtain ⟨q, hq, hqk⟩ := List.mem_map.mp hk
    by_cases h : k' = k
    · subst h
      simp only [List.mem_map, if_pos, Option.some.injEq]
      constructor
      · rintro ⟨p, _, hp⟩
        by_cases hpk : p.1 = k' <;> simp_all
      · rintro rfl
        exact ⟨q, hq, by simp [hqk]⟩
    · simp only [if_neg h, get?_eq_some, List.mem_map]
      constructor
      · rintro ⟨p, hp, he⟩
        by_cases hpk : p.1 = k <;> grind
      · intro hm
        exact ⟨(k', w), hm, by simp [h]⟩
  next hk =>
    by_cases h : k' = k
    · subst h
      have hno : (k', w) ∉ d.entries := fun hm => hk (List.mem_map_of_mem hm)
      simp [hno, eq_comm]
    · simp [h, get?_eq_some]

@[simp] theorem get?_set_self (d : Dict κ ν) (k : κ) (v : ν) : (d.set k v).get? k = some v := by
  simp [get?_set]

theorem get?_set_of_ne {k k' : κ} (h : k' ≠ k) (d : Dict κ ν) (v : ν) :
    (d.set k v).get? k' = d.get? k' := by simp [get?_set, h]

omit [DecidableEq κ] in
private theorem ext_entries {d d' : Dict κ ν} (h : d.entries = d'.entries) : d = d' := by
  cases d
  cases d'
  congr

/-- Assigning the value a key already has changes nothing. -/
theorem set_of_get? {d : Dict κ ν} {k : κ} {v : ν} (h : d.get? k = some v) : d.set k v = d := by
  have hmem := get?_eq_some.mp h
  have hself : d.entries.map (fun p => if p.1 = k then (k, v) else p) = d.entries.map id := by
    apply List.map_congr_left
    intro p hp
    by_cases hk : p.1 = k
    · rw [if_pos hk]
      exact List.inj_on_of_nodup_map d.nodup hmem hp hk.symm
    · rw [if_neg hk]
      rfl
  apply ext_entries
  show setEntries k v d.entries = d.entries
  unfold setEntries
  rw [if_pos (List.mem_map_of_mem hmem), hself, List.map_id]

/-- Of two assignments to a key the later one counts. -/
theorem set_set (d : Dict κ ν) (k : κ) (v v' : ν) : (d.set k v).set k v' = d.set k v' := by
  apply ext_entries
  show setEntries k v' (setEntries k v d.entries) = setEntries k v' d.entries
  have hmem : k ∈ (setEntries k v d.entries).map Prod.fst := by
    rw [setEntries_keys]
    split
    · assumption
    · simp
  rw [setEntries, if_pos hmem]
  unfold setEntries
  split
  next =>
    rw [List.map_map]
    apply List.map_congr_left
    intro p _
    by_cases h : p.1 = k <;> simp [h]
  next hk =>
    have hnone : ∀ p ∈ d.entries, (if p.1 = k then (k, v') else p) = id p := by
      intro p hp
      have hne : p.1 ≠ k := by
        rintro rfl
        exact hk (List.mem_map_of_mem hp)
      exact if_neg hne
    rw [List.map_append, List.map_congr_left hnone, List.map_id]
    simp

@[simp] theorem getD_empty (k : κ) (x : ν) : (empty : Dict κ ν).getD k x = x := rfl

theorem getD_set (d : Dict κ ν) (k k' : κ) (v x : ν) :
    (d.set k v).getD k' x = if k' = k then v else d.getD k' x := by
  unfold getD
  rw [get?_set]
  split <;> simp

theorem mem_values {d : Dict κ ν} {v : ν} : v ∈ d.values ↔ ∃ k, d.get? k = some v := by
  simp [values, get?_eq_some]

/-- `{key(v): v for v in l}`, on top of `d`: what is found is of the list, or was there before. -/
theorem get?_foldl_set {key : ν → κ} {l : List ν} {d : Dict κ ν} {k : κ} {v : ν}
    (h : (l.foldl (fun d v => d.set (key v) v) d).get? k = some v) :
    v ∈ l ∧ key v = k ∨ d.get? k = some v := by
  induction l generalizing d with
  | nil => exact Or.inr h
  | cons a l ih =>
    rcases ih h with ⟨hv, hk⟩ | h
    · exact Or.inl ⟨List.mem_cons_of_mem _ hv, hk⟩
    · rw [get?_set] at h
      split at h
      next heq =>
        obtain rfl := Option.some.inj h
        exact Or.inl ⟨List.mem_cons_self, heq.symm⟩
      next => exact Or.inr h

theorem mem_foldl_set {key : ν → κ} {l : List ν} {d : Dict κ ν} {k : κ} :
    k ∈ l.foldl (fun d v => d.set (key v) v) d ↔ k ∈ d ∨ k ∈ l.map key := by
  induction l generalizing d with
  | nil => simp
  | cons a l ih =>
    rw [List.foldl_cons, ih, mem_set, List.map_cons, List.mem_cons]
    tauto

/-- Assigning to a present key changes its value in place. -/
theorem entries_set_split {d : Dict κ ν} {k : κ} {old : ν} (h : d.get? k = some old) :
    ∃ before after, d.entries = before ++ (k, old) :: after ∧
      ∀ v, (d.set k v).entries = before ++ (k, v) :: after := by
  have hmem := get?_eq_some.mp h
  obtain ⟨before, after, hsplit⟩ := List.append_of_mem hmem
  refine ⟨before, after, hsplit, fun v => ?_⟩
  have hnodup := d.nodup
  rw [hsplit, List.map_append, List.map_cons, List.nodup_middle] at hnodup
  have hkeep (l : List (κ × ν)) (hl : k ∉ l.map Prod.fst) :
      (l.map fun p => if p.1 = k then (k, v) else p) = l := by
    have heach : ∀ p ∈ l, (if p.1 = k then (k, v) else p) = id p := by
      intro p hp
      have hpk : p.1 ≠ k := by
        rintro rfl
        exact hl (List.mem_map_of_mem hp)
      exact if_neg hpk
    rw [List.map_congr_left heach, List.map_id]
  have hnot := List.nodup_cons.mp hnodup |>.1
  rw [List.mem_append, not_or] at hnot
  show setEntries k v d.entries = _
  unfold setEntries
  rw [if_pos (List.mem_map_of_mem hmem), hsplit, List.map_append, List.map_cons, if_pos rfl,
    hkeep before hnot.1, hkeep after hnot.2]

/-- Without a key that the dictionary does not have, nothing is taken out. -/
theorem filter_ne_of_not_mem {l : List (κ × ν)} {k : κ} (h : k ∉ l.map Prod.fst) :
    (l.filter fun e => e.1 ≠ k) = l := by
  rw [List.filter_eq_self]
  intro e he
  have hne : e.1 ≠ k := fun heq => h (heq ▸ List.mem_map_of_mem he)
  simpa using hne

/-- A value that fails the test takes its key out of what passes it. -/
theorem filter_entries_set {p : ν → Bool} {v : ν} (hv : ¬ p v) (d : Dict κ ν) (k : κ) :
    (d.set k v).entries.filter (fun e => p e.2) =
      (d.entries.filter fun e => p e.2).filter fun e => e.1 ≠ k := by
  rw [List.filter_comm]
  cases hget : d.get? k with
  | none =>
    have hnew : k ∉ d := get?_eq_none.mp hget
    rw [filter_ne_of_not_mem hnew, entries_set_new hnew, List.filter_append]
    simp [hv]
  | some old =>
    obtain ⟨before, after, hsplit, hset⟩ := entries_set_split hget
    have hnodup := d.nodup
    rw [hsplit, List.map_append, List.map_cons, List.nodup_middle, List.nodup_cons,
      List.mem_append, not_or] at hnodup
    have hrest : (d.entries.filter fun e => e.1 ≠ k) = before ++ after := by
      rw [hsplit, List.filter_append, List.filter_cons_of_neg (by simp),
        filter_ne_of_not_mem hnodup.1.1, filter_ne_of_not_mem hnodup.1.2]
    have hdrop : ((k, v) :: after).filter (fun e => p e.2) = after.filter fun e => p e.2 :=
      List.filter_cons_of_neg hv
    rw [hrest, hset, List.filter_append, List.filter_append, hdrop]

theorem values_set_new {d : Dict κ ν} {k : κ} (h : k ∉ d) (v : ν) :
    (d.set k v).values = d.values ++ [v] := by
  rw [values, entries_set_new h, List.map_append]
  rfl

/-- `{key(v): v for v in l}`, on top of `d`, when no key occurs twice. -/
theorem values_foldl_set {key : ν → κ} {l : List ν} {d : Dict κ ν} (hnew : ∀ v ∈ l, key v ∉ d)
    (hnodup : (l.map key).Nodup) :
    (l.foldl (fun d v => d.set (key v) v) d).values = d.values ++ l := by
  induction l generalizing d with
  | nil => simp
  | cons a l ih =>
    rw [List.map_cons, List.nodup_cons] at hnodup
    rw [List.foldl_cons, ih ?_ hnodup.2, values_set_new (hnew a List.mem_cons_self)]
    · simp
    · intro v hv hmem
      rcases mem_set.mp hmem with he | hmem
      · exact hnodup.1 (he ▸ List.mem_map_of_mem hv)
      · exact hnew v (List.mem_cons_of_mem _ hv) hmem

/-- What an assignment to a present key adds to a count of the values and takes from it. -/
theorem countP_values_set {d : Dict κ ν} {k : κ} {old : ν} (h : d.get? k = some old)
    (p : ν → Bool) (v : ν) : (d.set k v).values.countP p + [old].countP p =
      d.values.countP p + [v].countP p := by
  obtain ⟨before, after, hold, hnew⟩ := entries_set_split h
  rw [values, values, hold, hnew v]
  simp only [List.map_append, List.map_cons, List.countP_append, List.countP_cons,
    List.countP_nil]
  omega

/-- `d.setdefault(k, []).append(v)` adds to the lists of the dictionary what it adds to one. -/
theorem flatten_values_append (d : Dict κ (List ν)) (k : κ) (v : ν) :
    (d.set k (d.getD k [] ++ [v])).values.flatten.Perm (d.values.flatten ++ [v]) := by
  cases hget : d.get? k with
  | none =>
    have hold : d.getD k [] = [] := by rw [getD, hget]; rfl
    rw [hold, values_set_new (get?_eq_none.mp hget), List.flatten_append]
    simp
  | some old =>
    have hold : d.getD k [] = old := by rw [getD, hget]; rfl
    obtain ⟨before, after, hsplit, hset⟩ := entries_set_split hget
    rw [hold, values, values, hsplit, hset]
    simp only [List.map_append, List.map_cons, List.flatten_append, List.flatten_cons,
      List.append_assoc]
    exact ((List.perm_append_comm.append_left old).append_left _)

omit [DecidableEq κ] in
theorem nodup_of_perm (d : Dict κ ν) {l : List (κ × ν)} (h : d.entries.Perm l) :
    (l.map Prod.fst).Nodup := (h.map Prod.fst).nodup_iff.mp d.nodup

/-- The same items inserted in another order. -/
def reorder (d : Dict κ ν) (l : List (κ × ν)) (h : d.entries.Perm l) : Dict κ ν :=
  ⟨l, d.nodup_of_perm h⟩

/-- `{k: f(v) for k, v in d.items()}`. -/
def mapValues (f : ν → ν') (d : Dict κ ν) : Dict κ ν' where
  entries := d.entries.map fun e => (e.1, f e.2)
  nodup := by
    rw [List.map_map]
    exact d.nodup

/-- `{k: v for k, v in d.items() if p(k, v)}`. -/
def filter (p : κ × ν → Bool) (d : Dict κ ν) : Dict κ ν where
  entries := d.entries.filter p
  nodup := d.nodup.sublist ((List.filter_sublist).map Prod.fst)

theorem get?_filter_eq_some {p : κ × ν → Bool} {d : Dict κ ν} {k : κ} {v : ν} :
    (d.filter p).get? k = some v ↔ d.get? k = some v ∧ p (k, v) := by
  simp only [get?_eq_some, filter, List.mem_filter]

end Dict
end Lib

/-! Counting items by a key into a dictionary, and grouping them by it. -/
namespace Lib.Dict
variable {κ α : Type*} [DecidableEq κ] (key : α → κ)

/-- `counts[key(a)] = counts.get(key(a), 0) + 1` for each item. -/
def tally (items : List α) : Dict κ ℕ :=
  items.foldl (fun counts a => counts.set (key a) (counts.getD (key a) 0 + 1)) empty

theorem tally_concat (items : List α) (a : α) : tally key (items ++ [a]) =
    (tally key items).set (key a) ((tally key items).getD (key a) 0 + 1) := List.foldl_concat ..

/-- Under each key stands how many items have it. -/
theorem getD_tally (items : List α) (k : κ) :
    (tally key items).getD k 0 = items.countP fun a => key a = k := by
  induction items using List.reverseRecOn with
  | nil => rfl
  | append_singleton items a ih =>
    rw [tally_concat, getD_set, List.countP_append]
    by_cases h : k = key a
    · subst h
      rw [if_pos rfl, ih]
      simp
    · rw [if_neg h, ih]
      simp [Ne.symm h]

theorem sum_values_set {μ : Type*} [AddCommMonoid μ] (d : Dict κ μ) (k : κ) (n : μ) :
    (d.set k n).values.sum + d.getD k 0 = d.values.sum + n := by
  cases hget : d.get? k with
  | none =>
    rw [values_set_new (get?_eq_none.mp hget), getD, hget]
    simp
  | some old =>
    obtain ⟨before, after, hold, hnew⟩ := entries_set_split hget
    rw [values, values, hold, hnew n, getD, hget]
    simp only [List.map_append, List.map_cons, List.sum_append, List.sum_cons, Option.getD_some]
    abel

/-- The counts add up to the number of items. -/
theorem sum_values_tally (items : List α) : (tally key items).values.sum = items.length := by
  induction items using List.reverseRecOn with
  | nil => rfl
  | append_singleton items a ih =>
    have h := sum_values_set (tally key items) (key a) ((tally key items).getD (key a) 0 + 1)
    rw [tally_concat, List.length_append, List.length_singleton]
    omega

end Lib.Dict

namespace Lib
variable {κ α : Type*} [DecidableEq κ] (key : α → κ)

/-- Grouping by a key, one group after the other, is picking what has one of the keys. -/
theorem flatMap_filter_perm (l : List α) {ids : List κ}
    (hnodup : ids.Nodup) :
    (ids.flatMap fun id => l.filter fun a => key a = id).Perm (l.filter fun a => key a ∈ ids) := by
  induction ids with
  | nil => simp
  | cons id ids ih =>
    obtain ⟨hnew, hnodup⟩ := List.nodup_cons.mp hnodup
    rw [List.flatMap_cons]
    have hhere : (l.filter fun a => key a ∈ id :: ids).filter (fun a => key a = id) =
        l.filter fun a => key a = id := by
      rw [List.filter_filter]
      refine List.filter_congr fun a _ => ?_
      by_cases h : key a = id <;> simp [h]
    have hrest : (l.filter fun a => key a ∈ id :: ids).filter (fun a => !decide (key a = id)) =
        l.filter fun a => key a ∈ ids := by
      rw [List.filter_filter]
      refine List.filter_congr fun a _ => ?_
      by_cases h : key a = id
      · simp [h, hnew]
      · simp [h]
    have hsplit := List.filter_append_perm (fun a => decide (key a = id))
      (l.filter fun a => key a ∈ id :: ids)
    rw [hhere, hrest] at hsplit
    exact ((ih hnodup).append_left _).trans hsplit

end Lib
