import ControlFabric.Lib.Dict
import Mathlib.Data.NNRat.Defs

/-! Sorted sets of named members with scores, each key with a time to live: the commands of a store
that a sliding window uses. -/
namespace Lib

/-- The score of each member. -/
abbrev SortedSet := Dict String ℚ≥0

namespace SortedSet

/-- Adds a member, or replaces the score of one that is there. -/
def zadd (s : SortedSet) (member : String) (score : ℚ≥0) : SortedSet := s.set member score

/-- Removes the members whose scores lie in the closed range. -/
def zremrangebyscore (s : SortedSet) (lo hi : ℚ) : SortedSet :=
  s.filter fun p => ¬ (lo ≤ p.2 ∧ p.2 ≤ hi)

def zcard (s : SortedSet) : ℕ := s.entries.length

/-- The set holds each of the scores once, under its name, and nothing else. -/
def Holds (name : ℚ≥0 → String) (scores : List ℚ≥0) (s : SortedSet) : Prop :=
  ∀ member score, s.get? member = some score ↔ member = name score ∧ score ∈ scores

variable {name : ℚ≥0 → String} {scores : List ℚ≥0} {s : SortedSet}

theorem holds_empty (name : ℚ≥0 → String) : Holds name [] Dict.empty := by
  intro member score
  simp

theorem Holds.zadd (h : Holds name scores s) {now : ℚ≥0}
    (hinj : ∀ score ∈ scores, name score = name now → score = now) :
    Holds name (scores ++ [now]) (s.zadd (name now) now) := by
  intro member score
  rw [SortedSet.zadd, Dict.get?_set, List.mem_append, List.mem_singleton]
  by_cases hm : member = name now
  · rw [if_pos hm]
    subst hm
    constructor
    · intro heq
      obtain rfl := Option.some.inj heq
      exact ⟨rfl, Or.inr rfl⟩
    · rintro ⟨hname, hold | rfl⟩
      · rw [hinj score hold hname.symm]
      · rfl
  · rw [if_neg hm, h member score]
    constructor
    · rintro ⟨hname, hold⟩
      exact ⟨hname, Or.inl hold⟩
    · rintro ⟨hname, hold | rfl⟩
      · exact ⟨hname, hold⟩
      · exact absurd hname hm

theorem Holds.zremrangebyscore (h : Holds name scores s) (hi : ℚ) :
    Holds name (scores.filter fun t => hi < t) (s.zremrangebyscore 0 hi) := by
  intro member score
  have hnonneg : (0 : ℚ) ≤ score := score.coe_nonneg
  rw [SortedSet.zremrangebyscore, Dict.get?_filter_eq_some, h member score, List.mem_filter]
  simp [hnonneg, and_assoc]

theorem Holds.mem_values (h : Holds name scores s) {t : ℚ≥0} : t ∈ s.values ↔ t ∈ scores := by
  rw [Dict.mem_values]
  constructor
  · rintro ⟨member, hget⟩
    exact ((h member t).mp hget).2
  · intro ht
    exact ⟨name t, (h (name t) t).mpr ⟨rfl, ht⟩⟩

theorem Holds.congr {scores' : List ℚ≥0} (h : Holds name scores s)
    (hmem : ∀ t, t ∈ scores ↔ t ∈ scores') : Holds name scores' s := by
  intro member score
  rw [h member score, hmem]

theorem Holds.self (h : Holds name scores s) : Holds name s.values s :=
  h.congr fun _ => h.mem_values.symm

/-- As many members as there are different scores. -/
theorem Holds.zcard (h : Holds name scores s) : s.zcard = scores.dedup.length := by
  have hvalues : s.values.Nodup := by
    have hinj : ∀ p ∈ s.entries, ∀ q ∈ s.entries, p.2 = q.2 → p = q := by
      intro p hp q hq heq
      have hpname := ((h p.1 p.2).mp (Dict.get?_eq_some.mpr hp)).1
      have hqname := ((h q.1 q.2).mp (Dict.get?_eq_some.mpr hq)).1
      apply Prod.ext _ heq
      rw [hpname, hqname, heq]
    exact (List.Nodup.of_map Prod.fst s.nodup).map_on hinj
  have hmem : ∀ t, t ∈ s.values ↔ t ∈ scores.dedup := by
    intro t
    rw [h.mem_values, List.mem_dedup]
  have hperm := (List.perm_ext_iff_of_nodup hvalues scores.nodup_dedup).mpr hmem
  rw [← hperm.length_eq, Dict.values, List.length_map]
  rfl

end SortedSet

/-- A store of sorted sets, and the times at which keys expire. -/
structure SortedSets where
  sets : Dict String SortedSet
  deadlines : Dict String ℚ≥0

namespace SortedSets

def empty : SortedSets := ⟨Dict.empty, Dict.empty⟩

/-- What is found under the key at the time. -/
def live (r : SortedSets) (now : ℚ≥0) (key : String) : SortedSet :=
  if ∃ deadline ∈ r.deadlines.get? key, deadline ≤ now then Dict.empty
  else r.sets.getD key Dict.empty

/-- The set under the key replaced, to live for so many seconds. -/
def write (r : SortedSets) (now : ℚ≥0) (key : String) (s : SortedSet) (ttl : ℕ) : SortedSets :=
  ⟨r.sets.set key s, r.deadlines.set key (now + ttl)⟩

end SortedSets
end Lib
