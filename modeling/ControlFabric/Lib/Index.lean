import ControlFabric.Lib.Dict

/-! Secondary indices of a dictionary: for each attribute value, the keys of the entries that have
it. -/
namespace Lib
variable {κ ν γ : Type*} [DecidableEq κ]

/-- The index lists, under each attribute value, exactly the keys of the entries with that value,
each once. -/
structure Exact (d : Dict κ ν) (attr : ν → γ) (index : γ → List κ) : Prop where
  nodup : ∀ c, (index c).Nodup
  mem_iff : ∀ c k, k ∈ index c ↔ ∃ v, d.get? k = some v ∧ attr v = c

namespace Exact
variable {d : Dict κ ν} {attr : ν → γ} {index index' : γ → List κ} {k : κ} {v old : ν}

theorem empty : Exact (Dict.empty : Dict κ ν) attr fun _ => [] := ⟨by simp, by simp⟩

theorem mem_stored (h : Exact d attr index) (hold : d.get? k = some old) (c : γ) :
    k ∈ index c ↔ c = attr old := by
  rw [h.mem_iff]
  constructor
  · rintro ⟨v, hv, hc⟩
    rw [← hc, Option.some.inj (hold.symm.trans hv)]
  · intro hc
    exact ⟨old, hold, hc.symm⟩

theorem not_mem_new (h : Exact d attr index) (hk : k ∉ d) (c : γ) : k ∉ index c := by
  rw [h.mem_iff]
  rintro ⟨v, hv, -⟩
  exact hk (Dict.mem_of_get? hv)

theorem stored (h : Exact d attr index) : ∀ c, ∀ k ∈ index c, k ∈ d := by
  intro c k hk
  obtain ⟨v, hv, -⟩ := (h.mem_iff c k).mp hk
  exact Dict.mem_of_get? hv

/-- After an assignment, an index that changed for the assigned key only is exact exactly when it
lists that key under its new attribute and nowhere else. -/
theorem set_iff (h : Exact d attr index) (hnodup : ∀ c, (index' c).Nodup)
    (hother : ∀ c k', k' ≠ k → (k' ∈ index' c ↔ k' ∈ index c)) :
    Exact (d.set k v) attr index' ↔ ∀ c, k ∈ index' c ↔ c = attr v := by
  constructor
  · intro h' c
    exact h'.mem_stored (Dict.get?_set_self d k v) c
  · intro hself
    refine ⟨hnodup, fun c k' => ?_⟩
    rw [Dict.get?_set]
    by_cases hk : k' = k
    · rw [hk, hself c]
      simp [eq_comm]
    · simp only [if_neg hk, hother c k' hk, h.mem_iff]

/-- Looking an attribute value up gives exactly the entries that have it. -/
theorem mem_lookup (h : Exact d attr index) {c : γ} :
    v ∈ (index c).filterMap d.get? ↔ (∃ k, d.get? k = some v) ∧ attr v = c := by
  rw [List.mem_filterMap]
  constructor
  · rintro ⟨k, hk, hv⟩
    exact ⟨⟨k, hv⟩, ((h.mem_stored hv c).mp hk).symm⟩
  · rintro ⟨⟨k, hv⟩, hc⟩
    exact ⟨k, (h.mem_stored hv c).mpr hc.symm, hv⟩

/-- Each of them once, when an entry's key can be read off its value. -/
theorem nodup_lookup (h : Exact d attr index) {keyOf : ν → κ}
    (hkey : ∀ k v, d.get? k = some v → keyOf v = k) (c : γ) :
    ((index c).filterMap d.get?).Nodup := by
  refine (h.nodup c).filterMap ?_
  intro a b v ha hb
  rw [← hkey a v ha, ← hkey b v hb]

end Exact

/-- Looking any attribute value up gives exactly the entries that have it, each once. -/
def LookupExact (d : Dict κ ν) (attr : ν → γ) (index : γ → List κ) : Prop :=
  ∀ c, ((index c).filterMap d.get?).Nodup ∧
    ∀ v, v ∈ (index c).filterMap d.get? ↔ (∃ k, d.get? k = some v) ∧ attr v = c

/-- For an index of stored keys, each listed once, the lookups are exact exactly when it is. -/
theorem lookupExact_iff {d : Dict κ ν} {attr : ν → γ} {index : γ → List κ} {keyOf : ν → κ}
    (hkey : ∀ k v, d.get? k = some v → keyOf v = k) (hnodup : ∀ c, (index c).Nodup)
    (hstored : ∀ c, ∀ k ∈ index c, k ∈ d) : LookupExact d attr index ↔ Exact d attr index := by
  constructor
  · intro h
    refine ⟨hnodup, fun c k => ?_⟩
    constructor
    · intro hk
      obtain ⟨v, hv⟩ := Dict.mem_iff_get?.mp (hstored c k hk)
      exact ⟨v, hv, (((h c).2 v).mp (List.mem_filterMap.mpr ⟨k, hk, hv⟩)).2⟩
    · rintro ⟨v, hv, hc⟩
      obtain ⟨k', hk', hv'⟩ := List.mem_filterMap.mp (((h c).2 v).mpr ⟨⟨k, hv⟩, hc⟩)
      rwa [← hkey k v hv, hkey k' v hv']
  · intro h c
    exact ⟨h.nodup_lookup hkey c, fun v => h.mem_lookup⟩

end Lib
