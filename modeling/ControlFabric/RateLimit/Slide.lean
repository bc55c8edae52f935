import Mathlib.Data.NNRat.Defs
import Mathlib.Order.Interval.Set.Infinite
import Mathlib.Tactic

/-! The window that slides under one key, as a set of clock readings that lives for a while, and
when a call leaves no trace in what later calls count. -/
namespace ControlFabric.RateLimit

/-- The readings that are kept, and the time at which they are dropped. -/
structure Readings where
  kept : Finset ℚ≥0
  deadline : Option ℚ≥0

namespace Readings

/-- What is left of the readings at the time. -/
def live (W : Readings) (u : ℚ≥0) : Finset ℚ≥0 :=
  if ∃ deadline ∈ W.deadline, deadline ≤ u then ∅ else W.kept

/-- The readings after a call at the time, with a window of `w` seconds. -/
def slide (W : Readings) (u : ℚ≥0) (w : ℕ) : Readings :=
  ⟨(insert u (W.live u)).filter fun s => u < s + w, some (u + (w + 10 : ℕ))⟩

/-- A call at the time is counted already, in readings that a further one leaves as they are; these
live as long as after the further call, or are out of the window before they are dropped. -/
structure Counts (W : Readings) (t : ℚ≥0) (w : ℕ) : Prop where
  counted : t ∈ W.kept
  inWindow : ∀ s ∈ W.kept, t < s + w
  lives : ∃ deadline, W.deadline = some deadline ∧ t < deadline ∧
    (deadline = t + (w + 10 : ℕ) ∨
      ∀ s ∈ W.kept, s + w ≤ deadline ∧ s + w ≤ t + (w + 10 : ℕ))

/-- The same readings, which are out of every window of up to `w` seconds when one side drops them
and the other does not. -/
structure Alike (w : ℕ) (W W' : Readings) : Prop where
  kept : W.kept = W'.kept
  outlived : W.deadline = W'.deadline ∨ ∀ deadline ∈ W.deadline.toList ++ W'.deadline.toList,
    ∀ s ∈ W.kept, s + w ≤ deadline

variable {W W' : Readings} {t u : ℚ≥0} {v w : ℕ}

theorem Alike.refl (w : ℕ) (W : Readings) : Alike w W W := ⟨rfl, Or.inl rfl⟩

theorem mem_live {s : ℚ≥0} :
    s ∈ W.live u ↔ (∀ deadline ∈ W.deadline, u < deadline) ∧ s ∈ W.kept := by
  unfold live
  split
  next h =>
    obtain ⟨deadline, hd, hle⟩ := h
    simp only [Finset.notMem_empty, false_iff, not_and]
    intro hall
    exact absurd (hall deadline hd) (not_lt.mpr hle)
  next h =>
    have hlive : ∀ deadline ∈ W.deadline, u < deadline := by simpa using h
    rw [and_iff_right hlive]

/-- Alike readings count the same and are the same after a call. -/
theorem Alike.slide (h : Alike w W W') (hv : v ≤ w) (u : ℚ≥0) : W.slide u v = W'.slide u v := by
  have hvw : (v : ℚ≥0) ≤ w := by exact_mod_cast hv
  -- A reading in the window is before both deadlines.
  have hkept : ∀ s, u < s + v → (s ∈ W.live u ↔ s ∈ W'.live u) := by
    intro s hs
    rw [mem_live, mem_live, h.kept]
    rcases h.outlived with hsame | hout
    · rw [hsame]
    · have hbefore : ∀ deadline ∈ W.deadline.toList ++ W'.deadline.toList, s ∈ W'.kept →
          u < deadline := by
        intro deadline hd hmem
        calc u < s + v := hs
          _ ≤ s + w := by gcongr
          _ ≤ deadline := hout deadline hd s (by rwa [h.kept])
      simp only [Option.mem_toList, List.mem_append] at hbefore
      constructor
      · rintro ⟨-, hmem⟩
        exact ⟨fun deadline hd => hbefore deadline (Or.inr hd) hmem, hmem⟩
      · rintro ⟨-, hmem⟩
        exact ⟨fun deadline hd => hbefore deadline (Or.inl hd) hmem, hmem⟩
  unfold Readings.slide
  congr 1
  ext s
  simp only [Finset.mem_filter, Finset.mem_insert]
  constructor
  · rintro ⟨hs, hlt⟩
    exact ⟨hs.imp_right (hkept s hlt).mp, hlt⟩
  · rintro ⟨hs, hlt⟩
    exact ⟨hs.imp_right (hkept s hlt).mpr, hlt⟩

/-- A call that is counted already leaves the readings alike. -/
theorem Counts.alike (h : Counts W t w) : Alike w W (W.slide t w) := by
  obtain ⟨deadline, hdeadline, hlt, hout⟩ := h.lives
  have hlive : W.live t = W.kept := by
    ext s
    simp [mem_live, hdeadline, hlt]
  have hkept : (W.slide t w).kept = W.kept := by
    rw [slide, hlive, Finset.insert_eq_self.mpr h.counted]
    exact Finset.filter_eq_self.mpr h.inWindow
  constructor
  · exact hkept.symm
  · rcases hout with hsame | hout
    · left
      rw [hdeadline, hsame]
      rfl
    · right
      intro d hd s hs
      rw [hdeadline] at hd
      simp only [Option.toList_some, slide, List.singleton_append, List.mem_cons,
        List.not_mem_nil, or_false] at hd
      obtain ⟨hle, hle'⟩ := hout s hs
      rcases hd with rfl | rfl
      · exact hle
      · exact hle'

/-! ### A call that is not counted already -/

/-- The readings in the window of a call at the time, its own left out. -/
def seen (W : Readings) (u : ℚ≥0) (w : ℕ) : Finset ℚ≥0 := (W.live u).filter fun s => u < s + w

/-- What a call at a new reading counts: itself and what it sees. -/
theorem card_slide (hw : 0 < w) (hu : u ∉ W.kept) :
    (W.slide u w).kept.card = (W.seen u w).card + 1 := by
  have hpos : u < u + w := lt_add_of_pos_right u (by exact_mod_cast hw)
  have hnew : u ∉ W.seen u w := fun h => hu (mem_live.mp (Finset.mem_filter.mp h).1).2
  rw [slide, Finset.filter_insert, if_pos hpos]
  exact Finset.card_insert_of_notMem hnew

theorem mem_seen {s : ℚ≥0} : s ∈ W.seen u w ↔
    (∀ deadline ∈ W.deadline, u < deadline) ∧ s ∈ W.kept ∧ u < s + w := by
  rw [seen, Finset.mem_filter, mem_live, and_assoc]

theorem mem_seen_slide {s : ℚ≥0} : s ∈ (W.slide t w).seen u w ↔
    u < t + (w + 10 : ℕ) ∧ ((s = t ∨ s ∈ W.live t) ∧ t < s + w) ∧ u < s + w := by
  rw [mem_seen]
  simp [slide]

theorem lt_slide_deadline (h : u < t + w) : u < t + (w + 10 : ℕ) :=
  h.trans_le (by gcongr; omega)

theorem exists_new {a b : ℚ≥0} (h : a < b) (F : Finset ℚ≥0) : ∃ u ∉ F, a < u ∧ u < b := by
  obtain ⟨u, ⟨ha, hb⟩, hu⟩ := (Set.Ioo_infinite h).exists_notMem_finset F
  exact ⟨u, hu, ha, hb⟩

section Observed
variable (hw : 0 < w) (hsame : ∀ u, (W.slide u w).kept.card = ((W.slide t w).slide u w).kept.card)
include hw hsame

theorem card_seen_eq (hu : u ∉ insert t W.kept) :
    (W.seen u w).card = ((W.slide t w).seen u w).card := by
  have hnew : u ∉ W.kept := fun h => hu (Finset.mem_insert_of_mem h)
  have hnew' : u ∉ (W.slide t w).kept := by
    intro h
    rcases Finset.mem_insert.mp (Finset.mem_filter.mp h).1 with rfl | hmem
    · exact hu (Finset.mem_insert_self u W.kept)
    · exact hnew (mem_live.mp hmem).2
  have hcard := hsame u
  rw [card_slide hw hnew, card_slide hw hnew'] at hcard
  exact Nat.succ.inj hcard

/-- The readings are live at the time of the call, which would count itself alone otherwise. -/
theorem lt_deadline : ∀ deadline ∈ W.deadline, t < deadline := by
  intro deadline hd
  by_contra hle
  have hpos : t < t + w := lt_add_of_pos_right t (by exact_mod_cast hw)
  obtain ⟨u, hu, htu, huw⟩ := exists_new hpos (insert t W.kept)
  have hcard := card_seen_eq hw hsame hu
  have hnone : W.seen u w = ∅ := by
    apply Finset.eq_empty_of_forall_notMem
    intro s hs
    exact hle (htu.trans ((mem_seen.mp hs).1 deadline hd))
  have hsome : t ∈ (W.slide t w).seen u w := by
    exact mem_seen_slide.mpr ⟨lt_slide_deadline huw, ⟨Or.inl rfl, hpos⟩, huw⟩
  rw [hnone, Finset.card_empty] at hcard
  exact (Finset.card_pos.mpr ⟨t, hsome⟩).ne hcard

theorem live_eq_kept : W.live t = W.kept := by
  ext s
  simpa [mem_live] using fun _ => lt_deadline hw hsame

theorem counted_of_same : t ∈ W.kept := by
  by_contra hnot
  have hpos : t < t + w := lt_add_of_pos_right t (by exact_mod_cast hw)
  -- A later time at which the readings are still live and the call is in the window.
  obtain ⟨bound, htb, hbw, hbound⟩ : ∃ bound, t < bound ∧ bound ≤ t + w ∧
      ∀ deadline ∈ W.deadline, bound ≤ deadline := by
    cases hdeadline : W.deadline with
    | none => exact ⟨t + w, hpos, le_rfl, by simp⟩
    | some deadline =>
      have hlt := lt_deadline hw hsame deadline hdeadline
      exact ⟨min (t + w) deadline, lt_min hpos hlt, min_le_left _ _, by simp⟩
  obtain ⟨u, hu, htu, hub⟩ := exists_new htb (insert t W.kept)
  have hcard := card_seen_eq hw hsame hu
  have hsub : W.seen u w ⊂ (W.slide t w).seen u w := by
    have hbefore : u < t + (w + 10 : ℕ) := lt_slide_deadline (hub.trans_le hbw)
    apply Finset.ssubset_iff_subset_ne.mpr
    constructor
    · intro s hs
      obtain ⟨-, hmem, hin⟩ := mem_seen.mp hs
      refine mem_seen_slide.mpr ⟨hbefore, ⟨Or.inr ?_, htu.trans hin⟩, hin⟩
      rwa [live_eq_kept hw hsame]
    · intro heq
      have hself : t ∈ (W.slide t w).seen u w :=
        mem_seen_slide.mpr ⟨hbefore, ⟨Or.inl rfl, hpos⟩, hub.trans_le hbw⟩
      rw [← heq] at hself
      exact hnot (mem_seen.mp hself).2.1
  exact (Finset.card_lt_card hsub).ne hcard

theorem inWindow_of_same : ∀ s ∈ W.kept, t < s + w := by
  intro s hs
  by_contra hout
  have hpos : s < s + w := lt_add_of_pos_right s (by exact_mod_cast hw)
  obtain ⟨u, hu, hsu, huw⟩ := exists_new hpos (insert t W.kept)
  have hut : u < t := huw.trans_le (not_lt.mp hout)
  have hcard := card_seen_eq hw hsame hu
  have hlive : ∀ deadline ∈ W.deadline, u < deadline := fun deadline hd =>
    hut.trans (lt_deadline hw hsame deadline hd)
  have hsub : (W.slide t w).seen u w ⊂ W.seen u w := by
    apply Finset.ssubset_iff_subset_ne.mpr
    constructor
    · intro r hr
      obtain ⟨-, ⟨hmem, -⟩, hin⟩ := mem_seen_slide.mp hr
      refine mem_seen.mpr ⟨hlive, ?_, hin⟩
      rcases hmem with rfl | hmem
      · exact counted_of_same hw hsame
      · exact (mem_live.mp hmem).2
    · intro heq
      have hself : s ∈ W.seen u w := mem_seen.mpr ⟨hlive, hs, huw⟩
      rw [← heq] at hself
      exact hout (mem_seen_slide.mp hself).2.1.2
  exact (Finset.card_lt_card hsub).ne hcard.symm

/-- Between two different deadlines no reading is in the window. -/
theorem outlived_of_same {deadline : ℚ≥0} (hd : W.deadline = some deadline)
    (hne : deadline ≠ t + (w + 10 : ℕ)) {s : ℚ≥0} (hs : s ∈ W.kept) :
    s + w ≤ deadline ∧ s + w ≤ t + (w + 10 : ℕ) := by
  rw [← le_min_iff]
  by_contra hgt
  have hlt : min deadline (t + (w + 10 : ℕ)) <
      min (max deadline (t + (w + 10 : ℕ))) (s + w) :=
    lt_min (by simpa [eq_comm] using hne) (not_le.mp hgt)
  obtain ⟨u, hu, hlow, hhigh⟩ := exists_new hlt (insert t W.kept)
  obtain ⟨humax, huw⟩ := lt_min_iff.mp hhigh
  have hcard := card_seen_eq hw hsame hu
  rcases lt_or_gt_of_ne hne with hfirst | hlast
  · rw [min_eq_left hfirst.le] at hlow
    rw [max_eq_right hfirst.le] at humax
    have hnone : W.seen u w = ∅ := by
      apply Finset.eq_empty_of_forall_notMem
      intro r hr
      exact lt_asymm hlow ((mem_seen.mp hr).1 deadline hd)
    have hsome : s ∈ (W.slide t w).seen u w := by
      refine mem_seen_slide.mpr ⟨humax, ⟨Or.inr ?_, inWindow_of_same hw hsame s hs⟩, huw⟩
      rwa [live_eq_kept hw hsame]
    rw [hnone, Finset.card_empty] at hcard
    exact (Finset.card_pos.mpr ⟨s, hsome⟩).ne hcard
  · rw [min_eq_right hlast.le] at hlow
    rw [max_eq_left hlast.le] at humax
    have hnone : (W.slide t w).seen u w = ∅ := by
      apply Finset.eq_empty_of_forall_notMem
      intro r hr
      exact lt_asymm hlow (mem_seen_slide.mp hr).1
    have hsome : s ∈ W.seen u w := mem_seen.mpr ⟨by simpa [hd] using humax, hs, huw⟩
    rw [hnone, Finset.card_empty] at hcard
    exact (Finset.card_pos.mpr ⟨s, hsome⟩).ne hcard.symm

end Observed

/-- Later calls of the same window cannot tell whether the call was made exactly when it is counted
already, if readings are dropped at all. -/
theorem same_iff_counts (hw : 0 < w) (hdeadline : W.kept.Nonempty → W.deadline ≠ none) :
    (∀ u, (W.slide u w).kept.card = ((W.slide t w).slide u w).kept.card) ↔ W.Counts t w := by
  constructor
  · intro hsame
    have hcounted := counted_of_same hw hsame
    refine ⟨hcounted, inWindow_of_same hw hsame, ?_⟩
    obtain ⟨deadline, hd⟩ := Option.ne_none_iff_exists'.mp (hdeadline ⟨t, hcounted⟩)
    refine ⟨deadline, hd, lt_deadline hw hsame deadline hd, ?_⟩
    by_cases hend : deadline = t + (w + 10 : ℕ)
    · exact Or.inl hend
    · right
      intro s hs
      exact outlived_of_same hw hsame hd hend hs
  · intro h u
    rw [h.alike.slide le_rfl u]

end Readings
end ControlFabric.RateLimit
