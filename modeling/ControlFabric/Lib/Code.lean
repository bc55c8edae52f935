import Mathlib.Data.List.Basic
import Mathlib.Tactic

/-! Codes whose end can be found without a separator, read from the left or from the right,
and fixed-width numerals. -/
namespace Lib
variable {α α' β γ : Type*}

/-- The code of a value, read from the left, shows where it ends. -/
def SelfDelimiting (e : α → List β) : Prop :=
  ∀ a b r s, e a ++ r = e b ++ s → a = b ∧ r = s

/-- The code of a value, read from the right, shows where it begins. -/
def SuffixDelimiting (e : α → List β) : Prop :=
  ∀ a b r s, r ++ e a = s ++ e b → a = b ∧ r = s

theorem SelfDelimiting.injective {e : α → List β} (h : SelfDelimiting e) :
    Function.Injective e := fun _ _ hab => (h _ _ [] [] (by rw [hab])).1

/-- What a decoder reads back together with the rest is self-delimiting. -/
theorem selfDelimiting_of_decoder {e : α → List β} (decode : List β → Option (α × List β))
    (h : ∀ a r, decode (e a ++ r) = some (a, r)) : SelfDelimiting e := by
  intro a b r s he
  have hab : some (a, r) = some (b, s) := by rw [← h a r, he, h b s]
  simpa using hab

/-- A code of constant width is self-delimiting as soon as it is injective. -/
theorem selfDelimiting_of_length {e : α → List β} (hinj : Function.Injective e)
    (hlen : ∀ a b, (e a).length = (e b).length) : SelfDelimiting e := by
  intro a b r s h
  obtain ⟨he, hr⟩ := List.append_inj h (hlen a b)
  exact ⟨hinj he, hr⟩

/-- A code none of whose words ends in another is read from the right. -/
theorem suffixDelimiting_of_code {e : α → List β} (h : ∀ a b, e a <:+ e b → a = b) :
    SuffixDelimiting e := by
  intro a b r s he
  have ha : e a <:+ s ++ e b := ⟨r, he⟩
  have hab : a = b := by
    rcases List.suffix_or_suffix_of_suffix ha (List.suffix_append s (e b)) with hs | hs
    · exact h a b hs
    · exact (h b a hs).symm
  rw [hab] at he
  exact ⟨hab, List.append_cancel_right he⟩

theorem SelfDelimiting.append {e : α → List β} {f : α' → List β} (he : SelfDelimiting e)
    (hf : SelfDelimiting f) : SelfDelimiting (fun p : α × α' => e p.1 ++ f p.2) := by
  rintro ⟨a, a'⟩ ⟨b, b'⟩ r s h
  simp only [List.append_assoc] at h
  obtain ⟨rfl, hf'⟩ := he _ _ _ _ h
  obtain ⟨rfl, hrs⟩ := hf _ _ _ _ hf'
  exact ⟨rfl, hrs⟩

/-- Two texts over one alphabet, each followed by something outside it, are split alike. -/
theorem append_inj_of_stop {p : β → Prop} {x y r s : List β} (hx : ∀ c ∈ x, p c)
    (hy : ∀ c ∈ y, p c) (hr : ∀ c ∈ r.head?, ¬ p c) (hs : ∀ c ∈ s.head?, ¬ p c)
    (h : x ++ r = y ++ s) : x = y ∧ r = s := by
  induction x generalizing y with
  | nil =>
    cases y with
    | nil => exact ⟨rfl, h⟩
    | cons d y =>
      have hd : d ∈ r.head? := by simp only [List.nil_append] at h; simp [h]
      exact absurd (hy d List.mem_cons_self) (hr d hd)
  | cons c x ih =>
    cases y with
    | nil =>
      have hc : c ∈ s.head? := by simp only [List.nil_append] at h; simp [← h]
      exact absurd (hx c List.mem_cons_self) (hs c hc)
    | cons d y =>
      simp only [List.cons_append, List.cons.injEq] at h
      obtain ⟨rfl, h⟩ := h
      obtain ⟨rfl, hrs⟩ := ih (fun e he => hx e (List.mem_cons_of_mem _ he))
        (fun e he => hy e (List.mem_cons_of_mem _ he)) h
      exact ⟨rfl, hrs⟩

/-- A text is split alike at the last occurrence of a character. -/
theorem append_inj_of_last {c : β} {x y r s : List β} (hr : c ∉ r) (hs : c ∉ s)
    (h : x ++ c :: r = y ++ c :: s) : x = y ∧ r = s := by
  have hrev : r.reverse ++ c :: x.reverse = s.reverse ++ c :: y.reverse := by
    simpa using congrArg List.reverse h
  obtain ⟨hrs, hxy⟩ := append_inj_of_stop (p := fun d => d ≠ c)
    (fun d hd hdc => hr (by simpa [hdc] using hd)) (fun d hd hdc => hs (by simpa [hdc] using hd))
    (by simp) (by simp) hrev
  exact ⟨by simpa using hxy, by simpa using hrs⟩

/-- The items of a list one after the other, a separator before each but the first, and a
terminator at the end. -/
def joined (e : α → List β) (sep stop : List β) : List α → List β
  | [] => stop
  | a :: l => e a ++ tail l
where
  tail : List α → List β
    | [] => stop
    | a :: l => sep ++ e a ++ tail l

private theorem joined_tail_selfDelimiting {e : α → List β} (he : SelfDelimiting e)
    {sep stop : List β} (hsep : ∀ r s, sep ++ r ≠ stop ++ s) :
    SelfDelimiting (joined.tail e sep stop) := by
  intro l m r s h
  induction l generalizing m with
  | nil =>
    cases m with
    | nil => exact ⟨rfl, by simpa [joined.tail] using h⟩
    | cons b m => exact absurd h.symm (by simpa [joined.tail] using hsep _ _)
  | cons a l ih =>
    cases m with
    | nil => exact absurd h (by simpa [joined.tail] using hsep _ _)
    | cons b m =>
      simp only [joined.tail, List.append_assoc, List.append_cancel_left_eq] at h
      obtain ⟨rfl, hl⟩ := he _ _ _ _ h
      obtain ⟨rfl, hrs⟩ := ih m hl
      exact ⟨rfl, hrs⟩

/-- A joined list is self-delimiting when its items are and neither an item nor the separator can
be mistaken for the terminator. -/
theorem joined_selfDelimiting {e : α → List β} (he : SelfDelimiting e) {sep stop : List β}
    (hsep : ∀ r s, sep ++ r ≠ stop ++ s) (hstop : ∀ a r s, e a ++ r ≠ stop ++ s) :
    SelfDelimiting (joined e sep stop) := by
  intro l m r s h
  cases l with
  | nil =>
    cases m with
    | nil => exact ⟨rfl, by simpa [joined] using h⟩
    | cons b m => exact absurd h.symm (by simpa [joined] using hstop _ _ _)
  | cons a l =>
    cases m with
    | nil => exact absurd h (by simpa [joined] using hstop _ _ _)
    | cons b m =>
      simp only [joined, List.append_assoc] at h
      obtain ⟨rfl, hl⟩ := he _ _ _ _ h
      obtain ⟨rfl, hrs⟩ := joined_tail_selfDelimiting he hsep _ _ _ _ hl
      exact ⟨rfl, hrs⟩

/-- Self-delimiting items in a row, up to a terminator no item begins with. -/
theorem flatMap_selfDelimiting {e : α → List β} (he : SelfDelimiting e) {stop : List β}
    (hstop : ∀ a r s, e a ++ r ≠ stop ++ s) :
    SelfDelimiting (fun l : List α => l.flatMap e ++ stop) := by
  intro l m r s h
  induction l generalizing m with
  | nil =>
    cases m with
    | nil => exact ⟨rfl, by simpa using h⟩
    | cons b m => exact absurd h.symm (by simpa using hstop _ _ _)
  | cons a l ih =>
    cases m with
    | nil => exact absurd h (by simpa using hstop _ _ _)
    | cons b m =>
      simp only [List.flatMap_cons, List.append_assoc] at h
      obtain ⟨rfl, hl⟩ := he _ _ _ _ h
      obtain ⟨rfl, hrs⟩ := ih m (by simpa using hl)
      exact ⟨rfl, hrs⟩

/-- Without a terminator the row is still read in one way only, when no item is empty. -/
theorem flatMap_injective {e : α → List β} (he : SelfDelimiting e) (hne : ∀ a, e a ≠ []) :
    Function.Injective (List.flatMap e) := by
  intro l m h
  induction l generalizing m with
  | nil =>
    cases m with
    | nil => rfl
    | cons b m => exact absurd h.symm (by simp [hne])
  | cons a l ih =>
    cases m with
    | nil => exact absurd h (by simp [hne])
    | cons b m =>
      obtain ⟨hab, hl⟩ := he a b _ _ (by simpa using h)
      rw [hab, ih hl]

/-- The last `w` digits of `n`, most significant first. -/
def numeral (base : ℕ) : ℕ → ℕ → List ℕ
  | 0, _ => []
  | w + 1, n => numeral base w (n / base) ++ [n % base]

@[simp] theorem numeral_length (base w n : ℕ) : (numeral base w n).length = w := by
  induction w generalizing n with
  | zero => rfl
  | succ w ih => simp [numeral, ih]

theorem numeral_lt {base : ℕ} (hb : 0 < base) (w n : ℕ) : ∀ d ∈ numeral base w n, d < base := by
  induction w generalizing n with
  | zero => simp [numeral]
  | succ w ih =>
    intro d hd
    rcases List.mem_append.mp hd with hd | hd
    · exact ih _ d hd
    · rw [List.mem_singleton.mp hd]
      exact Nat.mod_lt n hb

/-- The number a list of digits stands for. -/
def ofNumeral (base : ℕ) (ds : List ℕ) : ℕ := ds.foldl (fun n d => n * base + d) 0

theorem ofNumeral_numeral {base w n : ℕ} (hn : n < base ^ w) :
    ofNumeral base (numeral base w n) = n := by
  induction w generalizing n with
  | zero =>
    rw [pow_zero, Nat.lt_one_iff] at hn
    rw [hn]
    rfl
  | succ w ih =>
    have hq : n / base < base ^ w := Nat.div_lt_of_lt_mul (by rwa [pow_succ'] at hn)
    have hrec : ofNumeral base (numeral base (w + 1) n) =
        ofNumeral base (numeral base w (n / base)) * base + n % base := by
      simp [ofNumeral, numeral, List.foldl_append]
    rw [hrec, ih hq]
    exact Nat.div_add_mod' n base

theorem numeral_inj {base w n m : ℕ} (hn : n < base ^ w) (hm : m < base ^ w)
    (h : numeral base w n = numeral base w m) : n = m := by
  rw [← ofNumeral_numeral hn, h, ofNumeral_numeral hm]

end Lib
