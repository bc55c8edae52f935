import Mathlib.Data.List.Chain
import Mathlib.Tactic

/-! The splitting of a document into chunks that overlap. A chunk ends behind a full stop if one
lies in the second half of its window, and the next one starts so much before the end of it. The
chunks cover the text; the loop comes to its end unless a window ends, at its last full stop, no
further behind its start than the next one reaches back. -/
namespace ControlFabric.Chunking

/-- The place in a text of a given length that an index of a slice stands for; a negative one counts
from the end. -/
def clampIndex (length : ℕ) (i : ℤ) : ℕ := if i < 0 then (i + length).toNat else min i.toNat length

/-- `text[start:end]`. -/
def slice (text : List Char) (start stop : ℤ) : List Char :=
  (text.take (clampIndex text.length stop)).drop (clampIndex text.length start)

/-- The last place below the bound at which `p` holds. -/
def lastBelow (p : ℕ → Bool) : ℕ → Option ℕ
  | 0 => none
  | bound + 1 => if p bound then some bound else lastBelow p bound

/-- `text.rfind(c, start, end)`. -/
def rfind (c : Char) (text : List Char) (start stop : ℤ) : ℤ :=
  match lastBelow (fun i => clampIndex text.length start ≤ i ∧ text[i]? = some c)
      (clampIndex text.length stop) with
  | some i => i
  | none => -1

def charsPerToken : ℤ := 4

/-- One of the tuples in `results`. -/
structure Chunk where
  content : List Char
  start : ℤ
  stop : ℤ
  deriving DecidableEq

section Split
variable (text : List Char) (chunkSize overlap : ℕ)

def chunkChars : ℤ := chunkSize * charsPerToken

def overlapChars : ℤ := overlap * charsPerToken

/-- The `end` of the chunk that starts at `start`. -/
def chunkEnd (start : ℤ) : ℤ :=
  let stop := min (start + chunkChars chunkSize) text.length
  if stop < text.length then
    let lastPeriod := rfind '.' text start stop
    if start + chunkChars chunkSize / 2 < lastPeriod then lastPeriod + 1 else stop
  else stop

/-- The chunks from `start` on, if the loop comes to its end within so many rounds. -/
def splitFrom : ℕ → ℤ → Option (List Chunk)
  | 0, _ => none
  | fuel + 1, start =>
    if start < text.length then
      let stop := chunkEnd text chunkSize start
      let chunk : Chunk := ⟨slice text start stop, start, stop⟩
      if text.length ≤ stop then some [chunk]
      else (splitFrom fuel (stop - overlapChars overlap)).map fun rest => chunk :: rest
    else some []

/-- `_split_text`, by the number of rounds that its loop may take. -/
def splitText (fuel : ℕ) : Option (List Chunk) := splitFrom text chunkSize overlap fuel 0

end Split

/-! ### Full stops -/

theorem lastBelow_eq_some {p : ℕ → Bool} {bound i : ℕ} (h : lastBelow p bound = some i) :
    i < bound ∧ p i = true ∧ ∀ j, i < j → j < bound → p j = false := by
  induction bound with
  | zero => simp [lastBelow] at h
  | succ bound ih =>
    unfold lastBelow at h
    split at h
    next hp =>
      obtain rfl := Option.some.inj h
      exact ⟨by omega, hp, by omega⟩
    next hp =>
      obtain ⟨hlt, hi, hlast⟩ := ih h
      refine ⟨by omega, hi, fun j hij hj => ?_⟩
      rcases Nat.lt_succ_iff_lt_or_eq.mp hj with hbelow | rfl
      · exact hlast j hij hbelow
      · simpa using hp

theorem lastBelow_eq_none {p : ℕ → Bool} {bound : ℕ} (h : lastBelow p bound = none) :
    ∀ i < bound, p i = false := by
  induction bound with
  | zero => simp
  | succ bound ih =>
    unfold lastBelow at h
    split at h
    next => cases h
    next hp =>
      intro i hi
      rcases Nat.lt_succ_iff_lt_or_eq.mp hi with hbelow | rfl
      · exact ih h i hbelow
      · simpa using hp

/-- There is a full stop at the place. -/
def StopAt (text : List Char) (i : ℕ) : Prop := text[i]? = some '.'

instance (text : List Char) (i : ℕ) : Decidable (StopAt text i) :=
  inferInstanceAs (Decidable (_ = _))

/-- Where the window ends within the text, its last full stop is found. -/
theorem rfind_spec {text : List Char} {start stop : ℕ} (hstart : start ≤ text.length)
    (hstop : stop ≤ text.length) :
    (rfind '.' text start stop = -1 ∧ ∀ i, start ≤ i → i < stop → ¬ StopAt text i) ∨
      ∃ i : ℕ, rfind '.' text start stop = i ∧ start ≤ i ∧ i < stop ∧ StopAt text i ∧
        ∀ j, i < j → j < stop → ¬ StopAt text j := by
  have hclamp : ∀ n ≤ text.length, clampIndex text.length (n : ℤ) = n := by
    intro n hn
    simp [clampIndex, hn]
  unfold rfind
  rw [hclamp start hstart, hclamp stop hstop]
  cases hlast : lastBelow (fun i => start ≤ i ∧ text[i]? = some '.') stop with
  | none =>
    refine Or.inl ⟨rfl, fun i hi hlt => ?_⟩
    have hno := lastBelow_eq_none hlast i hlt
    simpa [StopAt, hi] using hno
  | some i =>
    obtain ⟨hlt, hi, hafter⟩ := lastBelow_eq_some hlast
    obtain ⟨hle, hstopAt⟩ := of_decide_eq_true hi
    refine Or.inr ⟨i, rfl, hle, hlt, hstopAt, fun j hij hj => ?_⟩
    have hno := hafter j hij hj
    have hle' : start ≤ j := by omega
    simpa [StopAt, hle'] using hno

/-! ### What the chunks cover -/

section Split
variable {text : List Char} {chunkSize overlap : ℕ}

/-- The chunks are parts of the text, within its bounds, from the start to the end of it, each
beginning and ending behind the one before, with no gap between them. -/
structure Covers (text : List Char) (chunkSize : ℕ) (start : ℤ) (chunks : List Chunk) : Prop where
  content : ∀ c ∈ chunks, c.content = slice text c.start c.stop
  bounds : ∀ c ∈ chunks, 0 ≤ c.start ∧ c.start < c.stop ∧ c.stop ≤ text.length
  first : text ≠ [] → chunks.head?.map Chunk.start = some start
  last : text ≠ [] → chunks.getLast?.map Chunk.stop = some (text.length : ℤ)
  increasing : chunks.IsChain fun c d => c.start < d.start ∧ c.stop < d.stop
  noGap : chunks.IsChain fun c d => d.start ≤ c.stop
  size : ∀ c ∈ chunks, c.content.length ≤ 4 * chunkSize

/-- The splitting ends, and its chunks cover the whole text. -/
def SplitsWell (text : List Char) (chunkSize overlap : ℕ) : Prop :=
  ∃ fuel chunks, splitText text chunkSize overlap fuel = some chunks ∧
    Covers text chunkSize 0 chunks

/-- The window has its last full stop behind its middle, but before the overlap is made up for. -/
def StopsEarly (text : List Char) (chunkSize overlap : ℕ) (start : ℤ) : Prop :=
  start + 4 * chunkSize < text.length ∧
    (∃ i : ℕ, start + 2 * chunkSize < i ∧ i < start + 4 * overlap ∧ StopAt text i) ∧
      ∀ i : ℕ, start + 4 * overlap ≤ i → i < start + 4 * chunkSize → ¬ StopAt text i

/-- The loop comes from the one start to the other. -/
inductive Comes (text : List Char) (chunkSize overlap : ℕ) : ℤ → ℤ → Prop
  | here (start : ℤ) : Comes text chunkSize overlap start start
  | next {start later : ℤ} (hmore : chunkEnd text chunkSize start < text.length)
      (h : Comes text chunkSize overlap
        (chunkEnd text chunkSize start - overlapChars overlap) later) :
      Comes text chunkSize overlap start later

/-- What the end of the chunk of a window is. -/
theorem chunkEnd_cases (chunkSize s : ℕ) (hs : s < text.length) :
    (text.length ≤ s + 4 * chunkSize ∧ chunkEnd text chunkSize s = text.length) ∨
      (s + 4 * chunkSize < text.length ∧ chunkEnd text chunkSize s = s + 4 * chunkSize ∧
        ∀ i, s + 2 * chunkSize < i → i < s + 4 * chunkSize → ¬ StopAt text i) ∨
      ∃ i : ℕ, s + 4 * chunkSize < text.length ∧ chunkEnd text chunkSize s = i + 1 ∧
        s + 2 * chunkSize < i ∧ i < s + 4 * chunkSize ∧ StopAt text i ∧
          ∀ j, i < j → j < s + 4 * chunkSize → ¬ StopAt text j := by
  have hchars : chunkChars chunkSize = ((4 * chunkSize : ℕ) : ℤ) := by
    simp [chunkChars, charsPerToken, mul_comm]
  have hhalf : chunkChars chunkSize / 2 = ((2 * chunkSize : ℕ) : ℤ) := by omega
  unfold chunkEnd
  dsimp only
  rw [hhalf, hchars]
  by_cases hend : text.length ≤ s + 4 * chunkSize
  · refine Or.inl ⟨hend, ?_⟩
    have hmin : min ((s : ℤ) + ((4 * chunkSize : ℕ) : ℤ)) text.length = text.length := by omega
    rw [hmin, if_neg (lt_irrefl _)]
  · have hmin : min ((s : ℤ) + ((4 * chunkSize : ℕ) : ℤ)) text.length =
        ((s + 4 * chunkSize : ℕ) : ℤ) := by omega
    have hlt : ((s + 4 * chunkSize : ℕ) : ℤ) < text.length := by omega
    rw [hmin, if_pos hlt]
    rcases rfind_spec hs.le (by omega : s + 4 * chunkSize ≤ text.length) with
      ⟨hfind, hnone⟩ | ⟨i, hfind, hle, hbelow, hstop, hafter⟩
    · rw [hfind, if_neg (by omega)]
      exact Or.inr (Or.inl ⟨by omega, by push_cast; ring, fun i hi hlt => hnone i (by omega) hlt⟩)
    · rw [hfind]
      by_cases hmiddle : s + 2 * chunkSize < i
      · rw [if_pos (by omega)]
        exact Or.inr (Or.inr ⟨i, by omega, rfl, hmiddle, hbelow, hstop, hafter⟩)
      · rw [if_neg (by omega)]
        refine Or.inr (Or.inl ⟨by omega, by push_cast; ring, fun j hj hlt => ?_⟩)
        exact hafter j (by omega) hlt

theorem chunkEnd_bounds (hsize : 0 < chunkSize) (s : ℕ) (hs : s < text.length) :
    (s : ℤ) < chunkEnd text chunkSize s ∧ chunkEnd text chunkSize s ≤ text.length ∧
      chunkEnd text chunkSize s ≤ s + 4 * chunkSize := by
  rcases chunkEnd_cases chunkSize s hs with ⟨hle, hstop⟩ | ⟨hlt, hstop, -⟩ |
    ⟨i, hlt, hstop, hmiddle, hbelow, -⟩
  · omega
  · omega
  · omega

/-- The window is left behind by more than the overlap exactly unless it stops early. -/
theorem stopsEarly_iff (hoverlap : overlap < chunkSize) (s : ℕ) (hs : s < text.length) :
    StopsEarly text chunkSize overlap s ↔ chunkEnd text chunkSize s < text.length ∧
      chunkEnd text chunkSize s ≤ s + 4 * overlap := by
  unfold StopsEarly
  rcases chunkEnd_cases chunkSize s hs with ⟨hle, hstop⟩ | ⟨hlt, hstop, hnone⟩ |
    ⟨i, hlt, hstop, hmiddle, hbelow, hat, hafter⟩
  · omega
  · refine iff_of_false ?_ (by omega)
    rintro ⟨-, ⟨i, hi, hearly, hat⟩, -⟩
    exact hnone i (by omega) (by omega) hat
  · constructor
    · rintro ⟨-, -, hlate⟩
      by_contra hnot
      exact hlate i (by omega) (by omega) hat
    · rintro ⟨-, hearly⟩
      refine ⟨by omega, ⟨i, by omega, by omega, hat⟩, fun j hj hlt => ?_⟩
      exact hafter j (by omega) (by omega)

theorem length_slice_le (text : List Char) {start stop : ℤ} (hstart : 0 ≤ start) (hle : start ≤ stop) :
    ((slice text start stop).length : ℤ) ≤ stop - start := by
  have hclamp : ∀ i : ℤ, 0 ≤ i → clampIndex text.length i = min i.toNat text.length := by
    intro i hi
    simp [clampIndex, not_lt.mpr hi]
  unfold slice
  rw [hclamp start hstart, hclamp stop (hstart.trans hle), List.length_drop, List.length_take]
  omega

/-- The chunk of one round. -/
def chunkAt (text : List Char) (chunkSize : ℕ) (start : ℤ) : Chunk :=
  ⟨slice text start (chunkEnd text chunkSize start), start, chunkEnd text chunkSize start⟩

theorem splitFrom_succ {fuel : ℕ} {start : ℤ} (h : start < text.length) :
    splitFrom text chunkSize overlap (fuel + 1) start =
      if text.length ≤ chunkEnd text chunkSize start then some [chunkAt text chunkSize start]
      else (splitFrom text chunkSize overlap fuel
        (chunkEnd text chunkSize start - overlapChars overlap)).map
          fun rest => chunkAt text chunkSize start :: rest := by
  rw [splitFrom, if_pos h]
  rfl

theorem chunkAt_fits (hsize : 0 < chunkSize) {s : ℕ} (hs : s < text.length) :
    (chunkAt text chunkSize s).content.length ≤ 4 * chunkSize := by
  obtain ⟨hlt, -, hfour⟩ := chunkEnd_bounds hsize s hs
  have hlength := length_slice_le text (Int.natCast_nonneg s) hlt.le
  show (slice text s (chunkEnd text chunkSize s)).length ≤ 4 * chunkSize
  omega

/-- One chunk, to the end of the text. -/
theorem covers_single (hsize : 0 < chunkSize) {s : ℕ} (hs : s < text.length)
    (hend : text.length ≤ chunkEnd text chunkSize s) :
    Covers text chunkSize s [chunkAt text chunkSize s] := by
  obtain ⟨hlt, hle, -⟩ := chunkEnd_bounds hsize s hs
  have hstop : (chunkAt text chunkSize s).stop = text.length := le_antisymm hle hend
  constructor
  · simp [chunkAt]
  · simpa [chunkAt] using ⟨hlt, hle⟩
  · simp [chunkAt]
  · simp [hstop]
  · simp
  · simp
  · simpa using chunkAt_fits hsize hs

/-- A first chunk, and chunks that begin and end behind it. -/
theorem Covers.cons (hsize : 0 < chunkSize) {s : ℕ} (hs : s < text.length) {c : Chunk}
    {rest : List Chunk} (hrest : Covers text chunkSize c.start (c :: rest)) (hlater : (s : ℤ) < c.start)
    (hgap : c.start ≤ chunkEnd text chunkSize s) (hend : chunkEnd text chunkSize s < c.stop) :
    Covers text chunkSize s (chunkAt text chunkSize s :: c :: rest) := by
  obtain ⟨hlt, hle, -⟩ := chunkEnd_bounds hsize s hs
  constructor
  · exact List.forall_mem_cons.mpr ⟨rfl, hrest.content⟩
  · exact List.forall_mem_cons.mpr ⟨⟨Int.natCast_nonneg s, hlt, hle⟩, hrest.bounds⟩
  · exact fun _ => rfl
  · intro hne
    rw [List.getLast?_cons_cons]
    exact hrest.last hne
  · exact List.isChain_cons_cons.mpr ⟨⟨hlater, hend⟩, hrest.increasing⟩
  · exact List.isChain_cons_cons.mpr ⟨hgap, hrest.noGap⟩
  · exact List.forall_mem_cons.mpr ⟨chunkAt_fits hsize hs, hrest.size⟩

/-- While no window stops early, the loop goes on to the end of the text. -/
theorem splitFrom_covers (hoverlap : overlap < chunkSize) {fuel s : ℕ} (hs : s < text.length)
    (hgood : ∀ t, Comes text chunkSize overlap s t → ¬ StopsEarly text chunkSize overlap t)
    (hfuel : text.length - s < fuel) :
    ∃ c rest, splitFrom text chunkSize overlap fuel s = some (c :: rest) ∧ c.start = s ∧
      (s + 4 * overlap < c.stop ∨ c.stop = text.length) ∧
        Covers text chunkSize s (c :: rest) := by
  have hsize : 0 < chunkSize := by omega
  induction fuel generalizing s with
  | zero => omega
  | succ fuel ih =>
    obtain ⟨hlt, hle, -⟩ := chunkEnd_bounds hsize s hs
    rw [splitFrom_succ (by exact_mod_cast hs)]
    by_cases hend : text.length ≤ chunkEnd text chunkSize s
    · rw [if_pos hend]
      exact ⟨_, [], rfl, rfl, Or.inr (le_antisymm hle hend), covers_single hsize hs hend⟩
    · rw [if_neg hend]
      have hmore := not_le.mp hend
      have hpast : s + 4 * overlap < chunkEnd text chunkSize s := by
        by_contra hnot
        exact hgood s (.here s) ((stopsEarly_iff hoverlap s hs).mpr ⟨hmore, by omega⟩)
      have hback : overlapChars overlap = 4 * overlap := by
        simp [overlapChars, charsPerToken, mul_comm]
      obtain ⟨s', hs'⟩ : ∃ s' : ℕ, (s' : ℤ) = chunkEnd text chunkSize s - overlapChars overlap :=
        ⟨(chunkEnd text chunkSize s - overlapChars overlap).toNat, by omega⟩
      rw [← hs']
      obtain ⟨c, rest, hsplit, hstart, hstop, hcovers⟩ := ih (s := s') (by omega)
        (fun t ht => hgood t (.next hmore (hs' ▸ ht))) (by omega)
      rw [hsplit]
      refine ⟨_, _, rfl, rfl, Or.inl hpast, ?_⟩
      rw [← hstart] at hcovers
      exact hcovers.cons hsize hs (by omega) (by omega) (by omega)

theorem splitFrom_head {fuel : ℕ} {start : ℤ} (h : start < text.length) {chunks : List Chunk}
    (hsplit : splitFrom text chunkSize overlap fuel start = some chunks) :
    ∃ rest, chunks = chunkAt text chunkSize start :: rest := by
  cases fuel with
  | zero => simp [splitFrom] at hsplit
  | succ fuel =>
    rw [splitFrom_succ h] at hsplit
    split at hsplit
    · exact ⟨[], (Option.some.inj hsplit).symm⟩
    · obtain ⟨rest, -, rfl⟩ := Option.map_eq_some_iff.mp hsplit
      exact ⟨rest, rfl⟩

/-- While a window ends inside the text, the loop goes on. -/
theorem splitFrom_next {fuel s : ℕ} (hs : s < text.length) {chunks : List Chunk}
    (hsplit : splitFrom text chunkSize overlap (fuel + 1) s = some chunks)
    (hmore : chunkEnd text chunkSize s < text.length) :
    ∃ rest, splitFrom text chunkSize overlap fuel
        (chunkEnd text chunkSize s - overlapChars overlap) = some rest ∧
      chunks = chunkAt text chunkSize s :: rest := by
  rw [splitFrom_succ (by exact_mod_cast hs), if_neg (not_le.mpr hmore)] at hsplit
  obtain ⟨rest, hrest, hchunks⟩ := Option.map_eq_some_iff.mp hsplit
  exact ⟨rest, hrest, hchunks.symm⟩

/-- If the starts of the chunks increase, the loop goes on further ahead. -/
theorem splitFrom_ahead {fuel s : ℕ} (hs : s < text.length) {chunks : List Chunk}
    (hsplit : splitFrom text chunkSize overlap (fuel + 1) s = some chunks)
    (hincreasing : chunks.IsChain fun c d => c.start < d.start)
    (hmore : chunkEnd text chunkSize s < text.length) :
    s < chunkEnd text chunkSize s - overlapChars overlap := by
  obtain ⟨rest, hrest, rfl⟩ := splitFrom_next hs hsplit hmore
  by_cases hinside : chunkEnd text chunkSize s - overlapChars overlap < text.length
  · obtain ⟨tail, rfl⟩ := splitFrom_head hinside hrest
    exact (List.isChain_cons_cons.mp hincreasing).1
  · omega

/-- If the starts of the chunks increase, no window that the loop comes to stops early. -/
theorem not_stopsEarly (hoverlap : overlap < chunkSize) {fuel s : ℕ} (hs : s < text.length)
    {chunks : List Chunk} (hsplit : splitFrom text chunkSize overlap fuel s = some chunks)
    (hincreasing : chunks.IsChain fun c d => c.start < d.start) {t : ℤ}
    (ht : Comes text chunkSize overlap s t) : ¬ StopsEarly text chunkSize overlap t := by
  have hback : overlapChars overlap = 4 * overlap := by
    simp [overlapChars, charsPerToken, mul_comm]
  induction fuel generalizing s chunks with
  | zero => simp [splitFrom] at hsplit
  | succ fuel ih =>
    have hnot : ¬ StopsEarly text chunkSize overlap s := by
      rw [stopsEarly_iff hoverlap s hs]
      rintro ⟨hmore, hearly⟩
      have hahead := splitFrom_ahead hs hsplit hincreasing hmore
      omega
    generalize hstart : (s : ℤ) = start at ht
    cases ht with
    | here => exact hstart ▸ hnot
    | next hmore h =>
      subst hstart
      have hahead := splitFrom_ahead hs hsplit hincreasing hmore
      obtain ⟨rest, hrest, rfl⟩ := splitFrom_next hs hsplit hmore
      obtain ⟨s', hs'⟩ : ∃ s' : ℕ, (s' : ℤ) = chunkEnd text chunkSize s - overlapChars overlap :=
        ⟨(chunkEnd text chunkSize s - overlapChars overlap).toNat, by omega⟩
      rw [← hs'] at hrest h
      exact ih (s := s') (by omega) hrest hincreasing.tail h

/-- An empty text has no chunks, and no window that stops. -/
theorem splitsWell_nil (chunkSize overlap : ℕ) : SplitsWell [] chunkSize overlap ∧
    ∀ s, Comes [] chunkSize overlap 0 s → ¬ StopsEarly [] chunkSize overlap s := by
  constructor
  · refine ⟨1, [], rfl, ?_⟩
    constructor <;> simp
  · intro s hcomes
    have hend : chunkEnd [] chunkSize 0 = 0 := by simp [chunkEnd, chunkChars, charsPerToken]
    cases hcomes with
    | here =>
      rintro ⟨hlt, -⟩
      simp only [List.length_nil] at hlt
      omega
    | next hmore => simp [hend] at hmore

theorem splitsWell_iff_comes (hoverlap : overlap < chunkSize) :
    SplitsWell text chunkSize overlap ↔
      ∀ s, Comes text chunkSize overlap 0 s → ¬ StopsEarly text chunkSize overlap s := by
  by_cases hempty : text = []
  · subst hempty
    obtain ⟨hwell, hnone⟩ := splitsWell_nil chunkSize overlap
    exact iff_of_true hwell hnone
  · have hlength : 0 < text.length := List.length_pos_iff.mpr hempty
    constructor
    · rintro ⟨fuel, chunks, hsplit, hcovers⟩ t ht
      exact not_stopsEarly (s := 0) hoverlap hlength hsplit
        (hcovers.increasing.imp fun _ _ h => h.1) ht
    · intro hgood
      obtain ⟨c, rest, hsplit, -, -, hcovers⟩ := splitFrom_covers (s := 0) hoverlap hlength hgood
        (Nat.lt_succ_self (text.length - 0))
      exact ⟨_, _, hsplit, hcovers⟩

/-- A text whose only full stop lies right behind the middle of the first window. -/
def oneStop (chunkSize : ℕ) : List Char :=
  List.replicate (2 * chunkSize + 1) 'x' ++ '.' :: List.replicate (2 * chunkSize) 'x'

theorem stopAt_oneStop (i : ℕ) : StopAt (oneStop chunkSize) i ↔ i = 2 * chunkSize + 1 := by
  unfold StopAt oneStop
  rcases Nat.lt_trichotomy i (2 * chunkSize + 1) with hlt | rfl | hgt
  · simp [List.getElem?_append, hlt, hlt.ne]
  · simp
  · obtain ⟨k, rfl⟩ : ∃ k, i = 2 * chunkSize + 1 + (k + 1) := ⟨i - (2 * chunkSize + 2), by omega⟩
    simp [List.getElem?_append, List.getElem?_replicate]
    split_ifs <;> simp

theorem stopsEarly_oneStop (hlarge : chunkSize < 2 * overlap) :
    StopsEarly (oneStop chunkSize) chunkSize overlap 0 := by
  refine ⟨?_, ⟨2 * chunkSize + 1, by omega, by omega, (stopAt_oneStop _).mpr rfl⟩, ?_⟩
  · have hlength : (oneStop chunkSize).length = 4 * chunkSize + 2 := by
      simp [oneStop]
      omega
    omega
  · intro i hi _ hat
    have hplace := (stopAt_oneStop i).mp hat
    omega

/-- A text is split into chunks that cover it exactly if no window that the loop comes to stops
early. No window of any text does exactly if the overlap is at most half of a chunk. -/
theorem splitsWell_iff (hoverlap : overlap < chunkSize) :
    (∀ text, SplitsWell text chunkSize overlap ↔
      ∀ s, Comes text chunkSize overlap 0 s → ¬ StopsEarly text chunkSize overlap s) ∧
    ((∀ text, SplitsWell text chunkSize overlap) ↔ 2 * overlap ≤ chunkSize) := by
  refine ⟨fun text => splitsWell_iff_comes hoverlap, ?_, ?_⟩
  · intro hall
    by_contra hlarge
    exact (splitsWell_iff_comes hoverlap).mp (hall (oneStop chunkSize)) 0 (.here 0)
      (stopsEarly_oneStop (by omega))
  · intro hsmall text
    rw [splitsWell_iff_comes hoverlap]
    rintro s - ⟨-, ⟨i, hbehind, hearly, -⟩, -⟩
    omega

theorem splitsWell_iff_default :
    (∀ text, SplitsWell text 512 64 ↔ ∀ s, Comes text 512 64 0 s → ¬ StopsEarly text 512 64 s) ∧
    ((∀ text, SplitsWell text 512 64) ↔ 2 * 64 ≤ 512) := splitsWell_iff (by decide)

/-- Where the overlap takes the loop back to the start of the text, it never ends. -/
theorem splitFrom_oneStop (fuel : ℕ) : splitFrom (oneStop 3) 3 2 fuel 0 = none := by
  have hend : chunkEnd (oneStop 3) 3 0 = 8 := by decide
  induction fuel with
  | zero => rfl
  | succ fuel ih =>
    rw [splitFrom_succ (by decide), hend, if_neg (by decide)]
    exact Option.map_eq_none_iff.mpr ih

theorem not_splits_well : ¬ ∀ (text : List Char) (chunkSize overlap : ℕ), overlap < chunkSize →
    SplitsWell text chunkSize overlap := by
  intro h
  obtain ⟨fuel, chunks, hsplit, -⟩ := h (oneStop 3) 3 2 (by decide)
  have hnone : splitText (oneStop 3) 3 2 fuel = none := splitFrom_oneStop fuel
  rw [hnone] at hsplit
  cases hsplit

end Split

end ControlFabric.Chunking
