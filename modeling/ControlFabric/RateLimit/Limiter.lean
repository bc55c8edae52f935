import ControlFabric.Lib.SortedSet
import ControlFabric.Lib.Run

/-! The tenant rate limiter, with its sorted sets in Redis or its lists in memory. A clock reading
is kept by its exact value in seconds; Redis answers every command and has the same clock. -/
namespace ControlFabric.RateLimit
open Lib

/-- `TIER_LIMITS`; `-1` is unlimited. -/
def tierLimits : List (String × List (String × ℤ)) :=
  [("starter", [("requests_per_minute", 100), ("reconciliation_per_hour", 20),
      ("gate_submissions_per_minute", 50)]),
    ("growth", [("requests_per_minute", 500), ("reconciliation_per_hour", 100),
      ("gate_submissions_per_minute", 200)]),
    ("enterprise", [("requests_per_minute", 2000), ("reconciliation_per_hour", -1),
      ("gate_submissions_per_minute", 1000)]),
    ("default", [("requests_per_minute", 200), ("reconciliation_per_hour", 50),
      ("gate_submissions_per_minute", 100)])]

def defaultLimits : List (String × ℤ) :=
  [("requests_per_minute", 200), ("reconciliation_per_hour", 50),
    ("gate_submissions_per_minute", 100)]

structure TenantRateLimiter where
  counters : Dict String (Dict String (List ℚ≥0))
  tenantTiers : Dict String String
  redis : Option SortedSets

/-- A call of `check` and the clock reading it takes. -/
structure CheckCall where
  tenantId : String
  limitType : String
  now : ℚ≥0
  deriving DecidableEq

/-- What a call counts for. -/
def CheckCall.pair (c : CheckCall) : String × String := (c.tenantId, c.limitType)

/-- `"minute" in limit_type`. -/
def perMinute (limitType : String) : Bool := "minute".toList <:+: limitType.toList

def windowSeconds (limitType : String) : ℕ := if perMinute limitType then 60 else 3600

/-- The key of a tenant and a limit type in Redis. -/
def redisKey (pair : String × String) : String := s!"{pair.1}:{pair.2}"

/-- The time at or before which a call is out of the window. -/
def CheckCall.cutoff (c : CheckCall) : ℚ := c.now - windowSeconds c.limitType

def verdict (count : ℕ) (limit : ℤ) (limitType : String) : Bool × String :=
  if limit < count then (false, s!"Rate limit exceeded: {count}/{limit} {limitType}")
  else (true, s!"{count}/{limit}")

namespace TenantRateLimiter

def limitFor (tenantTiers : Dict String String) (pair : String × String) : ℤ :=
  let tier := tenantTiers.getD pair.1 "default"
  let limits := (tierLimits.lookup tier).getD defaultLimits
  (limits.lookup pair.2).getD 200

/-- `self._counters[tenant_id][limit_type]`. -/
def timestamps (l : TenantRateLimiter) (pair : String × String) : List ℚ≥0 :=
  (l.counters.getD pair.1 Dict.empty).getD pair.2 []

def setTimestamps (l : TenantRateLimiter) (pair : String × String) (ts : List ℚ≥0) :
    TenantRateLimiter :=
  { l with counters := l.counters.set pair.1 ((l.counters.getD pair.1 Dict.empty).set pair.2 ts) }

/-- The members the pipeline leaves under the key: the call's own is added, under the text of the
clock reading, before what is out of the window is removed. -/
def pipeline (str : ℚ≥0 → String) (c : CheckCall) (redis : SortedSets) : SortedSet :=
  ((redis.live c.now (redisKey c.pair)).zadd (str c.now) c.now).zremrangebyscore 0 c.cutoff

def check (str : ℚ≥0 → String) (c : CheckCall) (l : TenantRateLimiter) :
    (Bool × String) × TenantRateLimiter :=
  let limit := limitFor l.tenantTiers c.pair
  if limit = -1 then ((true, "unlimited"), l)
  else
    match l.redis with
    | some redis =>
      let members := pipeline str c redis
      (verdict members.zcard limit c.limitType,
        { l with
          redis := some
            (redis.write c.now (redisKey c.pair) members (windowSeconds c.limitType + 10)) })
    | none =>
      let kept := ((l.timestamps c.pair).filter fun (t : ℚ≥0) => c.cutoff < t) ++ [c.now]
      (verdict kept.length limit c.limitType, l.setTimestamps c.pair kept)

/-- The limiter without Redis. -/
def inMemory (tenantTiers : Dict String String) : TenantRateLimiter :=
  ⟨Dict.empty, tenantTiers, none⟩

def onRedis (tenantTiers : Dict String String) : TenantRateLimiter :=
  ⟨Dict.empty, tenantTiers, some .empty⟩

end TenantRateLimiter

open TenantRateLimiter

def checkStep (str : ℚ≥0 → String) (c : CheckCall) (l : TenantRateLimiter) : TenantRateLimiter :=
  (check str c l).2

/-- A call with its result. -/
def answer (str : ℚ≥0 → String) (c : CheckCall) (l : TenantRateLimiter) :
    List (CheckCall × (Bool × String)) := [(c, (check str c l).1)]

/-- The calls of a run with their results. -/
def answers (str : ℚ≥0 → String) (l : TenantRateLimiter) (calls : List CheckCall) :
    List (CheckCall × (Bool × String)) := trace (checkStep str) (answer str) l calls

/-- The clock never goes back. -/
def ClockRuns (calls : List CheckCall) : Prop := calls.Pairwise fun b c => b.now ≤ c.now

instance : DecidablePred ClockRuns := fun _ => inferInstanceAs (Decidable (List.Pairwise _ _))

@[simp] theorem tenantTiers_step (str : ℚ≥0 → String) (c : CheckCall) (l : TenantRateLimiter) :
    (checkStep str c l).tenantTiers = l.tenantTiers := by
  simp only [checkStep, check]
  split
  · rfl
  · split <;> rfl

theorem verdict_allowed {count : ℕ} {limit : ℤ} {limitType : String} :
    (verdict count limit limitType).1 = true ↔ (count : ℤ) ≤ limit := by
  unfold verdict
  split
  next h => simpa using h
  next h => simpa using h

theorem timestamps_set (l : TenantRateLimiter) (pair pair' : String × String) (ts : List ℚ≥0) :
    (l.setTimestamps pair ts).timestamps pair' =
      if pair' = pair then ts else l.timestamps pair' := by
  unfold timestamps setTimestamps
  rw [Dict.getD_set]
  by_cases htenant : pair'.1 = pair.1
  · rw [if_pos htenant, Dict.getD_set]
    by_cases htype : pair'.2 = pair.2
    · rw [if_pos htype, if_pos (Prod.ext htenant htype)]
    · rw [if_neg htype, if_neg fun h => htype (congrArg Prod.snd h), htenant]
  · rw [if_neg htenant, if_neg fun h => htenant (congrArg Prod.fst h)]

end ControlFabric.RateLimit

/-! The sliding window in memory. What is pruned at a call is out of every later window, so that the
pruned list counts the same as the full history. -/
namespace ControlFabric.RateLimit
open Lib TenantRateLimiter

/-- The clock readings of the calls of a pair. -/
def times (pair : String × String) (calls : List CheckCall) : List ℚ≥0 :=
  (calls.filter fun b => b.pair = pair).map CheckCall.now

/-- The calls of the same pair in the half-open window that ends at the call, which is the last of
them. -/
def inWindow (before : List CheckCall) (c : CheckCall) : List CheckCall :=
  (before ++ [c]).filter fun b => b.pair = c.pair ∧ c.cutoff < b.now ∧ b.now ≤ c.now

theorem times_concat (pair : String × String) (calls : List CheckCall) (c : CheckCall) :
    times pair (calls ++ [c]) = times pair calls ++ if c.pair = pair then [c.now] else [] := by
  by_cases h : c.pair = pair <;> simp [times, h]

theorem mem_times {pair : String × String} {calls : List CheckCall} {t : ℚ≥0} :
    t ∈ times pair calls ↔ ∃ b ∈ calls, b.pair = pair ∧ b.now = t := by
  simp [times, and_assoc]

theorem windowSeconds_pos (limitType : String) : (0 : ℚ) < windowSeconds limitType := by
  unfold windowSeconds
  split <;> norm_num

theorem cutoff_lt (c : CheckCall) : c.cutoff < c.now := by
  have hpos := windowSeconds_pos c.limitType
  unfold CheckCall.cutoff
  linarith

theorem map_inWindow {before : List CheckCall} {c : CheckCall}
    (hlast : ∀ b ∈ before, b.now ≤ c.now) : (inWindow before c).map CheckCall.now =
      (times c.pair before ++ [c.now]).filter fun (t : ℚ≥0) => c.cutoff < t := by
  have hall : ∀ b ∈ before ++ [c], b.now ≤ c.now := by
    intro b hb
    rcases List.mem_append.mp hb with hold | hnew
    · exact hlast b hold
    · rw [List.mem_singleton.mp hnew]
  have htimes : times c.pair before ++ [c.now] = times c.pair (before ++ [c]) := by
    rw [times_concat, if_pos rfl]
  rw [htimes, inWindow, times, List.filter_map, List.filter_filter]
  congr 1
  apply List.filter_congr
  intro b hb
  simp [hall b hb, and_comm]

/-- The readings of a pair that its last call has not pruned. -/
def recent (pair : String × String) (calls : List CheckCall) : List ℚ≥0 :=
  (times pair calls).filter fun (t : ℚ≥0) =>
    ∀ last ∈ times pair calls, (last : ℚ) - windowSeconds pair.2 < t

section Prune
variable {calls : List CheckCall} {c : CheckCall} (hlast : ∀ b ∈ calls, b.now ≤ c.now)
include hlast

/-- The latest cutoff is the one that counts. -/
theorem forall_cutoff_iff (t : ℚ≥0) :
    (∀ last ∈ times c.pair calls ++ [c.now], (last : ℚ) - windowSeconds c.pair.2 < t) ↔
      c.cutoff < t := by
  constructor
  · intro h
    exact h c.now (List.mem_append_right _ (List.mem_singleton_self _))
  · intro h last hmem
    have hle : (last : ℚ) ≤ c.now := by
      rcases List.mem_append.mp hmem with hold | hnew
      · obtain ⟨b, hb, -, rfl⟩ := mem_times.mp hold
        exact_mod_cast hlast b hb
      · rw [List.mem_singleton.mp hnew]
    exact lt_of_le_of_lt (sub_le_sub_right hle _) h

/-- What the call prunes from the recent readings it would prune from all of them. -/
theorem filter_recent : (recent c.pair calls).filter (fun (t : ℚ≥0) => c.cutoff < t) =
    (times c.pair calls).filter fun (t : ℚ≥0) => c.cutoff < t := by
  rw [recent, List.filter_filter]
  apply List.filter_congr
  intro t _
  simp only [Bool.and_eq_left_iff_imp, decide_eq_true_eq]
  intro ht last hmem
  exact (forall_cutoff_iff hlast t).mpr ht last (List.mem_append_left _ hmem)

theorem recent_concat : recent c.pair (calls ++ [c]) =
    (times c.pair calls ++ [c.now]).filter fun (t : ℚ≥0) => c.cutoff < t := by
  rw [recent, times_concat, if_pos rfl]
  apply List.filter_congr
  intro t _
  exact decide_eq_decide.mpr (forall_cutoff_iff hlast t)

end Prune

theorem recent_other {pair : String × String} {c : CheckCall} (h : c.pair ≠ pair)
    (calls : List CheckCall) : recent pair (calls ++ [c]) = recent pair calls := by
  rw [recent, times_concat, if_neg h, List.append_nil]
  rfl

/-- For each limited pair the limiter keeps the recent readings of the calls made. -/
def Remembers (l : TenantRateLimiter) (calls : List CheckCall) : Prop :=
  ∀ pair, limitFor l.tenantTiers pair ≠ -1 → l.timestamps pair = recent pair calls

section InMemory
variable (str : ℚ≥0 → String) {l : TenantRateLimiter} {c : CheckCall}

theorem check_unlimited (h : limitFor l.tenantTiers c.pair = -1) :
    check str c l = ((true, "unlimited"), l) := if_pos h

theorem check_inMemory (hredis : l.redis = none) (h : limitFor l.tenantTiers c.pair ≠ -1) :
    check str c l =
      (verdict (((l.timestamps c.pair).filter fun (t : ℚ≥0) => c.cutoff < t) ++ [c.now]).length
          (limitFor l.tenantTiers c.pair) c.limitType,
        l.setTimestamps c.pair
          (((l.timestamps c.pair).filter fun (t : ℚ≥0) => c.cutoff < t) ++ [c.now])) := by
  simp only [check, if_neg h, hredis]

theorem redis_step (hredis : l.redis = none) : (checkStep str c l).redis = none := by
  by_cases h : limitFor l.tenantTiers c.pair = -1
  · rw [checkStep, check_unlimited str h, hredis]
  · rw [checkStep, check_inMemory str hredis h]
    exact hredis

theorem Remembers.prune {calls : List CheckCall} (hl : Remembers l calls)
    (hlast : ∀ b ∈ calls, b.now ≤ c.now) (h : limitFor l.tenantTiers c.pair ≠ -1) :
    ((l.timestamps c.pair).filter fun (t : ℚ≥0) => c.cutoff < t) ++ [c.now] =
      (inWindow calls c).map CheckCall.now := by
  rw [hl c.pair h, filter_recent hlast, map_inWindow hlast, List.filter_append]
  simp [cutoff_lt]

theorem Remembers.step {calls : List CheckCall} (hl : Remembers l calls) (hredis : l.redis = none)
    (hlast : ∀ b ∈ calls, b.now ≤ c.now) : Remembers (checkStep str c l) (calls ++ [c]) := by
  intro pair hpair
  rw [tenantTiers_step] at hpair
  by_cases hsame : c.pair = pair
  · subst hsame
    rw [checkStep, check_inMemory str hredis hpair, timestamps_set, if_pos rfl,
      hl.prune hlast hpair, map_inWindow hlast, recent_concat hlast]
  · rw [recent_other hsame, ← hl pair hpair]
    by_cases hc : limitFor l.tenantTiers c.pair = -1
    · rw [checkStep, check_unlimited str hc]
    · rw [checkStep, check_inMemory str hredis hc, timestamps_set, if_neg fun h => hsame h.symm]

/-- A call is allowed when it is unlimited or the calls in its window are within the limit. -/
theorem Remembers.allowed_iff {calls : List CheckCall} (hl : Remembers l calls)
    (hredis : l.redis = none) (hlast : ∀ b ∈ calls, b.now ≤ c.now) :
    (check str c l).1.1 = true ↔ limitFor l.tenantTiers c.pair = -1 ∨
      ((inWindow calls c).length : ℤ) ≤ limitFor l.tenantTiers c.pair := by
  by_cases h : limitFor l.tenantTiers c.pair = -1
  · rw [check_unlimited str h]
    simp [h]
  · rw [check_inMemory str hredis h, verdict_allowed, hl.prune hlast h, List.length_map]
    simp [h]

theorem clockRuns_concat {calls : List CheckCall} (h : ClockRuns (calls ++ [c])) :
    ClockRuns calls ∧ ∀ b ∈ calls, b.now ≤ c.now := by
  obtain ⟨hcalls, -, hlast⟩ := List.pairwise_append.mp h
  exact ⟨hcalls, fun b hb => hlast b hb c (List.mem_singleton_self c)⟩

theorem tenantTiers_run (calls : List CheckCall) :
    (run (checkStep str) l calls).tenantTiers = l.tenantTiers := by
  induction calls generalizing l with
  | nil => rfl
  | cons c calls ih => rw [run_cons, ih, tenantTiers_step]

theorem redis_run (hredis : l.redis = none) (calls : List CheckCall) :
    (run (checkStep str) l calls).redis = none :=
  run_invariant (checkStep str) (I := fun l => l.redis = none) (fun _ _ _ h => redis_step str h)
    hredis

theorem remembers_run (tenantTiers : Dict String String) {calls : List CheckCall}
    (hclock : ClockRuns calls) :
    Remembers (run (checkStep str) (inMemory tenantTiers) calls) calls := by
  induction calls using List.reverseRecOn with
  | nil =>
    intro pair _
    rfl
  | append_singleton calls c ih =>
    obtain ⟨hcalls, hlast⟩ := clockRuns_concat hclock
    rw [run_concat]
    exact (ih hcalls).step str (redis_run str rfl calls) hlast

theorem allowed_iff_inWindow (tenantTiers : Dict String String) {before after : List CheckCall}
    (hclock : ClockRuns (before ++ c :: after)) :
    (check str c (run (checkStep str) (inMemory tenantTiers) before)).1.1 = true ↔
      limitFor tenantTiers c.pair = -1 ∨
        ((inWindow before c).length : ℤ) ≤ limitFor tenantTiers c.pair := by
  obtain ⟨hbefore, -, hlast⟩ := List.pairwise_append.mp hclock
  have hiff := (remembers_run str tenantTiers hbefore).allowed_iff str (redis_run str rfl before)
    fun b hb => hlast b hb c List.mem_cons_self
  rwa [tenantTiers_run] at hiff

end InMemory

/-! ### What the law gives -/

/-- The results are those of the calls, in their order. -/
theorem map_answers (str : ℚ≥0 → String) (l : TenantRateLimiter) (calls : List CheckCall) :
    (answers str l calls).map Prod.fst = calls := by
  unfold answers
  induction calls generalizing l with
  | nil => rfl
  | cons c calls ih =>
    rw [trace, List.map_append, ih]
    rfl

theorem limitFor_nonneg {tenantTiers : Dict String String} {pair : String × String}
    (h : limitFor tenantTiers pair ≠ -1) : 0 ≤ limitFor tenantTiers pair := by
  have htables : ∀ limits ∈ defaultLimits :: tierLimits.map Prod.snd, ∀ p ∈ limits,
      p.2 = -1 ∨ 0 ≤ p.2 := by decide
  let limits := (tierLimits.lookup (tenantTiers.getD pair.1 "default")).getD defaultLimits
  have hlimits : limits ∈ defaultLimits :: tierLimits.map Prod.snd := by
    show (tierLimits.lookup _).getD defaultLimits ∈ _
    cases hlookup : tierLimits.lookup (tenantTiers.getD pair.1 "default") with
    | none => exact List.mem_cons_self
    | some found =>
      obtain ⟨before, after, hsplit, -⟩ := List.lookup_eq_some_iff.mp hlookup
      apply List.mem_cons_of_mem
      rw [hsplit]
      simp
  have heq : limitFor tenantTiers pair = (limits.lookup pair.2).getD 200 := rfl
  rw [heq] at h ⊢
  cases hlookup : limits.lookup pair.2 with
  | none => simp
  | some limit =>
    obtain ⟨before, after, hsplit, -⟩ := List.lookup_eq_some_iff.mp hlookup
    rw [hlookup] at h
    exact (htables limits hlimits (pair.2, limit) (by rw [hsplit]; simp)).resolve_left h

/-- The allowed calls of a pair in the half-open window that ends at `a`. -/
def allowedIn (pair : String × String) (a : ℚ) (results : List (CheckCall × (Bool × String))) :
    List (CheckCall × (Bool × String)) :=
  results.filter fun r => r.2.1 ∧ r.1.pair = pair ∧ a - windowSeconds pair.2 < r.1.now ∧ r.1.now ≤ a

/-- The calls allowed in a window that ends no earlier than a call are in the window of that call. -/
theorem length_allowedIn_before (str : ℚ≥0 → String) (l : TenantRateLimiter) {calls : List CheckCall}
    {c : CheckCall} (hlast : ∀ b ∈ calls, b.now ≤ c.now) {a : ℚ} (ha : (c.now : ℚ) ≤ a) :
    (allowedIn c.pair a (answers str l calls)).length + 1 ≤ (inWindow calls c).length := by
  let q (b : CheckCall) : Bool := b.pair = c.pair ∧ c.cutoff < b.now ∧ b.now ≤ c.now
  have hcalls : (allowedIn c.pair a (answers str l calls)).length ≤ calls.countP q :=
    calc (allowedIn c.pair a (answers str l calls)).length
      _ = (answers str l calls).countP _ := List.countP_eq_length_filter.symm
      _ ≤ (answers str l calls).countP (q ∘ Prod.fst) := by
        apply List.countP_mono_left
        intro r hr hin
        obtain ⟨-, hpair, hlow, -⟩ := of_decide_eq_true hin
        have hmem : r.1 ∈ calls := by
          rw [← map_answers str l calls]
          exact List.mem_map_of_mem hr
        have hcutoff : c.cutoff < r.1.now :=
          lt_of_le_of_lt (sub_le_sub_right ha (windowSeconds c.pair.2 : ℚ)) hlow
        exact decide_eq_true ⟨hpair, hcutoff, hlast r.1 hmem⟩
      _ = ((answers str l calls).map Prod.fst).countP q := List.countP_map.symm
      _ = calls.countP q := by rw [map_answers]
  have hself : q c = true := decide_eq_true ⟨rfl, cutoff_lt c, le_rfl⟩
  have hwindow : (inWindow calls c).length = calls.countP q + 1 := by
    rw [inWindow, ← List.countP_eq_length_filter, List.countP_append]
    show calls.countP q + [c].countP q = _
    rw [List.countP_singleton, if_pos hself]
  omega

/-- Of the calls allowed in a window, the last one has counted all the others. -/
theorem length_allowedIn_le (str : ℚ≥0 → String) (tenantTiers : Dict String String)
    {calls : List CheckCall} (hclock : ClockRuns calls) {pair : String × String}
    (hpair : limitFor tenantTiers pair ≠ -1) (a : ℚ) :
    ((allowedIn pair a (answers str (inMemory tenantTiers) calls)).length : ℤ) ≤
      limitFor tenantTiers pair := by
  induction calls using List.reverseRecOn with
  | nil => exact limitFor_nonneg hpair
  | append_singleton calls c ih =>
    obtain ⟨hcalls, hlast⟩ := clockRuns_concat hclock
    let l := run (checkStep str) (inMemory tenantTiers) calls
    have hanswers : answers str (inMemory tenantTiers) (calls ++ [c]) =
        answers str (inMemory tenantTiers) calls ++ [(c, (check str c l).1)] :=
      trace_concat (checkStep str) (answer str) _ calls c
    rw [hanswers, allowedIn, List.filter_append, List.length_append]
    by_cases hc : (check str c l).1.1 = true ∧ c.pair = pair ∧
        a - windowSeconds pair.2 < c.now ∧ c.now ≤ a
    · obtain ⟨hallowed, rfl, -, hhigh⟩ := hc
      have hwindow := ((allowed_iff_inWindow str tenantTiers hclock).mp hallowed).resolve_left hpair
      have hbefore := length_allowedIn_before str (inMemory tenantTiers) hlast hhigh
      have hone := List.length_filter_le (fun r : CheckCall × (Bool × String) => r.2.1 ∧
        r.1.pair = c.pair ∧ a - windowSeconds c.pair.2 < r.1.now ∧ r.1.now ≤ a)
        [(c, (check str c l).1)]
      rw [List.length_singleton] at hone
      unfold allowedIn at hbefore
      omega
    · rw [List.filter_cons_of_neg (by simpa using hc), List.filter_nil]
      exact ih hcalls

/-- What a pair is answered depends on its own calls only. -/
theorem filter_answers (str : ℚ≥0 → String) (pair : String × String) (calls : List CheckCall)
    {l l' : TenantRateLimiter} (hredis : l.redis = none) (hredis' : l'.redis = none)
    (htiers : l.tenantTiers = l'.tenantTiers) (htimes : l.timestamps pair = l'.timestamps pair) :
    (answers str l calls).filter (fun r => r.1.pair = pair) =
      answers str l' (calls.filter fun c => c.pair = pair) := by
  induction calls generalizing l l' with
  | nil => rfl
  | cons c calls ih =>
    show ([(c, (check str c l).1)] ++ answers str (checkStep str c l) calls).filter _ = _
    rw [List.filter_append]
    by_cases hpair : c.pair = pair
    · subst hpair
      have hcheck : (check str c l).1 = (check str c l').1 := by
        by_cases h : limitFor l'.tenantTiers c.pair = -1
        · rw [check_unlimited str h, check_unlimited str (by rwa [htiers])]
        · rw [check_inMemory str hredis' h, check_inMemory str hredis (by rwa [htiers]), htiers,
            htimes]
      have htimes' : (checkStep str c l).timestamps c.pair =
          (checkStep str c l').timestamps c.pair := by
        by_cases h : limitFor l'.tenantTiers c.pair = -1
        · rw [checkStep, checkStep, check_unlimited str h, check_unlimited str (by rwa [htiers])]
          exact htimes
        · rw [checkStep, checkStep, check_inMemory str hredis' h,
            check_inMemory str hredis (by rwa [htiers]), timestamps_set, timestamps_set, htimes]
      rw [ih (redis_step str hredis) (redis_step str hredis')
        (by rw [tenantTiers_step, tenantTiers_step, htiers]) htimes',
        List.filter_cons_of_pos (by simp), hcheck]
      simp [answers, trace, answer]
    · have htimes' : (checkStep str c l).timestamps pair = l'.timestamps pair := by
        rw [← htimes]
        by_cases h : limitFor l.tenantTiers c.pair = -1
        · rw [checkStep, check_unlimited str h]
        · rw [checkStep, check_inMemory str hredis h, timestamps_set,
            if_neg fun h => hpair h.symm]
      rw [ih (redis_step str hredis) hredis' (by rw [tenantTiers_step, htiers]) htimes',
        List.filter_cons_of_neg (by simpa using hpair)]
      simp [hpair]

/-- In memory, with fixed tiers and a clock that never goes back: a call is allowed exactly when it
is unlimited or its window holds at most as many calls as the limit, itself included; no window
holds more allowed calls than the limit; and each pair is answered as if no other called. -/
theorem sliding_window (str : ℚ≥0 → String) (tenantTiers : Dict String String)
    (calls : List CheckCall) (hclock : ClockRuns calls) :
    (∀ before c after, calls = before ++ c :: after →
      ((check str c (run (checkStep str) (inMemory tenantTiers) before)).1.1 = true ↔
        limitFor tenantTiers c.pair = -1 ∨
          ((inWindow before c).length : ℤ) ≤ limitFor tenantTiers c.pair)) ∧
    (∀ pair, limitFor tenantTiers pair ≠ -1 → ∀ a : ℚ,
      ((allowedIn pair a (answers str (inMemory tenantTiers) calls)).length : ℤ) ≤
        limitFor tenantTiers pair) ∧
    ∀ pair, (answers str (inMemory tenantTiers) calls).filter (fun r => r.1.pair = pair) =
      answers str (inMemory tenantTiers) (calls.filter fun c => c.pair = pair) := by
  refine ⟨?_, fun pair hpair a => length_allowedIn_le str tenantTiers hclock hpair a,
    fun pair => filter_answers str pair calls rfl rfl rfl rfl⟩
  rintro before c after rfl
  exact allowed_iff_inWindow str tenantTiers hclock

/-- Readings at the two edges of a window of one minute. -/
def edgeCalls : List CheckCall :=
  [⟨"acme", "requests_per_minute", 0⟩, ⟨"acme", "requests_per_minute", 30⟩,
    ⟨"umbrella", "reconciliation_per_hour", 30⟩, ⟨"acme", "requests_per_minute", 60⟩]

/-- The text of a reading in whole seconds. -/
def wholeSeconds (t : ℚ≥0) : String := s!"{t.num / t.den}.0"

theorem sliding_window_edge :
    (∀ before c after, edgeCalls = before ++ c :: after →
      ((check wholeSeconds c (run (checkStep wholeSeconds) (inMemory .empty) before)).1.1 = true ↔
        limitFor .empty c.pair = -1 ∨
          ((inWindow before c).length : ℤ) ≤ limitFor .empty c.pair)) ∧
    (∀ pair, limitFor .empty pair ≠ -1 → ∀ a : ℚ,
      ((allowedIn pair a (answers wholeSeconds (inMemory .empty) edgeCalls)).length : ℤ) ≤
        limitFor .empty pair) ∧
    ∀ pair, (answers wholeSeconds (inMemory .empty) edgeCalls).filter (fun r => r.1.pair = pair) =
      answers wholeSeconds (inMemory .empty) (edgeCalls.filter fun c => c.pair = pair) :=
  sliding_window wholeSeconds .empty edgeCalls (by decide)

end ControlFabric.RateLimit
