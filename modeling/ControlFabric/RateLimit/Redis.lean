import ControlFabric.RateLimit.Limiter
import ControlFabric.RateLimit.Slide

/-! The sliding window in Redis. Members are named by the text of the clock reading, so that calls
at one reading count once. -/
namespace ControlFabric.RateLimit
open Lib TenantRateLimiter

section Keys
variable (tenantTiers : Dict String String)

/-- No limited call of another pair goes by the key of the pair. -/
def OwnKey (pair : String × String) (calls : List CheckCall) : Prop :=
  ∀ b ∈ calls, limitFor tenantTiers b.pair ≠ -1 → redisKey b.pair = redisKey pair → b.pair = pair

/-- Different limited pairs have different keys; for an unlimited one no key is written. -/
def SeparateKeys (calls : List CheckCall) : Prop :=
  ∀ c ∈ calls, limitFor tenantTiers c.pair ≠ -1 → OwnKey tenantTiers c.pair calls

instance (pair : String × String) (calls : List CheckCall) :
    Decidable (OwnKey tenantTiers pair calls) :=
  List.decidableBAll ..

instance : DecidablePred (SeparateKeys tenantTiers) := fun _ => List.decidableBAll ..

end Keys

/-- The different clock readings in the window of the call. -/
def readings (before : List CheckCall) (c : CheckCall) : List ℚ≥0 :=
  ((inWindow before c).map CheckCall.now).dedup

/-- What is stored for a pair: its recent readings, in a set that outlives their window. -/
structure StoredFor (str : ℚ≥0 → String) (r : SortedSets) (pair : String × String)
    (calls : List CheckCall) : Prop where
  holds : (r.sets.getD (redisKey pair) Dict.empty).Holds str (recent pair calls)
  outlives : ∀ deadline ∈ r.deadlines.get? (redisKey pair), ∀ t ∈ times pair calls,
    t + (windowSeconds pair.2 + 10 : ℕ) ≤ deadline

/-- For each limited pair with a key of its own Redis stores the recent readings. -/
def Stores (str : ℚ≥0 → String) (l : TenantRateLimiter) (calls : List CheckCall) : Prop :=
  ∃ r, l.redis = some r ∧ ∀ pair, limitFor l.tenantTiers pair ≠ -1 →
    OwnKey l.tenantTiers pair calls →
    StoredFor str r pair calls

section Redis
variable {str : ℚ≥0 → String} {r : SortedSets} {l : TenantRateLimiter} {c : CheckCall}
  {calls : List CheckCall}

/-- What the pipeline leaves under the key are the readings in the window. -/
theorem StoredFor.pipeline (h : StoredFor str r c.pair calls)
    (hlast : ∀ b ∈ calls, b.now ≤ c.now)
    (hstr : ∀ b ∈ calls, str b.now = str c.now → b.now = c.now) :
    (pipeline str c r).Holds str ((inWindow calls c).map CheckCall.now) := by
  rw [map_inWindow hlast]
  unfold TenantRateLimiter.pipeline SortedSets.live
  split
  next hexpired =>
    obtain ⟨deadline, hdeadline, hle⟩ := hexpired
    -- What has expired is out of the window.
    have hnone : (times c.pair calls).filter (fun (t : ℚ≥0) => c.cutoff < t) = [] := by
      apply List.filter_eq_nil_iff.mpr
      intro t ht
      have hdue : t + (windowSeconds c.limitType + 10 : ℕ) ≤ c.now :=
        (h.outlives deadline hdeadline t ht).trans hle
      have hdue' : (t : ℚ) + (windowSeconds c.limitType + 10) ≤ c.now := by exact_mod_cast hdue
      have hcutoff : (t : ℚ) ≤ c.cutoff := by
        unfold CheckCall.cutoff
        linarith
      simpa using hcutoff
    rw [List.filter_append, hnone, List.nil_append]
    exact ((SortedSet.holds_empty str).zadd (by simp)).zremrangebyscore c.cutoff
  next =>
    have hinj : ∀ t ∈ recent c.pair calls, str t = str c.now → t = c.now := by
      intro t ht
      obtain ⟨b, hb, -, rfl⟩ := mem_times.mp (List.mem_filter.mp ht).1
      exact hstr b hb
    have hkept := (h.holds.zadd hinj).zremrangebyscore c.cutoff
    rwa [List.filter_append, filter_recent hlast, ← List.filter_append] at hkept

theorem check_redis (str : ℚ≥0 → String) (hredis : l.redis = some r)
    (h : limitFor l.tenantTiers c.pair ≠ -1) : check str c l =
      (verdict (pipeline str c r).zcard (limitFor l.tenantTiers c.pair) c.limitType,
        { l with redis := some (r.write c.now (redisKey c.pair) (pipeline str c r)
            (windowSeconds c.limitType + 10)) }) := by
  simp only [check, if_neg h, hredis]

theorem OwnKey.before {tenantTiers : Dict String String} {pair : String × String}
    (h : OwnKey tenantTiers pair (calls ++ [c])) : OwnKey tenantTiers pair calls := fun b hb => h b (List.mem_append_left _ hb)

theorem Stores.step (hl : Stores str l calls) (hlast : ∀ b ∈ calls, b.now ≤ c.now)
    (hstr : ∀ b ∈ calls, str b.now = str c.now → b.now = c.now) :
    Stores str (checkStep str c l) (calls ++ [c]) := by
  obtain ⟨r, hredis, hstored⟩ := hl
  by_cases hc : limitFor l.tenantTiers c.pair = -1
  · rw [checkStep, check_unlimited str hc]
    refine ⟨r, hredis, fun pair hpair hown => ?_⟩
    have hne : c.pair ≠ pair := by
      rintro rfl
      exact hpair hc
    obtain ⟨hholds, houtlives⟩ := hstored pair hpair hown.before
    constructor
    · rwa [recent_other hne]
    · rwa [times_concat, if_neg hne, List.append_nil]
  · rw [checkStep, check_redis str hredis hc]
    refine ⟨_, rfl, fun pair hpair hown => ?_⟩
    by_cases hsame : c.pair = pair
    · subst hsame
      have hpipeline := (hstored c.pair hpair hown.before).pipeline hlast hstr
      constructor
      · rw [recent_concat hlast, ← map_inWindow hlast, SortedSets.write, Dict.getD_set, if_pos rfl]
        exact hpipeline
      · intro deadline hdeadline t ht
        rw [SortedSets.write, Dict.get?_set_self] at hdeadline
        obtain rfl := Option.some.inj hdeadline
        rw [times_concat, if_pos rfl, List.mem_append, List.mem_singleton] at ht
        apply add_le_add_left
        rcases ht with hold | rfl
        · obtain ⟨b, hb, -, rfl⟩ := mem_times.mp hold
          exact hlast b hb
        · exact le_rfl
    · have hkey : redisKey pair ≠ redisKey c.pair := fun h =>
        hsame (hown c (List.mem_append_right _ (List.mem_singleton_self c)) hc h.symm)
      obtain ⟨hholds, houtlives⟩ := hstored pair hpair hown.before
      constructor
      · rw [recent_other hsame, SortedSets.write, Dict.getD_set, if_neg hkey]
        exact hholds
      · rw [times_concat, if_neg hsame, List.append_nil, SortedSets.write,
          Dict.get?_set_of_ne hkey]
        exact houtlives

/-- With Redis a call is allowed when it is unlimited or the different readings in its window are
within the limit. -/
theorem Stores.allowed_iff (hl : Stores str l calls) (hlast : ∀ b ∈ calls, b.now ≤ c.now)
    (hstr : ∀ b ∈ calls, str b.now = str c.now → b.now = c.now)
    (hown : limitFor l.tenantTiers c.pair ≠ -1 → OwnKey l.tenantTiers c.pair calls) :
    (check str c l).1.1 = true ↔ limitFor l.tenantTiers c.pair = -1 ∨
      ((readings calls c).length : ℤ) ≤ limitFor l.tenantTiers c.pair := by
  obtain ⟨r, hredis, hstored⟩ := hl
  by_cases h : limitFor l.tenantTiers c.pair = -1
  · rw [check_unlimited str h]
    simp [h]
  · have hpipeline := (hstored c.pair h (hown h)).pipeline hlast hstr
    rw [check_redis str hredis h, verdict_allowed, hpipeline.zcard, readings]
    simp [h]

theorem stores_run (tenantTiers : Dict String String) (hclock : ClockRuns calls)
    (hstr : ∀ b ∈ calls, ∀ c ∈ calls, str b.now = str c.now → b.now = c.now) :
    Stores str (run (checkStep str) (onRedis tenantTiers) calls) calls := by
  induction calls using List.reverseRecOn with
  | nil =>
    refine ⟨.empty, rfl, fun pair _ _ => ⟨SortedSet.holds_empty str, ?_⟩⟩
    rintro deadline ⟨⟩
  | append_singleton calls c ih =>
    obtain ⟨hcalls, hlast⟩ := clockRuns_concat hclock
    have hin : ∀ b ∈ calls, b ∈ calls ++ [c] := fun b hb => List.mem_append_left _ hb
    have hc : c ∈ calls ++ [c] := List.mem_append_right _ (List.mem_singleton_self c)
    rw [run_concat]
    exact (ih hcalls fun b hb d hd => hstr b (hin b hb) d (hin d hd)).step hlast
      fun b hb => hstr b (hin b hb) c hc

end Redis

/-- When different limited pairs have different keys and the text of a reading tells it from the
others, both paths allow the same calls exactly when no limited call has more calls in its window than
the limit while their different readings are within it. -/
theorem redis_agrees_iff (str : ℚ≥0 → String) (tenantTiers : Dict String String)
    (calls : List CheckCall) (hclock : ClockRuns calls)
    (hstr : Set.InjOn str {t | t ∈ calls.map CheckCall.now})
    (hkeys : SeparateKeys tenantTiers calls) :
    (∀ before c after, calls = before ++ c :: after →
      (check str c (run (checkStep str) (onRedis tenantTiers) before)).1.1 =
        (check str c (run (checkStep str) (inMemory tenantTiers) before)).1.1) ↔
    ∀ before c after, calls = before ++ c :: after →
      limitFor tenantTiers c.pair = -1 ∨
        ((inWindow before c).length : ℤ) ≤ limitFor tenantTiers c.pair ∨
          limitFor tenantTiers c.pair < (readings before c).length := by
  have heach : ∀ before c after, calls = before ++ c :: after →
      ((check str c (run (checkStep str) (onRedis tenantTiers) before)).1.1 =
        (check str c (run (checkStep str) (inMemory tenantTiers) before)).1.1 ↔
      limitFor tenantTiers c.pair = -1 ∨
        ((inWindow before c).length : ℤ) ≤ limitFor tenantTiers c.pair ∨
          limitFor tenantTiers c.pair < (readings before c).length) := by
    rintro before c after rfl
    obtain ⟨hbefore, -, hlast⟩ := List.pairwise_append.mp hclock
    have hin : ∀ b ∈ before, b ∈ before ++ c :: after := fun b hb => List.mem_append_left _ hb
    have hc : c ∈ before ++ c :: after := List.mem_append_right _ List.mem_cons_self
    have hinj : ∀ b ∈ before ++ c :: after, ∀ d ∈ before ++ c :: after,
        str b.now = str d.now → b.now = d.now := fun b hb d hd =>
      hstr (List.mem_map_of_mem hb) (List.mem_map_of_mem hd)
    have hstores := stores_run tenantTiers hbefore fun b hb d hd => hinj b (hin b hb) d (hin d hd)
    have htiers : (run (checkStep str) (onRedis tenantTiers) before).tenantTiers = tenantTiers :=
      tenantTiers_run str before
    have hredis := hstores.allowed_iff (c := c) (fun b hb => hlast b hb c List.mem_cons_self)
      (fun b hb => hinj b (hin b hb) c hc) <| by
        rw [htiers]
        exact fun hlimited b hb => hkeys c hc hlimited b (hin b hb)
    rw [htiers] at hredis
    change _ ↔ limitFor tenantTiers c.pair = -1 ∨
      ((readings before c).length : ℤ) ≤ limitFor tenantTiers c.pair at hredis
    have hmemory := allowed_iff_inWindow str tenantTiers hclock
    have hle : (readings before c).length ≤ (inWindow before c).length := by
      have hdedup := (List.dedup_sublist ((inWindow before c).map CheckCall.now)).length_le
      rwa [List.length_map] at hdedup
    rw [Bool.eq_iff_iff, hredis, hmemory]
    omega
  constructor
  · intro h before c after hsplit
    exact (heach before c after hsplit).mp (h before c after hsplit)
  · intro h before c after hsplit
    exact (heach before c after hsplit).mpr (h before c after hsplit)

theorem redis_agrees_iff_edge :
    (∀ before c after, edgeCalls = before ++ c :: after →
      (check wholeSeconds c (run (checkStep wholeSeconds) (onRedis .empty) before)).1.1 =
        (check wholeSeconds c (run (checkStep wholeSeconds) (inMemory .empty) before)).1.1) ↔
    ∀ before c after, edgeCalls = before ++ c :: after →
      limitFor .empty c.pair = -1 ∨ ((inWindow before c).length : ℤ) ≤ limitFor .empty c.pair ∨
        limitFor .empty c.pair < (readings before c).length := by
  have hstr : ∀ t ∈ edgeCalls.map CheckCall.now, ∀ u ∈ edgeCalls.map CheckCall.now,
      wholeSeconds t = wholeSeconds u → t = u := by decide +kernel
  exact redis_agrees_iff wholeSeconds .empty edgeCalls (by decide)
    (fun t ht u hu => hstr t ht u hu) (by decide +kernel)

/-- A run of reconciliations asked for at one clock reading. -/
def burst : CheckCall := ⟨"acme", "reconciliation_per_hour", 0⟩

/-- Of the calls of a burst Redis counts one: it allows the one that memory refuses. -/
theorem not_redis_agrees :
    ¬ ∀ (str : ℚ≥0 → String) (tenantTiers : Dict String String) (calls : List CheckCall),
      ClockRuns calls → Set.InjOn str {t | t ∈ calls.map CheckCall.now} →
      ∀ before c after, calls = before ++ c :: after →
        (check str c (run (checkStep str) (onRedis tenantTiers) before)).1.1 =
          (check str c (run (checkStep str) (inMemory tenantTiers) before)).1.1 := by
  intro h
  have hclock : ClockRuns (List.replicate 20 burst ++ [burst]) := by decide
  have hstr : ∀ t ∈ (List.replicate 20 burst ++ [burst]).map CheckCall.now,
      ∀ u ∈ (List.replicate 20 burst ++ [burst]).map CheckCall.now,
      wholeSeconds t = wholeSeconds u → t = u := by decide +kernel
  have hsame := h wholeSeconds (Dict.empty.set "acme" "starter") (List.replicate 20 burst ++ [burst])
    hclock (fun t ht u hu => hstr t ht u hu) (List.replicate 20 burst) burst [] rfl
  exact absurd hsame (by decide +kernel)

end ControlFabric.RateLimit

/-! The usage report of a tenant, and what its checks store in Redis. -/
namespace ControlFabric.RateLimit
open Lib TenantRateLimiter

/-- `KeyError`, with the key that is missing. -/
structure KeyError where
  key : String
  deriving DecidableEq

structure LimitUsage where
  withinLimit : Bool
  detail : String
  max : ℤ
  deriving DecidableEq

structure TenantUsage where
  tenantId : String
  tier : String
  limits : List (String × LimitUsage)
  deriving DecidableEq

namespace TenantRateLimiter

def setTier (tenantId tier : String) (l : TenantRateLimiter) : TenantRateLimiter :=
  { l with tenantTiers := l.tenantTiers.set tenantId tier }

def tierOf (tenantId : String) (l : TenantRateLimiter) : String :=
  l.tenantTiers.getD tenantId "default"

/-- The loop of `get_tenant_usage`. The check of each limit type reads the clock. -/
def limitUsages (str : ℚ≥0 → String) (clock : String → ℚ≥0) (tenantId : String) :
    List (String × ℤ) → TenantRateLimiter → List (String × LimitUsage) × TenantRateLimiter
  | [], l => ([], l)
  | (limitType, max) :: limits, l =>
    let ((allowed, detail), checked) := check str ⟨tenantId, limitType, clock limitType⟩ l
    let (rest, done) := limitUsages str clock tenantId limits checked
    ((limitType, ⟨allowed, detail, max⟩) :: rest, done)

/-- A tier that is not in the table raises here, where `check` takes the limits of the default. -/
def getTenantUsage (str : ℚ≥0 → String) (clock : String → ℚ≥0) (tenantId : String)
    (l : TenantRateLimiter) : Except KeyError TenantUsage × TenantRateLimiter :=
  let tier := l.tierOf tenantId
  match tierLimits.lookup tier with
  | none => (.error ⟨tier⟩, l)
  | some limits =>
    let (usages, done) := limitUsages str clock tenantId limits l
    (.ok ⟨tenantId, tier, usages⟩, done)

end TenantRateLimiter

/-- A call of one of the methods, with the clock readings it takes. -/
inductive Call
  | setTier (tenantId tier : String)
  | check (c : CheckCall)
  | usage (tenantId : String) (clock : String → ℚ≥0)

def callStep (str : ℚ≥0 → String) : Call → TenantRateLimiter → TenantRateLimiter
  | .setTier tenantId tier, l => l.setTier tenantId tier
  | .check c, l => checkStep str c l
  | .usage tenantId clock, l => (getTenantUsage str clock tenantId l).2

/-- The results of the checks among the calls. -/
def checkResults (str : ℚ≥0 → String) (l : TenantRateLimiter) (calls : List Call) :
    List (Bool × String) :=
  trace (callStep str) (fun
    | .check c, l => [(check str c l).1]
    | _, _ => []) l calls

/-- A new limiter, with Redis or without. -/
def start (redis : Bool) : TenantRateLimiter :=
  if redis then onRedis Dict.empty else inMemory Dict.empty

/-- The checks of a usage report. -/
def usageCalls (clock : String → ℚ≥0) (tenantId : String) (limits : List (String × ℤ)) :
    List CheckCall :=
  limits.map fun p => ⟨tenantId, p.1, clock p.1⟩

section Report
variable {str : ℚ≥0 → String} {clock : String → ℚ≥0} {tenantId : String}

theorem limitUsages_snd (limits : List (String × ℤ)) (l : TenantRateLimiter) :
    (limitUsages str clock tenantId limits l).2 =
      run (checkStep str) l (usageCalls clock tenantId limits) := by
  induction limits generalizing l with
  | nil => rfl
  | cons p limits ih => exact ih (checkStep str ⟨tenantId, p.1, clock p.1⟩ l)

/-- A report raises exactly for a tier that is not in the table, and then does nothing. -/
theorem getTenantUsage_cases (str : ℚ≥0 → String) (clock : String → ℚ≥0) (tenantId : String)
    (l : TenantRateLimiter) :
    (tierLimits.lookup (l.tierOf tenantId) = none ∧
      getTenantUsage str clock tenantId l = (.error ⟨l.tierOf tenantId⟩, l)) ∨
    ∃ limits usage, tierLimits.lookup (l.tierOf tenantId) = some limits ∧
      getTenantUsage str clock tenantId l =
        (.ok usage, run (checkStep str) l (usageCalls clock tenantId limits)) := by
  unfold getTenantUsage
  cases hlookup : tierLimits.lookup (l.tierOf tenantId) with
  | none => exact Or.inl ⟨rfl, by simp [hlookup]⟩
  | some limits =>
    right
    refine ⟨limits, ⟨tenantId, l.tierOf tenantId, (limitUsages str clock tenantId limits l).1⟩, rfl,
      ?_⟩
    rw [← limitUsages_snd]
    simp [hlookup]

end Report

/-! ### The tables -/

/-- What all the tables have in common: different limit types without colons, and a limit on the
requests of a minute. -/
structure WellFormed (limits : List (String × ℤ)) : Prop where
  nodup : (limits.map Prod.fst).Nodup
  no_colon : ∀ limitType ∈ limits.map Prod.fst, ':' ∉ limitType.toList
  requests : "requests_per_minute" ∈ limits.map Prod.fst
  limited : limits.lookup "requests_per_minute" ≠ some (-1)

theorem wellFormed_tierLimits {tier : String} {limits : List (String × ℤ)}
    (h : tierLimits.lookup tier = some limits) : WellFormed limits := by
  have htables : ∀ p ∈ tierLimits, (p.2.map Prod.fst).Nodup ∧
      (∀ limitType ∈ p.2.map Prod.fst, ':' ∉ limitType.toList) ∧
      "requests_per_minute" ∈ p.2.map Prod.fst ∧
      p.2.lookup "requests_per_minute" ≠ some (-1) := by decide +kernel
  obtain ⟨before, after, hsplit, -⟩ := List.lookup_eq_some_iff.mp h
  have hmem : (tier, limits) ∈ tierLimits := by simp [hsplit]
  obtain ⟨hnodup, hcolon, hrequests, hlimited⟩ := htables (tier, limits) hmem
  exact ⟨hnodup, hcolon, hrequests, hlimited⟩

theorem toList_redisKey (pair : String × String) :
    (redisKey pair).toList = pair.1.toList ++ ':' :: pair.2.toList := by
  show (pair.1 ++ ":" ++ pair.2).toList = _
  simp

theorem append_eq_append_cons {α : Type} [DecidableEq α] {x y a b : List α} {c : α} (hb : c ∉ b)
    (h : x ++ c :: a = y ++ c :: b) : b <:+ a := by
  rcases List.append_eq_append_iff.mp h with ⟨m, rfl, hm⟩ | ⟨m, rfl, hm⟩
  · cases m with
    | nil =>
      obtain ⟨-, rfl⟩ := List.cons.inj hm
      exact List.suffix_rfl
    | cons d m =>
      obtain ⟨-, rfl⟩ := List.cons.inj hm
      exact ⟨m ++ [c], by simp⟩
  · cases m with
    | nil =>
      obtain ⟨-, rfl⟩ := List.cons.inj hm
      exact List.suffix_rfl
    | cons d m =>
      obtain ⟨-, rfl⟩ := List.cons.inj hm
      exact absurd (by simp) hb

/-- Of the pairs with one key, none has a longer window than one whose limit type has no colon. -/
theorem windowSeconds_le {pair : String × String} {tenantId limitType : String}
    (hcolon : ':' ∉ limitType.toList) (hkey : redisKey pair = redisKey (tenantId, limitType)) :
    windowSeconds pair.2 ≤ windowSeconds limitType := by
  have hsuffix : limitType.toList <:+ pair.2.toList := by
    have hlist := congrArg String.toList hkey
    rw [toList_redisKey, toList_redisKey] at hlist
    exact append_eq_append_cons hcolon hlist
  unfold windowSeconds
  by_cases hminute : perMinute limitType = true
  · have hcontains : "minute".toList <:+: limitType.toList := of_decide_eq_true hminute
    have hpair : perMinute pair.2 = true := decide_eq_true (hcontains.trans hsuffix.isInfix)
    rw [if_pos hminute, if_pos hpair]
  · rw [if_neg hminute]
    split <;> omega

end ControlFabric.RateLimit
