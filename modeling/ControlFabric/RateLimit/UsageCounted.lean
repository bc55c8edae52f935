import ControlFabric.RateLimit.Redis

/-! When a usage report leaves no trace in later checks. In memory it always leaves one; in Redis it
leaves none when the checks it makes are counted already. -/
namespace ControlFabric.RateLimit
open Lib TenantRateLimiter

/-- What Redis keeps under the key. -/
def stored (l : TenantRateLimiter) (key : String) : Readings :=
  let redis := l.redis.getD .empty
  ⟨(redis.sets.getD key Dict.empty).values.toFinset, redis.deadlines.get? key⟩

/-- Redis is used, names each reading by its text, and drops what it keeps at some time. -/
structure Sound (str : ℚ≥0 → String) (l : TenantRateLimiter) : Prop where
  redis : l.redis.isSome
  named : ∀ key, ((l.redis.getD .empty).sets.getD key Dict.empty).Holds str (stored l key).kept.toList
  dropped : ∀ key, (stored l key).kept.Nonempty → (stored l key).deadline ≠ none

/-- The call is one that is counted. -/
def Limited (l : TenantRateLimiter) (c : CheckCall) : Prop := limitFor l.tenantTiers c.pair ≠ -1

section Redis
variable {str : ℚ≥0 → String} {l l' : TenantRateLimiter} {c : CheckCall}

/-- The readings under the key of the call after it. -/
def slid (l : TenantRateLimiter) (c : CheckCall) : Readings :=
  (stored l (redisKey c.pair)).slide c.now (windowSeconds c.limitType)

theorem Sound.pipeline (h : Sound str l) (hstr : Function.Injective str) (c : CheckCall) :
    (pipeline str c (l.redis.getD .empty)).Holds str (slid l c).kept.toList := by
  have hlive : ((l.redis.getD .empty).live c.now (redisKey c.pair)).Holds str
      ((stored l (redisKey c.pair)).live c.now).toList := by
    have hnamed := h.named (redisKey c.pair)
    unfold SortedSets.live Readings.live
    unfold stored at hnamed ⊢
    dsimp only at hnamed ⊢
    split
    · rw [Finset.toList_empty]
      exact SortedSet.holds_empty str
    · exact hnamed
  apply ((hlive.zadd fun t _ heq => hstr heq).zremrangebyscore c.cutoff).congr
  intro t
  have hcutoff : c.cutoff < t ↔ c.now < t + windowSeconds c.limitType := by
    rw [CheckCall.cutoff, sub_lt_iff_lt_add]
    exact_mod_cast Iff.rfl
  simp [slid, Readings.slide, hcutoff, or_comm, or_and_right]

theorem check_sound (h : Sound str l) (hstr : Function.Injective str) (hc : Limited l c) :
    (check str c l).1 =
      verdict (slid l c).kept.card (limitFor l.tenantTiers c.pair) c.limitType := by
  obtain ⟨redis, hredis⟩ := Option.isSome_iff_exists.mp h.redis
  have hholds := h.pipeline hstr c
  rw [hredis, Option.getD_some] at hholds
  rw [check_redis str hredis hc, hholds.zcard, (slid l c).kept.nodup_toList.dedup,
    Finset.length_toList]

theorem stored_checkStep (h : Sound str l) (hstr : Function.Injective str) (hc : Limited l c)
    (key : String) : stored (checkStep str c l) key =
      if key = redisKey c.pair then slid l c else stored l key := by
  obtain ⟨redis, hredis⟩ := Option.isSome_iff_exists.mp h.redis
  have hholds := h.pipeline hstr c
  rw [hredis, Option.getD_some] at hholds
  rw [checkStep, check_redis str hredis hc]
  unfold stored SortedSets.write
  simp only [Option.getD_some, Dict.getD_set, Dict.get?_set]
  split
  next hkey =>
    have hkept : (TenantRateLimiter.pipeline str c redis).values.toFinset = (slid l c).kept := by
      ext t
      rw [List.mem_toFinset, hholds.mem_values, Finset.mem_toList]
    rw [hkept]
    rfl
  next hkey => simp [hredis]

theorem Sound.step (h : Sound str l) (hstr : Function.Injective str) (c : CheckCall) :
    Sound str (checkStep str c l) := by
  by_cases hc : Limited l c
  · obtain ⟨redis, hredis⟩ := Option.isSome_iff_exists.mp h.redis
    have hstored := stored_checkStep h hstr hc
    constructor
    · rw [checkStep, check_redis str hredis hc]
      rfl
    · intro key
      rw [hstored key, checkStep, check_redis str hredis hc, Option.getD_some, SortedSets.write,
        Dict.getD_set]
      split
      next hkey =>
        have hholds := h.pipeline hstr c
        rwa [hredis, Option.getD_some] at hholds
      next hkey =>
        have hnamed := h.named key
        rwa [hredis, Option.getD_some] at hnamed
    · intro key
      rw [hstored key]
      split
      next hkey => simp [slid, Readings.slide]
      next hkey => exact h.dropped key
  · rw [checkStep, check_unlimited str (not_not.mp hc)]
    exact h

/-- A check that is not counted, or counted under other keys, leaves what is under the key. -/
theorem stored_other (h : Sound str l) (hstr : Function.Injective str) {key : String}
    (hkey : Limited l c → redisKey c.pair ≠ key) :
    stored (checkStep str c l) key = stored l key := by
  by_cases hc : Limited l c
  · rw [stored_checkStep h hstr hc, if_neg (hkey hc).symm]
  · rw [checkStep, check_unlimited str (not_not.mp hc)]

/-! ### The checks of a report -/

variable {calls : List CheckCall}

theorem limited_step : Limited (checkStep str c l) = Limited l := by
  unfold Limited
  rw [tenantTiers_step]

theorem Sound.run (h : Sound str l) (hstr : Function.Injective str) (calls : List CheckCall) :
    Sound str (run (checkStep str) l calls) :=
  run_invariant (checkStep str) (fun c _ _ hs => hs.step hstr c) h

theorem stored_run_other (h : Sound str l) (hstr : Function.Injective str) {key : String}
    (hkey : ∀ c ∈ calls, Limited l c → redisKey c.pair ≠ key) :
    stored (run (checkStep str) l calls) key = stored l key := by
  induction calls generalizing l with
  | nil => rfl
  | cons c calls ih =>
    rw [run_cons, ih (h.step hstr c), stored_other h hstr (hkey c List.mem_cons_self)]
    intro b hb
    rw [limited_step]
    exact hkey b (List.mem_cons_of_mem _ hb)

/-- Of calls with different keys each leaves under its key what it would leave alone. -/
theorem stored_run_once (h : Sound str l) (hstr : Function.Injective str)
    (hkeys : (calls.map fun b => redisKey b.pair).Nodup) (hmem : c ∈ calls) (hc : Limited l c) :
    stored (run (checkStep str) l calls) (redisKey c.pair) = slid l c := by
  induction calls generalizing l with
  | nil => exact absurd hmem List.not_mem_nil
  | cons b calls ih =>
    rw [List.map_cons, List.nodup_cons] at hkeys
    obtain ⟨hb, hrest⟩ := hkeys
    rw [run_cons]
    rcases List.mem_cons.mp hmem with rfl | htail
    · rw [stored_run_other (h.step hstr c) hstr, stored_checkStep h hstr hc, if_pos rfl]
      rintro d hd - heq
      exact hb (by rw [← heq]; exact List.mem_map_of_mem hd)
    · have hne : redisKey b.pair ≠ redisKey c.pair := by
        intro heq
        exact hb (by rw [heq]; exact List.mem_map_of_mem htail)
      rw [ih (h.step hstr b) hrest htail (by rwa [limited_step]), slid, slid,
        stored_other h hstr fun _ => hne]

/-! ### Limiters that no check tells apart -/

/-- The same tiers, and under each key readings that are alike for every window of the key. -/
structure Indistinct (str : ℚ≥0 → String) (l l' : TenantRateLimiter) : Prop where
  tiers : l.tenantTiers = l'.tenantTiers
  left : Sound str l
  right : Sound str l'
  alike : ∀ key, ∃ w, (∀ pair, redisKey pair = key → windowSeconds pair.2 ≤ w) ∧
    (stored l key).Alike w (stored l' key)

theorem windowSeconds_le_hour (limitType : String) : windowSeconds limitType ≤ 3600 := by
  unfold windowSeconds
  split <;> omega

theorem Indistinct.slid (h : Indistinct str l l') (c : CheckCall) : slid l c = slid l' c := by
  obtain ⟨w, hw, halike⟩ := h.alike (redisKey c.pair)
  exact halike.slide (hw c.pair rfl) c.now

theorem Indistinct.limited (h : Indistinct str l l') : Limited l = Limited l' := by
  unfold Limited
  rw [h.tiers]

theorem Indistinct.check (h : Indistinct str l l') (hstr : Function.Injective str) (c : CheckCall) :
    (check str c l).1 = (check str c l').1 := by
  by_cases hc : Limited l c
  · have hc' : Limited l' c := by rwa [← h.limited]
    rw [check_sound h.left hstr hc, check_sound h.right hstr hc', h.slid, h.tiers]
  · have hc' : ¬ Limited l' c := by rwa [← h.limited]
    rw [check_unlimited str (not_not.mp hc), check_unlimited str (not_not.mp hc')]

theorem Indistinct.checkStep (h : Indistinct str l l') (hstr : Function.Injective str)
    (c : CheckCall) : Indistinct str (checkStep str c l) (checkStep str c l') := by
  constructor
  · rw [tenantTiers_step, tenantTiers_step, h.tiers]
  · exact h.left.step hstr c
  · exact h.right.step hstr c
  · intro key
    by_cases hc : Limited l c
    · have hc' : Limited l' c := by rwa [← h.limited]
      rw [stored_checkStep h.left hstr hc, stored_checkStep h.right hstr hc', h.slid]
      split
      · exact ⟨3600, fun pair _ => windowSeconds_le_hour pair.2, Readings.Alike.refl 3600 _⟩
      · exact h.alike key
    · have hc' : ¬ Limited l' c := by rwa [← h.limited]
      rw [RateLimit.checkStep, RateLimit.checkStep, check_unlimited str (not_not.mp hc),
        check_unlimited str (not_not.mp hc')]
      exact h.alike key

theorem Indistinct.run (h : Indistinct str l l') (hstr : Function.Injective str)
    (calls : List CheckCall) :
    Indistinct str (run (RateLimit.checkStep str) l calls) (run (RateLimit.checkStep str) l' calls) := by
  induction calls generalizing l l' with
  | nil => exact h
  | cons c calls ih => exact ih (h.checkStep hstr c)

theorem Indistinct.callStep (h : Indistinct str l l') (hstr : Function.Injective str) (call : Call) :
    Indistinct str (callStep str call l) (callStep str call l') := by
  cases call with
  | setTier tenantId tier =>
    exact ⟨by simp [RateLimit.callStep, setTier, h.tiers], ⟨h.left.redis, h.left.named, h.left.dropped⟩,
      ⟨h.right.redis, h.right.named, h.right.dropped⟩, h.alike⟩
  | check c => exact h.checkStep hstr c
  | usage tenantId clock =>
    have htier : l.tierOf tenantId = l'.tierOf tenantId := by rw [tierOf, tierOf, h.tiers]
    show Indistinct str (getTenantUsage str clock tenantId l).2 (getTenantUsage str clock tenantId l').2
    rcases getTenantUsage_cases str clock tenantId l with ⟨hnone, hl⟩ | ⟨limits, usage, hsome, hl⟩
    · rcases getTenantUsage_cases str clock tenantId l' with ⟨-, hl'⟩ | ⟨limits', _, hsome', -⟩
      · rwa [hl, hl']
      · rw [← htier, hnone] at hsome'
        cases hsome'
    · rcases getTenantUsage_cases str clock tenantId l' with ⟨hnone', -⟩ | ⟨limits', _, hsome', hl'⟩
      · rw [← htier, hsome] at hnone'
        cases hnone'
      · rw [← htier, hsome] at hsome'
        obtain rfl := Option.some.inj hsome'
        rw [hl, hl']
        exact h.run hstr _

theorem Indistinct.results (h : Indistinct str l l') (hstr : Function.Injective str)
    (calls : List Call) : checkResults str l calls = checkResults str l' calls := by
  apply trace_eq_of_alike (R := Indistinct str) _ _ _ _ h
  · intro call s s' hs
    cases call with
    | check c => exact congrArg (fun r => [r]) (hs.check hstr c)
    | setTier tenantId tier => rfl
    | usage tenantId clock => rfl
  · intro call s s' hs
    exact hs.callStep hstr call

end Redis

/-! ### In memory -/

section InMemory
variable {str : ℚ≥0 → String} {l : TenantRateLimiter} {c : CheckCall} {calls : List CheckCall}

/-- The list of a pair after a check that is counted. -/
def pruned (l : TenantRateLimiter) (c : CheckCall) : List ℚ≥0 :=
  ((l.timestamps c.pair).filter fun (t : ℚ≥0) => c.cutoff < t) ++ [c.now]

theorem check_pruned (hredis : l.redis = none) (hc : Limited l c) : (check str c l).1 =
    verdict (pruned l c).length (limitFor l.tenantTiers c.pair) c.limitType := by
  rw [check_inMemory str hredis hc]
  rfl

theorem timestamps_other (hredis : l.redis = none) {pair : String × String} (hpair : c.pair ≠ pair) :
    (checkStep str c l).timestamps pair = l.timestamps pair := by
  by_cases hc : Limited l c
  · rw [checkStep, check_inMemory str hredis hc, timestamps_set, if_neg hpair.symm]
  · rw [checkStep, check_unlimited str (not_not.mp hc)]

theorem timestamps_run_other (hredis : l.redis = none) {pair : String × String}
    (hpair : ∀ c ∈ calls, c.pair ≠ pair) :
    (run (checkStep str) l calls).timestamps pair = l.timestamps pair := by
  induction calls generalizing l with
  | nil => rfl
  | cons c calls ih =>
    rw [run_cons, ih (redis_step str hredis) fun b hb => hpair b (List.mem_cons_of_mem _ hb),
      timestamps_other hredis (hpair c List.mem_cons_self)]

theorem timestamps_run_once (hredis : l.redis = none) (hpairs : (calls.map CheckCall.pair).Nodup)
    (hmem : c ∈ calls) (hc : Limited l c) :
    (run (checkStep str) l calls).timestamps c.pair = pruned l c := by
  induction calls generalizing l with
  | nil => exact absurd hmem List.not_mem_nil
  | cons b calls ih =>
    rw [List.map_cons, List.nodup_cons] at hpairs
    obtain ⟨hb, hrest⟩ := hpairs
    rw [run_cons]
    rcases List.mem_cons.mp hmem with rfl | htail
    · rw [timestamps_run_other (redis_step str hredis), checkStep, check_inMemory str hredis hc,
        timestamps_set, if_pos rfl, pruned]
      intro d hd heq
      exact hb (by rw [← heq]; exact List.mem_map_of_mem hd)
    · have hne : b.pair ≠ c.pair := by
        intro heq
        exact hb (by rw [heq]; exact List.mem_map_of_mem htail)
      rw [ih (redis_step str hredis) hrest htail (by rwa [limited_step]), pruned, pruned,
        timestamps_other hredis hne]

/-- A further check at the same reading counts the first one. -/
theorem length_pruned_run (hredis : l.redis = none) (hpairs : (calls.map CheckCall.pair).Nodup)
    (hmem : c ∈ calls) (hc : Limited l c) :
    (pruned (run (checkStep str) l calls) c).length = (pruned l c).length + 1 := by
  have hfilter : (pruned l c).filter (fun (t : ℚ≥0) => c.cutoff < t) = pruned l c := by
    unfold pruned
    rw [List.filter_append, List.filter_filter]
    simp [cutoff_lt]
  rw [pruned, timestamps_run_once hredis hpairs hmem hc, hfilter, List.length_append]
  rfl

end InMemory

theorem nat_of_text {n m : ℕ} (before after : String)
    (h : before ++ toString n ++ after = before ++ toString m ++ after) : n = m := by
  have hlist := congrArg String.toList h
  simp only [String.toList_append, List.append_assoc, List.append_cancel_left_eq,
    List.append_cancel_right_eq, Nat.toString_eq_repr, Nat.toList_repr] at hlist
  rw [← Nat.ofDigitChars_ten_toDigits (n := n), hlist, Nat.ofDigitChars_ten_toDigits]

/-- The text of a verdict tells how many calls were counted. -/
theorem verdict_count {n m : ℕ} {limit : ℤ} {limitType : String}
    (h : verdict n limit limitType = verdict m limit limitType) : n = m := by
  unfold verdict at h
  split at h <;> split at h
  · exact nat_of_text "Rate limit exceeded: " s!"/{limit} {limitType}"
      (by simpa [String.append_assoc] using h)
  · cases h
  · cases h
  · exact nat_of_text "" s!"/{limit}" (by simpa [String.append_assoc] using h)

/-! ### Any history -/

/-- The report returns, and no later check has another result than without it. -/
def Harmless (str : ℚ≥0 → String) (clock : String → ℚ≥0) (tenantId : String)
    (l : TenantRateLimiter) : Prop :=
  (∃ usage, (getTenantUsage str clock tenantId l).1 = .ok usage) ∧
    ∀ calls, checkResults str (getTenantUsage str clock tenantId l).2 calls = checkResults str l calls

section History
variable {str : ℚ≥0 → String} {clock : String → ℚ≥0} {tenantId : String} {l : TenantRateLimiter}

theorem redis_callStep (hredis : l.redis = none) (call : Call) : (callStep str call l).redis = none := by
  cases call with
  | setTier tenantId tier => exact hredis
  | check c => exact redis_step str hredis
  | usage tenantId clock =>
    show (getTenantUsage str clock tenantId l).2.redis = none
    rcases getTenantUsage_cases str clock tenantId l with ⟨-, hl⟩ | ⟨limits, usage, -, hl⟩
    · rwa [hl]
    · rw [hl]
      exact redis_run str hredis _

theorem Sound.callStep (h : Sound str l) (hstr : Function.Injective str) (call : Call) :
    Sound str (callStep str call l) := by
  cases call with
  | setTier tenantId tier => exact ⟨h.redis, h.named, h.dropped⟩
  | check c => exact h.step hstr c
  | usage tenantId clock =>
    show Sound str (getTenantUsage str clock tenantId l).2
    rcases getTenantUsage_cases str clock tenantId l with ⟨-, hl⟩ | ⟨limits, usage, -, hl⟩
    · rwa [hl]
    · rw [hl]
      exact h.run hstr _

theorem sound_start (str : ℚ≥0 → String) : Sound str (start true) := by
  constructor
  · rfl
  · intro key
    have hnone : ∀ t, t ∈ (stored (start true) key).kept.toList ↔ t ∈ [] := by
      simp [stored, start, onRedis, SortedSets.empty, Dict.values, Dict.empty, Dict.getD, Dict.get?]
    exact (SortedSet.holds_empty str).congr fun t => (hnone t).symm
  · intro key
    simp [stored, start, onRedis, SortedSets.empty, Dict.values, Dict.empty, Dict.getD, Dict.get?]

theorem usageCalls_pairs {limits : List (String × ℤ)} (h : WellFormed limits) :
    ((usageCalls clock tenantId limits).map CheckCall.pair).Nodup := by
  have hmap : (usageCalls clock tenantId limits).map CheckCall.pair =
      (limits.map Prod.fst).map fun limitType => (tenantId, limitType) := by
    simp [usageCalls, CheckCall.pair]
  rw [hmap]
  exact h.nodup.map fun limitType limitType' heq => (Prod.mk.inj heq).2

theorem usageCalls_keys {limits : List (String × ℤ)} (h : WellFormed limits) :
    ((usageCalls clock tenantId limits).map fun c => redisKey c.pair).Nodup := by
  have hmap : (usageCalls clock tenantId limits).map (fun c => redisKey c.pair) =
      (limits.map Prod.fst).map fun limitType => redisKey (tenantId, limitType) := by
    simp [usageCalls, CheckCall.pair]
  rw [hmap]
  refine h.nodup.map fun limitType limitType' heq => ?_
  have hlist := congrArg String.toList heq
  rw [toList_redisKey, toList_redisKey] at hlist
  simpa [String.toList_inj] using hlist

theorem mem_usageCalls {limits : List (String × ℤ)} {limitType : String}
    (h : limitType ∈ limits.map Prod.fst) :
    (⟨tenantId, limitType, clock limitType⟩ : CheckCall) ∈ usageCalls clock tenantId limits := by
  obtain ⟨p, hp, rfl⟩ := List.mem_map.mp h
  exact List.mem_map_of_mem hp

theorem limitFor_of_lookup {limits : List (String × ℤ)}
    (h : tierLimits.lookup (l.tierOf tenantId) = some limits) (limitType : String) :
    limitFor l.tenantTiers (tenantId, limitType) = (limits.lookup limitType).getD 200 := by
  unfold tierOf at h
  unfold limitFor
  simp only [h, Option.getD_some]

theorem limited_requests {limits : List (String × ℤ)}
    (h : tierLimits.lookup (l.tierOf tenantId) = some limits) (now : ℚ≥0) :
    Limited l ⟨tenantId, "requests_per_minute", now⟩ := by
  have hlimited := (wellFormed_tierLimits h).limited
  unfold Limited CheckCall.pair
  rw [limitFor_of_lookup h]
  cases hfound : limits.lookup "requests_per_minute" with
  | none => simp
  | some limit => simpa [hfound] using hlimited

/-- In memory every report is counted. -/
theorem not_harmless_inMemory (hredis : l.redis = none) : ¬ Harmless str clock tenantId l := by
  rintro ⟨⟨usage, husage⟩, hsame⟩
  rcases getTenantUsage_cases str clock tenantId l with ⟨-, hl⟩ | ⟨limits, _, hlookup, hl⟩
  · rw [hl] at husage
    cases husage
  · have hlimits := wellFormed_tierLimits hlookup
    let c : CheckCall := ⟨tenantId, "requests_per_minute", clock "requests_per_minute"⟩
    have hc : Limited l c := limited_requests hlookup _
    let l' := run (checkStep str) l (usageCalls clock tenantId limits)
    have htiers : l'.tenantTiers = l.tenantTiers := tenantTiers_run str _
    have hone : (check str c l').1 = (check str c l).1 := by
      have hresults := hsame [.check c]
      rw [hl] at hresults
      simpa [checkResults, trace] using hresults
    rw [check_pruned hredis hc, check_pruned (redis_run str hredis _) (by rwa [Limited, htiers]),
      htiers] at hone
    have hcount : (pruned l' c).length = (pruned l c).length := verdict_count hone
    have hmem := @mem_usageCalls clock tenantId limits "requests_per_minute" hlimits.requests
    have hlength : (pruned l' c).length = (pruned l c).length + 1 :=
      length_pruned_run hredis (usageCalls_pairs hlimits) hmem hc
    omega

/-- Redis holds the readings of the checks that the report makes and counts. -/
def UsageCounted (clock : String → ℚ≥0) (tenantId : String) (l : TenantRateLimiter)
    (limits : List (String × ℤ)) : Prop :=
  ∀ limitType ∈ limits.map Prod.fst, limitFor l.tenantTiers (tenantId, limitType) ≠ -1 →
    (stored l (redisKey (tenantId, limitType))).Counts (clock limitType) (windowSeconds limitType)

theorem harmless_of_counted (hl : Sound str l) (hstr : Function.Injective str)
    {limits : List (String × ℤ)} (hlookup : tierLimits.lookup (l.tierOf tenantId) = some limits)
    (hcounted : UsageCounted clock tenantId l limits) : Harmless str clock tenantId l := by
  have hlimits := wellFormed_tierLimits hlookup
  rcases getTenantUsage_cases str clock tenantId l with ⟨hnone, -⟩ | ⟨limits', usage, hsome, hreport⟩
  · rw [hlookup] at hnone
    cases hnone
  · rw [hlookup] at hsome
    obtain rfl := Option.some.inj hsome
    let calls := usageCalls clock tenantId limits
    refine ⟨⟨usage, by rw [hreport]⟩, fun later => ?_⟩
    rw [hreport]
    symm
    have hindistinct : Indistinct str l (run (checkStep str) l calls) := by
      constructor
      · exact (tenantTiers_run str calls).symm
      · exact hl
      · exact hl.run hstr calls
      · intro key
        by_cases hkey : ∃ c ∈ calls, Limited l c ∧ redisKey c.pair = key
        · obtain ⟨c, hmem, hc, rfl⟩ := hkey
          rw [stored_run_once hl hstr (usageCalls_keys hlimits) hmem hc]
          obtain ⟨p, hp, rfl⟩ := List.mem_map.mp hmem
          have htype : p.1 ∈ limits.map Prod.fst := List.mem_map_of_mem hp
          exact ⟨windowSeconds p.1, fun pair => windowSeconds_le (hlimits.no_colon p.1 htype),
            (hcounted p.1 htype hc).alike⟩
        · rw [stored_run_other hl hstr fun c hmem hc heq => hkey ⟨c, hmem, hc, heq⟩]
          exact ⟨3600, fun pair _ => windowSeconds_le_hour pair.2, Readings.Alike.refl 3600 _⟩
    exact hindistinct.results hstr later

theorem counted_of_harmless (hl : Sound str l) (hstr : Function.Injective str)
    (h : Harmless str clock tenantId l) :
    ∃ limits, tierLimits.lookup (l.tierOf tenantId) = some limits ∧
      UsageCounted clock tenantId l limits := by
  obtain ⟨⟨usage, husage⟩, hsame⟩ := h
  rcases getTenantUsage_cases str clock tenantId l with ⟨-, hreport⟩ | ⟨limits, _, hlookup, hreport⟩
  · rw [hreport] at husage
    cases husage
  · refine ⟨limits, hlookup, fun limitType htype hc => ?_⟩
    have hlimits := wellFormed_tierLimits hlookup
    let calls := usageCalls clock tenantId limits
    have hpositive : 0 < windowSeconds limitType := by exact_mod_cast windowSeconds_pos limitType
    apply (Readings.same_iff_counts hpositive (hl.dropped _)).mp
    intro u
    let later : CheckCall := ⟨tenantId, limitType, u⟩
    let counted : CheckCall := ⟨tenantId, limitType, clock limitType⟩
    have htiers := tenantTiers_run str (l := l) calls
    have hone : (check str later (run (checkStep str) l calls)).1 = (check str later l).1 := by
      have hresults := hsame [.check later]
      rw [hreport] at hresults
      simpa [checkResults, trace] using hresults
    have hlater : Limited l later := hc
    rw [check_sound hl hstr hlater,
      check_sound (hl.run hstr calls) hstr (by rwa [Limited, htiers]), htiers] at hone
    have hcount := verdict_count hone
    have honce := stored_run_once (c := counted) hl hstr (usageCalls_keys hlimits)
      (mem_usageCalls htype) hc
    unfold slid at hcount honce
    rw [show redisKey later.pair = redisKey counted.pair from rfl, honce] at hcount
    exact hcount.symm

end History

/-- After any history, a usage report returns and changes no later result exactly when Redis is used,
the tier of the tenant is in the table, and the checks the report makes are counted already. -/
theorem usage_harmless_iff (str : ℚ≥0 → String) (hstr : Function.Injective str) (redis : Bool)
    (history : List Call) (tenantId : String) (clock : String → ℚ≥0) :
    Harmless str clock tenantId (run (callStep str) (start redis) history) ↔
      redis = true ∧ ∃ limits,
        tierLimits.lookup ((run (callStep str) (start redis) history).tierOf tenantId) = some limits ∧
          UsageCounted clock tenantId (run (callStep str) (start redis) history) limits := by
  cases redis with
  | false =>
    have hredis : (run (callStep str) (start false) history).redis = none :=
      run_invariant (callStep str) (I := fun l => l.redis = none)
        (fun call _ _ h => redis_callStep h call) rfl
    simp [not_harmless_inMemory hredis]
  | true =>
    have hl : Sound str (run (callStep str) (start true) history) :=
      run_invariant (callStep str) (fun call _ _ h => h.callStep hstr call) (sound_start str)
    constructor
    · intro h
      exact ⟨rfl, counted_of_harmless hl hstr h⟩
    · rintro ⟨-, limits, hlookup, hcounted⟩
      exact harmless_of_counted hl hstr hlookup hcounted

/-- A text for each reading, which for whole seconds is the usual one. -/
def exactSeconds (t : ℚ≥0) : String :=
  if t.den = 1 then toString t.num ++ ".0" else toString (Nat.pair t.num t.den) ++ " coded"

theorem exactSeconds_injective : Function.Injective exactSeconds := by
  intro t u heq
  have hlast := congrArg (fun s : String => s.toList.getLast?) heq
  unfold exactSeconds at heq hlast
  split at heq <;> split at heq
  next ht hu =>
    have hnum : t.num = u.num := nat_of_text "" ".0" (by simpa using heq)
    exact NNRat.ext_num_den hnum (ht.trans hu.symm)
  next ht hu => simp [ht, hu] at hlast
  next ht hu => simp [ht, hu] at hlast
  next ht hu =>
    have hpair : Nat.pair t.num t.den = Nat.pair u.num u.den :=
      nat_of_text "" " coded" (by simpa using heq)
    obtain ⟨hnum, hden⟩ := Nat.pair_eq_pair.mp hpair
    exact NNRat.ext_num_den hnum hden

theorem usage_harmless_iff_reported :
    let history : List Call := [.setTier "acme" "starter", .usage "acme" fun _ => 0]
    Harmless exactSeconds (fun _ => 0) "acme" (run (callStep exactSeconds) (start true) history) ↔
      true = true ∧ ∃ limits, tierLimits.lookup
          ((run (callStep exactSeconds) (start true) history).tierOf "acme") = some limits ∧
        UsageCounted (fun _ => 0) "acme" (run (callStep exactSeconds) (start true) history) limits :=
  usage_harmless_iff exactSeconds exactSeconds_injective true _ "acme" fun _ => 0

/-- Twenty reports use up the reconciliations of a starter tenant. -/
theorem not_usage_harmless :
    ¬ ∀ str : ℚ≥0 → String, Function.Injective str → ∀ redis history tenantId clock,
      Harmless str clock tenantId (run (callStep str) (start redis) history) := by
  intro h
  let history := Call.setTier "acme" "starter" :: List.replicate 19 (.usage "acme" fun _ => 0)
  have hharmless := h exactSeconds exactSeconds_injective false history "acme" fun _ => 0
  have hsame := hharmless.2 [.check ⟨"acme", "reconciliation_per_hour", 0⟩]
  exact absurd hsame (by decide +kernel)

end ControlFabric.RateLimit
