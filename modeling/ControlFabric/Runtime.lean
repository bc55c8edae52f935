import ControlFabric.Py.Value
import ControlFabric.Lib.Dict
import Mathlib.Order.CompletePartialOrder

/-! The interpreter around the platform: digest, fresh identifiers, clock, and the effects a method
call leaves behind besides the state of its object. -/
namespace ControlFabric
open Lib Py

/-- The library services the platform calls. The `n`-th object built with default factories takes
its identifier and its time stamp from draw `n`. -/
structure Runtime where
  /-- `hashlib.sha256(text.encode()).hexdigest()` -/
  sha256 : String → String
  /-- `str(uuid.uuid4())` -/
  uuid4 : ℕ → String
  /-- `datetime.now(UTC)` -/
  now : ℕ → DateTime
  /-- `str.isprintable` outside ASCII -/
  isPrintable : Char → Bool

def IsHex (s : String) : Prop := ∀ c ∈ s.toList, c ∈ "0123456789abcdef".toList

instance (s : String) : Decidable (IsHex s) := List.decidableBAll _ s.toList

/-- The digest as the integrity checks rely on it: collision-free, in lower-case hexadecimal. -/
structure Runtime.Digest (rt : Runtime) : Prop where
  injective : Function.Injective rt.sha256
  hex : ∀ text, IsHex (rt.sha256 text)

/-- A runtime with a collision-free digest that never draws one identifier twice. -/
def Runtime.reference : Runtime where
  sha256 text := String.ofList (text.toList.flatMap fun c => hex 6 c.toNat)
  uuid4 n := "00000000-0000-4000-8000-" ++ String.ofList (hex 12 n)
  now _ := ⟨2026, 3, 1, 9, 0, 0, 0, 0, by decide, by decide⟩
  isPrintable _ := true

theorem DateTime.offset_valid_utc : (0 : ℤ).natAbs < dayMicros.natAbs := by decide

/-- A full hour in UTC. -/
def DateTime.utcHour (year month day hour : ℕ) (h : (year < 10000 ∧ month < 13 ∧ day < 32 ∧
    hour < 24) ∧ 1 ≤ year ∧ 1 ≤ month ∧ 1 ≤ day ∧ day ≤ daysInMonth year month) : DateTime where
  year := ⟨year, h.1.1⟩
  month := ⟨month, h.1.2.1⟩
  day := ⟨day, h.1.2.2.1⟩
  hour := ⟨hour, h.1.2.2.2⟩
  minute := 0
  second := 0
  microsecond := 0
  utcoffset := 0
  date_valid := h.2
  offset_valid := DateTime.offset_valid_utc

theorem Runtime.reference_digest : Runtime.reference.Digest where
  injective := by
    have hlt (c : Char) : c.toNat < 16 ^ 6 := (char_lt c).trans (by decide)
    have hcode : SelfDelimiting (fun c : Char => hex 6 c.toNat) :=
      selfDelimiting_of_length (fun c d h => Char.toNat_inj.mp (hex_inj (hlt c) (hlt d) h))
        (by simp [hex])
    have hne (c : Char) : hex 6 c.toNat ≠ [] := by simp [← List.length_pos_iff, hex]
    intro s t h
    exact String.ext (flatMap_injective hcode hne (String.ofList_injective h))
  hex := by
    intro text c hc
    simp only [Runtime.reference, String.toList_ofList, List.mem_flatMap] at hc
    obtain ⟨d, -, hd⟩ := hc
    exact hex_digit 6 d.toNat c hd

theorem Runtime.reference_uuid4 : Set.InjOn Runtime.reference.uuid4 (Set.Iio (16 ^ 12)) :=
  fun _ hn _ hm h =>
    hex_inj hn hm (String.ofList_injective ((String.append_right_inj _).mp h))

/-- The code an `ActionPolicyError` carries. -/
inductive W3ActionFailureCode where
  | validationNotPassed
  | evidenceMissing
  | approvalDenied
  | policyBlocked
  | targetNotEligible
  | hashMismatch
  deriving DecidableEq

inductive PyError where
  | registryError (message : String)
  | graphIntegrityError (message : String)
  | schemaValidationError (message : String)
  | validationError (message : String)
  | valueError (message : String)
  | typeError (message : String)
  | indexError (message : String)
  | attributeError (message : String)
  | scopeViolationError (message : String)
  | assertionError (message : String)
  | invalidControlObjectError (message : String)
  | controlObjectStateError (message : String)
  | controlObjectFrozenError (message : String)
  | invalidLinkError (message : String)
  | listenerError (message : String)
  | validationBypassAttempt (message : String)
  | actionWithoutEvidenceError (message : String)
  | actionWithoutValidationError (message : String)
  | actionPolicyError (message : String) (failureCode : W3ActionFailureCode)
  | exceptionError (message : String)
  | reasoningScopeViolation (message : String)
  | reasoningPolicyViolation (message : String)
  | normalisationError (message : String)
  | jsonDecodeError (message : String)
  deriving DecidableEq

/-- `str(e)`. -/
def PyError.message : PyError → String
  | registryError message | graphIntegrityError message | schemaValidationError message
  | validationError message | valueError message | typeError message | indexError message
  | attributeError message
  | scopeViolationError message | assertionError message | invalidControlObjectError message
  | controlObjectStateError message | controlObjectFrozenError message | invalidLinkError message
  | listenerError message | validationBypassAttempt message | actionWithoutEvidenceError message
  | actionWithoutValidationError message | actionPolicyError message _ | exceptionError message
  | reasoningScopeViolation message | reasoningPolicyViolation message
  | normalisationError message | jsonDecodeError message => message

/-- What calling an executor ends in. A returned value that is no `dict[str, Any]` is any `Json`
other than an object. -/
inductive ExecutorOutcome where
  | returned (value : Json)
  | raised (message : String)

abbrev Executor := JsonDict → ExecutorOutcome

structure ExecutorCall where
  executor : Executor
  payload : JsonDict

structure MeterEvent where
  eventType : String
  tenantId : String
  quantity : ℤ

structure Env where
  /-- `TenantContext.get()` -/
  tenant : String
  draws : ℕ
  executed : List ExecutorCall
  metered : List MeterEvent

def Env.initial (tenant : String) : Env := ⟨tenant, 0, [], []⟩

/-- At most `k` draws lie between the two environments. -/
structure Env.Within (k : ℕ) (env env' : Env) : Prop where
  le : env.draws ≤ env'.draws
  bound : env'.draws ≤ env.draws + k

theorem Env.Within.refl (k : ℕ) (env : Env) : env.Within k env := ⟨le_rfl, by omega⟩

theorem Env.Within.trans {k l m : ℕ} {env env' env'' : Env} (h : env.Within k env')
    (h' : env'.Within l env'') (hm : k + l ≤ m) : env.Within m env'' := by
  obtain ⟨hle, hbound⟩ := h
  obtain ⟨hle', hbound'⟩ := h'
  exact ⟨by omega, by omega⟩

theorem Env.Within.mono {k l : ℕ} {env env' : Env} (h : env.Within k env') (hkl : k ≤ l) :
    env.Within l env' := ⟨h.le, h.bound.trans (by omega)⟩

/-- The environment `k` draws later. -/
def Env.tick (env : Env) (k : ℕ) : Env := { env with draws := env.draws + k }

@[simp] theorem Env.tick_draws (env : Env) (k : ℕ) : (env.tick k).draws = env.draws + k := rfl

@[simp] theorem Env.tick_tick (env : Env) (k l : ℕ) :
    (env.tick k).tick l = env.tick (k + l) := by
  unfold tick
  rw [Nat.add_assoc]

theorem Env.within_tick (env : Env) (k : ℕ) : env.Within k (env.tick k) :=
  ⟨Nat.le_add_right _ _, le_rfl⟩

namespace Runtime
variable (rt : Runtime) (env : Env) (k : ℕ)

/-- The identifiers drawn so far. -/
def drawn : Set String := rt.uuid4 '' Set.Iio env.draws

/-- The identifiers of the next `k` draws. -/
def fresh : Set String := rt.uuid4 '' Set.Ico env.draws (env.draws + k)

theorem drawn_tick : rt.drawn (env.tick k) = rt.drawn env ∪ rt.fresh env k := by
  unfold drawn fresh
  rw [← Set.image_union, Set.Iio_union_Ico_eq_Iio (Nat.le_add_right _ _)]
  rfl

theorem disjoint_drawn_fresh {rt : Runtime} {env : Env} {k : ℕ}
    (huuid : Set.InjOn rt.uuid4 (Set.Iio (env.draws + k))) :
    Disjoint (rt.drawn env) (rt.fresh env k) := by
  have hsub : Set.Iio env.draws ⊆ Set.Iio (env.draws + k) :=
    Set.Iio_subset_Iio (Nat.le_add_right _ _)
  have hdisjoint : Disjoint (Set.Iio env.draws) (Set.Ico env.draws (env.draws + k)) := by
    rw [Set.disjoint_left]
    intro n hn hico
    exact absurd hico.1 (not_le.mpr hn)
  exact hdisjoint.image huuid hsub Set.Ico_subset_Iio_self

variable {k} in
theorem mem_fresh {j : ℕ} (h : j < k) : rt.uuid4 (env.draws + j) ∈ rt.fresh env k :=
  Set.mem_image_of_mem _ ⟨Nat.le_add_right _ _, Nat.add_lt_add_left h _⟩

end Runtime

/-- An object together with the environment its methods run in. -/
structure World (σ : Type) where
  self : σ
  env : Env

/-- A method of an object with state `σ`. An exception keeps the changes made before it. -/
abbrev Method (σ α : Type) := EStateM PyError (World σ) α

namespace Method
variable {σ τ α β : Type}

def self : Method σ σ := fun w => .ok w.self w

def assign (f : σ → σ) : Method σ Unit := fun w => .ok () { w with self := f w.self }

def raise (e : PyError) : Method σ α := fun w => .error e w

def draw : Method σ ℕ := fun w =>
  .ok w.env.draws { w with env := { w.env with draws := w.env.draws + 1 } }

/-- `executor(payload)`. -/
def call (executor : Executor) (payload : JsonDict) : Method σ ExecutorOutcome := fun w =>
  .ok (executor payload)
    { w with env := { w.env with executed := w.env.executed ++ [⟨executor, payload⟩] } }

/-- `metering_engine.record(event_type, TenantContext.get())`. -/
def meter (eventType : String) : Method σ Unit := fun w =>
  .ok () { w with env := { w.env with metered := w.env.metered ++ [⟨eventType, w.env.tenant, 1⟩] } }

/-- A method called on a part of the object. -/
def on (get : τ → σ) (set : σ → τ → τ) (m : Method σ α) : Method τ α := fun w =>
  match m.run ⟨get w.self, w.env⟩ with
  | .ok a v => .ok a ⟨set v.self w.self, v.env⟩
  | .error e v => .error e ⟨set v.self w.self, v.env⟩

def lift (r : Except PyError α) : Method σ α :=
  match r with
  | .ok a => pure a
  | .error e => raise e

@[simp] theorem run_pure (a : α) (w : World σ) : (pure a : Method σ α).run w = .ok a w := rfl

@[simp] theorem run_map (f : α → β) (m : Method σ α) (w : World σ) :
    (f <$> m).run w = match m.run w with
      | .ok a v => .ok (f a) v
      | .error e v => .error e v := by
  rw [map_eq_pure_bind, EStateM.run_bind]
  cases m.run w <;> rfl

theorem run_discard (m : Method σ α) (w : World σ) : (discard m).run w = match m.run w with
    | .ok _ v => .ok () v
    | .error e v => .error e v := run_map (fun _ => ()) m w

theorem run_discard_ok {m : Method σ α} {a : α} {w v : World σ} (h : m.run w = .ok a v) :
    (discard m).run w = .ok () v := by rw [run_discard, h]

theorem run_discard_error {m : Method σ α} {e : PyError} {w v : World σ}
    (h : m.run w = .error e v) : (discard m).run w = .error e v := by rw [run_discard, h]

theorem run_map_map {γ : Type} (f : α → β) (g : β → γ) (m : Method σ α) (w : World σ) :
    (g <$> f <$> m).run w = ((fun a => g (f a)) <$> m).run w := by
  simp only [run_map]
  cases m.run w <;> rfl

@[simp] theorem run_self (w : World σ) : (self : Method σ σ).run w = .ok w.self w := rfl

@[simp] theorem run_assign (f : σ → σ) (w : World σ) :
    (assign f).run w = .ok () { w with self := f w.self } := rfl

@[simp] theorem run_raise (e : PyError) (w : World σ) :
    (raise e : Method σ α).run w = .error e w := rfl

@[simp] theorem run_draw (w : World σ) : (draw : Method σ ℕ).run w =
    .ok w.env.draws { w with env := { w.env with draws := w.env.draws + 1 } } := rfl

theorem run_draw_tick (w : World σ) :
    (draw : Method σ ℕ).run w = .ok w.env.draws ⟨w.self, w.env.tick 1⟩ := rfl

@[simp] theorem run_call (executor : Executor) (payload : JsonDict) (w : World σ) :
    (call executor payload).run w = .ok (executor payload)
      { w with env := { w.env with executed := w.env.executed ++ [⟨executor, payload⟩] } } := rfl

@[simp] theorem run_meter (eventType : String) (w : World σ) : (meter eventType).run w =
    .ok () { w with
      env := { w.env with metered := w.env.metered ++ [⟨eventType, w.env.tenant, 1⟩] } } := rfl

theorem run_on (get : τ → σ) (set : σ → τ → τ) (m : Method σ α) (w : World τ) :
    (on get set m).run w = match m.run ⟨get w.self, w.env⟩ with
      | .ok a v => .ok a ⟨set v.self w.self, v.env⟩
      | .error e v => .error e ⟨set v.self w.self, v.env⟩ := rfl

@[simp] theorem run_lift_ok (a : α) (w : World σ) :
    (lift (.ok a) : Method σ α).run w = .ok a w := rfl

@[simp] theorem run_lift_error (e : PyError) (w : World σ) :
    (lift (.error e) : Method σ α).run w = .error e w := rfl

theorem lift_ok {r : Except PyError α} {a : α} {w w' : World σ} :
    (lift r : Method σ α).run w = .ok a w' ↔ r = .ok a ∧ w = w' := by
  cases r <;> simp

theorem run_tryCatch (m : Method σ α) (handle : PyError → Method σ α) (w : World σ) :
    (tryCatch m handle).run w = match m.run w with
      | .ok a v => .ok a v
      | .error e v => (handle e).run v := by
  show EStateM.tryCatch m handle w = match m w with
    | .ok a v => .ok a v
    | .error e v => handle e v
  unfold EStateM.tryCatch
  cases m w with
  | ok a v => rfl
  | error e v => rfl

/-- The object a call leaves behind, whether it returned or raised. -/
def after (m : Method σ α) (w : World σ) : World σ :=
  match m.run w with
  | .ok _ v => v
  | .error _ v => v

theorem after_ok {m : Method σ α} {w v : World σ} {a : α} (h : m.run w = .ok a v) :
    m.after w = v := by simp [after, h]

theorem after_error {m : Method σ α} {w v : World σ} {e : PyError} (h : m.run w = .error e v) :
    m.after w = v := by simp [after, h]

@[simp] theorem after_map (f : α → β) (m : Method σ α) (w : World σ) :
    (f <$> m).after w = m.after w := by
  simp only [after, run_map]
  cases m.run w <;> rfl

@[simp] theorem after_discard (m : Method σ α) (w : World σ) :
    (discard m).after w = m.after w := after_map (fun _ => ()) m w

theorem after_on (get : τ → σ) (set : σ → τ → τ) (m : Method σ α) (w : World τ) :
    (on get set m).after w =
      ⟨set (m.after ⟨get w.self, w.env⟩).self w.self, (m.after ⟨get w.self, w.env⟩).env⟩ := by
  simp only [after, run_on]
  cases m.run ⟨get w.self, w.env⟩ <;> rfl

@[simp] theorem after_pure (a : α) (w : World σ) : (pure a : Method σ α).after w = w := rfl

@[simp] theorem after_raise (e : PyError) (w : World σ) : (raise e : Method σ α).after w = w := rfl

/-- A call that returns has returned from each of its parts. -/
theorem bind_ok {m : Method σ α} {f : α → Method σ β} {w w' : World σ} {b : β} :
    (m >>= f).run w = .ok b w' ↔ ∃ a v, m.run w = .ok a v ∧ (f a).run v = .ok b w' := by
  rw [EStateM.run_bind]
  cases m.run w with
  | ok a v => simp
  | error e v => simp

theorem returns_bind {m : Method σ α} {f : α → Method σ β} {w v : World σ} {a : α}
    (h : m.run w = .ok a v) (hf : ∃ b u, (f a).run v = .ok b u) :
    ∃ b u, (m >>= f).run w = .ok b u := by
  rw [EStateM.run_bind, h]
  exact hf

theorem after_bind (m : Method σ α) (f : α → Method σ β) (w : World σ) :
    (m >>= f).after w = match m.run w with
      | .ok a v => (f a).after v
      | .error _ v => v := by
  rw [after, EStateM.run_bind]
  cases m.run w <;> rfl

theorem after_bind_ok {m : Method σ α} {f : α → Method σ β} {w v : World σ} {a : α}
    (h : m.run w = .ok a v) : (m >>= f).after w = (f a).after v := by
  rw [after_bind, h]

/-- What is returned in the end does not matter to what is left behind. -/
theorem after_bind_pure (m : Method σ α) (f : α → β) (w : World σ) :
    (m >>= fun a => pure (f a)).after w = m.after w := by
  rw [after_bind, after]
  cases m.run w <;> rfl

/-- The call returned. -/
def returns (m : Method σ α) (w : World σ) : Bool :=
  match m.run w with
  | .ok _ _ => true
  | .error _ _ => false

end Method
end ControlFabric
