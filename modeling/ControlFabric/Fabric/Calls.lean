import ControlFabric.Fabric.Service
import ControlFabric.Fabric.ObjectSteps

/-! How the calls on a graph service end. -/
namespace ControlFabric.Fabric
open Lib Py Method

namespace GraphService

/-- The service with further events in its log. -/
def logged (events : List FabricAuditEvent) (s : GraphService) : GraphService :=
  { s with audit := { s.audit with events := s.audit.events ++ events } }

@[simp] theorem logged_repo (events : List FabricAuditEvent) (s : GraphService) :
    (s.logged events).repo = s.repo := rfl

@[simp] theorem logged_events (events : List FabricAuditEvent) (s : GraphService) :
    (s.logged events).audit.events = s.audit.events ++ events := rfl

@[simp] theorem logged_nil (s : GraphService) : s.logged [] = s := by
  unfold logged
  rw [List.append_nil]

theorem logged_logged (events events' : List FabricAuditEvent) (s : GraphService) :
    (s.logged events).logged events' = s.logged (events ++ events') := by
  unfold logged
  rw [List.append_assoc]

@[simp] theorem storeObject_audit (obj : ControlObject) (s : GraphService) :
    (storeObject obj s).audit = s.audit := rfl

@[simp] theorem storeLink_audit (link : ControlLink) (s : GraphService) :
    (storeLink link s).audit = s.audit := rfl

@[simp] theorem storeObject_objects (obj : ControlObject) (s : GraphService) :
    (storeObject obj s).repo.objects = s.repo.objects.set obj.id obj := rfl

@[simp] theorem storeObject_links (obj : ControlObject) (s : GraphService) :
    (storeObject obj s).repo.links = s.repo.links := rfl

@[simp] theorem storeLink_objects (link : ControlLink) (s : GraphService) :
    (storeLink link s).repo.objects = s.repo.objects := rfl

@[simp] theorem storeLink_links (link : ControlLink) (s : GraphService) :
    (storeLink link s).repo.links = s.repo.links.set link.id link := rfl

theorem storeObject_of_get? {obj : ControlObject} {s : GraphService}
    (h : s.repo.objects.get? obj.id = some obj) : storeObject obj s = s := by
  have hset : s.repo.objects.set obj.id obj = s.repo.objects := Dict.set_of_get? h
  unfold storeObject InMemoryGraphRepository.storeObject
  rw [hset]

theorem storeObject_storeObject {obj obj' : ControlObject} (h : obj'.id = obj.id)
    (s : GraphService) : storeObject obj' (storeObject obj s) = storeObject obj' s := by
  unfold storeObject InMemoryGraphRepository.storeObject
  rw [h, Dict.set_set]

end GraphService

section Leads
variable {α β : Type} {w : World GraphService}

/-- How a call ends: after `k` draws, raising or not, with the service it leaves behind. -/
def Leads (m : Method GraphService α) (w : World GraphService) (k : ℕ) (raised : Bool)
    (s : GraphService) : Prop :=
  (raised = false ∧ ∃ a, m.run w = .ok a ⟨s, w.env.tick k⟩) ∨
    raised = true ∧ ∃ e, m.run w = .error e ⟨s, w.env.tick k⟩

theorem leads_ok {m : Method GraphService α} {k : ℕ} {a : α} {s : GraphService}
    (h : m.run w = .ok a ⟨s, w.env.tick k⟩) : Leads m w k false s :=
  Or.inl ⟨rfl, a, h⟩

theorem leads_error {m : Method GraphService α} {k : ℕ} {e : PyError} {s : GraphService}
    (h : m.run w = .error e ⟨s, w.env.tick k⟩) : Leads m w k true s :=
  Or.inr ⟨rfl, e, h⟩

/-- A call behind one that returned. -/
theorem Leads.after {m : Method GraphService α} {f : α → Method GraphService β} {a : α}
    {k l : ℕ} {raised : Bool} {s t : GraphService} (hm : m.run w = .ok a ⟨t, w.env.tick k⟩)
    (h : Leads (f a) ⟨t, w.env.tick k⟩ l raised s) : Leads (m >>= f) w (l + k) raised s := by
  have hbind : (m >>= f).run w = (f a).run ⟨t, w.env.tick k⟩ := by
    rw [EStateM.run_bind, hm]
  unfold Leads at h ⊢
  rw [Env.tick_tick, Nat.add_comm] at h
  rw [hbind]
  exact h

/-- A call behind one that draws nothing. -/
theorem Leads.behind {m : Method GraphService α} {f : α → Method GraphService β} {a : α} {k : ℕ}
    {raised : Bool} {s t : GraphService} (hm : m.run w = .ok a ⟨t, w.env⟩)
    (h : Leads (f a) ⟨t, w.env⟩ k raised s) : Leads (m >>= f) w k raised s :=
  Leads.after (k := 0) hm h

theorem leads_draw {f : ℕ → Method GraphService β} {k : ℕ} {raised : Bool} {s : GraphService}
    (h : Leads (f w.env.draws) ⟨w.self, w.env.tick 1⟩ k raised s) :
    Leads (draw >>= f) w (k + 1) raised s := Leads.after (run_draw_tick w) h

/-- Nothing follows on a call that raised. -/
theorem leads_bind_error {m : Method GraphService α} {f : α → Method GraphService β} {e : PyError}
    {s : GraphService} {k : ℕ} (hm : m.run w = .error e ⟨s, w.env.tick k⟩) :
    Leads (m >>= f) w k true s := by
  have hbind : (m >>= f).run w = .error e ⟨s, w.env.tick k⟩ := by
    rw [EStateM.run_bind, hm]
  exact leads_error hbind

theorem Leads.map {m : Method GraphService α} {k : ℕ} {raised : Bool} {s : GraphService}
    (f : α → β) (h : Leads m w k raised s) : Leads (f <$> m) w k raised s := by
  rcases h with ⟨rfl, a, hrun⟩ | ⟨rfl, e, hrun⟩
  · have hmap : (f <$> m).run w = .ok (f a) ⟨s, w.env.tick k⟩ := by
      rw [run_map, hrun]
    exact leads_ok hmap
  · have hmap : (f <$> m).run w = .error e ⟨s, w.env.tick k⟩ := by
      rw [run_map, hrun]
    exact leads_error hmap

theorem Leads.self_after {m : Method GraphService α} {k : ℕ} {raised : Bool} {s : GraphService}
    (h : Leads m w k raised s) : m.after w = ⟨s, w.env.tick k⟩ := by
  rcases h with ⟨-, a, hrun⟩ | ⟨-, e, hrun⟩
  · exact after_ok hrun
  · exact after_error hrun

theorem Leads.returns {m : Method GraphService α} {k : ℕ} {raised : Bool} {s : GraphService}
    (h : Leads m w k raised s) : m.returns w = !raised := by
  unfold Method.returns
  rcases h with ⟨rfl, a, hrun⟩ | ⟨rfl, e, hrun⟩
  · rw [hrun]
    rfl
  · rw [hrun]
    rfl

/-- Logging an event raises when a listener objects; the event stays in the log. -/
theorem leads_hook (rt : Runtime) (event : String → DateTime → FabricAuditEvent)
    (w : World GraphService) :
    (w.self.audit.objection = none ∧
      (GraphService.hook (FabricAuditHook.emit rt event)).run w = .ok ()
        ⟨w.self.logged [event (rt.uuid4 w.env.draws) (rt.now w.env.draws)], w.env.tick 1⟩) ∨
      w.self.audit.objection ≠ none ∧ ∃ e,
        (GraphService.hook (FabricAuditHook.emit rt event)).run w = .error e
          ⟨w.self.logged [event (rt.uuid4 w.env.draws) (rt.now w.env.draws)], w.env.tick 1⟩ := by
  unfold GraphService.hook FabricAuditHook.emit
  rw [run_on, EStateM.run_bind, run_draw_tick]
  dsimp only
  rw [EStateM.run_bind, run_self]
  dsimp only
  rw [EStateM.run_bind, run_assign]
  dsimp only
  cases w.self.audit.objection with
  | none => exact Or.inl ⟨rfl, rfl⟩
  | some message => exact Or.inr ⟨Option.some_ne_none _, _, rfl⟩

theorem leads_hook_none (rt : Runtime) (event : String → DateTime → FabricAuditEvent)
    {f : Unit → Method GraphService β} {k : ℕ} {raised : Bool} {s : GraphService}
    (hnone : w.self.audit.objection = none)
    (h : Leads (f ()) ⟨w.self.logged [event (rt.uuid4 w.env.draws) (rt.now w.env.draws)],
      w.env.tick 1⟩ k raised s) :
    Leads (GraphService.hook (FabricAuditHook.emit rt event) >>= f) w (k + 1) raised s := by
  rcases leads_hook rt event w with ⟨-, hrun⟩ | ⟨hsome, -⟩
  · exact Leads.after hrun h
  · exact absurd hnone hsome

theorem leads_hook_some (rt : Runtime) (event : String → DateTime → FabricAuditEvent)
    {f : Unit → Method GraphService β} (hsome : w.self.audit.objection ≠ none) :
    Leads (GraphService.hook (FabricAuditHook.emit rt event) >>= f) w 1 true
      (w.self.logged [event (rt.uuid4 w.env.draws) (rt.now w.env.draws)]) := by
  rcases leads_hook rt event w with ⟨hnone, -⟩ | ⟨-, e, hrun⟩
  · exact absurd hnone hsome
  · exact leads_bind_error hrun

theorem leads_hook_last (rt : Runtime) (event : String → DateTime → FabricAuditEvent) (b : β) :
    Leads (do
      GraphService.hook (FabricAuditHook.emit rt event)
      return b) w 1 w.self.audit.objection.isSome
      (w.self.logged [event (rt.uuid4 w.env.draws) (rt.now w.env.draws)]) := by
  cases hobjection : w.self.audit.objection with
  | none => exact leads_hook_none rt event hobjection (leads_ok rfl)
  | some message =>
    apply leads_hook_some rt event
    rw [hobjection]
    exact Option.some_ne_none message

/-- The end of an operation that logs an event: the object is stored again. -/
def announceStored (rt : Runtime) (event : String → DateTime → FabricAuditEvent)
    (changed : ControlObject) : Method GraphService ControlObject := do
  GraphService.hook (FabricAuditHook.emit rt event)
  assign (GraphService.storeObject changed)
  return changed

theorem leads_announceStored (rt : Runtime) (event : String → DateTime → FabricAuditEvent)
    {obj : ControlObject} {w : World GraphService}
    (hstored : w.self.repo.objects.get? obj.id = some obj) :
    Leads (announceStored rt event obj) w 1 w.self.audit.objection.isSome
      (w.self.logged [event (rt.uuid4 w.env.draws) (rt.now w.env.draws)]) := by
  unfold announceStored
  cases hobjection : w.self.audit.objection with
  | none =>
    apply leads_hook_none rt event hobjection
    apply leads_ok (a := obj)
    have hagain := GraphService.storeObject_of_get?
      (s := w.self.logged [event (rt.uuid4 w.env.draws) (rt.now w.env.draws)]) hstored
    rw [EStateM.run_bind, run_assign]
    dsimp only
    rw [hagain]
    rfl
  | some message =>
    apply leads_hook_some rt event
    rw [hobjection]
    exact Option.some_ne_none message

theorem leads_withObject {objectId : String} {obj : ControlObject}
    {f : ControlObject → Method GraphService ControlObject} {k : ℕ} {raised : Bool}
    {s : GraphService} (hget : w.self.repo.objects.get? objectId = some obj)
    (h : Leads (f obj) w k raised s) : Leads (GraphService.withObject objectId f) w k raised s := by
  have hwith : (GraphService.withObject objectId f).run w = (some <$> f obj).run w := by
    unfold GraphService.withObject
    rw [EStateM.run_bind, run_self]
    dsimp only
    rw [hget]
  unfold Leads
  rw [hwith]
  exact h.map some

theorem leads_withObject_none {objectId : String}
    {f : ControlObject → Method GraphService ControlObject}
    (hget : w.self.repo.objects.get? objectId = none) :
    Leads (GraphService.withObject objectId f) w 0 false w.self := by
  have hwith : (GraphService.withObject objectId f).run w = .ok none w := by
    unfold GraphService.withObject
    rw [EStateM.run_bind, run_self]
    dsimp only
    rw [hget]
    rfl
  exact leads_ok hwith

/-- A method of a stored object that returns is seen in the repository. -/
theorem run_callStored_ok {obj obj' : ControlObject} {m : Method ControlObject Unit} {env : Env}
    (h : m.run ⟨obj, w.env⟩ = .ok () ⟨obj', env⟩) :
    (GraphService.callStored obj m).run w =
      .ok obj' ⟨GraphService.storeObject obj' w.self, env⟩ := by
  unfold GraphService.callStored
  rw [run_on, EStateM.run_bind, h]
  rfl

/-- So is what it assigned before it raised. -/
theorem run_callStored_error {obj obj' : ControlObject} {m : Method ControlObject Unit}
    {e : PyError} {env : Env} (h : m.run ⟨obj, w.env⟩ = .error e ⟨obj', env⟩) :
    (GraphService.callStored obj m).run w =
      .error e ⟨GraphService.storeObject obj' w.self, env⟩ := by
  unfold GraphService.callStored
  rw [run_on, EStateM.run_bind, h]

theorem run_callNew_ok {obj obj' : ControlObject} {m : Method ControlObject Unit} {env : Env}
    (h : m.run ⟨obj, w.env⟩ = .ok () ⟨obj', env⟩) :
    (GraphService.callNew obj m).run w = .ok obj' ⟨w.self, env⟩ := by
  unfold GraphService.callNew
  rw [run_on, EStateM.run_bind, h]
  rfl

theorem run_supersedeStored_ok {rt : Runtime} {uc : Unicode} {obj newObj original : ControlObject}
    {update : ControlObjectCreate} {actor : String} {env : Env}
    (h : (supersedeObject rt uc update actor).run ⟨obj, w.env⟩ = .ok newObj ⟨original, env⟩) :
    (GraphService.supersedeStored rt uc obj update actor).run w =
      .ok (newObj, original) ⟨GraphService.storeObject original w.self, env⟩ := by
  unfold GraphService.supersedeStored
  rw [run_on, EStateM.run_bind, h]
  rfl

theorem run_supersedeStored_error {rt : Runtime} {uc : Unicode} {obj original : ControlObject}
    {update : ControlObjectCreate} {actor : String} {e : PyError} {env : Env}
    (h : (supersedeObject rt uc update actor).run ⟨obj, w.env⟩ = .error e ⟨original, env⟩) :
    (GraphService.supersedeStored rt uc obj update actor).run w =
      .error e ⟨GraphService.storeObject original w.self, env⟩ := by
  unfold GraphService.supersedeStored
  rw [run_on, EStateM.run_bind, h]

/-- The shape of an operation that calls a method of a stored object. -/
def changeStored (objectId : String) (m : ℕ → Method ControlObject Unit)
    (rest : ControlObject → ControlObject → Method GraphService ControlObject) :
    Method GraphService (Option ControlObject) :=
  GraphService.withObject objectId fun obj => do
    let n ← draw
    let changed ← GraphService.callStored obj (m n)
    rest obj changed

variable {objectId : String} {obj : ControlObject} {m : ℕ → Method ControlObject Unit}
  {rest : ControlObject → ControlObject → Method GraphService ControlObject}

theorem leads_change {obj' : ControlObject} {k : ℕ} {raised : Bool} {s : GraphService}
    (hget : w.self.repo.objects.get? objectId = some obj)
    (hm : (m w.env.draws).run ⟨obj, w.env.tick 1⟩ = .ok () ⟨obj', w.env.tick 2⟩)
    (hrest : Leads (rest obj obj') ⟨GraphService.storeObject obj' w.self, w.env.tick 2⟩ k raised
      s) : Leads (changeStored objectId m rest) w (k + 2) raised s := by
  have hcall := run_callStored_ok (w := ⟨w.self, w.env.tick 1⟩) hm
  have hcalled : Leads (GraphService.callStored obj (m w.env.draws) >>= rest obj)
      ⟨w.self, w.env.tick 1⟩ (k + 1) raised s := by
    apply Leads.after (a := obj') (t := GraphService.storeObject obj' w.self)
    · rw [hcall, Env.tick_tick]
    · rw [Env.tick_tick]
      exact hrest
  exact leads_withObject hget (leads_draw hcalled)

theorem leads_refuse {e : PyError} (hget : w.self.repo.objects.get? objectId = some obj)
    (hid : obj.id = objectId)
    (hm : (m w.env.draws).run ⟨obj, w.env.tick 1⟩ = .error e ⟨obj, w.env.tick 1⟩) :
    Leads (changeStored objectId m rest) w 1 true w.self := by
  have hcall := run_callStored_error (w := ⟨w.self, w.env.tick 1⟩) hm
  rw [GraphService.storeObject_of_get? (hid ▸ hget)] at hcall
  have hrefused : Leads (GraphService.callStored obj (m w.env.draws) >>= rest obj)
      ⟨w.self, w.env.tick 1⟩ 0 true w.self := leads_bind_error hcall
  exact leads_withObject hget (leads_draw hrefused)

end Leads
end ControlFabric.Fabric
