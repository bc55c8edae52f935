import ControlFabric.Pilot.Lifecycle

/-! What the approval service keeps against what the timelines say: every approval, override and
escalation kept stands in the timeline of its case, in order, and what else stands there was a move
of the case service itself. -/
namespace ControlFabric.Pilot
open Lib Py CaseMethod

/-- Who moved the case and what was written down with it. -/
def TimelineEntry.mark (e : TimelineEntry) : String × JsonDict := (e.actorId, e.details)

def Decision.mark (d : Decision) : String × JsonDict := (d.actorId, [("reason", .str d.reason)])

def DirectMove.mark (m : DirectMove) : String × JsonDict :=
  (m.actorId, Fabric.updateDict [("reason", PilotCaseService.optionalStr m.reason)]
    (m.metadata.getD []))

/-- The entries of a timeline that lead into a state. -/
def intoState (state : PilotCaseState) (timeline : List TimelineEntry) : List TimelineEntry :=
  timeline.filter fun e => e.toState = some state.value

/-- The moves of a case into a state. -/
def movesInto (caseId : String) (state : PilotCaseState) (moves : List DirectMove) : List DirectMove :=
  moves.filter fun m => m.caseId = caseId ∧ m.target = state

theorem intoState_stateless {entries : List TimelineEntry} (h : Stateless entries)
    (state : PilotCaseState) : intoState state entries = [] := by
  rw [intoState, List.filter_eq_nil_iff]
  intro e he
  simp [(h e he).2]

theorem intoState_append (state : PilotCaseState) (timeline entries : List TimelineEntry) :
    intoState state (timeline ++ entries) = intoState state timeline ++ intoState state entries :=
  List.filter_append ..

theorem intoState_created (kind : DecisionKind) (data : PilotCaseCreate) (creatorId : String)
    (now : DateTime) :
    intoState kind.target [PilotCaseService.createdEntry data creatorId now] = [] := by
  cases kind <;> rfl

theorem intoState_transition (current target state : PilotCaseState) (actorId : String)
    (reason : Option String) (metadata : Option JsonDict) (now : DateTime) :
    intoState state [PilotCaseService.transitionEntry current target actorId reason metadata now] =
      if target = state then
        [PilotCaseService.transitionEntry current target actorId reason metadata now] else [] := by
  by_cases h : target = state
  · simp [intoState, PilotCaseService.transitionEntry, h]
  · have hvalue : target.value ≠ state.value := fun he => h (value_injective he)
    simp [intoState, PilotCaseService.transitionEntry, h, hvalue]

theorem movesInto_append (caseId : String) (state : PilotCaseState) (moves more : List DirectMove) :
    movesInto caseId state (moves ++ more) = movesInto caseId state moves ++ movesInto caseId state more :=
  List.filter_append ..

theorem movesInto_singleton (caseId : String) (state : PilotCaseState) (m : DirectMove) :
    movesInto caseId state [m] = if m.caseId = caseId ∧ m.target = state then [m] else [] := by
  by_cases h : m.caseId = caseId ∧ m.target = state
  · simp [movesInto, h]
  · rw [if_neg h, movesInto, List.filter_eq_nil_iff]
    simpa using h

/-- What is kept of the decisions against the timelines and the moves made beside them. -/
structure Ledger (s : ApprovalService) (moves : List DirectMove) : Prop where
  blank : ∀ caseId ∉ s.caseService.cases, s.caseService.getTimeline caseId = []
  stands : ∀ caseId kind, ((s.decisions caseId kind).map Decision.mark).Sublist
    ((intoState kind.target (s.caseService.getTimeline caseId)).map TimelineEntry.mark)
  moved : ∀ caseId (kind : DecisionKind), ((movesInto caseId kind.target moves).map
    DirectMove.mark).Sublist
      ((intoState kind.target (s.caseService.getTimeline caseId)).map TimelineEntry.mark)
  accounted : ∀ caseId kind,
    ((intoState kind.target (s.caseService.getTimeline caseId)).map TimelineEntry.mark).Perm
      ((s.decisions caseId kind).map Decision.mark ++
        (movesInto caseId kind.target moves).map DirectMove.mark)

namespace Ledger
variable {rt : Runtime} {s s' : ApprovalService} {moves : List DirectMove}

theorem new : Ledger ApprovalService.new [] where
  blank := fun _ _ => rfl
  stands := by
    intro caseId kind
    cases kind <;> exact List.nil_sublist _
  moved := by
    intro caseId kind
    exact List.nil_sublist _
  accounted := by
    intro caseId kind
    cases kind <;> exact List.Perm.nil

/-- Timelines change at one case, where nothing is entered into a state that decisions lead to. -/
theorem undecided {caseId : String} {timeline : List TimelineEntry} (h : Ledger s moves)
    (hknown : ∀ id, id ∉ s'.caseService.cases → id ≠ caseId ∧ id ∉ s.caseService.cases)
    (htimeline : s'.caseService.getTimeline = Function.update s.caseService.getTimeline caseId timeline)
    (hinto : ∀ kind : DecisionKind, intoState kind.target timeline =
      intoState kind.target (s.caseService.getTimeline caseId))
    (hdecisions : s'.decisions = s.decisions) : Ledger s' moves := by
  have hsame : ∀ id (kind : DecisionKind), intoState kind.target (s'.caseService.getTimeline id) =
      intoState kind.target (s.caseService.getTimeline id) := by
    intro id kind
    rw [htimeline, Function.update_apply]
    split
    next heq => rw [hinto, heq]
    next => rfl
  constructor
  · intro id hid
    obtain ⟨hne, hnot⟩ := hknown id hid
    rw [htimeline, Function.update_of_ne hne, h.blank id hnot]
  · intro id kind
    rw [hdecisions, hsame]
    exact h.stands id kind
  · intro id kind
    rw [hsame]
    exact h.moved id kind
  · intro id kind
    rw [hdecisions, hsame]
    exact h.accounted id kind

/-- A case that is moved gets an entry, which leads into the state it is moved to. -/
theorem timeline_moved {w w' : World ApprovalService} {caseId : String} {case : PilotCase}
    {target : PilotCaseState} {actorId : String} {reason : Option String} {metadata : Option JsonDict}
    (hmoved : Moved w w' caseId case target actorId reason metadata) :
    (∀ id, id ∉ w'.self.caseService.cases → id ≠ caseId ∧ id ∉ w.self.caseService.cases) ∧
    ∃ e : TimelineEntry, e.actorId = actorId ∧
      e.details = Fabric.updateDict [("reason", PilotCaseService.optionalStr reason)]
        (metadata.getD []) ∧
      (∀ state, intoState state [e] = if target = state then [e] else []) ∧
      w'.self.caseService.getTimeline = Function.update w.self.caseService.getTimeline caseId
        (w.self.caseService.getTimeline caseId ++ [e]) := by
  obtain ⟨now, hcases, htimeline⟩ := hmoved.change
  refine ⟨fun id hid => ?_, _, rfl, rfl, fun state => ?_, htimeline⟩
  · rw [hcases, Dict.mem_set, not_or] at hid
    exact hid
  · exact intoState_transition case.state target state actorId reason metadata now

theorem blank_moved {w w' : World ApprovalService} (h : Ledger w.self moves) {caseId : String}
    {timeline : List TimelineEntry}
    (hknown : ∀ id, id ∉ w'.self.caseService.cases → id ≠ caseId ∧ id ∉ w.self.caseService.cases)
    (htimeline : w'.self.caseService.getTimeline =
      Function.update w.self.caseService.getTimeline caseId timeline) :
    ∀ id ∉ w'.self.caseService.cases, w'.self.caseService.getTimeline id = [] := by
  intro id hid
  obtain ⟨hne, hnot⟩ := hknown id hid
  rw [htimeline, Function.update_of_ne hne, h.blank id hnot]

/-- A direct move is entered and kept nowhere else. -/
theorem move {w w' : World ApprovalService} (h : Ledger w.self moves) {caseId : String}
    {case : PilotCase} {target : PilotCaseState} {actorId : String} {reason : Option String}
    {metadata : Option JsonDict} (hmoved : Moved w w' caseId case target actorId reason metadata)
    (hdecisions : w'.self.decisions = w.self.decisions) :
    Ledger w'.self (moves ++ [⟨caseId, target, actorId, reason, metadata⟩]) := by
  obtain ⟨hknown, e, hactor, hdetails, hinto, htimeline⟩ := timeline_moved hmoved
  have hmark : e.mark = DirectMove.mark ⟨caseId, target, actorId, reason, metadata⟩ := by
    rw [TimelineEntry.mark, DirectMove.mark, hactor, hdetails]
  refine ⟨h.blank_moved hknown htimeline, fun id kind => ?_, fun id kind => ?_, fun id kind => ?_⟩
  · rw [hdecisions, htimeline, Function.update_apply]
    split
    next heq =>
      subst heq
      rw [intoState_append, List.map_append]
      exact (h.stands id kind).trans (List.sublist_append_left _ _)
    next => exact h.stands id kind
  · rw [htimeline, Function.update_apply, movesInto_append, movesInto_singleton, List.map_append]
    by_cases heq : id = caseId
    · subst heq
      rw [if_pos rfl, intoState_append, List.map_append, hinto]
      refine (h.moved id kind).append ?_
      by_cases htarget : target = kind.target
      · subst htarget
        simp [hmark]
      · simp [htarget]
    · simpa [heq, Ne.symm heq] using h.moved id kind
  · rw [hdecisions, htimeline, Function.update_apply, movesInto_append, movesInto_singleton,
      List.map_append, ← List.append_assoc]
    by_cases heq : id = caseId
    · subst heq
      rw [if_pos rfl, intoState_append, List.map_append, hinto]
      refine (h.accounted id kind).append ?_
      by_cases htarget : target = kind.target
      · subst htarget
        simp [hmark]
      · simp [htarget]
    · simpa [heq, Ne.symm heq] using h.accounted id kind

/-- A decision is entered and kept, with the one who decided and the reason. -/
theorem decide {w w' : World ApprovalService} (h : Ledger w.self moves) {kind : DecisionKind}
    {caseId : String} {case : PilotCase} {actorId text : String}
    (hmoved : Moved w w' caseId case kind.target actorId (some text) none)
    (hdecisions : w'.self.decisions = Function.update w.self.decisions caseId
      (Function.update (w.self.decisions caseId) kind
        (w.self.decisions caseId kind ++ [⟨actorId, text⟩]))) : Ledger w'.self moves := by
  obtain ⟨hknown, e, hactor, hdetails, hinto, htimeline⟩ := timeline_moved hmoved
  have hmark : e.mark = Decision.mark ⟨actorId, text⟩ := by
    rw [TimelineEntry.mark, Decision.mark, hactor, hdetails]
    rfl
  have htarget : ∀ kind' : DecisionKind, kind.target = kind'.target → kind' = kind := by
    intro kind' he
    cases kind <;> cases kind' <;> first | rfl | exact absurd he (by decide)
  refine ⟨h.blank_moved hknown htimeline, fun id kind' => ?_, fun id kind' => ?_, fun id kind' => ?_⟩
  · rw [hdecisions, htimeline, Function.update_apply, Function.update_apply]
    by_cases heq : id = caseId
    · subst heq
      rw [if_pos rfl, if_pos rfl, intoState_append, List.map_append, hinto]
      by_cases hkind : kind' = kind
      · subst hkind
        rw [Function.update_self, if_pos rfl, List.map_append, List.map_singleton,
          List.map_singleton, hmark]
        exact (h.stands id kind').append (List.Sublist.refl _)
      · rw [Function.update_of_ne hkind, if_neg fun he => hkind (htarget kind' he), List.map_nil,
          List.append_nil]
        exact h.stands id kind'
    · rw [if_neg heq, if_neg heq]
      exact h.stands id kind'
  · rw [htimeline, Function.update_apply]
    split
    next heq =>
      subst heq
      rw [intoState_append, List.map_append]
      exact (h.moved id kind').trans (List.sublist_append_left _ _)
    next => exact h.moved id kind'
  · rw [hdecisions, htimeline, Function.update_apply, Function.update_apply]
    by_cases heq : id = caseId
    · subst heq
      rw [if_pos rfl, if_pos rfl, intoState_append, List.map_append, hinto]
      by_cases hkind : kind' = kind
      · subst hkind
        rw [Function.update_self, if_pos rfl, List.map_append, List.map_singleton,
          List.map_singleton, hmark]
        -- the new step comes last in the timeline, but before the moves in the account
        refine ((h.accounted id kind').append_right _).trans ?_
        rw [List.append_assoc, List.append_assoc]
        exact List.perm_append_comm.append_left _
      · rw [Function.update_of_ne hkind, if_neg fun he => hkind (htarget kind' he), List.map_nil,
          List.append_nil]
        exact h.accounted id kind'
    · rw [if_neg heq, if_neg heq]
      exact h.accounted id kind'

/-- What a call does to the cases it enters, if it creates a case under a name not used yet. -/
theorem step {call : CaseCall} {w : World ApprovalService} (h : Ledger w.self moves)
    (hnew : ∀ n, w.env.draws ≤ n → n < (caseStep rt call w).env.draws →
      rt.uuid4 n ∉ w.self.caseService.cases) :
    Ledger (caseStep rt call w).self (moves ++ directMoves rt call w) := by
  have heffect := case_effect rt call w
  revert hnew heffect
  generalize directMoves rt call w = more
  generalize caseStep rt call w = w'
  intro hnew heffect
  cases heffect with
  | raised hsame =>
    rw [hsame, List.append_nil]
    exact h
  | created data creatorId now case hdraws _ _ hcases htimeline hdecisions =>
    rw [List.append_nil]
    refine h.undecided (fun id hid => ?_) htimeline (fun kind => ?_) hdecisions
    · rw [hcases, Dict.mem_set, not_or] at hid
      exact hid
    · rw [intoState_created, h.blank _ (hnew _ le_rfl hdraws)]
      rfl
  | noted caseId case new entries _ _ _ _ hentries hcases htimeline hdecisions =>
    rw [List.append_nil]
    refine h.undecided (fun id hid => ?_) htimeline (fun kind => ?_) hdecisions
    · rw [hcases, Dict.mem_set, not_or] at hid
      exact hid
    · rw [intoState_append, intoState_stateless hentries, List.append_nil]
  | moved caseId case target actorId reason metadata hmoved hdecisions => exact h.move hmoved hdecisions
  | decided kind caseId case actorId text hmoved hdecisions =>
    rw [List.append_nil]
    exact h.decide hmoved hdecisions

end Ledger

theorem case_names (rt : Runtime) : Names (caseStep rt) (fun w => w.env.draws) rt.uuid4
    fun w caseId => caseId ∈ w.self.caseService.cases where
  draws_le := by
    intro call w
    have heffect := case_effect rt call w
    generalize directMoves rt call w = moves at heffect
    cases heffect with
    | raised hsame => rw [hsame]
    | created _ _ _ _ hdraws => exact hdraws.le
    | noted _ _ _ _ hdraws => exact hdraws
    | moved _ _ _ _ _ _ hmoved | decided _ _ _ _ _ hmoved => exact hmoved.draws
  drawn := by
    intro call w caseId hmem
    have heffect := case_effect rt call w
    generalize directMoves rt call w = moves at heffect
    cases heffect with
    | raised hsame =>
      rw [hsame] at hmem
      exact Or.inl hmem
    | created _ _ _ _ hdraws _ _ hcases =>
      rw [hcases, Dict.mem_set] at hmem
      rcases hmem with rfl | hmem
      · exact Or.inr ⟨_, le_rfl, hdraws, rfl⟩
      · exact Or.inl hmem
    | noted _ _ _ _ _ hcase _ _ _ hcases =>
      rw [hcases, Dict.mem_set] at hmem
      rcases hmem with rfl | hmem
      · exact Or.inl (Dict.mem_of_get? hcase)
      · exact Or.inl hmem
    | moved _ _ _ _ _ _ hmoved | decided _ _ _ _ _ hmoved =>
      obtain ⟨now, hcases, -⟩ := hmoved.change
      rw [hcases, Dict.mem_set] at hmem
      rcases hmem with rfl | hmem
      · exact Or.inl (Dict.mem_of_get? hmoved.stored)
      · exact Or.inl hmem

/-- In every run in which no identifier is drawn twice, what is kept of a kind of decision about a
case stands in its timeline as steps into the state decided for, by the same people for the same
reasons in the same order; so do the moves made directly, and no other step leads into that state. -/
theorem decisions_stand (rt : Runtime) (env : Env) (calls : List CaseCall) (huuid : Set.InjOn rt.uuid4
    (Set.Iio (run (caseStep rt) ⟨ApprovalService.new, env⟩ calls).env.draws)) :
    let s := (run (caseStep rt) ⟨ApprovalService.new, env⟩ calls).self
    let moves := trace (caseStep rt) (directMoves rt) ⟨ApprovalService.new, env⟩ calls
    ∀ caseId kind, ((s.decisions caseId kind).map Decision.mark).Sublist
        ((intoState kind.target (s.caseService.getTimeline caseId)).map TimelineEntry.mark) ∧
      ((movesInto caseId kind.target moves).map DirectMove.mark).Sublist
        ((intoState kind.target (s.caseService.getTimeline caseId)).map TimelineEntry.mark) ∧
      ((intoState kind.target (s.caseService.getTimeline caseId)).map TimelineEntry.mark).Perm
        ((s.decisions caseId kind).map Decision.mark ++
          (movesInto caseId kind.target moves).map DirectMove.mark) := by
  intro s moves
  let J (w : World ApprovalService) (moves : List DirectMove) (calls : List CaseCall) : Prop :=
    Ledger w.self moves ∧ Fresh (caseStep rt) (fun w => w.env.draws) rt.uuid4
      (fun w caseId => caseId ∈ w.self.caseService.cases) w calls
  have hstep : ∀ call w moves calls, J w moves (call :: calls) →
      J (caseStep rt call w) (moves ++ directMoves rt call w) calls := by
    rintro call w moves calls ⟨hledger, hfresh⟩
    exact ⟨hledger.step fun n hle hlt => (case_names rt).not_has hfresh hle hlt,
      (case_names rt).fresh_step hfresh⟩
  have hfresh : Fresh (caseStep rt) (fun w => w.env.draws) rt.uuid4
      (fun w caseId => caseId ∈ w.self.caseService.cases) ⟨ApprovalService.new, env⟩ calls :=
    ⟨huuid, fun caseId hmem => absurd hmem (Dict.not_mem_empty caseId)⟩
  have hledger : Ledger s moves :=
    (trace_resource (caseStep rt) (directMoves rt) hstep ⟨Ledger.new, hfresh⟩).1
  exact fun caseId kind =>
    ⟨hledger.stands caseId kind, hledger.moved caseId kind, hledger.accounted caseId kind⟩

/-- A case that is reviewed, overridden and approved after a second review, once by a decision and
once by a direct move. -/
def secondReview : List CaseCall :=
  let caseId := Runtime.reference.uuid4 0
  let move target := CaseCall.transitionState caseId target "ops" none none
  [.createCase "acme" ⟨"Margin", none, "margin_diagnosis", [], [], none, .high, .major, []⟩ "ada",
    move .evidenceReady, move .workflowExecuted, move .validationCompleted, move .underReview,
    .override caseId "lead" ⟨.serviceStateChanged, "re-sited", [], none, []⟩,
    .approve caseId "lead" ⟨"too early", none, []⟩, move .underReview,
    .escalate caseId "lead" ⟨.governanceBoard, "disputed", "high", []⟩, move .approved]

theorem decisions_stand_secondReview :
    let s := (run (caseStep .reference) ⟨ApprovalService.new, .initial "acme"⟩ secondReview).self
    let moves := trace (caseStep .reference) (directMoves .reference)
      ⟨ApprovalService.new, .initial "acme"⟩ secondReview
    ∀ caseId kind, ((s.decisions caseId kind).map Decision.mark).Sublist
        ((intoState kind.target (s.caseService.getTimeline caseId)).map TimelineEntry.mark) ∧
      ((movesInto caseId kind.target moves).map DirectMove.mark).Sublist
        ((intoState kind.target (s.caseService.getTimeline caseId)).map TimelineEntry.mark) ∧
      ((intoState kind.target (s.caseService.getTimeline caseId)).map TimelineEntry.mark).Perm
        ((s.decisions caseId kind).map Decision.mark ++
          (movesInto caseId kind.target moves).map DirectMove.mark) := by
  apply decisions_stand
  apply Runtime.reference_uuid4.mono
  apply Set.Iio_subset_Iio
  decide +kernel

end ControlFabric.Pilot
