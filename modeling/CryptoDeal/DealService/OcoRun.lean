import CryptoDeal.DealService.OcoCallEnds
import CryptoDeal.Library.Threads

/-!
# Calls at work on one registry

Any number of `placeOco`, `processOcoUpdate` and `cancelOco` calls, each section
under `ocoMutex` one step and the network between them answering anything. Every
step is one of the moves below, and the registry stays consistent with the phases
of the calls in every run.
-/

namespace CryptoDeal.DealService.Bybit

open DecimalText DecimalConverter Interaction

/-- The request neither reads nor writes the registry. -/
def OcoEffect.isNetwork : OcoEffect → Bool
  | .cancelOrder _ | .getOrder _ => true
  | .startOcoUpdate _ | .finishOcoUpdate _ _ | .findOcoGroup _ | .removeOcoGroup _ _ => false
  | .placement (.registerOcoPlacement _ _ _) => false
  | .placement (.clearOcoPlacementRegistration _ _) => false
  | .placement (.createOcoGroup _) => false
  | .placement (.processOcoUpdate _) => false
  | .placement _ => true

/-- A request's answer and effect on the registry. -/
def OcoEffect.Performs (registry : OcoRegistry) :
    (effect : OcoEffect) → effect.Answer → OcoRegistry → Prop
  | .placement (.registerOcoPlacement groupId takeProfitOrderLinkId stopLossOrderLinkId), answer,
      after =>
      match registry.registerOcoPlacement groupId takeProfitOrderLinkId stopLossOrderLinkId with
      | .ok registered => answer = .ok () ∧ after = registered
      | .error failure => answer = .error failure ∧ after = registry
  | .placement (.clearOcoPlacementRegistration takeProfitOrderLinkId stopLossOrderLinkId), _,
      after =>
      after = registry.clearOcoPlacementRegistration takeProfitOrderLinkId stopLossOrderLinkId
  | .placement (.createOcoGroup group), answer, after =>
      answer = registry.pendingFilledOrderLinkId group ∧ after = registry.createOcoGroup group
  -- carried out section by section
  | .placement (.processOcoUpdate _), _, _ => False
  | .placement effect, answer, after => AnswersPlacement effect answer ∧ after = registry
  | .startOcoUpdate orderLinkId, answer, after =>
      registry.startOcoUpdate orderLinkId = (answer, after)
  | .finishOcoUpdate groupId cancelError, answer, after =>
      registry.finishOcoUpdate groupId cancelError = (answer, after)
  | .findOcoGroup groupId, answer, after =>
      answer = registry.findOcoGroup groupId ∧ after = registry
  | .removeOcoGroup groupId ocoGroup, _, after => after = registry.removeOcoGroup groupId ocoGroup
  | .cancelOrder query, answer, after => AnswersOco (.cancelOrder query) answer ∧ after = registry
  | .getOrder query, answer, after => AnswersOco (.getOrder query) answer ∧ after = registry

@[reducible] def ocoSystem (rounding : NearestRounding) (fromChars : String → Option Decimal) :
    ThreadSystem OcoCall OcoRegistry OcoEffect OcoEffect.Answer ServiceFailure where
  Result := OcoCall.Result
  program := OcoCall.program rounding fromChars
  performs := fun registry effect answer after => effect.Performs registry answer after

variable {rounding : NearestRounding} {fromChars : String → Option Decimal}

abbrev OcoState (rounding : NearestRounding) (fromChars : String → Option Decimal) :=
  Threads (ocoSystem rounding fromChars)

abbrev OcoStep (rounding : NearestRounding) (fromChars : String → Option Decimal) :=
  ThreadStep (ocoSystem rounding fromChars)

/-- A run from the empty registry. -/
abbrev OcoRun (rounding : NearestRounding) (fromChars : String → Option Decimal)
    (steps : List (OcoStep rounding fromChars)) (state : OcoState rounding fromChars) : Prop :=
  ThreadRun (ocoSystem rounding fromChars) {} steps state

def phaseOf (state : OcoState rounding fromChars) (threadId : ThreadId) : OcoPhase :=
  ocoPhase (state.historyOf threadId)

theorem performs_answers {registry after : OcoRegistry} {effect : OcoEffect} {answer : effect.Answer}
    (performed : effect.Performs registry answer after) : AnswersOco effect answer := by
  cases effect with
  | placement placed =>
      cases placed with
      | registerOcoPlacement groupId takeProfitOrderLinkId stopLossOrderLinkId =>
          rw [OcoEffect.Performs] at performed
          split at performed
          · rw [performed.1]
            exact standard_ok ()
          next failure refused =>
            rw [performed.1]
            have standard : IsStandard
                (registry.registerOcoPlacement groupId takeProfitOrderLinkId stopLossOrderLinkId) :=
              (standard_throw_if _ _).bind fun _ => standard_ok _
            rw [refused] at standard
            exact fun same => standard (by cases same; rfl)
      | clearOcoPlacementRegistration _ _ | createOcoGroup _ => exact trivial
      | processOcoUpdate _ => exact performed.elim
      | _ => exact performed.1
  | findOcoGroup groupId =>
      rw [performed.1, OcoRegistry.findOcoGroup]
      split
      · exact nofun
      · exact nofun
  | cancelOrder _ | getOrder _ => exact performed.1
  | startOcoUpdate _ | finishOcoUpdate _ _ | removeOcoGroup _ _ => exact trivial

/-! ## Moves -/

/-- A fill that `startOcoUpdate` leaves alone: of no group, or of one that is closing. -/
def OcoRegistry.DropsFill (registry : OcoRegistry) (orderLinkId : String) : Prop :=
  match registry.ocoLegToGroup orderLinkId with
  | none => orderLinkId ∉ registry.placingOcoOrderLinkIds
  | some groupId => ∀ group, registry.ocoGroups groupId = some group → group.closing = true

/-- A call may take up a fill when it starts, or when it hands one over. -/
def OcoPhase.MayStart (phase : OcoPhase) (orderLinkId : String) : Prop :=
  phase = .idle ∨ ∃ groupId, phase = .handingOver groupId orderLinkId

/-- Everything that a call's next request can do to the registry and to its phase. -/
inductive OcoMove (before : OcoRegistry) :
    OcoPhase → (effect : OcoEffect) → effect.Answer → OcoRegistry → OcoPhase → Prop where
  | network {phase : OcoPhase} {effect : OcoEffect} {answer : effect.Answer}
      (network : effect.isNetwork) : OcoMove before phase effect answer before phase
  | registered {groupId : String} {after : OcoRegistry}
      (accepted : before.registerOcoPlacement groupId (takeProfitLinkId groupId)
        (stopLossLinkId groupId) = .ok after) :
      OcoMove before .idle (.placement (.registerOcoPlacement groupId (takeProfitLinkId groupId)
        (stopLossLinkId groupId))) (.ok ()) after (.placing groupId)
  | refused {groupId : String} {failure : ServiceFailure}
      (refused : before.registerOcoPlacement groupId (takeProfitLinkId groupId)
        (stopLossLinkId groupId) = .error failure) :
      OcoMove before .idle (.placement (.registerOcoPlacement groupId (takeProfitLinkId groupId)
        (stopLossLinkId groupId))) (.error failure) before .idle
  | cleared (groupId : String) :
      OcoMove before (.placing groupId) (.placement (.clearOcoPlacementRegistration
        (takeProfitLinkId groupId) (stopLossLinkId groupId))) ()
        (before.clearOcoPlacementRegistration (takeProfitLinkId groupId) (stopLossLinkId groupId))
        .idle
  | created {group : BybitOcoGroup} (keyed : Keyed group.groupId group) :
      OcoMove before (.placing group.groupId) (.placement (.createOcoGroup group))
        (before.pendingFilledOrderLinkId group) (before.createOcoGroup group)
        (createdPhase group.groupId (before.pendingFilledOrderLinkId group))
  | pended {phase : OcoPhase} {orderLinkId : String} (ready : phase.MayStart orderLinkId)
      (unmapped : before.ocoLegToGroup orderLinkId = none)
      (placing : orderLinkId ∈ before.placingOcoOrderLinkIds) :
      OcoMove before phase (.startOcoUpdate orderLinkId) none
        { before with
          pendingOcoFilledOrderLinkIds := insert orderLinkId before.pendingOcoFilledOrderLinkIds }
        .idle
  | dropped {phase : OcoPhase} {orderLinkId : String} (ready : phase.MayStart orderLinkId)
      (drops : before.DropsFill orderLinkId) :
      OcoMove before phase (.startOcoUpdate orderLinkId) none before .idle
  | started {phase : OcoPhase} {orderLinkId groupId : String} {group : RegisteredOcoGroup}
      (ready : phase.MayStart orderLinkId)
      (leg : before.ocoLegToGroup orderLinkId = some groupId)
      (found : before.ocoGroups groupId = some group) (isOpen : group.closing = false) :
      OcoMove before phase (.startOcoUpdate orderLinkId)
        (some (groupId, OcoRegistry.otherLegQuery group.toBybitOcoGroup orderLinkId))
        (before.writeGroup groupId { group with closing := true })
        (.cancelling groupId (OcoRegistry.otherLegQuery group.toBybitOcoGroup orderLinkId))
  | vanished {groupId : String} {otherLegQuery : OrderQuery} {cancelError : Option String}
      (missing : before.ocoGroups groupId = none) :
      OcoMove before (.cancelling groupId otherLegQuery) (.finishOcoUpdate groupId cancelError) none
        before .idle
  | settled {groupId : String} {otherLegQuery : OrderQuery} {group : RegisteredOcoGroup}
      (found : before.ocoGroups groupId = some group) :
      OcoMove before (.cancelling groupId otherLegQuery) (.finishOcoUpdate groupId none) none
        (before.eraseGroup groupId group.tpOrderLinkId group.slOrderLinkId) .idle
  | failed {groupId error : String} {otherLegQuery : OrderQuery} {group : RegisteredOcoGroup}
      (found : before.ocoGroups groupId = some group) :
      OcoMove before (.cancelling groupId otherLegQuery) (.finishOcoUpdate groupId (some error))
        (some error)
        (before.writeGroup groupId { group with closing := false, lastError := error }) .idle
  | found {groupId : String} {ocoGroup : RegisteredOcoGroup}
      (found : before.ocoGroups groupId = some ocoGroup) :
      OcoMove before .idle (.findOcoGroup groupId) (.ok ocoGroup) before
        (.holding groupId ocoGroup)
  | unknown {groupId : String} {failure : ServiceFailure}
      (missing : before.ocoGroups groupId = none) :
      OcoMove before .idle (.findOcoGroup groupId) (.error failure) before .idle
  | removed {groupId : String} {ocoGroup group : RegisteredOcoGroup}
      (found : before.ocoGroups groupId = some group) :
      OcoMove before (.holding groupId ocoGroup) (.removeOcoGroup groupId ocoGroup) ()
        (before.eraseGroup groupId ocoGroup.tpOrderLinkId ocoGroup.slOrderLinkId) .idle
  | gone {groupId : String} {ocoGroup : RegisteredOcoGroup}
      (missing : before.ocoGroups groupId = none) :
      OcoMove before (.holding groupId ocoGroup) (.removeOcoGroup groupId ocoGroup) () before .idle

section Moves

variable {before after : OcoRegistry} {phase : OcoPhase} {effect : OcoEffect}
  {answer : effect.Answer}

theorem start_moves {orderLinkId : String} {taken : Option (String × OrderQuery)}
    (ready : phase.MayStart orderLinkId)
    (performed : before.startOcoUpdate orderLinkId = (taken, after)) :
    OcoMove before phase (.startOcoUpdate orderLinkId) taken after
      (phase.next (.startOcoUpdate orderLinkId) taken) := by
  unfold OcoRegistry.startOcoUpdate at performed
  split at performed
  next unmapped =>
      split_ifs at performed with placing <;> cases performed
      · exact .pended ready unmapped placing
      · apply OcoMove.dropped ready
        rw [OcoRegistry.DropsFill, unmapped]
        exact placing
  next groupId leg =>
      split at performed
      next missing =>
          cases performed
          apply OcoMove.dropped ready
          rw [OcoRegistry.DropsFill, leg]
          intro group found
          rw [missing] at found
          cases found
      next group found =>
          split_ifs at performed with closing <;> cases performed
          · apply OcoMove.dropped ready
            rw [OcoRegistry.DropsFill, leg]
            intro other known
            cases found.symm.trans known
            exact closing
          · exact .started ready leg found (Bool.eq_false_of_not_eq_true closing)

theorem finish_moves {groupId : String} {otherLegQuery : OrderQuery}
    {cancelError answer : Option String}
    (performed : before.finishOcoUpdate groupId cancelError = (answer, after)) :
    OcoMove before (.cancelling groupId otherLegQuery) (.finishOcoUpdate groupId cancelError) answer
      after .idle := by
  unfold OcoRegistry.finishOcoUpdate at performed
  split at performed
  next missing =>
      cases performed
      exact .vanished missing
  next group found =>
      cases cancelError <;> cases performed
      · exact .settled found
      · exact .failed found

theorem network_moves (network : effect.isNetwork) (performed : effect.Performs before answer after) :
    OcoMove before phase effect answer after (phase.next effect answer) := by
  have kept : after = before ∧ phase.next effect answer = phase := by
    cases effect with
    | placement placed =>
        cases placed <;> first | exact ⟨performed.2, rfl⟩ | cases network
    | cancelOrder _ | getOrder _ => exact ⟨performed.2, rfl⟩
    | startOcoUpdate _ | finishOcoUpdate _ _ | findOcoGroup _ | removeOcoGroup _ _ => cases network
  rw [kept.1, kept.2]
  exact .network network

theorem oco_moves (allowed : phase.Allows effect) (performed : effect.Performs before answer after) :
    OcoMove before phase effect answer after (phase.next effect answer) := by
  by_cases network : effect.isNetwork
  · exact network_moves network performed
  cases effect with
  | placement placed =>
      cases placed with
      | registerOcoPlacement groupId takeProfitOrderLinkId stopLossOrderLinkId =>
          obtain ⟨rfl, rfl, rfl⟩ := allowed
          rw [OcoEffect.Performs] at performed
          split at performed
          next accepted =>
              obtain ⟨rfl, rfl⟩ := performed
              exact .registered accepted
          next refused =>
              obtain ⟨rfl, rfl⟩ := performed
              exact .refused refused
      | clearOcoPlacementRegistration takeProfitOrderLinkId stopLossOrderLinkId =>
          obtain ⟨groupId, rfl, rfl, rfl⟩ := allowed
          cases performed
          exact .cleared groupId
      | createOcoGroup group =>
          obtain ⟨rfl, keyed⟩ := allowed
          obtain ⟨rfl, rfl⟩ := performed
          have phases : ∀ pending, OcoPhase.next (.placing group.groupId)
              (.placement (.createOcoGroup group)) pending =
                createdPhase group.groupId pending := by
            intro pending
            cases pending <;> rfl
          rw [phases]
          exact .created keyed
      | processOcoUpdate _ => exact performed.elim
      | _ => exact absurd rfl network
  | startOcoUpdate orderLinkId => exact start_moves allowed performed
  | finishOcoUpdate groupId cancelError =>
      obtain ⟨otherLegQuery, rfl⟩ := allowed
      exact finish_moves performed
  | findOcoGroup groupId =>
      obtain rfl := allowed
      obtain ⟨rfl, rfl⟩ := performed
      unfold OcoRegistry.findOcoGroup
      split
      next missing => exact .unknown missing
      next group found => exact .found found
  | removeOcoGroup groupId ocoGroup =>
      obtain rfl := allowed
      cases performed
      unfold OcoRegistry.removeOcoGroup
      split
      next missing => exact .gone missing
      next group found => exact .removed found
  | cancelOrder _ | getOrder _ => exact absurd rfl network

end Moves

/-! ## Scripts -/

/-- The registry's own answers, and the network's by a function. -/
def ocoRespond (network : (effect : OcoEffect) → effect.Answer) (registry : OcoRegistry) :
    (effect : OcoEffect) → Option (effect.Answer × OcoRegistry)
  | .placement (.registerOcoPlacement groupId takeProfitOrderLinkId stopLossOrderLinkId) =>
      match registry.registerOcoPlacement groupId takeProfitOrderLinkId stopLossOrderLinkId with
      | .ok registered => some (.ok (), registered)
      | .error failure => some (.error failure, registry)
  | .placement (.clearOcoPlacementRegistration takeProfitOrderLinkId stopLossOrderLinkId) =>
      some ((), registry.clearOcoPlacementRegistration takeProfitOrderLinkId stopLossOrderLinkId)
  | .placement (.createOcoGroup group) =>
      some (registry.pendingFilledOrderLinkId group, registry.createOcoGroup group)
  | .placement (.processOcoUpdate _) => none
  | .startOcoUpdate orderLinkId => some (registry.startOcoUpdate orderLinkId)
  | .finishOcoUpdate groupId cancelError => some (registry.finishOcoUpdate groupId cancelError)
  | .findOcoGroup groupId => some (registry.findOcoGroup groupId, registry)
  | .removeOcoGroup groupId ocoGroup => some ((), registry.removeOcoGroup groupId ocoGroup)
  | effect => some (network effect, registry)

theorem oco_respond_performs {network : (effect : OcoEffect) → effect.Answer}
    (standard : ∀ effect, AnswersOco effect (network effect)) (registry : OcoRegistry)
    (effect : OcoEffect) (answer : effect.Answer) (after : OcoRegistry)
    (responds : ocoRespond network registry effect = some (answer, after)) :
    effect.Performs registry answer after := by
  cases effect with
  | placement placed =>
      have kept := standard (.placement placed)
      cases placed with
      | registerOcoPlacement groupId takeProfitOrderLinkId stopLossOrderLinkId =>
          simp only [ocoRespond] at responds
          rw [OcoEffect.Performs]
          split at responds <;> cases responds <;> exact ⟨rfl, rfl⟩
      | clearOcoPlacementRegistration _ _ =>
          cases responds
          rfl
      | createOcoGroup _ =>
          cases responds
          exact ⟨rfl, rfl⟩
      | processOcoUpdate _ => cases responds
      | _ =>
          cases responds
          exact ⟨kept, rfl⟩
  | startOcoUpdate _ | finishOcoUpdate _ _ => exact Option.some.inj responds
  | findOcoGroup _ =>
      cases responds
      exact ⟨rfl, rfl⟩
  | removeOcoGroup _ _ =>
      cases responds
      rfl
  | cancelOrder _ | getOrder _ =>
      cases responds
      exact ⟨standard _, rfl⟩

/-- A scripted run. -/
theorem oco_script_runs {network : (effect : OcoEffect) → effect.Answer}
    (standard : ∀ effect, AnswersOco effect (network effect))
    {steps : List (OcoStep rounding fromChars)}
    {state : OcoState rounding fromChars} (run : OcoRun rounding fromChars steps state)
    (script : List (Command OcoCall)) :
    ∃ more, OcoRun rounding fromChars (more ++ steps)
      (script.foldl (Threads.obey (ocoRespond network)) state) :=
  run.obeys (fun _ _ _ _ => oco_respond_performs standard _ _ _ _) script

end CryptoDeal.DealService.Bybit
