import CryptoDeal.DealService.OcoRun

/-!
# The registry and the calls at work on it

The link ids being placed are those of the calls that are placing, no two calls
place the same group, and a move about one group leaves every other alone.
-/

namespace CryptoDeal.DealService.Bybit

open DecimalText DecimalConverter Interaction

/-- The calls and the registry agree. -/
structure OcoCoordinated (registry : OcoRegistry) (phases : ThreadId → OcoPhase) : Prop where
  consistent : registry.Consistent
  placing : ∀ {orderLinkId}, orderLinkId ∈ registry.placingOcoOrderLinkIds ↔
    ∃ threadId groupId, phases threadId = .placing groupId ∧ IsLinkId groupId orderLinkId
  alone : ∀ {first second groupId}, phases first = .placing groupId →
    phases second = .placing groupId → first = second
  copies : ∀ {threadId groupId ocoGroup}, phases threadId = .holding groupId ocoGroup →
    Keyed groupId ocoGroup.toBybitOcoGroup
  handedOver : ∀ {threadId groupId orderLinkId},
    phases threadId = .handingOver groupId orderLinkId → IsLinkId groupId orderLinkId

theorem pending_filled_is_link_id {registry : OcoRegistry} {group : BybitOcoGroup}
    {orderLinkId : String} (keyed : Keyed group.groupId group)
    (pending : registry.pendingFilledOrderLinkId group = some orderLinkId) :
    IsLinkId group.groupId orderLinkId := by
  unfold OcoRegistry.pendingFilledOrderLinkId at pending
  split_ifs at pending with takeProfit stopLoss
  · cases pending
    exact .inl keyed.takeProfit
  · cases pending
    exact .inr keyed.stopLoss

section Step

variable {before after : OcoRegistry} {phases : ThreadId → OcoPhase} {threadId : ThreadId}
  {phase next : OcoPhase} {effect : OcoEffect} {answer : effect.Answer} {groupId : String}

theorem OcoMove.consistent (move : OcoMove before phase effect answer after next)
    (consistent : before.Consistent)
    (copies : ∀ {groupId ocoGroup}, phase = .holding groupId ocoGroup →
      Keyed groupId ocoGroup.toBybitOcoGroup) : after.Consistent := by
  cases move with
  | registered accepted => exact consistent.register accepted
  | cleared groupId => exact consistent.clear _ _
  | created keyed => exact consistent.create keyed
  | pended ready unmapped placing =>
      refine ⟨consistent.keyed, consistent.legs, consistent.groups, consistent.placing, ?_⟩
      exact Finset.insert_subset placing consistent.pending
  | started ready leg found isOpen => exact consistent.write found rfl
  | @settled groupId otherLegQuery group found =>
      have keyed := consistent.keyed found
      rw [keyed.takeProfit, keyed.stopLoss]
      exact consistent.erase groupId
  | failed found => exact consistent.write found rfl
  | @removed groupId ocoGroup group found =>
      have keyed := copies rfl
      rw [keyed.takeProfit, keyed.stopLoss]
      exact consistent.erase groupId
  | network _ | refused _ | dropped _ _ | vanished _ | found _ | unknown _ | gone _ =>
      exact consistent

/-- What a move does to the placements in progress. -/
theorem OcoMove.placements (move : OcoMove before phase effect answer after next) :
    (after.placingOcoOrderLinkIds = before.placingOcoOrderLinkIds ∧
      ∀ groupId, next = .placing groupId ↔ phase = .placing groupId) ∨
    (∃ groupId, phase = .idle ∧ next = .placing groupId ∧
      ¬ before.IsActive groupId (takeProfitLinkId groupId) (stopLossLinkId groupId) ∧
      after.placingOcoOrderLinkIds =
        insert (stopLossLinkId groupId)
          (insert (takeProfitLinkId groupId) before.placingOcoOrderLinkIds)) ∨
    ∃ groupId, phase = .placing groupId ∧ (∀ other, next ≠ .placing other) ∧
      after.placingOcoOrderLinkIds =
        (before.placingOcoOrderLinkIds.erase (takeProfitLinkId groupId)).erase
          (stopLossLinkId groupId) := by
  have startless : ∀ {orderLinkId}, phase.MayStart orderLinkId → ∀ groupId,
      phase ≠ .placing groupId := by
    rintro orderLinkId (rfl | ⟨_, rfl⟩) groupId <;> exact nofun
  cases move with
  | @registered groupId after accepted =>
      obtain ⟨_, inactive, same⟩ := except_bind_ok.1 accepted
      cases same
      exact .inr (.inl ⟨groupId, rfl, rfl, throw_if_ok.1 inactive, rfl⟩)
  | cleared groupId => exact .inr (.inr ⟨groupId, rfl, fun _ => nofun, rfl⟩)
  | @created group keyed =>
      refine .inr (.inr ⟨group.groupId, rfl, ?_, ?_⟩)
      · intro other
        cases before.pendingFilledOrderLinkId group <;> exact nofun
      · rw [← keyed.takeProfit, ← keyed.stopLoss]
        rfl
  | network network => exact .inl ⟨rfl, fun _ => Iff.rfl⟩
  | pended ready _ _ | dropped ready _ | started ready _ _ _ =>
      exact .inl ⟨rfl, fun groupId => iff_of_false nofun (startless ready groupId)⟩
  | refused _ | vanished _ | settled _ | failed _ | found _ | unknown _ | removed _ | gone _ =>
      exact .inl ⟨rfl, fun _ => iff_of_false nofun nofun⟩

theorem OcoMove.copies {ocoGroup : RegisteredOcoGroup}
    (move : OcoMove before phase effect answer after next)
    (holds : next = .holding groupId ocoGroup) :
    phase = .holding groupId ocoGroup ∨ before.ocoGroups groupId = some ocoGroup := by
  cases move with
  | network network => exact .inl holds
  | found found =>
      cases holds
      exact .inr found
  | @created group _ =>
      cases taken : before.pendingFilledOrderLinkId group <;> rw [taken] at holds <;> cases holds
  | _ => cases holds

theorem OcoMove.handed_over {orderLinkId : String}
    (move : OcoMove before phase effect answer after next)
    (hands : next = .handingOver groupId orderLinkId) :
    phase = .handingOver groupId orderLinkId ∨ IsLinkId groupId orderLinkId := by
  cases move with
  | network network => exact .inl hands
  | @created group keyed =>
      cases taken : before.pendingFilledOrderLinkId group <;> rw [taken] at hands <;> cases hands
      exact .inr (pending_filled_is_link_id keyed taken)
  | _ => cases hands

theorem OcoCoordinated.moves (coordinated : OcoCoordinated before phases)
    (move : OcoMove before (phases threadId) effect answer after next) :
    OcoCoordinated after (Function.update phases threadId next) := by
  have consistent := move.consistent coordinated.consistent coordinated.copies
  have others : ∀ {Phase : OcoPhase} {other}, other ≠ threadId →
      (Function.update phases threadId next other = Phase ↔ phases other = Phase) := by
    intro Phase other apart
    rw [Function.update_of_ne apart]
  have own : Function.update phases threadId next threadId = next := Function.update_self _ _ _
  have copies : ∀ {other groupId ocoGroup},
      Function.update phases threadId next other = .holding groupId ocoGroup →
        Keyed groupId ocoGroup.toBybitOcoGroup := by
    intro other groupId ocoGroup holds
    by_cases acting : other = threadId
    · subst acting
      rw [own] at holds
      rcases move.copies holds with held | found
      · exact coordinated.copies held
      · exact coordinated.consistent.keyed found
    · exact coordinated.copies ((others acting).1 holds)
  have handedOver : ∀ {other groupId orderLinkId},
      Function.update phases threadId next other = .handingOver groupId orderLinkId →
        IsLinkId groupId orderLinkId := by
    intro other groupId orderLinkId hands
    by_cases acting : other = threadId
    · subst acting
      rw [own] at hands
      rcases move.handed_over hands with handed | linked
      · exact coordinated.handedOver handed
      · exact linked
    · exact coordinated.handedOver ((others acting).1 hands)
  rcases move.placements with ⟨kept, same⟩ | ⟨groupId, idle, rfl, inactive, inserted⟩ |
      ⟨groupId, held, ended, erased⟩
  · have phasesKept : ∀ other groupId, Function.update phases threadId next other =
        .placing groupId ↔ phases other = .placing groupId := by
      intro other groupId
      by_cases acting : other = threadId
      · subst acting
        rw [own]
        exact same groupId
      · exact others acting
    refine ⟨consistent, ?_, ?_, copies, handedOver⟩
    · intro orderLinkId
      rw [kept, coordinated.placing]
      exact exists_congr fun other => exists_congr fun groupId =>
        and_congr_left' (phasesKept other groupId).symm
    · intro first second groupId firstPlaces secondPlaces
      exact coordinated.alone ((phasesKept first groupId).1 firstPlaces)
        ((phasesKept second groupId).1 secondPlaces)
  · have unplaced : ∀ other, phases other ≠ .placing groupId := by
      intro other places
      apply inactive
      exact .inr (.inl (.inl (coordinated.placing.2 ⟨other, groupId, places, .inl rfl⟩)))
    refine ⟨consistent, ?_, ?_, copies, handedOver⟩
    · intro orderLinkId
      rw [inserted, Finset.mem_insert, Finset.mem_insert, coordinated.placing]
      constructor
      · rintro (rfl | rfl | ⟨other, placed, places, linked⟩)
        · exact ⟨threadId, groupId, own, .inr rfl⟩
        · exact ⟨threadId, groupId, own, .inl rfl⟩
        · refine ⟨other, placed, (others ?_).2 places, linked⟩
          rintro rfl
          rw [idle] at places
          cases places
      · rintro ⟨other, placed, places, linked⟩
        by_cases acting : other = threadId
        · subst acting
          rw [own] at places
          cases places
          rcases linked with rfl | rfl
          · exact .inr (.inl rfl)
          · exact .inl rfl
        · exact .inr (.inr ⟨other, placed, (others acting).1 places, linked⟩)
    · intro first second placed firstPlaces secondPlaces
      by_cases firstActs : first = threadId <;> by_cases secondActs : second = threadId
      · rw [firstActs, secondActs]
      · subst firstActs
        rw [own] at firstPlaces
        cases firstPlaces
        exact absurd ((others secondActs).1 secondPlaces) (unplaced second)
      · subst secondActs
        rw [own] at secondPlaces
        cases secondPlaces
        exact absurd ((others firstActs).1 firstPlaces) (unplaced first)
      · exact coordinated.alone ((others firstActs).1 firstPlaces)
          ((others secondActs).1 secondPlaces)
  · have acts : ∀ {other placed}, Function.update phases threadId next other = .placing placed →
        other ≠ threadId ∧ phases other = .placing placed := by
      intro other placed places
      have apart : other ≠ threadId := by
        rintro rfl
        rw [own] at places
        exact ended placed places
      exact ⟨apart, (others apart).1 places⟩
    refine ⟨consistent, ?_, ?_, copies, handedOver⟩
    · intro orderLinkId
      rw [erased, Finset.mem_erase, Finset.mem_erase, coordinated.placing]
      constructor
      · rintro ⟨notStopLoss, notTakeProfit, other, placing, places, linked⟩
        refine ⟨other, placing, (others ?_).2 places, linked⟩
        rintro rfl
        cases held.symm.trans places
        rcases linked with same | same
        · exact notTakeProfit same
        · exact notStopLoss same
      · rintro ⟨other, placing, places, linked⟩
        obtain ⟨apart, known⟩ := acts places
        have unlinked : ¬ IsLinkId groupId orderLinkId := by
          intro own
          cases link_id_group own linked
          exact apart (coordinated.alone known held)
        rw [IsLinkId, not_or] at unlinked
        exact ⟨unlinked.2, unlinked.1, other, placing, known, linked⟩
    · intro first second placing firstPlaces secondPlaces
      exact coordinated.alone (acts firstPlaces).2 (acts secondPlaces).2

end Step

/-! ## Other groups -/

/-- What the containers hold of one group stays. -/
structure OcoRegistry.SameFor (groupId : String) (before after : OcoRegistry) : Prop where
  group : after.ocoGroups groupId = before.ocoGroups groupId
  legs : ∀ orderLinkId, IsLinkId groupId orderLinkId →
    after.ocoLegToGroup orderLinkId = before.ocoLegToGroup orderLinkId
  placing : ∀ orderLinkId, IsLinkId groupId orderLinkId →
    (orderLinkId ∈ after.placingOcoOrderLinkIds ↔ orderLinkId ∈ before.placingOcoOrderLinkIds)
  pending : ∀ orderLinkId, IsLinkId groupId orderLinkId →
    (orderLinkId ∈ after.pendingOcoFilledOrderLinkIds ↔
      orderLinkId ∈ before.pendingOcoFilledOrderLinkIds)

/-- The request writes what the containers hold of the group. -/
def OcoEffect.Concerns (groupId : String) : OcoEffect → Prop
  | .placement (.registerOcoPlacement other _ _) => other = groupId
  | .placement (.clearOcoPlacementRegistration takeProfitOrderLinkId _) =>
      takeProfitOrderLinkId = takeProfitLinkId groupId
  | .placement (.createOcoGroup group) => group.groupId = groupId
  | .startOcoUpdate orderLinkId => IsLinkId groupId orderLinkId
  | .finishOcoUpdate other _ | .removeOcoGroup other _ => other = groupId
  | _ => False

namespace OcoRegistry.SameFor

variable {registry : OcoRegistry} {groupId other : String}

theorem refl (groupId : String) (registry : OcoRegistry) : SameFor groupId registry registry where
  group := rfl
  legs _ _ := rfl
  placing _ _ := Iff.rfl
  pending _ _ := Iff.rfl

theorem unlinked {orderLinkId : String} (apart : other ≠ groupId)
    (linked : IsLinkId groupId orderLinkId) :
    orderLinkId ≠ takeProfitLinkId other ∧ orderLinkId ≠ stopLossLinkId other := by
  constructor
  · intro same
    exact apart (link_id_group (.inl same) linked)
  · intro same
    exact apart (link_id_group (.inr same) linked)

theorem write (apart : other ≠ groupId) (group : RegisteredOcoGroup) :
    SameFor groupId registry (registry.writeGroup other group) where
  group := write_group_other apart.symm
  legs _ _ := rfl
  placing _ _ := Iff.rfl
  pending _ _ := Iff.rfl

theorem erase (apart : other ≠ groupId) :
    SameFor groupId registry
      (registry.eraseGroup other (takeProfitLinkId other) (stopLossLinkId other)) where
  group := erase_group_other apart.symm
  legs orderLinkId linked := by
    obtain ⟨notTakeProfit, notStopLoss⟩ := unlinked apart linked
    rw [erase_group_leg, if_neg (not_or.2 ⟨notTakeProfit, notStopLoss⟩)]
  placing _ _ := Iff.rfl
  pending _ _ := Iff.rfl

theorem clear (apart : other ≠ groupId) :
    SameFor groupId registry
      (registry.clearOcoPlacementRegistration (takeProfitLinkId other) (stopLossLinkId other)) where
  group := rfl
  legs _ _ := rfl
  placing orderLinkId linked := by
    obtain ⟨notTakeProfit, notStopLoss⟩ := unlinked apart linked
    rw [mem_clear_placing]
    tauto
  pending orderLinkId linked := by
    obtain ⟨notTakeProfit, notStopLoss⟩ := unlinked apart linked
    rw [mem_clear_pending]
    tauto

theorem create {group : BybitOcoGroup} (keyed : Keyed group.groupId group)
    (apart : group.groupId ≠ groupId) :
    SameFor groupId registry (registry.createOcoGroup group) where
  group := create_group_other apart.symm
  legs orderLinkId linked := by
    obtain ⟨notTakeProfit, notStopLoss⟩ := unlinked apart linked
    rw [create_group_leg, keyed.takeProfit, keyed.stopLoss,
      if_neg (not_or.2 ⟨notTakeProfit, notStopLoss⟩)]
  placing orderLinkId linked := by
    refine Iff.trans ?_ ((clear apart).placing orderLinkId linked)
    rw [← keyed.takeProfit, ← keyed.stopLoss]
    rfl
  pending orderLinkId linked := by
    refine Iff.trans ?_ ((clear apart).pending orderLinkId linked)
    rw [← keyed.takeProfit, ← keyed.stopLoss]
    rfl

theorem register {after : OcoRegistry} (apart : other ≠ groupId)
    (accepted : registry.registerOcoPlacement other (takeProfitLinkId other)
      (stopLossLinkId other) = .ok after) : SameFor groupId registry after := by
  obtain ⟨_, _, same⟩ := except_bind_ok.1 accepted
  cases same
  refine ⟨rfl, fun _ _ => rfl, ?_, fun _ _ => Iff.rfl⟩
  intro orderLinkId linked
  obtain ⟨notTakeProfit, notStopLoss⟩ := unlinked apart linked
  simp [notTakeProfit, notStopLoss]

end OcoRegistry.SameFor

section Frame

variable {before after : OcoRegistry} {phases : ThreadId → OcoPhase} {threadId : ThreadId}
  {next : OcoPhase} {effect : OcoEffect} {answer : effect.Answer} {groupId : String}

theorem OcoMove.frame (move : OcoMove before (phases threadId) effect answer after next)
    (coordinated : OcoCoordinated before phases) (elsewhere : ¬ effect.Concerns groupId) :
    OcoRegistry.SameFor groupId before after := by
  generalize started : phases threadId = phase at move
  cases move with
  | registered accepted => exact .register elsewhere accepted
  | cleared other =>
      apply OcoRegistry.SameFor.clear
      intro same
      exact elsewhere (congrArg takeProfitLinkId same)
  | created keyed => exact .create keyed elsewhere
  | @pended _ orderLinkId ready unmapped placing =>
      refine ⟨rfl, fun _ _ => rfl, fun _ _ => Iff.rfl, fun other linked => ?_⟩
      have apart : other ≠ orderLinkId := by
        rintro rfl
        exact elsewhere linked
      simp [apart]
  | @started _ orderLinkId other group ready leg found isOpen =>
      apply OcoRegistry.SameFor.write
      rintro rfl
      exact elsewhere (coordinated.consistent.leg_is_link_id leg)
  | @settled other otherLegQuery group found =>
      have keyed := coordinated.consistent.keyed found
      rw [keyed.takeProfit, keyed.stopLoss]
      exact .erase elsewhere
  | failed found => exact .write elsewhere _
  | removed found =>
      have keyed := coordinated.copies started
      rw [keyed.takeProfit, keyed.stopLoss]
      exact .erase elsewhere
  | network _ | refused _ | dropped _ _ | vanished _ | found _ | unknown _ | gone _ =>
      exact .refl groupId before

/-- The group that a call is placing, handing a fill over to or working on. -/
def OcoPhase.group : OcoPhase → Option String
  | .idle | .holding _ _ => none
  | .placing groupId | .handingOver groupId _ | .cancelling groupId _ => some groupId

/-- A call's standing towards a group changes with a request about that group only. -/
theorem OcoMove.standing (move : OcoMove before (phases threadId) effect answer after next)
    (coordinated : OcoCoordinated before phases) (elsewhere : ¬ effect.Concerns groupId)
    (standing : (phases threadId).group = some groupId ∨ next.group = some groupId) :
    next = phases threadId := by
  have unready : ∀ {orderLinkId}, (phases threadId).MayStart orderLinkId →
      ¬ IsLinkId groupId orderLinkId → (phases threadId).group ≠ some groupId := by
    rintro orderLinkId (idle | ⟨other, hands⟩) unlinked
    · rw [idle]
      exact nofun
    · rw [hands]
      rintro ⟨⟩
      exact unlinked (coordinated.handedOver hands)
  generalize started : phases threadId = phase at move standing unready
  cases move with
  | network _ => rfl
  | registered accepted =>
      rcases standing with ⟨⟨⟩⟩ | same
      cases same
      exact absurd rfl elsewhere
  | refused _ | found _ | unknown _ | removed _ | gone _ =>
      rcases standing with same | same
      · cases same
      · cases same
  | cleared other =>
      rcases standing with same | ⟨⟨⟩⟩
      cases same
      exact absurd rfl elsewhere
  | @created group keyed =>
      have same : group.groupId = groupId := by
        rcases standing with same | same
        · exact Option.some.inj same
        · cases taken : before.pendingFilledOrderLinkId group <;> rw [taken] at same <;>
            cases same
          rfl
      exact absurd same elsewhere
  | pended ready _ _ | dropped ready _ =>
      rcases standing with same | ⟨⟨⟩⟩
      exact absurd same (unready ready elsewhere)
  | started ready leg found isOpen =>
      rcases standing with same | same
      · exact absurd same (unready ready elsewhere)
      · cases same
        exact absurd (coordinated.consistent.leg_is_link_id leg) elsewhere
  | vanished _ | settled _ | failed _ =>
      rcases standing with same | ⟨⟨⟩⟩
      cases same
      exact absurd rfl elsewhere

end Frame

/-! ## Runs -/

section Runs

variable {rounding : NearestRounding} {fromChars : String → Option Decimal}
  {steps : List (OcoStep rounding fromChars)} {state before after : OcoState rounding fromChars}
  {threadId : ThreadId} {effect : OcoEffect} {answer : effect.Answer}

theorem oco_answers (history : OcoHistory) (registry : OcoRegistry) (effect : OcoEffect)
    (answer : effect.Answer) (after : OcoRegistry)
    (performed : effect.Performs registry answer after) :
    ocoContract.ensures history effect answer :=
  performs_answers performed

/-- A step of a run asks what its call may ask. -/
theorem oco_run_allows (run : OcoRun rounding fromChars steps before)
    (moves : before.Moves (.performed threadId effect answer) after) :
    (phaseOf before threadId).Allows effect ∧ Prepared (before.historyOf threadId) effect :=
  run.allows oco_answers (fun call => call_meets call) moves

theorem oco_run_moves (run : OcoRun rounding fromChars steps before)
    (moves : before.Moves (.performed threadId effect answer) after) :
    OcoMove before.shared (phaseOf before threadId) effect answer after.shared
      (phaseOf after threadId) := by
  rw [phaseOf, phaseOf, moves.history_of_actor]
  exact oco_moves (oco_run_allows run moves).1 moves.performs

/-- The phases before and after: the actor's moves, the others stay. -/
theorem phases_performed (moves : before.Moves (.performed threadId effect answer) after) :
    phaseOf after = Function.update (phaseOf before) threadId (phaseOf after threadId) := by
  funext other
  by_cases acting : other = threadId
  · subst acting
    rw [Function.update_self]
  · rw [Function.update_of_ne acting, phaseOf, moves.history_of_other acting]
    rfl

theorem phases_started {call : OcoCall} (moves : before.Moves (.started threadId call) after) :
    phaseOf after = phaseOf before := by
  funext other
  rw [phaseOf, (moves.history_of_started other).2]
  rfl

theorem oco_run_coordinated (run : OcoRun rounding fromChars steps state) :
    OcoCoordinated state.shared (phaseOf state) := by
  induction run with
  | start =>
      refine ⟨.initially, ?_, ?_, ?_, ?_⟩
      · intro orderLinkId
        apply iff_of_false
        · exact Finset.notMem_empty _
        · rintro ⟨threadId, groupId, places, _⟩
          cases places
      · intro first second groupId places
        cases places
      · intro threadId groupId ocoGroup holds
        cases holds
      · intro threadId groupId orderLinkId hands
        cases hands
  | @step steps before after event run moves ih =>
      cases event with
      | started threadId call =>
          rw [phases_started moves, (moves.history_of_started threadId).1]
          exact ih
      | performed threadId effect answer =>
          rw [phases_performed moves]
          exact ih.moves (oco_run_moves run moves)

/-- What holds of the four containers at any moment. -/
structure OcoInvariant (state : OcoState rounding fromChars) : Prop where
  legs : ∀ orderLinkId groupId, state.shared.ocoLegToGroup orderLinkId = some groupId →
    ∃ group, state.shared.ocoGroups groupId = some group ∧
      (orderLinkId = group.tpOrderLinkId ∨ orderLinkId = group.slOrderLinkId)
  groups : ∀ groupId group, state.shared.ocoGroups groupId = some group →
    group.tpOrderLinkId ≠ group.slOrderLinkId ∧
      ∀ orderLinkId, state.shared.ocoLegToGroup orderLinkId = some groupId ↔
        orderLinkId = group.tpOrderLinkId ∨ orderLinkId = group.slOrderLinkId
  placing : ∀ orderLinkId ∈ state.shared.placingOcoOrderLinkIds,
    state.shared.ocoLegToGroup orderLinkId = none
  pending : state.shared.pendingOcoFilledOrderLinkIds ⊆ state.shared.placingOcoOrderLinkIds
  onePlacement : ∀ groupId first second, phaseOf state first = .placing groupId →
    phaseOf state second = .placing groupId → first = second
  unregistered : ∀ groupId threadId, phaseOf state threadId = .placing groupId →
    state.shared.ocoGroups groupId = none
  /-- a second placement with an active id -/
  rejects : ∀ threadId groupId takeProfitOrderLinkId stopLossOrderLinkId answer after,
    state.Moves (.performed threadId (.placement (.registerOcoPlacement groupId
      takeProfitOrderLinkId stopLossOrderLinkId)) answer) after →
    ((∃ other, phaseOf state other = .placing groupId) ∨
      (state.shared.ocoGroups groupId).isSome) →
    answer = .error (.runtime
      ("Bybit placeOco: listClientOrderId is already active: " ++ groupId)) ∧
      after.shared = state.shared

theorem oco_registry_invariant (run : OcoRun rounding fromChars steps state) :
    OcoInvariant state := by
  have coordinated := oco_run_coordinated run
  have consistent := coordinated.consistent
  refine ⟨fun _ _ => consistent.legs, ?_, fun _ => consistent.placing, consistent.pending,
    fun _ _ _ => coordinated.alone, ?_, ?_⟩
  · intro groupId group found
    have keyed := consistent.keyed found
    rw [keyed.takeProfit, keyed.stopLoss]
    refine ⟨take_profit_ne_stop_loss groupId groupId, fun orderLinkId => ?_⟩
    rw [consistent.leg_iff, found]
    exact and_iff_right rfl
  · intro groupId threadId places
    have placing := coordinated.placing.2 ⟨threadId, groupId, places, .inl rfl⟩
    exact consistent.unregistered (.inl rfl) placing
  · intro threadId groupId takeProfitOrderLinkId stopLossOrderLinkId answer after moves active
    obtain ⟨_, rfl, rfl⟩ := (oco_run_allows run moves).1
    have isActive : state.shared.IsActive groupId (takeProfitLinkId groupId)
        (stopLossLinkId groupId) := by
      rcases active with ⟨other, places⟩ | registered
      · exact .inr (.inl (.inl (coordinated.placing.2 ⟨other, groupId, places, .inl rfl⟩)))
      · exact .inl registered
    have performed := moves.performs
    simp only [OcoEffect.Performs, OcoRegistry.registerOcoPlacement, throwIf, if_pos isActive]
      at performed
    exact performed

end Runs

/-! ## A scripted group -/

def readDecimal (text : String) : Option Decimal := decimalValue text.toList

/-- Every network call succeeds. -/
def promptNetwork : (effect : OcoEffect) → effect.Answer
  | .placement (.getSymbolInfo _ _) => .ok {
      symbol := "BTCUSDT"
      baseAsset := "BTC"
      quoteAsset := "USDT"
      tickSize := 1 / 100
      stepSize := 1 }
  | .placement (.getTickerPrice _) => .ok 20
  | .placement (.getOrderPriceLimit _ _) => .ok { buyLmt := some "100", sellLmt := some "1" }
  | .placement (.getBalance asset) => some { asset, free := 1000000 }
  | .placement .getServerTimestamp => .ok 0
  | .placement (.createBinanceOrder _) => .ok {}
  | .placement (.createBinanceOco _) => .ok {}
  | .placement (.createBybitOrder body) => .ok { orderId := "order " ++ body.orderLinkId.getD "" }
  | .placement (.cancelOrder _) => .ok {}
  | .placement .ensureUserStreamConnected => .ok ()
  | .placement .generateUniqueOcoId => "oco"
  | .placement (.registerOcoPlacement _ _ _) => .ok ()
  | .placement (.clearOcoPlacementRegistration _ _) => ()
  | .placement (.createOcoGroup _) => none
  | .placement (.processOcoUpdate _) => .ok none
  | .startOcoUpdate _ => none
  | .finishOcoUpdate _ _ => none
  | .findOcoGroup _ => .error (.runtime "")
  | .removeOcoGroup _ _ => ()
  | .cancelOrder _ => .ok {}
  | .getOrder _ => .ok {}

theorem prompt_network_standard (effect : OcoEffect) : AnswersOco effect (promptNetwork effect) := by
  cases effect with
  | placement placed =>
      cases placed <;> first | exact trivial | exact standard_ok _ | exact ⟨_, rfl⟩
  | findOcoGroup _ => exact standard_runtime _
  | cancelOrder _ | getOrder _ => exact standard_ok _
  | startOcoUpdate _ | finishOcoUpdate _ _ | removeOcoGroup _ _ => exact trivial

def scripted (script : List (Command OcoCall)) : OcoState roundHalfUp readDecimal :=
  script.foldl (Threads.obey (ocoRespond promptNetwork)) (.alone {})

theorem scripted_run (script : List (Command OcoCall)) :
    ∃ steps, OcoRun roundHalfUp readDecimal steps (scripted script) := by
  obtain ⟨steps, run⟩ := oco_script_runs prompt_network_standard .start script
  exact ⟨_, run⟩

def sellOco : PlaceOcoRequest where
  symbol := "BTCUSDT"
  side := .sell
  quantity := 1
  price := 30
  stopPrice := 10
  listClientOrderId := some "g"

/-- A whole placement. -/
def placementScript (placer : ThreadId) : List (Command OcoCall) :=
  [.start placer (.placeOco sellOco), .act placer 13]

theorem placed_group_invariant :
    ((scripted (placementScript 0)).shared.ocoGroups "g").isSome ∧
      OcoInvariant (scripted (placementScript 0)) := by
  obtain ⟨steps, run⟩ := scripted_run (placementScript 0)
  exact ⟨by decide +kernel, oco_registry_invariant run⟩

end CryptoDeal.DealService.Bybit
