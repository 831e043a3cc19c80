import CryptoDeal.DealService.OcoGroupLife

/-!
# Fills of an emulated OCO group

A fill that is seen while the legs are being placed leads to the cancellation of
the other leg once the group is made. From then on a fill either starts one or
finds one in flight, and a failed one leaves the group open for the next fill.
-/

namespace CryptoDeal.DealService.Bybit

open DecimalText DecimalConverter Interaction

variable {rounding : NearestRounding} {fromChars : String → Option Decimal} {groupId : String}
  {steps : List (OcoStep rounding fromChars)} {state : OcoState rounding fromChars}

/-! ## The orders of a group -/

/-- A group that is registered was so before, or has just been made. -/
theorem OcoMove.group_origin {before after : OcoRegistry} {phase next : OcoPhase}
    {effect : OcoEffect} {answer : effect.Answer} {group : RegisteredOcoGroup}
    (move : OcoMove before phase effect answer after next)
    (found : after.ocoGroups groupId = some group) :
    (∃ earlier, before.ocoGroups groupId = some earlier ∧
      earlier.toBybitOcoGroup = group.toBybitOcoGroup) ∨
    group.groupId = groupId ∧ effect = .placement (.createOcoGroup group.toBybitOcoGroup) := by
  have written : ∀ {other known} {record : RegisteredOcoGroup},
      before.ocoGroups other = some known →
        (before.writeGroup other record).ocoGroups groupId = some group →
          record.toBybitOcoGroup = known.toBybitOcoGroup →
            ∃ earlier, before.ocoGroups groupId = some earlier ∧
              earlier.toBybitOcoGroup = group.toBybitOcoGroup := by
    intro other known record lookup found same
    by_cases own : groupId = other
    · subst own
      rw [OcoRegistry.write_group_own] at found
      cases found
      exact ⟨known, lookup, same.symm⟩
    · rw [OcoRegistry.write_group_other own] at found
      exact ⟨group, found, rfl⟩
  have erased : ∀ {other first second},
      (before.eraseGroup other first second).ocoGroups groupId = some group →
        before.ocoGroups groupId = some group := by
    intro other first second found
    by_cases own : groupId = other
    · subst own
      rw [OcoRegistry.erase_group_own] at found
      cases found
    · rwa [OcoRegistry.erase_group_other own] at found
  cases move with
  | registered accepted =>
      obtain ⟨_, _, same⟩ := except_bind_ok.1 accepted
      cases same
      exact .inl ⟨group, found, rfl⟩
  | @created placed _ =>
      by_cases own : groupId = placed.groupId
      · subst own
        rw [OcoRegistry.create_group_own] at found
        cases found
        exact .inr ⟨rfl, rfl⟩
      · rw [OcoRegistry.create_group_other own] at found
        exact .inl ⟨group, found, rfl⟩
  | started _ _ lookup _ => exact .inl (written lookup found rfl)
  | failed lookup => exact .inl (written lookup found rfl)
  | settled _ | removed _ => exact .inl ⟨group, erased found, rfl⟩
  | cleared _ | network _ | refused _ | pended _ _ _ | dropped _ _ | vanished _ | found _
  | unknown _ | gone _ => exact .inl ⟨group, found, rfl⟩

/-- The query names the order that the group's own placement got for the link id. -/
def NamesLeg (groupId : String) (steps : List (OcoStep rounding fromChars))
    (state : OcoState rounding fromChars) (orderLinkId : String) (query : OrderQuery) : Prop :=
  ∃ creator, (∃ step ∈ steps, CreatesGroup groupId creator step.2) ∧
    LegPlaced (placementPart (state.historyOf creator)) orderLinkId query

theorem NamesLeg.later {before after : OcoState rounding fromChars} {event : OcoEvent}
    {orderLinkId : String} {query : OrderQuery} (moves : before.Moves event after)
    (names : NamesLeg groupId steps before orderLinkId query) :
    NamesLeg groupId ((before, event) :: steps) after orderLinkId query := by
  obtain ⟨creator, ⟨step, member, creates⟩, body, orderInfo, returned, named⟩ := names
  refine ⟨creator, ⟨step, List.mem_cons_of_mem _ member, creates⟩, body, orderInfo, ?_, named⟩
  rw [mem_placement_part] at returned ⊢
  cases event with
  | started threadId call =>
      rw [(moves.history_of_started creator).2]
      exact returned
  | performed threadId effect answer =>
      by_cases acting : creator = threadId
      · subst acting
        rw [moves.history_of_actor]
        exact List.mem_cons_of_mem _ returned
      · rwa [moves.history_of_other acting]

/-- A registered group names the orders that its placement got for its two legs. -/
theorem registered_legs_named (run : OcoRun rounding fromChars steps state)
    {group : RegisteredOcoGroup} (found : state.shared.ocoGroups groupId = some group) :
    NamesLeg groupId steps state group.tpOrderLinkId group.takeProfit ∧
      NamesLeg groupId steps state group.slOrderLinkId group.stopLeg := by
  induction run generalizing group with
  | start => cases found
  | @step steps before after event run moves ih =>
      cases event with
      | started threadId call =>
          rw [(moves.history_of_started threadId).1] at found
          exact ⟨(ih found).1.later moves, (ih found).2.later moves⟩
      | performed threadId effect answer =>
          rcases (oco_run_moves run moves).group_origin found with
            ⟨earlier, known, same⟩ | ⟨own, rfl⟩
          · have named := ih known
            rw [same] at named
            exact ⟨named.1.later moves, named.2.later moves⟩
          · have made : ∃ step ∈ (before, .performed threadId
                (.placement (.createOcoGroup group.toBybitOcoGroup)) answer) :: steps,
                CreatesGroup groupId threadId step.2 :=
              ⟨_, List.mem_cons_self, own, rfl⟩
            obtain ⟨takeProfit, stopLoss⟩ := (oco_run_allows run moves).2
            refine ⟨⟨threadId, made, ?_⟩, threadId, made, ?_⟩
            · rw [moves.history_of_actor]
              exact takeProfit.mono (List.subset_cons_self _ _)
            · rw [moves.history_of_actor]
              exact stopLoss.mono (List.subset_cons_self _ _)

/-- The leg besides the one that filled. -/
def otherLinkId (groupId orderLinkId : String) : String :=
  if orderLinkId = takeProfitLinkId groupId then stopLossLinkId groupId
  else takeProfitLinkId groupId

theorem other_leg_query_named (run : OcoRun rounding fromChars steps state)
    {group : RegisteredOcoGroup} (found : state.shared.ocoGroups groupId = some group)
    (orderLinkId : String) :
    NamesLeg groupId steps state (otherLinkId groupId orderLinkId)
      (OcoRegistry.otherLegQuery group.toBybitOcoGroup orderLinkId) := by
  have keyed := (oco_run_coordinated run).consistent.keyed found
  obtain ⟨takeProfit, stopLoss⟩ := registered_legs_named run found
  unfold OcoRegistry.otherLegQuery otherLinkId
  rw [keyed.takeProfit] at takeProfit ⊢
  rw [keyed.stopLoss] at stopLoss
  split_ifs
  · exact stopLoss
  · exact takeProfit

/-! ## Every fill -/

/-- What the emulated OCO promises of one group at any moment. -/
structure FillsProtected (groupId : String) (steps : List (OcoStep rounding fromChars))
    (state : OcoState rounding fromChars) : Prop where
  handedOver : (∃ step ∈ steps, SeesFill groupId step) →
    (∃ step ∈ steps, ∃ creator, CreatesGroup groupId creator step.2) →
      (∃ step ∈ steps, TakesUp groupId step.2) ∨
        ∃ creator orderLinkId, (∃ step ∈ steps, CreatesGroup groupId creator step.2) ∧
          IsLinkId groupId orderLinkId ∧
          (∀ thread, state.threads creator = some thread →
            ∀ outcome, thread.current ≠ .ofExcept outcome) ∧
          ∀ effect answer after, state.Moves (.performed creator effect answer) after →
            effect = .startOcoUpdate orderLinkId ∧
              ∃ step ∈ (state, .performed creator effect answer) :: steps, TakesUp groupId step.2
  /-- A fill of the registered group is taken up, for the other leg, unless one is in flight. -/
  taken : ∀ threadId orderLinkId answer after group,
    state.Moves (.performed threadId (.startOcoUpdate orderLinkId) answer) after →
      IsLinkId groupId orderLinkId → state.shared.ocoGroups groupId = some group →
        (∃ query, answer = some (groupId, query) ∧
          NamesLeg groupId steps state (otherLinkId groupId orderLinkId) query ∧
          phaseOf after threadId = .cancelling groupId query) ∨
        answer = none ∧ group.closing = true ∧
          ∃ worker query, phaseOf state worker = .cancelling groupId query
  /-- What a cancellation in flight asks for is its own query, at least once. -/
  asked : ∀ worker query effect answer after, phaseOf state worker = .cancelling groupId query →
    state.Moves (.performed worker effect answer) after →
      effect = .cancelOrder query ∨ effect = .getOrder query ∨
        (∃ cancelError, effect = .finishOcoUpdate groupId cancelError) ∧
          ∃ given, ⟨.cancelOrder query, given⟩ ∈ state.historyOf worker
  oneInFlight : ∀ first second firstQuery secondQuery,
    phaseOf state first = .cancelling groupId firstQuery →
      phaseOf state second = .cancelling groupId secondQuery → first = second
  reopened : ∀ worker error answer after,
    state.Moves (.performed worker (.finishOcoUpdate groupId (some error)) answer) after →
      (∃ group, after.shared.ocoGroups groupId = some group ∧ group.closing = false) ∧
        ∀ other query, phaseOf after other ≠ .cancelling groupId query

theorem hand_over_only {orderLinkId : String} {effect : OcoEffect} {answer : effect.Answer}
    {before after : OcoRegistry} (allowed : (OcoPhase.handingOver groupId orderLinkId).Allows effect)
    (performed : effect.Performs before answer after) : effect = .startOcoUpdate orderLinkId := by
  cases effect with
  | placement placed =>
      cases placed with
      | registerOcoPlacement _ _ _ =>
          obtain ⟨⟨⟩, _⟩ := allowed
      | clearOcoPlacementRegistration _ _ =>
          obtain ⟨_, ⟨⟩, _⟩ := allowed
      | createOcoGroup _ =>
          obtain ⟨⟨⟩, _⟩ := allowed
      | processOcoUpdate _ => exact performed.elim
      | _ => exact allowed.elim
  | startOcoUpdate other =>
      rcases allowed with idle | ⟨_, hands⟩
      · cases idle
      · cases hands
        rfl
  | finishOcoUpdate _ _ =>
      obtain ⟨_, ⟨⟩⟩ := allowed
  | findOcoGroup _ | removeOcoGroup _ _ => cases allowed
  | cancelOrder _ | getOrder _ => exact allowed.elim

theorem cancelling_only {query : OrderQuery} {effect : OcoEffect}
    (allowed : (OcoPhase.cancelling groupId query).Allows effect) :
    effect = .cancelOrder query ∨ effect = .getOrder query ∨
      ∃ cancelError, effect = .finishOcoUpdate groupId cancelError := by
  cases effect with
  | placement placed =>
      cases placed with
      | registerOcoPlacement _ _ _ =>
          obtain ⟨⟨⟩, _⟩ := allowed
      | clearOcoPlacementRegistration _ _ =>
          obtain ⟨_, ⟨⟩, _⟩ := allowed
      | createOcoGroup _ =>
          obtain ⟨⟨⟩, _⟩ := allowed
      | processOcoUpdate _ =>
          obtain ⟨_, ⟨⟩⟩ := allowed
      | _ => exact allowed.elim
  | startOcoUpdate _ =>
      rcases allowed with idle | ⟨_, hands⟩
      · cases idle
      · cases hands
  | finishOcoUpdate _ cancelError =>
      obtain ⟨_, ⟨⟩⟩ := allowed
      exact .inr (.inr ⟨cancelError, rfl⟩)
  | findOcoGroup _ | removeOcoGroup _ _ => cases allowed
  | cancelOrder _ =>
      obtain rfl := allowed
      exact .inl rfl
  | getOrder _ =>
      obtain rfl := allowed
      exact .inr (.inl rfl)

theorem oco_run_ended (run : OcoRun rounding fromChars steps state) {threadId : ThreadId}
    {thread : Thread (ocoSystem rounding fromChars)}
    (found : state.threads threadId = some thread)
    {outcome : Except ServiceFailure thread.call.Result} (ended : thread.current = .ofExcept outcome) :
    CallEnded rounding thread.call thread.history outcome := by
  have met := run.meets oco_answers (fun call => call_meets call) found
  rw [ended, meets_of_except] at met
  exact met

theorem OcoMove.start {before after : OcoRegistry} {phase next : OcoPhase} {orderLinkId : String}
    {answer : Option (String × OrderQuery)}
    (move : OcoMove before phase (.startOcoUpdate orderLinkId) answer after next) :
    (answer = none ∧ orderLinkId ∈ before.placingOcoOrderLinkIds ∨
      answer = none ∧ before.DropsFill orderLinkId) ∨
    ∃ groupId group, before.ocoLegToGroup orderLinkId = some groupId ∧
      before.ocoGroups groupId = some group ∧
      answer = some (groupId, OcoRegistry.otherLegQuery group.toBybitOcoGroup orderLinkId) ∧
      next = .cancelling groupId (OcoRegistry.otherLegQuery group.toBybitOcoGroup orderLinkId) := by
  cases move with
  | network network => cases network
  | pended ready unmapped placing => exact .inl (.inl ⟨rfl, placing⟩)
  | dropped ready drops => exact .inl (.inr ⟨rfl, drops⟩)
  | started ready leg found isOpen => exact .inr ⟨_, _, leg, found, rfl, rfl⟩

theorem OcoMove.fail {before after : OcoRegistry} {phase next : OcoPhase} {error : String}
    {answer : Option String} {group : RegisteredOcoGroup}
    (move : OcoMove before phase (.finishOcoUpdate groupId (some error)) answer after next)
    (found : before.ocoGroups groupId = some group) :
    answer = some error ∧ next = .idle ∧ after.ocoGroups groupId =
      some { group with closing := false, lastError := error } := by
  cases move with
  | network network => cases network
  | vanished missing =>
      rw [missing] at found
      cases found
  | failed known =>
      cases known.symm.trans found
      exact ⟨rfl, rfl, OcoRegistry.write_group_own⟩

theorem GroupStands.of_registered {registry : OcoRegistry} {phases : ThreadId → OcoPhase}
    {group : RegisteredOcoGroup} (stands : GroupStands groupId steps registry phases)
    (coordinated : OcoCoordinated registry phases)
    (found : registry.ocoGroups groupId = some group) :
    ∃ creator, GroupMade groupId creator steps registry phases := by
  cases stands with
  | unused _ unused _ _ _ | abandoned _ unused _ _ =>
      rw [unused.group] at found
      cases found
  | placing placer phase _ _ _ _ =>
      have placing := coordinated.placing.2 ⟨placer, groupId, phase, .inl rfl⟩
      rw [coordinated.consistent.unregistered (.inl rfl) placing] at found
      cases found
  | made creator _ made => exact ⟨creator, made⟩

theorem GroupStands.of_working {registry : OcoRegistry} {phases : ThreadId → OcoPhase}
    {worker : ThreadId} {query : OrderQuery}
    (stands : GroupStands groupId steps registry phases)
    (works : phases worker = .cancelling groupId query) :
    ∃ creator, GroupMade groupId creator steps registry phases := by
  cases stands with
  | unused _ _ _ _ away | abandoned _ _ _ away => exact absurd (by rw [works]; rfl) (away worker)
  | placing placer phase _ _ away _ =>
      have apart : worker ≠ placer := by
        rintro rfl
        rw [phase] at works
        cases works
      exact absurd (by rw [works]; rfl) (away worker apart)
  | made creator _ made => exact ⟨creator, made⟩

theorem fills_protected (run : OcoRun rounding fromChars steps state)
    (once : PlacedOnce groupId steps) : FillsProtected groupId steps state := by
  have stands := group_stands run once
  have coordinated := oco_run_coordinated run
  have consistent := coordinated.consistent
  refine ⟨?_, ?_, ?_, ?_, ?_⟩
  · rintro sees ⟨creation, member, someone, creates⟩
    cases stands with
    | unused _ _ uncreated _ _ | placing _ _ _ uncreated _ _ | abandoned _ _ uncreated _ =>
        exact absurd creates (uncreated creation member someone)
    | made creator registered made =>
        rcases made.handed sees with taken | ⟨orderLinkId, hands⟩
        · exact .inl taken
        refine .inr ⟨creator, orderLinkId, made.created, coordinated.handedOver hands, ?_, ?_⟩
        · intro thread found outcome ended
          have mayEnd := (oco_run_ended run found ended).may_end
          rw [← Threads.history_of_found found] at mayEnd
          change (phaseOf state creator).MayEnd at mayEnd
          rw [hands] at mayEnd
          exact mayEnd
        · intro effect answer after moves
          have allowed := (oco_run_allows run moves).1
          rw [hands] at allowed
          obtain rfl := hand_over_only allowed moves.performs
          refine ⟨rfl, ?_⟩
          have grows : (∃ step ∈ steps, TakesUp groupId step.2) →
              ∃ step ∈ (state, .performed creator (.startOcoUpdate orderLinkId) answer) :: steps,
                TakesUp groupId step.2 := by
            rintro ⟨step, member, takes⟩
            exact ⟨step, List.mem_cons_of_mem _ member, takes⟩
          have linked := coordinated.handedOver hands
          rcases (oco_run_moves run moves).start with (⟨_, placing⟩ | ⟨_, drops⟩) |
              ⟨other, group, leg, found, rfl, _⟩
          · have sees : SeesFill groupId
                (state, .performed creator (.startOcoUpdate orderLinkId) answer) := ⟨linked, placing⟩
            exact absurd sees (made.unseen coordinated)
          · exact grows (made.tried_of_drops consistent linked drops)
          · cases link_id_group (consistent.leg_is_link_id leg) linked
            exact ⟨_, List.mem_cons_self, rfl⟩
  · intro threadId orderLinkId answer after group moves linked found
    have leg := consistent.leg_iff.2 ⟨by rw [found]; rfl, linked⟩
    obtain ⟨creator, made⟩ := stands.of_registered coordinated found
    rcases (oco_run_moves run moves).start with (⟨_, placing⟩ | ⟨rfl, drops⟩) |
        ⟨other, known, otherLeg, knownFound, rfl, phase⟩
    · rw [consistent.placing placing] at leg
      cases leg
    · rw [OcoRegistry.DropsFill, leg] at drops
      have closing := drops group found
      exact .inr ⟨rfl, closing, made.closing.2 ⟨group, found, closing⟩⟩
    · cases leg.symm.trans otherLeg
      cases found.symm.trans knownFound
      exact .inl ⟨_, rfl, other_leg_query_named run found orderLinkId, phase⟩
  · intro worker query effect answer after works moves
    obtain ⟨allowed, prepared⟩ := oco_run_allows run moves
    rw [works] at allowed
    rcases cancelling_only allowed with rfl | rfl | ⟨cancelError, rfl⟩
    · exact .inl rfl
    · exact .inr (.inl rfl)
    · exact .inr (.inr ⟨⟨cancelError, rfl⟩, prepared query works⟩)
  · intro first second firstQuery secondQuery firstWorks secondWorks
    obtain ⟨creator, made⟩ := stands.of_working firstWorks
    exact made.oneWorker first second firstQuery secondQuery firstWorks secondWorks
  · intro worker error answer after moves
    obtain ⟨query, works⟩ := (oco_run_allows run moves).1
    obtain ⟨creator, made⟩ := stands.of_working works
    obtain ⟨group, found, _⟩ := made.closing.1 ⟨worker, query, works⟩
    obtain ⟨_, idle, written⟩ := (oco_run_moves run moves).fail found
    refine ⟨⟨_, written, rfl⟩, fun other otherQuery still => ?_⟩
    rw [phases_performed moves, idle] at still
    by_cases acting : other = worker
    · rw [acting, Function.update_self] at still
      cases still
    · rw [Function.update_of_ne acting] at still
      exact acting (made.oneWorker other worker otherQuery query still works)

theorem scripted_fill_protected :
    (∃ steps, OcoRun roundHalfUp readDecimal steps (scripted fillScript) ∧
      FillsProtected "g" steps (scripted fillScript)) ∧
    phaseOf (scripted fillScript) 1 = .cancelling "g" {
      symbol := "BTCUSDT", orderId := some "order g_SL", clientOrderId := some "g_SL" } := by
  obtain ⟨steps, run, only⟩ := fill_script_only_user
  exact ⟨⟨steps, run, fills_protected run (only.placed_once run)⟩, by decide +kernel⟩

end CryptoDeal.DealService.Bybit
