import CryptoDeal.DealService.OcoFills

/-!
# Failing placements and cancellations

What a `placeOco` that throws leaves behind: nothing of its id before its group is
made, and the open group with its error after. Its first order is cancelled on the
way out unless formatting the stop price is what failed. A `cancelOco` removes its
group only when both legs are settled, and changes nothing when it throws.
-/

namespace CryptoDeal.DealService.Bybit

open DecimalText DecimalConverter Interaction

variable {rounding : NearestRounding} {fromChars : String → Option Decimal}

/-! ## The one caller that uses an id -/

section OnlyUser

variable {groupId : String} {user threadId : ThreadId} {steps : List (OcoStep rounding fromChars)}
  {state : OcoState rounding fromChars} {event : OcoEvent}

/-- A call that is placing a group has registered it. -/
theorem registered_of_placing {history : OcoHistory}
    (places : ocoPhase history = .placing groupId) :
    ∃ takeProfitOrderLinkId stopLossOrderLinkId, ⟨.placement (.registerOcoPlacement groupId
      takeProfitOrderLinkId stopLossOrderLinkId), .ok ()⟩ ∈ history := by
  induction history with
  | nil => cases places
  | cons item earlier ih =>
      obtain ⟨effect, answer⟩ := item
      by_cases same : ocoPhase earlier = .placing groupId
      · obtain ⟨takeProfit, stopLoss, member⟩ := ih same
        exact ⟨takeProfit, stopLoss, List.mem_cons_of_mem _ member⟩
      rw [ocoPhase] at places
      cases effect with
      | placement placed =>
          cases placed with
          | registerOcoPlacement other takeProfit stopLoss =>
              cases answer with
              | ok registered =>
                  cases places
                  exact ⟨takeProfit, stopLoss, List.mem_cons_self⟩
              | error failure => exact absurd places same
          | clearOcoPlacementRegistration _ _ | processOcoUpdate _ => cases places
          | createOcoGroup _ => cases answer <;> cases places
          | _ => exact absurd places same
      | startOcoUpdate _ =>
          cases answer <;> cases places
      | findOcoGroup _ =>
          cases answer with
          | ok ocoGroup => cases places
          | error failure => exact absurd places same
      | finishOcoUpdate _ _ | removeOcoGroup _ _ => cases places
      | cancelOrder _ | getOrder _ => exact absurd places same

theorem OnlyUser.placer (run : OcoRun rounding fromChars steps state)
    (only : OnlyUser groupId user steps) (places : phaseOf state threadId = .placing groupId) :
    threadId = user := by
  obtain ⟨takeProfit, stopLoss, member⟩ := registered_of_placing places
  obtain ⟨step, stepMember, same⟩ := run.mem_history.1 member
  obtain ⟨effect, answer, acted⟩ := only.registers step stepMember
    (registers_group_iff.2 ⟨threadId, takeProfit, stopLoss, same⟩)
  rw [same] at acted
  cases acted
  rfl

theorem creates_group_iff {creator : ThreadId} :
    CreatesGroup groupId creator event ↔ ∃ group pending, group.groupId = groupId ∧
      event = .performed creator (.placement (.createOcoGroup group)) pending := by
  constructor
  · intro creates
    unfold CreatesGroup at creates
    split at creates
    next threadId group pending =>
        obtain ⟨own, rfl⟩ := creates
        exact ⟨group, pending, own, rfl⟩
    next => exact creates.elim
  · rintro ⟨group, pending, own, rfl⟩
    exact ⟨own, rfl⟩

theorem OnlyUser.creator {creator : ThreadId} (run : OcoRun rounding fromChars steps state)
    (only : OnlyUser groupId user steps)
    (created : ∃ step ∈ steps, CreatesGroup groupId creator step.2) : creator = user := by
  obtain ⟨step, member, creates⟩ := created
  obtain ⟨group, pending, rfl, same⟩ := creates_group_iff.1 creates
  obtain ⟨later, earlier, after, rfl, ran, moves⟩ := run.at_step member
  rw [same] at moves
  have onlyEarlier : OnlyUser group.groupId user earlier := by
    refine ⟨fun step known => only.registers step ?_, fun step known => only.unremoved step ?_⟩
    · exact List.mem_append_right _ (List.mem_cons_of_mem _ known)
    · exact List.mem_append_right _ (List.mem_cons_of_mem _ known)
  exact onlyEarlier.placer ran (oco_run_allows ran moves).1.1

end OnlyUser

/-! ## Before the group is made -/

section Unplaced

variable {groupId : String} {placer : ThreadId} {steps : List (OcoStep rounding fromChars)}
  {state : OcoState rounding fromChars}

theorem unused_of_uncreated (run : OcoRun rounding fromChars steps state)
    (only : OnlyUser groupId placer steps) (idle : phaseOf state placer = .idle)
    (uncreated : ∀ group pending,
      ⟨.placement (.createOcoGroup group), pending⟩ ∉ state.historyOf placer) :
    state.shared.Unused groupId := by
  cases group_stands run (only.placed_once run) with
  | unused _ unused _ _ _ | abandoned _ unused _ _ => exact unused
  | placing other phase _ _ _ _ =>
      cases only.placer run phase
      rw [idle] at phase
      cases phase
  | made creator _ made =>
      cases only.creator run made.created
      obtain ⟨step, member, creates⟩ := made.created
      obtain ⟨group, pending, _, same⟩ := creates_group_iff.1 creates
      exact absurd (run.mem_history.2 ⟨step, member, same⟩) (uncreated group pending)

theorem unused_at_start {start : OcoState rounding fromChars} {call : OcoCall}
    (run : OcoRun rounding fromChars steps state) (only : OnlyUser groupId placer steps)
    (started : (start, .started placer call) ∈ steps) : start.shared.Unused groupId := by
  obtain ⟨later, earlier, after, rfl, ran, moves⟩ := run.at_step started
  have onlyEarlier : OnlyUser groupId placer earlier := by
    refine ⟨fun step known => only.registers step ?_, fun step known => only.unremoved step ?_⟩
    · exact List.mem_append_right _ (List.mem_cons_of_mem _ known)
    · exact List.mem_append_right _ (List.mem_cons_of_mem _ known)
  have unstarted : start.historyOf placer = [] := by
    cases moves with
    | start _ _ fresh => exact Threads.history_of_fresh fresh
  apply unused_of_uncreated ran onlyEarlier
  · rw [phaseOf, unstarted]
    rfl
  · rw [unstarted]
    exact fun _ _ => List.not_mem_nil

theorem same_of_unused {before after : OcoRegistry} (first : before.Unused groupId)
    (second : after.Unused groupId) : OcoRegistry.SameFor groupId before after where
  group := second.group.trans first.group.symm
  legs orderLinkId linked :=
    (second.legs orderLinkId linked).trans (first.legs orderLinkId linked).symm
  placing orderLinkId linked :=
    iff_of_false (second.placing orderLinkId linked) (first.placing orderLinkId linked)
  pending orderLinkId linked :=
    iff_of_false (second.pending orderLinkId linked) (first.pending orderLinkId linked)

end Unplaced

/-! ## After the group is made -/

section Reopened

variable {groupId : String} {placer : ThreadId} {steps : List (OcoStep rounding fromChars)}
  {state : OcoState rounding fromChars}

/-- What can change the group under an id. -/
theorem OcoMove.group_kept {before after : OcoRegistry} {phase next : OcoPhase} {effect : OcoEffect}
    {answer : effect.Answer} {threadId : ThreadId}
    (move : OcoMove before phase effect answer after next)
    (unplaced : phase ≠ .placing groupId) (unworked : ∀ query, phase ≠ .cancelling groupId query)
    (untaken : ¬ TakesUp groupId (.performed threadId effect answer))
    (unremoved : removesGroup groupId (.performed threadId effect answer) = false) :
    after.ocoGroups groupId = before.ocoGroups groupId := by
  cases move with
  | @registered other after accepted =>
      obtain ⟨_, _, same⟩ := except_bind_ok.1 accepted
      cases same
      rfl
  | @created group keyed =>
      apply OcoRegistry.create_group_other
      rintro rfl
      exact unplaced rfl
  | started ready leg found isOpen =>
      apply OcoRegistry.write_group_other
      rintro rfl
      exact untaken rfl
  | settled found =>
      apply OcoRegistry.erase_group_other
      rintro rfl
      exact unworked _ rfl
  | failed found =>
      apply OcoRegistry.write_group_other
      rintro rfl
      exact unworked _ rfl
  | removed found =>
      have apart := of_decide_eq_false unremoved
      exact OcoRegistry.erase_group_other (Ne.symm apart)
  | network _ | refused _ | cleared _ | pended _ _ _ | dropped _ _ | vanished _ | found _
  | unknown _ | gone _ => rfl

theorem OcoMove.reopens {before after : OcoRegistry} {phase next : OcoPhase}
    {cancelError : Option String} {error : String}
    (move : OcoMove before phase (.finishOcoUpdate groupId cancelError) (some error) after next) :
    ∃ group, after.ocoGroups groupId = some group ∧ group.closing = false ∧
      group.lastError = error := by
  cases move with
  | network network => cases network
  | failed found => exact ⟨_, OcoRegistry.write_group_own, rfl, rfl⟩

theorem reopened_stays {later earlier : List (OcoStep rounding fromChars)}
    {before : OcoState rounding fromChars} {worker : ThreadId} {cancelError : Option String}
    {error : String}
    (run : OcoRun rounding fromChars
      (later ++ (before, .performed worker (.finishOcoUpdate groupId cancelError) (some error)) ::
        earlier) state)
    (once : PlacedOnce groupId
      (later ++ (before, .performed worker (.finishOcoUpdate groupId cancelError) (some error)) ::
        earlier)) :
    (∃ step ∈ later, TakesUp groupId step.2) ∨ ∃ group, state.shared.ocoGroups groupId = some group ∧
      group.closing = false ∧ group.lastError = error := by
  induction later generalizing state with
  | nil =>
      cases run with
      | step run moves =>
          exact .inr (oco_run_moves run moves).reopens
  | cons step later ih =>
      cases run with
      | @step _ middle _ event run moves =>
          rcases ih run once.earlier with ⟨attempt, member, takes⟩ | ⟨group, found, isOpen, sameError⟩
          · exact .inl ⟨attempt, List.mem_cons_of_mem _ member, takes⟩
          cases event with
          | started threadId call =>
              rw [(moves.history_of_started threadId).1]
              exact .inr ⟨group, found, isOpen, sameError⟩
          | performed threadId effect answer =>
              by_cases taken : TakesUp groupId (.performed threadId effect answer)
              · exact .inl ⟨_, List.mem_cons_self, taken⟩
              have coordinated := oco_run_coordinated run
              obtain ⟨creator, made⟩ :=
                (group_stands run once.earlier).of_registered coordinated found
              have kept := (oco_run_moves run moves).group_kept (made.placed threadId)
                (fun query works => by
                  obtain ⟨known, knownFound, closing⟩ := made.closing.1 ⟨threadId, query, works⟩
                  cases found.symm.trans knownFound
                  rw [closing] at isOpen
                  cases isOpen)
                taken (List.forall_mem_cons.1 once.unremoved).1
              exact .inr ⟨group, kept.trans found, isOpen, sameError⟩

theorem taken_link {threadId : ThreadId} {orderLinkId : String} {query : OrderQuery}
    (run : OcoRun rounding fromChars steps state)
    (taken : ⟨.startOcoUpdate orderLinkId, some (groupId, query)⟩ ∈ state.historyOf threadId) :
    IsLinkId groupId orderLinkId := by
  obtain ⟨step, member, same⟩ := run.mem_history.1 taken
  obtain ⟨later, earlier, after, rfl, ran, moves⟩ := run.at_step member
  rw [same] at moves
  rcases (oco_run_moves ran moves).start with (⟨⟨⟩, _⟩ | ⟨⟨⟩, _⟩) | ⟨other, group, leg, _, answered, _⟩
  cases answered
  exact (oco_run_coordinated ran).consistent.leg_is_link_id leg

theorem created_link {threadId : ThreadId} {group : BybitOcoGroup} {orderLinkId : String}
    (run : OcoRun rounding fromChars steps state)
    (created : ⟨.placement (.createOcoGroup group), some orderLinkId⟩ ∈ state.historyOf threadId) :
    IsLinkId group.groupId orderLinkId := by
  obtain ⟨step, member, same⟩ := run.mem_history.1 created
  obtain ⟨later, earlier, after, rfl, ran, moves⟩ := run.at_step member
  rw [same] at moves
  have keyed := (oco_run_allows ran moves).1.2
  exact pending_filled_is_link_id keyed moves.performs.1.symm

end Reopened

/-! ## Cancellations -/

/-- The registry stays as it is in every step of the call. -/
def LeavesRegistry (threadId : ThreadId) :
    List (OcoStep rounding fromChars) → OcoState rounding fromChars → Prop
  | [], _ => True
  | (before, event) :: earlier, after =>
      (∀ effect answer, event = .performed threadId effect answer → after.shared = before.shared) ∧
        LeavesRegistry threadId earlier before

theorem OcoMove.reads_only {before after : OcoRegistry} {phase next : OcoPhase} {effect : OcoEffect}
    {answer : effect.Answer} (move : OcoMove before phase effect answer after next)
    (readsOnly : effect.readsOnly) : after = before := by
  cases move with
  | network _ | found _ | unknown _ => rfl
  | _ => cases readsOnly

theorem leaves_registry_of_reads {steps : List (OcoStep rounding fromChars)}
    {state : OcoState rounding fromChars} {threadId : ThreadId}
    (run : OcoRun rounding fromChars steps state)
    (readsOnly : ∀ item ∈ state.historyOf threadId, item.1.readsOnly) :
    LeavesRegistry threadId steps state := by
  induction run with
  | start => exact trivial
  | @step steps before after event run moves ih =>
      refine ⟨?_, ih fun item member => readsOnly item ?_⟩
      · rintro effect answer rfl
        apply (oco_run_moves run moves).reads_only
        apply readsOnly ⟨effect, answer⟩
        rw [moves.history_of_actor]
        exact List.mem_cons_self
      · cases event with
        | started started call =>
            rw [(moves.history_of_started threadId).2]
            exact member
        | performed actor effect answer =>
            by_cases acting : threadId = actor
            · subst acting
              rw [moves.history_of_actor]
              exact List.mem_cons_of_mem _ member
            · rw [moves.history_of_other acting]
              exact member

/-! ## What failing calls leave -/

def Threw (state : OcoState rounding fromChars) (threadId : ThreadId) (call : OcoCall)
    (failure : ServiceFailure) : Prop :=
  ∃ thread, state.threads threadId = some thread ∧ thread.call = call ∧
    thread.current = .threw failure

/-- A placement has thrown before its group was made. -/
def ThrewUnmade (state : OcoState rounding fromChars) (placer : ThreadId)
    (request : PlaceOcoRequest) : Prop :=
  (∃ failure, Threw state placer (.placeOco request) failure) ∧
    ∀ group pending, ⟨.placement (.createOcoGroup group), pending⟩ ∉ state.historyOf placer

/-- The group is left open with its error, or the next fill has been taken up. -/
def LeftOpen (groupId : String) (placer : ThreadId) (steps : List (OcoStep rounding fromChars))
    (state : OcoState rounding fromChars) : Prop :=
  ∃ later before cancelError error earlier,
    steps = later ++
      (before, .performed placer (.finishOcoUpdate groupId cancelError) (some error)) :: earlier ∧
    ((∃ step ∈ later, TakesUp groupId step.2) ∨
      ∃ group, state.shared.findOcoGroup groupId = .ok group ∧ group.closing = false ∧
        group.lastError = error)

/-- What `placeOco` and `cancelOco` leave of a group when they fail. -/
structure OcoFailuresAtomic (steps : List (OcoStep rounding fromChars))
    (state : OcoState rounding fromChars) : Prop where
  /-- before the group is made: the containers are as they were -/
  unplaced : ∀ placer request groupId start, ThrewUnmade state placer request →
    OnlyUser groupId placer steps → (start, .started placer (.placeOco request)) ∈ steps →
      OcoRegistry.SameFor groupId start.shared state.shared
  /-- before the group is made: the cancellation of a returned order was requested -/
  rolledBack : ∀ placer request body orderInfo, ThrewUnmade state placer request →
    ⟨.placement (.createBybitOrder body), .ok orderInfo⟩ ∈ state.historyOf placer →
      ∃ orderLinkId answer, body.orderLinkId = some orderLinkId ∧
        ⟨.placement (.cancelOrder (rollbackQuery request orderLinkId)), answer⟩ ∈
          state.historyOf placer
  /-- after the group is made: it can be cancelled -/
  leftOpen : ∀ placer request failure group pending,
    Threw state placer (.placeOco request) failure →
      ⟨.placement (.createOcoGroup group), pending⟩ ∈ state.historyOf placer →
        OnlyUser group.groupId placer steps → LeftOpen group.groupId placer steps state
  removesSettled : ∀ before threadId groupId ocoGroup answer,
    (before, .performed threadId (.removeOcoGroup groupId ocoGroup) answer) ∈ steps →
      LegSettled ocoGroup.takeProfit (before.historyOf threadId) ∧
        LegSettled ocoGroup.stopLeg (before.historyOf threadId)
  leavesRegistry : ∀ threadId request failure,
    Threw state threadId (.cancelOco request) failure → LeavesRegistry threadId steps state

/-- Every placement that throws between the return of its first order and its group has a stop
price that can be formatted. -/
def StopPricesFormat (state : OcoState rounding fromChars) : Prop :=
  ∀ placer request body orderInfo, ThrewUnmade state placer request →
    ⟨.placement (.createBybitOrder body), .ok orderInfo⟩ ∈ state.historyOf placer →
      ∃ text, formatDecimal rounding request.stopPrice = .ok text

section Threw

variable {steps : List (OcoStep rounding fromChars)} {state : OcoState rounding fromChars}
  {threadId : ThreadId} {call : OcoCall} {failure : ServiceFailure}

theorem Threw.ended (run : OcoRun rounding fromChars steps state)
    (threw : Threw state threadId call failure) :
    CallEnded rounding call (state.historyOf threadId) (.error failure) := by
  obtain ⟨thread, found, rfl, ended⟩ := threw
  rw [Threads.history_of_found found]
  exact oco_run_ended run found ended

theorem ThrewUnmade.rolled_back_iff {request : PlaceOcoRequest} {body : CreateOrderRequestDto}
    {orderInfo : OrderInfo} (run : OcoRun rounding fromChars steps state)
    (threw : ThrewUnmade state threadId request)
    (returned : ⟨.placement (.createBybitOrder body), .ok orderInfo⟩ ∈ state.historyOf threadId) :
    (∃ orderLinkId answer, body.orderLinkId = some orderLinkId ∧
      ⟨.placement (.cancelOrder (rollbackQuery request orderLinkId)), answer⟩ ∈
        state.historyOf threadId) ↔
      ∃ text, formatDecimal rounding request.stopPrice = .ok text := by
  obtain ⟨⟨failure, threw⟩, uncreated⟩ := threw
  have ended : PlaceEnded rounding request (state.historyOf threadId) (.error failure) :=
    threw.ended run
  obtain ⟨groupId, legs⟩ := ended.legs failure rfl uncreated
  obtain ⟨linkId, attempted⟩ := legs.returned body orderInfo (mem_placement_part.2 returned)
  rw [← attempted]
  constructor
  · rintro ⟨orderLinkId, answer, own, member⟩
    cases own.symm.trans linkId
    exact ⟨answer, mem_placement_part.2 member⟩
  · rintro ⟨answer, member⟩
    exact ⟨_, answer, linkId, mem_placement_part.1 member⟩

end Threw

theorem oco_failures_atomic_iff {steps : List (OcoStep rounding fromChars)}
    {state : OcoState rounding fromChars} (run : OcoRun rounding fromChars steps state) :
    OcoFailuresAtomic steps state ↔ StopPricesFormat state := by
  constructor
  · intro atomic placer request body orderInfo threw returned
    exact (threw.rolled_back_iff run returned).1
      (atomic.rolledBack placer request body orderInfo threw returned)
  intro formats
  refine ⟨?_, ?_, ?_, ?_, ?_⟩
  · rintro placer request groupId start ⟨⟨failure, threw⟩, uncreated⟩ only started
    have ended : PlaceEnded rounding request (state.historyOf placer) (.error failure) :=
      threw.ended run
    exact same_of_unused (unused_at_start run only started)
      (unused_of_uncreated run only ended.phase uncreated)
  · intro placer request body orderInfo threw returned
    exact (threw.rolled_back_iff run returned).2 (formats placer request body orderInfo threw returned)
  · intro placer request failure group pending threw created only
    have ended : PlaceEnded rounding request (state.historyOf placer) (.error failure) :=
      threw.ended run
    obtain ⟨orderLinkId, groupId, query, cancelError, error, before, rfl, last, taken⟩ :=
      ended.reported failure rfl group pending created
    have started : ⟨.startOcoUpdate orderLinkId, some (groupId, query)⟩ ∈
        state.historyOf placer := by
      rw [last]
      exact List.mem_cons_of_mem _ taken
    cases link_id_group (taken_link run started) (created_link run created)
    have finished : ⟨.finishOcoUpdate group.groupId cancelError, some error⟩ ∈
        state.historyOf placer := by
      rw [last]
      exact List.mem_cons_self
    obtain ⟨step, member, same⟩ := run.mem_history.1 finished
    obtain ⟨later, earlier, rfl⟩ := List.append_of_mem member
    obtain ⟨found, event⟩ := step
    dsimp only at same
    subst same
    refine ⟨later, found, cancelError, error, earlier, rfl, ?_⟩
    rcases reopened_stays run (only.placed_once run) with taken | ⟨known, registered, isOpen, same⟩
    · exact .inl taken
    · refine .inr ⟨known, ?_, isOpen, same⟩
      rw [OcoRegistry.findOcoGroup, registered]
  · intro before threadId groupId ocoGroup answer member
    obtain ⟨later, earlier, after, rfl, ran, moves⟩ := run.at_step member
    exact (oco_run_allows ran moves).2
  · intro threadId request failure threw
    have ended : CancelEnded (state.historyOf threadId) (.error failure) := threw.ended run
    exact leaves_registry_of_reads run (ended.unchanged failure rfl)

/-! ## A take-profit order left alone -/

def hugeStopOco : PlaceOcoRequest := { sellOco with stopPrice := 10 ^ 100 }

/-- A placement whose stop price is too long for its text. -/
def hugeStopScript : List (Command OcoCall) := [.start 0 (.placeOco hugeStopOco), .act 0 13]

theorem huge_stop_failures_iff :
    ∃ steps, OcoRun roundHalfUp readDecimal steps (scripted hugeStopScript) ∧
      (OcoFailuresAtomic steps (scripted hugeStopScript) ↔
        StopPricesFormat (scripted hugeStopScript)) := by
  obtain ⟨steps, run⟩ := scripted_run hugeStopScript
  exact ⟨steps, run, oco_failures_atomic_iff run⟩

def returnsOrder : Sigma OcoEffect.Answer → Bool
  | ⟨.placement (.createBybitOrder _), .ok _⟩ => true
  | _ => false

def createsOrCancels : Sigma OcoEffect.Answer → Bool
  | ⟨.placement (.createOcoGroup _), _⟩ | ⟨.placement (.cancelOrder _), _⟩ => true
  | _ => false

theorem huge_stop_threw :
    Threw (scripted hugeStopScript) 0 (.placeOco hugeStopOco)
      (.runtime "formatDecimal: failed to format decimal value") := by
  have ended : ((scripted hugeStopScript).threads 0).map (fun thread => (thread.call, thread.thrown)) =
      some (.placeOco hugeStopOco,
        some (.runtime "formatDecimal: failed to format decimal value")) := by decide +kernel
  obtain ⟨thread, found, same⟩ := Option.map_eq_some_iff.1 ended
  obtain ⟨call, threw⟩ := Prod.mk.inj same
  exact ⟨thread, found, call, Thread.thrown_iff.1 threw⟩

/-- The take-profit order was returned, and nothing tried to cancel it. -/
theorem take_profit_left_live :
    ∃ steps, OcoRun roundHalfUp readDecimal steps (scripted hugeStopScript) ∧
      ¬ OcoFailuresAtomic steps (scripted hugeStopScript) := by
  obtain ⟨steps, run⟩ := scripted_run hugeStopScript
  refine ⟨steps, run, fun atomic => ?_⟩
  have quiet : ((scripted hugeStopScript).historyOf 0).any createsOrCancels = false := by
    decide +kernel
  have sent : ((scripted hugeStopScript).historyOf 0).any returnsOrder = true := by decide +kernel
  rw [List.any_eq_false] at quiet
  obtain ⟨item, member, returned⟩ := List.any_eq_true.1 sent
  unfold returnsOrder at returned
  split at returned
  next body orderInfo =>
      have unmade : ThrewUnmade (scripted hugeStopScript) 0 hugeStopOco :=
        ⟨⟨_, huge_stop_threw⟩, fun group pending created => quiet _ created rfl⟩
      obtain ⟨orderLinkId, answer, _, cancelled⟩ :=
        atomic.rolledBack 0 hugeStopOco body orderInfo unmade member
      exact quiet _ cancelled rfl
  next => cases returned

end CryptoDeal.DealService.Bybit
