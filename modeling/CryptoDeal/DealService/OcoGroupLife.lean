import CryptoDeal.DealService.OcoCoordination

/-!
# The life of an emulated OCO group

A group whose id is placed once and that no `cancelOco` removes: unused, being
placed, given up, or made. A fill that is seen while the legs are being placed waits
for the group and is handed over with it; of a made group at most one cancellation
is in flight, exactly while the group is closing.
-/

namespace CryptoDeal.DealService.Bybit

open DecimalText DecimalConverter Interaction

variable {rounding : NearestRounding} {fromChars : String → Option Decimal}

abbrev OcoEvent := ThreadEvent OcoCall OcoEffect OcoEffect.Answer

/-! ## What steps did about a group -/

/-- The placement of the group was registered. -/
def registersGroup (groupId : String) : OcoEvent → Bool
  | .performed _ (.placement (.registerOcoPlacement other _ _)) (.ok _) => decide (other = groupId)
  | _ => false

def removesGroup (groupId : String) : OcoEvent → Bool
  | .performed _ (.removeOcoGroup other _) _ => decide (other = groupId)
  | _ => false

/-- The group was made by this thread. -/
def CreatesGroup (groupId : String) (creator : ThreadId) : OcoEvent → Prop
  | .performed threadId (.placement (.createOcoGroup group)) _ =>
      group.groupId = groupId ∧ threadId = creator
  | _ => False

/-- The cancellation of one of the group's legs was taken up. -/
def TakesUp (groupId : String) : OcoEvent → Prop
  | .performed _ (.startOcoUpdate _) (some (other, _)) => other = groupId
  | _ => False

/-- A fill came while the group was being placed. -/
def SeesFill (groupId : String) (step : OcoStep rounding fromChars) : Prop :=
  match step.2 with
  | .performed _ (.startOcoUpdate orderLinkId) _ =>
      IsLinkId groupId orderLinkId ∧ orderLinkId ∈ step.1.shared.placingOcoOrderLinkIds
  | _ => False

/-- The id is placed once, and no `cancelOco` removes its group. -/
structure PlacedOnce (groupId : String) (steps : List (OcoStep rounding fromChars)) : Prop where
  registered : steps.countP (fun step => registersGroup groupId step.2) ≤ 1
  unremoved : ∀ step ∈ steps, removesGroup groupId step.2 = false

section Concerns

variable {groupId : String} {threadId creator : ThreadId} {effect : OcoEffect}
  {answer : effect.Answer}

theorem registers_concerns (elsewhere : ¬ effect.Concerns groupId) :
    registersGroup groupId (.performed threadId effect answer) = false := by
  unfold registersGroup
  split
  next same =>
      cases same
      exact decide_eq_false elsewhere
  next => rfl

theorem creates_concerns
    (creates : CreatesGroup groupId creator (.performed threadId effect answer)) :
    effect.Concerns groupId := by
  unfold CreatesGroup at creates
  split at creates
  next same =>
      cases same
      exact creates.1
  next => exact creates.elim

theorem sees_fill_concerns {state : OcoState rounding fromChars}
    (sees : SeesFill groupId (state, .performed threadId effect answer)) :
    effect.Concerns groupId := by
  unfold SeesFill at sees
  split at sees
  next same =>
      cases same
      exact sees.1
  next => exact sees.elim

end Concerns

/-! ## The life of a group -/

/-- The containers hold nothing of the id. -/
structure OcoRegistry.Unused (registry : OcoRegistry) (groupId : String) : Prop where
  group : registry.ocoGroups groupId = none
  legs : ∀ orderLinkId, IsLinkId groupId orderLinkId → registry.ocoLegToGroup orderLinkId = none
  placing : ∀ orderLinkId, IsLinkId groupId orderLinkId →
    orderLinkId ∉ registry.placingOcoOrderLinkIds
  pending : ∀ orderLinkId, IsLinkId groupId orderLinkId →
    orderLinkId ∉ registry.pendingOcoFilledOrderLinkIds

/-- A group since it was made. -/
structure GroupMade (groupId : String) (creator : ThreadId)
    (steps : List (OcoStep rounding fromChars)) (registry : OcoRegistry)
    (phases : ThreadId → OcoPhase) : Prop where
  created : ∃ step ∈ steps, CreatesGroup groupId creator step.2
  placed : ∀ threadId, phases threadId ≠ .placing groupId
  handing : ∀ threadId orderLinkId, phases threadId = .handingOver groupId orderLinkId →
    threadId = creator
  closing : (∃ worker query, phases worker = .cancelling groupId query) ↔
    ∃ group, registry.ocoGroups groupId = some group ∧ group.closing = true
  oneWorker : ∀ first second firstQuery secondQuery,
    phases first = .cancelling groupId firstQuery →
      phases second = .cancelling groupId secondQuery → first = second
  untried : (∀ step ∈ steps, ¬ TakesUp groupId step.2) →
    ∃ group, registry.ocoGroups groupId = some group ∧ group.closing = false
  handed : (∃ step ∈ steps, SeesFill groupId step) →
    (∃ step ∈ steps, TakesUp groupId step.2) ∨
      ∃ orderLinkId, phases creator = .handingOver groupId orderLinkId

/-- Where a group stands whose id is placed once. -/
inductive GroupStands (groupId : String) (steps : List (OcoStep rounding fromChars))
    (registry : OcoRegistry) (phases : ThreadId → OcoPhase) : Prop where
  | unused (fresh : ∀ step ∈ steps, registersGroup groupId step.2 = false)
      (unused : registry.Unused groupId)
      (uncreated : ∀ step ∈ steps, ∀ creator, ¬ CreatesGroup groupId creator step.2)
      (unseen : ∀ step ∈ steps, ¬ SeesFill groupId step)
      (away : ∀ threadId, (phases threadId).group ≠ some groupId)
  | placing (placer : ThreadId) (phase : phases placer = .placing groupId)
      (registered : ∃ step ∈ steps, registersGroup groupId step.2 = true)
      (uncreated : ∀ step ∈ steps, ∀ creator, ¬ CreatesGroup groupId creator step.2)
      (away : ∀ threadId, threadId ≠ placer → (phases threadId).group ≠ some groupId)
      (pending : (∃ step ∈ steps, SeesFill groupId step) →
        ∃ orderLinkId, IsLinkId groupId orderLinkId ∧
          orderLinkId ∈ registry.pendingOcoFilledOrderLinkIds)
  | abandoned (registered : ∃ step ∈ steps, registersGroup groupId step.2 = true)
      (unused : registry.Unused groupId)
      (uncreated : ∀ step ∈ steps, ∀ creator, ¬ CreatesGroup groupId creator step.2)
      (away : ∀ threadId, (phases threadId).group ≠ some groupId)
  | made (creator : ThreadId)
      (registered : ∃ step ∈ steps, registersGroup groupId step.2 = true)
      (made : GroupMade groupId creator steps registry phases)

theorem OcoRegistry.Unused.of_same {groupId : String} {before after : OcoRegistry}
    (unused : before.Unused groupId) (same : OcoRegistry.SameFor groupId before after) :
    after.Unused groupId where
  group := same.group.trans unused.group
  legs orderLinkId linked := (same.legs orderLinkId linked).trans (unused.legs orderLinkId linked)
  placing orderLinkId linked member :=
    unused.placing orderLinkId linked ((same.placing orderLinkId linked).1 member)
  pending orderLinkId linked member :=
    unused.pending orderLinkId linked ((same.pending orderLinkId linked).1 member)

section Away

variable {phases : ThreadId → OcoPhase} {threadId : ThreadId} {next : OcoPhase} {groupId : String}

theorem away_update {other : ThreadId} (away : (phases other).group ≠ some groupId)
    (leaves : next.group ≠ some groupId) :
    (Function.update phases threadId next other).group ≠ some groupId := by
  by_cases acting : other = threadId
  · subst acting
    rw [Function.update_self]
    exact leaves
  · rw [Function.update_of_ne acting]
    exact away

theorem update_phase_iff {phase : OcoPhase}
    (same : phases threadId = phase ↔ next = phase) (other : ThreadId) :
    Function.update phases threadId next other = phase ↔ phases other = phase := by
  by_cases acting : other = threadId
  · subst acting
    rw [Function.update_self]
    exact same.symm
  · rw [Function.update_of_ne acting]

end Away

/-! ## Steps -/

section Steps

variable {groupId : String} {steps : List (OcoStep rounding fromChars)}
  {state : OcoState rounding fromChars} {threadId : ThreadId} {effect : OcoEffect}
  {answer : effect.Answer} {after : OcoRegistry} {next : OcoPhase}

/-- A step that does nothing about the group. -/
theorem GroupStands.neutral {event : OcoEvent} {phases later : ThreadId → OcoPhase}
    {registry : OcoRegistry} (stands : GroupStands groupId steps registry phases)
    (same : OcoRegistry.SameFor groupId registry after)
    (standing : ∀ phase : OcoPhase, phase.group = some groupId → ∀ threadId,
      (later threadId = phase ↔ phases threadId = phase))
    (fresh : registersGroup groupId event = false)
    (uncreating : ∀ creator, ¬ CreatesGroup groupId creator event)
    (unseeing : ¬ SeesFill groupId (state, event)) :
    GroupStands groupId ((state, event) :: steps) after later := by
  have away : ∀ other, (phases other).group ≠ some groupId → (later other).group ≠ some groupId := by
    intro other isAway about
    exact isAway (by rw [(standing _ about other).1 rfl]; exact about)
  have seen : (∃ step ∈ (state, event) :: steps, SeesFill groupId step) →
      ∃ step ∈ steps, SeesFill groupId step := by
    rintro ⟨step, member, sees⟩
    rcases List.mem_cons.1 member with rfl | member
    · exact absurd sees unseeing
    · exact ⟨step, member, sees⟩
  cases stands with
  | unused unregistered unused uncreated unseen isAway =>
      exact .unused (List.forall_mem_cons.2 ⟨fresh, unregistered⟩) (unused.of_same same)
        (List.forall_mem_cons.2 ⟨uncreating, uncreated⟩)
        (List.forall_mem_cons.2 ⟨unseeing, unseen⟩) fun other => away other (isAway other)
  | placing placer phase registered uncreated isAway pending =>
      obtain ⟨step, member, registers⟩ := registered
      refine .placing placer ((standing _ rfl placer).2 phase)
        ⟨step, List.mem_cons_of_mem _ member, registers⟩
        (List.forall_mem_cons.2 ⟨uncreating, uncreated⟩)
        (fun other apart => away other (isAway other apart)) fun sees => ?_
      obtain ⟨orderLinkId, linked, waits⟩ := pending (seen sees)
      exact ⟨orderLinkId, linked, (same.pending orderLinkId linked).2 waits⟩
  | abandoned registered unused uncreated isAway =>
      obtain ⟨step, member, registers⟩ := registered
      exact .abandoned ⟨step, List.mem_cons_of_mem _ member, registers⟩ (unused.of_same same)
        (List.forall_mem_cons.2 ⟨uncreating, uncreated⟩) fun other => away other (isAway other)
  | made creator registered made =>
      obtain ⟨step, member, registers⟩ := registered
      refine .made creator ⟨step, List.mem_cons_of_mem _ member, registers⟩
        ⟨?_, ?_, ?_, ?_, ?_, ?_, ?_⟩
      · obtain ⟨creation, member, creates⟩ := made.created
        exact ⟨creation, List.mem_cons_of_mem _ member, creates⟩
      · intro other places
        exact made.placed other ((standing _ rfl other).1 places)
      · intro other orderLinkId hands
        exact made.handing other orderLinkId ((standing _ rfl other).1 hands)
      · rw [same.group, ← made.closing]
        exact exists_congr fun worker => exists_congr fun query => standing _ rfl worker
      · intro first second firstQuery secondQuery firstWorks secondWorks
        exact made.oneWorker first second firstQuery secondQuery
          ((standing _ rfl first).1 firstWorks) ((standing _ rfl second).1 secondWorks)
      · intro untried
        rw [same.group]
        exact made.untried (List.forall_mem_cons.1 untried).2
      · intro sees
        rcases made.handed (seen sees) with ⟨attempt, member, takes⟩ | ⟨orderLinkId, hands⟩
        · exact .inl ⟨attempt, List.mem_cons_of_mem _ member, takes⟩
        · exact .inr ⟨orderLinkId, (standing _ rfl creator).2 hands⟩

/-- A step about other groups. -/
theorem GroupStands.elsewhere
    (stands : GroupStands groupId steps state.shared (phaseOf state))
    (coordinated : OcoCoordinated state.shared (phaseOf state))
    (move : OcoMove state.shared (phaseOf state threadId) effect answer after next)
    (elsewhere : ¬ effect.Concerns groupId) :
    GroupStands groupId ((state, .performed threadId effect answer) :: steps) after
      (Function.update (phaseOf state) threadId next) := by
  apply stands.neutral (move.frame coordinated elsewhere)
  · intro phase about
    apply update_phase_iff
    constructor
    · intro before
      rw [move.standing coordinated elsewhere (.inl (by rw [before]; exact about)), before]
    · intro later
      rw [← move.standing coordinated elsewhere (.inr (by rw [later]; exact about)), later]
  · exact registers_concerns elsewhere
  · exact fun creator creates => elsewhere (creates_concerns creates)
  · exact fun sees => elsewhere (sees_fill_concerns sees)

theorem network_unconcerned (network : effect.isNetwork) : ¬ effect.Concerns groupId := by
  cases effect with
  | placement placed => cases placed <;> first | exact id | cases network
  | cancelOrder _ | getOrder _ | findOcoGroup _ => exact id
  | startOcoUpdate _ | finishOcoUpdate _ _ | removeOcoGroup _ _ => cases network

/-- A step about an unused id that no call works on: it is registered, or nothing happens. -/
theorem unused_moves {before : OcoRegistry} {phase : OcoPhase} (unused : before.Unused groupId)
    (away : phase.group ≠ some groupId) (concerns : effect.Concerns groupId)
    (unremoved : removesGroup groupId (.performed threadId effect answer) = false)
    (move : OcoMove before phase effect answer after next) :
    (∀ creator, ¬ CreatesGroup groupId creator (.performed threadId effect answer)) ∧
      (registersGroup groupId (.performed threadId effect answer) = true ∧
          next = .placing groupId ∨
        registersGroup groupId (.performed threadId effect answer) = false ∧ after = before ∧
          next = .idle) := by
  cases move with
  | network network => exact absurd concerns (network_unconcerned network)
  | registered accepted => exact ⟨fun _ => id, .inl ⟨decide_eq_true concerns, by cases concerns; rfl⟩⟩
  | refused _ | dropped _ _ => exact ⟨fun _ => id, .inr ⟨rfl, rfl, rfl⟩⟩
  | cleared other =>
      cases link_id_group (.inl concerns) (.inl rfl)
      exact absurd rfl away
  | created keyed =>
      cases concerns
      exact absurd rfl away
  | pended ready unmapped placing => exact absurd placing (unused.placing _ concerns)
  | started ready leg found isOpen =>
      rw [unused.legs _ concerns] at leg
      cases leg
  | vanished _ | settled _ | failed _ =>
      cases concerns
      exact absurd rfl away
  | found _ | unknown _ => exact concerns.elim
  | removed _ | gone _ =>
      have apart := of_decide_eq_false unremoved
      exact absurd concerns apart

/-- A step about a group by the call that is placing it. -/
theorem placer_moves (threadId : ThreadId) {phase : OcoPhase} (placing : phase = .placing groupId)
    (concerns : effect.Concerns groupId)
    (move : OcoMove state.shared phase effect answer after next) :
    (after = state.shared.clearOcoPlacementRegistration (takeProfitLinkId groupId)
        (stopLossLinkId groupId) ∧ next = .idle ∧
      ∀ creator, ¬ CreatesGroup groupId creator (.performed threadId effect answer)) ∨
    ∃ group : BybitOcoGroup, group.groupId = groupId ∧ Keyed groupId group ∧
      after = state.shared.createOcoGroup group ∧
      next = createdPhase groupId (state.shared.pendingFilledOrderLinkId group) ∧
      CreatesGroup groupId threadId (.performed threadId effect answer) := by
  have unready : ∀ {orderLinkId}, ¬ phase.MayStart orderLinkId := by
    rintro orderLinkId (idle | ⟨other, hands⟩)
    · rw [placing] at idle
      cases idle
    · rw [placing] at hands
      cases hands
  cases move with
  | network network => exact absurd concerns (network_unconcerned network)
  | cleared other =>
      cases placing
      exact .inl ⟨rfl, rfl, fun _ => id⟩
  | @created group keyed =>
      cases placing
      exact .inr ⟨group, rfl, keyed, rfl, rfl, rfl, rfl⟩
  | pended ready _ _ | dropped ready _ | started ready _ _ _ => exact absurd ready unready
  | _ => cases placing

/-- A step about a group while another call is placing it: at most a fill comes to wait. -/
theorem placing_moves {phase : OcoPhase}
    (placing : ∀ orderLinkId, IsLinkId groupId orderLinkId →
      orderLinkId ∈ state.shared.placingOcoOrderLinkIds)
    (consistent : state.shared.Consistent) (away : phase.group ≠ some groupId)
    (concerns : effect.Concerns groupId)
    (unregistered : registersGroup groupId (.performed threadId effect answer) = false)
    (unremoved : removesGroup groupId (.performed threadId effect answer) = false)
    (move : OcoMove state.shared phase effect answer after next) :
    next = .idle ∧ (∀ creator, ¬ CreatesGroup groupId creator (.performed threadId effect answer)) ∧
      state.shared.pendingOcoFilledOrderLinkIds ⊆ after.pendingOcoFilledOrderLinkIds ∧
      (SeesFill groupId (state, .performed threadId effect answer) →
        ∃ orderLinkId, IsLinkId groupId orderLinkId ∧
          orderLinkId ∈ after.pendingOcoFilledOrderLinkIds) := by
  cases move with
  | network network => exact absurd concerns (network_unconcerned network)
  | registered accepted =>
      have apart := of_decide_eq_false unregistered
      exact absurd concerns apart
  | refused _ => exact ⟨rfl, fun _ => id, Finset.Subset.refl _, False.elim⟩
  | cleared other =>
      cases link_id_group (.inl concerns) (.inl rfl)
      exact absurd rfl away
  | created keyed =>
      cases concerns
      exact absurd rfl away
  | @pended _ orderLinkId ready unmapped placing =>
      refine ⟨rfl, fun _ => id, Finset.subset_insert _ _, fun _ => ?_⟩
      exact ⟨orderLinkId, concerns, Finset.mem_insert_self _ _⟩
  | @dropped _ orderLinkId ready drops =>
      have unmapped := consistent.placing (placing orderLinkId concerns)
      rw [OcoRegistry.DropsFill, unmapped] at drops
      exact absurd (placing orderLinkId concerns) drops
  | @started _ orderLinkId _ _ ready leg found isOpen =>
      rw [consistent.placing (placing orderLinkId concerns)] at leg
      cases leg
  | vanished _ | settled _ | failed _ =>
      cases concerns
      exact absurd rfl away
  | found _ | unknown _ => exact concerns.elim
  | removed _ | gone _ =>
      have apart := of_decide_eq_false unremoved
      exact absurd concerns apart

section Made

variable {creator : ThreadId}

/-- Once the group is made, none of its link ids is being placed. -/
theorem GroupMade.unseen (made : GroupMade groupId creator steps state.shared (phaseOf state))
    (coordinated : OcoCoordinated state.shared (phaseOf state)) {event : OcoEvent} :
    ¬ SeesFill groupId (state, event) := by
  intro sees
  unfold SeesFill at sees
  split at sees
  · obtain ⟨linked, placing⟩ := sees
    obtain ⟨threadId, other, places, own⟩ := coordinated.placing.1 placing
    cases link_id_group linked own
    exact made.placed threadId places
  · exact sees

/-- A fill of the group is dropped only after its cancellation was taken up. -/
theorem GroupMade.tried_of_drops {orderLinkId : String}
    (made : GroupMade groupId creator steps state.shared (phaseOf state))
    (consistent : state.shared.Consistent) (linked : IsLinkId groupId orderLinkId)
    (drops : state.shared.DropsFill orderLinkId) :
    ∃ step ∈ steps, TakesUp groupId step.2 := by
  by_contra untried
  rw [not_exists] at untried
  obtain ⟨group, found, isOpen⟩ :=
    made.untried fun step member takes => untried step ⟨member, takes⟩
  have leg := consistent.leg_iff.2 ⟨by rw [found]; rfl, linked⟩
  rw [OcoRegistry.DropsFill, leg] at drops
  rw [drops group found] at isOpen
  cases isOpen

theorem GroupMade.tried_of_closing {worker : ThreadId} {query : OrderQuery}
    (made : GroupMade groupId creator steps state.shared (phaseOf state))
    (works : phaseOf state worker = .cancelling groupId query) :
    ∃ step ∈ steps, TakesUp groupId step.2 := by
  by_contra untried
  rw [not_exists] at untried
  obtain ⟨group, found, isOpen⟩ :=
    made.untried fun step member takes => untried step ⟨member, takes⟩
  obtain ⟨other, known, closing⟩ := made.closing.1 ⟨worker, query, works⟩
  cases found.symm.trans known
  rw [closing] at isOpen
  cases isOpen

theorem GroupMade.handed_after {event : OcoEvent}
    (made : GroupMade groupId creator steps state.shared (phaseOf state))
    (coordinated : OcoCoordinated state.shared (phaseOf state))
    (tried : ∀ orderLinkId, phaseOf state threadId = .handingOver groupId orderLinkId →
      ∃ step ∈ steps, TakesUp groupId step.2)
    (sees : ∃ step ∈ (state, event) :: steps, SeesFill groupId step) :
    (∃ step ∈ (state, event) :: steps, TakesUp groupId step.2) ∨
      ∃ orderLinkId, Function.update (phaseOf state) threadId next creator =
        .handingOver groupId orderLinkId := by
  have grows : (∃ step ∈ steps, TakesUp groupId step.2) →
      ∃ step ∈ (state, event) :: steps, TakesUp groupId step.2 := by
    rintro ⟨step, member, takes⟩
    exact ⟨step, List.mem_cons_of_mem _ member, takes⟩
  have before : ∃ step ∈ steps, SeesFill groupId step := by
    obtain ⟨step, member, sees⟩ := sees
    rcases List.mem_cons.1 member with rfl | member
    · exact absurd sees (made.unseen coordinated)
    · exact ⟨step, member, sees⟩
  rcases made.handed before with taken | ⟨orderLinkId, hands⟩
  · exact .inl (grows taken)
  by_cases acting : creator = threadId
  · subst acting
    exact .inl (grows (tried orderLinkId hands))
  · refine .inr ⟨orderLinkId, ?_⟩
    rw [Function.update_of_ne acting]
    exact hands

theorem GroupMade.created_after {step : OcoStep rounding fromChars}
    (made : GroupMade groupId creator steps state.shared (phaseOf state)) :
    ∃ creation ∈ step :: steps, CreatesGroup groupId creator creation.2 := by
  obtain ⟨creation, member, creates⟩ := made.created
  exact ⟨creation, List.mem_cons_of_mem _ member, creates⟩

/-- A step that leaves the group as it is, by a call that then stands apart from it. -/
theorem GroupMade.leaves {event : OcoEvent}
    (made : GroupMade groupId creator steps state.shared (phaseOf state))
    (coordinated : OcoCoordinated state.shared (phaseOf state))
    (tried : ∀ orderLinkId, phaseOf state threadId = .handingOver groupId orderLinkId →
      ∃ step ∈ steps, TakesUp groupId step.2)
    (working : ∀ query, phaseOf state threadId ≠ .cancelling groupId query)
    (same : after.ocoGroups groupId = state.shared.ocoGroups groupId) :
    GroupMade groupId creator ((state, event) :: steps) after
      (Function.update (phaseOf state) threadId .idle) := by
  have works : ∀ other query, Function.update (phaseOf state) threadId .idle other =
      .cancelling groupId query ↔ phaseOf state other = .cancelling groupId query := by
    intro other query
    apply update_phase_iff
    exact iff_of_false (working query) nofun
  have keeps : ∀ {phase : OcoPhase} {other},
      Function.update (phaseOf state) threadId .idle other = phase → phase ≠ .idle →
        phaseOf state other = phase := by
    intro phase other later active
    by_cases acting : other = threadId
    · subst acting
      rw [Function.update_self] at later
      exact absurd later.symm active
    · rwa [Function.update_of_ne acting] at later
  refine ⟨made.created_after, ?_, ?_, ?_, ?_, ?_, made.handed_after coordinated tried⟩
  · exact fun other places => made.placed other (keeps places nofun)
  · exact fun other orderLinkId hands => made.handing other orderLinkId (keeps hands nofun)
  · rw [same, ← made.closing]
    exact exists_congr fun worker => exists_congr fun query => works worker query
  · intro first second firstQuery secondQuery firstWorks secondWorks
    exact made.oneWorker first second firstQuery secondQuery ((works _ _).1 firstWorks)
      ((works _ _).1 secondWorks)
  · intro untried
    rw [same]
    exact made.untried (List.forall_mem_cons.1 untried).2

/-- The end of the one cancellation in flight, whatever it makes of the group. -/
theorem GroupMade.finishes {event : OcoEvent} {query : OrderQuery}
    (made : GroupMade groupId creator steps state.shared (phaseOf state))
    (coordinated : OcoCoordinated state.shared (phaseOf state))
    (works : phaseOf state threadId = .cancelling groupId query)
    (closed : ∀ group, after.ocoGroups groupId = some group → group.closing = false) :
    GroupMade groupId creator ((state, event) :: steps) after
      (Function.update (phaseOf state) threadId .idle) := by
  have keeps : ∀ {phase : OcoPhase} {other},
      Function.update (phaseOf state) threadId .idle other = phase → phase ≠ .idle →
        other ≠ threadId ∧ phaseOf state other = phase := by
    intro phase other later active
    by_cases acting : other = threadId
    · subst acting
      rw [Function.update_self] at later
      exact absurd later.symm active
    · rw [Function.update_of_ne acting] at later
      exact ⟨acting, later⟩
  have finished : ∀ worker other, Function.update (phaseOf state) threadId .idle worker ≠
      .cancelling groupId other := by
    intro worker other still
    obtain ⟨apart, known⟩ := keeps still nofun
    exact apart (made.oneWorker worker threadId other query known works)
  refine ⟨made.created_after, ?_, ?_, ?_, ?_, ?_, made.handed_after coordinated ?_⟩
  · exact fun other places => made.placed other (keeps places nofun).2
  · exact fun other orderLinkId hands => made.handing other orderLinkId (keeps hands nofun).2
  · apply iff_of_false
    · rintro ⟨worker, other, still⟩
      exact finished worker other still
    · rintro ⟨group, found, closing⟩
      rw [closed group found] at closing
      cases closing
  · exact fun first _ firstQuery _ still _ => absurd still (finished first firstQuery)
  · intro untried
    obtain ⟨attempt, member, takes⟩ := made.tried_of_closing works
    exact absurd takes (untried attempt (List.mem_cons_of_mem _ member))
  · intro orderLinkId hands
    rw [works] at hands
    cases hands

/-- The group's cancellation is taken up. -/
theorem GroupMade.starts {orderLinkId : String} {group : RegisteredOcoGroup} {query : OrderQuery}
    (made : GroupMade groupId creator steps state.shared (phaseOf state))
    (ready : (phaseOf state threadId).MayStart orderLinkId)
    (found : state.shared.ocoGroups groupId = some group) (isOpen : group.closing = false) :
    GroupMade groupId creator
      ((state, .performed threadId (.startOcoUpdate orderLinkId) (some (groupId, query))) :: steps)
      (state.shared.writeGroup groupId { group with closing := true })
      (Function.update (phaseOf state) threadId (.cancelling groupId query)) := by
  have workless : ∀ worker other, phaseOf state worker ≠ .cancelling groupId other := by
    intro worker other works
    obtain ⟨known, same, closing⟩ := made.closing.1 ⟨worker, other, works⟩
    cases found.symm.trans same
    rw [closing] at isOpen
    cases isOpen
  have works : ∀ {worker other}, Function.update (phaseOf state) threadId
      (.cancelling groupId query) worker = .cancelling groupId other → worker = threadId := by
    intro worker other still
    by_contra apart
    rw [Function.update_of_ne apart] at still
    exact workless worker other still
  have keeps : ∀ {phase : OcoPhase} {other},
      Function.update (phaseOf state) threadId (.cancelling groupId query) other = phase →
        phase ≠ .cancelling groupId query → phaseOf state other = phase := by
    intro phase other later apart
    by_cases acting : other = threadId
    · subst acting
      rw [Function.update_self] at later
      exact absurd later.symm apart
    · rwa [Function.update_of_ne acting] at later
  refine ⟨made.created_after, ?_, ?_, ?_, ?_, ?_, ?_⟩
  · exact fun other places => made.placed other (keeps places nofun)
  · exact fun other linkId hands => made.handing other linkId (keeps hands nofun)
  · exact iff_of_true ⟨threadId, query, Function.update_self _ _ _⟩
      ⟨_, OcoRegistry.write_group_own, rfl⟩
  · intro first second firstQuery secondQuery firstWorks secondWorks
    rw [works firstWorks, works secondWorks]
  · intro untried
    exact absurd rfl (untried _ List.mem_cons_self)
  · intro _
    exact .inl ⟨_, List.mem_cons_self, rfl⟩

theorem GroupMade.moves (made : GroupMade groupId creator steps state.shared (phaseOf state))
    (coordinated : OcoCoordinated state.shared (phaseOf state))
    (concerns : effect.Concerns groupId)
    (unregistered : registersGroup groupId (.performed threadId effect answer) = false)
    (unremoved : removesGroup groupId (.performed threadId effect answer) = false)
    (move : OcoMove state.shared (phaseOf state threadId) effect answer after next) :
    GroupMade groupId creator ((state, .performed threadId effect answer) :: steps) after
      (Function.update (phaseOf state) threadId next) := by
  generalize started : phaseOf state threadId = phase at move
  cases move with
  | network network => exact absurd concerns (network_unconcerned network)
  | registered accepted =>
      have apart := of_decide_eq_false unregistered
      exact absurd concerns apart
  | refused _ =>
      apply made.leaves coordinated _ _ rfl
      · intro orderLinkId hands
        rw [started] at hands
        cases hands
      · intro query works
        rw [started] at works
        cases works
  | cleared other =>
      cases link_id_group (.inl concerns) (.inl rfl)
      exact absurd started (made.placed threadId)
  | created keyed =>
      cases concerns
      exact absurd started (made.placed threadId)
  | @pended _ orderLinkId ready unmapped placing =>
      have sees : SeesFill groupId (state, .performed threadId (.startOcoUpdate orderLinkId) none) :=
        ⟨concerns, placing⟩
      exact absurd sees (made.unseen coordinated)
  | dropped ready drops =>
      apply made.leaves coordinated _ _ rfl
      · exact fun _ _ => made.tried_of_drops coordinated.consistent concerns drops
      · intro query works
        rw [← started] at ready
        rcases ready with idle | ⟨other, hands⟩
        · rw [works] at idle
          cases idle
        · rw [works] at hands
          cases hands
  | @started phase orderLinkId other group ready leg found isOpen =>
      cases link_id_group (coordinated.consistent.leg_is_link_id leg) concerns
      rw [← started] at ready
      exact made.starts ready found isOpen
  | vanished missing =>
      cases concerns
      obtain ⟨group, found, _⟩ := made.closing.1 ⟨threadId, _, started⟩
      rw [missing] at found
      cases found
  | settled found =>
      cases concerns
      apply made.finishes coordinated started
      intro group known
      rw [OcoRegistry.erase_group_own] at known
      cases known
  | failed found =>
      cases concerns
      apply made.finishes coordinated started
      intro group known
      rw [OcoRegistry.write_group_own] at known
      cases known
      rfl
  | found _ | unknown _ => exact concerns.elim
  | removed _ | gone _ =>
      have apart := of_decide_eq_false unremoved
      exact absurd concerns apart

end Made

theorem OcoRegistry.Unused.unseen (unused : state.shared.Unused groupId) {event : OcoEvent} :
    ¬ SeesFill groupId (state, event) := by
  intro sees
  unfold SeesFill at sees
  split at sees
  · exact unused.placing _ sees.1 sees.2
  · exact sees

/-- The placement gives the id up. -/
theorem unused_of_cleared (coordinated : OcoCoordinated state.shared (phaseOf state))
    (places : phaseOf state threadId = .placing groupId) :
    (state.shared.clearOcoPlacementRegistration (takeProfitLinkId groupId)
      (stopLossLinkId groupId)).Unused groupId := by
  have placing : ∀ orderLinkId, IsLinkId groupId orderLinkId →
      orderLinkId ∈ state.shared.placingOcoOrderLinkIds := fun orderLinkId linked =>
    coordinated.placing.2 ⟨threadId, groupId, places, linked⟩
  refine ⟨?_, ?_, ?_, ?_⟩
  · exact coordinated.consistent.unregistered (.inl rfl) (placing _ (.inl rfl))
  · exact fun orderLinkId linked => coordinated.consistent.placing (placing orderLinkId linked)
  · intro orderLinkId linked member
    obtain ⟨notStopLoss, notTakeProfit, _⟩ := OcoRegistry.mem_clear_placing.1 member
    rcases linked with same | same
    · exact notTakeProfit same
    · exact notStopLoss same
  · intro orderLinkId linked member
    obtain ⟨notStopLoss, notTakeProfit, _⟩ := OcoRegistry.mem_clear_pending.1 member
    rcases linked with same | same
    · exact notTakeProfit same
    · exact notStopLoss same

/-- The leg that a new group is handed over with, when one filled meanwhile. -/
theorem pending_filled_of_waiting {registry : OcoRegistry} {group : BybitOcoGroup}
    {orderLinkId : String} (keyed : Keyed groupId group) (linked : IsLinkId groupId orderLinkId)
    (waits : orderLinkId ∈ registry.pendingOcoFilledOrderLinkIds) :
    ∃ filled, registry.pendingFilledOrderLinkId group = some filled := by
  unfold OcoRegistry.pendingFilledOrderLinkId
  split_ifs with takeProfit stopLoss
  · exact ⟨_, rfl⟩
  · exact ⟨_, rfl⟩
  · exfalso
    rw [keyed.takeProfit] at takeProfit
    rw [keyed.takeProfit, keyed.stopLoss] at stopLoss
    rcases linked with rfl | rfl
    · exact takeProfit waits
    · exact stopLoss (Finset.mem_erase.2 ⟨(take_profit_ne_stop_loss _ _).symm, waits⟩)

/-- The placement makes its group. -/
theorem group_made {group : BybitOcoGroup}
    (away : ∀ other, other ≠ threadId → (phaseOf state other).group ≠ some groupId)
    (pending : (∃ step ∈ steps, SeesFill groupId step) →
      ∃ orderLinkId, IsLinkId groupId orderLinkId ∧
        orderLinkId ∈ state.shared.pendingOcoFilledOrderLinkIds)
    (own : group.groupId = groupId) (keyed : Keyed groupId group)
    (creates : CreatesGroup groupId threadId (.performed threadId effect answer)) :
    GroupMade groupId threadId ((state, .performed threadId effect answer) :: steps)
      (state.shared.createOcoGroup group)
      (Function.update (phaseOf state) threadId
        (createdPhase groupId (state.shared.pendingFilledOrderLinkId group))) := by
  have apart : ∀ {phase : OcoPhase} {other}, phase.group = some groupId →
      Function.update (phaseOf state) threadId
        (createdPhase groupId (state.shared.pendingFilledOrderLinkId group)) other = phase →
      other = threadId ∧ createdPhase groupId (state.shared.pendingFilledOrderLinkId group) =
        phase := by
    intro phase other about later
    by_cases acting : other = threadId
    · subst acting
      rw [Function.update_self] at later
      exact ⟨rfl, later⟩
    · rw [Function.update_of_ne acting] at later
      exact absurd (by rw [later]; exact about) (away other acting)
  have workless : ∀ query, createdPhase groupId (state.shared.pendingFilledOrderLinkId group) ≠
      .cancelling groupId query := by
    intro query
    cases state.shared.pendingFilledOrderLinkId group <;> exact nofun
  have made : (state.shared.createOcoGroup group).ocoGroups groupId = some { group with } := by
    subst own
    exact OcoRegistry.create_group_own
  refine ⟨⟨_, List.mem_cons_self, creates⟩, ?_, ?_, ?_, ?_, ?_, ?_⟩
  · intro other places
    obtain ⟨_, same⟩ := apart rfl places
    cases taken : state.shared.pendingFilledOrderLinkId group <;> rw [taken] at same <;> cases same
  · intro other orderLinkId hands
    exact (apart rfl hands).1
  · apply iff_of_false
    · rintro ⟨worker, query, works⟩
      exact workless query (apart rfl works).2
    · rintro ⟨known, found, closing⟩
      rw [made] at found
      cases found
      cases closing
  · intro first second firstQuery secondQuery firstWorks secondWorks
    rw [(apart rfl firstWorks).1, (apart rfl secondWorks).1]
  · exact fun _ => ⟨_, made, rfl⟩
  · rintro ⟨step, member, sees⟩
    have before : ∃ step ∈ steps, SeesFill groupId step := by
      rcases List.mem_cons.1 member with rfl | member
      · unfold SeesFill at sees
        split at sees
        next same =>
            cases same
            exact creates.elim
        next => exact sees.elim
      · exact ⟨step, member, sees⟩
    obtain ⟨orderLinkId, linked, waits⟩ := pending before
    obtain ⟨filled, taken⟩ := pending_filled_of_waiting keyed linked waits
    rw [taken]
    exact .inr ⟨filled, Function.update_self _ _ _⟩

theorem GroupStands.moves (stands : GroupStands groupId steps state.shared (phaseOf state))
    (coordinated : OcoCoordinated state.shared (phaseOf state))
    (once : (∃ step ∈ steps, registersGroup groupId step.2 = true) →
      registersGroup groupId (.performed threadId effect answer) = false)
    (unremoved : removesGroup groupId (.performed threadId effect answer) = false)
    (move : OcoMove state.shared (phaseOf state threadId) effect answer after next) :
    GroupStands groupId ((state, .performed threadId effect answer) :: steps) after
      (Function.update (phaseOf state) threadId next) := by
  by_cases concerns : effect.Concerns groupId
  swap
  · exact stands.elsewhere coordinated move concerns
  have still : (∃ step ∈ steps, registersGroup groupId step.2 = true) →
      ∃ step ∈ (state, .performed threadId effect answer) :: steps,
        registersGroup groupId step.2 = true := by
    rintro ⟨step, member, registers⟩
    exact ⟨step, List.mem_cons_of_mem _ member, registers⟩
  cases stands with
  | unused fresh unused uncreated unseen away =>
      obtain ⟨uncreating, ⟨registers, rfl⟩ | ⟨unregistered, rfl, rfl⟩⟩ :=
        unused_moves unused (away threadId) concerns unremoved move
      · refine .placing threadId (Function.update_self _ _ _) ⟨_, List.mem_cons_self, registers⟩
          (List.forall_mem_cons.2 ⟨uncreating, uncreated⟩) ?_ ?_
        · intro other apart
          rw [Function.update_of_ne apart]
          exact away other
        · rintro ⟨step, member, sees⟩
          rcases List.mem_cons.1 member with rfl | member
          · exact absurd sees unused.unseen
          · exact absurd sees (unseen step member)
      · exact .unused (List.forall_mem_cons.2 ⟨unregistered, fresh⟩) unused
          (List.forall_mem_cons.2 ⟨uncreating, uncreated⟩)
          (List.forall_mem_cons.2 ⟨unused.unseen, unseen⟩)
          fun other => away_update (away other) nofun
  | placing placer phase registered uncreated away pending =>
      by_cases acting : threadId = placer
      · subst acting
        rcases placer_moves threadId phase concerns move with
          ⟨rfl, rfl, uncreating⟩ | ⟨group, own, keyed, rfl, rfl, creates⟩
        · refine .abandoned (still registered) (unused_of_cleared coordinated phase)
            (List.forall_mem_cons.2 ⟨uncreating, uncreated⟩) fun other => ?_
          by_cases acts : other = threadId
          · subst acts
            rw [Function.update_self]
            exact nofun
          · rw [Function.update_of_ne acts]
            exact away other acts
        · exact .made threadId (still registered)
            (group_made away pending own keyed creates)
      · have placing : ∀ orderLinkId, IsLinkId groupId orderLinkId →
            orderLinkId ∈ state.shared.placingOcoOrderLinkIds := fun orderLinkId linked =>
          coordinated.placing.2 ⟨placer, groupId, phase, linked⟩
        obtain ⟨rfl, uncreating, grows, sees⟩ := placing_moves placing coordinated.consistent
          (away threadId acting) concerns (once registered) unremoved move
        refine .placing placer ?_ (still registered)
          (List.forall_mem_cons.2 ⟨uncreating, uncreated⟩)
          (fun other apart => away_update (away other apart) nofun) ?_
        · rw [Function.update_of_ne (Ne.symm acting)]
          exact phase
        · rintro ⟨step, member, seen⟩
          rcases List.mem_cons.1 member with rfl | member
          · exact sees seen
          · obtain ⟨orderLinkId, linked, waits⟩ := pending ⟨step, member, seen⟩
            exact ⟨orderLinkId, linked, grows waits⟩
  | abandoned registered unused uncreated away =>
      obtain ⟨uncreating, ⟨registers, _⟩ | ⟨_, rfl, rfl⟩⟩ :=
        unused_moves unused (away threadId) concerns unremoved move
      · rw [once registered] at registers
        cases registers
      · exact .abandoned (still registered) unused
          (List.forall_mem_cons.2 ⟨uncreating, uncreated⟩)
          fun other => away_update (away other) nofun
  | made creator registered made =>
      exact .made creator (still registered)
        (made.moves coordinated concerns (once registered) unremoved move)

end Steps

/-! ## Runs -/

section Runs

variable {groupId : String} {steps : List (OcoStep rounding fromChars)}
  {state : OcoState rounding fromChars}

theorem PlacedOnce.earlier {step : OcoStep rounding fromChars}
    (once : PlacedOnce groupId (step :: steps)) : PlacedOnce groupId steps where
  registered := by
    have registered := once.registered
    rw [List.countP_cons] at registered
    omega
  unremoved := (List.forall_mem_cons.1 once.unremoved).2

theorem PlacedOnce.unregistered {step : OcoStep rounding fromChars}
    (once : PlacedOnce groupId (step :: steps))
    (registered : ∃ earlier ∈ steps, registersGroup groupId earlier.2 = true) :
    registersGroup groupId step.2 = false := by
  have count := once.registered
  have before : 0 < steps.countP fun earlier => registersGroup groupId earlier.2 :=
    List.countP_pos_iff.2 registered
  rw [List.countP_cons] at count
  by_contra registers
  rw [Bool.not_eq_false] at registers
  rw [if_pos registers] at count
  omega

theorem group_stands (run : OcoRun rounding fromChars steps state)
    (once : PlacedOnce groupId steps) :
    GroupStands groupId steps state.shared (phaseOf state) := by
  induction run with
  | start =>
      apply GroupStands.unused (List.forall_mem_nil _) _ (List.forall_mem_nil _)
        (List.forall_mem_nil _)
      · intro threadId about
        cases about
      exact ⟨rfl, fun _ _ => rfl, fun _ _ => Finset.notMem_empty _, fun _ _ => Finset.notMem_empty _⟩
  | @step steps before after event run moves ih =>
      have coordinated := oco_run_coordinated run
      have stands := ih once.earlier
      cases event with
      | started threadId call =>
          have kept := moves.history_of_started threadId
          apply stands.neutral
          · rw [kept.1]
            exact .refl groupId _
          · intro phase _ other
            rw [phases_started moves]
          · rfl
          · exact fun _ => id
          · exact id
      | performed threadId effect answer =>
          rw [phases_performed moves]
          exact stands.moves coordinated once.unregistered
            (List.forall_mem_cons.1 once.unremoved).1 (oco_run_moves run moves)

end Runs

/-! ## The one caller that uses an id -/

/-- No other caller places the id, and no `cancelOco` removes its group. -/
structure OnlyUser (groupId : String) (user : ThreadId) (steps : List (OcoStep rounding fromChars)) :
    Prop where
  registers : ∀ step ∈ steps, registersGroup groupId step.2 = true →
    ∃ effect answer, step.2 = .performed user effect answer
  unremoved : ∀ step ∈ steps, removesGroup groupId step.2 = false

section OnlyUser

variable {groupId : String} {user : ThreadId} {steps : List (OcoStep rounding fromChars)}
  {state : OcoState rounding fromChars} {event : OcoEvent}

theorem registers_group_iff :
    registersGroup groupId event = true ↔ ∃ threadId takeProfitOrderLinkId stopLossOrderLinkId,
      event = .performed threadId (.placement (.registerOcoPlacement groupId takeProfitOrderLinkId
        stopLossOrderLinkId)) (.ok ()) := by
  constructor
  · intro registers
    unfold registersGroup at registers
    split at registers
    next threadId other takeProfitOrderLinkId stopLossOrderLinkId accepted =>
        obtain rfl := of_decide_eq_true registers
        exact ⟨threadId, takeProfitOrderLinkId, stopLossOrderLinkId, rfl⟩
    next => cases registers
  · rintro ⟨threadId, takeProfitOrderLinkId, stopLossOrderLinkId, rfl⟩
    exact decide_eq_true rfl

theorem OnlyUser.earlier {step : OcoStep rounding fromChars}
    (only : OnlyUser groupId user (step :: steps)) : OnlyUser groupId user steps where
  registers := (List.forall_mem_cons.1 only.registers).2
  unremoved := (List.forall_mem_cons.1 only.unremoved).2

/-- A call registers once, so the only user places the id once. -/
theorem OnlyUser.placed_once (run : OcoRun rounding fromChars steps state)
    (only : OnlyUser groupId user steps) : PlacedOnce groupId steps := by
  induction run with
  | start => exact ⟨Nat.zero_le _, List.forall_mem_nil _⟩
  | @step steps before after event run moves ih =>
      have once := ih only.earlier
      refine ⟨?_, only.unremoved⟩
      rw [List.countP_cons]
      split_ifs with registers
      swap
      · exact once.registered
      have unregistered : steps.countP (fun step => registersGroup groupId step.2) = 0 := by
        rw [List.countP_eq_zero]
        intro earlier member registered
        obtain ⟨effect, answer, acted⟩ := only.registers _ List.mem_cons_self registers
        obtain ⟨actor, takeProfit, stopLoss, same⟩ := registers_group_iff.1 registers
        dsimp only at same
        subst same
        cases acted
        obtain ⟨otherEffect, otherAnswer, otherActed⟩ :=
          only.registers earlier (List.mem_cons_of_mem _ member) registered
        obtain ⟨other, otherTakeProfit, otherStopLoss, same⟩ := registers_group_iff.1 registered
        have first := (oco_run_allows run moves).2 groupId otherTakeProfit otherStopLoss (.ok ())
        apply first
        rw [mem_placement_part]
        apply run.mem_history.2
        refine ⟨earlier, member, ?_⟩
        rw [same] at otherActed ⊢
        cases otherActed
        rfl
      rw [unregistered]

end OnlyUser

/-! ## A scripted fill -/

/-- A placed group, one of whose legs fills. -/
def fillScript : List (Command OcoCall) :=
  placementScript 0 ++ [.start 1 (.processOcoUpdate "g_TP"), .act 1 1]

def registersAny : Sigma OcoEffect.Answer → Bool
  | ⟨.placement (.registerOcoPlacement _ _ _), _⟩ => true
  | _ => false

def removesAny : Sigma OcoEffect.Answer → Bool
  | ⟨.removeOcoGroup _ _, _⟩ => true
  | _ => false

theorem fill_script_only_user :
    ∃ steps, OcoRun roundHalfUp readDecimal steps (scripted fillScript) ∧
      OnlyUser "g" 0 steps := by
  obtain ⟨steps, run⟩ := scripted_run fillScript
  have unnamed : ∀ threadId, threadId ≠ 0 → threadId ≠ 1 →
      (scripted fillScript).historyOf threadId = [] := by
    intro threadId notPlacer notFill
    apply Threads.history_of_fresh
    apply Threads.script_other
    intro command member same
    simp only [fillScript, placementScript, List.cons_append, List.nil_append, List.mem_cons,
      List.not_mem_nil, or_false] at member
    rcases member with rfl | rfl | rfl | rfl
    · exact notPlacer same.symm
    · exact notPlacer same.symm
    · exact notFill same.symm
    · exact notFill same.symm
  have placer : ((scripted fillScript).historyOf 0).any removesAny = false := by decide +kernel
  have filled : ((scripted fillScript).historyOf 1).any
      (fun item => registersAny item || removesAny item) = false := by decide +kernel
  rw [List.any_eq_false] at placer filled
  refine ⟨steps, run, ?_, ?_⟩
  · intro step member registers
    obtain ⟨threadId, takeProfit, stopLoss, same⟩ := registers_group_iff.1 registers
    have answered := run.mem_history.2 ⟨step, member, same⟩
    by_cases isPlacer : threadId = 0
    · subst isPlacer
      exact ⟨_, _, same⟩
    by_cases isFill : threadId = 1
    · subst isFill
      exact absurd rfl (filled _ answered)
    · rw [unnamed threadId isPlacer isFill] at answered
      cases answered
  · intro step member
    by_contra removes
    rw [Bool.not_eq_false] at removes
    unfold removesGroup at removes
    split at removes
    next threadId other ocoGroup answer same =>
        have answered := run.mem_history.2 ⟨step, member, same⟩
        by_cases isPlacer : threadId = 0
        · subst isPlacer
          exact absurd rfl (placer _ answered)
        by_cases isFill : threadId = 1
        · subst isFill
          exact absurd rfl (filled _ answered)
        · rw [unnamed threadId isPlacer isFill] at answered
          cases answered
    next => cases removes

end CryptoDeal.DealService.Bybit
