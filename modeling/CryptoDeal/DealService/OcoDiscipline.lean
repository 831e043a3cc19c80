import CryptoDeal.DealService.OcoCalls

/-!
# What the calls keep to

Every call enters the sections in the order that its phases allow, and none ends
while it is placing a group, handing a fill over or working on another leg.
-/

namespace CryptoDeal.DealService.Bybit

open DecimalText OrderStatusUtil Interaction

abbrev OcoMeets {Result : Type} (post : OcoHistory → Except ServiceFailure Result → Prop)
    (program : OcoProgram Result) (history : OcoHistory) : Prop :=
  Meets ocoContract post program history

/-! ## Cancelling a leg -/

section Legs

variable {history : OcoHistory} {query : OrderQuery} {handler : String → OcoProgram (Option String)}
  {verdict : OrderInfo → Option String}
  {post : OcoHistory → Except ServiceFailure (Option String) → Prop}

/-- A caught exception of the network is one of the first two. -/
theorem meets_caught {failure : ServiceFailure} {later : OcoHistory}
    (standard : failure ≠ .nonStandard) (handled : ∀ what, OcoMeets post (handler what) later) :
    OcoMeets post
      ((Interaction.threw failure : OcoProgram (Option String)).handle fun
        | .runtime what => handler what
        | .interrupted what => handler what
        | .nonStandard => .threw .nonStandard) later := by
  cases failure with
  | runtime what => exact handled what
  | interrupted what => exact handled what
  | nonStandard => exact absurd rfl standard

theorem meets_try_cancel (allowed : (ocoPhase history).MayAsk query)
    (cancelled : ∀ orderInfo, post (⟨.cancelOrder query, .ok orderInfo⟩ :: history) (.ok none))
    (handled : ∀ answer what, OcoMeets post (handler what) (⟨.cancelOrder query, answer⟩ :: history)) :
    OcoMeets post
      (OcoProgram.catchException (do let _ ← OcoProgram.cancelOrder query; return none) handler)
      history := by
  refine ⟨⟨allowed, trivial⟩, fun answer standard => ?_⟩
  cases answer with
  | ok orderInfo => exact cancelled orderInfo
  | error failure =>
      apply meets_caught
      · rintro rfl
        exact standard rfl
      · exact handled _

theorem meets_try_check (allowed : (ocoPhase history).MayAsk query)
    (checked : ∀ orderInfo, post (⟨.getOrder query, .ok orderInfo⟩ :: history)
      (.ok (verdict orderInfo)))
    (handled : ∀ answer what, OcoMeets post (handler what) (⟨.getOrder query, answer⟩ :: history)) :
    OcoMeets post
      (OcoProgram.catchException
        (do let orderInfo ← OcoProgram.getOrder query; return verdict orderInfo) handler)
      history := by
  refine ⟨⟨allowed, trivial⟩, fun answer standard => ?_⟩
  cases answer with
  | ok orderInfo => exact checked orderInfo
  | error failure =>
      apply meets_caught
      · rintro rfl
        exact standard rfl
      · exact handled _

/-- What the network part of `processOcoUpdate` leaves. -/
structure OtherLegTried (query : OrderQuery) (history later : OcoHistory)
    (outcome : Except ServiceFailure (Option String)) : Prop where
  phase : ocoPhase later = ocoPhase history
  placements : placementPart later = placementPart history
  returned : ∃ cancelError, outcome = .ok cancelError
  grown : history <:+ later
  requested : ∃ answer, ⟨.cancelOrder query, answer⟩ ∈ later

theorem request_other_leg_cancellation_meets (allowed : (ocoPhase history).MayAsk query) :
    OcoMeets (OtherLegTried query history) (requestOcoOtherLegCancellation query) history := by
  apply meets_try_cancel allowed
  · exact fun orderInfo => ⟨rfl, rfl, ⟨_, rfl⟩, List.suffix_cons _ _, _, List.mem_cons_self⟩
  · intro answer cancelError
    have requested : ∀ status : Sigma OcoEffect.Answer,
        ⟨.cancelOrder query, answer⟩ ∈ status :: ⟨.cancelOrder query, answer⟩ :: history :=
      fun status => List.mem_cons_of_mem _ List.mem_cons_self
    have grown : ∀ status, history <:+ status :: ⟨.cancelOrder query, answer⟩ :: history :=
      fun status => (List.suffix_cons _ _).trans (List.suffix_cons _ _)
    apply meets_try_check
    · exact allowed
    · exact fun orderInfo => ⟨rfl, rfl, ⟨_, rfl⟩, grown _, answer, requested _⟩
    · exact fun statusAnswer statusError => ⟨rfl, rfl, ⟨_, rfl⟩, grown _, answer, requested _⟩

/-- What one leg's cancellation in `cancelOco` leaves. -/
structure LegTried (query : OrderQuery) (history later : OcoHistory)
    (outcome : Except ServiceFailure (Option String)) : Prop where
  phase : ocoPhase later = ocoPhase history
  grown : history <:+ later
  readOnly : (∀ item ∈ history, item.1.readsOnly) → ∀ item ∈ later, item.1.readsOnly
  settled : outcome = .ok none → LegSettled query later

theorem LegSettled.grows {earlier later : OcoHistory} (settled : LegSettled query earlier)
    (grown : earlier <:+ later) : LegSettled query later := by
  rcases settled with ⟨orderInfo, member⟩ | ⟨orderInfo, member, terminal⟩
  · exact .inl ⟨orderInfo, grown.subset member⟩
  · exact .inr ⟨orderInfo, grown.subset member, terminal⟩

theorem cancel_oco_group_order_meets (allowed : (ocoPhase history).MayAsk query) :
    OcoMeets (LegTried query history) (cancelOcoGroupOrder query) history := by
  apply meets_try_cancel allowed
  · intro orderInfo
    refine ⟨rfl, List.suffix_cons _ _, ?_, fun _ => .inl ⟨orderInfo, List.mem_cons_self⟩⟩
    exact fun readOnly => List.forall_mem_cons.2 ⟨rfl, readOnly⟩
  · intro answer cancelError
    cases orderId : query.orderId with
    | none =>
        refine ⟨rfl, List.suffix_cons _ _, ?_, nofun⟩
        exact fun readOnly => List.forall_mem_cons.2 ⟨rfl, readOnly⟩
    | some orderId =>
        have grown : ∀ status, history <:+ status :: ⟨.cancelOrder query, answer⟩ :: history :=
          fun status => (List.suffix_cons _ _).trans (List.suffix_cons _ _)
        show OcoMeets _ (OcoProgram.catchException _ _) _
        apply meets_try_check
        · exact allowed
        · intro orderInfo
          refine ⟨rfl, grown _, ?_, ?_⟩
          · intro readOnly
            exact List.forall_mem_cons.2 ⟨rfl, List.forall_mem_cons.2 ⟨rfl, readOnly⟩⟩
          · intro settled
            by_cases terminal : isOrderTerminal .bybit orderInfo.status
            · exact .inr ⟨orderInfo, List.mem_cons_self, terminal⟩
            · rw [if_neg terminal] at settled
              cases settled
        · intro statusAnswer statusError
          refine ⟨rfl, grown _, ?_, nofun⟩
          intro readOnly
          exact List.forall_mem_cons.2 ⟨rfl, List.forall_mem_cons.2 ⟨rfl, readOnly⟩⟩

end Legs

/-! ## `processOcoUpdate` -/

structure Updated (orderLinkId : String) (history later : OcoHistory)
    (outcome : Except ServiceFailure (Option String)) : Prop where
  phase : ocoPhase later = .idle
  placements : placementPart later = placementPart history
  returned : ∃ cancelError, outcome = .ok cancelError
  reported : ∀ error, outcome = .ok (some error) → ∃ groupId query cancelError earlier,
    later = ⟨.finishOcoUpdate groupId cancelError, some error⟩ :: earlier ∧
      ⟨.startOcoUpdate orderLinkId, some (groupId, query)⟩ ∈ earlier

theorem process_oco_update_meets {history : OcoHistory} {orderLinkId : String}
    (ready : ocoPhase history = .idle ∨
      ∃ groupId, ocoPhase history = .handingOver groupId orderLinkId) :
    OcoMeets (Updated orderLinkId history) (processOcoUpdate orderLinkId) history := by
  refine ⟨⟨ready, trivial⟩, fun answer _ => ?_⟩
  cases answer with
  | none => exact ⟨rfl, rfl, ⟨none, rfl⟩, nofun⟩
  | some found =>
      have asks : (ocoPhase (⟨.startOcoUpdate orderLinkId, some found⟩ :: history)).MayAsk
          found.2 := rfl
      apply (request_other_leg_cancellation_meets asks).bind
      · intro later cancelError tried
        have prepared : Prepared later (.finishOcoUpdate found.1 cancelError) := by
          intro otherLegQuery phase
          cases tried.phase.symm.trans phase
          exact tried.requested
        refine ⟨⟨⟨found.2, tried.phase⟩, prepared⟩, fun answer _ => ?_⟩
        refine ⟨rfl, tried.placements, ⟨answer, rfl⟩, ?_⟩
        rintro error ⟨⟩
        exact ⟨found.1, found.2, cancelError, later, rfl, tried.grown.subset List.mem_cons_self⟩
      · rintro later failure ⟨_, _, ⟨_, ⟨⟩⟩, _, _⟩

/-! ## `cancelOco` -/

/-- It ends idle or with its copy, and changes nothing unless it returns. -/
structure CancelEnded (later : OcoHistory) (outcome : Except ServiceFailure Unit) : Prop where
  phase : (ocoPhase later).MayEnd
  unchanged : ∀ failure, outcome = .error failure → ∀ item ∈ later, item.1.readsOnly

theorem cancel_oco_meets (request : OrderListQuery) :
    OcoMeets CancelEnded (cancelOco request) [] := by
  have unasked : ∀ failure, CancelEnded [] (.error failure) := by
    intro failure
    refine ⟨trivial, fun _ _ item member => ?_⟩
    cases member
  apply meets_lift_bind _ fun failure _ => unasked failure
  intro _ _
  apply meets_lift_bind _ fun failure _ => unasked failure
  intro groupId _
  apply meets_lift_bind _ fun failure _ => unasked failure
  intro _ _
  refine ⟨⟨rfl, trivial⟩, fun answer _ => ?_⟩
  have readOnly : ∀ item ∈ [(⟨.findOcoGroup groupId, answer⟩ : Sigma OcoEffect.Answer)],
      item.1.readsOnly := by
    intro item member
    rw [List.mem_singleton.1 member]
    rfl
  cases answer with
  | error failure => exact ⟨trivial, fun _ _ => readOnly⟩
  | ok ocoGroup =>
      have asks : (ocoPhase [⟨.findOcoGroup groupId, .ok ocoGroup⟩]).MayAsk ocoGroup.takeProfit :=
        trivial
      apply (cancel_oco_group_order_meets asks).bind
      · intro middle takeProfitError first
        have quiet : (ocoPhase middle).MayAsk ocoGroup.stopLeg := by
          rw [first.phase]
          trivial
        apply (cancel_oco_group_order_meets quiet).bind
        · intro later stopLossError second
          have phase := second.phase.trans first.phase
          have kept := second.readOnly (first.readOnly readOnly)
          apply meets_lift_bind
          · intro _ passed
            rw [throw_if_ok, not_or, Option.not_isSome_iff_eq_none, Option.not_isSome_iff_eq_none]
              at passed
            obtain ⟨rfl, rfl⟩ := passed
            have settled := (first.settled rfl).grows second.grown
            refine ⟨⟨phase, settled, second.settled rfl⟩, fun _ _ => ⟨trivial, ?_⟩⟩
            intro failure ended
            cases ended
          · intro failure _
            refine ⟨?_, fun _ _ => kept⟩
            rw [phase]
            trivial
        · intro later failure second
          refine ⟨?_, fun _ _ => second.readOnly (first.readOnly readOnly)⟩
          rw [second.phase, first.phase]
          trivial
      · intro later failure first
        refine ⟨?_, fun _ _ => first.readOnly readOnly⟩
        rw [first.phase]
        trivial

end CryptoDeal.DealService.Bybit
