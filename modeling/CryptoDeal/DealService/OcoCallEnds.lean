import CryptoDeal.DealService.OcoPlacementPhases

/-!
# How the calls end

A placement's own call of `processOcoUpdate` runs section by section between its
other requests. With that every call meets the one contract, from its start to
its end.
-/

namespace CryptoDeal.DealService.Bybit

open DecimalText DecimalConverter Interaction

variable {rounding : NearestRounding} {fromChars : String → Option Decimal}

def isUpdate : PlacementEffect → Bool
  | .processOcoUpdate _ => true
  | _ => false

theorem carry_out_request {effect : PlacementEffect} (other : isUpdate effect = false) :
    carryOut effect = .request (.placement effect) .returned := by
  cases effect <;> first | rfl | cases other

section PlacementPart

variable {effect : PlacementEffect} {answer : effect.Answer}

theorem mem_placement_part {history : OcoHistory} :
    ⟨effect, answer⟩ ∈ placementPart history ↔ ⟨.placement effect, answer⟩ ∈ history := by
  induction history with
  | nil => simp [placementPart]
  | cons item earlier ih =>
      obtain ⟨asked, given⟩ := item
      cases asked with
      | placement other =>
          rw [placementPart, List.mem_cons, List.mem_cons, ih]
          apply or_congr _ Iff.rfl
          constructor
          · intro same
            cases same
            rfl
          · intro same
            cases same
            rfl
      | startOcoUpdate _ | finishOcoUpdate _ _ | findOcoGroup _ | removeOcoGroup _ _
      | cancelOrder _ | getOrder _ =>
          refine ih.trans (List.mem_cons.trans (or_iff_right ?_)).symm
          intro same
          cases same

end PlacementPart

/-- The history of a placement and that of its requests section by section. -/
structure Carried (coarse : PlacementHistory) (fine : OcoHistory) : Prop where
  phase : ocoPhase fine = placementPhase coarse
  requests : placementPart fine = coarse.filter fun item => !isUpdate item.1
  reported : ∀ orderLinkId error earlier,
    coarse = ⟨.processOcoUpdate orderLinkId, .ok (some error)⟩ :: earlier →
      ∃ groupId query cancelError before,
        fine = ⟨.finishOcoUpdate groupId cancelError, some error⟩ :: before ∧
          ⟨.startOcoUpdate orderLinkId, some (groupId, query)⟩ ∈ before

theorem Carried.placed {coarse : PlacementHistory} {fine : OcoHistory} {orderLinkId : String}
    {query : OrderQuery} (carried : Carried coarse fine)
    (placed : LegPlaced coarse orderLinkId query) :
    LegPlaced (placementPart fine) orderLinkId query := by
  obtain ⟨body, orderInfo, member, named⟩ := placed
  refine ⟨body, orderInfo, ?_, named⟩
  rw [carried.requests]
  exact List.mem_filter.2 ⟨member, rfl⟩

theorem carry_out_meets {earlier : PlacementHistory} {fine : OcoHistory} {effect : PlacementEffect}
    (carried : Carried earlier fine) (required : placementContract.requires earlier effect) :
    OcoMeets
      (fun later outcome => ∃ answer, outcome = .ok answer ∧
        placementContract.ensures earlier effect answer ∧
          Carried (⟨effect, answer⟩ :: earlier) later)
      (carryOut effect) fine := by
  have allowed : (ocoPhase fine).Allows (.placement effect) := by
    rw [carried.phase]
    exact required.1
  have prepared : PlacementPrepared (placementPart fine) effect := by
    have needed := required.2
    cases effect with
    | registerOcoPlacement _ _ _ =>
        intro groupId takeProfitOrderLinkId stopLossOrderLinkId answer member
        rw [carried.requests] at member
        exact needed groupId takeProfitOrderLinkId stopLossOrderLinkId answer
          (List.mem_filter.1 member).1
    | createOcoGroup group => exact ⟨carried.placed needed.1, carried.placed needed.2⟩
    | _ => exact trivial
  cases updates : isUpdate effect with
  | false =>
      rw [carry_out_request updates]
      refine ⟨⟨allowed, prepared⟩, fun answer given => ⟨answer, rfl, given, ?_⟩⟩
      refine ⟨?_, ?_, ?_⟩
      · rw [ocoPhase, carried.phase]
        rfl
      · rw [placementPart, carried.requests, List.filter_cons, updates]
        rfl
      · rintro orderLinkId error before same
        cases same
        cases updates
  | true =>
      cases effect with
      | processOcoUpdate orderLinkId =>
          obtain ⟨groupId, phase⟩ := allowed
          rw [carryOut, OcoMeets, meets_attempt]
          apply (process_oco_update_meets (.inr ⟨groupId, phase⟩)).weaken
          intro later outcome updated
          refine ⟨outcome, rfl, updated.returned, updated.phase, ?_, ?_⟩
          · rw [updated.placements, carried.requests]
            rfl
          · rintro _ error _ same
            cases same
            exact updated.reported error rfl
      | _ => cases updates

/-! ## Every call -/

/-- How a call of `placeOco` ends, told by its sections. -/
structure PlaceEnded (rounding : NearestRounding) (request : PlaceOcoRequest) (later : OcoHistory)
    (outcome : Except ServiceFailure OcoInfo) : Prop where
  phase : ocoPhase later = .idle
  legs : ∀ failure, outcome = .error failure →
    (∀ group pending, ⟨.placement (.createOcoGroup group), pending⟩ ∉ later) →
      ∃ groupId, LegsFailed rounding request (takeProfitLinkId groupId) (placementPart later)
  reported : ∀ failure, outcome = .error failure → ∀ group pending,
    ⟨.placement (.createOcoGroup group), pending⟩ ∈ later →
      ∃ orderLinkId groupId query cancelError error before, pending = some orderLinkId ∧
        later = ⟨.finishOcoUpdate groupId cancelError, some error⟩ :: before ∧
          ⟨.startOcoUpdate orderLinkId, some (groupId, query)⟩ ∈ before

theorem LegsFailed.congr {request : PlaceOcoRequest} {takeProfitOrderLinkId : String}
    {first second : PlacementHistory}
    (same : ∀ item, isUpdate item.1 = false → (item ∈ first ↔ item ∈ second))
    (failed : LegsFailed rounding request takeProfitOrderLinkId first) :
    LegsFailed rounding request takeProfitOrderLinkId second where
  returned body orderInfo member := by
    obtain ⟨linkId, settled⟩ := failed.returned body orderInfo ((same _ rfl).2 member)
    refine ⟨linkId, Iff.trans ?_ settled⟩
    exact exists_congr fun answer => (same ⟨.cancelOrder _, answer⟩ rfl).symm
  uncreated group pending member :=
    failed.uncreated group pending ((same ⟨.createOcoGroup group, pending⟩ rfl).2 member)

theorem PlacementEnded.carried {request : PlaceOcoRequest} {coarse : PlacementHistory}
    {fine : OcoHistory} {outcome : Except ServiceFailure OcoInfo}
    (ended : PlacementEnded rounding request coarse outcome) (carried : Carried coarse fine) :
    PlaceEnded rounding request fine outcome := by
  have same : ∀ item : Sigma PlacementEffect.Answer, isUpdate item.1 = false →
      (item ∈ coarse ↔ item ∈ placementPart fine) := by
    intro item other
    rw [carried.requests, List.mem_filter, other]
    exact (and_iff_left rfl).symm
  have created : ∀ group pending, (⟨.createOcoGroup group, pending⟩ ∈ coarse ↔
      ⟨.placement (.createOcoGroup group), pending⟩ ∈ fine) := fun group pending =>
    (same ⟨.createOcoGroup group, pending⟩ rfl).trans mem_placement_part
  refine ⟨carried.phase.trans ended.phase, ?_, ?_⟩
  · intro failure failed uncreated
    obtain ⟨groupId, legs⟩ := ended.legs failure failed fun group pending member =>
      uncreated group pending ((created group pending).1 member)
    exact ⟨groupId, legs.congr same⟩
  · intro failure failed group pending member
    obtain ⟨orderLinkId, error, earlier, taken, last⟩ :=
      ended.reported failure failed group pending ((created group pending).2 member)
    obtain ⟨groupId, query, cancelError, before, sections, started⟩ :=
      carried.reported orderLinkId error earlier last
    exact ⟨orderLinkId, groupId, query, cancelError, error, before, taken, sections, started⟩

theorem place_oco_call_meets (request : PlaceOcoRequest) :
    OcoMeets (PlaceEnded rounding request)
      ((placeOco rounding fromChars request).interpret carryOut) [] := by
  have start : Carried [] [] := by
    refine ⟨rfl, rfl, ?_⟩
    intro _ _ _ same
    cases same
  apply (Meets.interpret (fun _ _ _ => carry_out_meets) (place_oco_meets request) start).weaken
  rintro later outcome ⟨coarse, carried, ended⟩
  exact ended.carried carried

/-- How each call ends. -/
def CallEnded (rounding : NearestRounding) :
    (call : OcoCall) → OcoHistory → Except ServiceFailure call.Result → Prop
  | .placeOco asked => PlaceEnded rounding asked
  | .processOcoUpdate orderLinkId => Updated orderLinkId []
  | .cancelOco _ => CancelEnded

theorem call_meets (call : OcoCall) :
    OcoMeets (CallEnded rounding call) (call.program rounding fromChars) [] := by
  cases call with
  | placeOco asked => exact place_oco_call_meets asked
  | processOcoUpdate orderLinkId => exact process_oco_update_meets (.inl rfl)
  | cancelOco asked => exact cancel_oco_meets asked

theorem CallEnded.may_end {call : OcoCall} {later : OcoHistory}
    {outcome : Except ServiceFailure call.Result} (ended : CallEnded rounding call later outcome) :
    (ocoPhase later).MayEnd := by
  cases call with
  | placeOco asked =>
      rw [PlaceEnded.phase ended]
      trivial
  | processOcoUpdate orderLinkId =>
      rw [Updated.phase ended]
      trivial
  | cancelOco asked => exact CancelEnded.phase ended

end CryptoDeal.DealService.Bybit
