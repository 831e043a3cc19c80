import CryptoDeal.DealService.Placement
import Mathlib.Data.Finset.Erase
import Mathlib.Data.Finset.Insert

/-!
# The registry of emulated OCO groups

Bybit has no OCO orders, so the service cancels the other leg of a group itself
when one fills. Its four containers are guarded by `ocoMutex`; every function
here is one section under that mutex.
-/

namespace CryptoDeal.DealService.Bybit

/-- A group with what its life in the registry adds. -/
structure RegisteredOcoGroup extends BybitOcoGroup where
  closing : Bool := false
  lastError : String := ""
  deriving DecidableEq

structure OcoRegistry where
  ocoGroups : String → Option RegisteredOcoGroup := fun _ => none
  ocoLegToGroup : String → Option String := fun _ => none
  placingOcoOrderLinkIds : Finset String := ∅
  pendingOcoFilledOrderLinkIds : Finset String := ∅

namespace OcoRegistry

/-- What the constructor of `OcoPlacementRegistration` checks. -/
def IsActive (registry : OcoRegistry) (groupId takeProfitOrderLinkId stopLossOrderLinkId : String) :
    Prop :=
  (registry.ocoGroups groupId).isSome ∨
    (takeProfitOrderLinkId ∈ registry.placingOcoOrderLinkIds ∨
      stopLossOrderLinkId ∈ registry.placingOcoOrderLinkIds) ∨
    ((registry.ocoLegToGroup takeProfitOrderLinkId).isSome ∨
      (registry.ocoLegToGroup stopLossOrderLinkId).isSome)

instance (registry : OcoRegistry) (groupId takeProfitOrderLinkId stopLossOrderLinkId : String) :
    Decidable (registry.IsActive groupId takeProfitOrderLinkId stopLossOrderLinkId) :=
  inferInstanceAs (Decidable (_ ∨ _))

/-- The constructor of `OcoPlacementRegistration`. -/
def registerOcoPlacement (registry : OcoRegistry)
    (groupId takeProfitOrderLinkId stopLossOrderLinkId : String) :
    Except ServiceFailure OcoRegistry := do
  throwIf (registry.IsActive groupId takeProfitOrderLinkId stopLossOrderLinkId)
    ("Bybit placeOco: listClientOrderId is already active: " ++ groupId)
  return { registry with
    placingOcoOrderLinkIds :=
      insert stopLossOrderLinkId (insert takeProfitOrderLinkId registry.placingOcoOrderLinkIds) }

def clearOcoPlacementRegistration (registry : OcoRegistry)
    (takeProfitOrderLinkId stopLossOrderLinkId : String) : OcoRegistry :=
  { registry with
    placingOcoOrderLinkIds :=
      (registry.placingOcoOrderLinkIds.erase takeProfitOrderLinkId).erase stopLossOrderLinkId
    pendingOcoFilledOrderLinkIds :=
      (registry.pendingOcoFilledOrderLinkIds.erase takeProfitOrderLinkId).erase
        stopLossOrderLinkId }

/-- The leg that filled while the group was being placed; a filled take-profit comes first. -/
def pendingFilledOrderLinkId (registry : OcoRegistry) (group : BybitOcoGroup) : Option String :=
  if group.tpOrderLinkId ∈ registry.pendingOcoFilledOrderLinkIds then some group.tpOrderLinkId
  else if group.slOrderLinkId ∈
      registry.pendingOcoFilledOrderLinkIds.erase group.tpOrderLinkId then
    some group.slOrderLinkId
  else none

/-- `createOcoGroup` and the hand-over of the pending fills in one section. -/
def createOcoGroup (registry : OcoRegistry) (group : BybitOcoGroup) : OcoRegistry :=
  { registry.clearOcoPlacementRegistration group.tpOrderLinkId group.slOrderLinkId with
    ocoGroups := Function.update registry.ocoGroups group.groupId (some { group with })
    ocoLegToGroup :=
      Function.update
        (Function.update registry.ocoLegToGroup group.tpOrderLinkId (some group.groupId))
        group.slOrderLinkId (some group.groupId) }

def writeGroup (registry : OcoRegistry) (groupId : String) (group : RegisteredOcoGroup) :
    OcoRegistry :=
  { registry with ocoGroups := Function.update registry.ocoGroups groupId (some group) }

def eraseGroup (registry : OcoRegistry) (groupId tpOrderLinkId slOrderLinkId : String) :
    OcoRegistry :=
  { registry with
    ocoGroups := Function.update registry.ocoGroups groupId none
    ocoLegToGroup :=
      Function.update (Function.update registry.ocoLegToGroup tpOrderLinkId none) slOrderLinkId
        none }

/-- The leg to cancel when another has filled. -/
def otherLegQuery (group : BybitOcoGroup) (orderLinkId : String) : OrderQuery :=
  if orderLinkId = group.tpOrderLinkId then group.stopLeg else group.takeProfit

/-- The first section of `processOcoUpdate`: the group to close and its other leg. -/
def startOcoUpdate (registry : OcoRegistry) (orderLinkId : String) :
    Option (String × OrderQuery) × OcoRegistry :=
  match registry.ocoLegToGroup orderLinkId with
  | none =>
      (none,
        if orderLinkId ∈ registry.placingOcoOrderLinkIds then
          { registry with
            pendingOcoFilledOrderLinkIds :=
              insert orderLinkId registry.pendingOcoFilledOrderLinkIds }
        else registry)
  | some groupId =>
      match registry.ocoGroups groupId with
      | none => (none, registry)
      | some group =>
          if group.closing then (none, registry)
          else
            (some (groupId, otherLegQuery group.toBybitOcoGroup orderLinkId),
              registry.writeGroup groupId { group with closing := true })

/-- The last section of `processOcoUpdate`, which finds the group by its id again. -/
def finishOcoUpdate (registry : OcoRegistry) (groupId : String) (cancelError : Option String) :
    Option String × OcoRegistry :=
  match registry.ocoGroups groupId with
  | none => (none, registry)
  | some group =>
      (cancelError,
        match cancelError with
        | some error =>
            registry.writeGroup groupId { group with closing := false, lastError := error }
        | none => registry.eraseGroup groupId group.tpOrderLinkId group.slOrderLinkId)

/-- The first section of `cancelOco`, which copies the group. -/
def findOcoGroup (registry : OcoRegistry) (groupId : String) :
    Except ServiceFailure RegisteredOcoGroup :=
  match registry.ocoGroups groupId with
  | none => .error (.runtime "Bybit cancelOco: unknown group params")
  | some group => .ok group

/-- The last section of `cancelOco`: whatever group has the id, with the copy's legs. -/
def removeOcoGroup (registry : OcoRegistry) (groupId : String) (ocoGroup : RegisteredOcoGroup) :
    OcoRegistry :=
  match registry.ocoGroups groupId with
  | none => registry
  | some _ => registry.eraseGroup groupId ocoGroup.tpOrderLinkId ocoGroup.slOrderLinkId

section Lookups

variable {registry : OcoRegistry} {groupId other orderLinkId tpOrderLinkId slOrderLinkId : String}
  {group : RegisteredOcoGroup} {placed : BybitOcoGroup}

@[simp] theorem write_group_own :
    (registry.writeGroup groupId group).ocoGroups groupId = some group :=
  Function.update_self _ _ _

theorem write_group_other (apart : other ≠ groupId) :
    (registry.writeGroup groupId group).ocoGroups other = registry.ocoGroups other :=
  Function.update_of_ne apart _ _

@[simp] theorem erase_group_own :
    (registry.eraseGroup groupId tpOrderLinkId slOrderLinkId).ocoGroups groupId = none :=
  Function.update_self _ _ _

theorem erase_group_other (apart : other ≠ groupId) :
    (registry.eraseGroup groupId tpOrderLinkId slOrderLinkId).ocoGroups other =
      registry.ocoGroups other :=
  Function.update_of_ne apart _ _

theorem erase_group_leg :
    (registry.eraseGroup groupId tpOrderLinkId slOrderLinkId).ocoLegToGroup orderLinkId =
      if orderLinkId = tpOrderLinkId ∨ orderLinkId = slOrderLinkId then none
      else registry.ocoLegToGroup orderLinkId := by
  simp only [eraseGroup, Function.update_apply]
  split_ifs <;> simp_all

@[simp] theorem create_group_own :
    (registry.createOcoGroup placed).ocoGroups placed.groupId = some { placed with } :=
  Function.update_self _ _ _

theorem create_group_other (apart : other ≠ placed.groupId) :
    (registry.createOcoGroup placed).ocoGroups other = registry.ocoGroups other :=
  Function.update_of_ne apart _ _

theorem create_group_leg :
    (registry.createOcoGroup placed).ocoLegToGroup orderLinkId =
      if orderLinkId = placed.tpOrderLinkId ∨ orderLinkId = placed.slOrderLinkId then
        some placed.groupId
      else registry.ocoLegToGroup orderLinkId := by
  simp only [createOcoGroup, Function.update_apply]
  split_ifs <;> simp_all

theorem mem_clear_placing :
    orderLinkId ∈
        (registry.clearOcoPlacementRegistration tpOrderLinkId slOrderLinkId).placingOcoOrderLinkIds ↔
      orderLinkId ≠ slOrderLinkId ∧ orderLinkId ≠ tpOrderLinkId ∧
        orderLinkId ∈ registry.placingOcoOrderLinkIds := by
  simp [clearOcoPlacementRegistration]

theorem mem_clear_pending :
    orderLinkId ∈ (registry.clearOcoPlacementRegistration tpOrderLinkId
        slOrderLinkId).pendingOcoFilledOrderLinkIds ↔
      orderLinkId ≠ slOrderLinkId ∧ orderLinkId ≠ tpOrderLinkId ∧
        orderLinkId ∈ registry.pendingOcoFilledOrderLinkIds := by
  simp [clearOcoPlacementRegistration]

end Lookups

end OcoRegistry

/-! ## Link ids -/

abbrev takeProfitLinkId (groupId : String) : String := groupId ++ "_TP"

abbrev stopLossLinkId (groupId : String) : String := groupId ++ "_SL"

/-- One of the group's two link ids. -/
def IsLinkId (groupId orderLinkId : String) : Prop :=
  orderLinkId = takeProfitLinkId groupId ∨ orderLinkId = stopLossLinkId groupId

theorem take_profit_ne_stop_loss (groupId other : String) :
    takeProfitLinkId groupId ≠ stopLossLinkId other := by
  intro same
  have lists := congrArg String.toList same
  rw [String.toList_append, String.toList_append] at lists
  have ends := (List.append_inj' lists (by simp)).2
  simp at ends

theorem link_id_group {groupId other orderLinkId : String} (first : IsLinkId groupId orderLinkId)
    (second : IsLinkId other orderLinkId) : groupId = other := by
  rcases first with rfl | rfl
  · rcases second with same | same
    · exact (String.append_left_inj _).1 same
    · exact absurd same (take_profit_ne_stop_loss _ _)
  · rcases second with same | same
    · exact absurd same.symm (take_profit_ne_stop_loss _ _)
    · exact (String.append_left_inj _).1 same

/-- The group as a placement makes it for the id. -/
structure Keyed (groupId : String) (group : BybitOcoGroup) : Prop where
  id : group.groupId = groupId
  takeProfit : group.tpOrderLinkId = takeProfitLinkId groupId
  stopLoss : group.slOrderLinkId = stopLossLinkId groupId
  takeProfitQuery : group.takeProfit.clientOrderId = some (takeProfitLinkId groupId)
  stopLegQuery : group.stopLeg.clientOrderId = some (stopLossLinkId groupId)

namespace OcoRegistry

/-! ## Consistency -/

/-- The four containers agree. -/
structure Consistent (registry : OcoRegistry) : Prop where
  keyed : ∀ {groupId group}, registry.ocoGroups groupId = some group →
    Keyed groupId group.toBybitOcoGroup
  legs : ∀ {orderLinkId groupId}, registry.ocoLegToGroup orderLinkId = some groupId →
    ∃ group, registry.ocoGroups groupId = some group ∧
      (orderLinkId = group.tpOrderLinkId ∨ orderLinkId = group.slOrderLinkId)
  groups : ∀ {groupId group}, registry.ocoGroups groupId = some group →
    registry.ocoLegToGroup group.tpOrderLinkId = some groupId ∧
      registry.ocoLegToGroup group.slOrderLinkId = some groupId
  placing : ∀ {orderLinkId}, orderLinkId ∈ registry.placingOcoOrderLinkIds →
    registry.ocoLegToGroup orderLinkId = none
  pending : registry.pendingOcoFilledOrderLinkIds ⊆ registry.placingOcoOrderLinkIds

variable {registry after : OcoRegistry} {groupId orderLinkId : String} {group : RegisteredOcoGroup}

namespace Consistent

theorem initially : Consistent {} where
  keyed := by
    intro groupId group found
    cases found
  legs := by
    intro orderLinkId groupId leg
    cases leg
  groups := by
    intro groupId group found
    cases found
  placing := by
    intro orderLinkId _
    rfl
  pending := Finset.Subset.refl _

theorem leg_is_link_id (consistent : registry.Consistent)
    (leg : registry.ocoLegToGroup orderLinkId = some groupId) : IsLinkId groupId orderLinkId := by
  obtain ⟨group, found, own⟩ := consistent.legs leg
  have keyed := consistent.keyed found
  rwa [keyed.takeProfit, keyed.stopLoss] at own

theorem leg_iff (consistent : registry.Consistent) :
    registry.ocoLegToGroup orderLinkId = some groupId ↔
      (registry.ocoGroups groupId).isSome ∧ IsLinkId groupId orderLinkId := by
  constructor
  · intro leg
    obtain ⟨group, found, _⟩ := consistent.legs leg
    exact ⟨by rw [found]; rfl, consistent.leg_is_link_id leg⟩
  · rintro ⟨registered, own⟩
    obtain ⟨group, found⟩ := Option.isSome_iff_exists.1 registered
    have mapped := consistent.groups found
    have keyed := consistent.keyed found
    rw [keyed.takeProfit, keyed.stopLoss] at mapped
    rcases own with rfl | rfl
    · exact mapped.1
    · exact mapped.2

/-- While a link id is being placed, its group is not registered. -/
theorem unregistered (consistent : registry.Consistent) (own : IsLinkId groupId orderLinkId)
    (placing : orderLinkId ∈ registry.placingOcoOrderLinkIds) :
    registry.ocoGroups groupId = none := by
  rw [← Option.not_isSome_iff_eq_none]
  intro registered
  have mapped := consistent.leg_iff.2 ⟨registered, own⟩
  rw [consistent.placing placing] at mapped
  cases mapped

theorem of_leg_iff
    (keyed : ∀ {groupId group}, registry.ocoGroups groupId = some group →
      Keyed groupId group.toBybitOcoGroup)
    (legs : ∀ {orderLinkId groupId}, registry.ocoLegToGroup orderLinkId = some groupId ↔
      (registry.ocoGroups groupId).isSome ∧ IsLinkId groupId orderLinkId)
    (placing : ∀ {orderLinkId}, orderLinkId ∈ registry.placingOcoOrderLinkIds →
      registry.ocoLegToGroup orderLinkId = none)
    (pending : registry.pendingOcoFilledOrderLinkIds ⊆ registry.placingOcoOrderLinkIds) :
    registry.Consistent where
  keyed := keyed
  legs := by
    intro orderLinkId groupId leg
    obtain ⟨registered, own⟩ := legs.1 leg
    obtain ⟨group, found⟩ := Option.isSome_iff_exists.1 registered
    have known := keyed found
    refine ⟨group, found, ?_⟩
    rwa [known.takeProfit, known.stopLoss]
  groups := by
    intro groupId group found
    have known := keyed found
    have registered : (registry.ocoGroups groupId).isSome := by rw [found]; rfl
    rw [known.takeProfit, known.stopLoss]
    exact ⟨legs.2 ⟨registered, .inl rfl⟩, legs.2 ⟨registered, .inr rfl⟩⟩
  placing := placing
  pending := pending

/-! Each section keeps the containers consistent. -/

theorem clear (consistent : registry.Consistent) (takeProfitOrderLinkId stopLossOrderLinkId : String) :
    (registry.clearOcoPlacementRegistration takeProfitOrderLinkId stopLossOrderLinkId).Consistent where
  keyed := consistent.keyed
  legs := consistent.legs
  groups := consistent.groups
  placing := fun member =>
    consistent.placing (Finset.mem_of_mem_erase (Finset.mem_of_mem_erase member))
  pending := Finset.erase_subset_erase _ (Finset.erase_subset_erase _ consistent.pending)

theorem register (consistent : registry.Consistent)
    {groupId takeProfitOrderLinkId stopLossOrderLinkId : String}
    (registered : registry.registerOcoPlacement groupId takeProfitOrderLinkId stopLossOrderLinkId =
      .ok after) : after.Consistent := by
  obtain ⟨_, inactive, same⟩ := except_bind_ok.1 registered
  rw [throw_if_ok, IsActive, not_or, not_or, not_or, not_or] at inactive
  obtain ⟨_, _, takeProfitLeg, stopLossLeg⟩ := inactive
  cases same
  refine ⟨consistent.keyed, consistent.legs, consistent.groups, ?_, ?_⟩
  · intro orderLinkId member
    rcases Finset.mem_insert.1 member with rfl | member
    · exact Option.not_isSome_iff_eq_none.1 stopLossLeg
    rcases Finset.mem_insert.1 member with rfl | member
    · exact Option.not_isSome_iff_eq_none.1 takeProfitLeg
    · exact consistent.placing member
  · exact consistent.pending.trans ((Finset.subset_insert _ _).trans (Finset.subset_insert _ _))

theorem write (consistent : registry.Consistent) (found : registry.ocoGroups groupId = some group)
    {written : RegisteredOcoGroup} (same : written.toBybitOcoGroup = group.toBybitOcoGroup) :
    (registry.writeGroup groupId written).Consistent := by
  have registered : ∀ other, ((registry.writeGroup groupId written).ocoGroups other).isSome =
      (registry.ocoGroups other).isSome := by
    intro other
    by_cases own : other = groupId
    · subst own
      rw [write_group_own, found]
      rfl
    · rw [write_group_other own]
  apply of_leg_iff
  · intro other known lookup
    by_cases own : other = groupId
    · subst own
      rw [write_group_own] at lookup
      cases lookup
      rw [same]
      exact consistent.keyed found
    · rw [write_group_other own] at lookup
      exact consistent.keyed lookup
  · intro orderLinkId other
    rw [registered]
    exact consistent.leg_iff
  · exact consistent.placing
  · exact consistent.pending

theorem erase (consistent : registry.Consistent) (groupId : String) :
    (registry.eraseGroup groupId (takeProfitLinkId groupId)
      (stopLossLinkId groupId)).Consistent := by
  apply of_leg_iff
  · intro other known lookup
    by_cases own : other = groupId
    · subst own
      rw [erase_group_own] at lookup
      cases lookup
    · rw [erase_group_other own] at lookup
      exact consistent.keyed lookup
  · intro orderLinkId other
    rw [erase_group_leg]
    by_cases own : other = groupId
    · subst own
      rw [erase_group_own]
      apply iff_of_false
      · intro leg
        split_ifs at leg with linked
        exact linked (consistent.leg_is_link_id leg)
      · rintro ⟨⟨⟩, _⟩
    · rw [erase_group_other own]
      split_ifs with linked
      · apply iff_of_false
        · exact nofun
        · rintro ⟨_, otherOwn⟩
          exact own (link_id_group otherOwn linked)
      · exact consistent.leg_iff
  · intro orderLinkId member
    rw [erase_group_leg]
    split_ifs
    · rfl
    · exact consistent.placing member
  · exact consistent.pending

theorem create (consistent : registry.Consistent) {placed : BybitOcoGroup}
    (keyed : Keyed placed.groupId placed) :
    (registry.createOcoGroup placed).Consistent := by
  have linked : ∀ orderLinkId,
      (orderLinkId = placed.tpOrderLinkId ∨ orderLinkId = placed.slOrderLinkId) ↔
        IsLinkId placed.groupId orderLinkId := by
    intro orderLinkId
    rw [keyed.takeProfit, keyed.stopLoss, IsLinkId]
  apply of_leg_iff
  · intro other known lookup
    by_cases own : other = placed.groupId
    · subst own
      rw [create_group_own] at lookup
      cases lookup
      exact keyed
    · rw [create_group_other own] at lookup
      exact consistent.keyed lookup
  · intro orderLinkId other
    rw [create_group_leg]
    by_cases own : other = placed.groupId
    · subst own
      rw [create_group_own]
      split_ifs with isLinkId
      · exact iff_of_true rfl ⟨rfl, (linked _).1 isLinkId⟩
      · apply iff_of_false
        · intro leg
          exact isLinkId ((linked _).2 (consistent.leg_is_link_id leg))
        · exact fun claimed => isLinkId ((linked _).2 claimed.2)
    · rw [create_group_other own]
      split_ifs with isLinkId
      · apply iff_of_false
        · rintro ⟨⟩
          exact own rfl
        · rintro ⟨_, otherOwn⟩
          exact own (link_id_group otherOwn ((linked _).1 isLinkId))
      · exact consistent.leg_iff
  · intro orderLinkId member
    obtain ⟨notStopLoss, notTakeProfit, placing⟩ := mem_clear_placing.1 member
    rw [create_group_leg, if_neg (not_or.2 ⟨notTakeProfit, notStopLoss⟩)]
    exact consistent.placing placing
  · exact (consistent.clear placed.tpOrderLinkId placed.slOrderLinkId).pending

end Consistent

end OcoRegistry

end CryptoDeal.DealService.Bybit
