import CryptoDeal.DealService.OcoGroupLife

/-!
# Reused group ids

`processOcoUpdate` and `cancelOco` look their group up by its id again after their
network calls. A call that took its group up before a newer one was made under the
same id then works on the newer group, and leaves it alone only where it finds
nothing to change.
-/

namespace CryptoDeal.DealService.Bybit

open DecimalText DecimalConverter Interaction

variable {rounding : NearestRounding} {fromChars : String → Option Decimal}

/-- The call took up the group: a fill for `processOcoUpdate`, or the copy of `cancelOco`. -/
def TakesGroup (groupId : String) (threadId : ThreadId) : OcoEvent → Prop
  | .performed actor (.startOcoUpdate _) (some (other, _)) => actor = threadId ∧ other = groupId
  | .performed actor (.findOcoGroup other) (.ok _) => actor = threadId ∧ other = groupId
  | _ => False

def Finishes (groupId : String) (threadId : ThreadId) : OcoEvent → Prop
  | .performed actor (.finishOcoUpdate other _) _ => actor = threadId ∧ other = groupId
  | .performed actor (.removeOcoGroup other _) _ => actor = threadId ∧ other = groupId
  | _ => False

/-- A newer group was made under the id since the call took up the earlier one. -/
def Outdated (groupId : String) (threadId : ThreadId) (steps : List (OcoStep rounding fromChars)) :
    Prop :=
  ∃ later taking earlier, steps = later ++ taking :: earlier ∧
    TakesGroup groupId threadId taking.2 ∧
      ∃ creation ∈ later, ∃ creator, CreatesGroup groupId creator creation.2

def LeavesGroup (groupId : String) (before after : OcoRegistry) : Prop :=
  after.ocoGroups groupId = before.ocoGroups groupId ∧ ∀ orderLinkId, IsLinkId groupId orderLinkId →
    after.ocoLegToGroup orderLinkId = before.ocoLegToGroup orderLinkId

/-- No group is registered under the id; or it is open with this very error, and the network part
failed. -/
def FindsNothingToChange (registry : OcoRegistry) (groupId : String) : OcoEvent → Prop
  | .performed _ (.finishOcoUpdate _ (some error)) _ => ∀ group,
      registry.ocoGroups groupId = some group → group.closing = false ∧ group.lastError = error
  | _ => registry.ocoGroups groupId = none

/-- No step of an outdated call alters the newer group. -/
def ReuseIsolated : List (OcoStep rounding fromChars) → OcoState rounding fromChars → Prop
  | [], _ => True
  | (before, event) :: earlier, after =>
      (∀ groupId threadId, Finishes groupId threadId event → Outdated groupId threadId earlier →
        LeavesGroup groupId before.shared after.shared) ∧ ReuseIsolated earlier before

/-- No outdated call finds a newer group that it would change. -/
def MeetsNoNewerGroup : List (OcoStep rounding fromChars) → Prop
  | [] => True
  | (before, event) :: earlier =>
      (∀ groupId threadId, Finishes groupId threadId event → Outdated groupId threadId earlier →
        FindsNothingToChange before.shared groupId event) ∧ MeetsNoNewerGroup earlier

section Step

variable {before after : OcoRegistry} {phase next : OcoPhase} {effect : OcoEffect}
  {answer : effect.Answer} {groupId : String} {threadId actor : ThreadId}

theorem leaves_group_refl (groupId : String) (registry : OcoRegistry) :
    LeavesGroup groupId registry registry :=
  ⟨rfl, fun _ _ => rfl⟩

theorem erase_alters {group : RegisteredOcoGroup} {tpOrderLinkId slOrderLinkId : String}
    (found : before.ocoGroups groupId = some group) :
    ¬ LeavesGroup groupId before (before.eraseGroup groupId tpOrderLinkId slOrderLinkId) := by
  rintro ⟨same, _⟩
  rw [OcoRegistry.erase_group_own, found] at same
  cases same

/-- A call's last section leaves the group under its id alone exactly if it finds nothing to
change. -/
theorem OcoMove.leaves_group_iff (move : OcoMove before phase effect answer after next)
    (finishes : Finishes groupId threadId (.performed actor effect answer)) :
    LeavesGroup groupId before after ↔
      FindsNothingToChange before groupId (.performed actor effect answer) := by
  cases move with
  | @vanished other otherLegQuery cancelError missing =>
      obtain ⟨_, rfl⟩ := finishes
      apply iff_of_true (leaves_group_refl _ _)
      cases cancelError with
      | none => exact missing
      | some error =>
          intro group found
          rw [missing] at found
          cases found
  | @settled other otherLegQuery group found =>
      obtain ⟨_, rfl⟩ := finishes
      apply iff_of_false (erase_alters found)
      intro (missing : before.ocoGroups other = none)
      rw [missing] at found
      cases found
  | @failed other error otherLegQuery group found =>
      obtain ⟨_, rfl⟩ := finishes
      constructor
      · rintro ⟨same, _⟩ known knownFound
        rw [OcoRegistry.write_group_own, knownFound] at same
        cases same
        exact ⟨rfl, rfl⟩
      · intro nothing
        obtain ⟨isOpen, sameError⟩ := nothing group found
        refine ⟨?_, fun _ _ => rfl⟩
        rw [OcoRegistry.write_group_own, found, ← isOpen, ← sameError]
  | @removed other ocoGroup group found =>
      obtain ⟨_, rfl⟩ := finishes
      apply iff_of_false (erase_alters found)
      intro (missing : before.ocoGroups other = none)
      rw [missing] at found
      cases found
  | gone missing =>
      obtain ⟨_, rfl⟩ := finishes
      exact iff_of_true (leaves_group_refl _ _) missing
  | network network => cases effect <;> first | exact finishes.elim | cases network
  | _ => exact finishes.elim

end Step

/-- Newer groups are left alone throughout a run exactly if no outdated call finds one that it
would change. -/
theorem reuse_isolated_iff {steps : List (OcoStep rounding fromChars)}
    {state : OcoState rounding fromChars} (run : OcoRun rounding fromChars steps state) :
    ReuseIsolated steps state ↔ MeetsNoNewerGroup steps := by
  induction run with
  | start => exact Iff.rfl
  | @step steps before after event run moves ih =>
      rw [ReuseIsolated, MeetsNoNewerGroup, ih]
      apply and_congr_left'
      refine forall_congr' fun groupId => forall_congr' fun threadId => ?_
      apply imp_congr_right
      intro finishes
      apply imp_congr_right
      intro _
      cases event with
      | started _ _ => exact finishes.elim
      | performed actor effect answer => exact (oco_run_moves run moves).leaves_group_iff finishes

/-! ## A newer group removed -/

/-- A fill is taken up, the group cancelled, and its id placed again. -/
def reuseScript : List (Command OcoCall) :=
  [.start 2 (.cancelOco { symbol := "BTCUSDT", listClientOrderId := some "g" }), .act 2 4] ++
    placementScript 3 ++ [.act 1 1]

def reused : OcoState roundHalfUp readDecimal := scripted (fillScript ++ reuseScript)

theorem reused_run :
    ∃ more earlier, OcoRun roundHalfUp readDecimal earlier (scripted fillScript) ∧
      OcoRun roundHalfUp readDecimal (more ++ earlier) reused := by
  obtain ⟨earlier, run⟩ := scripted_run fillScript
  obtain ⟨more, later⟩ := oco_script_runs prompt_network_standard run reuseScript
  refine ⟨more, earlier, run, ?_⟩
  rw [reused, scripted, List.foldl_append]
  exact later

theorem newer_group_left_alone_iff :
    ∃ steps, OcoRun roundHalfUp readDecimal steps reused ∧
      (ReuseIsolated steps reused ↔ MeetsNoNewerGroup steps) := by
  obtain ⟨more, earlier, _, run⟩ := reused_run
  exact ⟨_, run, reuse_isolated_iff run⟩

def stopLegQuery : OrderQuery where
  symbol := "BTCUSDT"
  orderId := some "order g_SL"
  clientOrderId := some "g_SL"

def outdatedUpdate : Thread (ocoSystem roundHalfUp readDecimal) where
  call := .processOcoUpdate "g_TP"
  history := [⟨.cancelOrder stopLegQuery, .ok {}⟩,
    ⟨.startOcoUpdate "g_TP", some ("g", stopLegQuery)⟩]
  current := .request (.finishOcoUpdate "g" none) .returned

theorem outdated_update_found : reused.threads 1 = some outdatedUpdate := by
  with_unfolding_all rfl

def createsNamed (groupId : String) : Sigma OcoEffect.Answer → Bool
  | ⟨.placement (.createOcoGroup group), _⟩ => decide (group.groupId = groupId)
  | _ => false

theorem reused_outdated {more earlier : List (OcoStep roundHalfUp readDecimal)}
    (first : OcoRun roundHalfUp readDecimal earlier (scripted fillScript))
    (run : OcoRun roundHalfUp readDecimal (more ++ earlier) reused) :
    Outdated "g" 1 (more ++ earlier) := by
  have taken : ⟨.startOcoUpdate "g_TP", some ("g", stopLegQuery)⟩ ∈
      (scripted fillScript).historyOf 1 := by
    have history : (scripted fillScript).historyOf 1 =
        [⟨.startOcoUpdate "g_TP", some ("g", stopLegQuery)⟩] := by with_unfolding_all rfl
    rw [history]
    exact List.mem_cons_self
  obtain ⟨taking, takingMember, takes⟩ := first.mem_history.1 taken
  obtain ⟨later, before, rfl⟩ := List.append_of_mem takingMember
  have made : (reused.historyOf 3).any (createsNamed "g") = true := by decide +kernel
  obtain ⟨⟨effect, answer⟩, made, creates⟩ := List.any_eq_true.1 made
  obtain ⟨creation, creationMember, same⟩ := run.mem_history.1 made
  refine ⟨more ++ later, taking, before, by rw [List.append_assoc], ?_, creation, ?_, 3, ?_⟩
  · rw [takes]
    exact ⟨rfl, rfl⟩
  · rcases List.mem_append.1 creationMember with new | old
    · exact List.mem_append_left _ new
    · have known := first.mem_history.2 ⟨creation, old, same⟩
      rw [Threads.history_of_fresh (by rfl)] at known
      cases known
  · rw [same]
    unfold createsNamed at creates
    split at creates
    next group pending known =>
        cases known
        exact ⟨of_decide_eq_true creates, rfl⟩
    next => cases creates

theorem newer_group_removed :
    ∃ (steps : List (OcoStep roundHalfUp readDecimal)) (after : OcoState roundHalfUp readDecimal),
      OcoRun roundHalfUp readDecimal steps after ∧ ¬ ReuseIsolated steps after ∧
        (reused.shared.ocoGroups "g").isSome ∧ after.shared.ocoGroups "g" = none := by
  obtain ⟨more, earlier, first, run⟩ := reused_run
  have registered : (reused.shared.ocoGroups "g").isSome := by decide +kernel
  have performed : OcoEffect.Performs reused.shared (.finishOcoUpdate "g" none)
      (reused.shared.finishOcoUpdate "g" none).1 (reused.shared.finishOcoUpdate "g" none).2 := rfl
  have finished := run.step (.perform outdated_update_found rfl performed)
  have gone : (reused.shared.finishOcoUpdate "g" none).2.ocoGroups "g" = none := by decide +kernel
  refine ⟨_, _, finished, ?_, registered, gone⟩
  rintro ⟨kept, _⟩
  have same := (kept "g" 1 ⟨rfl, rfl⟩ (reused_outdated first run)).1
  have missing : reused.shared.ocoGroups "g" = none := same.symm.trans gone
  rw [missing] at registered
  cases registered

end CryptoDeal.DealService.Bybit
