import CryptoDeal.Async.BalanceCatalog

/-!
# Live updates go on

While live updates are requested, each exchange has a start task that leads on, an
active retry timer, a queued notification or a stream that was last seen connecting
or connected, unless a step relied on a start task that had read that the request
was withdrawn.
-/

namespace CryptoDeal.Async

open DealService OrderSession

/-- The task's completion handles the stream's status or schedules a retry, as long as live
updates stay requested. -/
def StartTask.leadsOn : StartTask → Bool
  | .created | .starting | .started | .finished (.ok true) | .finished (.error _) => true
  | .withdrawing | .finished (.ok false) => false

namespace BalanceEntry

/-- `liveUpdateStatus` is the stream's status as last handled since the start of live updates. -/
def GoesOn (entry : BalanceEntry) : Prop :=
  (∃ task, entry.liveStart = some task ∧ task.leadsOn = true) ∨ entry.liveRetryTimer.isSome ∨
    0 < entry.queuedNotifications ∨ entry.liveUpdateStatus = .connecting ∨
    entry.liveUpdateStatus = .connected

/-- The start task in flight has read that the request was withdrawn, and nothing else is queued. -/
def Withdrawn (entry : BalanceEntry) : Prop :=
  (∃ task, entry.liveStart = some task ∧ task.leadsOn = false) ∧ entry.queuedNotifications = 0

structure Sound (requested : Bool) (entry : BalanceEntry) : Prop where
  unrequested (withdrawn : requested = false) : entry.liveRetryTimer = none ∧
    entry.liveUpdateStatus ≠ .connecting ∧ entry.liveUpdateStatus ≠ .connected
  retrying (active : entry.liveRetryTimer.isSome) : entry.liveUpdateStatus = .retryWaiting

variable {entry after : BalanceEntry} {requested : Bool} {error : String}
  {stream : StreamReading}

theorem start_retry_timer_active (entry : BalanceEntry) :
    entry.startRetryTimer.liveRetryTimer.isSome := by
  unfold startRetryTimer
  split
  next active => exact active
  next =>
      have inside : min entry.liveRetryAttempt (liveRetryDelaysMs.length - 1) <
          liveRetryDelaysMs.length := by
        have : liveRetryDelaysMs.length = 5 := rfl
        omega
      simp [List.getElem?_eq_getElem inside]

theorem schedule_live_retry_goes_on : (entry.scheduleLiveRetry true error).GoesOn :=
  .inr (.inl (start_retry_timer_active entry))

theorem schedule_live_retry_sound (sound : entry.Sound requested) :
    (entry.scheduleLiveRetry requested error).Sound requested := by
  unfold scheduleLiveRetry
  cases requested with
  | false => exact sound
  | true => exact ⟨nofun, fun _ => rfl⟩

theorem handle_status_goes_on : (entry.handleUserStreamStatusChanged true stream).GoesOn := by
  unfold handleUserStreamStatusChanged
  cases stream.status with
  | connecting => exact .inr (.inr (.inr (.inl rfl)))
  | connected => exact .inr (.inr (.inr (.inr rfl)))
  | error => exact schedule_live_retry_goes_on
  | stopped => exact schedule_live_retry_goes_on

theorem handle_status_sound (sound : entry.Sound requested) :
    (entry.handleUserStreamStatusChanged requested stream).Sound requested := by
  unfold handleUserStreamStatusChanged
  cases requested with
  | false => exact sound
  | true =>
      cases stream.status with
      | connecting => exact ⟨nofun, nofun⟩
      | connected => exact ⟨nofun, nofun⟩
      | error => exact schedule_live_retry_sound sound
      | stopped => exact schedule_live_retry_sound sound

theorem complete_start_sound {outcome : Except ServiceFailure Bool}
    (sound : entry.Sound requested) :
    (completeStart requested stream outcome entry).Sound requested := by
  unfold completeStart
  cases outcome with
  | error failure =>
      cases requested with
      | false => exact sound
      | true => exact schedule_live_retry_sound sound
  | ok started =>
      dsimp only
      split
      · exact handle_status_sound sound
      · exact sound

/-- A start goes on exactly if it does not rely on a start task that gives up. -/
theorem start_live_update_goes_on_iff (unarmed : entry.liveRetryTimer = none)
    (unconnected : entry.liveUpdateStatus ≠ .connecting ∧ entry.liveUpdateStatus ≠ .connected) :
    (entry.startLiveUpdate true).GoesOn ↔ ¬entry.Withdrawn := by
  unfold startLiveUpdate
  cases standing : entry.liveStart with
  | none =>
      refine iff_of_true (.inl ⟨.created, rfl, rfl⟩) ?_
      rintro ⟨⟨task, found, -⟩, -⟩
      rw [standing] at found
      cases found
  | some task =>
      unfold GoesOn Withdrawn
      simp only [standing, unarmed, unconnected, if_true, Option.isSome_some,
        Option.some.injEq, exists_eq_left', Option.isSome_none, Bool.false_eq_true, or_false,
        false_or, not_and, Nat.pos_iff_ne_zero]
      cases task.leadsOn <;> simp

theorem start_live_update_sound (sound : entry.Sound requested) :
    (entry.startLiveUpdate requested).Sound requested := by
  unfold startLiveUpdate
  cases requested with
  | false => exact sound
  | true =>
      rw [if_pos rfl]
      split
      · exact sound
      · exact ⟨nofun, nofun⟩

theorem stop_live_update_sound (entry : BalanceEntry) : entry.stopLiveUpdate.Sound false :=
  ⟨fun _ => ⟨rfl, nofun, nofun⟩, nofun⟩

end BalanceEntry

section

variable {entry after : BalanceEntry} {requested : Bool} {event : EntryEvent}

theorem EntryStep.sound (step : EntryStep requested entry event after)
    (sound : entry.Sound requested) : after.Sound requested := by
  cases step with
  | timerExpired active =>
      refine BalanceEntry.start_live_update_sound ⟨fun withdrawn => ?_, nofun⟩
      exact ⟨rfl, (sound.unrequested withdrawn).2⟩
  | completed stream finished =>
      exact BalanceEntry.complete_start_sound ⟨sound.unrequested, sound.retrying⟩
  | handled stream queued =>
      exact BalanceEntry.handle_status_sound ⟨sound.unrequested, sound.retrying⟩
  | _ => exact ⟨sound.unrequested, sound.retrying⟩

/-- What is left when the start task in flight gives up. -/
theorem BalanceEntry.GoesOn.otherwise {task : StartTask} (goes : entry.GoesOn)
    (standing : entry.liveStart = some task) (gives_up : task.leadsOn = false)
    (liveStart : Option StartTask) : { entry with liveStart }.GoesOn := by
  refine .inr (goes.resolve_left ?_)
  rintro ⟨other, found, leads⟩
  rw [Option.some.inj (standing.symm.trans found)] at gives_up
  exact absurd (gives_up.symm.trans leads) nofun

theorem EntryStep.goes_on_iff (step : EntryStep true entry event after)
    (sound : entry.Sound true) (goes : entry.GoesOn) :
    after.GoesOn ↔ ¬(event = .timerExpired ∧ entry.Withdrawn) := by
  have kept {other : EntryEvent} (goes : after.GoesOn) (apart : other ≠ .timerExpired) :
      after.GoesOn ↔ ¬(other = .timerExpired ∧ entry.Withdrawn) :=
    iff_of_true goes fun expired => apart expired.1
  cases step with
  | timerExpired active =>
      have waiting := sound.retrying active
      simp only [true_and]
      exact BalanceEntry.start_live_update_goes_on_iff rfl (by simp [waiting])
  | requestRead created => exact kept (.inl ⟨.starting, rfl, rfl⟩) nofun
  | startThrew failure running => exact kept (.inl ⟨_, rfl, rfl⟩) nofun
  | streamStarted starting => exact kept (.inl ⟨_, rfl, rfl⟩) nofun
  | requestReadAgain started => exact kept (.inl ⟨.finished (.ok true), rfl, rfl⟩) nofun
  | streamStopped withdrawing => exact kept (goes.otherwise withdrawing rfl _) nofun
  | @completed outcome stream finished =>
      refine kept ?_ nofun
      cases outcome with
      | error failure => exact BalanceEntry.schedule_live_retry_goes_on
      | ok started =>
          cases started with
          | true => exact BalanceEntry.handle_status_goes_on
          | false => exact goes.otherwise finished rfl none
  | notified => exact kept (.inr (.inr (.inl (Nat.succ_pos _)))) nofun
  | handled stream queued => exact kept BalanceEntry.handle_status_goes_on nofun

end

namespace BalanceCatalog

def Sound (catalog : BalanceCatalog) : Prop :=
  ∀ exchangerType, (catalog.entries exchangerType).Sound catalog.liveUpdatesRequested

/-- Live updates, once requested, go on for each exchange. -/
def GoesOn (catalog : BalanceCatalog) : Prop :=
  catalog.liveUpdatesRequested = true →
    ∀ exchangerType, (catalog.entries exchangerType).GoesOn

/-- A start of live updates or a retry that leaves an exchange to a start task that gives up. -/
def LeavesToWithdrawn (before : BalanceCatalog) : LiveEvent → Prop
  | .startLiveUpdates =>
      before.liveUpdatesRequested = false ∧
        ∃ exchangerType, (before.entries exchangerType).Withdrawn
  | .entry exchangerType .timerExpired => (before.entries exchangerType).Withdrawn
  | .entry _ _ | .stopLiveUpdates => False

variable {before after catalog : BalanceCatalog} {event : LiveEvent}
  {steps : List (BalanceCatalog × LiveEvent)}

theorem Moves.sound (moves : before.Moves event after) (sound : before.Sound) : after.Sound := by
  cases moves with
  | startLiveUpdates =>
      unfold BalanceCatalog.startLiveUpdates
      split
      · exact sound
      next unrequested =>
          intro exchangerType
          have unarmed := (sound exchangerType).unrequested (Bool.eq_false_iff.mpr unrequested)
          exact BalanceEntry.start_live_update_sound
            ⟨nofun, fun active => absurd (unarmed.1 ▸ active) nofun⟩
  | stopLiveUpdates =>
      unfold BalanceCatalog.stopLiveUpdates
      split
      · exact fun exchangerType => BalanceEntry.stop_live_update_sound _
      · exact sound
  | entry exchangerType step =>
      intro other
      by_cases own : other = exchangerType
      · subst own
        simp only [Function.update_self]
        exact step.sound (sound other)
      · simp only [Function.update_of_ne own]
        exact sound other

theorem start_live_updates_goes_on_iff (sound : before.Sound) (goes : before.GoesOn) :
    before.startLiveUpdates.GoesOn ↔ ¬before.LeavesToWithdrawn .startLiveUpdates := by
  unfold BalanceCatalog.startLiveUpdates LeavesToWithdrawn
  split
  next requested => exact iff_of_true goes fun left => absurd (requested.symm.trans left.1) nofun
  next unrequested =>
      have unrequested := Bool.eq_false_iff.mpr unrequested
      have each (exchangerType : ExchangerType) :
          ((before.entries exchangerType).startLiveUpdate true).GoesOn ↔
            ¬(before.entries exchangerType).Withdrawn := by
        have unarmed := (sound exchangerType).unrequested unrequested
        exact BalanceEntry.start_live_update_goes_on_iff unarmed.1 unarmed.2
      simp only [GoesOn, each, unrequested, true_and, forall_true_left, not_exists]

theorem Moves.goes_on_iff (moves : before.Moves event after) (sound : before.Sound)
    (goes : before.GoesOn) : after.GoesOn ↔ ¬before.LeavesToWithdrawn event := by
  cases moves with
  | startLiveUpdates => exact start_live_updates_goes_on_iff sound goes
  | stopLiveUpdates =>
      refine iff_of_true ?_ id
      unfold BalanceCatalog.stopLiveUpdates
      split
      · nofun
      · exact goes
  | @entry event after exchangerType step =>
      have left : before.LeavesToWithdrawn (.entry exchangerType event) ↔
          event = .timerExpired ∧ (before.entries exchangerType).Withdrawn := by
        cases event <;> simp [LeavesToWithdrawn]
      rw [left]
      by_cases requested : before.liveUpdatesRequested = true
      · rw [requested] at step
        have sound := sound exchangerType
        rw [requested] at sound
        rw [← step.goes_on_iff sound (goes requested exchangerType)]
        constructor
        · intro later
          have own := later requested exchangerType
          simpa only [Function.update_self] using own
        · intro own _ other
          by_cases same : other = exchangerType
          · subst same
            simpa only [Function.update_self] using own
          · simp only [Function.update_of_ne same]
            exact goes requested other
      · refine iff_of_true (fun still => absurd still requested) ?_
        rintro ⟨rfl, -⟩
        cases step with
        | timerExpired active =>
            have unarmed := ((sound exchangerType).unrequested (Bool.eq_false_iff.mpr requested)).1
            rw [unarmed] at active
            cases active

end BalanceCatalog

section

variable {steps : List (BalanceCatalog × LiveEvent)} {catalog : BalanceCatalog}

theorem LiveRun.sound (run : LiveRun steps catalog) : catalog.Sound := by
  induction run with
  | start => exact fun _ => ⟨fun _ => ⟨rfl, nofun, nofun⟩, nofun⟩
  | step run moves ih => exact moves.sound ih

/-- The catalogs that a run goes through. -/
def reached (steps : List (BalanceCatalog × LiveEvent)) (catalog : BalanceCatalog) :
    List BalanceCatalog :=
  catalog :: steps.map (·.1)

/-- Live updates go on throughout a run exactly if no step of it leaves an exchange to a start
task that gives up. -/
theorem live_updates_go_on_iff (run : LiveRun steps catalog) :
    (∀ before ∈ reached steps catalog, before.GoesOn) ↔
      ∀ step ∈ steps, ¬step.1.LeavesToWithdrawn step.2 := by
  induction run with
  | start => exact iff_of_true (fun before among => by cases among with
      | head => nofun
      | tail _ none => cases none) nofun
  | @step steps before after event run moves ih =>
      have later : reached ((before, event) :: steps) after = after :: reached steps before := rfl
      rw [later, List.forall_mem_cons, List.forall_mem_cons, ih]
      refine and_congr_left fun kept => ?_
      exact moves.goes_on_iff run.sound (ih.mpr kept before List.mem_cons_self)

theorem retried_run_goes_on :
    ∃ (steps : List (BalanceCatalog × LiveEvent)) (catalog : BalanceCatalog),
      steps.map (·.2) = [.entry .binance .timerExpired,
        .entry .binance (.completed ⟨.stopped, ""⟩),
        .entry .binance (.startThrew (.runtime "refused")), .startLiveUpdates] ∧
      ∀ before ∈ reached steps catalog, before.GoesOn := by
  have requested := LiveRun.start.step .startLiveUpdates
  have threw := requested.step (.entry .binance (.startThrew (.runtime "refused") (.inl rfl)))
  have armed := threw.step (.entry .binance (.completed ⟨.stopped, ""⟩ rfl))
  have retried := armed.step (.entry .binance (.timerExpired rfl))
  refine ⟨_, _, rfl, (live_updates_go_on_iff retried).mpr ?_⟩
  simp only [List.forall_mem_cons]
  refine ⟨?_, id, id, fun left => ?_, nofun⟩
  · rintro ⟨⟨task, found, -⟩, -⟩
    cases found
  · obtain ⟨-, exchangerType, ⟨task, found, -⟩, -⟩ := left
    cases found

/-- Live updates are stopped and started again before the first start task has delivered that it
gave up. -/
theorem restart_left_to_withdrawn :
    ∃ (steps : List (BalanceCatalog × LiveEvent)) (catalog : BalanceCatalog),
      LiveRun steps catalog ∧
      steps.map (·.2) = [.entry .binance (.completed ⟨.stopped, ""⟩), .startLiveUpdates,
        .entry .binance .requestRead, .stopLiveUpdates, .startLiveUpdates] ∧
      catalog.liveUpdatesRequested = true ∧
      catalog.entries .binance = { liveUpdateStatus := .stopped } ∧
      ¬∀ before ∈ reached steps catalog, before.GoesOn := by
  have requested := LiveRun.start.step .startLiveUpdates
  have withdrawn := requested.step .stopLiveUpdates
  have read := withdrawn.step (.entry .binance (.requestRead rfl))
  have again := read.step .startLiveUpdates
  have completed := again.step (.entry .binance (.completed ⟨.stopped, ""⟩ rfl))
  refine ⟨_, _, completed, rfl, rfl, rfl, fun goes => ?_⟩
  obtain ⟨task, found, -⟩ | active | queued | connecting | connected :=
    goes _ List.mem_cons_self rfl .binance
  · cases found
  · cases active
  · exact absurd queued (Nat.not_lt_zero _)
  · cases connecting
  · cases connected

end

end CryptoDeal.Async
