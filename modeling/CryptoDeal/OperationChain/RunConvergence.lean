import Mathlib.Order.WithBot
import CryptoDeal.Library.RankedCell
import CryptoDeal.OperationChain.RunIntegrity

/-!
# The run list

`OperationChainRunModel` merges the snapshots that it reads and is notified of.
Every change of a record takes the next sequence number, and the model keeps the
highest one of each run: whatever the order of the deliveries, the model ends up
with the records of the manager.
-/

namespace CryptoDeal

open DealService RankedCell

structure OperationChainRunModel where
  runs : OperationChainRunId → Option OperationChainRunSnapshot := fun _ => none

/-- Sequence numbers, above the rank of an empty cell. -/
def sequenceRank (snapshot : OperationChainRunSnapshot) : WithBot ℕ := snapshot.updateSequence

namespace OperationChainRunModel

/-- The signal that it emits is for the views. -/
def updateRun (model : OperationChainRunModel) (snapshot : OperationChainRunSnapshot) :
    OperationChainRunModel :=
  if (model.runs snapshot.runId).any fun current =>
      snapshot.updateSequence ≤ current.updateSequence then model
  else { runs := Function.update model.runs snapshot.runId (some snapshot) }

variable {model : OperationChainRunModel} {snapshot other : OperationChainRunSnapshot}
  {runId : OperationChainRunId}

/-- A run's entry is a cell that the snapshot is offered to. -/
theorem update_run_offers (model : OperationChainRunModel) (snapshot : OperationChainRunSnapshot) :
    (model.updateRun snapshot).runs =
      Function.update model.runs snapshot.runId
        (offer sequenceRank (model.runs snapshot.runId) snapshot) := by
  unfold updateRun
  cases held : model.runs snapshot.runId with
  | none => simp [offer]
  | some current =>
      have above : sequenceRank current ≠ ⊥ := WithBot.coe_ne_bot
      have ranks : sequenceRank snapshot ≤ sequenceRank current ↔
          snapshot.updateSequence ≤ current.updateSequence := WithBot.coe_le_coe
      by_cases older : snapshot.updateSequence ≤ current.updateSequence
      · rw [if_pos (by simpa using older), offer, if_pos ⟨above, ranks.2 older⟩, ← held,
          Function.update_eq_self]
      · rw [if_neg (by simpa using older), offer, if_neg fun kept => older (ranks.1 kept.2)]

/-- The model has merged this snapshot, or a later one of its run. -/
def Has (model : OperationChainRunModel) (snapshot : OperationChainRunSnapshot) : Prop :=
  sequenceRank snapshot ≤ cellRank sequenceRank (model.runs snapshot.runId)

theorem update_run_has (model : OperationChainRunModel) (snapshot : OperationChainRunSnapshot) :
    (model.updateRun snapshot).Has snapshot := by
  rw [Has, update_run_offers, Function.update_self, cell_rank_offer]
  exact le_sup_right

theorem Has.update_run (has : model.Has other) : (model.updateRun snapshot).Has other := by
  rw [Has, update_run_offers]
  by_cases same : other.runId = snapshot.runId
  · rw [same, Function.update_self, cell_rank_offer, ← same]
    exact le_sup_of_le_left has
  · rw [Function.update_of_ne same]
    exact has

theorem update_run_holds (held : (model.updateRun snapshot).runs runId = some other) :
    other = snapshot ∧ runId = snapshot.runId ∨ model.runs runId = some other := by
  rw [update_run_offers] at held
  by_cases same : runId = snapshot.runId
  · subst same
    rw [Function.update_self] at held
    rcases offer_eq_some held with rfl | kept
    · exact .inl ⟨rfl, rfl⟩
    · exact .inr kept
  · rw [Function.update_of_ne same] at held
    exact .inr held

end OperationChainRunModel

/-! ## Sequence numbers -/

/-- What a step of the manager does to its records and its notifications, unless it ends. -/
inductive RecordChange (state after : RunManagerState) : Prop where
  | kept (runs : after.manager.runs = state.manager.runs) (owed : after.owed = state.owed)
      (posted : after.posted = state.posted) (issued : after.issued = state.issued)
      (attached : state.manager.runChangeHandler → after.manager.runChangeHandler)
      (runId : state.manager.nextRunId ≤ after.manager.nextRunId)
      (sequence : state.manager.nextUpdateSequence ≤ after.manager.nextUpdateSequence)
  | notified {snapshot : OperationChainRunSnapshot} (due : snapshot ∈ state.owed)
      (after : after = state.notified snapshot)
  | changed {record : RunRecord}
      (sequence : record.snapshot.updateSequence = state.manager.nextUpdateSequence)
      (next : after.manager.nextUpdateSequence = state.manager.nextUpdateSequence + 1)
      (attached : state.manager.runChangeHandler → after.manager.runChangeHandler)
      (runId : state.manager.nextRunId ≤ after.manager.nextRunId)
      (numbered : record.snapshot.runId < after.manager.nextRunId)
      (runs : after.manager.runs =
        Function.update state.manager.runs record.snapshot.runId (some record))
      (owed : after.owed = record.snapshot :: state.owed) (posted : after.posted = state.posted)
      (issued : after.issued = record.snapshot :: state.issued)

/-- What has been issued is numbered downwards, and a run's record is its latest. -/
structure Issued (state : RunManagerState) : Prop where
  decreasing : state.issued.Pairwise fun later earlier =>
    earlier.updateSequence < later.updateSequence
  below : ∀ snapshot ∈ state.issued, snapshot.updateSequence < state.manager.nextUpdateSequence
  latest : ∀ runId, state.manager.getRun runId = state.issued.find? (·.runId = runId)
  numbered : ∀ snapshot ∈ state.issued, snapshot.runId < state.manager.nextRunId
  owed : ∀ snapshot ∈ state.owed, snapshot ∈ state.issued
  posted : ∀ snapshot ∈ state.posted, snapshot ∈ state.issued

section Issued

variable {state after : RunManagerState} {manager : OperationChainRunManager}
  {runId : OperationChainRunId} {snapshot other : OperationChainRunSnapshot}
  {record changed : RunRecord}

theorem Issued.of_run (sound : Issued state) (found : state.manager.getRun runId = some snapshot) :
    snapshot ∈ state.issued ∧ snapshot.runId = runId := by
  rw [sound.latest] at found
  exact ⟨List.mem_of_find?_eq_some found, by simpa using List.find?_some found⟩

/-- Nothing that was issued for a run is later than its record. -/
theorem Issued.newest (sound : Issued state)
    (found : state.manager.getRun runId = some snapshot) (issued : other ∈ state.issued)
    (same : other.runId = runId) :
    other = snapshot ∨ other.updateSequence < snapshot.updateSequence := by
  rw [sound.latest, List.find?_eq_some_iff_append] at found
  obtain ⟨_, later, earlier, split, unlike⟩ := found
  have decreasing := sound.decreasing
  rw [split] at issued decreasing
  rcases List.mem_append.1 issued with before | behind
  · have different := unlike other before
    simp [same] at different
  · rcases List.mem_cons.1 behind with rfl | behind
    · exact .inl rfl
    · right
      have ordered := (List.pairwise_append.1 decreasing).2.1
      exact (List.pairwise_cons.1 ordered).1 other behind

theorem Issued.eq_of_sequence (sound : Issued state) (issued : snapshot ∈ state.issued)
    (too : other ∈ state.issued) (same : snapshot.updateSequence = other.updateSequence) :
    snapshot = other := by
  have distinct : ∀ first ∈ state.issued, ∀ second ∈ state.issued,
      first.updateSequence = second.updateSequence → first = second := by
    apply List.Pairwise.forall_of_forall_of_flip
    · exact fun _ _ _ => rfl
    · exact sound.decreasing.imp fun later equal => absurd equal later.ne'
    · exact sound.decreasing.imp fun later equal => absurd equal later.ne
  exact distinct snapshot issued other too same

theorem Issued.known (sound : Issued state) (issued : snapshot ∈ state.issued) :
    (state.manager.getRun snapshot.runId).isSome := by
  rw [sound.latest, List.find?_isSome]
  exact ⟨snapshot, issued, by simp⟩

theorem Issued.run_id_of_record (sound : Issued state)
    (found : state.manager.runs runId = some record) : record.snapshot.runId = runId := by
  refine (sound.of_run ?_).2
  simp [OperationChainRunManager.getRun, found]

theorem Issued.run_lt (sound : Issued state) (found : state.manager.runs runId = some record) :
    runId < state.manager.nextRunId := by
  have shown : state.manager.getRun runId = some record.snapshot := by
    simp [OperationChainRunManager.getRun, found]
  obtain ⟨issued, same⟩ := sound.of_run shown
  rw [← same]
  exact sound.numbered _ issued

theorem get_run_update (same : after.manager.runs =
    Function.update state.manager.runs record.snapshot.runId (some record)) :
    after.manager.getRun =
      Function.update state.manager.getRun record.snapshot.runId (some record.snapshot) := by
  funext other
  by_cases here : other = record.snapshot.runId
  · simp [OperationChainRunManager.getRun, same, here]
  · simp [OperationChainRunManager.getRun, same, here]

theorem Issued.step (sound : Issued state) (change : RecordChange state after) : Issued after := by
  cases change with
  | kept runs owed posted issued _ runId sequence =>
      refine ⟨?_, ?_, ?_, ?_, ?_, ?_⟩
      · rw [issued]
        exact sound.decreasing
      · intro snapshot present
        rw [issued] at present
        exact (sound.below snapshot present).trans_le sequence
      · intro run
        rw [issued, ← sound.latest, OperationChainRunManager.getRun, runs]
        rfl
      · intro snapshot present
        rw [issued] at present
        exact (sound.numbered snapshot present).trans_le runId
      · rw [issued, owed]
        exact sound.owed
      · rw [issued, posted]
        exact sound.posted
  | @notified snapshot due same =>
      subst same
      refine ⟨sound.decreasing, sound.below, sound.latest, sound.numbered, ?_, ?_⟩
      · intro other left
        exact sound.owed other (List.mem_of_mem_erase left)
      · intro other sent
        simp only [RunManagerState.notified] at sent
        split_ifs at sent
        · rcases List.mem_cons.1 sent with rfl | sent
          · exact sound.owed other due
          · exact sound.posted other sent
        · exact sound.posted other sent
  | @changed record sequence next _ runId numbered runs owed posted issued =>
      refine ⟨?_, ?_, ?_, ?_, ?_, ?_⟩
      · rw [issued]
        refine List.pairwise_cons.2 ⟨fun earlier present => ?_, sound.decreasing⟩
        rw [sequence]
        exact sound.below earlier present
      · intro snapshot present
        rw [issued] at present
        rw [next, Nat.lt_succ_iff]
        rcases List.mem_cons.1 present with rfl | present
        · exact sequence.le
        · exact (sound.below snapshot present).le
      · intro run
        rw [issued, get_run_update runs, List.find?_cons]
        by_cases here : run = record.snapshot.runId
        · simp [here]
        · simp [here, Ne.symm here, sound.latest]
      · intro snapshot present
        rw [issued] at present
        rcases List.mem_cons.1 present with rfl | present
        · exact numbered
        · exact (sound.numbered snapshot present).trans_le runId
      · intro snapshot present
        rw [owed] at present
        rw [issued]
        rcases List.mem_cons.1 present with rfl | present
        · exact List.mem_cons_self
        · exact List.mem_cons_of_mem _ (sound.owed snapshot present)
      · intro snapshot present
        rw [posted] at present
        rw [issued]
        exact List.mem_cons_of_mem _ (sound.posted snapshot present)

theorem RecordChange.refused (refused : Refused state.manager manager) :
    RecordChange state (state.withManager manager) :=
  .kept refused.runs rfl rfl rfl refused.runChangeHandler.trans refused.nextRunId
    refused.nextUpdateSequence

theorem RecordChange.started (worker : RunWorker) (started : Started state.manager snapshot manager) :
    RecordChange state
      (((state.withManager manager).withWorker snapshot.runId worker).owing (some snapshot)) := by
  have runId := started.runId
  obtain ⟨_, _, sequence, _, rfl⟩ := started
  refine @RecordChange.changed _ _ { snapshot } sequence ?_ (fun attached => attached)
    ?_ ?_ ?_ ?_ ?_ ?_
  · rfl
  · exact Nat.le_succ _
  · exact (congrArg (· < _) runId).mpr (Nat.lt_succ_self _)
  · rfl
  · rfl
  · rfl
  · rfl

/-- Whatever the worker does meanwhile, its record is revised and the change is owed. -/
theorem RecordChange.revised (sound : Issued state)
    (revised : Revised state.manager runId record changed manager)
    (workers : OperationChainRunId → Option RunWorker) :
    RecordChange state
      (({ state with manager, workers } : RunManagerState).owing (some changed.snapshot)) := by
  have same : changed.snapshot.runId = runId :=
    revised.sameRun.trans (sound.run_id_of_record revised.found)
  have numbered := sound.run_lt revised.found
  obtain ⟨_, _, sequence, rfl⟩ := revised
  subst same
  refine .changed sequence ?_ (fun attached => attached) ?_ numbered ?_ ?_ ?_ ?_
  · rfl
  · rfl
  · rfl
  · rfl
  · rfl
  · rfl

theorem RecordChange.worker (workers : OperationChainRunId → Option RunWorker) :
    RecordChange state { state with workers } :=
  .kept rfl rfl rfl rfl (fun attached => attached) le_rfl le_rfl

theorem RecordChange.updated {chainSnapshot : OperationChainSnapshot}
    {result : Except ServiceFailure (Option OperationChainRunSnapshot)} (sound : Issued state)
    (updated : state.manager.updateRun runId chainSnapshot = (result, manager))
    (workers : OperationChainRunId → Option RunWorker) :
    RecordChange state
      (({ state with manager, workers } : RunManagerState).owing result.toOption.join) := by
  cases result with
  | error failure =>
      obtain ⟨rfl, _⟩ := OperationChainRunManager.update_run_error updated
      exact .worker workers
  | ok snapshot =>
      cases snapshot with
      | none =>
          obtain ⟨rfl, _⟩ := OperationChainRunManager.update_run_none updated
          exact .worker workers
      | some snapshot =>
          obtain ⟨record, revised, _⟩ := OperationChainRunManager.update_run_some updated
          exact .revised sound revised workers

theorem RunManagerStep.record_change (sound : Issued state)
    (step : RunManagerStep False state after) : RecordChange state after := by
  cases step with
  | attach => exact .kept rfl rfl rfl rfl (fun _ => rfl) le_rfl le_rfl
  | detach permitted | requestStop permitted => exact permitted.elim
  | startRun started => exact .started _ (OperationChainRunManager.start_run_ok started).1
  | startSimulatedRun started =>
      exact .started _ (OperationChainRunManager.start_simulated_run_ok started).1
  | startRunThrows threw => exact .refused (OperationChainRunManager.start_run_error threw)
  | startSimulatedRunThrows threw =>
      exact .refused (OperationChainRunManager.start_simulated_run_error threw)
  | @cancel runId threadStarts changed manager requested =>
      cases changed with
      | none =>
          obtain rfl := OperationChainRunManager.request_run_cancellation_none requested
          exact .worker state.workers
      | some snapshot =>
          obtain ⟨record, changed, revised, rfl, _⟩ :=
            OperationChainRunManager.request_run_cancellation_some requested
          exact .revised sound revised state.workers
  | cancelThrows threw =>
      obtain rfl := OperationChainRunManager.request_run_cancellation_error threw
      exact .worker state.workers
  | notify due => exact .notified due rfl
  | begin | giveUp | act | store | report | returned | threw => exact .worker _
  | update present updating updated => exact .updated sound updated _
  | caught present catching updated => exact .updated sound updated _

theorem issued_initial (definitions : List OperationChainDefinition) :
    Issued { manager := { definitions } } := by
  refine ⟨.nil, ?_, fun _ => rfl, ?_, ?_, ?_⟩
  all_goals
    intro snapshot present
    cases present

theorem RecordChange.stays_attached (change : RecordChange state after)
    (attached : state.manager.runChangeHandler) : after.manager.runChangeHandler := by
  cases change with
  | kept runs owed posted issued stays => exact stays attached
  | notified due same =>
      rw [same]
      exact attached
  | changed sequence next stays => exact stays attached

end Issued

/-! ## Deliveries -/

/-- The manager with its model: `reading` is what is left of the constructor's `getRuns`,
`reads` is what else was read. -/
structure RunListState where
  managed : RunManagerState
  model : OperationChainRunModel := {}
  reading : Option (List OperationChainRunSnapshot) := none
  reads : List OperationChainRunSnapshot := []
  /-- Ghost: the notifications that have been delivered. -/
  delivered : List OperationChainRunSnapshot := []

/-- Notifications are queued for the model's thread; any of them may be next, also again. -/
inductive RunListStep (state : RunListState) : RunListState → Prop where
  | manage {managed : RunManagerState} (step : RunManagerStep False state.managed managed) :
      RunListStep state { state with managed }
  | getRuns (attached : state.managed.manager.runChangeHandler) (first : state.reading = none) :
      RunListStep state { state with reading := some state.managed.manager.getRuns }
  | mergeRun {snapshot : OperationChainRunSnapshot} {rest : List OperationChainRunSnapshot}
      (reading : state.reading = some (snapshot :: rest)) :
      RunListStep state
        { state with model := state.model.updateRun snapshot, reading := some rest }
  | deliver {snapshot : OperationChainRunSnapshot} (posted : snapshot ∈ state.managed.posted) :
      RunListStep state
        { state with
          model := state.model.updateRun snapshot
          delivered := snapshot :: state.delivered }
  | getRun {runId : OperationChainRunId} {snapshot : OperationChainRunSnapshot}
      (found : state.managed.manager.getRun runId = some snapshot) :
      RunListStep state { state with reads := snapshot :: state.reads }
  | mergeRead {snapshot : OperationChainRunSnapshot} (read : snapshot ∈ state.reads) :
      RunListStep state { state with model := state.model.updateRun snapshot }

def RunListReaches (definitions : List OperationChainDefinition) (state : RunListState) : Prop :=
  Relation.ReflTransGen RunListStep { managed := { manager := { definitions } } } state

/-- Every change has been notified of, and every notification delivered. -/
structure RunListState.Delivered (state : RunListState) : Prop where
  read : state.reading = some []
  notified : state.managed.owed = []
  delivered : ∀ snapshot ∈ state.managed.posted, snapshot ∈ state.delivered

structure ListSound (state : RunListState) : Prop where
  issued : Issued state.managed
  runs : ∀ runId snapshot, state.model.runs runId = some snapshot →
    snapshot ∈ state.managed.issued ∧ snapshot.runId = runId
  reads : ∀ snapshot ∈ state.reads, snapshot ∈ state.managed.issued
  delivered : ∀ snapshot ∈ state.delivered, state.model.Has snapshot
  attached : state.reading.isSome → state.managed.manager.runChangeHandler
  reading : ∀ left, state.reading = some left → ∀ snapshot ∈ left, snapshot ∈ state.managed.issued
  /-- A record that the model misses is on its way. -/
  covered : ∀ left, state.reading = some left →
    ∀ runId snapshot, state.managed.manager.getRun runId = some snapshot →
      state.model.Has snapshot ∨ snapshot ∈ left ∨ snapshot ∈ state.managed.owed ∨
        snapshot ∈ state.managed.posted

section Deliveries

variable {state after : RunListState} {managed : RunManagerState}
  {snapshot : OperationChainRunSnapshot} {definitions : List OperationChainDefinition}

theorem RecordChange.issued_mono {state after : RunManagerState} (change : RecordChange state after)
    (present : snapshot ∈ state.issued) : snapshot ∈ after.issued := by
  cases change with
  | kept runs owed posted issued =>
      rw [issued]
      exact present
  | notified due same =>
      rw [same]
      exact present
  | changed sequence next attached runId numbered runs owed posted issued =>
      rw [issued]
      exact List.mem_cons_of_mem _ present

/-- A record on its way stays on its way, and a new one sets out. -/
theorem RecordChange.covers {state after : RunManagerState} (change : RecordChange state after)
    (attached : state.manager.runChangeHandler) (has : OperationChainRunSnapshot → Prop)
    (covered : ∀ runId snapshot, state.manager.getRun runId = some snapshot →
      has snapshot ∨ snapshot ∈ state.owed ∨ snapshot ∈ state.posted)
    {runId : OperationChainRunId} (found : after.manager.getRun runId = some snapshot) :
    has snapshot ∨ snapshot ∈ after.owed ∨ snapshot ∈ after.posted := by
  cases change with
  | kept runs owed posted =>
      rw [OperationChainRunManager.getRun, runs] at found
      rw [owed, posted]
      exact covered runId snapshot found
  | @notified notified due same =>
      subst same
      simp only [RunManagerState.notified, if_pos attached, List.mem_cons]
      rcases covered runId snapshot found with merged | waiting | sent
      · exact .inl merged
      · by_cases this : snapshot = notified
        · exact .inr (.inr (.inl this))
        · exact .inr (.inl ((List.mem_erase_of_ne this).2 waiting))
      · exact .inr (.inr (.inr sent))
  | @changed record sequence next _ _ numbered runs owed posted issued =>
      rw [get_run_update runs] at found
      rw [owed, posted, List.mem_cons]
      by_cases here : runId = record.snapshot.runId
      · rw [here, Function.update_self, Option.some.injEq] at found
        exact .inr (.inl (.inl found.symm))
      · rw [Function.update_of_ne here] at found
        rcases covered runId snapshot found with merged | waiting | sent
        · exact .inl merged
        · exact .inr (.inl (.inr waiting))
        · exact .inr (.inr sent)

theorem Issued.mem_get_runs {state : RunManagerState} (sound : Issued state) :
    snapshot ∈ state.manager.getRuns ↔
      ∃ runId, state.manager.getRun runId = some snapshot := by
  rw [OperationChainRunManager.getRuns, List.mem_filterMap]
  constructor
  · rintro ⟨runId, _, found⟩
    exact ⟨runId, found⟩
  · rintro ⟨runId, found⟩
    obtain ⟨issued, rfl⟩ := sound.of_run found
    exact ⟨snapshot.runId, List.mem_range.2 (sound.numbered snapshot issued), found⟩

theorem ListSound.manage (sound : ListSound state)
    (change : RecordChange state.managed managed) : ListSound { state with managed } where
  issued := sound.issued.step change
  runs runId snapshot held :=
    have ⟨issued, same⟩ := sound.runs runId snapshot held
    ⟨change.issued_mono issued, same⟩
  reads snapshot read := change.issued_mono (sound.reads snapshot read)
  delivered := sound.delivered
  attached reading := change.stays_attached (sound.attached reading)
  reading left same snapshot waiting := change.issued_mono (sound.reading left same snapshot waiting)
  covered := by
    intro left same runId snapshot found
    have attached := sound.attached (by simp [show state.reading = some left from same])
    have covered : ∀ runId snapshot, state.managed.manager.getRun runId = some snapshot →
        (state.model.Has snapshot ∨ snapshot ∈ left) ∨ snapshot ∈ state.managed.owed ∨
          snapshot ∈ state.managed.posted := by
      simpa only [or_assoc] using sound.covered left same
    simpa only [or_assoc] using change.covers attached
      (fun snapshot => state.model.Has snapshot ∨ snapshot ∈ left) covered found

theorem ListSound.merge (sound : ListSound state) (issued : snapshot ∈ state.managed.issued) :
    ListSound { state with model := state.model.updateRun snapshot } where
  issued := sound.issued
  runs runId other held := by
    rcases OperationChainRunModel.update_run_holds held with ⟨rfl, rfl⟩ | held
    · exact ⟨issued, rfl⟩
    · exact sound.runs runId other held
  reads := sound.reads
  delivered other delivered := (sound.delivered other delivered).update_run
  attached := sound.attached
  reading := sound.reading
  covered left same runId other found :=
    (sound.covered left same runId other found).imp_left fun has => has.update_run

theorem RunListStep.keeps (step : RunListStep state after) (sound : ListSound state) :
    ListSound after := by
  cases step with
  | manage step => exact sound.manage (step.record_change sound.issued)
  | getRuns attached first =>
      refine { sound with attached := fun _ => attached, reading := ?_, covered := ?_ }
      · rintro _ ⟨⟩ snapshot read
        obtain ⟨runId, found⟩ := sound.issued.mem_get_runs.1 read
        exact (sound.issued.of_run found).1
      · rintro _ ⟨⟩ runId snapshot found
        exact .inr (.inl (sound.issued.mem_get_runs.2 ⟨runId, found⟩))
  | @mergeRun snapshot rest reading =>
      have issued := sound.reading _ reading snapshot List.mem_cons_self
      have merged := sound.merge issued
      refine { merged with attached := ?_, reading := ?_, covered := ?_ }
      · intro _
        exact sound.attached (by simp [reading])
      · rintro _ ⟨⟩ other waiting
        exact sound.reading _ reading other (List.mem_cons_of_mem _ waiting)
      · rintro _ ⟨⟩ runId other found
        rcases merged.covered _ reading runId other found with has | waiting | sent
        · exact .inl has
        · rcases List.mem_cons.1 waiting with rfl | waiting
          · exact .inl (state.model.update_run_has other)
          · exact .inr (.inl waiting)
        · exact .inr (.inr sent)
  | @deliver snapshot posted =>
      have merged := sound.merge (sound.issued.posted snapshot posted)
      refine { merged with delivered := ?_ }
      intro other delivered
      rcases List.mem_cons.1 delivered with rfl | delivered
      · exact state.model.update_run_has other
      · exact merged.delivered other delivered
  | @getRun runId snapshot found =>
      refine { sound with reads := ?_ }
      intro other read
      rcases List.mem_cons.1 read with rfl | read
      · exact (sound.issued.of_run found).1
      · exact sound.reads other read
  | @mergeRead snapshot read => exact sound.merge (sound.reads snapshot read)

theorem list_sound_initial (definitions : List OperationChainDefinition) :
    ListSound { managed := { manager := { definitions } } } := by
  refine ⟨issued_initial definitions, ?_, ?_, ?_, ?_, ?_, ?_⟩
  · intro runId snapshot held
    cases held
  · intro snapshot read
    cases read
  · intro snapshot delivered
    cases delivered
  · intro reading
    cases reading
  · intro left reading
    cases reading
  · intro left reading
    cases reading

/-- What was issued stays issued. -/
theorem list_sound_along (sound : ListSound state)
    (goes : Relation.ReflTransGen RunListStep state after) :
    ListSound after ∧
      ∀ snapshot ∈ state.managed.issued, snapshot ∈ after.managed.issued := by
  induction goes with
  | refl => exact ⟨sound, fun _ issued => issued⟩
  | tail _ step ih =>
      refine ⟨step.keeps ih.1, fun snapshot issued => ?_⟩
      have before := ih.2 snapshot issued
      cases step with
      | manage step => exact (step.record_change ih.1.issued).issued_mono before
      | getRuns | mergeRun | deliver | getRun | mergeRead => exact before

theorem RunListReaches.sound (reached : RunListReaches definitions state) : ListSound state :=
  (list_sound_along (list_sound_initial definitions) reached).1

/-- With everything delivered, the model is what the manager holds. -/
theorem ListSound.converged (sound : ListSound state) (delivered : state.Delivered) :
    state.model.runs = state.managed.manager.getRun := by
  funext runId
  cases found : state.managed.manager.getRun runId with
  | none =>
      cases held : state.model.runs runId with
      | none => rfl
      | some stale =>
          obtain ⟨issued, rfl⟩ := sound.runs runId stale held
          have known := sound.issued.known issued
          rw [found] at known
          cases known
  | some snapshot =>
      obtain ⟨_, rfl⟩ := sound.issued.of_run found
      have has : state.model.Has snapshot := by
        rcases sound.covered [] delivered.read snapshot.runId snapshot found with
          has | left | owed | posted
        · exact has
        · cases left
        · rw [delivered.notified] at owed
          cases owed
        · exact sound.delivered snapshot (delivered.delivered snapshot posted)
      unfold OperationChainRunModel.Has at has
      cases held : state.model.runs snapshot.runId with
      | none =>
          rw [held] at has
          exact absurd (le_bot_iff.1 has) WithBot.coe_ne_bot
      | some merged =>
          rw [held] at has
          obtain ⟨issued, same⟩ := sound.runs snapshot.runId merged held
          rcases sound.issued.newest found issued same with rfl | older
          · rfl
          · exact absurd (WithBot.coe_le_coe.1 has) (not_le.2 older)

/-- Each change of a record takes a higher number than any before it, and a list that has been
told of them all holds the records. -/
theorem run_list_converges {definitions : List OperationChainDefinition}
    {state after : RunListState} (reached : RunListReaches definitions state)
    (goes : Relation.ReflTransGen RunListStep state after) :
    (after.managed.issued.Pairwise fun later earlier =>
        earlier.updateSequence < later.updateSequence) ∧
      (∀ first second earlier later, state.managed.manager.getRun first = some earlier →
        after.managed.manager.getRun second = some later →
          (earlier.updateSequence = later.updateSequence → earlier = later) ∧
            (first = second → earlier = later ∨ earlier.updateSequence < later.updateSequence)) ∧
      (after.Delivered → after.model.runs = after.managed.manager.getRun) := by
  have before := reached.sound
  obtain ⟨sound, kept⟩ := list_sound_along before goes
  refine ⟨sound.issued.decreasing, ?_, sound.converged⟩
  intro first second earlier later held found
  obtain ⟨issued, same⟩ := before.issued.of_run held
  have issued := kept earlier issued
  refine ⟨sound.issued.eq_of_sequence issued (sound.issued.of_run found).1, ?_⟩
  rintro rfl
  exact sound.issued.newest found issued same

end Deliveries

section Example

open DefinitionLoader

theorem RunManagerStep.notify_first {mayEnd : Prop} {state : RunManagerState}
    {snapshot : OperationChainRunSnapshot} {rest : List OperationChainRunSnapshot}
    (owed : state.owed = snapshot :: rest) (attached : state.manager.runChangeHandler) :
    RunManagerStep mayEnd state
      { state with owed := rest, posted := snapshot :: state.posted } := by
  have due : snapshot ∈ state.owed := by simp [owed]
  have notified := @RunManagerStep.notify mayEnd state snapshot due
  rwa [RunManagerState.notified, owed, List.erase_cons_head, if_pos attached] at notified

/-- A run is started, and the list is told of it twice. -/
theorem started_run_is_listed :
    ∃ state : RunListState, state.Delivered ∧ state.delivered.length = 2 ∧
      (state.managed.issued.Pairwise fun later earlier =>
        earlier.updateSequence < later.updateSequence) ∧
      state.model.runs = state.managed.manager.getRun := by
  have attached : RunListReaches [buyBitcoinDefinition] _ := .single (.manage (.attach rfl))
  have reading := attached.tail (.getRuns rfl rfl)
  obtain ⟨snapshot, chain, manager, runs⟩ : ∃ snapshot chain manager,
      ({ definitions := [buyBitcoinDefinition], runChangeHandler := true } :
        OperationChainRunManager).startRun "Unique chain name" 0 (.ok ()) =
          (.ok (snapshot, chain), manager) := ⟨_, _, _, rfl⟩
  have stays : manager.runChangeHandler := by
    rw [(OperationChainRunManager.start_run_ok runs).1.after]
  have started := reading.tail (.manage (.startRun runs))
  have notified := started.tail (.manage (.notify_first rfl stays))
  have delivered := notified.tail (.deliver List.mem_cons_self)
  have again := delivered.tail (.deliver List.mem_cons_self)
  obtain ⟨ordered, _, converges⟩ := run_list_converges again .refl
  refine ⟨_, ?everything, rfl, ordered, converges ?everything⟩
  exact ⟨rfl, rfl, fun _ posted => List.mem_cons_of_mem _ posted⟩

end Example

end CryptoDeal
