import CryptoDeal.OperationChain.DefinitionSchema
import CryptoDeal.OperationChain.OperationChainRunManager

/-!
# The records of the run manager

A record never falls behind what it showed: it is the snapshot of its run, or an
earlier one that was not the last. It is the run's own last snapshot when the
worker has finished, however the worker did.
-/

namespace CryptoDeal

open DealService Interaction

def RunProgram.Publishes (held : OperationChainSnapshot) (reported : Bool) : RunProgram → Prop
  | .real program =>
      Interaction.Publishes ChainEffect.publishing RevisionAdvances held reported program
  | .simulated program =>
      Interaction.Publishes SimulatedEffect.publishing RevisionAdvances held reported program

section Programs

variable {program moved : RunProgram} {held snapshot : OperationChainSnapshot} {reported : Bool}

theorem RunProgram.Publishes.silent (publishes : program.Publishes held reported)
    (moves : program.Moves .silent moved) : moved.Publishes held reported := by
  generalize silent : Publishing.silent = publishing at moves
  cases moves with
  | real answer => exact Interaction.Publishes.silent publishes silent.symm answer
  | simulated answer => exact Interaction.Publishes.silent publishes silent.symm answer

theorem RunProgram.Publishes.stores (publishes : program.Publishes held reported)
    (moves : program.Moves (.stores snapshot) moved) :
    RevisionAdvances held snapshot ∧ moved.Publishes snapshot false := by
  generalize stores : Publishing.stores snapshot = publishing at moves
  cases moves with
  | real answer => exact Interaction.Publishes.stores publishes stores.symm answer
  | simulated answer => exact Interaction.Publishes.stores publishes stores.symm answer

theorem RunProgram.Publishes.reports (publishes : program.Publishes held reported)
    (moves : program.Moves (.reports snapshot) moved) :
    snapshot = held ∧ moved.Publishes held true := by
  generalize reports : Publishing.reports snapshot = publishing at moves
  cases moves with
  | real answer => exact Interaction.Publishes.reports publishes reports.symm answer
  | simulated answer => exact Interaction.Publishes.reports publishes reports.symm answer

theorem RunProgram.Publishes.returned (publishes : program.Publishes held reported)
    (ended : program.outcome = some (.ok ())) : reported = true := by
  cases program with
  | real program =>
      cases program with
      | returned result => exact Interaction.Publishes.returned publishes
      | threw failure => cases ended
      | request effect next => cases ended
  | simulated program =>
      cases program with
      | returned result => exact Interaction.Publishes.returned publishes
      | threw failure => cases ended
      | request effect next => cases ended

end Programs

/-! ## The invariant -/

def RunRecord.shows (record : RunRecord) : OperationChainSnapshot := record.snapshot.chainSnapshot

/-- The record shows the run's snapshot, or an earlier one that the run went on from. -/
def Follows (record : RunRecord) (worker : RunWorker) : Prop :=
  record.shows = worker.snapshot ∨
    record.shows.revision < worker.snapshot.revision ∧ record.shows.status.isTerminal = false

def WorkerPhase.Sound (record : RunRecord) (worker : RunWorker) : WorkerPhase → Prop
  | .waiting => record.shows = worker.snapshot ∧ worker.program.Publishes worker.snapshot true
  | .executing => ∃ reported, worker.program.Publishes worker.snapshot reported ∧
      (reported → record.shows = worker.snapshot)
  | .updating snapshot =>
      snapshot = worker.snapshot ∧ worker.program.Publishes worker.snapshot true
  | .catching => True
  | .finished => record.shows = worker.snapshot

structure RunSound (record : RunRecord) (worker : RunWorker) : Prop where
  follows : Follows record worker
  phase : worker.phase.Sound record worker
  cancellationWorkers :
    record.cancellationWorkers ≤ if record.snapshot.cancellationRequested then 1 else 0

theorem WorkerPhase.Sound.of_shows {record changed : RunRecord} {worker : RunWorker}
    {phase : WorkerPhase} (sound : phase.Sound record worker)
    (same : changed.shows = record.shows) : phase.Sound changed worker := by
  cases phase with
  | waiting | executing | finished =>
      simp only [WorkerPhase.Sound] at sound ⊢
      rw [same]
      exact sound
  | updating snapshot => exact sound
  | catching => trivial

/-- Each run has a record and a worker. -/
inductive Paired : Option RunRecord → Option RunWorker → Prop where
  | absent : Paired none none
  | present {record : RunRecord} {worker : RunWorker} (sound : RunSound record worker) :
      Paired (some record) (some worker)

structure ManagerSound (state : RunManagerState) : Prop where
  paired : ∀ runId, Paired (state.manager.runs runId) (state.workers runId)
  sequenced : 0 < state.manager.nextUpdateSequence

section Sound

variable {state : RunManagerState} {manager : OperationChainRunManager}
  {runId : OperationChainRunId} {record changed : RunRecord} {worker moved : RunWorker}

theorem ManagerSound.of_worker (sound : ManagerSound state)
    (present : state.workers runId = some worker) :
    ∃ record, state.manager.runs runId = some record ∧ RunSound record worker := by
  have paired := sound.paired runId
  rw [present] at paired
  cases found : state.manager.runs runId with
  | none =>
      rw [found] at paired
      cases paired
  | some record =>
      rw [found] at paired
      cases paired with
      | present sound => exact ⟨record, rfl, sound⟩

theorem ManagerSound.of_record (sound : ManagerSound state)
    (found : state.manager.runs runId = some record) :
    ∃ worker, state.workers runId = some worker ∧ RunSound record worker := by
  have paired := sound.paired runId
  rw [found] at paired
  cases present : state.workers runId with
  | none =>
      rw [present] at paired
      cases paired
  | some worker =>
      rw [present] at paired
      cases paired with
      | present sound => exact ⟨worker, rfl, sound⟩

theorem paired_update {runs : OperationChainRunId → Option RunRecord}
    {workers : OperationChainRunId → Option RunWorker}
    (paired : ∀ runId, Paired (runs runId) (workers runId)) (sound : RunSound changed moved)
    (other : OperationChainRunId) :
    Paired (Function.update runs runId (some changed) other)
      (Function.update workers runId (some moved) other) := by
  by_cases same : other = runId
  · subst same
    simpa using Paired.present sound
  · simpa [same] using paired other

/-- A worker moves, and its record stays. -/
theorem ManagerSound.move (sound : ManagerSound state)
    (found : state.manager.runs runId = some record) (moves : RunSound record moved) :
    ManagerSound (state.withWorker runId moved) where
  paired := by
    have paired : ∀ other, Paired (Function.update state.manager.runs runId (some record) other)
        (Function.update state.workers runId (some moved) other) :=
      paired_update sound.paired moves
    rw [← found, Function.update_eq_self] at paired
    exact paired
  sequenced := sound.sequenced

/-- A record is revised, and its worker may move. -/
theorem ManagerSound.revise (sound : ManagerSound state)
    (revised : Revised state.manager runId record changed manager)
    (moves : RunSound changed moved) :
    ManagerSound ((state.withManager manager).withWorker runId moved) where
  paired := by
    rw [revised.after]
    exact paired_update sound.paired moves
  sequenced := by
    rw [revised.after]
    exact Nat.succ_pos _

/-- A record is revised, and its worker stays. -/
theorem ManagerSound.revise_alone (sound : ManagerSound state)
    (revised : Revised state.manager runId record changed manager)
    (present : state.workers runId = some worker) (kept : RunSound changed worker) :
    ManagerSound (state.withManager manager) where
  paired := by
    have paired := (sound.revise revised kept).paired
    simp only [RunManagerState.withWorker, RunManagerState.withManager] at paired
    rw [← present, Function.update_eq_self] at paired
    exact paired
  sequenced := (sound.revise revised kept).sequenced

theorem ManagerSound.start (sound : ManagerSound state) {snapshot : OperationChainRunSnapshot}
    (started : Started state.manager snapshot manager)
    (same : snapshot.chainSnapshot = worker.snapshot)
    (publishes : worker.program.Publishes worker.snapshot true) (waiting : worker.phase = .waiting) :
    ManagerSound ((state.withManager manager).withWorker snapshot.runId worker) where
  paired := by
    rw [started.after]
    refine paired_update sound.paired ⟨.inl same, ?_, Nat.zero_le _⟩
    rw [waiting]
    exact ⟨same, publishes⟩
  sequenced := by
    rw [started.after]
    exact Nat.succ_pos _

theorem ManagerSound.refuse (sound : ManagerSound state) (refused : Refused state.manager manager) :
    ManagerSound (state.withManager manager) where
  paired := by
    show ∀ runId, Paired (manager.runs runId) (state.workers runId)
    rw [refused.runs]
    exact sound.paired
  sequenced := sound.sequenced.trans_le refused.nextUpdateSequence

theorem ManagerSound.owing (sound : ManagerSound state)
    (changed : Option OperationChainRunSnapshot) : ManagerSound (state.owing changed) :=
  ⟨sound.paired, sound.sequenced⟩

/-! ## What a record keeps -/

/-- What a record shows later. -/
structure RecordKept (record later : RunRecord) : Prop where
  revision : record.shows.revision ≤ later.shows.revision
  terminal : record.shows.status.isTerminal → later.shows.status = record.shows.status
  cancellationRequested : record.snapshot.cancellationRequested →
    later.snapshot.cancellationRequested

theorem RecordKept.refl (record : RunRecord) : RecordKept record record :=
  ⟨le_rfl, fun _ => rfl, fun requested => requested⟩

theorem RecordKept.trans {last : RunRecord} (first : RecordKept record changed)
    (second : RecordKept changed last) : RecordKept record last where
  revision := first.revision.trans second.revision
  terminal := by
    intro terminal
    have same := first.terminal terminal
    rw [← same] at terminal
    exact (second.terminal terminal).trans same
  cancellationRequested requested :=
    second.cancellationRequested (first.cancellationRequested requested)

/-- Every run of the first manager is one of the second, and its record is kept. -/
def RunsKept (first second : OperationChainRunManager) : Prop :=
  ∀ runId record, first.runs runId = some record →
    ∃ later, second.runs runId = some later ∧ RecordKept record later

theorem RunsKept.of_runs {first second : OperationChainRunManager}
    (same : second.runs = first.runs) : RunsKept first second := by
  intro runId record found
  exact ⟨record, by rw [same, found], .refl record⟩

theorem RunsKept.trans {first second third : OperationChainRunManager}
    (early : RunsKept first second) (late : RunsKept second third) : RunsKept first third := by
  intro runId record found
  obtain ⟨between, found, kept⟩ := early runId record found
  obtain ⟨later, found, keptOn⟩ := late runId between found
  exact ⟨later, found, kept.trans keptOn⟩

theorem Revised.keeps {first : OperationChainRunManager}
    (revised : Revised first runId record changed manager) (kept : RecordKept record changed) :
    RunsKept first manager := by
  intro other found same
  rw [revised.after]
  by_cases here : other = runId
  · subst here
    rw [revised.found] at same
    cases same
    exact ⟨changed, Function.update_self _ _ _, kept⟩
  · exact ⟨found, by simpa [here] using same, .refl found⟩

theorem Started.keeps {first : OperationChainRunManager} {snapshot : OperationChainRunSnapshot}
    (started : Started first snapshot manager) : RunsKept first manager := by
  intro other found same
  have here : other ≠ snapshot.runId := by
    rintro rfl
    rw [started.fresh] at same
    cases same
  rw [started.after]
  exact ⟨found, by simpa [here] using same, .refl found⟩

/-! ## Steps -/

/-- `updateRun` with the run's own snapshot brings the record up to it. -/
theorem update_run_catches_up {result : Except ServiceFailure (Option OperationChainRunSnapshot)}
    (sound : ManagerSound state) (found : state.manager.runs runId = some record)
    (run : RunSound record worker)
    (updated : state.manager.updateRun runId worker.snapshot = (result, manager)) :
    ∃ changed : RunRecord, changed.shows = worker.snapshot ∧ RecordKept record changed ∧
      changed.snapshot.cancellationRequested = record.snapshot.cancellationRequested ∧
      changed.cancellationWorkers = record.cancellationWorkers ∧
      (manager = state.manager ∧ changed = record ∨
        Revised state.manager runId record changed manager) := by
  cases result with
  | error failure =>
      exact absurd (OperationChainRunManager.update_run_error updated).2 sound.sequenced.ne'
  | ok snapshot =>
      cases snapshot with
      | none =>
          obtain ⟨same, older⟩ := OperationChainRunManager.update_run_none updated
          have shows : record.shows = worker.snapshot := by
            rcases run.follows with shows | ⟨behind, _⟩
            · exact shows
            · exact absurd (older record found) (not_le.2 behind)
          exact ⟨record, shows, .refl record, rfl, rfl, .inl ⟨same, rfl⟩⟩
      | some snapshot =>
          obtain ⟨earlier, revised, newer, rfl⟩ := OperationChainRunManager.update_run_some updated
          have same := revised.found
          rw [found] at same
          cases same
          have unended : record.shows.status.isTerminal = false := by
            rcases run.follows with shows | ⟨_, live⟩
            · rw [RunRecord.shows] at shows
              rw [shows] at newer
              exact absurd newer (lt_irrefl _)
            · exact live
          refine ⟨_, ?_, ?_, ?_, ?_, .inr revised⟩
          · rfl
          · refine ⟨newer.le, fun terminal => ?_, fun requested => requested⟩
            rw [unended] at terminal
            cases terminal
          · rfl
          · rfl

/-- The caller of `updateRun` moves on, with its record at its own snapshot. -/
theorem ManagerSound.update {result : Except ServiceFailure (Option OperationChainRunSnapshot)}
    (sound : ManagerSound state) (present : state.workers runId = some worker)
    (updated : state.manager.updateRun runId worker.snapshot = (result, manager))
    (phase : WorkerPhase)
    (entered : ∀ changed : RunRecord, changed.shows = worker.snapshot →
      phase.Sound changed { worker with phase }) :
    ManagerSound ((state.withManager manager).withWorker runId { worker with phase }) ∧
      RunsKept state.manager manager := by
  obtain ⟨record, found, run⟩ := sound.of_worker present
  obtain ⟨changed, shows, kept, requested, workers, revised⟩ :=
    update_run_catches_up sound found run updated
  have moves : RunSound changed { worker with phase } := by
    refine ⟨.inl shows, entered changed shows, ?_⟩
    rw [requested, workers]
    exact run.cancellationWorkers
  rcases revised with ⟨rfl, rfl⟩ | revised
  · exact ⟨sound.move found moves, .of_runs rfl⟩
  · exact ⟨sound.revise revised moves, revised.keeps kept⟩

theorem RunManagerStep.keeps {mayEnd : Prop} {after : RunManagerState}
    (step : RunManagerStep mayEnd state after) (sound : ManagerSound state) :
    ManagerSound after ∧ RunsKept state.manager after.manager := by
  cases step with
  | attach | detach | requestStop => exact ⟨⟨sound.paired, sound.sequenced⟩, .of_runs rfl⟩
  | notify => exact ⟨⟨sound.paired, sound.sequenced⟩, .of_runs rfl⟩
  | startRun starts =>
      obtain ⟨started, same, definition, _, built⟩ :=
        OperationChainRunManager.start_run_ok starts
      obtain ⟨operations, _, created⟩ := except_bind_ok.1 built
      have publishes := OperationChain.execute_publishes created
      refine ⟨.owing (sound.start started same ?_ rfl) _, started.keeps⟩
      exact publishes
  | startRunThrows threw =>
      have refused := OperationChainRunManager.start_run_error threw
      exact ⟨sound.refuse refused, .of_runs refused.runs⟩
  | startSimulatedRun starts =>
      obtain ⟨started, same, created⟩ := OperationChainRunManager.start_simulated_run_ok starts
      have publishes := SimulatedOperationChainRun.execute_publishes created
      refine ⟨.owing (sound.start started same ?_ rfl) _, started.keeps⟩
      exact publishes
  | startSimulatedRunThrows threw =>
      have refused := OperationChainRunManager.start_simulated_run_error threw
      exact ⟨sound.refuse refused, .of_runs refused.runs⟩
  | @cancel runId threadStarts changed manager requested =>
      cases changed with
      | none =>
          cases OperationChainRunManager.request_run_cancellation_none requested
          exact ⟨sound.owing _, .of_runs rfl⟩
      | some snapshot =>
          obtain ⟨record, changed, revised, rfl, unrequested, live, shows, cancelling, workers⟩ :=
            OperationChainRunManager.request_run_cancellation_some requested
          obtain ⟨worker, present, run⟩ := sound.of_record revised.found
          have same : changed.shows = record.shows := shows
          have kept : RecordKept record changed := by
            refine ⟨same ▸ le_rfl, fun _ => by rw [same], fun _ => cancelling⟩
          have sounds : RunSound changed worker := by
            refine ⟨?_, ?_, ?_⟩
            · unfold Follows
              rw [same]
              exact run.follows
            · exact run.phase.of_shows same
            · have idle := run.cancellationWorkers
              rw [unrequested] at idle
              rw [cancelling]
              exact workers.trans (Nat.succ_le_succ idle)
          exact ⟨(sound.revise_alone revised present sounds).owing _, revised.keeps kept⟩
  | cancelThrows threw =>
      cases OperationChainRunManager.request_run_cancellation_error threw
      exact ⟨sound, .of_runs rfl⟩
  | begin present waiting running =>
      obtain ⟨record, found, run⟩ := sound.of_worker present
      have phase := run.phase
      rw [waiting] at phase
      refine ⟨sound.move found ⟨run.follows, ?_, run.cancellationWorkers⟩, .of_runs rfl⟩
      exact ⟨true, phase.2, fun _ => phase.1⟩
  | giveUp present waiting stopping =>
      obtain ⟨record, found, run⟩ := sound.of_worker present
      have phase := run.phase
      rw [waiting] at phase
      exact ⟨sound.move found ⟨run.follows, phase.1, run.cancellationWorkers⟩, .of_runs rfl⟩
  | act present executing moves =>
      obtain ⟨record, found, run⟩ := sound.of_worker present
      have phase := run.phase
      rw [executing] at phase
      obtain ⟨reported, publishes, shows⟩ := phase
      refine ⟨sound.move found ⟨run.follows, ?_, run.cancellationWorkers⟩, .of_runs rfl⟩
      rw [executing]
      exact ⟨reported, publishes.silent moves, shows⟩
  | store present executing moves =>
      obtain ⟨record, found, run⟩ := sound.of_worker present
      have phase := run.phase
      rw [executing] at phase
      obtain ⟨reported, publishes, shows⟩ := phase
      obtain ⟨⟨raised, live⟩, publishes⟩ := publishes.stores moves
      refine ⟨sound.move found ⟨.inr ?_, ?_, run.cancellationWorkers⟩, .of_runs rfl⟩
      · rw [raised, Nat.lt_succ_iff]
        rcases run.follows with shows | ⟨behind, unended⟩
        · rw [shows]
          exact ⟨le_rfl, live⟩
        · exact ⟨behind.le, unended⟩
      · rw [executing]
        exact ⟨false, publishes, fun reported => by cases reported⟩
  | report present executing moves =>
      obtain ⟨record, found, run⟩ := sound.of_worker present
      have phase := run.phase
      rw [executing] at phase
      obtain ⟨reported, publishes, shows⟩ := phase
      have reports := publishes.reports moves
      exact ⟨sound.move found ⟨run.follows, reports, run.cancellationWorkers⟩, .of_runs rfl⟩
  | update present updating updated =>
      obtain ⟨record, found, run⟩ := sound.of_worker present
      have phase := run.phase
      rw [updating] at phase
      obtain ⟨rfl, publishes⟩ := phase
      have moves := sound.update present updated .executing fun changed shows =>
        ⟨true, publishes, fun _ => shows⟩
      exact ⟨moves.1.owing _, moves.2⟩
  | returned present executing ended =>
      obtain ⟨record, found, run⟩ := sound.of_worker present
      have phase := run.phase
      rw [executing] at phase
      obtain ⟨reported, publishes, shows⟩ := phase
      have shown := shows (publishes.returned ended)
      exact ⟨sound.move found ⟨run.follows, shown, run.cancellationWorkers⟩, .of_runs rfl⟩
  | threw present executing ended =>
      obtain ⟨record, found, run⟩ := sound.of_worker present
      exact ⟨sound.move found ⟨run.follows, trivial, run.cancellationWorkers⟩, .of_runs rfl⟩
  | caught present catching updated =>
      have moves := sound.update present updated .finished fun changed shows => shows
      exact ⟨moves.1.owing _, moves.2⟩

end Sound

theorem RunManagerReaches.sound {mayEnd : Prop} {definitions : List OperationChainDefinition}
    {state : RunManagerState} (reached : RunManagerReaches mayEnd definitions state) :
    ManagerSound state := by
  induction reached with
  | refl => exact ⟨fun _ => .absent, Nat.one_pos⟩
  | tail _ step ih => exact (step.keeps ih).1

theorem runs_kept_along {mayEnd : Prop} {state after : RunManagerState}
    (sound : ManagerSound state) (goes : Relation.ReflTransGen (RunManagerStep mayEnd) state after) :
    ManagerSound after ∧ RunsKept state.manager after.manager := by
  induction goes with
  | refl => exact ⟨sound, .of_runs rfl⟩
  | tail _ step ih =>
      obtain ⟨later, kept⟩ := step.keeps ih.1
      exact ⟨later, ih.2.trans kept⟩

/-- A run that is over or being cancelled is not cancelled again. -/
def CancelsOnce (manager : OperationChainRunManager) : Prop :=
  ∀ runId record threadStarts, manager.runs runId = some record →
    record.cancellationWorkers ≤ 1 ∧
      (record.snapshot.cancellationRequested ∨ record.shows.status.isTerminal →
        (manager.requestRunCancellation runId threadStarts).2 = manager ∧
          ∀ changed, (manager.requestRunCancellation runId threadStarts).1 = .ok changed →
            changed = none)

/-- A start that throws leaves no run behind. -/
def StartsWhole (manager : OperationChainRunManager) : Prop :=
  (∀ definitionName createdAt thread failure changed,
    manager.startRun definitionName createdAt thread = (.error failure, changed) →
      changed.runs = manager.runs) ∧
    ∀ plan createdAt thread failure changed,
      manager.startSimulatedRun plan createdAt thread = (.error failure, changed) →
        changed.runs = manager.runs

theorem ManagerSound.cancels_once {state : RunManagerState} (sound : ManagerSound state) :
    CancelsOnce state.manager := by
  intro runId record threadStarts found
  obtain ⟨worker, _, run⟩ := sound.of_record found
  refine ⟨run.cancellationWorkers.trans (by split_ifs <;> omega), fun settled => ?_⟩
  cases requested : state.manager.requestRunCancellation runId threadStarts with
  | mk result after =>
      cases result with
      | error failure =>
          refine ⟨OperationChainRunManager.request_run_cancellation_error requested, ?_⟩
          intro changed ended
          cases ended
      | ok changed =>
          cases changed with
          | none =>
              refine ⟨OperationChainRunManager.request_run_cancellation_none requested, ?_⟩
              rintro _ ⟨⟩
              rfl
          | some snapshot =>
              obtain ⟨live, _, revised, _, unrequested, running, _⟩ :=
                OperationChainRunManager.request_run_cancellation_some requested
              have same := revised.found
              rw [found] at same
              cases same
              rcases settled with cancelling | terminal
              · rw [unrequested] at cancelling
                cases cancelling
              · rw [RunRecord.shows, running] at terminal
                cases terminal

theorem starts_whole (manager : OperationChainRunManager) : StartsWhole manager :=
  ⟨fun _ _ _ _ _ threw => (OperationChainRunManager.start_run_error threw).runs,
    fun _ _ _ _ _ threw => (OperationChainRunManager.start_simulated_run_error threw).runs⟩

/-- The records of a manager through any interleaving, from any state that it can reach. -/
theorem run_records_keep_integrity {mayEnd : Prop} {definitions : List OperationChainDefinition}
    {state after : RunManagerState} (reached : RunManagerReaches mayEnd definitions state)
    (goes : Relation.ReflTransGen (RunManagerStep mayEnd) state after) :
    RunsKept state.manager after.manager ∧
      (∀ runId worker, after.workers runId = some worker → worker.phase = .finished →
        ∃ record, after.manager.runs runId = some record ∧ record.shows = worker.snapshot) ∧
      CancelsOnce after.manager ∧ StartsWhole after.manager := by
  obtain ⟨sound, kept⟩ := runs_kept_along reached.sound goes
  refine ⟨kept, ?_, sound.cancels_once, starts_whole _⟩
  intro runId worker present finished
  obtain ⟨record, found, run⟩ := sound.of_worker present
  have phase := run.phase
  rw [finished] at phase
  exact ⟨record, found, phase⟩

section Example

open DefinitionLoader

def bitcoinManager : RunManagerState where
  manager := { definitions := [buyBitcoinDefinition], runChangeHandler := true }

/-- A run that is cancelled before its worker begins. -/
theorem cancelled_run_intact :
    ∃ (state : RunManagerState) (worker : RunWorker), state.workers 1 = some worker ∧
      worker.phase = .finished ∧ worker.snapshot.status = .cancelled ∧
      RunsKept bitcoinManager.manager state.manager ∧
      (∀ runId worker, state.workers runId = some worker → worker.phase = .finished →
        ∃ record, state.manager.runs runId = some record ∧ record.shows = worker.snapshot) ∧
      CancelsOnce state.manager ∧ StartsWhole state.manager := by
  have reached : RunManagerReaches False [buyBitcoinDefinition] bitcoinManager :=
    .single (.attach rfl)
  have started : Relation.ReflTransGen (RunManagerStep False) bitcoinManager _ :=
    .single (@RunManagerStep.startRun False _ "Unique chain name" 0 (.ok ()) _ _ _ rfl)
  have cancelling := started.tail (@RunManagerStep.cancel False _ 1 true _ _ rfl)
  have executing := cancelling.tail (@RunManagerStep.begin False _ 1 _ rfl rfl rfl)
  have polled := executing.tail (@RunManagerStep.act False _ 1 _ _ rfl rfl
    (@RunProgram.Moves.real .isCancellationRequested _ true))
  have timed := polled.tail (@RunManagerStep.act False _ 1 _ _ rfl rfl
    (@RunProgram.Moves.real .clock _ (1 : ℤ)))
  have stored := timed.tail (@RunManagerStep.store False _ 1 _ _ _ rfl rfl
    (@RunProgram.Moves.real (.store _) _ ()))
  have resolved := stored.tail (@RunManagerStep.act False _ 1 _ _ rfl rfl
    (@RunProgram.Moves.real .finishChain _ ()))
  have reported := resolved.tail (@RunManagerStep.report False _ 1 _ _ _ rfl rfl
    (@RunProgram.Moves.real (.notifyStateChanged _) _ ()))
  have updated := reported.tail (@RunManagerStep.update False _ 1 _ _ _ _ rfl rfl rfl)
  have finished := updated.tail (@RunManagerStep.returned False _ 1 _ rfl rfl rfl)
  exact ⟨_, _, rfl, rfl, rfl, run_records_keep_integrity reached finished⟩

end Example

end CryptoDeal
