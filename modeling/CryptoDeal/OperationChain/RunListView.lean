import Mathlib.Data.Prod.Lex
import CryptoDeal.Library.LeastOfKey
import CryptoDeal.OperationChain.RunConvergence

/-!
# The runs that are shown

`OperationChainRunFilter` and `OperationChainRunModel::getRuns`. A list is ordered
by the last update, and by the sequence numbers and run ids where two updates have
one time. The clock may go back, so a run may move in the list either way; it does
not leave the list, and a run that was shown as over is not shown otherwise again.
-/

namespace CryptoDeal

open DealService RankedCell LeastOfKey

inductive OperationChainRunFilter where
  | active
  | completed
  | failed
  | cancelled
  | nonActive
  | all
  deriving DecidableEq

def isRunActive (status : OperationChainStatus) : Bool :=
  status = .pending || status = .running

def isRunNonActive (status : OperationChainStatus) : Bool :=
  status = .completed || status = .failed || status = .cancelled

def matchesRunFilter (run : OperationChainRunSnapshot) (filter : OperationChainRunFilter) : Bool :=
  let status := run.chainSnapshot.status
  match filter with
  | .active => isRunActive status
  | .completed => status = .completed
  | .failed => status = .failed
  | .cancelled => status = .cancelled
  | .nonActive => isRunNonActive status
  | .all => true

def isRunMoreRecent (left right : OperationChainRunSnapshot) : Bool :=
  if left.chainSnapshot.updatedAt ≠ right.chainSnapshot.updatedAt then
    left.chainSnapshot.updatedAt > right.chainSnapshot.updatedAt
  else if left.updateSequence ≠ right.updateSequence then
    left.updateSequence > right.updateSequence
  else left.runId > right.runId

def filterAndSortOperationChainRuns (runs : List OperationChainRunSnapshot)
    (filter : OperationChainRunFilter) : List OperationChainRunSnapshot :=
  (runs.filter fun run => matchesRunFilter run filter).mergeSort fun left right =>
    !isRunMoreRecent right left

/-- What the map holds, in the order of the ids. -/
def RunListState.heldRuns (state : RunListState) : List OperationChainRunSnapshot :=
  (List.range state.managed.manager.nextRunId).filterMap state.model.runs

def RunListState.getRuns (state : RunListState) (filter : OperationChainRunFilter) :
    List OperationChainRunSnapshot :=
  filterAndSortOperationChainRuns state.heldRuns filter

/-! ## The order -/

/-- The most recent run comes first. -/
def recency (run : OperationChainRunSnapshot) :
    (OperationChainTimePoint ×ₗ ℕ ×ₗ OperationChainRunId)ᵒᵈ :=
  OrderDual.toDual (toLex (run.chainSnapshot.updatedAt, toLex (run.updateSequence, run.runId)))

section Order

variable {left right : OperationChainRunSnapshot} {runs shown : List OperationChainRunSnapshot}
  {filter : OperationChainRunFilter}

theorem is_run_more_recent_iff : isRunMoreRecent left right ↔ recency left < recency right := by
  simp only [recency, OrderDual.toDual_lt_toDual, Prod.Lex.toLex_lt_toLex, isRunMoreRecent]
  split_ifs with times sequences
  · simp [Ne.symm times]
  · simp [not_not.1 times, Ne.symm sequences]
  · simp [not_not.1 times, not_not.1 sequences]

theorem not_more_recent_iff (left right : OperationChainRunSnapshot) :
    (!isRunMoreRecent right left) = true ↔ recency left ≤ recency right := by
  rw [Bool.not_eq_true', ← Bool.not_eq_true, is_run_more_recent_iff, not_lt]

theorem run_id_of_recency (same : recency left = recency right) : left.runId = right.runId := by
  have keys := toLex.injective (OrderDual.toDual.injective same)
  exact congrArg Prod.snd (toLex.injective (congrArg Prod.snd keys))

/-- Whichever algorithm sorts. -/
def Arranges (filter : OperationChainRunFilter) (runs shown : List OperationChainRunSnapshot) :
    Prop :=
  Sorts recency (runs.filter fun run => matchesRunFilter run filter) shown

theorem filter_and_sort_arranges (filter : OperationChainRunFilter)
    (runs : List OperationChainRunSnapshot) :
    Arranges filter runs (filterAndSortOperationChainRuns runs filter) where
  perm := List.mergeSort_perm _ _
  pairwise := by
    have sorted := List.pairwise_mergeSort
      (fun first second third below above => (not_more_recent_iff first third).2
        (((not_more_recent_iff first second).1 below).trans
          ((not_more_recent_iff second third).1 above)))
      (fun left right => by
        rw [Bool.or_eq_true, not_more_recent_iff, not_more_recent_iff]
        exact le_total _ _)
      (runs.filter fun run => matchesRunFilter run filter)
    exact sorted.imp (not_more_recent_iff _ _).1

theorem Arranges.mem_iff (arranges : Arranges filter runs shown) {run : OperationChainRunSnapshot} :
    run ∈ shown ↔ run ∈ runs ∧ matchesRunFilter run filter := by
  rw [arranges.perm.mem_iff, List.mem_filter]

/-- Where each run is there once, no two are level. -/
theorem Arranges.strict (arranges : Arranges filter runs shown)
    (distinct : (runs.map OperationChainRunSnapshot.runId).Nodup) :
    shown.Pairwise fun left right => recency left < recency right := by
  have once : (shown.map OperationChainRunSnapshot.runId).Nodup := by
    refine (arranges.perm.map _).nodup_iff.2 (distinct.sublist ?_)
    exact List.filter_sublist.map _
  have apart := List.pairwise_map.1 once
  apply (arranges.pairwise.and apart).imp
  rintro left right ⟨below, apart⟩
  exact below.lt_of_ne fun same => apart (run_id_of_recency same)

end Order

/-! ## What a run's snapshots keep -/

/-- What a record that shows the one keeps when it shows the other. -/
def SnapshotKept (earlier later : OperationChainRunSnapshot) : Prop :=
  RecordKept { snapshot := earlier } { snapshot := later }

/-- Each snapshot of a run keeps what those before it showed. -/
def IssuedKept (state : RunManagerState) : Prop :=
  state.issued.Pairwise fun later earlier =>
    later.runId = earlier.runId → SnapshotKept earlier later

section Kept

variable {state after : RunManagerState} {snapshot other earlier later : OperationChainRunSnapshot}

theorem RecordKept.of_snapshots {record changed : RunRecord} (kept : RecordKept record changed) :
    SnapshotKept record.snapshot changed.snapshot :=
  ⟨kept.revision, kept.terminal, kept.cancellationRequested⟩

theorem SnapshotKept.refl (snapshot : OperationChainRunSnapshot) : SnapshotKept snapshot snapshot :=
  RecordKept.refl _

theorem Issued.kept_of_sequence (sound : Issued state) (kept : IssuedKept state)
    (first : earlier ∈ state.issued) (second : later ∈ state.issued)
    (same : earlier.runId = later.runId)
    (order : earlier.updateSequence ≤ later.updateSequence) : SnapshotKept earlier later := by
  have ordered : ∀ snapshot ∈ state.issued, ∀ other ∈ state.issued,
      snapshot.runId = other.runId → snapshot.updateSequence ≤ other.updateSequence →
        SnapshotKept snapshot other := by
    apply List.Pairwise.forall_of_forall_of_flip
    · exact fun snapshot _ _ _ => .refl snapshot
    · exact sound.decreasing.imp fun below _ above => absurd above (not_le.2 below)
    · exact kept.imp fun keeps same _ => keeps same.symm
  exact ordered earlier first later second same order

/-- The record shows the last of them. -/
theorem Issued.kept_of_record (sound : Issued state) (kept : IssuedKept state)
    (found : state.manager.getRun snapshot.runId = some later) (issued : snapshot ∈ state.issued) :
    SnapshotKept snapshot later := by
  obtain ⟨shown, same⟩ := sound.of_run found
  refine sound.kept_of_sequence kept issued shown same.symm ?_
  rcases sound.newest found issued rfl with rfl | older
  · exact le_rfl
  · exact older.le

theorem IssuedKept.step (sound : Issued state) (kept : IssuedKept state)
    (change : RecordChange state after) (runs : RunsKept state.manager after.manager) :
    IssuedKept after := by
  cases change with
  | kept _ _ _ issued =>
      rw [IssuedKept, issued]
      exact kept
  | notified due same =>
      rw [IssuedKept, same]
      exact kept
  | @changed record _ _ _ _ _ updated _ _ issued =>
      rw [IssuedKept, issued, List.pairwise_cons]
      refine ⟨fun earlier before same => ?_, kept⟩
      -- The record of the run gave way to the new one.
      obtain ⟨shown, found⟩ := Option.isSome_iff_exists.1 (sound.known before)
      obtain ⟨held, present, rfl⟩ := Option.map_eq_some_iff.1 found
      obtain ⟨later, replaced, keeps⟩ := runs earlier.runId held present
      rw [updated, ← same, Function.update_self, Option.some.injEq] at replaced
      subst replaced
      exact (sound.kept_of_record kept found before).trans keeps.of_snapshots

end Kept

/-! ## Runs -/

/-- The invariant: the manager's records, what was issued of them and the list. -/
structure ViewSound (state : RunListState) : Prop where
  list : ListSound state
  manager : ManagerSound state.managed
  issued : IssuedKept state.managed

/-- The second list has no run less, and of each run the same snapshot or a later one. -/
def HeldLater (state after : RunListState) : Prop :=
  ∀ snapshot, state.model.Has snapshot → after.model.Has snapshot

section Runs

variable {state after : RunListState} {run snapshot : OperationChainRunSnapshot}
  {filter : OperationChainRunFilter} {definitions : List OperationChainDefinition}

theorem RunListStep.keeps_view (step : RunListStep state after) (sound : ViewSound state) :
    ViewSound after := by
  have list := step.keeps sound.list
  cases step with
  | manage step =>
      obtain ⟨manager, runs⟩ := step.keeps sound.manager
      exact ⟨list, manager,
        .step sound.list.issued sound.issued (step.record_change sound.list.issued) runs⟩
  | getRuns | mergeRun | deliver | getRun | mergeRead => exact ⟨list, sound.manager, sound.issued⟩

theorem RunListStep.holds_on (step : RunListStep state after) : HeldLater state after := by
  intro snapshot has
  cases step with
  | manage | getRuns | getRun => exact has
  | mergeRun | deliver | mergeRead => exact has.update_run

theorem view_sound_along (sound : ViewSound state)
    (goes : Relation.ReflTransGen RunListStep state after) :
    ViewSound after ∧ HeldLater state after := by
  induction goes with
  | refl => exact ⟨sound, fun _ has => has⟩
  | tail _ step ih =>
      exact ⟨step.keeps_view ih.1, fun snapshot has => step.holds_on snapshot (ih.2 snapshot has)⟩

theorem RunListReaches.view_sound (reached : RunListReaches definitions state) :
    ViewSound state := by
  have initial : ViewSound { managed := { manager := { definitions } } } :=
    ⟨list_sound_initial definitions, ⟨fun _ => .absent, Nat.one_pos⟩, .nil⟩
  exact (view_sound_along initial reached).1

theorem ListSound.mem_held_runs (sound : ListSound state) :
    run ∈ state.heldRuns ↔ state.model.runs run.runId = some run := by
  rw [RunListState.heldRuns, List.mem_filterMap]
  constructor
  · rintro ⟨runId, _, held⟩
    obtain ⟨_, rfl⟩ := sound.runs runId run held
    exact held
  · intro held
    have issued := (sound.runs run.runId run held).1
    exact ⟨run.runId, List.mem_range.2 (sound.issued.numbered run issued), held⟩

theorem ListSound.held_runs_distinct (sound : ListSound state) :
    (state.heldRuns.map OperationChainRunSnapshot.runId).Nodup := by
  refine List.pairwise_map.2 (List.pairwise_filterMap.2 ?_)
  apply List.nodup_range.imp
  intro first second apart left held right found
  rw [(sound.runs first left held).2, (sound.runs second right found).2]
  exact apart

theorem ListSound.mem_get_runs (sound : ListSound state) :
    run ∈ state.getRuns filter ↔
      state.model.runs run.runId = some run ∧ matchesRunFilter run filter := by
  rw [RunListState.getRuns, (filter_and_sort_arranges filter _).mem_iff, sound.mem_held_runs]

/-- One list, as the page shows it. -/
structure RunsListed (state : RunListState) (filter : OperationChainRunFilter) : Prop where
  sorted : (state.getRuns filter).Pairwise fun left right => isRunMoreRecent left right
  distinct : ((state.getRuns filter).map OperationChainRunSnapshot.runId).Nodup
  members : ∀ run, run ∈ state.getRuns filter ↔
    state.model.runs run.runId = some run ∧ matchesRunFilter run filter
  /-- No other algorithm would leave another list. -/
  unique : ∀ arranged, Arranges filter state.heldRuns arranged → arranged = state.getRuns filter

theorem ListSound.runs_listed (sound : ListSound state) (filter : OperationChainRunFilter) :
    RunsListed state filter where
  sorted := by
    have strict := (filter_and_sort_arranges filter _).strict sound.held_runs_distinct
    exact strict.imp is_run_more_recent_iff.2
  distinct := by
    have perm := (filter_and_sort_arranges filter state.heldRuns).perm
    refine (perm.map _).nodup_iff.2 (sound.held_runs_distinct.sublist ?_)
    exact List.filter_sublist.map _
  members _ := sound.mem_get_runs
  unique arranged arranges := by
    have shown := filter_and_sort_arranges filter state.heldRuns
    refine strict_unique (arranges.strict sound.held_runs_distinct)
      (shown.strict sound.held_runs_distinct) ?_
    exact fun run => arranges.mem_iff.trans shown.mem_iff.symm

theorem is_run_non_active (status : OperationChainStatus) :
    isRunNonActive status = status.isTerminal ∧ isRunActive status = !status.isTerminal := by
  cases status <;> decide

/-- Each run is either active or not. -/
theorem get_runs_partition (state : RunListState) :
    (state.getRuns .active ++ state.getRuns .nonActive).Perm (state.getRuns .all) := by
  have active := (filter_and_sort_arranges .active state.heldRuns).perm
  have nonActive := (filter_and_sort_arranges .nonActive state.heldRuns).perm
  refine (active.append nonActive).trans ?_
  refine .trans ?_ (filter_and_sort_arranges .all state.heldRuns).perm.symm
  have negated : (fun run : OperationChainRunSnapshot => matchesRunFilter run .nonActive) =
      fun run => !matchesRunFilter run .active := by
    funext run
    have ⟨ended, going⟩ := is_run_non_active run.chainSnapshot.status
    simp only [matchesRunFilter, ended, going, Bool.not_not]
  have all : (fun run : OperationChainRunSnapshot => matchesRunFilter run .all) = fun _ => true :=
    rfl
  rw [negated, all, List.filter_true]
  exact List.filter_append_perm _ _

/-- A run that is over stays in the lists that it is in. -/
theorem SnapshotKept.matches_filter {later : OperationChainRunSnapshot}
    (kept : SnapshotKept run later) (other : filter ≠ .active)
    (shown : matchesRunFilter run filter) : matchesRunFilter later filter := by
  have terminal : run.chainSnapshot.status.isTerminal →
      later.chainSnapshot.status = run.chainSnapshot.status := kept.terminal
  cases filter with
  | active => exact absurd rfl other
  | all => rfl
  | completed | failed | cancelled =>
      have status := of_decide_eq_true shown
      rw [status] at terminal
      exact decide_eq_true (terminal rfl)
  | nonActive =>
      have ended := shown
      simp only [matchesRunFilter, (is_run_non_active _).1] at ended
      simp only [matchesRunFilter, terminal ended]
      exact shown

/-- What the first list shows of a run, the second shows, or something later. -/
structure ShownLater (state after : RunListState) : Prop where
  runs : ∀ run ∈ state.getRuns .all, ∃ later ∈ after.getRuns .all, later.runId = run.runId ∧
    run.updateSequence ≤ later.updateSequence ∧ SnapshotKept run later
  stays : ∀ filter run, filter ≠ .active → run ∈ state.getRuns filter →
    ∃ later ∈ after.getRuns filter, later.runId = run.runId

theorem ViewSound.of_has (sound : ViewSound state) (has : state.model.Has run)
    (issued : run ∈ state.managed.issued) :
    ∃ later, state.model.runs run.runId = some later ∧ later.runId = run.runId ∧
      run.updateSequence ≤ later.updateSequence ∧ SnapshotKept run later := by
  unfold OperationChainRunModel.Has at has
  cases held : state.model.runs run.runId with
  | none =>
      rw [held] at has
      exact absurd (le_bot_iff.1 has) WithBot.coe_ne_bot
  | some later =>
      rw [held] at has
      obtain ⟨shown, same⟩ := sound.list.runs run.runId later held
      have order : run.updateSequence ≤ later.updateSequence := WithBot.coe_le_coe.1 has
      exact ⟨later, rfl, same, order,
        sound.list.issued.kept_of_sequence sound.issued issued shown same.symm order⟩

theorem ListSound.held_issued (sound : ListSound state)
    (held : state.model.runs run.runId = some run) :
    run ∈ state.managed.issued ∧ state.model.Has run := by
  refine ⟨(sound.runs run.runId run held).1, ?_⟩
  rw [OperationChainRunModel.Has, held]
  exact le_rfl

theorem ViewSound.shown_later (sound : ViewSound state)
    (goes : Relation.ReflTransGen RunListStep state after) : ShownLater state after := by
  obtain ⟨later, holds⟩ := view_sound_along sound goes
  have kept := (list_sound_along sound.list goes).2
  have shows : ∀ filter, ∀ run ∈ state.getRuns filter, ∃ shown,
      after.model.runs shown.runId = some shown ∧ shown.runId = run.runId ∧
        run.updateSequence ≤ shown.updateSequence ∧ SnapshotKept run shown := by
    intro filter run listed
    obtain ⟨issued, has⟩ := sound.list.held_issued (sound.list.mem_get_runs.1 listed).1
    obtain ⟨shown, held, same, order, keeps⟩ := later.of_has (holds run has) (kept run issued)
    exact ⟨shown, same.symm ▸ held, same, order, keeps⟩
  constructor
  · intro run listed
    obtain ⟨shown, held, same, order, keeps⟩ := shows .all run listed
    exact ⟨shown, later.list.mem_get_runs.2 ⟨held, rfl⟩, same, order, keeps⟩
  · intro filter run other listed
    obtain ⟨shown, held, same, _, keeps⟩ := shows filter run listed
    have matching := keeps.matches_filter other (sound.list.mem_get_runs.1 listed).2
    exact ⟨shown, later.list.mem_get_runs.2 ⟨held, matching⟩, same⟩

/-- A shown run is one of the manager's, and its record has not fallen behind what is shown. -/
def ShownOfRecords (state : RunListState) : Prop :=
  ∀ run ∈ state.getRuns .all, ∃ current, state.managed.manager.getRun run.runId = some current ∧
    run.updateSequence ≤ current.updateSequence ∧ SnapshotKept run current

theorem ViewSound.shown_of_records (sound : ViewSound state) : ShownOfRecords state := by
  intro run listed
  have issued := (sound.list.held_issued (sound.list.mem_get_runs.1 listed).1).1
  obtain ⟨current, found⟩ := Option.isSome_iff_exists.1 (sound.list.issued.known issued)
  refine ⟨current, found, ?_, sound.list.issued.kept_of_record sound.issued found issued⟩
  rcases sound.list.issued.newest found issued rfl with rfl | older
  · exact le_rfl
  · exact older.le

theorem ListSound.get_runs_delivered (sound : ListSound state) (delivered : state.Delivered)
    (filter : OperationChainRunFilter) :
    state.getRuns filter =
      filterAndSortOperationChainRuns state.managed.manager.getRuns filter := by
  rw [RunListState.getRuns, RunListState.heldRuns, sound.converged delivered]
  rfl

/-- The lists of runs through any interleaving of the manager, its workers and the deliveries. -/
theorem shown_runs_follow_records {definitions : List OperationChainDefinition}
    {state after : RunListState} (reached : RunListReaches definitions state)
    (goes : Relation.ReflTransGen RunListStep state after) :
    (∀ filter, RunsListed after filter) ∧
      (after.getRuns .active ++ after.getRuns .nonActive).Perm (after.getRuns .all) ∧
      ShownLater state after ∧ ShownOfRecords after ∧
      (after.Delivered → ∀ filter, after.getRuns filter =
        filterAndSortOperationChainRuns after.managed.manager.getRuns filter) := by
  have before := reached.view_sound
  have sound := (view_sound_along before goes).1
  exact ⟨sound.list.runs_listed, get_runs_partition after, before.shown_later goes,
    sound.shown_of_records, sound.list.get_runs_delivered⟩

end Runs

section Example

open DefinitionLoader

/-- A run that is started is shown, and its cancellation request too. -/
theorem cancelled_run_is_shown :
    ∃ state after : RunListState, after.Delivered ∧ state.heldRuns.length = 1 ∧
      (after.model.runs 1).any (·.cancellationRequested) ∧
      (∀ filter, RunsListed after filter) ∧
      (after.getRuns .active ++ after.getRuns .nonActive).Perm (after.getRuns .all) ∧
      ShownLater state after ∧ ShownOfRecords after ∧
      (after.Delivered → ∀ filter, after.getRuns filter =
        filterAndSortOperationChainRuns after.managed.manager.getRuns filter) := by
  have attached : RunListReaches [buyBitcoinDefinition] _ := .single (.manage (.attach rfl))
  have reading := attached.tail (.getRuns rfl rfl)
  have started := reading.tail
    (.manage (@RunManagerStep.startRun False _ "Unique chain name" 0 (.ok ()) _ _ _ rfl))
  have notified := started.tail (.manage (.notify_first rfl rfl))
  have delivered := notified.tail (.deliver List.mem_cons_self)
  have from_here : ∀ {state : RunListState}, RunListReaches [buyBitcoinDefinition] state →
      Relation.ReflTransGen RunListStep state state := fun _ => .refl
  have cancelling := (from_here delivered).tail
    (.manage (@RunManagerStep.cancel False _ 1 true _ _ rfl))
  have told := cancelling.tail (.manage (.notify_first rfl rfl))
  have shown := told.tail (.deliver List.mem_cons_self)
  refine ⟨_, _, ⟨rfl, rfl, ?_⟩, ?_, ?_, shown_runs_follow_records delivered shown⟩
  · intro snapshot posted
    exact posted
  · rfl
  · rfl

end Example

end CryptoDeal
