import CryptoDeal.OrderEntry.EnteredDrafts
import CryptoDeal.OrdersPage.PageRun

/-!
# The page keeps in step with the session

Between two events both tables list the session's entries as they are, what is
selected is a row of the table in front, and a button of the action bar is
enabled exactly if the session would start its action.
-/

namespace CryptoDeal.OrderSession

open DealService DecimalText OrderEntry OrderSessionModel

/-! ## What a table lists -/

/-- The entry is a row of the tab's table. -/
def SessionOrdersTab.Lists (tab : SessionOrdersTab) (entries : List Entry) (entryId : EntryId) :
    Prop :=
  ∃ entry ∈ entries, entry.id = entryId ∧
    (tab = .activeOrders → isActiveStatus entry.status = true)

theorem populate_entry_ids (entry : Entry) :
    (populateEntry entry).entryId = entry.id ∧
      ∀ child ∈ (populateEntry entry).children, child.entryId = entry.id := by
  unfold populateEntry
  cases entry.draft with
  | basic draft => exact ⟨rfl, fun child member => by cases member⟩
  | oco draft =>
      refine ⟨rfl, fun child member => ?_⟩
      simp only [populateOcoEntry, List.mem_cons, List.not_mem_nil, or_false] at member
      rcases member with rfl | rfl <;> rfl

theorem mem_item_ids {entries : List Entry} {showOnlyActiveOrders : Bool} {entryId : EntryId} :
    entryId ∈ (SessionTable.ofEntries entries showOnlyActiveOrders).itemIds ↔
      ∃ entry ∈ entries, entry.id = entryId ∧
        (showOnlyActiveOrders = true → isActiveStatus entry.status = true) := by
  have own (entry : Entry) : entryId ∈ (populateEntry entry).entryId ::
      (populateEntry entry).children.map SessionOrderColumns.entryId ↔ entry.id = entryId := by
    obtain ⟨parent, children⟩ := populate_entry_ids entry
    rw [List.mem_cons, parent, List.mem_map]
    constructor
    · rintro (same | ⟨child, member, same⟩)
      · exact same.symm
      · exact (children child member).symm.trans same
    · exact fun same => .inl same.symm
  simp only [SessionTable.itemIds, SessionTable.ofEntries, List.mem_flatMap, List.mem_map,
    List.mem_filter, Bool.or_eq_true, Bool.not_eq_true']
  constructor
  · rintro ⟨item, ⟨entry, ⟨present, shown⟩, rfl⟩, member⟩
    refine ⟨entry, present, (own entry).1 member, fun only => ?_⟩
    rcases shown with all | active
    · rw [only] at all
      cases all
    · exact active
  · rintro ⟨entry, present, same, shown⟩
    refine ⟨_, ⟨entry, ⟨present, ?_⟩, rfl⟩, (own entry).2 same⟩
    cases showOnlyActiveOrders with
    | false => exact .inl rfl
    | true => exact .inr (shown rfl)

/-- The table shows these entries, and its current item is one of its rows. -/
structure SessionTable.Shows (table : SessionTable) (entries : List Entry)
    (showOnlyActiveOrders : Bool) : Prop where
  rows : table = { ofEntries entries showOnlyActiveOrders with currentItem := table.currentItem }
  current : ∀ entryId, table.currentItem = some entryId → entryId ∈ table.itemIds

namespace SessionTable.Shows

variable {table : SessionTable} {entries : List Entry} {showOnlyActiveOrders : Bool}
  {entryId : EntryId}

theorem fresh (entries : List Entry) (showOnlyActiveOrders : Bool) :
    (ofEntries entries showOnlyActiveOrders).Shows entries showOnlyActiveOrders where
  rows := rfl
  current := by
    intro entryId current
    cases current

theorem item_ids (shows : table.Shows entries showOnlyActiveOrders) :
    table.itemIds = (ofEntries entries showOnlyActiveOrders).itemIds := by
  rw [shows.rows]
  rfl

theorem move (shows : table.Shows entries showOnlyActiveOrders)
    (listed : entryId ∈ table.itemIds) :
    ({ table with currentItem := some entryId } : SessionTable).Shows entries
      showOnlyActiveOrders where
  rows := by
    rw [shows.rows]
  current := by
    rintro other ⟨⟩
    exact listed

theorem restore (shows : table.Shows entries showOnlyActiveOrders)
    (selectedSessionEntryId : Option EntryId) :
    (table.restoreSelection selectedSessionEntryId).Shows entries showOnlyActiveOrders := by
  unfold restoreSelection
  split
  · exact shows
  · split_ifs with listed
    · exact shows.move listed
    · exact shows

end SessionTable.Shows

/-! ## The page -/

/-- The action bar that the selection calls for. -/
def OrdersPage.shownActions (page : OrdersPage) : SessionOrderActions :=
  (page.selectedSessionEntryId.bind page.session.findEntry).elim {}
    (sessionOrderActions page.session)

structure OrdersPage.TablesShow (page : OrdersPage) : Prop where
  active : page.activeOrdersTable.Shows page.session.entries true
  all : page.allSessionOrdersTable.Shows page.session.entries false

/-- Everything that the page shows is about the session as it is. -/
structure OrdersPage.InStep (page : OrdersPage) : Prop where
  tables : page.TablesShow
  selected : ∀ entryId, page.selectedSessionEntryId = some entryId →
    page.sessionOrdersTab.Lists page.session.entries entryId
  actions : page.actions = page.shownActions

section Page

variable {page : OrdersPage} {entryId : EntryId} {session after : OrderSessionModel}

theorem OrdersPage.TablesShow.current_lists (tables : page.TablesShow) :
    entryId ∈ page.getCurrentSessionOrderTable.itemIds ↔
      page.sessionOrdersTab.Lists page.session.entries entryId := by
  unfold OrdersPage.getCurrentSessionOrderTable SessionOrdersTab.Lists
  cases page.sessionOrdersTab with
  | activeOrders =>
      dsimp only
      rw [tables.active.item_ids, mem_item_ids]
      simp
  | allSessionOrders =>
      dsimp only
      rw [tables.all.item_ids, mem_item_ids]
      simp

theorem OrdersPage.TablesShow.current_item (tables : page.TablesShow)
    (current : page.getCurrentSessionOrderTable.currentItem = some entryId) :
    entryId ∈ page.getCurrentSessionOrderTable.itemIds := by
  unfold OrdersPage.getCurrentSessionOrderTable at current ⊢
  cases tab : page.sessionOrdersTab with
  | activeOrders =>
      simp only [tab] at current ⊢
      exact tables.active.current entryId current
  | allSessionOrders =>
      simp only [tab] at current ⊢
      exact tables.all.current entryId current

theorem listed_found {tab : SessionOrdersTab} (lists : tab.Lists session.entries entryId) :
    ∃ entry, session.findEntry entryId = some entry := by
  obtain ⟨entry, present, same, _⟩ := lists
  cases found : session.findEntry entryId with
  | none => exact absurd same (KeyedRows.find_eq_none_iff.1 found entry present)
  | some entry => exact ⟨entry, rfl⟩

/-- Updating the action bar drops no selection that is listed. -/
theorem update_actions_in_step
    (selected : ∀ entryId, page.selectedSessionEntryId = some entryId →
      page.sessionOrdersTab.Lists page.session.entries entryId) :
    page.updateSessionOrderActions = { page with actions := page.shownActions } := by
  unfold OrdersPage.updateSessionOrderActions OrdersPage.shownActions
  cases chosen : page.selectedSessionEntryId with
  | none => rfl
  | some entryId =>
      obtain ⟨entry, found⟩ := listed_found (selected entryId chosen)
      simp only [Option.bind_some, found, Option.elim_some]

theorem actions_in_step (tables : page.TablesShow)
    (selected : ∀ entryId, page.selectedSessionEntryId = some entryId →
      page.sessionOrdersTab.Lists page.session.entries entryId) :
    page.updateSessionOrderActions.InStep := by
  rw [update_actions_in_step selected]
  exact ⟨⟨tables.active, tables.all⟩, selected, rfl⟩

theorem update_selection_selected (tables : page.TablesShow) :
    page.updateSessionOrderSelection.selectedSessionEntryId =
      page.getCurrentSessionOrderTable.currentItem := by
  let chosen : OrdersPage :=
    { page with selectedSessionEntryId := page.getCurrentSessionOrderTable.currentItem }
  show chosen.updateSessionOrderActions.selectedSessionEntryId = _
  rw [@update_actions_in_step chosen fun entryId current =>
    tables.current_lists.1 (tables.current_item current)]

theorem update_selection_in_step (tables : page.TablesShow) :
    page.updateSessionOrderSelection.InStep := by
  let chosen : OrdersPage :=
    { page with selectedSessionEntryId := page.getCurrentSessionOrderTable.currentItem }
  have shown : chosen.TablesShow := ⟨tables.active, tables.all⟩
  exact actions_in_step shown fun entryId current =>
    tables.current_lists.1 (tables.current_item current)

theorem OrdersPage.TablesShow.restore (tables : page.TablesShow) :
    page.restoreSessionOrderSelection.TablesShow := by
  unfold OrdersPage.restoreSessionOrderSelection OrdersPage.changeCurrentTable
  cases page.sessionOrdersTab with
  | activeOrders => exact ⟨tables.active.restore _, tables.all⟩
  | allSessionOrders => exact ⟨tables.active, tables.all.restore _⟩

/-- The current item of the table in front, once the selection is restored. -/
theorem restored_item (tables : page.TablesShow) :
    (page.selectedSessionEntryId = some entryId ∧
        page.sessionOrdersTab.Lists page.session.entries entryId →
      page.restoreSessionOrderSelection.getCurrentSessionOrderTable.currentItem =
        some entryId) ∧
    (page.getCurrentSessionOrderTable.currentItem = none →
      page.restoreSessionOrderSelection.getCurrentSessionOrderTable.currentItem = some entryId →
      page.selectedSessionEntryId = some entryId ∧
        page.sessionOrdersTab.Lists page.session.entries entryId) := by
  have table : page.restoreSessionOrderSelection.getCurrentSessionOrderTable =
      page.getCurrentSessionOrderTable.restoreSelection page.selectedSessionEntryId := by
    unfold OrdersPage.restoreSessionOrderSelection OrdersPage.changeCurrentTable
      OrdersPage.getCurrentSessionOrderTable
    cases tab : page.sessionOrdersTab <;> simp
  rw [table, ← tables.current_lists]
  unfold SessionTable.restoreSelection
  constructor
  · rintro ⟨chosen, listed⟩
    rw [chosen]
    exact congrArg SessionTable.currentItem (if_pos listed)
  · intro nothing current
    cases chosen : page.selectedSessionEntryId with
    | none =>
        rw [chosen] at current
        rw [nothing] at current
        cases current
    | some other =>
        rw [chosen] at current
        dsimp only at current
        split_ifs at current with listed
        · cases current
          exact ⟨rfl, listed⟩
        · rw [nothing] at current
          cases current

/-- The tables are made anew and the selection stays if it is still listed. -/
theorem update_tables_in_step (page : OrdersPage) : page.updateSessionOrderTables.InStep ∧
    ∀ entryId, page.updateSessionOrderTables.selectedSessionEntryId = some entryId ↔
      page.selectedSessionEntryId = some entryId ∧
        page.sessionOrdersTab.Lists page.session.entries entryId := by
  let cleared : OrdersPage := { page with
    activeOrdersTable := .ofEntries page.session.entries true
    allSessionOrdersTable := .ofEntries page.session.entries false }
  have tables : cleared.TablesShow := ⟨.fresh _ _, .fresh _ _⟩
  have unmarked : cleared.getCurrentSessionOrderTable.currentItem = none := by
    unfold OrdersPage.getCurrentSessionOrderTable
    cases cleared.sessionOrdersTab <;> rfl
  refine ⟨update_selection_in_step tables.restore, fun entryId => ?_⟩
  show cleared.restoreSessionOrderSelection.updateSessionOrderSelection.selectedSessionEntryId =
    some entryId ↔ _
  rw [update_selection_selected tables.restore]
  exact ⟨fun current => (restored_item tables).2 unmarked current, (restored_item tables).1⟩

theorem select_tab_in_step (tables : page.TablesShow) (tab : SessionOrdersTab) :
    (page.selectTab tab).InStep := by
  let turned : OrdersPage := { page with sessionOrdersTab := tab }
  have shown : turned.TablesShow := ⟨tables.active, tables.all⟩
  exact update_selection_in_step shown.restore

/-! ## Announcements -/

/-- The action bar reads the session's entries only. -/
theorem session_actions_congr (same : after.entries = session.entries) (entry : Entry) :
    sessionOrderActions after entry = sessionOrderActions session entry := by
  have found : after.findEntry = session.findEntry := by
    funext wanted
    exact congrArg (KeyedRows.find Entry.id wanted) same
  simp only [sessionOrderActions, canRefreshOrder, canCancelOrder, canCancelAllOpenOrders, found,
    same]

theorem OrdersPage.InStep.frame (inStep : page.InStep)
    (same : after.entries = page.session.entries) :
    ({ page with session := after } : OrdersPage).InStep where
  tables := by
    constructor
    · show page.activeOrdersTable.Shows after.entries true
      rw [same]
      exact inStep.tables.active
    · show page.allSessionOrdersTable.Shows after.entries false
      rw [same]
      exact inStep.tables.all
  selected := by
    intro entryId chosen
    show page.sessionOrdersTab.Lists after.entries entryId
    rw [same]
    exact inStep.selected entryId chosen
  actions := by
    have found : after.findEntry = page.session.findEntry := by
      funext wanted
      exact congrArg (KeyedRows.find Entry.id wanted) same
    have bar : sessionOrderActions after = sessionOrderActions page.session := by
      funext entry
      exact session_actions_congr same entry
    refine inStep.actions.trans ?_
    show (page.selectedSessionEntryId.bind page.session.findEntry).elim _ _ =
      (page.selectedSessionEntryId.bind after.findEntry).elim _ _
    rw [found, bar]

theorem observe_in_step {published : List (List Entry)} (inStep : page.InStep)
    (announces : Announces page.session.entries published after.entries) :
    (page.observe published after).InStep := by
  generalize entries : after.entries = left at announces
  cases announces with
  | nothing => exact inStep.frame entries
  | @publish published before left earlier publishes =>
      unfold OrdersPage.observe
      rw [List.foldl_append]
      refine (update_tables_in_step _).1.frame ?_
      rw [update_tables_session, entries]

/-! ## The selection through announcements -/

variable {entries next : List Entry} {tab : SessionOrdersTab}

theorem written_ids (written : Entry) (rows : List Entry) :
    ((sortEntries (KeyedRows.write Entry.id written rows)).map Entry.id).Perm
      (rows.map Entry.id) := by
  have same : (KeyedRows.write Entry.id written rows).map Entry.id = rows.map Entry.id :=
    KeyedRows.map_key_write
  rw [← same]
  exact KeyedRows.sort_perm.map Entry.id

theorem written_rows {written moved : Entry} {rows : List Entry}
    (present : moved ∈ sortEntries (KeyedRows.write Entry.id written rows)) :
    moved = written ∨ (moved ∈ rows ∧ moved.id ≠ written.id) := by
  have row : moved ∈ KeyedRows.write Entry.id written rows :=
    KeyedRows.sort_perm.mem_iff.1 present
  obtain ⟨old, oldPresent, result⟩ := List.mem_map.1 row
  split_ifs at result with own
  · exact .inl result.symm
  · exact .inr ⟨result ▸ oldPresent, result ▸ own⟩

theorem publishes_ids (publishes : Publishes entries next)
    (distinct : (entries.map Entry.id).Nodup) :
    (next.map Entry.id).Nodup ∧ ∀ entry ∈ entries, entry.id ∈ next.map Entry.id := by
  cases publishes with
  | change publication now changed keeps =>
      have ids := written_ids (publication.stamp now changed) entries
      exact ⟨ids.nodup_iff.2 distinct, fun entry present =>
        ids.mem_iff.2 (List.mem_map_of_mem present)⟩
  | creation publication now created new =>
      have ids := written_ids (publication.stamp now created) (entries ++ [created])
      constructor
      · rw [ids.nodup_iff, List.map_append, List.nodup_append]
        refine ⟨distinct, List.nodup_singleton _, ?_⟩
        intro known member fresh added
        obtain ⟨entry, present, rfl⟩ := List.mem_map.1 member
        rw [List.map_singleton, List.mem_singleton] at added
        rw [added]
        exact new entry present
      · intro entry present
        exact ids.mem_iff.2 (List.mem_map_of_mem (List.mem_append_left _ present))

/-- A row that is listed afterwards was listed before, if it was there. -/
theorem publishes_listed (publishes : Publishes entries next)
    (distinct : (entries.map Entry.id).Nodup) (known : entryId ∈ entries.map Entry.id)
    (lists : tab.Lists next entryId) : tab.Lists entries entryId := by
  obtain ⟨moved, present, rfl, shown⟩ := lists
  obtain ⟨entry, was, same⟩ := List.mem_map.1 known
  refine ⟨entry, was, same, fun front => ?_⟩
  have active := shown front
  cases publishes with
  | change publication now changed keeps =>
      rcases written_rows present with rfl | ⟨unwritten, _⟩
      · rw [stamp_id] at same
        apply keeps entry was same
        cases publication <;> exact active
      · rw [List.inj_on_of_nodup_map distinct was unwritten same]
        exact active
  | creation publication now created new =>
      rcases written_rows present with rfl | ⟨unwritten, apart⟩
      · rw [stamp_id] at same
        exact absurd same (new entry was)
      · rcases List.mem_append.1 unwritten with earlier | added
        · rw [List.inj_on_of_nodup_map distinct was earlier same]
          exact active
        · rw [List.mem_singleton.1 added] at apart
          exact absurd (stamp_id publication now created).symm apart

theorem announces_ids {published : List (List Entry)} (announces : Announces entries published next)
    (distinct : (entries.map Entry.id).Nodup) :
    (next.map Entry.id).Nodup ∧ ∀ entry ∈ entries, entry.id ∈ next.map Entry.id := by
  induction announces with
  | nothing => exact ⟨distinct, fun entry present => List.mem_map_of_mem present⟩
  | publish earlier publishes ih =>
      obtain ⟨before, kept⟩ := ih
      obtain ⟨after, further⟩ := publishes_ids publishes before
      refine ⟨after, fun entry present => ?_⟩
      obtain ⟨moved, movedPresent, same⟩ := List.mem_map.1 (kept entry present)
      rw [← same]
      exact further moved movedPresent

@[simp] theorem update_actions_tab (page : OrdersPage) :
    page.updateSessionOrderActions.sessionOrdersTab = page.sessionOrdersTab := by
  unfold OrdersPage.updateSessionOrderActions
  split
  · rfl
  · split <;> rfl

@[simp] theorem update_selection_tab (page : OrdersPage) :
    page.updateSessionOrderSelection.sessionOrdersTab = page.sessionOrdersTab :=
  update_actions_tab _

@[simp] theorem change_table_tab (page : OrdersPage) (change : SessionTable → SessionTable) :
    (page.changeCurrentTable change).sessionOrdersTab = page.sessionOrdersTab := by
  unfold OrdersPage.changeCurrentTable
  split <;> rfl

@[simp] theorem update_tables_tab (page : OrdersPage) :
    page.updateSessionOrderTables.sessionOrdersTab = page.sessionOrdersTab := by
  simp [OrdersPage.updateSessionOrderTables, OrdersPage.restoreSessionOrderSelection]

@[simp] theorem update_actions_dialog (page : OrdersPage) :
    page.updateSessionOrderActions.dialog = page.dialog := by
  unfold OrdersPage.updateSessionOrderActions
  split
  · rfl
  · split <;> rfl

@[simp] theorem update_selection_dialog (page : OrdersPage) :
    page.updateSessionOrderSelection.dialog = page.dialog :=
  update_actions_dialog _

@[simp] theorem change_table_dialog (page : OrdersPage) (change : SessionTable → SessionTable) :
    (page.changeCurrentTable change).dialog = page.dialog := by
  unfold OrdersPage.changeCurrentTable
  split <;> rfl

@[simp] theorem update_tables_dialog (page : OrdersPage) :
    page.updateSessionOrderTables.dialog = page.dialog := by
  simp [OrdersPage.updateSessionOrderTables, OrdersPage.restoreSessionOrderSelection]

@[simp] theorem observe_dialog (page : OrdersPage) (published : List (List Entry))
    (session : OrderSessionModel) : (page.observe published session).dialog = page.dialog := by
  show (published.foldl OrdersPage.entriesChanged page).dialog = page.dialog
  induction published generalizing page with
  | nil => rfl
  | cons entries published ih => exact (ih (page.entriesChanged entries)).trans (update_tables_dialog _)

/-- After all announcements the selection is kept exactly if it is still listed. -/
theorem heard_selected {published : List (List Entry)} (announces : Announces entries published next)
    (distinct : (entries.map Entry.id).Nodup)
    (selected : ∀ entryId, page.selectedSessionEntryId = some entryId →
      page.sessionOrdersTab.Lists entries entryId) :
    (published.foldl OrdersPage.entriesChanged page).sessionOrdersTab = page.sessionOrdersTab ∧
      ∀ entryId, (published.foldl OrdersPage.entriesChanged page).selectedSessionEntryId =
          some entryId ↔
        page.selectedSessionEntryId = some entryId ∧
          page.sessionOrdersTab.Lists next entryId := by
  induction announces with
  | nothing =>
      refine ⟨rfl, fun entryId => ⟨fun chosen => ⟨chosen, selected entryId chosen⟩, And.left⟩⟩
  | @publish published before next earlier publishes ih =>
      obtain ⟨tab, kept⟩ := ih
      obtain ⟨distinctBefore, present⟩ := announces_ids earlier distinct
      rw [List.foldl_append]
      let heard := published.foldl OrdersPage.entriesChanged page
      refine ⟨(update_tables_tab _).trans tab, fun entryId => ?_⟩
      have stays := (update_tables_in_step
        { heard with session := { heard.session with entries := next } }).2 entryId
      refine stays.trans ?_
      show heard.selectedSessionEntryId = some entryId ∧
        heard.sessionOrdersTab.Lists next entryId ↔ _
      rw [kept, tab]
      constructor
      · rintro ⟨⟨chosen, _⟩, lists⟩
        exact ⟨chosen, lists⟩
      · rintro ⟨chosen, lists⟩
        obtain ⟨entry, was, same, _⟩ := selected entryId chosen
        have known : entryId ∈ before.map Entry.id := same ▸ present entry was
        exact ⟨⟨chosen, publishes_listed publishes distinctBefore known lists⟩, lists⟩

theorem observe_selected {published : List (List Entry)} (inStep : page.InStep)
    (announces : Announces page.session.entries published after.entries)
    (distinct : (page.session.entries.map Entry.id).Nodup) :
    (page.observe published after).sessionOrdersTab = page.sessionOrdersTab ∧
      ∀ entryId, (page.observe published after).selectedSessionEntryId = some entryId ↔
        page.selectedSessionEntryId = some entryId ∧
          page.sessionOrdersTab.Lists after.entries entryId :=
  heard_selected announces distinct inStep.selected

end Page

/-! ## Buttons and the session -/

section Session

variable {Effect : Type} {Answer : Effect → Type}
  {services : ExchangerType → DealServiceCalls Effect Answer}
  {event : SessionEvent Effect Answer} {session after : OrderSessionModel} {entryId : EntryId}
  {entry : Entry}

/-- A Cancel All works for the entry that it was asked for. -/
def OrderSessionModel.ContextsCovered (session : OrderSessionModel) : Prop :=
  ∀ contextId exchangerType symbol requests,
    SessionTask.cancelAll contextId exchangerType symbol requests ∈ session.tasks →
    contextId ∈ requests.map EntryRefreshRequest.entryId

theorem Occurs.contexts_covered (occurs : Occurs services session event after)
    (covered : session.ContextsCovered) : after.ContextsCovered := by
  intro contextId exchangerType symbol requests inFlight
  rcases occurs.cancel_all_origin rfl inFlight with old | ⟨context, present, started⟩
  · exact covered _ _ _ _ old
  · cases started
    have ofPair : isOfPair context.exchangerType context.pair.symbol context = true := by
      simp [isOfPair]
    refine List.mem_map.2 ⟨pairRequest context, ?_, (pair_request_frame context).1⟩
    exact List.mem_map_of_mem (List.mem_filter.2 ⟨present, ofPair⟩)

theorem SessionRun.contexts_covered {steps : List (SessionStep Effect Answer)}
    (run : SessionRun services steps session) : session.ContextsCovered := by
  induction run with
  | start clock =>
      intro contextId exchangerType symbol requests inFlight
      cases inFlight
  | step run occurs ih => exact occurs.contexts_covered ih

/-- What decides whether an action's task can start. -/
structure OrderSessionModel.ActionsReady (session : OrderSessionModel) : Prop where
  running : session.stopping = false
  slots : SlotsMatch session
  matched : ActionsMatch session
  covered : session.ContextsCovered

theorem SessionRun.actions_ready {steps : List (SessionStep Effect Answer)}
    (run : SessionRun services steps session) (running : session.stopping = false) :
    session.ActionsReady :=
  ⟨running, run.slots_match running, run.actions_match running, run.contexts_covered⟩

/-- The action's UI task state of an idle entry is free. -/
theorem OrderSessionModel.ActionsReady.starts (ready : session.ActionsReady)
    (found : session.findEntry entryId = some entry) (idle : entry.action = .none)
    {task : SessionTask} (slot : task.slot = (entryId, .action)) :
    (session.startTask task).1 = true := by
  have free : (session.entryTaskStates task.slot).isLoading = false := by
    by_contra loading
    rw [Bool.not_eq_false, slot] at loading
    obtain ⟨other, inFlight, same⟩ := (ready.slots.loading _).1 loading
    have works : entryId ∈ other.entryIds := by
      cases other with
      | cancelAll contextId exchangerType symbol requests =>
          cases same
          exact ready.covered _ _ _ _ inFlight
      | refresh exchangerType request => exact List.mem_singleton.2 (congrArg Prod.fst same).symm
      | cancelBasic exchangerType request =>
          exact List.mem_singleton.2 (congrArg Prod.fst same).symm
      | cancelOco exchangerType request ocoInfo =>
          exact List.mem_singleton.2 (congrArg Prod.fst same).symm
      | _ => cases same
    obtain ⟨marked, foundMarked, shown⟩ := ready.matched.marked other inFlight entryId works
    rw [found] at foundMarked
    cases foundMarked
    exact SessionTask.action_of_entry works (shown.symm.trans idle)
  unfold startTask
  rw [ready.running, free]
  rfl

theorem start_entry_action_started (task : SessionTask) (entryId : EntryId) :
    (session.startEntryAction task entryId).1 = (session.startTask task).1 := rfl

theorem refresh_order_accepted_iff (ready : session.ActionsReady) (entryId : EntryId) :
    (session.refreshOrder entryId).1 = true ↔ session.canRefreshOrder entryId = true := by
  unfold refreshOrder canRefreshOrder
  cases found : session.findEntry entryId with
  | none => simp
  | some entry =>
      rw [Option.filter_some, Option.any_some]
      by_cases allowed : entry.canRefreshOrder = true
      · have idle : entry.action = .none := by
          simp only [Entry.canRefreshOrder, Bool.and_eq_true, decide_eq_true_eq] at allowed
          exact allowed.1
        obtain ⟨request, created⟩ : ∃ request, entry.createEntryRefreshRequest = some request := by
          simp only [Entry.canRefreshOrder, Bool.and_eq_true] at allowed
          exact Option.isSome_iff_exists.1 allowed.2
        have addressed := (create_entry_refresh_request_frame created).1
        simp only [allowed, if_true, created, start_entry_action_started, iff_true]
        apply ready.starts found idle
        rw [← find_entry_id found, ← addressed]
        rfl
      · simp [allowed]

theorem cancel_order_accepted_iff (ready : session.ActionsReady) (entryId : EntryId) :
    (session.cancelOrder entryId).1 = true ↔ session.canCancelOrder entryId = true := by
  unfold cancelOrder canCancelOrder
  cases found : session.findEntry entryId with
  | none => simp
  | some entry =>
      rw [Option.filter_some, Option.any_some]
      by_cases allowed : entry.canCancelOrder = true
      · have idle : entry.action = .none := by
          simp only [Entry.canCancelOrder, Bool.and_eq_true, decide_eq_true_eq] at allowed
          exact allowed.1.1
        obtain ⟨request, created⟩ : ∃ request, entry.createEntryRefreshRequest = some request := by
          simp only [Entry.canCancelOrder, Bool.and_eq_true] at allowed
          exact Option.isSome_iff_exists.1 allowed.2
        have addressed := (create_entry_refresh_request_frame created).1
        simp only [allowed, if_true, created, iff_true]
        cases entry.type with
        | basicOrder =>
            simp only [start_entry_action_started]
            apply ready.starts found idle
            rw [← find_entry_id found, ← addressed]
            rfl
        | ocoGroup =>
            simp only [start_entry_action_started]
            apply ready.starts found idle
            rw [← find_entry_id found, ← addressed]
            rfl
      · simp [allowed]

theorem cancel_all_open_orders_accepted_iff (ready : session.ActionsReady) (entryId : EntryId) :
    (session.cancelAllOpenOrders entryId).1 = true ↔
      session.canCancelAllOpenOrders entryId = true := by
  unfold cancelAllOpenOrders
  cases found : session.findEntry entryId with
  | none => simp [canCancelAllOpenOrders, found]
  | some entry =>
      rw [Option.filter_some]
      by_cases allowed : session.canCancelAllOpenOrders entryId = true
      · have ofPair : isOfPair entry.exchangerType entry.pair.symbol entry = true := by
          simp [isOfPair]
        have idle := (pair_idle found allowed (find_entry_mem found) ofPair).2.1
        simp only [allowed, if_true, iff_true]
        exact ready.starts found idle rfl
      · simp [allowed]

end Session

/-! ## Every run -/

/-- A button is enabled exactly if the session would start its action for the selected entry. -/
structure OrdersPage.ActionsAccepted (page : OrdersPage) : Prop where
  refresh : page.actions.refreshEnabled = true ↔ ∃ entryId,
    page.selectedSessionEntryId = some entryId ∧ (page.session.refreshOrder entryId).1 = true
  cancel : page.actions.cancelEnabled = true ↔ ∃ entryId,
    page.selectedSessionEntryId = some entryId ∧ (page.session.cancelOrder entryId).1 = true
  cancelAll : page.actions.cancelAllEnabled = true ↔ ∃ entryId,
    page.selectedSessionEntryId = some entryId ∧
      (page.session.cancelAllOpenOrders entryId).1 = true

section Runs

variable {Effect : Type} {Answer : Effect → Type}
  {services : ExchangerType → DealServiceCalls Effect Answer} {rounding : NearestRounding}
  {fromChars : String → Option Decimal} {steps : List (PageMoment Effect Answer)}
  {page after : OrdersPage} {event : PageEvent Effect Answer}

theorem OrdersPage.InStep.with_dialog (inStep : page.InStep) (dialog : Option ConfirmationDialog) :
    ({ page with dialog } : OrdersPage).InStep :=
  ⟨⟨inStep.tables.active, inStep.tables.all⟩, inStep.selected, inStep.actions⟩

theorem OrdersPage.InStep.move (inStep : page.InStep) {entryId : EntryId}
    (listed : entryId ∈ page.getCurrentSessionOrderTable.itemIds) :
    (page.changeCurrentTable fun table => { table with currentItem := some entryId }).InStep := by
  obtain ⟨session, activeTable, allTable, tab, selected, actions, dialog⟩ := page
  cases tab with
  | activeOrders =>
      exact ⟨⟨inStep.tables.active.move listed, inStep.tables.all⟩, inStep.selected,
        inStep.actions⟩
  | allSessionOrders =>
      exact ⟨⟨inStep.tables.active, inStep.tables.all.move listed⟩, inStep.selected,
        inStep.actions⟩

theorem PageStep.in_step (step : PageStep services rounding fromChars page event after)
    (inStep : page.InStep) : after.InStep := by
  cases step with
  | session background occurs announces => exact observe_in_step inStep announces
  | currentItem free listed => exact inStep.move listed
  | itemSelectionChanged free => exact update_selection_in_step inStep.tables
  | selectTab tab free => exact select_tab_in_step inStep.tables tab
  | requestConfirmation free asked =>
      obtain ⟨dialog, rfl⟩ := request_confirmation_session asked
      exact inStep.with_dialog dialog
  | refreshSelectedSessionOrder free enabled selected occurs announces =>
      exact observe_in_step inStep announces
  | cancelSelectedSessionOrder free enabled =>
      obtain ⟨dialog, same⟩ := cancel_selected_frame page
      rw [same]
      exact inStep.with_dialog dialog
  | cancelAllSelectedSessionOrders free enabled =>
      obtain ⟨dialog, same⟩ := cancel_all_selected_frame page
      rw [same]
      exact inStep.with_dialog dialog
  | accept asked confirmed occurs announces =>
      exact observe_in_step (inStep.with_dialog none) announces
  | reject asked => exact inStep.with_dialog none

theorem PageRun.in_step (run : PageRun services rounding fromChars steps page) :
    page.InStep := by
  induction run with
  | construct clock =>
      have built := (update_tables_in_step { session := { clock } }).1
      exact actions_in_step built.tables built.selected
  | step run step ih => exact step.in_step ih

theorem OrdersPage.InStep.accepts (inStep : page.InStep) (ready : page.session.ActionsReady) :
    page.ActionsAccepted := by
  have bar := inStep.actions
  unfold OrdersPage.shownActions at bar
  cases chosen : page.selectedSessionEntryId with
  | none =>
      rw [chosen] at bar
      have silent : page.actions = {} := bar
      constructor <;> simp [silent, chosen]
  | some entryId =>
      obtain ⟨entry, found⟩ := listed_found (inStep.selected entryId chosen)
      rw [chosen, Option.bind_some, found] at bar
      have shown : page.actions = sessionOrderActions page.session entry := bar
      have sameId := find_entry_id found
      constructor
      · rw [shown]
        simp [chosen, sessionOrderActions, sameId, refresh_order_accepted_iff ready]
      · rw [shown]
        simp [chosen, sessionOrderActions, sameId, cancel_order_accepted_iff ready]
      · rw [shown]
        simp [chosen, sessionOrderActions, sameId, cancel_all_open_orders_accepted_iff ready]

end Runs

/-! ## A bought order that is waited for -/

section Example

open OrderEntryForm OrderInputValidation Interaction

/-- The market buy that `buyForm` makes of 0.3. -/
def buyDraft : BasicOrderDraft where
  operation := .buyCrypto
  pair := bitcoinPair
  side := .buy
  quantity := 3 / 10

theorem buy_draft_created :
    ∃ draft : ShownBasicOrderDraft,
      (buyForm "0.3").createBasicOrderDraft roundHalfUp readDecimal = .ok (some draft) ∧
        draft.toBasicOrderDraft = buyDraft := by
  have entered : Enters roundHalfUp readDecimal (buyForm "0.3") tenthsRules bitcoinPair _ :=
    .buy rfl three_tenths_taken.1
  have created := entered_created read_decimal_exactly (by decide) rfl rfl entered
  rw [createDraft, if_neg (by decide)] at created
  obtain ⟨shown, returned, confirmed⟩ := except_bind_ok.1 created
  obtain ⟨draft, rfl, same⟩ := Option.map_eq_some_iff.1 (Except.ok.inj confirmed)
  injection same with same
  exact ⟨draft, returned, same⟩

def boughtSession : OrderSessionModel := (placeOrder { clock := fun _ => 0 } buyDraft).2

def answeredSession : OrderSessionModel :=
  ({ boughtSession with tasks := [] } : OrderSessionModel).completeTask (.submitBasic 1 buyDraft)
    (.ok openOrder)

def awaitedSession : OrderSessionModel :=
  ({ answeredSession with queuedCalls := [] } : OrderSessionModel).runQueuedCall
    (.continueAfterBasicAcceptance 1)

variable {answers : PromptAnswers} {steps : List (PageMoment Empty fun _ => Unit)}
  {page : OrdersPage} {after : OrderSessionModel}

/-- The session of a page goes on by itself. -/
theorem PageRun.go_on (run : PageRun (promptServices answers) roundHalfUp readDecimal steps page)
    {event : SessionEvent Empty fun _ => Unit}
    (occurs : Occurs (promptServices answers) page.session event after)
    (background : event.IsBackground) :
    ∃ later moved, PageRun (promptServices answers) roundHalfUp readDecimal later moved ∧
      moved.session = after ∧ moved.dialog = page.dialog ∧
      moved.sessionOrdersTab = page.sessionOrdersTab := by
  obtain ⟨published, announces⟩ := occurs.announces run.sound
  exact ⟨_, _, run.step (.session background occurs announces), rfl, observe_dialog _ _ _,
    (observe_selected run.in_step announces run.sound.indexed.distinct).1⟩

/-- The draft is entered and confirmed. -/
theorem bought_page_run :
    ∃ steps page, PageRun (promptServices answers) roundHalfUp readDecimal steps page ∧
      page.session = boughtSession ∧ page.dialog = none ∧
      page.sessionOrdersTab = .activeOrders := by
  obtain ⟨draft, created, same⟩ := buy_draft_created
  have start : PageRun (promptServices answers) roundHalfUp readDecimal [] _ :=
    .construct fun _ => 0
  have requested : (OrdersPage.construct { clock := fun _ => 0 }).requestOrderConfirmation
      roundHalfUp readDecimal (buyForm "0.3") = .ok _ :=
    except_bind_ok.2 ⟨_, created, rfl⟩
  have asked := start.step (.requestConfirmation rfl requested)
  have occurs : Occurs (promptServices answers) { clock := fun _ => 0 } (.placeOrder buyDraft)
      boughtSession := .placeOrder buyDraft
  obtain ⟨published, announces⟩ := occurs.announces asked.sound
  rw [← same] at occurs
  refine ⟨_, _, asked.step (.accept rfl rfl occurs announces), rfl, observe_dialog _ _ _, ?_⟩
  exact (observe_selected (asked.in_step.with_dialog none) announces asked.sound.indexed.distinct).1

theorem awaited_page_run (placed : answers.placed = openOrder) :
    ∃ steps page, PageRun (promptServices answers) roundHalfUp readDecimal steps page ∧
      page.session = awaitedSession ∧ page.dialog = none ∧
      page.sessionOrdersTab = .activeOrders ∧ page.selectedSessionEntryId = some 1 := by
  obtain ⟨_, _, run, session, free, tab⟩ := @bought_page_run answers
  have answered : Occurs (promptServices answers) boughtSession
      (.completeTask (.submitBasic 1 buyDraft) [] (.ok openOrder)) answeredSession := by
    refine .complete [] [] rfl (?_ : Ends _ [] (.ok openOrder))
    rw [← placed]
    exact .start
  rw [← session] at answered
  obtain ⟨_, _, run, session, sameDialog, sameTab⟩ := run.go_on answered trivial
  rw [free] at sameDialog
  rw [tab] at sameTab
  have queued : answeredSession.queuedCalls = [] ++ .continueAfterBasicAcceptance 1 :: [] := rfl
  have continued : Occurs (promptServices answers) answeredSession
      (.runQueuedCall (.continueAfterBasicAcceptance 1)) awaitedSession := .runQueuedCall queued
  rw [← session] at continued
  obtain ⟨_, page, run, session, free, tab⟩ := run.go_on continued trivial
  rw [sameDialog] at free
  rw [sameTab] at tab
  have listed : 1 ∈ page.getCurrentSessionOrderTable.itemIds := by
    rw [run.in_step.tables.current_lists, session, tab]
    exact ⟨_, List.mem_singleton_self _, rfl, fun _ => rfl⟩
  have chosen := run.step (.currentItem free listed)
  have idle : (page.changeCurrentTable fun table =>
      { table with currentItem := some 1 }).dialog = none := (change_table_dialog _ _).trans free
  refine ⟨_, _, chosen.step (.itemSelectionChanged idle), by simp [session], by simp [free],
    by simp [tab], ?_⟩
  rw [update_selection_selected chosen.in_step.tables]
  simp [OrdersPage.changeCurrentTable, OrdersPage.getCurrentSessionOrderTable, tab]

end Example

end CryptoDeal.OrderSession
