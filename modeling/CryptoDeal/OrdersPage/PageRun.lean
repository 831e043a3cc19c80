import CryptoDeal.OrderSession.SessionHandling
import CryptoDeal.OrdersPage.OrdersPage

/-!
# Runs of the orders page

The user, the event loop and the open dialog take turns. Of the items of the
table in front the user makes any the current one, and the table may report a
changed selection before or after that. A dialog is modal: while it is open
only the session's own events and the answer to it come through. A handler that
throws ends the run.
-/

namespace CryptoDeal.OrderSession

open DealService DecimalText OrderEntry

/-- Events that no click causes. -/
def SessionEvent.IsBackground {Effect : Type} {Answer : Effect → Type} :
    SessionEvent Effect Answer → Prop
  | .runQueuedCall _ | .completeTask _ _ _ | .requestStop => True
  | .placeOrder _ | .placeOco _ | .refreshOrder _ | .cancelOrder _ | .cancelAllOpenOrders _ => False

inductive PageEvent (Effect : Type) (Answer : Effect → Type) where
  | session (event : SessionEvent Effect Answer)
  | currentItem (entryId : EntryId)
  | itemSelectionChanged
  | selectTab (tab : SessionOrdersTab)
  | requestConfirmation (form : OrderEntryForm)
  | refreshSelectedSessionOrder
  | cancelSelectedSessionOrder
  | cancelAllSelectedSessionOrders
  | accept (dialog : ConfirmationDialog)
  | reject (dialog : ConfirmationDialog)

section Steps

variable {Effect : Type} {Answer : Effect → Type}
  (services : ExchangerType → DealServiceCalls Effect Answer) (rounding : NearestRounding)
  (fromChars : String → Option Decimal)

/-- The page before and after an event. -/
inductive PageStep (page : OrdersPage) : PageEvent Effect Answer → OrdersPage → Prop where
  | session {event : SessionEvent Effect Answer} {published : List (List Entry)}
      {after : OrderSessionModel} (background : event.IsBackground)
      (occurs : Occurs services page.session event after)
      (announces : Announces page.session.entries published after.entries) :
      PageStep page (.session event) (page.observe published after)
  | currentItem {entryId : EntryId} (free : page.dialog = none)
      (listed : entryId ∈ page.getCurrentSessionOrderTable.itemIds) :
      PageStep page (.currentItem entryId)
        (page.changeCurrentTable fun table => { table with currentItem := some entryId })
  | itemSelectionChanged (free : page.dialog = none) :
      PageStep page .itemSelectionChanged page.updateSessionOrderSelection
  | selectTab (tab : SessionOrdersTab) (free : page.dialog = none) :
      PageStep page (.selectTab tab) (page.selectTab tab)
  | requestConfirmation {form : OrderEntryForm} {after : OrdersPage} (free : page.dialog = none)
      (asked : page.requestOrderConfirmation rounding fromChars form = .ok after) :
      PageStep page (.requestConfirmation form) after
  | refreshSelectedSessionOrder {entryId : EntryId} {published : List (List Entry)}
      {after : OrderSessionModel} (free : page.dialog = none)
      (enabled : page.actions.refreshEnabled = true)
      (selected : page.selectedSessionEntryId = some entryId)
      (occurs : Occurs services page.session (.refreshOrder entryId) after)
      (announces : Announces page.session.entries published after.entries) :
      PageStep page .refreshSelectedSessionOrder (page.observe published after)
  | cancelSelectedSessionOrder (free : page.dialog = none)
      (enabled : page.actions.cancelEnabled = true) :
      PageStep page .cancelSelectedSessionOrder page.cancelSelectedSessionOrder
  | cancelAllSelectedSessionOrders (free : page.dialog = none)
      (enabled : page.actions.cancelAllEnabled = true) :
      PageStep page .cancelAllSelectedSessionOrders page.cancelAllSelectedSessionOrders
  | accept {dialog : ConfirmationDialog} {event : SessionEvent Effect Answer}
      {published : List (List Entry)} {after : OrderSessionModel}
      (asked : page.dialog = some dialog) (confirmed : page.confirmed dialog = .ok event)
      (occurs : Occurs services page.session event after)
      (announces : Announces page.session.entries published after.entries) :
      PageStep page (.accept dialog)
        (({ page with dialog := none } : OrdersPage).observe published after)
  | reject {dialog : ConfirmationDialog} (asked : page.dialog = some dialog) :
      PageStep page (.reject dialog) { page with dialog := none }

/-- An event with the page that it found. -/
abbrev PageMoment (Effect : Type) (Answer : Effect → Type) := OrdersPage × PageEvent Effect Answer

/-- The steps of a run, latest first, and where they lead. -/
inductive PageRun : List (PageMoment Effect Answer) → OrdersPage → Prop where
  | construct (clock : ℕ → ℤ) : PageRun [] (OrdersPage.construct { clock })
  | step {steps : List (PageMoment Effect Answer)} {page after : OrdersPage}
      {event : PageEvent Effect Answer} (run : PageRun steps page)
      (step : PageStep services rounding fromChars page event after) :
      PageRun ((page, event) :: steps) after

end Steps

/-! ## The session of a page -/

section Session

variable {Effect : Type} {Answer : Effect → Type}
  {services : ExchangerType → DealServiceCalls Effect Answer} {rounding : NearestRounding}
  {fromChars : String → Option Decimal} {steps : List (PageMoment Effect Answer)}
  {page after : OrdersPage} {event : PageEvent Effect Answer}

@[simp] theorem update_actions_session (page : OrdersPage) :
    page.updateSessionOrderActions.session = page.session := by
  unfold OrdersPage.updateSessionOrderActions
  split
  · rfl
  · split <;> rfl

@[simp] theorem update_selection_session (page : OrdersPage) :
    page.updateSessionOrderSelection.session = page.session :=
  update_actions_session _

@[simp] theorem change_table_session (page : OrdersPage) (change : SessionTable → SessionTable) :
    (page.changeCurrentTable change).session = page.session := by
  unfold OrdersPage.changeCurrentTable
  split <;> rfl

@[simp] theorem update_tables_session (page : OrdersPage) :
    page.updateSessionOrderTables.session = page.session := by
  simp [OrdersPage.updateSessionOrderTables, OrdersPage.restoreSessionOrderSelection]

@[simp] theorem select_tab_session (page : OrdersPage) (tab : SessionOrdersTab) :
    (page.selectTab tab).session = page.session := by
  simp [OrdersPage.selectTab, OrdersPage.restoreSessionOrderSelection]

theorem request_confirmation_session {form : OrderEntryForm}
    (asked : page.requestOrderConfirmation rounding fromChars form = .ok after) :
    ∃ dialog, after = { page with dialog } := by
  unfold OrdersPage.requestOrderConfirmation at asked
  split_ifs at asked
  · obtain ⟨draft, _, created⟩ := except_bind_ok.1 asked
    cases created
    exact ⟨_, rfl⟩
  · obtain ⟨draft, _, created⟩ := except_bind_ok.1 asked
    cases created
    exact ⟨_, rfl⟩

theorem cancel_selected_frame (page : OrdersPage) :
    ∃ dialog, page.cancelSelectedSessionOrder = { page with dialog } := by
  unfold OrdersPage.cancelSelectedSessionOrder
  split
  · exact ⟨page.dialog, rfl⟩
  · split_ifs
    · exact ⟨_, rfl⟩
    · exact ⟨page.dialog, rfl⟩

theorem cancel_all_selected_frame (page : OrdersPage) :
    ∃ dialog, page.cancelAllSelectedSessionOrders = { page with dialog } := by
  unfold OrdersPage.cancelAllSelectedSessionOrders
  split
  · exact ⟨page.dialog, rfl⟩
  · split_ifs
    · exact ⟨_, rfl⟩
    · exact ⟨page.dialog, rfl⟩

/-- What a page event is to the session. -/
theorem PageStep.session_step (step : PageStep services rounding fromChars page event after) :
    after.session = page.session ∨
      ∃ occurring, Occurs services page.session occurring after.session := by
  cases step with
  | session background occurs announces => exact .inr ⟨_, occurs⟩
  | currentItem free listed => exact .inl (change_table_session page _)
  | itemSelectionChanged free => exact .inl (update_selection_session page)
  | selectTab tab free => exact .inl (select_tab_session page tab)
  | requestConfirmation free asked =>
      obtain ⟨dialog, rfl⟩ := request_confirmation_session asked
      exact .inl rfl
  | refreshSelectedSessionOrder free enabled selected occurs announces => exact .inr ⟨_, occurs⟩
  | cancelSelectedSessionOrder free enabled =>
      obtain ⟨dialog, same⟩ := cancel_selected_frame page
      rw [same]
      exact .inl rfl
  | cancelAllSelectedSessionOrders free enabled =>
      obtain ⟨dialog, same⟩ := cancel_all_selected_frame page
      rw [same]
      exact .inl rfl
  | accept asked confirmed occurs announces => exact .inr ⟨_, occurs⟩
  | reject asked => exact .inl rfl

/-- The session of a page is one that a run of the session reaches. -/
theorem PageRun.session_run (run : PageRun services rounding fromChars steps page) :
    ∃ occurred, SessionRun services occurred page.session := by
  induction run with
  | construct clock =>
      have same : (OrdersPage.construct { clock }).session = { clock } := by
        simp [OrdersPage.construct]
      exact ⟨[], same ▸ .start clock⟩
  | step run step ih =>
      obtain ⟨occurred, before⟩ := ih
      rcases step.session_step with same | ⟨occurring, occurs⟩
      · exact ⟨occurred, same ▸ before⟩
      · exact ⟨_, before.step occurs⟩

theorem PageRun.sound (run : PageRun services rounding fromChars steps page) :
    page.session.Sound := by
  obtain ⟨occurred, sessionRun⟩ := run.session_run
  exact sessionRun.sound

end Session

end CryptoDeal.OrderSession
