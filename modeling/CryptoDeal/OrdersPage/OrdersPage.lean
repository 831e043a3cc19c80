import CryptoDeal.OrderSession.SessionRun
import CryptoDeal.OrdersPage.SessionTables

/-!
# The orders page

`OrdersPage` over the order session: two tables of entries, the selection, the
action bar and the dialog that may be open. While a dialog is open its `exec`
runs the event loop, so the handler that opened it goes on with a page that
other events may have changed.
-/

namespace CryptoDeal.OrderSession

open DealService DecimalText OrderEntry

inductive SessionOrdersTab where
  | activeOrders
  | allSessionOrders
  deriving DecidableEq, Repr

structure OrdersPage where
  session : OrderSessionModel
  activeOrdersTable : SessionTable := {}
  allSessionOrdersTable : SessionTable := {}
  sessionOrdersTab : SessionOrdersTab := .activeOrders
  selectedSessionEntryId : Option EntryId := none
  actions : SessionOrderActions := {}
  dialog : Option ConfirmationDialog := none

namespace OrdersPage

def getCurrentSessionOrderTable (page : OrdersPage) : SessionTable :=
  match page.sessionOrdersTab with
  | .activeOrders => page.activeOrdersTable
  | .allSessionOrders => page.allSessionOrdersTable

def changeCurrentTable (page : OrdersPage) (change : SessionTable → SessionTable) : OrdersPage :=
  match page.sessionOrdersTab with
  | .activeOrders => { page with activeOrdersTable := change page.activeOrdersTable }
  | .allSessionOrders => { page with allSessionOrdersTable := change page.allSessionOrdersTable }

def updateSessionOrderActions (page : OrdersPage) : OrdersPage :=
  match page.selectedSessionEntryId with
  | none => { page with actions := {} }
  | some entryId =>
      match page.session.findEntry entryId with
      | none => { page with selectedSessionEntryId := none, actions := {} }
      | some entry => { page with actions := sessionOrderActions page.session entry }

/-- `updateSessionOrderSelection`, when the tables are not being updated. -/
def updateSessionOrderSelection (page : OrdersPage) : OrdersPage :=
  { page with selectedSessionEntryId := page.getCurrentSessionOrderTable.currentItem
    }.updateSessionOrderActions

def restoreSessionOrderSelection (page : OrdersPage) : OrdersPage :=
  page.changeCurrentTable fun table => table.restoreSelection page.selectedSessionEntryId

/-- The handler of `entriesChanged`; signals of the tables that it causes itself are ignored. -/
def updateSessionOrderTables (page : OrdersPage) : OrdersPage :=
  { page with
    activeOrdersTable := .ofEntries page.session.entries true
    allSessionOrdersTable := .ofEntries page.session.entries false
    }.restoreSessionOrderSelection.updateSessionOrderSelection

def selectTab (page : OrdersPage) (tab : SessionOrdersTab) : OrdersPage :=
  { page with
    sessionOrdersTab := tab }.restoreSessionOrderSelection.updateSessionOrderSelection

def construct (session : OrderSessionModel) : OrdersPage :=
  ({ session } : OrdersPage).updateSessionOrderTables.updateSessionOrderActions

/-- The page's handler in the middle of a session's handler that has written these entries. -/
def entriesChanged (page : OrdersPage) (entries : List Entry) : OrdersPage :=
  { page with session := { page.session with entries } }.updateSessionOrderTables

/-- The page after a session's handler that announced these entries one after the other. -/
def observe (page : OrdersPage) (published : List (List Entry)) (session : OrderSessionModel) :
    OrdersPage :=
  { published.foldl entriesChanged page with session }

/-! ## Questions to the user -/

section Confirmation

variable (rounding : NearestRounding) (fromChars : String → Option Decimal)

/-- `requestOrderConfirmation`, up to `exec`. -/
def requestOrderConfirmation (page : OrdersPage) (form : OrderEntryForm) :
    Except ServiceFailure OrdersPage := do
  if form.operation = .placeOco then
    let draft ← form.createOcoOrderDraft rounding fromChars
    return { page with dialog := draft.map .ocoOrder }
  else
    let draft ← form.createBasicOrderDraft rounding fromChars
    return { page with dialog := draft.map .basicOrder }

end Confirmation

/-- `cancelSelectedSessionOrder`, up to the `exec` in `confirmSelectedOrderCancellation`. -/
def cancelSelectedSessionOrder (page : OrdersPage) : OrdersPage :=
  match page.selectedSessionEntryId.bind page.session.findEntry with
  | none => page
  | some entry =>
      if page.session.canCancelOrder entry.id then
        { page with dialog := some (.orderCancellation entry) }
      else page

/-- `cancelAllSelectedSessionOrders`, up to the `exec` in `confirmSelectedPairCancellation`. -/
def cancelAllSelectedSessionOrders (page : OrdersPage) : OrdersPage :=
  match page.selectedSessionEntryId.bind page.session.findEntry with
  | none => page
  | some entry =>
      if page.session.canCancelAllOpenOrders entry.id then
        { page with dialog := some (.pairCancellation entry) }
      else page

/-- `selectedSessionEntryId.value()` after a dialog, which throws when nothing is selected. -/
def selectedAfterDialog (page : OrdersPage) : Except ServiceFailure EntryId :=
  match page.selectedSessionEntryId with
  | some entryId => .ok entryId
  | none => .error (.runtime "bad optional access")

def confirmed {Effect : Type} {Answer : Effect → Type} (page : OrdersPage) :
    ConfirmationDialog → Except ServiceFailure (SessionEvent Effect Answer)
  | .basicOrder draft => return .placeOrder draft.toBasicOrderDraft
  | .ocoOrder draft => return .placeOco draft.toOcoOrderDraft
  | .orderCancellation _ => do return .cancelOrder (← page.selectedAfterDialog)
  | .pairCancellation _ => do return .cancelAllOpenOrders (← page.selectedAfterDialog)

end OrdersPage

end CryptoDeal.OrderSession
