import CryptoDeal.DealService.WaitSystem

/-!
# The parts of a waiting call

What the waiting functions of both services are built from. The services run
the same code up to their names, their status sets and Bybit's error slot, so
each function is written once, for an exchange.
-/

namespace CryptoDeal.DealService

open OrderStatusUtil Interaction

def exchangerName : ExchangerType → String
  | .binance => "Binance"
  | .bybit => "Bybit"

/-- The text of an exception that is a `std::exception`. -/
def ServiceFailure.what : ServiceFailure → Option String
  | .runtime what => some what
  | .interrupted what => some what
  | .nonStandard => none

namespace WaitProgram

def stopRequested : WaitProgram Bool := .request .stopRequested .returned

def registerPendingOrder (orderKey : OrderKey) : WaitProgram Unit :=
  .request (.registerPendingOrder orderKey) .returned

def unregisterPendingOrder (orderKey : OrderKey) : WaitProgram Unit :=
  .request (.unregisterPendingOrder orderKey) .returned

def ensureUserStreamConnected : WaitProgram Unit :=
  .request .ensureUserStreamConnected .ofExcept

def getOrder (query : OrderQuery) : WaitProgram OrderInfo := .request (.getOrder query) .ofExcept

def publishOrderUpdate (orderInfo : OrderInfo) : WaitProgram Unit :=
  .request (.publishOrderUpdate orderInfo) .returned

def getPendingOrderWait (symbol orderId : String) : WaitProgram PendingOrderWait :=
  .request (.getPendingOrderWait (getOrderKey symbol orderId)) .ofExcept

def getPendingOcoWaits (reader : OcoReader) (takeProfitKey stopLossKey : OrderKey) :
    WaitProgram (PendingOrderWait × PendingOrderWait) :=
  .request (.getPendingOcoWaits reader takeProfitKey stopLossKey) .ofExcept

def awaitOrder (orderKey : OrderKey) : WaitProgram (Option PendingOrderWait) :=
  .request (.awaitOrder orderKey) .ofExcept

def awaitOco (need : OcoNeed) (takeProfitKey stopLossKey : OrderKey) :
    WaitProgram (Option (PendingOrderWait × PendingOrderWait)) :=
  .request (.awaitOco need takeProfitKey stopLossKey) .ofExcept

def getUserStreamLastError : WaitProgram String := .request .getUserStreamLastError .returned

def cancelOrder (query : OrderQuery) : WaitProgram OrderInfo :=
  .request (.cancelOrder query) .ofExcept

def cancelOco (query : OrderListQuery) : WaitProgram Unit :=
  .request (.cancelOco query) .ofExcept

def processOcoUpdate (orderLinkId : String) : WaitProgram (Option String) :=
  .request (.processOcoUpdate orderLinkId) .ofExcept

def publishOcoError (orderLinkId error : String) : WaitProgram Unit :=
  .request (.publishOcoError orderLinkId error) .returned

/-- `try program catch (const exception &exception) { handler exception.what() }`. -/
def catchException {Result : Type} (program : WaitProgram Result)
    (handler : String → WaitProgram Result) : WaitProgram Result :=
  program.handle fun failure =>
    match failure.what with
    | some what => handler what
    | none => .threw failure

end WaitProgram

open WaitProgram

def throwIfOrderWaitInterrupted (completed : Bool) (description : String) :
    Except ServiceFailure Unit :=
  if completed then .ok () else .error (.interrupted (description ++ " was interrupted"))

/-- What a wait has read, unless it was interrupted. -/
def completedRead {Read : Type} (description : String) : Option Read → Except ServiceFailure Read
  | some read => .ok read
  | none => .error (.interrupted (description ++ " was interrupted"))

def throwIfStopRequested (description : String) : WaitProgram Unit := do
  let requested ← stopRequested
  throwIfOrderWaitInterrupted (!requested) description

/-- An error text after a message, if there is one. -/
def errorSuffix (error : String) : String := if error = "" then "" else ": " ++ error

/-- The scope of a `PendingOrderRegistration`. -/
def withPendingOrderRegistration {Result : Type} (orderKey : OrderKey)
    (program : WaitProgram Result) : WaitProgram Result := do
  WaitProgram.registerPendingOrder orderKey
  program.ensuring (WaitProgram.unregisterPendingOrder orderKey)

def reconciliationQuery (orderInfo : OrderInfo) : OrderQuery where
  symbol := orderInfo.symbol
  orderId := some orderInfo.orderId
  category := .spot

def reconcileOrder (orderInfo : OrderInfo) : WaitProgram Unit := do
  let current ← getOrder (reconciliationQuery orderInfo)
  WaitProgram.publishOrderUpdate current

namespace PendingOrderWait

def filledInfo (exchange : ExchangerType) (pendingWait : PendingOrderWait) : Option OrderInfo :=
  pendingWait.orderInfo.filter fun orderInfo => isOrderFilled exchange orderInfo.status

def terminalInfo (exchange : ExchangerType) (pendingWait : PendingOrderWait) : Option OrderInfo :=
  pendingWait.orderInfo.filter fun orderInfo => isOrderTerminal exchange orderInfo.status

variable {exchange : ExchangerType} {pendingWait : PendingOrderWait} {orderInfo : OrderInfo}

theorem filled_info_eq_some :
    pendingWait.filledInfo exchange = some orderInfo ↔
      pendingWait.orderInfo = some orderInfo ∧ isOrderFilled exchange orderInfo.status := by
  rw [filledInfo, Option.filter_eq_some_iff]

theorem terminal_info_eq_some :
    pendingWait.terminalInfo exchange = some orderInfo ↔
      pendingWait.orderInfo = some orderInfo ∧ isOrderTerminal exchange orderInfo.status := by
  rw [terminalInfo, Option.filter_eq_some_iff]

end PendingOrderWait

/-! ## Quiet parts -/

section Quietly

variable (exchange : ExchangerType) (genuine : OrderInfo → Prop) (noted : WaitEffect → Bool)
  (keys : List OrderKey)

def Registered (history : WaitHistory) : Prop :=
  ∀ orderKey ∈ keys, 0 < registrations history orderKey

/-- A part of a call that registers nothing itself and whose effects are not
among the noted ones. Under the registrations it needs, it returns only results
that satisfy the condition. -/
def Quietly {Result : Type} (holds : Result → Prop) (program : WaitProgram Result) : Prop :=
  ∀ history : WaitHistory, Registered keys history →
    Meets (waitContract exchange genuine)
      (fun later outcome =>
        registrations later = registrations history ∧
        later.filter (noted ·.1) = history.filter (noted ·.1) ∧
        ∀ result, outcome = .ok result → holds result)
      program history

variable {exchange genuine noted keys} {Result Other : Type} {holds : Result → Prop}

theorem quietly_returned {result : Result} (held : holds result) :
    Quietly exchange genuine noted keys holds (.returned result) := by
  intro history registered
  refine ⟨rfl, rfl, ?_⟩
  intro returned same
  cases same
  exact held

theorem quietly_threw (failure : ServiceFailure) :
    Quietly exchange genuine noted keys holds (.threw failure) := by
  intro history registered
  refine ⟨rfl, rfl, ?_⟩
  intro returned same
  cases same

theorem quietly_except {outcome : Except ServiceFailure Result}
    (held : ∀ result, outcome = .ok result → holds result) :
    Quietly exchange genuine noted keys holds (liftM outcome) := by
  cases outcome with
  | ok result => exact quietly_returned (held result rfl)
  | error failure => exact quietly_threw failure

theorem Quietly.bind {program : WaitProgram Other} {first : Other → Prop}
    {continuation : Other → WaitProgram Result}
    (part : Quietly exchange genuine noted keys first program)
    (rest : ∀ result, first result →
      Quietly exchange genuine noted keys holds (continuation result)) :
    Quietly exchange genuine noted keys holds (program >>= continuation) := by
  intro history registered
  apply (part history registered).bind
  · intro later result known
    have still : Registered keys later := by
      rw [Registered, known.1]
      exact registered
    apply (rest result (known.2.2 result rfl) later still).weaken
    intro last outcome after
    rw [known.1, known.2.1] at after
    exact after
  · intro later failure known
    refine ⟨known.1, known.2.1, ?_⟩
    intro result same
    cases same

theorem Quietly.handle {program : WaitProgram Result}
    {handler : ServiceFailure → WaitProgram Result}
    (body : Quietly exchange genuine noted keys holds program)
    (handled : ∀ failure, Quietly exchange genuine noted keys holds (handler failure)) :
    Quietly exchange genuine noted keys holds (program.handle handler) := by
  intro history registered
  rw [meets_handle]
  apply (body history registered).weaken
  intro later outcome known
  cases outcome with
  | ok result => exact known
  | error failure =>
      have still : Registered keys later := by
        rw [Registered, known.1]
        exact registered
      apply (handled failure later still).weaken
      intro last outcome after
      rw [known.1, known.2.1] at after
      exact after

theorem Quietly.catch_exception {program : WaitProgram Result}
    {handler : String → WaitProgram Result}
    (body : Quietly exchange genuine noted keys holds program)
    (handled : ∀ what, Quietly exchange genuine noted keys holds (handler what)) :
    Quietly exchange genuine noted keys holds (program.catchException handler) := by
  apply body.handle
  intro failure
  cases failure.what with
  | some what => exact handled what
  | none => exact quietly_threw failure

theorem Quietly.weaken {program : WaitProgram Result} {weaker : Result → Prop}
    (part : Quietly exchange genuine noted keys holds program)
    (implies : ∀ result, holds result → weaker result) :
    Quietly exchange genuine noted keys weaker program := by
  intro history registered
  apply (part history registered).weaken
  intro later outcome known
  exact ⟨known.1, known.2.1, fun result same => implies result (known.2.2 result same)⟩

theorem quietly_request {effect : WaitEffect} {next : effect.Answer → WaitProgram Result}
    (unnoted : noted effect = false)
    (registersNothing : ∀ (history : WaitHistory) answer,
      registrations (⟨effect, answer⟩ :: history) = registrations history)
    (required : ∀ history, Registered keys history → waitRequires genuine history effect)
    (continues : ∀ answer, waitEnsures exchange genuine effect answer →
      Quietly exchange genuine noted keys holds (next answer)) :
    Quietly exchange genuine noted keys holds (.request effect next) := by
  intro history registered
  refine ⟨required history registered, ?_⟩
  intro answer kept
  have still : Registered keys (⟨effect, answer⟩ :: history) := by
    rw [Registered, registersNothing]
    exact registered
  apply (continues answer kept _ still).weaken
  intro later outcome known
  rwa [registersNothing, List.filter_cons_of_neg (by simp [unnoted])] at known

/-! ### One request -/

theorem quietly_stop_requested (unnoted : noted .stopRequested = false) :
    Quietly exchange genuine noted keys (fun _ => True) stopRequested :=
  quietly_request unnoted (fun _ _ => rfl) (fun _ _ => trivial) fun _ _ =>
    quietly_returned trivial

theorem quietly_throw_if_stop_requested {description : String}
    (unnoted : noted .stopRequested = false) :
    Quietly exchange genuine noted keys (fun _ => True) (throwIfStopRequested description) :=
  (quietly_stop_requested unnoted).bind fun _ _ => quietly_except fun _ _ => trivial

theorem quietly_ensure_user_stream_connected
    (unnoted : noted .ensureUserStreamConnected = false) :
    Quietly exchange genuine noted keys (fun _ => True) ensureUserStreamConnected :=
  quietly_request unnoted (fun _ _ => rfl) (fun _ _ => trivial) fun _ _ =>
    quietly_except fun _ _ => trivial

theorem quietly_get_user_stream_last_error (unnoted : noted .getUserStreamLastError = false) :
    Quietly exchange genuine noted keys (fun _ => True) getUserStreamLastError :=
  quietly_request unnoted (fun _ _ => rfl) (fun _ _ => trivial) fun _ _ =>
    quietly_returned trivial

theorem quietly_reconcile_order {orderInfo : OrderInfo}
    (unnoted : ∀ query, noted (.getOrder query) = false)
    (unnotedPublish : ∀ orderInfo, noted (.publishOrderUpdate orderInfo) = false) :
    Quietly exchange genuine noted keys (fun _ => True) (reconcileOrder orderInfo) := by
  have queried : Quietly exchange genuine noted keys genuine
      (getOrder (reconciliationQuery orderInfo)) :=
    quietly_request (unnoted _) (fun _ _ => rfl) (fun _ _ => trivial) fun _ kept =>
      quietly_except kept
  apply queried.bind
  intro current reported
  exact quietly_request (unnotedPublish current) (fun _ _ => rfl) (fun _ _ => reported)
    fun _ _ => quietly_returned trivial

theorem quietly_get_pending_order_wait {symbol orderId : String}
    (unnoted : noted (.getPendingOrderWait (getOrderKey symbol orderId)) = false)
    (registered : getOrderKey symbol orderId ∈ keys) :
    Quietly exchange genuine noted keys (EntryOf genuine (getOrderKey symbol orderId))
      (getPendingOrderWait symbol orderId) := by
  apply quietly_request unnoted (fun _ _ => rfl) (fun _ needed => needed _ registered)
  intro answer kept
  obtain ⟨pendingWait, rfl, entry⟩ := kept
  exact quietly_returned entry

theorem quietly_await_order {orderKey : OrderKey} (unnoted : noted (.awaitOrder orderKey) = false)
    (registered : orderKey ∈ keys) :
    Quietly exchange genuine noted keys (fun read => ∀ pendingWait ∈ read,
      EntryOf genuine orderKey pendingWait) (awaitOrder orderKey) := by
  apply quietly_request unnoted (fun _ _ => rfl) (fun _ needed => needed _ registered)
  intro answer kept
  obtain ⟨read, rfl, entries⟩ := kept
  exact quietly_returned entries

theorem quietly_completed_read {Read : Type} {description : String} {read : Option Read} :
    Quietly exchange genuine noted keys (fun value => read = some value)
      (liftM (completedRead description read)) := by
  apply quietly_except
  intro value same
  cases read with
  | none => cases same
  | some found =>
      cases same
      rfl

end Quietly

end CryptoDeal.DealService
