import CryptoDeal.OrderSession.OrderSessionModel

/-!
# Runs of the session

The event loop runs one event at a time, in any order that its queues allow: a
user's click, a queued continuation or the completion of a task in flight. A
task may end in every way in which its program can end.
-/

namespace CryptoDeal.OrderSession

open DealService Interaction

inductive SessionEvent (Effect : Type) (Answer : Effect → Type) where
  | placeOrder (draft : BasicOrderDraft)
  | placeOco (draft : OcoOrderDraft)
  | refreshOrder (entryId : EntryId)
  | cancelOrder (entryId : EntryId)
  | cancelAllOpenOrders (entryId : EntryId)
  | runQueuedCall (call : QueuedCall)
  | completeTask (task : SessionTask) (history : History Effect Answer)
      (outcome : Except ServiceFailure task.Result)
  | requestStop

variable {Effect : Type} {Answer : Effect → Type}
  (services : ExchangerType → DealServiceCalls Effect Answer)

/-- The session before and after an event. -/
inductive Occurs (session : OrderSessionModel) :
    SessionEvent Effect Answer → OrderSessionModel → Prop where
  | placeOrder (draft : BasicOrderDraft) :
      Occurs session (.placeOrder draft) (session.placeOrder draft).2
  | placeOco (draft : OcoOrderDraft) :
      Occurs session (.placeOco draft) (session.placeOco draft).2
  | refreshOrder (entryId : EntryId) :
      Occurs session (.refreshOrder entryId) (session.refreshOrder entryId).2
  | cancelOrder (entryId : EntryId) :
      Occurs session (.cancelOrder entryId) (session.cancelOrder entryId).2
  | cancelAllOpenOrders (entryId : EntryId) :
      Occurs session (.cancelAllOpenOrders entryId) (session.cancelAllOpenOrders entryId).2
  | runQueuedCall {earlier later : List QueuedCall} {call : QueuedCall}
      (queued : session.queuedCalls = earlier ++ call :: later) :
      Occurs session (.runQueuedCall call)
        (({ session with queuedCalls := earlier ++ later } : OrderSessionModel).runQueuedCall call)
  | completeTask {earlier later : List SessionTask} {task : SessionTask} {stopRequested : Bool}
      {history : History Effect Answer} {outcome : Except ServiceFailure task.Result}
      (inFlight : session.tasks = earlier ++ task :: later)
      (token : stopRequested = true → session.stopping = true)
      (ended : Ends (task.work services stopRequested) history outcome) :
      Occurs session (.completeTask task history outcome)
        (({ session with tasks := earlier ++ later } : OrderSessionModel).completeTask task outcome)
  | requestStop : Occurs session .requestStop { session with stopping := true }

/-- An event with the session that it found. -/
abbrev SessionStep (Effect : Type) (Answer : Effect → Type) :=
  OrderSessionModel × SessionEvent Effect Answer

/-- The steps of a run, latest first, and where they lead. -/
inductive SessionRun : List (SessionStep Effect Answer) → OrderSessionModel → Prop where
  | start (clock : ℕ → ℤ) : SessionRun [] { clock }
  | step {steps : List (SessionStep Effect Answer)} {session after : OrderSessionModel}
      {event : SessionEvent Effect Answer} (run : SessionRun steps session)
      (occurs : Occurs services session event after) :
      SessionRun ((session, event) :: steps) after

section

variable {services : ExchangerType → DealServiceCalls Effect Answer}
  {steps : List (SessionStep Effect Answer)} {session : OrderSessionModel}

/-- The completion of the task at a place in the executor's list, not asked to stop. -/
theorem Occurs.complete (earlier later : List SessionTask) {task : SessionTask}
    (inFlight : session.tasks = earlier ++ task :: later) {history : History Effect Answer}
    {outcome : Except ServiceFailure task.Result}
    (ended : Ends (task.work services false) history outcome) :
    Occurs services session (.completeTask task history outcome)
      (({ session with tasks := earlier ++ later } : OrderSessionModel).completeTask task
        outcome) := by
  apply Occurs.completeTask inFlight _ ended
  intro stopped
  cases stopped

theorem SessionRun.complete (run : SessionRun services steps session)
    (earlier later : List SessionTask) {task : SessionTask}
    (inFlight : session.tasks = earlier ++ task :: later) {history : History Effect Answer}
    {outcome : Except ServiceFailure task.Result}
    (ended : Ends (task.work services false) history outcome) :
    SessionRun services ((session, .completeTask task history outcome) :: steps)
      (({ session with tasks := earlier ++ later } : OrderSessionModel).completeTask task
        outcome) :=
  run.step (.complete earlier later inFlight ended)

theorem SessionRun.continue (run : SessionRun services steps session) {call : QueuedCall}
    (queued : session.queuedCalls = [call]) :
    SessionRun services ((session, .runQueuedCall call) :: steps)
      (({ session with queuedCalls := [] } : OrderSessionModel).runQueuedCall call) := by
  have only : session.queuedCalls = [] ++ call :: [] := queued
  exact run.step (.runQueuedCall only)

end

/-! ## A service that answers at once -/

structure PromptAnswers where
  placed : OrderInfo := {}
  placedOco : OcoInfo := {}
  queried : OrderInfo := {}
  cancelled : OrderInfo := {}
  filled : OrderInfo := {}
  settled : ExchangerType → OcoWaitResult := fun _ =>
    { filledOrder := {}, siblingTerminalOrder := {} }

def promptServices (answers : PromptAnswers) (exchangerType : ExchangerType) :
    DealServiceCalls Empty fun _ => Unit where
  buyCrypto _ _ _ := .returned answers.placed
  sellCrypto _ _ _ := .returned answers.placed
  placeOrder _ := .returned answers.placed
  placeOco _ := .returned answers.placedOco
  getOrder _ := .returned answers.queried
  cancelOrder _ := .returned answers.cancelled
  cancelOco _ := .returned ()
  cancelAllOpenOrders _ _ := .returned ()
  waitUntilOrderFilled _ _ := .returned answers.filled
  waitUntilOcoOrderFilled _ := .returned (answers.settled exchangerType)

end CryptoDeal.OrderSession
