import CryptoDeal.OperationChain.ExecutionTrace

/-!
# The snapshots of an execution

Everything that observers and readers of one `execute` ever see, whatever the
operations do and whenever a cancellation is requested.
-/

namespace CryptoDeal

open DealService Interaction

def ChainEffect.stored : ChainEffect → Option OperationChainSnapshot
  | .store snapshot => some snapshot
  | _ => none

def ChainEffect.notified : ChainEffect → Option OperationChainSnapshot
  | .notifyStateChanged snapshot => some snapshot
  | _ => none

/-- All that `getSnapshot` could return so far, latest first. -/
def publishedSnapshots (initial : OperationChainSnapshot) (history : ChainHistory) :
    List OperationChainSnapshot :=
  history.filterMap (fun event => event.1.stored) ++ [initial]

/-- All that the state-change handler was called with, latest first. -/
def notifiedSnapshots (history : ChainHistory) : List OperationChainSnapshot :=
  history.filterMap fun event => event.1.notified

/-- Snapshots that a reader could read and the handler saw, both latest first. -/
structure ShownInOrder (published notified : List OperationChainSnapshot) : Prop where
  invariant : ∀ snapshot ∈ published, SnapshotInvariant snapshot
  revisions : published.map (·.revision) = (List.range published.length).reverse
  absorbing : ∀ snapshot ∈ published.tail, snapshot.status.isTerminal = false
  notified_published : ∀ snapshot ∈ notified, snapshot ∈ published
  notified_revisions : notified.map (·.revision) = (List.range' 1 notified.length).reverse

namespace ShownInOrder

variable {snapshot latest : OperationChainSnapshot}
  {published earlier notified : List OperationChainSnapshot}

theorem initial (invariant : SnapshotInvariant latest) (fresh : latest.revision = 0) :
    ShownInOrder [latest] [] where
  invariant := by simpa using invariant
  revisions := by simp [fresh]
  absorbing := by simp
  notified_published := by simp
  notified_revisions := rfl

theorem latest_revision (shown : ShownInOrder (latest :: earlier) notified) :
    latest.revision = earlier.length := by
  have revisions := shown.revisions
  simp only [List.map_cons, List.length_cons, List.range_succ, List.reverse_append,
    List.reverse_singleton, List.singleton_append, List.cons.injEq] at revisions
  exact revisions.1

theorem store (shown : ShownInOrder (latest :: earlier) notified)
    (invariant : SnapshotInvariant snapshot) (raised : snapshot.revision = latest.revision + 1)
    (live : latest.status.isTerminal = false) :
    ShownInOrder (snapshot :: latest :: earlier) notified where
  invariant := by
    intro seen member
    rcases List.mem_cons.1 member with rfl | before
    · exact invariant
    · exact shown.invariant seen before
  revisions := by
    rw [List.map_cons, shown.revisions, raised, shown.latest_revision]
    simp [List.range_succ]
  absorbing := by
    intro seen member
    rcases List.mem_cons.1 member with rfl | before
    · exact live
    · exact shown.absorbing seen before
  notified_published := fun seen member =>
    List.mem_cons_of_mem _ (shown.notified_published seen member)
  notified_revisions := shown.notified_revisions

theorem notify (shown : ShownInOrder published notified) (member : snapshot ∈ published)
    (next : snapshot.revision = notified.length + 1) :
    ShownInOrder published (snapshot :: notified) where
  invariant := shown.invariant
  revisions := shown.revisions
  absorbing := shown.absorbing
  notified_published := by
    intro seen found
    rcases List.mem_cons.1 found with rfl | before
    · exact member
    · exact shown.notified_published seen before
  notified_revisions := by
    rw [List.map_cons, shown.notified_revisions, next, List.length_cons, List.range'_concat,
      List.reverse_append, Nat.add_comm]
    simp

end ShownInOrder

/-- What a run of a program that keeps to the discipline has shown. -/
theorem shown_in_order {discipline : OperationDiscipline} {initial : OperationChainSnapshot}
    {post : ChainHistory → Except ServiceFailure Unit → Prop} {program current : ChainProgram Unit}
    {history : ChainHistory} (invariant : SnapshotInvariant initial)
    (fresh : initial.revision = 0)
    (met : Meets (executeContract discipline initial) post program [])
    (run : Reaches program history current) :
    (∃ earlier, publishedSnapshots initial history =
      (ChainTrace.of initial history).published :: earlier) ∧
      (ChainTrace.of initial history).notified = (notifiedSnapshots history).length ∧
      ShownInOrder (publishedSnapshots initial history) (notifiedSnapshots history) := by
  induction run with
  | start => exact ⟨⟨[], rfl⟩, rfl, .initial invariant fresh⟩
  | @answer history effect next prior given ih =>
      have allowed : EffectAllowed discipline (.of initial history) effect :=
        prior.request_allowed met
      rcases ih with ⟨⟨earlier, published⟩, notified, shown⟩
      cases effect with
      | store snapshot =>
          refine ⟨⟨publishedSnapshots initial history, rfl⟩, notified, ?_⟩
          show ShownInOrder (snapshot :: publishedSnapshots initial history) _
          rw [published] at shown ⊢
          exact shown.store allowed.1 allowed.2.1 allowed.2.2.1
      | notifyStateChanged snapshot =>
          refine ⟨⟨earlier, published⟩, congrArg (· + 1) notified, ?_⟩
          apply shown.notify
          · rw [allowed.1, published]
            exact List.mem_cons_self
          · rw [allowed.2, notified]
      | startOperation canRegisterAction =>
          cases given with
          | ok started => exact ⟨⟨earlier, published⟩, notified, shown⟩
          | error failure => exact ⟨⟨earlier, published⟩, notified, shown⟩
      | call asked => exact ⟨⟨earlier, published⟩, notified, shown⟩
      | isCancellationRequested => exact ⟨⟨earlier, published⟩, notified, shown⟩
      | finishOperation outcome => exact ⟨⟨earlier, published⟩, notified, shown⟩
      | finishChain => exact ⟨⟨earlier, published⟩, notified, shown⟩
      | waitForCancellationResolution => exact ⟨⟨earlier, published⟩, notified, shown⟩
      | isCancellationConfirmed => exact ⟨⟨earlier, published⟩, notified, shown⟩
      | hasCancellationFailed => exact ⟨⟨earlier, published⟩, notified, shown⟩
      | getCancellationFailure => exact ⟨⟨earlier, published⟩, notified, shown⟩
      | clock => exact ⟨⟨earlier, published⟩, notified, shown⟩

theorem OperationDiscipline.free_keeps (operation : Operation) :
    OperationDiscipline.free.Keeps operation := by
  have anything : ∀ (program : OperationProgram Unit)
      (asked : History OperationEffect OperationEffect.Answer),
      Meets OperationDiscipline.free.contract (fun _ _ => True) program asked := by
    intro program
    induction program with
    | returned result => exact fun _ => trivial
    | threw failure => exact fun _ => trivial
    | request effect rest ih =>
        intro asked
        refine ⟨?_, fun answer _ => ih answer _⟩
        cases effect <;> trivial
  exact fun context => anything _ _

/-- The snapshots of one execution, for all operations and all answers. -/
theorem operation_chain_snapshots {definition : OperationChainDefinition}
    {operations : List Operation} {exchangers : List ExchangerType}
    {createdAt : OperationChainTimePoint} {chain : OperationChain}
    (created : OperationChain.create definition operations exchangers createdAt = .ok chain)
    {history : ChainHistory} {current : ChainProgram Unit}
    (run : Reaches chain.execute history current) :
    ShownInOrder (publishedSnapshots chain.snapshot history) (notifiedSnapshots history) := by
  rcases OperationChain.create_unstarted created with ⟨unstarted, _, count, fresh⟩
  have met := OperationChain.meets_execute unstarted count fresh fun operation _ =>
    OperationDiscipline.free_keeps operation
  exact (shown_in_order unstarted.invariant fresh met run).2.2

theorem tether_nonempty : "USDT" ≠ "" := by decide

theorem purchase_compatible : isConfigCompatible .buyCrypto (.base ⟨"BTC"⟩) := rfl

theorem purchase_nonempty :
    ([⟨.buyCrypto, .base ⟨"BTC"⟩, purchase_compatible⟩] : List OperationDefinition) ≠ [] := by
  simp

def buyBitcoin : OperationChainDefinition where
  name := "Buy bitcoin"
  initialExchangerType := .binance
  initialAsset := "USDT"
  initialQuantity := 100
  operations := [⟨.buyCrypto, .base ⟨"BTC"⟩, purchase_compatible⟩]
  name_nonempty := by decide
  initial_asset_nonempty := tether_nonempty
  initial_quantity_positive := by decide
  operations_nonempty := purchase_nonempty

def buyBitcoinChain : OperationChain :=
  .fresh buyBitcoin [OperationFactory.buyCrypto ⟨"BTC"⟩] [.binance] 0

/-- The exchange rejects the purchase. -/
def rejectingAnswers : ∀ effect : ChainEffect, effect.Answer
  | .call asked =>
      match asked with
      | .isCancellationRequested => false
      | .buyCrypto _ _ _ _ | .sellCrypto _ _ _ _ | .placeOrder _ _ => .error (.runtime "rejected")
      | .placeOco _ _ => .error (.runtime "rejected")
      | .register _ => .ok ()
      | .getWaitStopToken => 1
      | .waitUntilOrderFilled _ _ _ _ => .error .nonStandard
      | .waitUntilOcoOrderFilled _ _ _ => .error .nonStandard
      | .completeActionNaturally => ()
      | .printSending _ _ => ()
  | .isCancellationRequested => false
  | .startOperation _ => .ok ()
  | .isCancellationConfirmed => false
  | .hasCancellationFailed => false
  | .getCancellationFailure => ""
  | .clock => 1
  | .finishOperation _ | .finishChain | .waitForCancellationResolution | .store _
  | .notifyStateChanged _ => ()

def rejectedHistory : ChainHistory :=
  (answerBy rejectingAnswers 30 buyBitcoinChain.execute []).1

theorem operation_chain_snapshots_rejected :
    (notifiedSnapshots rejectedHistory).map (·.status) = [.failed, .running, .running] ∧
      ShownInOrder (publishedSnapshots buyBitcoinChain.snapshot rejectedHistory)
        (notifiedSnapshots rejectedHistory) := by
  have created : OperationChain.create buyBitcoin [OperationFactory.buyCrypto ⟨"BTC"⟩] [.binance] 0 =
      .ok buyBitcoinChain := rfl
  exact ⟨rfl, operation_chain_snapshots created (Reaches.start.answer_by 30)⟩

end CryptoDeal
