import CryptoDeal.DealService.TradingRules
import CryptoDeal.DealService.OcoWait
import CryptoDeal.DealService.UserStream
import CryptoDeal.DealService.OcoReuse
import CryptoDeal.DealService.OcoFailures
import CryptoDeal.OperationChain.Coordination
import CryptoDeal.OperationChain.SnapshotHistory
import CryptoDeal.OperationChain.OperationOutcome
import CryptoDeal.OperationChain.RequestValidation
import CryptoDeal.OrderSession.ReportedOrders
import CryptoDeal.DealService.BalanceRefresh
import CryptoDeal.OrderSession.ActionMatching
import CryptoDeal.DealService.StreamLifecycle
import CryptoDeal.OperationChain.ChainFunding
import CryptoDeal.OperationChain.RunConvergence
import CryptoDeal.OperationChain.SimulatedRun
import CryptoDeal.DealService.BalancePaths
import CryptoDeal.OrderEntry.Corrections
import CryptoDeal.OrderEntry.DraftRequests
import CryptoDeal.Async.StartedTasks
import CryptoDeal.Async.LiveUpdates
import CryptoDeal.DealService.WaitThreads
import CryptoDeal.DealService.OrderStreamItems
import CryptoDeal.DealService.TradablePairs
import CryptoDeal.DealService.DecimalRoundTrip
import CryptoDeal.DealService.WakeUps
import CryptoDeal.OperationChain.AttemptedCancellation
import CryptoDeal.OperationChain.CancellationProgress
import CryptoDeal.DealService.ServerTimestamps
import CryptoDeal.DealService.SymbolInfoLookup
import CryptoDeal.Async.BalanceView
import CryptoDeal.OperationChain.RunListView
import CryptoDeal.Library.QueryString
import CryptoDeal.Library.ObjectText
import CryptoDeal.DealService.SignedRequests
import CryptoDeal.DealService.AuthenticatedRequests
import CryptoDeal.OrderEntry.OrderEntryCatalogs
import CryptoDeal.OrderEntry.OrderEntryWindow
import CryptoDeal.OrderEntry.OrderEntryRun
import CryptoDeal.OrderEntry.CatalogLoads
import CryptoDeal.OrderEntry.OrderEntryShown
import CryptoDeal.OrderEntry.OrderEntryFreshness
import CryptoDeal.OrdersPage.SessionTables
import CryptoDeal.OrdersPage.OrdersPage
import CryptoDeal.OrderSession.SessionHandling
import CryptoDeal.OrdersPage.PageRun
import CryptoDeal.OrdersPage.PageInStep
