import Llgw.Foundation.TransitionRun
import Llgw.Foundation.LabelledTrace
import Llgw.Foundation.KeyedStore
import Llgw.Messages
import Llgw.Buffer
import Llgw.Risk
import Llgw.Exchange
import Llgw.Reports
import Llgw.Lifecycle
import Llgw.LifecycleMarks
import Llgw.LifecycleUpdates
import Llgw.Gateway
import Llgw.Pipeline
import Llgw.System
import Llgw.OrderAgreement
import Llgw.StepEffects
import Llgw.Effects
import Llgw.Synchronisation
import Llgw.Ledgers
import Llgw.Foundation.FloatOrder
import Llgw.Foundation.PartialAutomaton
import Llgw.Foundation.BoundedFifo
import Llgw.BufferRefinement
import Llgw.MutatorErrors
import Llgw.Foundation.StorePopulation
import Llgw.StatePopulations
import Llgw.RiskFailClosed
import Llgw.ActionReasons
import Llgw.Foundation.Independence
import Llgw.ActionEffects
import Llgw.ActionFrames
import Llgw.ActionIndependence
import Llgw.MarketDataGrammar
import Llgw.PipelineConservation
import Llgw.RiskGuarantees
import Llgw.ExchangeHistory
import Llgw.DispatchGuard
import Llgw.TrackerTransparency
import Llgw.DrainSchedule
import Llgw.LifecycleEventSource
import Llgw.MarketDataParser
import Llgw.MarketSanity
import Llgw.Strategy
import Llgw.FeedReplay
import Llgw.EndToEnd
import Llgw.Foundation.GuardChain
import Llgw.RiskDecisions
import Llgw.Foundation.RoundingGrid
import Llgw.Foundation.FloatGrid
import Llgw.Foundation.FloatArithmetic
import Llgw.RiskMonotone
import Llgw.Foundation.Delimiters
import Llgw.FeedFile
import Llgw.OrderNumbering
import Llgw.Foundation.Decimal
import Llgw.Foundation.LoopRule
import Llgw.ReportText
import Llgw.CsvSplit
import Llgw.Foundation.Projection
import Llgw.OrderViews
import Llgw.OrderIsolation
import Llgw.RiskTightening
import Llgw.RefusedCalls
import Llgw.Flattening
import Llgw.Redelivery
import Llgw.HistoryCounts
import Llgw.ClosedLedgers
import Llgw.Disconnected
import Llgw.Foundation.Tables
import Llgw.Foundation.FixedPoint
import Llgw.MainTightening
import Llgw.JournalTranscript
import Llgw.SummaryText
import Llgw.MainOutput
import Llgw.BenchmarkArguments
import Llgw.Foundation.Batches
import Llgw.Foundation.OrderStatistics
import Llgw.BenchmarkSummaries
import Llgw.PathComparison
import Llgw.Foundation.FloatQuotients
import Llgw.PathAgreement
import Llgw.PathWorkloads
import Llgw.PathCsv
