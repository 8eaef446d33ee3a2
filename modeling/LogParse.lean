import LogParse.Library.Machine
import LogParse.Library.Ring
import LogParse.Library.Ledger
import LogParse.Library.Threads
import LogParse.Library.Updates
import LogParse.Library.Cover
import LogParse.Library.Strip
import LogParse.Library.SharedLock
import LogParse.Library.Shelf
import LogParse.Library.Locality
import LogParse.Config
import LogParse.Parser
import LogParse.ConfigFields
import LogParse.ConfigText
import LogParse.ConfigLayout
import LogParse.ConfigOverlay
import LogParse.Queue
import LogParse.QueueCustody
import LogParse.QueueWakeup
import LogParse.QueueSettling
import LogParse.ConfiguredQueue
import LogParse.AsyncBackend
import LogParse.AsyncAccounting
import LogParse.AsyncFlush
import LogParse.AsyncShutdown
import LogParse.AsyncProgress
import LogParse.Construction
import LogParse.ConstructedBackend
import LogParse.AsyncTermination
import LogParse.QueueRetention
import LogParse.AsyncProducers
import LogParse.RotatingFileSink
import LogParse.RotationShift
import LogParse.RotatingHistory
import LogParse.RotationLimit
import LogParse.RotationFailure
import LogParse.RotationOrder
import LogParse.FileSink
import LogParse.Formatter
import LogParse.PatternMeaning
import LogParse.PatternWriting
import LogParse.TimestampFailure
import LogParse.Sink
import LogParse.SinkFanOut
import LogParse.NestedLogging
import LogParse.LogThreads
import LogParse.Logger
import LogParse.BuiltLogger
import LogParse.LoggerClient
import LogParse.LoggerEquivalence
import LogParse.SinkDirectory
import LogParse.LoggerFiles
import LogParse.LoggerConstruction
import LogParse.LoggerTermination
import LogParse.AsyncLines
import LogParse.LateLogger
import LogParse.LateChoice
import LogParse.LatePatterns
import LogParse.LateRuns
import LogParse.ConstructedBackend
import LogParse.BuiltLogger
