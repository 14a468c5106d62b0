import Slas.Type.DateSteps
import Slas.Type.TimeArithmetic
import Slas.Network.RoundTrip
import Slas.Network.WebClient
import Slas.Network.ReceiveSafe
import Slas.Network.ReceiveEnds
import Slas.Web.CommandReceiver
import Slas.Notifier.Loop
import Slas.Mailer.PayloadSource
import Slas.Mailer.Mailer
import Slas.Agent.DBusThread
import Slas.Agent.AcceptedEntries
import Slas.Analyzer.Analyzer
import Slas.Database.TimeRule
import Slas.Database.MultiRowWrites
import Slas.Database.InternedIds
import Slas.Bash.LogIntegrity
import Slas.Bash.DailyUserStatisticsComplete
import Slas.Bash.DailySystemStatisticsExact
import Slas.Bash.ConfigurationLearningSet
import Slas.Bash.NeuralNetwork
import Slas.Bash.SelectedCommands
import Slas.Bash.FailedSelection
import Slas.Bash.LearningSetFile
import Slas.Bash.Classification
import Slas.Bash.CommandsStatisticsCurrent
import Slas.Bash.NetworksUpToDate
import Slas.Bash.ChangesKept
import Slas.Bash.SavedConfigurations
import Slas.Bash.LiveSelections
import Slas.Apache.SessionPartition
import Slas.Apache.LogAccounting
import Slas.Apache.WholeLearningSet
import Slas.Apache.KnnCoverage
import Slas.Apache.NeighboursTable
import Slas.Apache.ProcessingOrder
import Slas.Apache.SessionMarking
import Slas.Apache.IqrMarking
import Slas.Apache.VirtualhostConfiguration
import Slas.Apache.DetectionResults
import Slas.Apache.Writers
import Slas.Apache.DBusObject
import Slas.Apache.KnownNames
import Slas.Apache.StatementClients
import Slas.System.CalmDelivery
import Slas.Lib.Lines
import Slas.Web.Answers
