import Karabiner.Types.MomentarySwitchEvent
import Karabiner.Foundation.Execution
import Karabiner.Foundation.CancellingList
import Karabiner.ModifierFlags.Manager
import Karabiner.ModifierFlags.Counters
import Karabiner.EventQueue.Environment
import Karabiner.EventQueue.Event
import Karabiner.EventQueue.PointingButtonManager
import Karabiner.EventQueue.Queue
import Karabiner.VirtualDevices.HidReport
import Karabiner.VirtualDevices.PostedKeys
import Karabiner.VirtualDevices.Queue
import Karabiner.VirtualDevices.KeyEventDispatcher
import Karabiner.VirtualDevices.ReportRefinement
import Karabiner.Manipulator.Manager
import Karabiner.VirtualDevices.PostEventToVirtualDevices
import Karabiner.VirtualDevices.Ungrab
import Karabiner.VirtualDevices.Release
import Karabiner.Grabber.HidValues
import Karabiner.Grabber.MergedInput
import Karabiner.Grabber.GrabbedDevice
import Karabiner.Grabber.DeliveredReleases
import Karabiner.Grabber.EventTapMonitor
import Karabiner.Grabber.EventTapFallback
import Karabiner.Basic.Definitions
import Karabiner.Basic.EventSender
import Karabiner.Basic.Manipulator
import Karabiner.Basic.Balance
import Karabiner.Basic.LookAhead
import Karabiner.Basic.Loop
import Karabiner.ModifierFlags.Sums
import Karabiner.EventQueue.StickyModifiers
import Karabiner.Configuration.DeviceCondition
import Karabiner.Console.ConsoleUserIdChangedReceiver
import Karabiner.Console.ServerBoundReports
import Karabiner.Grabber.DeviceSettings
import Karabiner.Console.ConsoleUserIdChangedClient
import Karabiner.Console.ClientJobs
import Karabiner.Console.RegisteredPeers
import Karabiner.Console.Registration
import Karabiner.Console.CurrentConsoleUser
import Karabiner.Configuration.ActiveFile
import Karabiner.Grabber.MonitorReplacement
import Karabiner.Grabber.MonitorHandover
import Karabiner.Basic.UngrabbedRecords
import Karabiner.Grabber.SecureEventInput
import Karabiner.EventQueue.SortedEvents
import Karabiner.Basic.FirstPosted
import Karabiner.Basic.PostingOrder
import Karabiner.Basic.HeldKeys
import Karabiner.Basic.OwnedKeys
import Karabiner.Basic.StuckKeys
import Karabiner.EventQueue.CanonicalOrder
import Karabiner.Grabber.BalanceFilter
import Karabiner.Grabber.MadeEntries
import Karabiner.Grabber.ReleasedMarkers
import Karabiner.Grabber.EntryOrder
import Karabiner.Basic.FullChord
import Karabiner.Basic.PostedList
import Karabiner.Basic.SentFlags
import Karabiner.Basic.RestoredFlags
import Karabiner.Basic.OptionalTasks
import Karabiner.Basic.RecordLife
import Karabiner.Basic.LiftedModifiers
import Karabiner.Basic.OtherKeyPressed
import Karabiner.Basic.HoldTimes
import Karabiner.Manipulator.MouseBasic
import Karabiner.Basic.TimeOrder
import Karabiner.Foundation.ExpiringList
import Karabiner.Grabber.EntrySums
import Karabiner.VirtualDevices.KeyboardSuppression
import Karabiner.EventQueue.ExpressionVariables
import Karabiner.Grabber.ElecomTrackball
import Karabiner.Grabber.FallbackRate
import Karabiner.Types.JsonUtility
import Karabiner.Foundation.Faults
import Karabiner.Manipulator.ScrollCounter
import Karabiner.Manipulator.ScrollArithmetic
import Karabiner.Manipulator.ScrollRuns
import Karabiner.Foundation.Ranking
import Karabiner.Manipulator.ScrollStops
import Karabiner.Foundation.Since
import Karabiner.VirtualDevices.ReportedButtons
import Karabiner.Basic.TimerCalls
import Karabiner.Basic.TimerLoop
import Karabiner.Basic.HeldDownTimer
import Karabiner.Basic.TimerRuns
import Karabiner.Basic.WithoutTimers
import Karabiner.Grabber.FlagsChanged
import Karabiner.Grabber.FnNavigation
import Karabiner.Cli.SetVariablesFromStdin
import Karabiner.Grabber.TemporarilyIgnoredDevices
import Karabiner.Configuration.SimpleModifications
import Karabiner.Configuration.SavedModifications
import Karabiner.Configuration.JsonHelper
import Karabiner.Configuration.WrittenIdentifiers
import Karabiner.Configuration.Device
import Karabiner.Configuration.Profile
import Karabiner.Configuration.ChosenIgnore
import Karabiner.Foundation.MovedElement
import Karabiner.Configuration.SelectedProfile
import Karabiner.Basic.DefinitionValues
import Karabiner.Basic.LoadedDefinition
import Karabiner.Basic.LoadedPosting
import Karabiner.Grabber.GamePadStickConverter
import Karabiner.Grabber.ContinuedMovement
import Karabiner.Basic.DelayedActions
import Karabiner.Basic.DelayedRuns
import Karabiner.Configuration.MoveElement
import Karabiner.Grabber.HatSwitchConverter
import Karabiner.JavaScript.HeapLimit
import Karabiner.Configuration.NormalizedIdentifiers
import Karabiner.VirtualDevices.TimeSpacing
import Karabiner.Foundation.Draining
import Karabiner.Manipulator.Connector
import Karabiner.Manipulator.Punctuality
import Karabiner.Manipulator.MouseMotionToScroll
import Karabiner.Grabber.Pipeline
import Karabiner.Foundation.LastResult
import Karabiner.Foundation.MemberLoop
import Karabiner.Manipulator.Conditions
import Karabiner.Manipulator.AskedConditions
import Karabiner.Manipulator.DescribedDevices
import Karabiner.Manipulator.ReadConditions
import Karabiner.Manipulator.FulfilledConditions
import Karabiner.Dispatcher.Dispatcher
import Karabiner.Dispatcher.Client
import Karabiner.Dispatcher.Timer
import Karabiner.Dispatcher.TimerProgress
import Karabiner.Foundation.CarriedRemainder
import Karabiner.VirtualDevices.CountConverter
import Karabiner.VirtualDevices.MouseKeyPosting
import Karabiner.VirtualDevices.MouseKeyMovement
import Karabiner.Lifecycle.SleepMessages
import Karabiner.Lifecycle.SleepAnswers
import Karabiner.Lifecycle.Termination
import Karabiner.Notification.NotificationMessages
import Karabiner.Notification.ExpirationTasks
import Karabiner.Notification.ShownMessages
import Karabiner.Foundation.BigEndian
import Karabiner.Stream.Protocol
import Karabiner.Stream.Peer
import Karabiner.Stream.PeerSteps
import Karabiner.Stream.Connection
import Karabiner.Stream.Client
import Karabiner.Stream.ClientRequests
import Karabiner.Foundation.Surviving
import Karabiner.Stream.ClientReconnects
import Karabiner.Foundation.History
import Karabiner.Stream.PeerSignals
import Karabiner.Stream.ClientSessions
import Karabiner.Stream.Server
import Karabiner.Stream.ServerPeers
import Karabiner.Stream.ServerRebinds
