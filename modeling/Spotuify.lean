import Spotuify.GuardedMachine
import Spotuify.Utf8Text
import Spotuify.LogUpdates
import Spotuify.RecoveryIntent
import Spotuify.RecordedMutations
import Spotuify.MutationSystem
import Spotuify.MutationEffects
import Spotuify.LifecycleSteps
import Spotuify.ClaimLinks
import Spotuify.SqlTable
import Spotuify.ResourceUri
import Spotuify.OperationLog
import Spotuify.MutationRequest
import Spotuify.StoreTables
import Spotuify.StoreTransactions
import Spotuify.MutationClaims
import Spotuify.ClaimPhases
import Spotuify.KeyedMutations
import Spotuify.ProviderMutation
import Spotuify.UndoPlan
import Spotuify.PlaylistAddUndo
import Spotuify.PlaybackClock
import Spotuify.EmptyPolls
import Spotuify.ClockInputs
import Spotuify.ProgressContinuity
import Spotuify.PollPriority
import Spotuify.SeekInputs
import Spotuify.SecretRedaction
import Spotuify.SecretReadings
import Spotuify.SecretSpans
import Spotuify.LabelledPass
import Spotuify.QueueMerge
import Spotuify.PendingAppends
import Spotuify.AppendHistories
import Spotuify.ListeningHistory
import Spotuify.PageCollectors
import Spotuify.PlaylistAccess
import Spotuify.ListenSessions
import Spotuify.ListenFacts
import Spotuify.PausedListening
import Spotuify.MeteredSessions
import Spotuify.ReconciliationClaims
import Spotuify.ReconciliationWorkers
import Spotuify.PlayerRecovery
import Spotuify.ReconnectRuns
import Spotuify.ReconnectFacts
import Spotuify.DurablePlayback
import Spotuify.DurableFacts
import Spotuify.PlayerPolicies
import Spotuify.Cooldowns
import Spotuify.RateLimits
import Spotuify.SyncScheduler
import Spotuify.PlaylistRemoveUndo
import Spotuify.LibraryUndo
import Spotuify.UndoSelection
import Spotuify.RecoverableClaims
import Spotuify.UndoSteps
import Spotuify.UndoLatest
import Spotuify.BulkUndoOrder
import Spotuify.BulkUndoRecovery
import Spotuify.ReplayedMutations
import Spotuify.OpsRedo
import Spotuify.PlaylistGate
import Spotuify.GateSoundness
import Spotuify.Upserts
import Spotuify.ListenStore
import Spotuify.ListenMetrics
import Spotuify.DerivationRebuild
import Spotuify.RebuildFacts
import Spotuify.ScrobbleImports
import Spotuify.ImportUndo
import Spotuify.MonthCalendar
import Spotuify.Reminders
import Spotuify.ReminderOccurrences
import Spotuify.ReminderRuns
import Spotuify.AuthSessions
import Spotuify.AuthOutcomes
import Spotuify.BinaryFloats
import Spotuify.JsonCodecs
import Spotuify.ReleaseDates
import Spotuify.WireTypes
import Spotuify.DaemonEvents
import Spotuify.EventRelays
import Spotuify.BroadcastReceivers
import Spotuify.ClientConnections
import Spotuify.ConnectionRuns
import Spotuify.PartialReceipts
import Spotuify.BatchedMutations
import Spotuify.AudioOutput
import Spotuify.PlaylistPreview
import Spotuify.LyricLines
import Spotuify.LyricEntries
import Spotuify.SpotifyTargets
import Spotuify.SavedTracksPage
import Spotuify.IpcSessions
import Spotuify.IpcAnswers
import Spotuify.CoverFiles
import Spotuify.CoverCache
import Spotuify.ReleaseDateTexts
import Spotuify.SendLoop
import Spotuify.PartialSummaries
import Spotuify.SeedMerges
import Spotuify.SortedMaps
import Spotuify.SearchPages
import Spotuify.SearchRuns
import Spotuify.KeyedChanges
import Spotuify.PolicyNotices
import Spotuify.NoticeStreams
import Spotuify.PolicyNoticeRuns
import Spotuify.LibraryCache
import Spotuify.LibraryRuns
import Spotuify.ProviderRouting
import Spotuify.RoutedTargets
import Spotuify.OrderedLocks
import Spotuify.RegistryCommits
import Spotuify.RegistryLocks
import Spotuify.RegistryRuns
import Spotuify.PlaylistMarks
import Spotuify.MarkedRemovals
