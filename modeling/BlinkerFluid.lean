import BlinkerFluid.FilterDecision
import BlinkerFluid.TierGuardRuns
import BlinkerFluid.CodeRangeRegistration
import BlinkerFluid.WriteMirror
import BlinkerFluid.RestoreLoop
import BlinkerFluid.SessionRestore
import BlinkerFluid.LaunchRecord
import BlinkerFluid.FilterOrder
import BlinkerFluid.AuthLock
import BlinkerFluid.TabSignIn
import BlinkerFluid.UserAgentStability
import BlinkerFluid.PrivateLog
import BlinkerFluid.PrivateRecord
import BlinkerFluid.KeyboardInset
import BlinkerFluid.KeyboardDismissal
import BlinkerFluid.TabHandOver
import BlinkerFluid.StalePointer
import BlinkerFluid.SwitcherSession
import BlinkerFluid.NetworkRules
import BlinkerFluid.CosmeticPaths
import BlinkerFluid.UnsupportedRules
import BlinkerFluid.FreshUnlock
import BlinkerFluid.DownloadClobber
import BlinkerFluid.PendingRestores
import BlinkerFluid.PopupTrackers
import BlinkerFluid.RuleReach
import BlinkerFluid.HostsFile
import BlinkerFluid.TierLadder
import BlinkerFluid.BootLogTokens
import BlinkerFluid.AddressBar
import BlinkerFluid.HostSpelling
import BlinkerFluid.CosmeticNesting
import BlinkerFluid.TabSteps
import BlinkerFluid.KeyTab
import BlinkerFluid.CodeWrites
import BlinkerFluid.ProxyChoice
import BlinkerFluid.WindowRefusal
import BlinkerFluid.PopupOpeners
import BlinkerFluid.PermissionLeaks
import BlinkerFluid.IdleSweep
import BlinkerFluid.SiteRecords
import BlinkerFluid.LayoutPreferences
import BlinkerFluid.TouchTable
import BlinkerFluid.AvatarCache
import BlinkerFluid.BookmarkViews
import BlinkerFluid.DownloadList
import BlinkerFluid.Fullscreen
import BlinkerFluid.HistoryLog
import BlinkerFluid.MediaAccept
import BlinkerFluid.PhotoPicks
import BlinkerFluid.PullRefresh
import BlinkerFluid.SuggestionList
import BlinkerFluid.MemoryWatchdog
import BlinkerFluid.NavigationRings
import BlinkerFluid.OrderedMap
import BlinkerFluid.SpanMap
import BlinkerFluid.JitPages
import BlinkerFluid.JitRecord
import BlinkerFluid.JitRuns
import BlinkerFluid.AllocationPool
import BlinkerFluid.PageUnits
import BlinkerFluid.CodeAllocator
import BlinkerFluid.CodeManager
import BlinkerFluid.CodeTable
import BlinkerFluid.CodeSpaces
import BlinkerFluid.MachFrame
import BlinkerFluid.MachWriter
import BlinkerFluid.MachChannel
import BlinkerFluid.MachLinks
import BlinkerFluid.MachChannelRuns
import BlinkerFluid.MediaDevices
import BlinkerFluid.MediaScans
import BlinkerFluid.MediaWatch
import BlinkerFluid.MediaRequests
