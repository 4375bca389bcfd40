import BlinkerFluid.NavigationLog
import BlinkerFluid.GlobalMemoryGuard

/-! What loads and heartbeats leave behind about a site: lines of the boot log, and two
preferences that are read after a crash. A function is given as the writes it makes, in
order. The memory counters of a line are left out, and so are the tracing lines that a
load writes only behind another one. -/

namespace BlinkerFluid.SiteTrace
open ByteString WebAddress SitePolicy AuthFlow GlobalMemoryGuard NavigationLog

inductive Write where
  | line (text : Bytes)
  | lastHeartbeatFootprint (value : Bytes)
  | recentHeartbeat (entry : Bytes)

/-- The boot log, `BlinkLastHeartbeatFootprint` and `BlinkRecentHeartbeats`. -/
structure Trail where
  bootLog : List Bytes
  lastHeartbeatFootprint : Option Bytes
  recentHeartbeats : List Bytes

def storeRecentHeartbeat (entry : Bytes) (recent : List Bytes) : List Bytes :=
  let entries := recent ++ [entry]
  entries.drop (entries.length - 5)

def Trail.write (trail : Trail) : Write → Trail
  | .line text => { trail with bootLog := trail.bootLog ++ [text] }
  | .lastHeartbeatFootprint value => { trail with lastHeartbeatFootprint := some value }
  | .recentHeartbeat entry =>
    { trail with recentHeartbeats := storeRecentHeartbeat entry trail.recentHeartbeats }

def Trail.writeAll (trail : Trail) (writes : List Write) : Trail := writes.foldl Trail.write trail

structure MemoryStats where
  ceiling : ℕ
  physFootprint : ℕ
  residentSize : ℕ

/-- What one load reads of the memory, in turn, and what its checks for a duplicate view
and for rapid growth find. -/
structure LoadReading where
  before : MemoryStats
  danger : MemoryStats
  persistentDuplicate : Bool
  rapidGrowth : Bool
  guardBefore : MemoryStats
  after : MemoryStats
  guardAfter : MemoryStats

structure HeartbeatReading where
  time : ℕ
  stats : MemoryStats
  activeViews : ℕ
  activeCompositors : ℕ

def isMonitoredHeavyHost (url : GURL) : Bool := url.isValid && hasTrait url.host kMonitorMemory

variable (settings : LogSettings)

/-- `BLINKER_DIAG`, where it is compiled in. -/
def traced (texts : List Bytes) : List Write :=
  if settings.diagnostics then texts.map .line else []

def heartbeatText (url : GURL) : Bytes := "HEARTBEAT: url=".toList ++ loggableURLSpec settings url

def storeHeavyPageHeartbeat (url : GURL) (stats : MemoryStats) : List Write :=
  if !url.isValid || !isHeavySiteURL url then []
  else .lastHeartbeatFootprint (number stats.physFootprint) :: traced settings
    [heartbeatText settings url]

def blinkLogMemoryPressurePoint (label : Bytes) (url : GURL) (stats : MemoryStats) : List Write :=
  traced settings ["MEMSTAT: ".toList ++ label ++ " url=".toList ++ loggableURLSpec settings url] ++
    storeHeavyPageHeartbeat settings url stats ++
    if stats.physFootprint ≥ criticalFootprint stats.ceiling then
      traced settings ["GLOBAL_MEM_GUARD: footprint over critical threshold -> purge".toList]
    else []

def runSiteSwitchCleanupIfNeeded (url currentUrl : GURL) : List Write :=
  if !url.schemeIsHTTPOrHTTPS || (url.isValid && currentUrl.isValid && url.host = currentUrl.host)
  then []
  else traced settings
    ["SITE_SWITCH_CLEANUP: running before top-level site change".toList,
      "SITE_SWITCH_CLEANUP: memory pressure purge sent".toList,
      "SITE_SWITCH_CLEANUP: transient caches cleared".toList]

/-- The watchdog of a heavy load; it stops a load of the front window. -/
def runOOMWatchdogForHeavyLoad (rapidGrowth frontLoading : Bool) : List Write :=
  if !rapidGrowth then []
  else [.line "OOM_WATCHDOG: rapid memory growth".toList,
      .line "OOM_WATCHDOG: critical purge sent".toList] ++
    if frontLoading then [.line "OOM_WATCHDOG: heavy load paused".toList] else []

def directAllocationDanger (reading : LoadReading) : Bool :=
  reading.danger.physFootprint ≥ 350 * kMiB && reading.persistentDuplicate

def applyDirectAllocationDangerGuard (reading : LoadReading) (url : GURL) (frontLoading : Bool) :
    List Write :=
  if !isHeavySiteURL url then []
  else
    runOOMWatchdogForHeavyLoad reading.rapidGrowth frontLoading ++
      [.line ("OOM_GUARD: direct allocation risk url=".toList ++ loggableURLSpec settings url)] ++
      if directAllocationDanger reading then
        [.line "OOM_GUARD: active compositor leak suspected".toList,
          .line "OOM_GUARD: blocked navigation before PartitionAlloc risk".toList]
      else []

def guardOutcome (stats : MemoryStats) (url currentUrl : GURL) (topLevel : Bool) : GuardOutcome :=
  applyGlobalMemoryGuard stats.ceiling stats.physFootprint url currentUrl topLevel

/-- The first line of the guard; the others follow it. -/
def globalMemoryGuardWrites (label : Bytes) (url : GURL) : List Write :=
  if !isHeavySiteURL url then []
  else traced settings
    ["GLOBAL_MEM_GUARD: ".toList ++ label ++ " url=".toList ++ loggableURLSpec settings url]

def loadRefused (reading : LoadReading) (url currentUrl : GURL) : Bool :=
  !isAuthFlowURL url && ((isHeavySiteURL url && directAllocationDanger reading) ||
    (guardOutcome reading.guardBefore url currentUrl true).blocked)

def guardWrites (reading : LoadReading) (url currentUrl : GURL) (frontLoading : Bool) :
    List Write :=
  if isAuthFlowURL url then
    traced settings ["AUTH_FLOW: guard purge-only".toList, "AUTH_FLOW: redirect allowed".toList]
  else
    runSiteSwitchCleanupIfNeeded settings url currentUrl ++
      applyDirectAllocationDangerGuard settings reading url frontLoading ++
      if isHeavySiteURL url && directAllocationDanger reading then []
      else globalMemoryGuardWrites settings "before load".toList url

/-- `Shell::LoadURLForFrame` of the top frame. A load that is on its way already is not
started again. -/
def loadWrites (reading : LoadReading) (url currentUrl : GURL) (pending : Option GURL)
    (frontLoading : Bool) : List Write :=
  let reddit := isRedditURL url
  blinkLogMemoryPressurePoint settings
      (if reddit then "before reddit.com load".toList else "before page load".toList) url
      reading.before ++
    guardWrites settings reading url currentUrl frontLoading ++
    if loadRefused reading url currentUrl || pending = some url then []
    else
      blinkLogMemoryPressurePoint settings
          (if reddit then "after reddit.com load request".toList
            else "after page load request".toList) url reading.after ++
        globalMemoryGuardWrites settings "after load request".toList url

/-- `Shell::LoadingStateChanged`, for the address that the tab shows. -/
def loadingStateWrites (isLoading : Bool) (url : GURL) (stats : MemoryStats) : List Write :=
  traced settings (keyboardTexts settings url) ++
    blinkLogMemoryPressurePoint settings
      (if isLoading then "page load started".toList else "page load stopped".toList) url stats ++
    globalMemoryGuardWrites settings
      (if isLoading then "loading state active".toList else "loading state stopped".toList) url

def heartbeatEntry (reading : HeartbeatReading) (url : GURL) : Bytes :=
  ("ts=".toList ++ number reading.time ++
    " footprint=".toList ++ number reading.stats.physFootprint ++
    " rss=".toList ++ number reading.stats.residentSize ++
    " rwhv=".toList ++ number reading.activeViews ++
    " comps=".toList ++ number reading.activeCompositors ++
    " url=".toList ++ loggableURLSpec settings url).take 639

/-- `HeavyHeartbeatTick` at a monitored host. -/
def heavyHeartbeatWrites (reading : HeartbeatReading) (url : GURL) : List Write :=
  traced settings ["HEARTBEAT_HEAVY: url=".toList ++ loggableURLSpec settings url] ++
    [.recentHeartbeat (heartbeatEntry settings reading url)]

section Effects

variable (trail : Trail)

variable {settings}

end Effects

end BlinkerFluid.SiteTrace
