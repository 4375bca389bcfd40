import BlinkerFluid.SiteTrace
import BlinkerFluid.OpenTabs
import BlinkerFluid.ListMove

/-! The per-site records of a browser session and their writers: page zoom, site
mode, history, open tabs and tab previews, the boot log and the heartbeats of heavy
pages. In a private session the writers of the first five but the site mode look at
their contents first; the heartbeats do not, and a line of the boot log leaves its
URL out but is written all the same. The hash that names a preview file is a
parameter; an image is the data it would be stored as. -/

namespace BlinkerFluid.PrivateRecord
open ByteString WebAddress StepRun ListMove AuthFlow SiteMode OpenTabs NavigationLog SiteTrace
open GlobalMemoryGuard (isHeavySiteURL)

/-- A running browser. The context of its contents is chosen at startup; `pageZoom`,
the overrides and the preview cache live with the process. -/
structure Browser where
  offTheRecord : Bool
  session : Session
  hostPreferences : HostPreferences
  history : List Bytes
  previewFiles : ℕ → Option Bytes
  trail : Trail
  flow : Flow
  recentAuth : RecentAuth
  isChatKeyboardRelocationSite : Bool
  heartbeatRunning : Bool
  posted : List PostedTask
  forceDesktopSite : Bool
  userAgentOverride : ℕ → UserAgentOverride
  pageZoom : ℕ → ℤ
  previewCache : ℕ → Option Bytes

structure Record where
  preferences : Preferences
  hostPreferences : HostPreferences
  history : List Bytes
  previewFiles : ℕ → Option Bytes
  trail : Trail

def Browser.record (s : Browser) : Record :=
  ⟨s.session.preferences, s.hostPreferences, s.history, s.previewFiles, s.trail⟩

inductive BrowserEvent
  | navigate (shell : ℕ) (event : LogEvent)
  | startLoad (reading : LoadReading) (shell : ℕ) (url : GURL)
  | stopLoad (shell : ℕ)
  | commitLoad (shell : ℕ)
  | loadingStateChanged (shell : ℕ) (isLoading : Bool) (stats : MemoryStats)
  | heavyHeartbeatTick (reading : HeartbeatReading)
  | setAddressBarURL (shell : ℕ) (url : GURL)
  | selectPageZoom (shell : ℕ) (percent : ℤ)
  | toggleDesktopSite (reading : LoadReading) (shell : ℕ)
  | runPostedTask (reading : LoadReading)
  | capturePreview (shell : ℕ) (visible : Bool) (image : Option Bytes)
  | openTab (inherited : UserAgentOverride)
  | reorderTabs (source target : ℕ)
  | closeTab (shell : ℕ)
  | closeContents (shell : ℕ)
  | persistOpenTabs (images : ℕ → Option Bytes)

def zoomPrefix : Bytes := "BlinkZoom_".toList

def readHostZoom (preferences : HostPreferences) (host : Bytes) : ℤ :=
  match preferences (hostPreferenceKey zoomPrefix host) with
  | some (.number percent) => percent
  | _ => 100

/-- A private session has no key: it would embed the host. -/
def blinkZoomKey (tab : Tab) : Option Bytes :=
  if tab.offTheRecord then none
  else if tab.lastCommittedURL.host.isEmpty then none
  else some (zoomPrefix ++ tab.lastCommittedURL.host)

def blinkApplyPageZoom (tab : Tab) (url : GURL) (s : Browser) : Browser :=
  if !url.schemeIsHTTPOrHTTPS then s
  else if tab.offTheRecord then s
  else { s with pageZoom :=
    Function.update s.pageZoom tab.shell (readHostZoom s.hostPreferences url.host) }

/-- A commit of the main frame that shows a page applies the zoom of its host. -/
def commitPageZoom (tab : Tab) (navigation : NavigationHandle) (s : Browser) : Browser :=
  if navigation.isInPrimaryMainFrame && navigation.hasCommitted && !navigation.isErrorPage then
    blinkApplyPageZoom tab navigation.url s
  else s

def selectPageZoom (tab : Tab) (percent : ℤ) (s : Browser) : Browser :=
  { s with
    hostPreferences := match blinkZoomKey tab with
      | some key => Function.update s.hostPreferences key (some (.number percent))
      | none => s.hostPreferences
    pageZoom := Function.update s.pageZoom tab.shell percent }

def Browser.site (s : Browser) (shell : ℕ) : Site :=
  ⟨s.hostPreferences, s.forceDesktopSite, s.userAgentOverride shell⟩

def Browser.withSite (s : Browser) (shell : ℕ) (site : Site) : Browser :=
  { s with
    hostPreferences := site.preferences
    forceDesktopSite := site.forceDesktopSite
    userAgentOverride := Function.update s.userAgentOverride shell site.userAgentOverride }

def kHistoryLimit : ℕ := 250

/-- `setURL:` shows the address and keeps the history, newest first. -/
def setURL (tab : Tab) (url : Bytes) (s : Browser) : Browser :=
  let isStartPage := url.isEmpty || url = kAboutBlankURL
  if !tab.offTheRecord && !isStartPage &&
      ("http://".toList.isPrefixOf url || "https://".toList.isPrefixOf url) then
    if s.history.head? ≠ some url then
      { s with history := (url :: s.history).take kHistoryLimit }
    else s
  else s

variable (p : Platform) (persistentHash : Bytes → ℕ) (legacyRuntime diagnostics : Bool)
  (stripMwebFallback : GURL → GURL)

/-- The name of a preview file, none for a blank tab. -/
def blinkTabPreviewPath (url : Option Bytes) : Option ℕ :=
  match url with
  | none => none
  | some url => if url.isEmpty || url = kAboutBlankURL then none else some (persistentHash url)

def blinkSaveTabPreview (tab : Tab) (image : Option Bytes) (s : Browser) : Browser :=
  if tab.offTheRecord then s
  else match blinkTabPreviewPath persistentHash (blinkTabURL s.session tab), image with
    | some path, some data =>
      { s with previewFiles := Function.update s.previewFiles path (some data) }
    | _, _ => s

/-- A visible window is drawn, cached and saved; a hidden one is left to the cache. -/
def blinkCaptureTabPreview (tab : Tab) (visible : Bool) (image : Option Bytes) (s : Browser) :
    Browser :=
  match visible, image with
  | true, some data =>
    blinkSaveTabPreview persistentHash tab image
      { s with previewCache := Function.update s.previewCache tab.shell (some data) }
  | _, _ => s

def saveOpenTabs (s : Browser) : Browser := { s with session := blinkSaveOpenTabs p s.session }

/-- `BlinkSaveOpenTabs(true)`: with the previews of the tabs it lists. -/
def blinkPersistOpenTabs (images : ℕ → Option Bytes) (s : Browser) : Browser :=
  if s.session.windows.any (·.offTheRecord) then s
  else
    let listed := s.session.windows.filter fun tab => (blinkTabURL s.session tab).isSome
    saveOpenTabs p (listed.foldl (fun s tab =>
      blinkSaveTabPreview persistentHash tab (images tab.shell) s) s)

def Browser.logSettings (s : Browser) : LogSettings := ⟨diagnostics, s.offTheRecord⟩

def Browser.trace (texts : List Bytes) (s : Browser) : Browser :=
  { s with trail := s.trail.writeAll (traced (s.logSettings diagnostics) texts) }

def onTab (s : Browser) (shell : ℕ) (f : Tab → Browser → Browser) : Browser :=
  match findTab s.session shell with
  | none => s
  | some tab => f tab s

def Browser.process (s : Browser) (shell : ℕ) : Process where
  flow := s.flow
  recent := s.recentAuth
  site := s.site shell
  isChatKeyboardRelocationSite := s.isChatKeyboardRelocationSite

/-- The callback of a navigation: what its commit applies, then the flow. -/
def navigateTab (tab : Tab) (event : LogEvent) (s : Browser) : Browser :=
  let posted := event.navigation?.toList.flatMap fun event =>
    (navigate stripMwebFallback s.flow event).2
  let s := match event with
    | .didFinish navigation => commitPageZoom tab navigation s
    | _ => s
  let process := logStep (s.logSettings diagnostics) stripMwebFallback (s.process tab.shell) event
  { s.withSite tab.shell process.site with
    trail := s.trail.writeAll (process.log.map fun line => .line line.text)
    flow := process.flow
    recentAuth := process.recent
    isChatKeyboardRelocationSite := process.isChatKeyboardRelocationSite
    posted := s.posted ++ posted }

/-- The watchdog of a heavy load stops the load of the front window. -/
def stopFront (session : Session) : Session :=
  match session.windows.head? with
  | none => session
  | some front => updateTab front.shell Tab.stop session

def frontLoading (session : Session) : Bool :=
  (session.windows.head?.bind (·.pendingEntry)).isSome

def pausesFront (reading : LoadReading) (url : GURL) (session : Session) : Bool :=
  !isAuthFlowURL url && isHeavySiteURL url && reading.rapidGrowth && frontLoading session

/-- The load of the tab that the new one finds behind the guards. -/
def pendingLoad (reading : LoadReading) (url : GURL) (tab : Tab) (session : Session) :
    Option GURL :=
  if pausesFront reading url session && session.windows.head?.map (·.shell) = some tab.shell then
    none
  else tab.pendingEntry

def startTab (reading : LoadReading) (url : GURL) (tab : Tab) (session : Session) : Session :=
  let paused := if pausesFront reading url session then stopFront session else session
  if loadRefused reading url tab.visibleURL || pendingLoad reading url tab session = some url then
    paused
  else updateTab tab.shell (Tab.start url) paused

def tabWrites (reading : LoadReading) (url : GURL) (tab : Tab) (s : Browser) : List Write :=
  loadWrites (s.logSettings diagnostics) reading url tab.visibleURL
    (pendingLoad reading url tab s.session) (frontLoading s.session)

/-- `Shell::LoadURL`. -/
def loadTab (reading : LoadReading) (url : GURL) (tab : Tab) (s : Browser) : Browser :=
  { s.withSite tab.shell (applyLegacyGoogleAuthIdentity legacyRuntime (s.site tab.shell) url) with
    session := startTab reading url tab s.session
    trail := s.trail.writeAll (tabWrites diagnostics reading url tab s) }

def Tab.shownURL (tab : Tab) : GURL :=
  if tab.lastCommittedURL.isEmpty then tab.visibleURL else tab.lastCommittedURL

def loadingStateChanged (tab : Tab) (isLoading : Bool) (stats : MemoryStats) (s : Browser) :
    Browser :=
  let url := Tab.shownURL tab
  { s with
    isChatKeyboardRelocationSite :=
      if url.host.isEmpty then s.isChatKeyboardRelocationSite else isChatPage url
    heartbeatRunning := s.heartbeatRunning || (!isLoading && isMonitoredHeavyHost url)
    trail := s.trail.writeAll
      (loadingStateWrites (s.logSettings diagnostics) isLoading url stats) }

/-- The timer looks at the front window, and stops away from the monitored hosts. -/
def heavyHeartbeatTick (reading : HeartbeatReading) (s : Browser) : Browser :=
  if !s.heartbeatRunning then s
  else match s.session.windows.head? with
    | none => { s with heartbeatRunning := false }
    | some front =>
      let url := Tab.shownURL front
      if !isMonitoredHeavyHost url then { s with heartbeatRunning := false }
      else
        let writes := heavyHeartbeatWrites (s.logSettings diagnostics) reading url
        { s with trail := s.trail.writeAll writes }

def lockedTexts : List Bytes :=
  ["AUTH_FLOW: site mode locked during auth".toList,
    "AUTH_FLOW: user agent stable during auth".toList]

def toggleTexts (setDesktop : Bool) : List Bytes :=
  ["SITE_MODE: button toggled".toList,
    if setDesktop then "SITE_MODE: set desktop".toList else "SITE_MODE: set mobile".toList,
    "SITE_MODE: applying user agent=".toList ++
      (if setDesktop then kBlinkDesktopUserAgent else "default mobile".toList),
    if setDesktop then "SITE_MODE: UA metadata mobile=false".toList
    else "SITE_MODE: UA metadata mobile=true".toList,
    "SITE_MODE: renderer prefs updated".toList,
    if setDesktop then "SITE_MODE: desktop device metrics width=980".toList
    else "SITE_MODE: mobile device metrics restored".toList]

def Tab.currentURL (tab : Tab) : GURL :=
  if !tab.lastCommittedURL.isValid then tab.visibleURL else tab.lastCommittedURL

/-- The menu button, with the load of the page in its new mode. -/
def toggleTab (reading : LoadReading) (tab : Tab) (s : Browser) : Browser :=
  if s.flow.inAuthFlow then s.trace diagnostics lockedTexts
  else
    let toggled := s.withSite tab.shell (toggleDesktopSite legacyRuntime s.flow
      tab.lastCommittedURL tab.visibleURL (s.site tab.shell))
    let s := toggled.trace diagnostics (toggleTexts (!(s.userAgentOverride tab.shell).active))
    let current := Tab.currentURL tab
    if current.isValid && current.schemeIsHTTPOrHTTPS then
      loadTab legacyRuntime diagnostics reading current tab s
    else s

/-- The lines of a recovery, before it loads the provider. -/
def taskTexts (settings : LogSettings) : PostedTask → List Bytes
  | .stopFrontShellLoad => []
  | .breakChatGPTMwebLoop strippedUrl =>
    ["AUTH_FLOW: chatgpt auth profile=mobile-safari".toList,
      "AUTH_FLOW: mweb loop stopped safely".toList] ++
    if strippedUrl.isValid then
      ["AUTH_FLOW: attempting direct provider fallback".toList,
        "AUTH_FLOW: direct provider url=".toList ++ loggableURLSpec settings strippedUrl,
        "AUTH_FLOW: retrying without mweb_fallback".toList,
        "AUTH_FLOW: stripped mweb_fallback".toList]
    else ["AUTH_FLOW: no provider url found".toList]

def runAction (reading : LoadReading) (shell : ℕ) (s : Browser) : TabAction → Browser
  | .setUserAgentOverride userAgent =>
    s.withSite shell (applyAction legacyRuntime (s.site shell) (.setUserAgentOverride userAgent))
  | .stop => { s with session := updateTab shell Tab.stop s.session }
  | .loadURL url => onTab s shell (loadTab legacyRuntime diagnostics reading url)

def runTask (reading : LoadReading) (s : Browser) : Browser :=
  match s.posted with
  | [] => s
  | task :: rest =>
    let s := { s with posted := rest }
    match s.session.windows.head? with
    | none => s
    | some front =>
      (frontActions task).foldl (runAction legacyRuntime diagnostics reading front.shell)
        (s.trace diagnostics (taskTexts (s.logSettings diagnostics) task))

def openShell (inherited : UserAgentOverride) (s : Browser) : Browser :=
  { s with
    session := createShell s.offTheRecord s.session
    userAgentOverride := Function.update s.userAgentOverride s.session.nextShell inherited }

def closeShell (shell : ℕ) (s : Browser) : Browser :=
  { s with session := { s.session with
    windows := s.session.windows.eraseP (·.shell = shell) } }

def browserStep (s : Browser) : BrowserEvent → Browser
  | .navigate shell event => onTab s shell fun tab =>
      navigateTab diagnostics stripMwebFallback tab event
  | .startLoad reading shell url => onTab s shell (loadTab legacyRuntime diagnostics reading url)
  | .stopLoad shell => { s with session := updateTab shell Tab.stop s.session }
  | .commitLoad shell => { s with session := updateTab shell Tab.commit s.session }
  | .loadingStateChanged shell isLoading stats => onTab s shell fun tab =>
      loadingStateChanged diagnostics tab isLoading stats
  | .heavyHeartbeatTick reading => heavyHeartbeatTick diagnostics reading s
  | .setAddressBarURL shell url => onTab s shell fun tab s =>
      saveOpenTabs p (setURL tab url.spec s)
  | .selectPageZoom shell percent => onTab s shell fun tab => selectPageZoom tab percent
  | .toggleDesktopSite reading shell => onTab s shell (toggleTab legacyRuntime diagnostics reading)
  | .runPostedTask reading => runTask legacyRuntime diagnostics reading s
  | .capturePreview shell visible image => onTab s shell fun tab =>
      blinkCaptureTabPreview persistentHash tab visible image
  | .openTab inherited => saveOpenTabs p (openShell inherited s)
  | .reorderTabs source target =>
    if source < s.session.windows.length ∧ target < s.session.windows.length then
      saveOpenTabs p { s with session := { s.session with
        windows := moveEntry source target s.session.windows } }
    else s
  | .closeTab shell => onTab s shell fun _ s =>
      if s.session.windows.length ≤ 1 then s else saveOpenTabs p (closeShell shell s)
  | .closeContents shell => closeShell shell s
  | .persistOpenTabs images => blinkPersistOpenTabs p persistentHash images s

@[simp] theorem withSite_record (s : Browser) (shell : ℕ) (site : Site) :
    (s.withSite shell site).record = { s.record with hostPreferences := site.preferences } := rfl

@[simp] theorem stopFront_preferences (session : Session) :
    (stopFront session).preferences = session.preferences := by
  unfold stopFront
  split <;> rfl

theorem Tab.commit_offTheRecord (tab : Tab) : tab.commit.offTheRecord = tab.offTheRecord := by
  unfold Tab.commit
  split <;> rfl

/-- `https://example.test/`. -/
def visitedPage : GURL :=
  ⟨true, "https://example.test/".toList, "https".toList, "example.test".toList, "/".toList⟩

def quietStats : MemoryStats := ⟨GlobalMemoryGuard.kFallbackCeiling, 0, 0⟩

def quietReading : LoadReading :=
  ⟨quietStats, quietStats, false, false, quietStats, quietStats, quietStats⟩

def visit : List BrowserEvent := [
  .startLoad quietReading 0 visitedPage,
  .navigate 0 (.didFinish { url := visitedPage }),
  .commitLoad 0,
  .loadingStateChanged 0 false quietStats,
  .setAddressBarURL 0 visitedPage,
  .selectPageZoom 0 150,
  .capturePreview 0 true (some [])]

end BlinkerFluid.PrivateRecord
