import BlinkerFluid.TabWindows
import BlinkerFluid.GlobalMemoryGuard
import BlinkerFluid.AuthFlow
import BlinkerFluid.ListMove

/-! The windows of the open tabs, with the memory guards of a load as they are: each guard
reads the footprint for itself, and what it decides depends on the address and on the page
in front of it. A tab handler runs one or more of these steps; a new tab is created and
then shown, and the tab that makes way for another is closed once that one is shown. -/

namespace BlinkerFluid.TabSteps
open WebAddress SitePolicy GlobalMemoryGuard AuthFlow ListMove
open OpenTabs (Platform Preferences Tab blankURL getRestoreTabURLs getStartupURL)
open TabWindows (Screen TabWindow NewContents Navigation isOpen findWindow mapWindows
  makeKeyAndVisible blinkDiscardBackgroundTabs blinkDiscardBackgroundTabsUnderPressure
  blinkDiscardIdleBackgroundTabs discardBehindFront createShell emplacePendingRestoreURL)

structure MemoryReading where
  ceiling : ℕ
  footprint : ℕ
deriving DecidableEq

/-- What the guards of one load find, in turn; the last one looks when the load is on
its way. -/
structure LoadMemory where
  danger : ℕ
  persistentDuplicate : Bool
  before : MemoryReading
  after : MemoryReading
deriving DecidableEq

def MemoryReading.low : MemoryReading := ⟨kFallbackCeiling, 0⟩

def LoadMemory.low : LoadMemory := ⟨0, false, .low, .low⟩

theorem findWindow_mapWindows {f : TabWindow → TabWindow} (keeps : ∀ tab, (f tab).shell = tab.shell)
    (s : Screen) (shell : ℕ) : findWindow (mapWindows f s) shell = (findWindow s shell).map f := by
  simp only [findWindow, mapWindows, List.find?_map, Function.comp_def, keeps]

theorem findWindow_isSome_iff {s : Screen} {shell : ℕ} :
    (findWindow s shell).isSome ↔ isOpen s shell = true := by
  simp [findWindow, isOpen]

theorem shell_of_findWindow {s : Screen} {shell : ℕ} {tab : TabWindow}
    (found : findWindow s shell = some tab) : tab.shell = shell := by
  simpa using List.find?_some found

def pendingEntry (s : Screen) (shell : ℕ) : Option GURL :=
  (findWindow s shell).bind (·.pendingEntry)

def visibleURL (s : Screen) (shell : ℕ) : GURL :=
  ((findWindow s shell).map (·.visibleURL)).getD GURL.none

def applyDirectAllocationDangerGuard (memory : LoadMemory) (url : GURL) : Bool :=
  isHeavySiteURL url && memory.danger ≥ 350 * kMiB && memory.persistentDuplicate

def guardBefore (memory : LoadMemory) (url currentUrl : GURL) : GuardOutcome :=
  applyGlobalMemoryGuard memory.before.ceiling memory.before.footprint url currentUrl true

def guardAfter (memory : LoadMemory) (url currentUrl : GURL) : GuardOutcome :=
  applyGlobalMemoryGuard memory.after.ceiling memory.after.footprint url currentUrl false

def shedIf (outcome : GuardOutcome) (s : Screen) : Screen :=
  if outcome.discardsBackgroundTabs then blinkDiscardBackgroundTabsUnderPressure s else s

/-- The address is handed to the navigation controller, unless it is on its way already. -/
def startLoad (memory : LoadMemory) (shell : ℕ) (url currentUrl : GURL) (s : Screen) : Screen :=
  if pendingEntry s shell = some url then s
  else shedIf (guardAfter memory url currentUrl)
    (mapWindows (TabWindow.only shell (TabWindow.inTab (Tab.start url))) s)

def loadURL (memory : LoadMemory) (shell : ℕ) (url : GURL) (s : Screen) : Screen :=
  let currentUrl := visibleURL s shell
  if isAuthFlowURL url then startLoad memory shell url currentUrl s
  else if applyDirectAllocationDangerGuard memory url then s
  else
    let outcome := guardBefore memory url currentUrl
    let s := shedIf outcome s
    if outcome.blocked then s else startLoad memory shell url currentUrl s

def shouldBlockNewWebContents (memory : MemoryReading) (s : Screen) : Bool :=
  !s.windows.isEmpty && memory.footprint ≥ blockNewContentsFootprint memory.ceiling

/-- `Shell::CreateNewWindow`, with the new shell if the window was not refused. -/
def createNewWindow (window : MemoryReading) (load : LoadMemory) (offTheRecord : Bool) (url : GURL)
    (s : Screen) : Screen × Option ℕ :=
  let s := discardBehindFront s
  if shouldBlockNewWebContents window s then (s, none)
  else
    let created := createShell offTheRecord s
    (if url.isEmpty then created else loadURL load s.nextShell url created, some s.nextShell)

def reloadDiscarded (memory : LoadMemory) (tab : TabWindow) (s : Screen) : Screen :=
  if !tab.wasDiscarded then s
  else
    let s := mapWindows (TabWindow.only tab.shell (TabWindow.setPageFrozen false)) s
    if tab.lastCommittedURL.isValid && tab.lastCommittedURL.schemeIsHTTPOrHTTPS then
      loadURL memory tab.shell tab.lastCommittedURL s
    else s

def takePendingRestoreURL (shell : ℕ) (s : Screen) : Screen × GURL :=
  ({ s with pendingRestoreURLs := s.pendingRestoreURLs.filter (·.1 ≠ shell) },
    (s.pendingRestoreURLs.lookup shell).getD GURL.none)

def loadDeferred (memory : LoadMemory) (shell : ℕ) (s : Screen) : Screen :=
  let (s, pending) := takePendingRestoreURL shell s
  if pending.isValid && pending.schemeIsHTTPOrHTTPS then loadURL memory shell pending s else s

def handOver (reload deferred : LoadMemory) (tab : TabWindow) (s : Screen) : Screen :=
  s |> reloadDiscarded reload tab |> loadDeferred deferred tab.shell |>
    mapWindows (TabWindow.select tab.shell) |> makeKeyAndVisible tab.shell

def showTabWindow (reload deferred : LoadMemory) (shell : ℕ) (s : Screen) : Screen :=
  match findWindow s shell with
  | none => s
  | some tab => s |> handOver reload deferred tab |> blinkDiscardBackgroundTabs shell

def reorder (source target : ℕ) (s : Screen) : Screen :=
  { s with windows := moveEntry source target s.windows }

def addNewContents (window : MemoryReading) (source : ℕ) (contents : NewContents) (s : Screen) :
    Screen :=
  TabWindows.addNewContents ⟨⟨shouldBlockNewWebContents window s, false⟩, false⟩ source contents s

inductive Event where
  | createNewWindow (window : MemoryReading) (load : LoadMemory) (offTheRecord : Bool) (url : GURL)
  | showTabWindow (reload deferred : LoadMemory) (shell : ℕ)
  | loadURL (memory : LoadMemory) (shell : ℕ) (url : GURL)
  | close (shell : ℕ)
  | closeContents (shell : ℕ)
  | addNewContents (window : MemoryReading) (source : ℕ) (contents : NewContents)
  | navigation (shell : ℕ) (navigation : Navigation)
  | reorder (source target : ℕ)
  | idleSweep (idle : List ℕ)
  | memoryPressure
deriving DecidableEq

def Event.target : Event → Option ℕ
  | .showTabWindow _ _ shell | .loadURL _ shell _ | .close shell | .closeContents shell
  | .addNewContents _ shell _ | .navigation shell _ => some shell
  | .createNewWindow .. | .reorder .. | .idleSweep _ | .memoryPressure => none

def happen (s : Screen) : Event → Screen
  | .createNewWindow window load offTheRecord url =>
    (createNewWindow window load offTheRecord url s).1
  | .showTabWindow reload deferred shell => showTabWindow reload deferred shell s
  | .loadURL memory shell url => loadURL memory shell url s
  | .close shell => TabWindows.close shell s
  | .closeContents shell => TabWindows.closeContents shell s
  | .addNewContents window source contents => addNewContents window source contents s
  | .navigation shell navigation =>
    mapWindows (TabWindow.only shell (TabWindow.inTab navigation.apply)) s
  | .reorder source target => reorder source target s
  | .idleSweep idle => blinkDiscardIdleBackgroundTabs idle s
  | .memoryPressure => blinkDiscardBackgroundTabsUnderPressure s

def step (s : Screen) (event : Event) : Screen :=
  if event.target.all (isOpen s) then happen s event else s

/-- What the guards find while the tabs are restored. -/
structure LaunchMemory where
  window : ℕ → MemoryReading
  load : ℕ → LoadMemory

def restoreTab (memory : LaunchMemory) (offTheRecord : Bool) (s : Screen) (entry : GURL × ℕ) :
    Screen :=
  let (url, i) := entry
  match createNewWindow (memory.window i) (memory.load i) offTheRecord blankURL s with
  | (s, none) => s
  | (s, some created) =>
    let s := if url.isAboutBlank then s else emplacePendingRestoreURL created url s
    mapWindows (TabWindow.only created TabWindow.wasHidden) s

def noTabs : Screen := ⟨[], [], none, none, none, 0⟩

/-- The first tab is loaded and the others restored behind it, or the startup page is. -/
def initializeMessageLoopContext (p : Platform) (d : Preferences) (memory : LaunchMemory) :
    Screen :=
  let open' (url : GURL) : Screen :=
    (createNewWindow (memory.window 0) (memory.load 0) d.privateBrowsing url noTabs).1
  match (getRestoreTabURLs p d).2 with
  | [] => open' (getStartupURL p d)
  | first :: rest => (rest.zipIdx 1).foldl (restoreTab memory d.privateBrowsing) (open' first)

def launch (p : Platform) (d : Preferences) (memory : LaunchMemory) : Screen :=
  let s := initializeMessageLoopContext p d memory
  match s.windows with
  | [] => s
  | front :: _ => makeKeyAndVisible front.shell s

end BlinkerFluid.TabSteps
