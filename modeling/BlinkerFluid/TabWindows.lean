import BlinkerFluid.OpenTabs

/-! The windows of the open tabs: which of them is the key window, which are hidden, and
what each tab's web contents was last told about its visibility. Tabs are selected and
opened by the user, pages open and close windows by script, and memory guards shed the
tabs in the background. -/

namespace BlinkerFluid.TabWindows
open WebAddress OpenTabs

/-- A web contents starts visible; `WasShown` and `WasHidden` change that. -/
inductive Visibility where
  | visible
  | hidden
deriving DecidableEq

/-- A shell with its web contents and its `UIWindow`. -/
structure TabWindow extends Tab where
  windowHidden : Bool
  visibility : Visibility
  pageFrozen : Bool
deriving DecidableEq

/-- The auth popup and its opener are web contents, named here by their shells. -/
structure Screen where
  windows : List TabWindow
  pendingRestoreURLs : List (ℕ × GURL)
  keyWindow : Option ℕ
  authPopupContents : Option ℕ
  authPopupOpener : Option ℕ
  nextShell : ℕ
deriving DecidableEq

/-- What the guards find: a footprint that refuses a window, one that is critical, and one
that refuses a load. -/
structure Footprint extends MemoryGuard where
  critical : Bool
deriving DecidableEq

def Footprint.low : Footprint := ⟨MemoryGuard.none, false⟩

def isOpen (s : Screen) (shell : ℕ) : Bool := s.windows.any (·.shell = shell)

def findWindow (s : Screen) (shell : ℕ) : Option TabWindow := s.windows.find? (·.shell = shell)

def mapWindows (f : TabWindow → TabWindow) (s : Screen) : Screen :=
  { s with windows := s.windows.map f }

def TabWindow.only (shell : ℕ) (f : TabWindow → TabWindow) (tab : TabWindow) : TabWindow :=
  if tab.shell = shell then f tab else tab

def TabWindow.setHidden (windowHidden : Bool) (tab : TabWindow) : TabWindow :=
  { tab with windowHidden }

def TabWindow.wasShown (tab : TabWindow) : TabWindow := { tab with visibility := .visible }

def TabWindow.wasHidden (tab : TabWindow) : TabWindow := { tab with visibility := .hidden }

def TabWindow.setPageFrozen (pageFrozen : Bool) (tab : TabWindow) : TabWindow :=
  { tab with pageFrozen }

def TabWindow.inTab (f : Tab → Tab) (tab : TabWindow) : TabWindow :=
  { tab with toTab := f tab.toTab }

def makeKeyAndVisible (shell : ℕ) (s : Screen) : Screen :=
  { mapWindows (TabWindow.only shell (TabWindow.setHidden false)) s with keyWindow := some shell }

def TabWindow.shed (tab : TabWindow) : TabWindow :=
  ((tab.wasHidden).setPageFrozen true).inTab Tab.discard

def blinkDiscardBackgroundTabsExcept (keep : ℕ) : Screen → Screen :=
  mapWindows fun tab => if tab.shell = keep then tab else tab.shed

def blinkDiscardBackgroundTabs (keep : ℕ) (s : Screen) : Screen :=
  if s.windows.length < 6 then s else blinkDiscardBackgroundTabsExcept keep s

def keyWindowShell (s : Screen) : Option ℕ :=
  (s.windows.find? fun tab => s.keyWindow = some tab.shell).map (·.shell)

def keptShell (s : Screen) : Option ℕ :=
  (keyWindowShell s).or (s.windows.head?.map (·.shell))

def blinkDiscardBackgroundTabsUnderPressure (s : Screen) : Screen :=
  if s.windows.length < 2 then s
  else match keptShell s with
    | none => s
    | some keep => blinkDiscardBackgroundTabsExcept keep s

def TabWindow.sweep (idle : List ℕ) (tab : TabWindow) : TabWindow :=
  if tab.wasDiscarded || tab.pendingEntry.isSome then tab
  else if tab.shell ∈ idle then tab.shed
  else tab

def blinkDiscardIdleBackgroundTabs (idle : List ℕ) (s : Screen) : Screen :=
  mapWindows (fun tab => if some tab.shell = keptShell s then tab else tab.sweep idle) s

def loadURL (guard : Footprint) (shell : ℕ) (url : GURL) (s : Screen) : Screen :=
  let s := if guard.critical then blinkDiscardBackgroundTabsUnderPressure s else s
  if guard.loadRefused then s
  else mapWindows (TabWindow.only shell (TabWindow.inTab (Tab.start url))) s

def createShell (offTheRecord : Bool) (s : Screen) : Screen :=
  { s with
    windows := s.windows ++
      [⟨⟨s.nextShell, offTheRecord, .none, none, [], false⟩, true, .visible, false⟩]
    nextShell := s.nextShell + 1 }

def discardBehindFront (s : Screen) : Screen :=
  match s.windows with
  | [] => s
  | front :: _ => blinkDiscardBackgroundTabs front.shell s

/-- `Shell::CreateNewWindow`, with the new shell if the window was not refused. -/
def createNewWindow (guard : Footprint) (offTheRecord : Bool) (url : GURL) (s : Screen) :
    Screen × Option ℕ :=
  let s := discardBehindFront s
  if !s.windows.isEmpty && guard.windowRefused then (s, none)
  else
    let created := createShell offTheRecord s
    (if url.isEmpty then created else loadURL guard s.nextShell url created, some s.nextShell)

def reloadDiscarded (guard : Footprint) (tab : TabWindow) (s : Screen) : Screen :=
  if !tab.wasDiscarded then s
  else
    let s := mapWindows (TabWindow.only tab.shell (TabWindow.setPageFrozen false)) s
    if tab.lastCommittedURL.isValid && tab.lastCommittedURL.schemeIsHTTPOrHTTPS then
      loadURL guard tab.shell tab.lastCommittedURL s
    else s

def loadDeferred (guard : Footprint) (shell : ℕ) (s : Screen) : Screen :=
  let pending := (s.pendingRestoreURLs.lookup shell).getD GURL.none
  let s := { s with pendingRestoreURLs := s.pendingRestoreURLs.filter (·.1 ≠ shell) }
  if pending.isValid && pending.schemeIsHTTPOrHTTPS then loadURL guard shell pending s else s

/-- One turn of the loop that hides every window but the selected one. -/
def TabWindow.select (shell : ℕ) (tab : TabWindow) : TabWindow :=
  if tab.shell = shell then ((tab.setHidden false).setPageFrozen false).wasShown
  else ((tab.setHidden true).wasHidden).setPageFrozen true

def showTabWindow (guard : Footprint) (shell : ℕ) (s : Screen) : Screen :=
  match findWindow s shell with
  | none => s
  | some tab =>
    s |> reloadDiscarded guard tab |> loadDeferred guard shell |>
      mapWindows (TabWindow.select shell) |> makeKeyAndVisible shell |>
      blinkDiscardBackgroundTabs shell

/-- One turn of the same loop for a window that a page opened: nothing is frozen or thawed. -/
def TabWindow.present (shell : ℕ) (tab : TabWindow) : TabWindow :=
  if tab.shell = shell then (tab.setHidden false).wasShown else (tab.setHidden true).wasHidden

def blinkPresentShellWindow (shell : ℕ) (s : Screen) : Screen :=
  s |> mapWindows (TabWindow.present shell) |> makeKeyAndVisible shell

def blinkHideShellWindow (shell : ℕ) : Screen → Screen :=
  mapWindows (TabWindow.only shell fun tab => (tab.setHidden true).wasHidden)

def offTheRecordOf (s : Screen) (shell : ℕ) : Bool :=
  ((findWindow s shell).map (·.offTheRecord)).getD false

/-- A new tab, opened from the tab `shell`. -/
def openNewTab (guard : Footprint) (shell : ℕ) (url : GURL) (s : Screen) : Screen :=
  match createNewWindow guard (offTheRecordOf s shell) url s with
  | (s, none) => s
  | (s, some created) => showTabWindow guard created s

def close (shell : ℕ) (s : Screen) : Screen :=
  let popup := if s.authPopupContents = some shell then none else s.authPopupContents
  let opener := if s.authPopupContents = some shell ∨ s.authPopupOpener = some shell then none
    else s.authPopupOpener
  { s with
    windows := s.windows.filter (·.shell ≠ shell)
    pendingRestoreURLs := s.pendingRestoreURLs.filter (·.1 ≠ shell)
    keyWindow := if s.keyWindow = some shell then none else s.keyWindow
    authPopupContents := popup
    authPopupOpener := opener }

def otherShell (s : Screen) (shell : ℕ) : Option ℕ :=
  (s.windows.find? (·.shell ≠ shell)).map (·.shell)

/-- The current tab `shell` makes way for the first other one, and is closed. -/
def closeCurrentTab (guard : Footprint) (shell : ℕ) (s : Screen) : Screen :=
  if s.windows.length ≤ 1 then s
  else
    let s := match otherShell s shell with
      | none => s
      | some other => showTabWindow guard other s
    close shell s

/-- The opener's shell if it is open and another one, else the first other. -/
def reactivated (closing : ℕ) (preferredOpener : Option ℕ) (s : Screen) : Option ℕ :=
  (preferredOpener.filter fun opener => opener ≠ closing && isOpen s opener).or
    (otherShell s closing)

def blinkShellWillCloseReactivate (closing : ℕ) (preferredOpener : Option ℕ) (s : Screen) :
    Screen :=
  if s.keyWindow ≠ some closing then s
  else match reactivated closing preferredOpener s with
    | none => s
    | some replacement => makeKeyAndVisible replacement s

def forgetAuthPopup (source : ℕ) (s : Screen) : Screen :=
  if s.authPopupContents = some source then
    { s with authPopupContents := none, authPopupOpener := none }
  else s

/-- `window.close()`. -/
def closeContents (shell : ℕ) (s : Screen) : Screen :=
  s |> blinkShellWillCloseReactivate shell s.authPopupOpener |> forgetAuthPopup shell |>
    close shell

/-- A window that a page opens: whether it is a Google auth popup, and whether it is to
open in the background. -/
structure NewContents where
  isGoogleAuthPopup : Bool
  newBackgroundTab : Bool
deriving DecidableEq

def addNewContents (guard : Footprint) (source : ℕ) (contents : NewContents) (s : Screen) :
    Screen :=
  let offTheRecord := offTheRecordOf s source
  if contents.isGoogleAuthPopup then
    { s with authPopupContents := some s.nextShell, authPopupOpener := some source } |>
      createShell offTheRecord |> blinkPresentShellWindow s.nextShell
  else if !s.windows.isEmpty && guard.windowRefused then s
  else if contents.newBackgroundTab then
    s |> createShell offTheRecord |> blinkHideShellWindow s.nextShell
  else s |> createShell offTheRecord |> blinkPresentShellWindow s.nextShell

/-- What a tab's navigation does without a call of the shell. -/
inductive Navigation where
  | start (url : GURL)
  | stop
  | commit
deriving DecidableEq

def Navigation.apply : Navigation → Tab → Tab
  | .start url => Tab.start url
  | .stop => Tab.stop
  | .commit => Tab.commit

inductive Event where
  | showTabWindow (guard : Footprint) (shell : ℕ)
  | openNewTab (guard : Footprint) (shell : ℕ) (url : GURL)
  | closeCurrentTab (guard : Footprint) (shell : ℕ)
  | close (shell : ℕ)
  | closeContents (shell : ℕ)
  | addNewContents (guard : Footprint) (source : ℕ) (contents : NewContents)
  | loadURL (guard : Footprint) (shell : ℕ) (url : GURL)
  | navigation (shell : ℕ) (navigation : Navigation)
  | idleSweep (idle : List ℕ)
  | memoryPressure
deriving DecidableEq

def Event.target : Event → Option ℕ
  | .showTabWindow _ shell | .openNewTab _ shell _ | .closeCurrentTab _ shell | .close shell
  | .closeContents shell | .addNewContents _ shell _ | .loadURL _ shell _
  | .navigation shell _ => some shell
  | .idleSweep _ | .memoryPressure => none

def happen (s : Screen) : Event → Screen
  | .showTabWindow guard shell => showTabWindow guard shell s
  | .openNewTab guard shell url => openNewTab guard shell url s
  | .closeCurrentTab guard shell => closeCurrentTab guard shell s
  | .close shell => close shell s
  | .closeContents shell => closeContents shell s
  | .addNewContents guard source contents => addNewContents guard source contents s
  | .loadURL guard shell url => loadURL guard shell url s
  | .navigation shell navigation =>
    mapWindows (TabWindow.only shell (TabWindow.inTab navigation.apply)) s
  | .idleSweep idle => blinkDiscardIdleBackgroundTabs idle s
  | .memoryPressure => blinkDiscardBackgroundTabsUnderPressure s

def step (s : Screen) (event : Event) : Screen :=
  if event.target.all (isOpen s) then happen s event else s

/-- `g_pending_restore_urls.emplace`. -/
def emplacePendingRestoreURL (shell : ℕ) (url : GURL) (s : Screen) : Screen :=
  if (s.pendingRestoreURLs.lookup shell).isSome then s
  else { s with pendingRestoreURLs := (shell, url) :: s.pendingRestoreURLs }

def restoreTab (guard : Footprint) (offTheRecord : Bool) (url : GURL) (s : Screen) : Screen :=
  match createNewWindow guard offTheRecord blankURL s with
  | (s, none) => s
  | (s, some created) =>
    let s := if url.isAboutBlank then s else emplacePendingRestoreURL created url s
    mapWindows (TabWindow.only created TabWindow.wasHidden) s

/-- The first tab is loaded, the others are restored behind it, and the scene takes the
front window. -/
def launch (guards : ℕ → Footprint) (offTheRecord : Bool) (first : GURL) (rest : List GURL) :
    Screen :=
  let s := (createNewWindow (guards 0) offTheRecord first ⟨[], [], none, none, none, 0⟩).1
  let s := rest.zipIdx.foldl (fun s (url, i) => restoreTab (guards (i + 1)) offTheRecord url s) s
  match s.windows with
  | [] => s
  | front :: _ => makeKeyAndVisible front.shell s

end BlinkerFluid.TabWindows
