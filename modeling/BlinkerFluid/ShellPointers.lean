import BlinkerFluid.OpenTabs
import BlinkerFluid.StepRun

/-! Shells and web contents by their addresses. Tables and globals of the browser name
them by raw pointers, and the allocator may give the address of a destroyed object to a
new one. The addresses are the only names here; the numbers of the shells are kept for
the statements. -/

namespace BlinkerFluid.ShellPointers
open WebAddress
open OpenTabs (blankURL)

/-- The allocator answers any address that no living object has. -/
structure Allocator (α : Type) where
  allocate : ℕ → List α → α
  fresh : ∀ count living, allocate count living ∉ living

/-- A shell that owns its web contents, with the addresses that it was told to load. -/
structure Shell (α : Type) where
  address : α
  webContents : α
  number : ℕ
  loads : List GURL
deriving DecidableEq

/-- An entry of `g_pending_restore_urls`, with the shell that it was recorded for. -/
structure PendingRestore where
  url : GURL
  recordedFor : ℕ
deriving DecidableEq

structure Taken where
  recordedFor : ℕ
  takenBy : ℕ
deriving DecidableEq

/-- A point at which one of the auth popup trackers is read, with the web contents of the
shells that exist then. -/
structure TrackerRead (α : Type) where
  authPopupContents : Option α
  authPopupOpener : Option α
  living : List α
deriving DecidableEq

/-- The last three fields are records of what happened, which nothing reads. -/
structure Shells (α : Type) where
  windows : List (Shell α)
  pendingRestoreURLs : List (α × PendingRestore)
  keyWindow : Option α
  authPopupContents : Option α
  authPopupOpener : Option α
  allocations : ℕ
  inherited : List PendingRestore
  taken : List Taken
  reads : List (TrackerRead α)

variable {α : Type} [DecidableEq α]

def findShell (s : Shells α) (address : α) : Option (Shell α) :=
  s.windows.find? (·.address = address)

def living (s : Shells α) : List α :=
  s.windows.flatMap fun shell => [shell.address, shell.webContents]

def countAllocation (s : Shells α) : Shells α := { s with allocations := s.allocations + 1 }

def mapWindows (f : Shell α → Shell α) (s : Shells α) : Shells α :=
  { s with windows := s.windows.map f }

def Shell.load (address : α) (url : GURL) (shell : Shell α) : Shell α :=
  if shell.address = address then { shell with loads := shell.loads ++ [url] } else shell

def loadURL (address : α) (url : GURL) : Shells α → Shells α := mapWindows (Shell.load address url)

section PendingRestores

def peekPendingRestoreURL (s : Shells α) (address : α) : GURL :=
  ((s.pendingRestoreURLs.lookup address).map (·.url)).getD GURL.none

def forgetPendingRestoreURL (address : α) (s : Shells α) : Shells α :=
  { s with pendingRestoreURLs := s.pendingRestoreURLs.filter (·.1 ≠ address) }

def takePendingRestoreURL (shell : Shell α) (s : Shells α) : Shells α × GURL :=
  match s.pendingRestoreURLs.lookup shell.address with
  | none => (s, GURL.none)
  | some pending =>
    ({ forgetPendingRestoreURL shell.address s with
        taken := s.taken ++ [⟨pending.recordedFor, shell.number⟩] }, pending.url)

/-- `emplace` leaves an entry alone that is there. -/
def emplacePendingRestoreURL (shell : Shell α) (url : GURL) (s : Shells α) : Shells α :=
  if (s.pendingRestoreURLs.lookup shell.address).isSome then s
  else { s with
    pendingRestoreURLs := s.pendingRestoreURLs ++ [(shell.address, ⟨url, shell.number⟩)] }

end PendingRestores

section Creation

variable (allocator : Allocator α)

def newContents (s : Shells α) : α := allocator.allocate s.allocations (living s)

def newShell (webContents : α) (s : Shells α) : Shell α :=
  ⟨allocator.allocate s.allocations (webContents :: living s), webContents, s.allocations, []⟩

def createShell (webContents : α) (s : Shells α) : Shells α :=
  let shell := newShell allocator webContents s
  { countAllocation s with
    windows := s.windows ++ [shell]
    inherited := s.inherited ++ (s.pendingRestoreURLs.lookup shell.address).toList }

/-- `Shell::CreateNewWindow`, with the new shell if the window was not refused. -/
def createNewWindow (windowRefused : Bool) (url : GURL) (s : Shells α) :
    Shells α × Option (Shell α) :=
  if !s.windows.isEmpty && windowRefused then (s, none)
  else
    let contents := newContents allocator s
    let shell := newShell allocator contents (countAllocation s)
    let created := createShell allocator contents (countAllocation s)
    (if url.isEmpty then created else loadURL shell.address url created, some shell)

def restoreTab (windowRefused loadNow : Bool) (url : GURL) (s : Shells α) : Shells α :=
  match createNewWindow allocator windowRefused (if loadNow then url else blankURL) s with
  | (s, none) => s
  | (s, some shell) =>
    if !loadNow && !url.isAboutBlank then emplacePendingRestoreURL shell url s else s

def restoreTabs (windowRefused : ℕ → Bool) : ℕ → List GURL → Shells α → Shells α
  | _, [], s => s
  | i, url :: restore, s =>
    restoreTabs windowRefused (i + 1) restore
      (restoreTab allocator (windowRefused i) (i = 0) url s)

def initializeMessageLoopContext (windowRefused : ℕ → Bool) (restore : List GURL)
    (startupURL : GURL) (s : Shells α) : Shells α :=
  if !restore.isEmpty then restoreTabs allocator windowRefused 0 restore s
  else (createNewWindow allocator (windowRefused 0) startupURL s).1

end Creation

section Selection

def makeKeyAndVisible (address : α) (s : Shells α) : Shells α :=
  { s with keyWindow := some address }

/-- What is pending for a tab is loaded when the tab is selected. -/
def loadDeferred (shell : Shell α) (s : Shells α) : Shells α :=
  let (s, pending) := takePendingRestoreURL shell s
  if pending.isValid && pending.schemeIsHTTPOrHTTPS then loadURL shell.address pending s else s

/-- A discarded tab is loaded again from `discarded`. -/
def showTabWindow (discarded : Option GURL) (address : α) (s : Shells α) : Shells α :=
  match findShell s address with
  | none => s
  | some shell =>
    let s := match discarded with
      | none => s
      | some reload =>
        if reload.isValid && reload.schemeIsHTTPOrHTTPS then loadURL address reload s else s
    s |> loadDeferred shell |> makeKeyAndVisible address

end Selection

section Closing

/-- The trackers are read. The web contents of a shell whose destructor runs exist, too. -/
def readTrackers (closing : Option (Shell α)) (s : Shells α) : Shells α :=
  { s with reads := s.reads ++ [⟨s.authPopupContents, s.authPopupOpener,
      (s.windows ++ closing.toList).map (·.webContents)⟩] }

def forgetAuthPopup (source : α) (s : Shells α) : Shells α :=
  let isPopup := s.authPopupContents = some source
  { s with
    authPopupContents := if isPopup then none else s.authPopupContents
    authPopupOpener := if isPopup then none else s.authPopupOpener }

def forgetAuthOpener (source : α) (s : Shells α) : Shells α :=
  let isOpener := s.authPopupOpener = some source
  { s with authPopupOpener := if isOpener then none else s.authPopupOpener }

def destroyShell (address : α) (s : Shells α) : Shells α :=
  { forgetPendingRestoreURL address s with
    keyWindow := if s.keyWindow = some address then none else s.keyWindow }

/-- `Shell::~Shell`. -/
def deleteShell (shell : Shell α) (s : Shells α) : Shells α :=
  { s with windows := s.windows.eraseP (·.address = shell.address) } |>
    readTrackers (some shell) |> forgetAuthPopup shell.webContents |>
    readTrackers (some shell) |> forgetAuthOpener shell.webContents

def close (address : α) (s : Shells α) : Shells α :=
  match findShell s address with
  | none => s
  | some shell => s |> destroyShell address |> deleteShell shell

/-- The opener's shell if it is another one, else the first other. -/
def reactivated (closing : α) (preferredOpener : Option α) (s : Shells α) : Option (Shell α) :=
  (s.windows.find? fun shell =>
    shell.address ≠ closing ∧ some shell.webContents = preferredOpener).or
    (s.windows.find? (·.address ≠ closing))

def blinkShellWillCloseReactivate (closing : α) (preferredOpener : Option α) (s : Shells α) :
    Shells α :=
  let replacement := (reactivated closing preferredOpener s).map (·.address)
  { s with keyWindow := if s.keyWindow ≠ some closing then s.keyWindow
      else replacement.or s.keyWindow }

def closeContents (address : α) (s : Shells α) : Shells α :=
  match findShell s address with
  | none => s
  | some shell =>
    s |> readTrackers none |> blinkShellWillCloseReactivate address s.authPopupOpener |>
      readTrackers none |> forgetAuthPopup shell.webContents |> close address

/-- The current tab makes way for the first other one, and is closed. -/
def closeCurrentTab (discarded : Option GURL) (address : α) (s : Shells α) : Shells α :=
  if s.windows.length ≤ 1 then s
  else
    let s := match s.windows.find? (·.address ≠ address) with
      | none => s
      | some other => showTabWindow discarded other.address s
    close address s

/-- The loop of `Shell::Shutdown`, with a bound on its turns. -/
def closeAll : ℕ → Shells α → Shells α
  | 0, s => s
  | turns + 1, s =>
    match s.windows.getLast? with
    | none => s
    | some back => closeAll turns (close back.address s)

def shutdown (s : Shells α) : Shells α := closeAll s.windows.length s

end Closing

/-- `Shell::AddNewContents` with new contents that a page of the shell at `source` opened. -/
def addNewContents (allocator : Allocator α) (isGoogleAuthPopup newBackgroundTab windowRefused : Bool)
    (source : α) (s : Shells α) : Shells α :=
  match findShell s source with
  | none => s
  | some opener =>
    let contents := newContents allocator s
    let s := countAllocation s
    let created := (newShell allocator contents s).address
    if isGoogleAuthPopup then
      { s with authPopupContents := some contents, authPopupOpener := some opener.webContents } |>
        createShell allocator contents |> makeKeyAndVisible created
    else if !s.windows.isEmpty && windowRefused then s
    else if newBackgroundTab then createShell allocator contents s
    else s |> createShell allocator contents |> makeKeyAndVisible created

def openNewTab (allocator : Allocator α) (windowRefused : Bool) (url : GURL) (s : Shells α) :
    Shells α :=
  match createNewWindow allocator windowRefused url s with
  | (s, none) => s
  | (s, some shell) => showTabWindow none shell.address s

inductive Event (α : Type) where
  | initializeMessageLoopContext (windowRefused : ℕ → Bool) (restore : List GURL)
      (startupURL : GURL)
  | createNewWindow (windowRefused : Bool) (url : GURL)
  | openNewTab (windowRefused : Bool) (url : GURL)
  | addNewContents (isGoogleAuthPopup newBackgroundTab windowRefused : Bool) (source : α)
  | showTabWindow (discarded : Option GURL) (address : α)
  | loadURL (address : α) (url : GURL)
  | close (address : α)
  | closeContents (address : α)
  | closeCurrentTab (discarded : Option GURL) (address : α)
  | shutdown

def step (allocator : Allocator α) (s : Shells α) : Event α → Shells α
  | .initializeMessageLoopContext windowRefused restore startupURL =>
    initializeMessageLoopContext allocator windowRefused restore startupURL s
  | .createNewWindow windowRefused url => (createNewWindow allocator windowRefused url s).1
  | .openNewTab windowRefused url => openNewTab allocator windowRefused url s
  | .addNewContents isGoogleAuthPopup newBackgroundTab windowRefused source =>
    addNewContents allocator isGoogleAuthPopup newBackgroundTab windowRefused source s
  | .showTabWindow discarded address => showTabWindow discarded address s
  | .loadURL address url => loadURL address url s
  | .close address => close address s
  | .closeContents address => closeContents address s
  | .closeCurrentTab discarded address => closeCurrentTab discarded address s
  | .shutdown => shutdown s

def start : Shells α := ⟨[], [], none, none, none, 0, [], [], []⟩

end BlinkerFluid.ShellPointers
