import BlinkerFluid.SitePolicy
import BlinkerFluid.CrashPoints

/-! The open tabs of a session, their persisted list, and the launch that restores
them. Every navigation rewrites the persisted list from the tabs that exist then; a
restored background tab stays blank and keeps its address in a side table until it is
selected. Each step of a process changes the session at once; the process may die
between two steps, and what is persisted then is what the next launch finds. -/

namespace BlinkerFluid.OpenTabs
open ByteString WebAddress SitePolicy CrashPoints

/-- URL parsing, and the localized title of a new tab. -/
structure Platform where
  parse : Bytes → GURL
  newTabTitle : Bytes

def kAboutBlankURL : Bytes := "about:blank".toList

def blankURL : GURL := ⟨true, kAboutBlankURL, "about".toList, [], "blank".toList⟩

/-- What is on disk. A stored list may hold things that are not strings. -/
structure Preferences where
  launchState : Bytes
  uncleanLaunchCount : ℤ
  privateBrowsing : Bool
  restoreGuard : Bool
  homepage : Bytes
  openTabs : List (Option Bytes)
  tabTitlesByURL : Bytes → Option Bytes

structure Tab where
  shell : ℕ
  offTheRecord : Bool
  lastCommittedURL : GURL
  pendingEntry : Option GURL
  title : Bytes
  wasDiscarded : Bool
deriving DecidableEq

def Tab.visibleURL (tab : Tab) : GURL := tab.pendingEntry.getD tab.lastCommittedURL

structure Session where
  preferences : Preferences
  windows : List Tab
  pendingRestoreURLs : List (ℕ × GURL)
  nextShell : ℕ

/-- Whether the memory guards refuse a window or a load. -/
structure MemoryGuard where
  windowRefused : Bool
  loadRefused : Bool
deriving DecidableEq

def MemoryGuard.none : MemoryGuard := ⟨false, false⟩

/-- A C string in a buffer of this size; nothing if it does not fit. -/
def cfStringGetCString (size : ℕ) (s : Bytes) : Bytes :=
  if s.length < size then s.takeWhile (· ≠ '\x00') else []

def kMaxRestoreURLLength : ℕ := 300

def kMaxRestore : ℕ := 12

def urlContainsTrackingParam (spec : Bytes) : Bool :=
  let lower := toLowerASCII spec
  contains "gclid".toList lower || contains "gbraid".toList lower ||
    contains "gad_source".toList lower || contains "campaign_id".toList lower ||
    contains "utm_".toList lower

def isHeavyRestoreURL (url : GURL) : Bool :=
  (url.host = "gemini.google.com".toList && "/app".toList.isPrefixOf url.path) ||
    hasTrait url.host kSkipSessionRestore ||
    (url.domainIs "youtube.com".toList && "/watch".toList.isPrefixOf url.path)

def isSafeRestoreURL (url : GURL) : Bool :=
  if url.isAboutBlank then true
  else if !url.isValid || !url.schemeIsHTTPOrHTTPS then false
  else if kMaxRestoreURLLength < url.spec.length then false
  else if urlContainsTrackingParam url.spec then false
  else !isHeavyRestoreURL url

def running : Bytes := "running".toList

def markLaunchRunning (d : Preferences) : Preferences := { d with launchState := running }

def restoreURL (p : Platform) : Option Bytes → Option GURL
  | none => none
  | some s =>
    let url := p.parse (cfStringGetCString 4096 s)
    if !isSafeRestoreURL url then none
    else if url.isAboutBlank then some blankURL
    else some url

/-- The loop over the stored list, with the tabs found so far and whether one of them
is a real page. -/
def collectRestoreURLs (p : Platform) : List (Option Bytes) → List GURL × Bool → List GURL × Bool
  | [], found => found
  | entry :: rest, (result, hasRealURL) =>
    if kMaxRestore ≤ result.length then (result, hasRealURL)
    else match restoreURL p entry with
      | none => collectRestoreURLs p rest (result, hasRealURL)
      | some url => collectRestoreURLs p rest (result ++ [url], hasRealURL || !url.isAboutBlank)

def getRestoreTabURLs (p : Platform) (d : Preferences) : Preferences × List GURL :=
  let previousUnclean := d.launchState = running
  let d := { d with
    uncleanLaunchCount := if previousUnclean then d.uncleanLaunchCount + 1 else 0 }
  let d := markLaunchRunning d
  if d.privateBrowsing then (d, [])
  else
    let d := if d.restoreGuard ∨ previousUnclean then { d with restoreGuard := false } else d
    let (result, hasRealURL) := collectRestoreURLs p d.openTabs ([], false)
    if !hasRealURL then (d, [])
    else ({ d with restoreGuard := true }, result)

def getStartupURL (p : Platform) (d : Preferences) : GURL :=
  let homepage := cfStringGetCString 1024 d.homepage
  if homepage ≠ [] then p.parse homepage else blankURL

def peekPendingRestoreURL (s : Session) (shell : ℕ) : GURL :=
  (s.pendingRestoreURLs.lookup shell).getD GURL.none

def blinkTabURL (s : Session) (tab : Tab) : Option Bytes :=
  let url := peekPendingRestoreURL s tab.shell
  let url := if !url.isValid then tab.lastCommittedURL else url
  let url := if !url.isValid then tab.visibleURL else url
  if !url.isValid || url.isAboutBlank then some kAboutBlankURL
  else if url.schemeIsHTTPOrHTTPS then some url.spec
  else none

def untitled (value : Bytes) : Bool := value = [] || value = kAboutBlankURL

/-- The tab's own title, else the stored one, else the host. -/
def savedTitle (p : Platform) (existing : Bytes → Option Bytes) (tab : Tab) (url : Bytes) : Bytes :=
  let value := if untitled tab.title then (existing url).getD [] else tab.title
  if untitled value then
    let parsed := p.parse url
    if parsed.schemeIsHTTPOrHTTPS && !parsed.host.isEmpty then parsed.host else p.newTabTitle
  else value

def blinkSaveOpenTabs (p : Platform) (s : Session) : Session :=
  if s.windows.any (·.offTheRecord) then s
  else
    let saved := s.windows.filterMap fun tab => (blinkTabURL s tab).map fun url => (tab, url)
    let existing := s.preferences.tabTitlesByURL
    { s with preferences := { s.preferences with
      openTabs := saved.map fun (_, url) => some url
      tabTitlesByURL := saved.foldl (fun titles (tab, url) key =>
        if key = url then some (savedTitle p existing tab url) else titles key) fun _ => none } }

def updateTab (shell : ℕ) (f : Tab → Tab) (s : Session) : Session :=
  { s with windows := s.windows.map fun tab => if tab.shell = shell then f tab else tab }

def findTab (s : Session) (shell : ℕ) : Option Tab := s.windows.find? (·.shell = shell)

def Tab.start (url : GURL) (tab : Tab) : Tab := { tab with pendingEntry := some url }

def Tab.stop (tab : Tab) : Tab := { tab with pendingEntry := none }

def Tab.commit (tab : Tab) : Tab :=
  match tab.pendingEntry with
  | none => tab
  | some url =>
    { tab with lastCommittedURL := url, pendingEntry := none, wasDiscarded := false }

theorem Tab.commit_shell (tab : Tab) : tab.commit.shell = tab.shell := by
  unfold Tab.commit
  split <;> rfl

/-- The navigation state of a tab changes and is reported, and the report saves the
open tabs. -/
def navigate (p : Platform) (shell : ℕ) (f : Tab → Tab) : Process Session Unit := do
  Process.atomically (updateTab shell f)
  Process.atomically (blinkSaveOpenTabs p)

/-- `Shell::LoadURL`: a repeated request is ignored, another load in flight stopped. -/
def loadURL (p : Platform) (refused : Bool) (shell : ℕ) (url : GURL) : Process Session Unit := do
  let s ← Process.get
  if refused then pure ()
  else match (findTab s shell).bind (·.pendingEntry) with
    | none => navigate p shell (Tab.start url)
    | some pending =>
      if pending = url then pure ()
      else do
        navigate p shell Tab.stop
        navigate p shell (Tab.start url)

def Tab.discard (tab : Tab) : Tab :=
  if tab.wasDiscarded || tab.pendingEntry.isSome then tab else { tab with wasDiscarded := true }

theorem Tab.discard_shell (tab : Tab) : tab.discard.shell = tab.shell := by
  unfold Tab.discard
  split <;> rfl

def blinkDiscardBackgroundTabs (keep : ℕ) (s : Session) : Session :=
  if s.windows.length < 6 then s
  else { s with windows := s.windows.map fun tab => if tab.shell = keep then tab else tab.discard }

def discardBehindFront (s : Session) : Session :=
  match s.windows with
  | [] => s
  | front :: _ => blinkDiscardBackgroundTabs front.shell s

def createShell (offTheRecord : Bool) (s : Session) : Session :=
  { s with
    windows := s.windows ++ [⟨s.nextShell, offTheRecord, .none, none, [], false⟩]
    nextShell := s.nextShell + 1 }

def createNewWindow (p : Platform) (guard : MemoryGuard) (offTheRecord : Bool) (url : GURL) :
    Process Session (Option ℕ) := do
  Process.atomically discardBehindFront
  let s ← Process.get
  if !s.windows.isEmpty && guard.windowRefused then pure none
  else do
    Process.atomically (createShell offTheRecord)
    if url.isEmpty then pure (some s.nextShell)
    else do
      loadURL p guard.loadRefused s.nextShell url
      pure (some s.nextShell)

/-- `g_pending_restore_urls.emplace`. -/
def emplacePendingRestoreURL (shell : ℕ) (url : GURL) (s : Session) : Session :=
  if (s.pendingRestoreURLs.lookup shell).isSome then s
  else { s with pendingRestoreURLs := (shell, url) :: s.pendingRestoreURLs }

def restoreTab (p : Platform) (guard : MemoryGuard) (offTheRecord loadNow : Bool) (url : GURL) :
    Process Session Unit := do
  let shell ← createNewWindow p guard offTheRecord (if loadNow then url else blankURL)
  match shell with
  | none => pure ()
  | some shell =>
    if !loadNow && !url.isAboutBlank then
      Process.atomically (emplacePendingRestoreURL shell url)
    else pure ()

/-- The restore loop from tab `i` on. -/
def restoreTabs (p : Platform) (guards : ℕ → MemoryGuard) (offTheRecord : Bool) :
    ℕ → List GURL → Process Session Unit
  | _, [] => pure ()
  | i, url :: rest => do
    restoreTab p (guards i) offTheRecord (i == 0) url
    restoreTabs p guards offTheRecord (i + 1) rest

def initializeMessageLoopContext (p : Platform) (guards : ℕ → MemoryGuard) :
    Process Session Unit := do
  let s ← Process.get
  let offTheRecord := s.preferences.privateBrowsing
  let (d, restore) := getRestoreTabURLs p s.preferences
  Process.atomically fun s => { s with preferences := d }
  if !restore.isEmpty then restoreTabs p guards offTheRecord 0 restore
  else do
    let _ ← createNewWindow p (guards 0) offTheRecord (getStartupURL p d)
    pure ()

def started (d : Preferences) : Session := ⟨d, [], [], 0⟩

def erasePendingRestoreURL (shell : ℕ) (s : Session) : Session :=
  { s with pendingRestoreURLs := s.pendingRestoreURLs.filter (·.1 ≠ shell) }

theorem lookup_filter_ne (pending : List (ℕ × GURL)) (shell other : ℕ) :
    (pending.filter (·.1 ≠ shell)).lookup other =
      if other = shell then none else pending.lookup other := by
  induction pending with
  | nil => simp
  | cons entry pending ih =>
    obtain ⟨key, url⟩ := entry
    by_cases erased : key = shell
    · rw [List.filter_cons_of_neg (by simpa using erased), ih, List.lookup_cons]
      by_cases same : other = shell
      · rw [if_pos same, if_pos same]
      · rw [if_neg same, if_neg same, beq_eq_false_iff_ne.mpr (by rw [erased]; exact same)]
    · rw [List.filter_cons_of_pos (by simpa using erased), List.lookup_cons, List.lookup_cons, ih]
      by_cases here : other = key
      · have kept : ¬ other = shell := by rwa [here]
        rw [if_neg kept, if_neg kept]
      · rw [beq_eq_false_iff_ne.mpr here]

def takePendingRestoreURL (shell : ℕ) : Process Session GURL := do
  let s ← Process.get
  Process.atomically (erasePendingRestoreURL shell)
  pure (peekPendingRestoreURL s shell)

def reloadDiscarded (p : Platform) (refused : Bool) (tab : Tab) : Process Session Unit :=
  if tab.wasDiscarded && tab.lastCommittedURL.isValid &&
      tab.lastCommittedURL.schemeIsHTTPOrHTTPS then
    loadURL p refused tab.shell tab.lastCommittedURL
  else pure ()

def loadDeferred (p : Platform) (refused : Bool) (shell : ℕ) (pending : GURL) :
    Process Session Unit :=
  if pending.isValid && pending.schemeIsHTTPOrHTTPS then loadURL p refused shell pending
  else pure ()

/-- Selecting a tab reloads it if it was discarded, and loads its deferred address. -/
def showTabWindow (p : Platform) (refused : Bool) (shell : ℕ) : Process Session Unit := do
  let s ← Process.get
  match findTab s shell with
  | none => pure ()
  | some tab => do
    reloadDiscarded p refused tab
    let pending ← takePendingRestoreURL shell
    loadDeferred p refused shell pending
    Process.atomically (blinkDiscardBackgroundTabs shell)

end BlinkerFluid.OpenTabs
