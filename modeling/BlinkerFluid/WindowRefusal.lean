import BlinkerFluid.DeferredLoad

/-! A refused window. `Shell::CreateNewWindow` answers null when the footprint is too large
for one more page, and each caller has to look: a new tab and the restore loop do, and
`OpenURL` asks the null shell for its web contents. -/

namespace BlinkerFluid.WindowRefusal
open WebAddress TabSteps
open OpenTabs (blankURL)
open TabWindows (Screen TabWindow mapWindows discardBehindFront emplacePendingRestoreURL)
open VisibleTab (SameShells sameShells_discardBehindFront)

/-- How a call ends: a null shell is dereferenced, or the call returns; a completion callback
has run by then or not. -/
inductive Outcome where
  | crashed
  | returned (s : Screen) (callbackRan : Bool)
deriving DecidableEq

section Callers

variable (window : MemoryReading) (load : LoadMemory) (s : Screen)

def openURL (offTheRecord : Bool) (url : GURL) : Outcome :=
  match createNewWindow window load offTheRecord url s with
  | (_, none) => .crashed
  | (s, some _) => .returned s true

def openNewTab (reload deferred : LoadMemory) (shell : ℕ) (homepage : GURL) : Outcome :=
  let url := if !homepage.isValid then blankURL else homepage
  match createNewWindow window load (TabWindows.offTheRecordOf s shell) url s with
  | (s, none) => .returned s false
  | (s, some created) => .returned (showTabWindow reload deferred created s) false

def restoreTurn (offTheRecord loadNow : Bool) (url : GURL) : Outcome :=
  match createNewWindow window load offTheRecord (if loadNow then url else blankURL) s with
  | (s, none) => .returned s false
  | (s, some created) =>
    let s := if !loadNow && !url.isAboutBlank then emplacePendingRestoreURL created url s else s
    .returned (if !loadNow then mapWindows (TabWindow.only created TabWindow.wasHidden) s else s)
      false

/-- The launch without tabs to restore does not look at the new shell. -/
def openStartupURL (offTheRecord : Bool) (startupURL : GURL) : Outcome :=
  .returned (createNewWindow window load offTheRecord startupURL s).1 false

end Callers

/-- The calls that reach `Shell::CreateNewWindow`. -/
inductive EntryPoint where
  | openURL (offTheRecord : Bool) (url : GURL)
  | openNewTab (reload deferred : LoadMemory) (shell : ℕ) (homepage : GURL)
  | restoreTurn (offTheRecord loadNow : Bool) (url : GURL)
  | openStartupURL (offTheRecord : Bool) (startupURL : GURL)
deriving DecidableEq

def EntryPoint.call (window : MemoryReading) (load : LoadMemory) (s : Screen) :
    EntryPoint → Outcome
  | .openURL offTheRecord url => WindowRefusal.openURL window load s offTheRecord url
  | .openNewTab reload deferred shell homepage =>
    WindowRefusal.openNewTab window load s reload deferred shell homepage
  | .restoreTurn offTheRecord loadNow url =>
    WindowRefusal.restoreTurn window load s offTheRecord loadNow url
  | .openStartupURL offTheRecord startupURL =>
    WindowRefusal.openStartupURL window load s offTheRecord startupURL

/-- Only `OpenURL` is given a callback. -/
def EntryPoint.hasCallback : EntryPoint → Bool
  | .openURL .. => true
  | .openNewTab .. | .restoreTurn .. | .openStartupURL .. => false

/-- The call returns with the windows that there were, and its callback has run. -/
def Safe (s : Screen) (entry : EntryPoint) (outcome : Outcome) : Prop :=
  ∃ t ran, outcome = .returned t ran ∧ t.windows.map (·.shell) = s.windows.map (·.shell) ∧
    (entry.hasCallback = true → ran = true)

variable {window : MemoryReading} {s : Screen}

theorem shouldBlock_discardBehindFront :
    shouldBlockNewWebContents window (discardBehindFront s) =
      shouldBlockNewWebContents window s := by
  rw [shouldBlockNewWebContents, shouldBlockNewWebContents,
    (sameShells_discardBehindFront s).isEmpty_eq]

theorem createNewWindow_refused (refused : shouldBlockNewWebContents window s = true)
    (load : LoadMemory) (offTheRecord : Bool) (url : GURL) :
    createNewWindow window load offTheRecord url s = (discardBehindFront s, none) := by
  rw [createNewWindow, shouldBlock_discardBehindFront, refused]
  rfl

theorem safe_of_returned (entry : EntryPoint) (silent : entry.hasCallback = false) :
    Safe s entry (.returned (discardBehindFront s) false) :=
  ⟨_, _, rfl, (sameShells_discardBehindFront s).shells, fun called => by simp [silent] at called⟩

theorem restoreTurn_background (memory : LaunchMemory) (offTheRecord : Bool) (s : Screen)
    (url : GURL) (i : ℕ) :
    restoreTurn (memory.window i) (memory.load i) s offTheRecord false url =
      .returned (restoreTab memory offTheRecord s (url, i)) false := by
  simp only [restoreTurn, restoreTab, Bool.false_eq_true, if_false, Bool.not_false, Bool.true_and,
    if_true]
  generalize createNewWindow (memory.window i) (memory.load i) offTheRecord blankURL s = created
  obtain ⟨t, _ | shell⟩ := created
  · rfl
  · cases url.isAboutBlank <;> rfl

/-- Whatever windows are open and whatever the footprint is, a refused window is safe for
every caller but `OpenURL`. -/
theorem refusal_safe_iff (window : MemoryReading) (load : LoadMemory) (s : Screen)
    (entry : EntryPoint) :
    (shouldBlockNewWebContents window s = true → Safe s entry (entry.call window load s)) ↔
      ¬ (shouldBlockNewWebContents window s = true ∧ ∃ offTheRecord url,
        entry = .openURL offTheRecord url) := by
  rw [not_and]
  refine imp_congr_right fun refused => ?_
  have created := createNewWindow_refused refused load
  cases entry with
  | openURL offTheRecord url =>
    refine iff_of_false ?_ fun other => other ⟨offTheRecord, url, rfl⟩
    rintro ⟨t, ran, returned, -⟩
    simp [EntryPoint.call, openURL, created] at returned
  | openNewTab reload deferred shell homepage =>
    refine iff_of_true ?_ nofun
    simp only [EntryPoint.call, openNewTab, created]
    exact safe_of_returned _ rfl
  | restoreTurn offTheRecord loadNow url =>
    refine iff_of_true ?_ nofun
    simp only [EntryPoint.call, restoreTurn, created]
    exact safe_of_returned _ rfl
  | openStartupURL offTheRecord startupURL =>
    refine iff_of_true ?_ nofun
    simp only [EntryPoint.call, openStartupURL, created]
    exact safe_of_returned _ rfl

open DeferredLoad (examplePlatform twoTabs lowLaunch) in
/-- With 800 MiB in use a page's address is opened in a window of its own. -/
theorem openURL_crashes : ¬ ∀ window load s entry, shouldBlockNewWebContents window s = true →
    Safe s entry (entry.call window load s) := by
  intro safe
  obtain ⟨t, ran, returned, -⟩ := safe ⟨GlobalMemoryGuard.kFallbackCeiling,
      800 * GlobalMemoryGuard.kMiB⟩ .low (launch examplePlatform twoTabs lowLaunch)
    (.openURL false DeferredLoad.frontPage) (by decide +kernel)
  have crashed : EntryPoint.call ⟨GlobalMemoryGuard.kFallbackCeiling,
      800 * GlobalMemoryGuard.kMiB⟩ .low (launch examplePlatform twoTabs lowLaunch)
      (.openURL false DeferredLoad.frontPage) = .crashed := by decide +kernel
  rw [crashed] at returned
  cases returned

end BlinkerFluid.WindowRefusal
