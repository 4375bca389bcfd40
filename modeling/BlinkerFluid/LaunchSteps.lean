import BlinkerFluid.OpenTabs

/-! Properties that navigations and launches keep, at each of their steps. A property
that the single changes of a session keep is kept by a load, by a new window and by the
restore loop, wherever the process dies. -/

namespace BlinkerFluid.LaunchSteps
open WebAddress OpenTabs CrashPoints

theorem discard_eq (tab : Tab) :
    tab.discard = { tab with wasDiscarded := tab.discard.wasDiscarded } := by
  unfold Tab.discard
  split_ifs <;> rfl

theorem blinkDiscardBackgroundTabs_eq (keep : ℕ) (s : Session) :
    ∃ flag : Tab → Bool, blinkDiscardBackgroundTabs keep s =
      { s with windows := s.windows.map fun tab => { tab with wasDiscarded := flag tab } } := by
  by_cases few : s.windows.length < 6
  · exact ⟨Tab.wasDiscarded, by simp [blinkDiscardBackgroundTabs, few]⟩
  · refine ⟨fun tab => if tab.shell = keep then tab.wasDiscarded else tab.discard.wasDiscarded, ?_⟩
    rw [blinkDiscardBackgroundTabs, if_neg few, Session.mk.injEq]
    refine ⟨rfl, List.map_congr_left fun tab _ => ?_, rfl, rfl⟩
    by_cases kept : tab.shell = keep
    · simp only [if_pos kept]
    · simp only [if_neg kept]
      exact discard_eq tab

theorem discardBehindFront_eq (s : Session) :
    ∃ flag : Tab → Bool, discardBehindFront s =
      { s with windows := s.windows.map fun tab => { tab with wasDiscarded := flag tab } } := by
  unfold discardBehindFront
  split
  · exact ⟨Tab.wasDiscarded, by simp⟩
  · exact blinkDiscardBackgroundTabs_eq _ s

variable {p : Platform} {P : Session → Prop} {own : ℕ → Prop}

/-- Kept by the steps of a load in one of these shells. -/
structure NavigationInvariant (p : Platform) (P : Session → Prop) (own : ℕ → Prop) : Prop where
  save : ∀ s, P s → P (blinkSaveOpenTabs p s)
  start : ∀ s shell url, own shell → P s → P (updateTab shell (Tab.start url) s)
  stop : ∀ s shell, own shell → P s → P (updateTab shell Tab.stop s)

/-- Kept by the steps of a launch, whose new shells are among these. -/
structure LaunchInvariant (p : Platform) (P : Session → Prop) (own : ℕ → Prop) : Prop
    extends NavigationInvariant p P own where
  next : ∀ s, P s → own s.nextShell
  shed : ∀ s, P s → P (discardBehindFront s)
  create : ∀ s offTheRecord, P s → P (createShell offTheRecord s)
  defer : ∀ s shell url, own shell → P s → P (emplacePendingRestoreURL shell url s)

theorem keeps_navigate (invariant : NavigationInvariant p P own) {s : Session} (shell : ℕ)
    (f : Tab → Tab) (changed : P (updateTab shell f s)) : Keeps P (navigate p shell f) s :=
  keeps_bind (keeps_atomically changed) (keeps_atomically (invariant.save _ changed))

theorem keeps_loadURL (invariant : NavigationInvariant p P own) {s : Session} (holds : P s)
    (refused : Bool) (shell : ℕ) (url : GURL) (owned : own shell) :
    Keeps P (loadURL p refused shell url) s := by
  refine keeps_get_bind ?_
  cases refused with
  | true => exact keeps_pure holds ()
  | false =>
    cases (findTab s shell).bind (·.pendingEntry) with
    | none => exact keeps_navigate invariant shell _ (invariant.start s shell url owned holds)
    | some pending =>
      by_cases same : pending = url
      · simp only [same]
        exact keeps_pure holds ()
      · simp only [same]
        have stopped := keeps_navigate invariant shell _ (invariant.stop s shell owned holds)
        exact keeps_bind stopped
          (keeps_navigate invariant shell _ (invariant.start _ shell url owned stopped.1))

theorem createNewWindow_value (s : Session) (guard : MemoryGuard) (offTheRecord : Bool)
    (target : GURL) :
    ((createNewWindow p guard offTheRecord target).run s).value =
      if !(discardBehindFront s).windows.isEmpty && guard.windowRefused then none
      else some (discardBehindFront s).nextShell := by
  simp only [createNewWindow, run_bind_value, run_atomically, run_get_bind, run_ite]
  by_cases refused : (!(discardBehindFront s).windows.isEmpty && guard.windowRefused) = true
  · rw [if_pos refused, if_pos refused]
    rfl
  · rw [if_neg refused, if_neg refused]
    by_cases empty : target.isEmpty = true
    · rw [if_pos empty]
      rfl
    · rw [if_neg empty]
      rfl

theorem keeps_createNewWindow (invariant : LaunchInvariant p P own) {s : Session} (holds : P s)
    (guard : MemoryGuard) (offTheRecord : Bool) (url : GURL) :
    Keeps P (createNewWindow p guard offTheRecord url) s := by
  have shed := invariant.shed s holds
  have created := invariant.create _ offTheRecord shed
  have loaded := keeps_loadURL invariant.toNavigationInvariant created guard.loadRefused _ url
    (invariant.next _ shed)
  refine keeps_bind (keeps_atomically shed) (keeps_get_bind ?_)
  by_cases refused : (!(discardBehindFront s).windows.isEmpty && guard.windowRefused) = true
  · simp only [run_atomically, refused, if_true]
    exact keeps_pure shed none
  · simp only [run_atomically, refused]
    refine keeps_bind (keeps_atomically created) ?_
    by_cases empty : url.isEmpty = true
    · simp only [empty, if_true]
      exact keeps_pure created _
    · simp only [empty]
      exact keeps_bind loaded (keeps_pure loaded.1 _)

theorem keeps_restoreTab (invariant : LaunchInvariant p P own) {s : Session} (holds : P s)
    (guard : MemoryGuard) (offTheRecord loadNow : Bool) (url : GURL) :
    Keeps P (restoreTab p guard offTheRecord loadNow url) s := by
  have window := keeps_createNewWindow invariant holds guard offTheRecord
    (if loadNow then url else blankURL)
  have owned := invariant.next _ (invariant.shed s holds)
  refine keeps_bind window ?_
  rw [createNewWindow_value]
  by_cases refused : (!(discardBehindFront s).windows.isEmpty && guard.windowRefused) = true
  · rw [if_pos refused]
    exact keeps_pure window.1 ()
  · rw [if_neg refused]
    by_cases deferred : (!loadNow && !url.isAboutBlank) = true
    · simp only [deferred, if_true]
      exact keeps_atomically (invariant.defer _ _ url owned window.1)
    · simp only [deferred]
      exact keeps_pure window.1 ()

/-- The restore loop, by induction on what is left to restore. -/
theorem keeps_restoreTabs (invariant : LaunchInvariant p P own) {s : Session} (holds : P s)
    (guards : ℕ → MemoryGuard) (offTheRecord : Bool) (i : ℕ) (restore : List GURL) :
    Keeps P (restoreTabs p guards offTheRecord i restore) s := by
  induction restore generalizing i s with
  | nil => exact keeps_pure holds ()
  | cons url restore ih =>
    have turn := keeps_restoreTab invariant holds (guards i) offTheRecord (i == 0) url
    exact keeps_bind turn (ih turn.1 (i + 1))

theorem launch_state (invariant : LaunchInvariant p P own) (guards : ℕ → MemoryGuard)
    (d : Preferences) (holds : P (started (getRestoreTabURLs p d).1)) :
    P ((initializeMessageLoopContext p guards).run (started d)).state := by
  rw [initializeMessageLoopContext, run_get_bind]
  simp only [run_bind_state, run_atomically]
  split_ifs
  · exact (keeps_restoreTabs invariant holds _ _ _ _).1
  · exact (keeps_createNewWindow invariant holds _ _ _).1

end BlinkerFluid.LaunchSteps
