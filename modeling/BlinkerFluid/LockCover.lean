import BlinkerFluid.AppLock
import BlinkerFluid.StepRun

/-! Which tabs show the lock cover. Transitions and unlock replies bring the cover of
every tab up to date; a change of the App Lock setting only that of the tab whose
settings were used, so it leaves covers behind where other tabs show one. -/

namespace BlinkerFluid.LockCover
open StepRun AppLock

variable {s : LockState}

/-- The first update of the cover, posted when the view was loaded, has not run yet. -/
def FirstUpdatePosted (s : LockState) (shell : ℕ) : Prop :=
  .updatePrivacyLock shell ∈ s.mainQueue

/-- Every tab shows the cover as it is due, or shows none and has its first update posted. -/
def Settled (s : LockState) : Prop :=
  ∀ d ∈ s.delegates, d.privacyLockView = coverDue s ∨
    d.privacyLockView = false ∧ FirstUpdatePosted s d.shell

def UpdatePosted (s : LockState) : Prop := ∃ shell, FirstUpdatePosted s shell

/-- With no update posted, each tab shows a cover if and only if the lock is on and the
app is not unlocked. -/
def Consistent (s : LockState) : Prop :=
  ¬UpdatePosted s → ∀ d ∈ s.delegates,
    d.privacyLockView = true ↔ s.blinkAppLock = true ∧ s.blinkAppUnlocked = false

/-- The tab whose settings the next block of the main queue changes the lock for. -/
def changedFrom (s : LockState) : Option ℕ :=
  match s.mainQueue with
  | .reply (.toggleAppLock _ settings _) :: _ => some settings
  | _ => none

/-- No other tab shows a cover when a change of the setting is carried out. -/
def ReachesCovers (s : LockState) (event : Event) : Prop :=
  event = .runMainQueue → ∀ settings ∈ changedFrom s, ∀ d ∈ s.delegates,
    d.shell ≠ settings → d.privacyLockView = false

instance (s : LockState) (event : Event) : Decidable (ReachesCovers s event) :=
  inferInstanceAs (Decidable (_ → _))

theorem coverDue_iff (s : LockState) :
    coverDue s = true ↔ s.blinkAppLock = true ∧ s.blinkAppUnlocked = false := by
  simp [coverDue]

theorem consistent_of_settled (settled : Settled s) : Consistent s := by
  intro quiet d mem
  rw [← coverDue_iff]
  rcases settled d mem with due | ⟨-, posted⟩
  · rw [due]
  · exact absurd ⟨d.shell, posted⟩ quiet

section Actions

theorem settled_updateAll (s : LockState) : Settled (updateAll s) := by
  intro d mem
  obtain ⟨before, -, rfl⟩ := List.mem_map.mp mem
  exact .inl rfl

theorem settled_mapDelegates (settled : Settled s) {f : WindowDelegate → WindowDelegate}
    (same : ∀ d, (f d).shell = d.shell ∧ (f d).privacyLockView = d.privacyLockView) :
    Settled (mapDelegates f s) := by
  intro d mem
  obtain ⟨before, beforeMem, rfl⟩ := List.mem_map.mp mem
  rw [(same before).1, (same before).2]
  exact settled before beforeMem

theorem only_same {f : WindowDelegate → WindowDelegate}
    (same : ∀ d, (f d).shell = d.shell ∧ (f d).privacyLockView = d.privacyLockView) (shell : ℕ)
    (d : WindowDelegate) : (WindowDelegate.only shell f d).shell = d.shell ∧
      (WindowDelegate.only shell f d).privacyLockView = d.privacyLockView := by
  unfold WindowDelegate.only
  split
  · exact same d
  · exact ⟨rfl, rfl⟩

theorem present_same (controller : Presented) (d : WindowDelegate) :
    (d.present controller).shell = d.shell ∧
      (d.present controller).privacyLockView = d.privacyLockView := by
  unfold WindowDelegate.present
  split <;> exact ⟨rfl, rfl⟩

theorem presentList_same (d : WindowDelegate) :
    d.presentList.shell = d.shell ∧ d.presentList.privacyLockView = d.privacyLockView := by
  unfold WindowDelegate.presentList
  split
  · exact ⟨rfl, rfl⟩
  · exact present_same .list d

theorem backTapped_same (d : WindowDelegate) :
    d.backTapped.shell = d.shell ∧ d.backTapped.privacyLockView = d.privacyLockView := by
  unfold WindowDelegate.backTapped
  split <;> exact ⟨rfl, rfl⟩

theorem settled_viewDidLoad (settled : Settled s) : Settled (viewDidLoad s) := by
  intro d mem
  rcases List.mem_append.mp mem with old | new
  · exact (settled d old).imp_right fun posted =>
      ⟨posted.1, List.mem_append_left _ posted.2⟩
  · rw [List.mem_singleton.mp new]
    exact .inr ⟨rfl, List.mem_append_right _ List.mem_cons_self⟩

theorem settled_close (settled : Settled s) (shell : ℕ) : Settled (close shell s) :=
  fun d mem => settled d (List.mem_of_mem_filter mem)

theorem settled_start (settled : Settled s) (evaluation : ℕ → Evaluation) (canEvaluate : Bool) :
    Settled (start evaluation canEvaluate s) := by
  unfold start
  split <;> exact settled

theorem settled_reply (settled : Settled s) (index : ℕ) (success : Bool) :
    Settled (reply index success s) := by
  unfold reply
  split
  · exact settled
  · dsimp only
    split
    · exact settled
    · exact fun d mem => (settled d mem).imp_right fun posted =>
        ⟨posted.1, List.mem_append_left _ posted.2⟩

theorem settled_didEnterBackground (settled : Settled s) : Settled (didEnterBackground s) := by
  unfold didEnterBackground
  split
  · exact settled
  · exact settled_updateAll _

end Actions

section MainQueue

theorem settled_runUpdate {shell : ℕ} {rest : List Block} (settled : Settled s)
    (queue : s.mainQueue = .updatePrivacyLock shell :: rest) :
    Settled (updatePrivacyLock shell { s with mainQueue := rest }) := by
  intro d mem
  obtain ⟨before, beforeMem, rfl⟩ := List.mem_map.mp mem
  unfold WindowDelegate.only
  split
  · exact .inl rfl
  · rename_i other
    refine (settled before beforeMem).imp_right fun posted => ⟨posted.1, ?_⟩
    have later := posted.2
    rw [FirstUpdatePosted, queue, List.mem_cons] at later
    exact later.resolve_left fun same => other (Block.updatePrivacyLock.inj same)

/-- A change of the setting leaves no cover due, whatever it was before. -/
theorem settled_runToggle {settings : ℕ} {rest : List Block} (freshFrom : Option ℕ)
    (enabled : Bool) (uncovered : ∀ d ∈ s.delegates, d.shell ≠ settings →
      d.privacyLockView = false) :
    Settled (updatePrivacyLock settings { s with
      mainQueue := rest, blinkAppLock := enabled, blinkAppUnlocked := enabled, freshFrom }) := by
  intro d mem
  obtain ⟨before, beforeMem, rfl⟩ := List.mem_map.mp mem
  unfold WindowDelegate.only
  split
  · exact .inl rfl
  · rename_i other
    have undue : coverDue { s with
      mainQueue := rest, blinkAppLock := enabled, blinkAppUnlocked := enabled, freshFrom } =
        false := by
      simp [coverDue]
    exact .inl ((uncovered before beforeMem other).trans undue.symm)

theorem settled_runMainQueue (settled : Settled s) (ok : ReachesCovers s .runMainQueue) :
    Settled (runMainQueue s) := by
  cases queue : s.mainQueue with
  | nil => rwa [runMainQueue, queue]
  | cons block rest =>
    rw [runMainQueue, queue]
    cases block with
    | updatePrivacyLock shell => exact settled_runUpdate settled queue
    | reply evaluation =>
      cases evaluation with
      | unlockBlinker number => exact settled_updateAll _
      | toggleAppLock number settings currentlyEnabled =>
        exact settled_runToggle _ _ (ok rfl settings (by rw [changedFrom, queue]; rfl))

end MainQueue

theorem settled_step (s : LockState) (event : Event) (settled : Settled s)
    (ok : ReachesCovers s event) : Settled (step s event) := by
  cases event with
  | viewDidLoad => exact settled_viewDidLoad settled
  | close shell => exact settled_close settled shell
  | didEnterBackground => exact settled_didEnterBackground settled
  | willEnterForeground => exact settled_updateAll s
  | unlockBlinker canEvaluate => exact settled_start settled _ canEvaluate
  | toggleAppLockFromSettings settings canEvaluate => exact settled_start settled _ canEvaluate
  | reply index success => exact settled_reply settled index success
  | runMainQueue => exact settled_runMainQueue settled ok
  | showMenu shell => exact settled_mapDelegates settled (only_same (present_same (.menu 0)) shell)
  | presentList shell => exact settled_mapDelegates settled (only_same presentList_same shell)
  | showTabSwitcher shell =>
    exact settled_mapDelegates settled (only_same (present_same .tabSwitcher) shell)
  | backTapped shell => exact settled_mapDelegates settled (only_same backTapped_same shell)
  | dismiss shell =>
    exact settled_mapDelegates settled
      (only_same (f := WindowDelegate.dismiss) (fun _ => ⟨rfl, rfl⟩) shell)

theorem settled_launch (blinkAppLock : Bool) : Settled (launch blinkAppLock) :=
  fun _ mem => absurd mem List.not_mem_nil

theorem changedFrom_eq_some {settings : ℕ} (changed : changedFrom s = some settings) :
    ∃ number currentlyEnabled rest,
      s.mainQueue = .reply (.toggleAppLock number settings currentlyEnabled) :: rest := by
  unfold changedFrom at changed
  split at changed
  · rename_i number other currentlyEnabled rest queue
    cases changed
    exact ⟨number, currentlyEnabled, rest, queue⟩
  · cases changed

/-- A change of the setting that another tab's cover outlasts is seen once nothing is posted. -/
theorem not_consistent_of_refused {event : Event} (refused : ¬ReachesCovers s event)
    (quiet : ¬UpdatePosted (step s event)) : ¬Consistent (step s event) := by
  intro consistent
  simp only [ReachesCovers, not_forall] at refused
  obtain ⟨rfl, settings, changed, d, mem, other, covered⟩ := refused
  obtain ⟨number, currentlyEnabled, rest, queue⟩ := changedFrom_eq_some changed
  have after : step s .runMainQueue =
      run { s with mainQueue := rest } (.reply (.toggleAppLock number settings currentlyEnabled)) := by
    rw [step, runMainQueue, queue]
  rw [after] at consistent quiet
  have left : d ∈ (run { s with mainQueue := rest }
      (.reply (.toggleAppLock number settings currentlyEnabled))).delegates :=
    List.mem_map.mpr ⟨d, mem, if_neg other⟩
  have due := (consistent quiet d left).mp (eq_true_of_ne_false covered)
  exact absurd (due.1.symm.trans due.2) (by simp)

/-- As long as no change of the setting is outlasted by another tab's cover, every tab
shows the cover when it is due and only then, in all states without a posted update.
A change that is outlasted is seen in the next of these states. -/
theorem lockCover_consistent (blinkAppLock : Bool) (events : List Event)
    (permitted : Permitted ReachesCovers step (launch blinkAppLock) events) :
    (∀ past, past <+: events → Consistent (past.foldl step (launch blinkAppLock))) ∧
    ∀ event, ¬ReachesCovers (events.foldl step (launch blinkAppLock)) event →
      ¬UpdatePosted (step (events.foldl step (launch blinkAppLock)) event) →
      ¬Consistent (step (events.foldl step (launch blinkAppLock)) event) := by
  refine ⟨fun past before => ?_, fun event => not_consistent_of_refused⟩
  apply consistent_of_settled
  exact invariant_run settled_step _ past (settled_launch blinkAppLock)
    (permitted_past permitted before)

/-- Two tabs, the lock turned on in the first one's settings, and a transition. -/
def twoTabsLocked : List Event :=
  [.viewDidLoad, .viewDidLoad, .runMainQueue, .runMainQueue, .toggleAppLockFromSettings 0 true,
    .reply 0 true, .runMainQueue, .didEnterBackground]

theorem lockCover_consistent_example :
    (twoTabsLocked.foldl step (launch false)).delegates =
      [⟨0, true, none⟩, ⟨1, true, none⟩] ∧
    Consistent (twoTabsLocked.foldl step (launch false)) :=
  ⟨by decide, (lockCover_consistent false twoTabsLocked (by decide)).1 _ (List.prefix_refl _)⟩

/-- The lock is turned off from the first tab by a reply that comes after a transition. -/
theorem lateChange_not_consistent :
    ¬Consistent (([.viewDidLoad, .viewDidLoad, .runMainQueue, .runMainQueue, .unlockBlinker true,
      .reply 0 true, .runMainQueue, .toggleAppLockFromSettings 0 true, .didEnterBackground,
      .reply 0 true, .runMainQueue] : List Event).foldl step (launch true)) := by
  intro consistent
  have quiet : ¬UpdatePosted (([.viewDidLoad, .viewDidLoad, .runMainQueue, .runMainQueue,
      .unlockBlinker true, .reply 0 true, .runMainQueue, .toggleAppLockFromSettings 0 true,
      .didEnterBackground, .reply 0 true, .runMainQueue] : List Event).foldl step (launch true)) :=
    fun ⟨_, posted⟩ => absurd posted List.not_mem_nil
  have left := (consistent quiet ⟨1, true, none⟩ (by decide)).mp rfl
  exact absurd left (by decide)

end BlinkerFluid.LockCover
