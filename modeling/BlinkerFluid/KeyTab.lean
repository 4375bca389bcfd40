import BlinkerFluid.DeferredLoad
import BlinkerFluid.TabHandOver

/-! What sheds the background tabs keeps one of them: the one in front, the one that owns
the key window, or the one selected. The tab that the user looks at is spared by all of
them but one: a new window spares the first of the open tabs, which need not be that one. -/

namespace BlinkerFluid.KeyTab
open WebAddress TabSteps DeferredLoad
open OpenTabs (Platform Preferences)
open TabWindows (Screen TabWindow isOpen findWindow mapWindows keyWindowShell keptShell
  blinkDiscardBackgroundTabs blinkDiscardBackgroundTabsExcept
  blinkDiscardBackgroundTabsUnderPressure blinkDiscardIdleBackgroundTabs discardBehindFront)
open VisibleTab (shed_shell keptShell_of_owner)

/-- What a tab keeps resident: whether its page is frozen, and its renderer discarded. -/
def suspension (s : Screen) (shell : ℕ) : Option (Bool × Bool) :=
  (findWindow s shell).map fun tab => (tab.pageFrozen, tab.wasDiscarded)

/-- The tab that owns the key window is neither frozen nor discarded on the way. -/
def SparesKeyTab (s t : Screen) : Prop :=
  ∀ shell, s.keyWindow = some shell → suspension t shell = suspension s shell

/-- What sheds background tabs: the number of tabs at a new window, memory pressure, the
sweep of the tabs left alone, and the selection of a tab. -/
inductive Trigger where
  | createNewWindow
  | memoryPressure
  | idleSweep (idle : List ℕ)
  | selection (reload deferred : LoadMemory) (shell : ℕ)
deriving DecidableEq

/-- The screen on which tabs are shed: a selected tab that is open has taken the screen
over by then. -/
def Trigger.before (s : Screen) : Trigger → Option Screen
  | .selection reload deferred shell =>
    (findWindow s shell).map fun tab => handOver reload deferred tab s
  | _ => some s

def Trigger.shed : Trigger → Screen → Screen
  | .createNewWindow => discardBehindFront
  | .memoryPressure => blinkDiscardBackgroundTabsUnderPressure
  | .idleSweep idle => blinkDiscardIdleBackgroundTabs idle
  | .selection _ _ shell => blinkDiscardBackgroundTabs shell

def Trigger.Spares (s : Screen) (trigger : Trigger) : Prop :=
  ∀ screen, trigger.before s = some screen → SparesKeyTab screen (trigger.shed screen)

theorem showTabWindow_eq (reload deferred : LoadMemory) (shell : ℕ) (s : Screen) :
    showTabWindow reload deferred shell s =
      let trigger := Trigger.selection reload deferred shell
      ((trigger.before s).map trigger.shed).getD s := by
  cases found : findWindow s shell <;> simp [showTabWindow, Trigger.before, Trigger.shed, found]

/-- Nothing of the tab is left to take away. -/
def Suspended (tab : TabWindow) : Prop :=
  tab.pageFrozen = true ∧ (tab.wasDiscarded = true ∨ tab.pendingEntry.isSome = true)

/-- With six tabs or more, an open tab that owns the key window is the front one, or it is
suspended already. -/
def FrontOwnsKey (s : Screen) : Prop :=
  6 ≤ s.windows.length → ∀ front, s.windows.head? = some front →
    ∀ shell, s.keyWindow = some shell → ∀ tab, findWindow s shell = some tab →
      shell = front.shell ∨ Suspended tab

section Shedding

variable {s : Screen} {shell keep : ℕ} {tab : TabWindow}

theorem SparesKeyTab.refl (s : Screen) : SparesKeyTab s s := fun _ _ => rfl

theorem suspension_mapWindows {f : TabWindow → TabWindow} (keeps : ∀ tab, (f tab).shell = tab.shell)
    (found : findWindow s shell = some tab) (same : f tab = tab) :
    suspension (mapWindows f s) shell = suspension s shell := by
  rw [suspension, findWindow_mapWindows keeps, suspension, found, Option.map_some, same]

theorem suspension_closed {f : TabWindow → TabWindow} (keeps : ∀ tab, (f tab).shell = tab.shell)
    (closed : findWindow s shell = none) :
    suspension (mapWindows f s) shell = suspension s shell := by
  rw [suspension, findWindow_mapWindows keeps, suspension, closed]
  rfl

theorem spares_mapWindows {f : TabWindow → TabWindow} (keeps : ∀ tab, (f tab).shell = tab.shell)
    (same : ∀ tab, s.keyWindow = some tab.shell → isOpen s tab.shell = true → f tab = tab) :
    SparesKeyTab s (mapWindows f s) := by
  intro shell owns
  cases found : findWindow s shell with
  | none => exact suspension_closed keeps found
  | some tab =>
    have here := shell_of_findWindow found
    refine suspension_mapWindows keeps found (same tab (here ▸ owns) ?_)
    exact findWindow_isSome_iff.mp (by rw [here, found]; rfl)

theorem discardExcept_shell (keep : ℕ) (tab : TabWindow) :
    (if tab.shell = keep then tab else tab.shed).shell = tab.shell := by
  split
  · rfl
  · exact shed_shell tab

theorem spares_discardExcept
    (key : ∀ shell, s.keyWindow = some shell → isOpen s shell = true → shell = keep) :
    SparesKeyTab s (blinkDiscardBackgroundTabsExcept keep s) :=
  spares_mapWindows (discardExcept_shell keep) fun tab owns opened =>
    if_pos (key tab.shell owns opened)

theorem spares_underPressure (s : Screen) :
    SparesKeyTab s (blinkDiscardBackgroundTabsUnderPressure s) := by
  unfold blinkDiscardBackgroundTabsUnderPressure
  split
  · exact .refl s
  · split
    · exact .refl s
    · rename_i keep kept
      refine spares_discardExcept fun shell owns opened => ?_
      rw [keptShell_of_owner owns opened] at kept
      exact Option.some.inj kept

theorem sweep_shell (idle : List ℕ) (tab : TabWindow) : (tab.sweep idle).shell = tab.shell := by
  unfold TabWindow.sweep
  split
  · rfl
  · split
    · exact shed_shell tab
    · rfl

theorem spares_idleSweep (idle : List ℕ) (s : Screen) :
    SparesKeyTab s (blinkDiscardIdleBackgroundTabs idle s) := by
  refine spares_mapWindows (fun tab => ?_) fun tab owns opened => ?_
  · split
    · rfl
    · exact sweep_shell idle tab
  · exact if_pos (keptShell_of_owner owns opened).symm

theorem spares_selection (owns : s.keyWindow = some shell) :
    SparesKeyTab s (blinkDiscardBackgroundTabs shell s) := by
  unfold blinkDiscardBackgroundTabs
  split
  · exact .refl s
  · refine spares_discardExcept fun key keyOwns _ => ?_
    exact Option.some.inj (keyOwns.symm.trans owns)

theorem shed_suspension_iff (tab : TabWindow) :
    (tab.shed.pageFrozen, tab.shed.wasDiscarded) = (tab.pageFrozen, tab.wasDiscarded) ↔
      Suspended tab := by
  have frozen : tab.shed.pageFrozen = true := rfl
  have discarded : tab.shed.wasDiscarded =
      (tab.wasDiscarded || !tab.pendingEntry.isSome) := by
    change tab.toTab.discard.wasDiscarded = _
    unfold OpenTabs.Tab.discard
    cases discarded : tab.wasDiscarded <;> cases entry : tab.pendingEntry <;> simp [discarded]
  rw [frozen, discarded, Suspended]
  cases tab.pageFrozen <;> cases tab.wasDiscarded <;> cases tab.pendingEntry <;> simp

theorem spares_createNewWindow_iff (s : Screen) :
    SparesKeyTab s (discardBehindFront s) ↔ FrontOwnsKey s := by
  unfold FrontOwnsKey
  cases windows : s.windows.head? with
  | none =>
    have none : discardBehindFront s = s := by
      rw [discardBehindFront, List.head?_eq_none_iff.mp windows]
    rw [none]
    refine ⟨fun _ many front absent => ?_, fun _ => .refl s⟩
    cases absent
  | some front =>
    rw [TabHandOver.discardBehindFront_eq windows, blinkDiscardBackgroundTabs]
    split
    · rename_i few
      exact ⟨fun _ many => absurd few (Nat.not_lt.mpr many), fun _ => .refl s⟩
    · rename_i many
      rw [imp_iff_right (Nat.le_of_not_lt many)]
      simp only [Option.some.injEq, forall_eq']
      refine forall_congr' fun shell => imp_congr_right fun owns => ?_
      cases found : findWindow s shell with
      | none =>
        refine ⟨fun _ tab gone => ?_, fun _ => suspension_closed (discardExcept_shell _) found⟩
        cases gone
      | some tab =>
        have here := shell_of_findWindow found
        simp only [Option.some.injEq, forall_eq']
        rw [blinkDiscardBackgroundTabsExcept, suspension,
          findWindow_mapWindows (discardExcept_shell front.shell), suspension, found,
          Option.map_some, Option.map_some, Option.map_some, Option.some.injEq]
        by_cases kept : tab.shell = front.shell
        · simp [kept, ← here]
        · rw [if_neg kept, shed_suspension_iff, or_iff_right (here ▸ kept)]

end Shedding

section Triggers

variable (s : Screen)

theorem trigger_spares_iff (trigger : Trigger) :
    trigger.Spares s ↔ (trigger = .createNewWindow → FrontOwnsKey s) := by
  cases trigger with
  | createNewWindow =>
    simp only [Trigger.Spares, Trigger.before, Option.some.injEq, forall_eq', true_imp_iff]
    exact spares_createNewWindow_iff s
  | memoryPressure =>
    simp only [Trigger.Spares, Trigger.before, Option.some.injEq, forall_eq', reduceCtorEq,
      false_imp_iff, iff_true]
    exact spares_underPressure s
  | idleSweep idle =>
    simp only [Trigger.Spares, Trigger.before, Option.some.injEq, forall_eq', reduceCtorEq,
      false_imp_iff, iff_true]
    exact spares_idleSweep idle s
  | selection reload deferred shell =>
    simp only [Trigger.Spares, Trigger.before, reduceCtorEq, false_imp_iff, iff_true]
    intro screen before
    obtain ⟨tab, found, rfl⟩ := Option.map_eq_some_iff.mp before
    obtain rfl := shell_of_findWindow found
    exact spares_selection rfl

end Triggers

/-- In every state that a run reaches every trigger spares the tab that owns the key window,
but for a new window where that tab is not the front one. -/
theorem keyTab_spared_iff (p : Platform) (d : Preferences) (memory : LaunchMemory)
    (events : List Event) (trigger : Trigger) :
    let s := events.foldl step (launch p d memory)
    trigger.Spares s ↔ (trigger = .createNewWindow → FrontOwnsKey s) :=
  trigger_spares_iff _ trigger

def sixTabs : Preferences := { twoTabs with openTabs := List.replicate 6 (some frontPage.spec) }

/-- The second of six tabs is selected and loaded, and a new window freezes and discards it. -/
theorem secondTab_discarded : ¬ ∀ p d memory (events : List Event) trigger,
    Trigger.Spares (events.foldl step (launch p d memory)) trigger := by
  intro spares
  have same := spares examplePlatform sixTabs lowLaunch
    [.showTabWindow .low .low 1, .navigation 1 .commit] .createNewWindow _ rfl 1 (by decide +kernel)
  revert same
  decide +kernel

end BlinkerFluid.KeyTab
