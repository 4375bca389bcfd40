import BlinkerFluid.AuthFlow
import Mathlib.Data.List.Perm.Basic
import Mathlib.Logic.Function.Basic

/-! Sign-in flows of several tabs. The flags are the process's, the navigations are
the tabs', and a posted recovery acts on whichever window is in front when it runs.
Next to the flags stands, for every tab, the flow that its own navigations alone
would have produced: the tabs leave each other alone where the two agree. -/

namespace BlinkerFluid.TabSignIn
open WebAddress StepRun AuthFlow

/-- Tabs are numbered in order of creation; `ownFlow` is not the program's. A posted
task carries the tab whose redirect chain posted it. -/
structure Browser where
  flow : Flow := {}
  windows : List ℕ := []
  created : ℕ := 0
  posted : List (ℕ × PostedTask) := []
  ownFlow : ℕ → Flow := fun _ => {}

inductive BrowserEvent
  | createWindow
  | closeWindow (tab : ℕ)
  | reorderWindows (order : List ℕ)
  | navigate (tab : ℕ) (event : NavigationEvent)
  | runPostedTask

/-- `BreakChatGPTMwebLoop` and `StopFrontShellLoad`: the actions with their targets. -/
def taskActions (windows : List ℕ) (task : PostedTask) : List (ℕ × TabAction) :=
  match windows.head? with
  | none => []
  | some front => (frontActions task).map fun action => (front, action)

def blinkShellIsInAuthFlow (browser : Browser) : Bool := browser.flow.inAuthFlow

variable (stripMwebFallback : GURL → GURL)

def browserStep (browser : Browser) : BrowserEvent → Browser
  | .createWindow =>
    { browser with
      windows := browser.windows ++ [browser.created]
      created := browser.created + 1
      ownFlow := Function.update browser.ownFlow browser.created {} }
  | .closeWindow tab => { browser with windows := browser.windows.erase tab }
  | .reorderWindows order =>
    if order.Perm browser.windows then { browser with windows := order } else browser
  | .navigate tab event =>
    if tab ∈ browser.windows then
      let (flow, tasks) := navigate stripMwebFallback browser.flow event
      { browser with
        flow := flow
        posted := browser.posted ++ tasks.map fun task => (tab, task)
        ownFlow := Function.update browser.ownFlow tab
          (flowStep stripMwebFallback (browser.ownFlow tab) event) }
    else browser
  | .runPostedTask => { browser with posted := browser.posted.tail }

/-- The flow of an open tab is what the process's flags say it is: its lock is not
released, its breaker is not re-armed, and its toggle is locked by itself only. -/
def Undisturbed (browser : Browser) : Prop :=
  ∀ tab ∈ browser.windows,
    ((browser.ownFlow tab).inAuthFlow = true → browser.flow.inAuthFlow = true) ∧
    ((browser.ownFlow tab).chatgptAuthBreakerUsed = true →
      browser.flow.chatgptAuthBreakerUsed = true) ∧
    (blinkShellIsInAuthFlow browser = true → (browser.ownFlow tab).inAuthFlow = true)

/-- The next task acts on the tab that posted it and on no other. -/
def TaskOnTarget (browser : Browser) : Prop :=
  ∀ tab task, browser.posted.head? = some (tab, task) →
    ∀ target action, (target, action) ∈ taskActions browser.windows task → target = tab

/-- Every event leaves the tabs undisturbed, and every task runs on its tab. -/
def SignInsApart (events : List BrowserEvent) : Prop :=
  (∀ past, past <+: events → Undisturbed (past.foldl (browserStep stripMwebFallback) {})) ∧
  ∀ past, past ++ [.runPostedTask] <+: events →
    TaskOnTarget (past.foldl (browserStep stripMwebFallback) {})

/-- Sign-ins that cannot meet: a tab enters a flow when every other tab is in its
own, leaves one when no other tab is, none is opened under the lock, and a task runs
while its tab is in front. -/
def FlowAlone (browser : Browser) : BrowserEvent → Prop
  | .createWindow => browser.flow.inAuthFlow = false
  | .closeWindow _ => True
  | .reorderWindows _ => True
  | .navigate tab (.didStart navigation) =>
    tab ∈ browser.windows → onAuth navigation = true →
      ∀ other ∈ browser.windows, other ≠ tab → (browser.ownFlow other).inAuthFlow = true
  | .navigate _ (.didRedirect _) => True
  | .navigate tab (.didFinish navigation) =>
    tab ∈ browser.windows → offAuth navigation = true → browser.flow.inAuthFlow = true →
      ∀ other ∈ browser.windows, other ≠ tab →
        (browser.ownFlow other).inAuthFlow = false ∧
        (browser.ownFlow other).chatgptAuthBreakerUsed = false
  | .runPostedTask =>
    ∀ tab task, browser.posted.head? = some (tab, task) →
      browser.windows = [] ∨ browser.windows.head? = some tab

theorem taskOnTarget_iff (browser : Browser) :
    TaskOnTarget browser ↔ FlowAlone browser .runPostedTask := by
  refine forall_congr' fun tab => forall_congr' fun task => imp_congr_right fun _ => ?_
  cases windows : browser.windows with
  | nil => simp [taskActions]
  | cons front rest =>
    obtain ⟨action, mem⟩ := List.exists_mem_of_ne_nil _ (frontActions_ne_nil task)
    simp only [taskActions, List.head?_cons, List.mem_map, Prod.mk.injEq, reduceCtorEq, false_or,
      Option.some.injEq]
    constructor
    · exact fun onTarget => onTarget front action ⟨action, mem, rfl, rfl⟩
    · rintro rfl target _ ⟨_, _, rfl, _⟩
      rfl

section Steps

variable (browser : Browser) (undisturbed : Undisturbed browser)

include undisturbed

theorem undisturbed_createWindow (alone : FlowAlone browser .createWindow) :
    Undisturbed (browserStep stripMwebFallback browser .createWindow) := by
  intro tab mem
  by_cases new : tab = browser.created
  · simp only [browserStep, blinkShellIsInAuthFlow, new, Function.update_self]
    exact ⟨nofun, nofun, fun locked => absurd locked (alone ▸ Bool.false_ne_true)⟩
  · simp only [browserStep, List.mem_append, List.mem_singleton, new, or_false] at mem
    simp only [browserStep, blinkShellIsInAuthFlow, Function.update_of_ne new]
    exact undisturbed tab mem

theorem undisturbed_didStart {tab : ℕ} (navigation : NavigationHandle) (opened : tab ∈ browser.windows)
    (alone : FlowAlone browser (.navigate tab (.didStart navigation))) :
    Undisturbed (browserStep stripMwebFallback browser (.navigate tab (.didStart navigation))) := by
  simp only [browserStep, opened, if_true, navigate, flowStep, didStartNavigation_eq]
  intro other mem
  obtain ⟨held, used, locked⟩ := undisturbed other mem
  by_cases self : other = tab
  · subst self
    simp only [blinkShellIsInAuthFlow, Function.update_self, Bool.or_eq_true] at locked ⊢
    exact ⟨Or.imp_left held, used, Or.imp_left locked⟩
  · simp only [blinkShellIsInAuthFlow, Function.update_of_ne self, Bool.or_eq_true] at locked ⊢
    refine ⟨fun own => .inl (held own), used, fun lock => ?_⟩
    exact lock.elim locked fun on => alone opened on other mem self

theorem undisturbed_didRedirect {tab : ℕ} (navigation : NavigationHandle)
    (opened : tab ∈ browser.windows) :
    Undisturbed
      (browserStep stripMwebFallback browser (.navigate tab (.didRedirect navigation))) := by
  simp only [browserStep, opened, if_true, navigate, flowStep, didRedirectNavigation_eq]
  intro other mem
  obtain ⟨held, used, locked⟩ := undisturbed other mem
  by_cases self : other = tab
  · subst self
    simp only [blinkShellIsInAuthFlow, Function.update_self, Bool.or_eq_true] at locked ⊢
    exact ⟨held, Or.imp_left used, locked⟩
  · simp only [blinkShellIsInAuthFlow, Function.update_of_ne self, Bool.or_eq_true] at locked ⊢
    exact ⟨held, fun own => .inl (used own), locked⟩

theorem undisturbed_didFinish {tab : ℕ} (navigation : NavigationHandle)
    (opened : tab ∈ browser.windows)
    (alone : FlowAlone browser (.navigate tab (.didFinish navigation))) :
    Undisturbed
      (browserStep stripMwebFallback browser (.navigate tab (.didFinish navigation))) := by
  simp only [browserStep, opened, if_true, navigate, flowStep, didFinishNavigation_eq]
  have agree : (browser.ownFlow tab).inAuthFlow = browser.flow.inAuthFlow :=
    Bool.eq_iff_iff.mpr ⟨(undisturbed tab opened).1, (undisturbed tab opened).2.2⟩
  rw [agree]
  by_cases released : (offAuth navigation && browser.flow.inAuthFlow) = true
  · simp only [released, if_true]
    rw [Bool.and_eq_true] at released
    intro other mem
    by_cases self : other = tab
    · simp [blinkShellIsInAuthFlow, self]
    · obtain ⟨out, unused⟩ := alone opened released.1 released.2 other mem self
      simp [blinkShellIsInAuthFlow, Function.update_of_ne self, out, unused]
  · simp only [released, Bool.false_eq_true, if_false, Function.update_eq_self]
    exact undisturbed

theorem undisturbed_step (event : BrowserEvent) (alone : FlowAlone browser event) :
    Undisturbed (browserStep stripMwebFallback browser event) := by
  cases event with
  | createWindow => exact undisturbed_createWindow stripMwebFallback browser undisturbed alone
  | closeWindow tab => exact fun other mem => undisturbed other (List.mem_of_mem_erase mem)
  | reorderWindows order =>
    simp only [browserStep]
    split
    · exact fun other mem => undisturbed other (List.Perm.mem_iff ‹_› |>.mp mem)
    · exact undisturbed
  | navigate tab event =>
    by_cases opened : tab ∈ browser.windows
    · cases event with
      | didStart navigation =>
        exact undisturbed_didStart stripMwebFallback browser undisturbed navigation opened alone
      | didRedirect navigation =>
        exact undisturbed_didRedirect stripMwebFallback browser undisturbed navigation opened
      | didFinish navigation =>
        exact undisturbed_didFinish stripMwebFallback browser undisturbed navigation opened alone
    · simp only [browserStep, opened, if_false]
      exact undisturbed
  | runPostedTask => exact undisturbed

end Steps

theorem flowAlone_of_undisturbed (browser : Browser) (event : BrowserEvent)
    (after : Undisturbed (browserStep stripMwebFallback browser event))
    (onTarget : event = .runPostedTask → TaskOnTarget browser) : FlowAlone browser event := by
  cases event with
  | createWindow =>
    have new := after browser.created (by simp [browserStep])
    have unlocked : ¬ browser.flow.inAuthFlow = true := by
      simpa [browserStep, blinkShellIsInAuthFlow] using new.2.2
    exact Bool.eq_false_iff.mpr unlocked
  | closeWindow tab => trivial
  | reorderWindows order => trivial
  | runPostedTask => exact (taskOnTarget_iff browser).mp (onTarget rfl)
  | navigate tab event =>
    cases event with
    | didRedirect navigation => trivial
    | didStart navigation =>
      intro opened on other mem self
      simp only [browserStep, opened, if_true, navigate, didStartNavigation_eq, on, Bool.or_true]
        at after
      have locked := (after other mem).2.2 rfl
      simpa only [Function.update_of_ne self] using locked
    | didFinish navigation =>
      intro opened off lock other mem self
      simp only [browserStep, opened, if_true, navigate, didFinishNavigation_eq, off, lock,
        Bool.and_self] at after
      obtain ⟨held, used, -⟩ := after other mem
      simp only [Function.update_of_ne self] at held used
      exact ⟨Bool.eq_false_iff.mpr fun own => Bool.false_ne_true (held own),
        Bool.eq_false_iff.mpr fun own => Bool.false_ne_true (used own)⟩

theorem signInsApart_iff_flowAlone (events : List BrowserEvent) :
    SignInsApart stripMwebFallback events ↔
      Permitted FlowAlone (browserStep stripMwebFallback) {} events := by
  constructor
  · rintro ⟨undisturbed, onTarget⟩
    rw [permitted_iff_each]
    intro past event ahead
    refine flowAlone_of_undisturbed stripMwebFallback _ event ?_ ?_
    · have after := undisturbed _ ahead
      rwa [List.foldl_append] at after
    · rintro rfl
      exact onTarget past ahead
  · intro alone
    refine ⟨fun past before => ?_, fun past ahead => ?_⟩
    · refine invariant_run (fun browser event undisturbed alone => ?_) _ past nofun
        (permitted_past alone before)
      exact undisturbed_step stripMwebFallback browser undisturbed event alone
    · rw [taskOnTarget_iff]
      exact (permitted_iff_each _ _).mp alone past _ ahead

def ownNavigation (tab : ℕ) : BrowserEvent → Option NavigationEvent
  | .navigate other event => if other = tab then some event else none
  | _ => none

theorem mem_windows_step (browser : Browser) (tab : ℕ) (event : BrowserEvent)
    (opened : tab ∈ browser.windows) (kept : event ≠ .closeWindow tab) :
    tab ∈ (browserStep stripMwebFallback browser event).windows := by
  cases event with
  | createWindow => simp [browserStep, opened]
  | closeWindow other =>
    have apart : tab ≠ other := fun same => kept (same ▸ rfl)
    exact (List.mem_erase_of_ne apart).mpr opened
  | reorderWindows order =>
    simp only [browserStep]
    split
    · exact (List.Perm.mem_iff ‹_›).mpr opened
    · exact opened
  | navigate other event =>
    simp only [browserStep]
    split <;> exact opened
  | runPostedTask => exact opened

theorem created_le_step (browser : Browser) (event : BrowserEvent) :
    browser.created ≤ (browserStep stripMwebFallback browser event).created := by
  cases event <;> simp only [browserStep] <;> (try split) <;> simp

theorem ownFlow_step (browser : Browser) (tab : ℕ) (event : BrowserEvent)
    (opened : tab ∈ browser.windows) (old : tab < browser.created) :
    (browserStep stripMwebFallback browser event).ownFlow tab =
      (ownNavigation tab event).toList.foldl (flowStep stripMwebFallback)
        (browser.ownFlow tab) := by
  cases event with
  | createWindow => exact Function.update_of_ne old.ne _ _
  | closeWindow other => rfl
  | reorderWindows order =>
    simp only [browserStep]
    split <;> rfl
  | navigate other event =>
    by_cases self : other = tab
    · simp [browserStep, self, opened, ownNavigation]
    · simp only [browserStep, ownNavigation, self, if_false, Option.toList_none, List.foldl_nil]
      split
      · exact Function.update_of_ne (Ne.symm self) _ _
      · rfl
  | runPostedTask => rfl

/-- While a tab is open, its own flow is the fold of its own navigations, whatever
the others do in between. -/
theorem ownFlow_run (browser : Browser) (tab : ℕ) (events : List BrowserEvent)
    (opened : tab ∈ browser.windows) (old : tab < browser.created)
    (kept : BrowserEvent.closeWindow tab ∉ events) :
    (events.foldl (browserStep stripMwebFallback) browser).ownFlow tab =
      (events.filterMap (ownNavigation tab)).foldl (flowStep stripMwebFallback)
        (browser.ownFlow tab) := by
  induction events generalizing browser with
  | nil => rfl
  | cons event events ih =>
    rw [List.mem_cons, not_or] at kept
    have opened' := mem_windows_step stripMwebFallback browser tab event opened (Ne.symm kept.1)
    have old' := old.trans_le (created_le_step stripMwebFallback browser event)
    rw [List.foldl_cons, ih _ opened' old' kept.2, ownFlow_step stripMwebFallback _ _ _ opened old]
    cases own : ownNavigation tab event <;> simp [own]

/-- `https://accounts.google.com/`, an authentication page. -/
def accountPage : GURL :=
  ⟨true, "https://accounts.google.com/".toList, "https".toList, "accounts.google.com".toList,
    "/".toList⟩

/-- `https://chatgpt.com/`, outside of authentication. -/
def appPage : GURL :=
  ⟨true, "https://chatgpt.com/".toList, "https".toList, "chatgpt.com".toList, "/".toList⟩

/-- Two tabs sign in; the second to start lands first. -/
def crossedSignIns : List BrowserEvent := [
  .createWindow, .createWindow,
  .navigate 0 (.didStart { url := accountPage }),
  .navigate 1 (.didStart { url := accountPage }),
  .navigate 1 (.didFinish { url := appPage })]

theorem signInsApart_counterexample : ¬ SignInsApart id crossedSignIns := by
  intro apart
  have held := (apart.1 crossedSignIns (List.prefix_refl _) 0 (by decide)).1 (by decide)
  exact absurd held (by decide)

end BlinkerFluid.TabSignIn
