import BlinkerFluid.StepRun
import Mathlib.Data.NNRat.Defs
import Mathlib.Tactic.Linarith

/-! The sweep of idle tabs. The times of the last activations are kept by the address of the
shell; they outlive a closed shell until the next sweep, and a new shell may be allocated in
its place. A window that is made key without being selected has no activation noted. -/

namespace BlinkerFluid.IdleSweep
open StepRun

def kInactiveTabDiscardSeconds : ℚ := 10 * 60

def kIdleTabSweepSeconds : ℚ := 60

/-- A shell at its address. `leftAlone` is the later of its creation, its last activation and
the last time its window was key; nothing reads it. -/
structure Tab where
  address : ℕ
  wasDiscarded : Bool
  hasUncommittedNavigation : Bool
  leftAlone : ℚ
deriving DecidableEq

/-- The open shells in the order of `Shell::windows()`. -/
structure World where
  now : ℚ
  windows : List Tab
  keyWindow : Option ℕ
  lastActiveTime : ℕ → Option ℚ

/-- A new window stays behind the others unless its tab is selected. -/
inductive Event where
  | passes (elapsed : ℚ≥0)
  | opens (address : ℕ) (selected : Bool)
  | closes (address : ℕ)
  | showTabWindow (address : ℕ)
  | presentShellWindow (address : ℕ)
  | loads (address : ℕ) (wasDiscarded hasUncommittedNavigation : Bool)
  | sweep

section Steps

variable (w : World)

def isOpen (address : ℕ) : Bool := w.windows.any fun tab => tab.address = address

def keyWindowShell : Option ℕ := w.keyWindow.filter (isOpen w)

def blinkNoteTabActivated (address : ℕ) : World :=
  { w with
    windows := w.windows.map fun tab =>
      if tab.address = address then { tab with leftAlone := w.now } else tab
    lastActiveTime := Function.update w.lastActiveTime address (some w.now) }

/-- The window that was key so far is left alone from now on. -/
def makeKeyAndVisible (address : ℕ) : World :=
  { w with
    windows := w.windows.map fun tab =>
      if w.keyWindow = some tab.address then { tab with leftAlone := w.now } else tab
    keyWindow := some address }

def createShell (address : ℕ) : World :=
  { w with windows := w.windows ++ [⟨address, false, false, w.now⟩] }

def showTabWindow (address : ℕ) : World :=
  makeKeyAndVisible (blinkNoteTabActivated w address) address

def keep : Option ℕ := (keyWindowShell w).or (w.windows.head?.map Tab.address)

/-- The table with the entries of the open shells; those without one get the present. -/
def live (address : ℕ) : Option ℚ :=
  if isOpen w address then some ((w.lastActiveTime address).getD w.now) else none

def sweptTimes : ℕ → Option ℚ :=
  match keep w with
  | some kept => Function.update (live w) kept (some w.now)
  | none => live w

def idle (tab : Tab) : Bool :=
  keep w ≠ some tab.address && !(tab.wasDiscarded || tab.hasUncommittedNavigation) &&
    !decide (w.now - (sweptTimes w tab.address).getD 0 < kInactiveTabDiscardSeconds)

def blinkDiscardIdleBackgroundTabs : World :=
  { w with
    windows := w.windows.map fun tab =>
      if idle w tab then { tab with wasDiscarded := true } else tab
    lastActiveTime := sweptTimes w }

/-- Only free addresses are allocated, and only windows of open shells are shown. -/
def step : Event → World
  | .passes elapsed => { w with now := w.now + elapsed }
  | .opens address selected =>
    if isOpen w address then w
    else if selected then showTabWindow (createShell w address) address else createShell w address
  | .closes address =>
    { w with
      windows := w.windows.filter fun tab => tab.address ≠ address
      keyWindow := w.keyWindow.filter (· ≠ address) }
  | .showTabWindow address => if isOpen w address then showTabWindow w address else w
  | .presentShellWindow address => if isOpen w address then makeKeyAndVisible w address else w
  | .loads address wasDiscarded hasUncommittedNavigation =>
    { w with
      windows := w.windows.map fun tab =>
        if tab.address = address then
          { tab with
            wasDiscarded := wasDiscarded
            hasUncommittedNavigation := hasUncommittedNavigation }
        else tab }
  | .sweep => blinkDiscardIdleBackgroundTabs w

end Steps

def started (now : ℚ) : World := ⟨now, [], none, fun _ => none⟩

/-- The sweep discards tabs that are not key and have been left alone for ten minutes less one
sweep period. -/
def HonoursTenMinutes (w : World) : Event → Prop
  | .sweep => ∀ tab ∈ w.windows, idle w tab = true → w.keyWindow ≠ some tab.address ∧
    kInactiveTabDiscardSeconds - kIdleTabSweepSeconds ≤ w.now - tab.leftAlone
  | _ => True

/-- An entry for an address is not older than a sweep period. -/
def Recent (w : World) (address : ℕ) : Prop :=
  ∀ time ∈ w.lastActiveTime address, w.now ≤ time + kIdleTabSweepSeconds

instance (w : World) (address : ℕ) : Decidable (Recent w address) :=
  inferInstanceAs (Decidable (∀ time ∈ w.lastActiveTime address, _))

/-- The entry of the key window is recent when another window becomes key, and so is an entry
at the address of a new shell that is not selected at once. -/
def FindsRecent (w : World) : Event → Prop
  | .opens address selected =>
    if selected then ∀ key ∈ w.keyWindow, Recent w key else Recent w address
  | .showTabWindow address | .presentShellWindow address =>
    ∀ key ∈ w.keyWindow, key ≠ address → Recent w key
  | .passes _ | .closes _ | .loads .. | .sweep => True

instance (w : World) : (event : Event) → Decidable (FindsRecent w event)
  | .opens _ true => inferInstanceAs (Decidable (∀ key ∈ w.keyWindow, Recent w key))
  | .opens address false => inferInstanceAs (Decidable (Recent w address))
  | .showTabWindow _ | .presentShellWindow _ =>
    inferInstanceAs (Decidable (∀ key ∈ w.keyWindow, _ → Recent w key))
  | .passes _ | .closes _ | .loads .. | .sweep => isTrue trivial

/-- The entry of a tab that is not key goes back a sweep period at most behind the time since
when it has been left alone. -/
structure Fair (w : World) (tab : Tab) : Prop where
  past : tab.leftAlone ≤ w.now
  entry : w.keyWindow ≠ some tab.address → ∀ time, w.lastActiveTime tab.address = some time →
    tab.leftAlone ≤ time + kIdleTabSweepSeconds

def AllFair (w : World) : Prop := ∀ tab ∈ w.windows, Fair w tab

section Runs

variable {w : World}

theorem isOpen_of_mem {tab : Tab} (mem : tab ∈ w.windows) : isOpen w tab.address = true :=
  List.any_eq_true.mpr ⟨tab, mem, decide_eq_true rfl⟩

theorem sweptTimes_of_not_kept {tab : Tab} (mem : tab ∈ w.windows)
    (other : keep w ≠ some tab.address) :
    sweptTimes w tab.address = some ((w.lastActiveTime tab.address).getD w.now) := by
  have entry : live w tab.address = some ((w.lastActiveTime tab.address).getD w.now) :=
    if_pos (isOpen_of_mem mem)
  unfold sweptTimes
  cases keeps : keep w with
  | none => exact entry
  | some kept =>
    have apart : tab.address ≠ kept := fun same => other (same ▸ keeps)
    exact (Function.update_of_ne apart ..).trans entry

theorem sweptTimes_of_kept {address : ℕ} (keeps : keep w = some address) :
    sweptTimes w address = some w.now := by
  rw [sweptTimes, keeps]
  exact Function.update_self ..

theorem keep_of_key {tab : Tab} (mem : tab ∈ w.windows) (key : w.keyWindow = some tab.address) :
    keep w = some tab.address := by
  rw [keep, keyWindowShell, key, Option.filter_some, isOpen_of_mem mem]
  rfl

/-- A tab whose entry does not go back too far is discarded in its time. -/
theorem honours_of_fair (fair : AllFair w) (event : Event) :
    HonoursTenMinutes w event := by
  cases event with
  | sweep =>
    intro tab mem discards
    simp only [idle, Bool.and_eq_true, decide_eq_true_eq, Bool.not_eq_true',
      decide_eq_false_iff_not, not_lt] at discards
    obtain ⟨⟨other, -⟩, old⟩ := discards
    have behind : w.keyWindow ≠ some tab.address := fun key => other (keep_of_key mem key)
    refine ⟨behind, ?_⟩
    rw [sweptTimes_of_not_kept mem other, Option.getD_some] at old
    cases entry : w.lastActiveTime tab.address with
    | none =>
      rw [entry, Option.getD_none, sub_self] at old
      exact absurd old (by decide +kernel)
    | some time =>
      have recent := (fair tab mem).entry behind time entry
      rw [entry, Option.getD_some] at old
      linarith
  | passes elapsed => trivial
  | opens address selected => trivial
  | closes address => trivial
  | showTabWindow address => trivial
  | presentShellWindow address => trivial
  | loads address wasDiscarded hasUncommittedNavigation => trivial

theorem fair_makeKeyAndVisible (fair : AllFair w) (address : ℕ)
    (recent : ∀ key, w.keyWindow = some key → key ≠ address → Recent w key) :
    AllFair (makeKeyAndVisible w address) := by
  intro tab mem
  obtain ⟨before, was, rfl⟩ := List.mem_map.mp mem
  by_cases key : w.keyWindow = some before.address
  · rw [if_pos key]
    refine ⟨le_rfl, fun behind time entry => ?_⟩
    exact recent before.address key (fun same => behind (congrArg some same.symm)) time entry
  · rw [if_neg key]
    exact ⟨(fair before was).past, fun _ => (fair before was).entry key⟩

theorem fair_blinkNoteTabActivated (address : ℕ)
    (fair : ∀ tab ∈ w.windows, tab.address ≠ address → Fair w tab) :
    AllFair (blinkNoteTabActivated w address) := by
  have later : w.now ≤ w.now + kIdleTabSweepSeconds :=
    le_add_of_nonneg_right (by decide +kernel)
  intro tab mem
  obtain ⟨before, was, rfl⟩ := List.mem_map.mp mem
  by_cases here : before.address = address
  · rw [if_pos here]
    refine ⟨le_rfl, fun _ time entry => ?_⟩
    have noted : some w.now = some time := by
      rw [← entry]
      simp only [blinkNoteTabActivated, here, Function.update_self]
    exact Option.some.inj noted ▸ later
  · rw [if_neg here]
    refine ⟨(fair before was here).past, fun behind time entry => ?_⟩
    refine (fair before was here).entry behind time ?_
    rwa [← Function.update_of_ne here (some w.now) w.lastActiveTime]

theorem fair_showTabWindow (address : ℕ)
    (fair : ∀ tab ∈ w.windows, tab.address ≠ address → Fair w tab)
    (recent : ∀ key, w.keyWindow = some key → key ≠ address → Recent w key) :
    AllFair (showTabWindow w address) := by
  refine fair_makeKeyAndVisible (fair_blinkNoteTabActivated address fair) address ?_
  intro key owns other time entry
  refine recent key owns other time ?_
  rwa [← Function.update_of_ne other (some w.now) w.lastActiveTime]

theorem fair_createShell (address : ℕ) {tab : Tab} (mem : tab ∈ (createShell w address).windows)
    (fair : AllFair w) :
    Fair (createShell w address) tab ∨ tab = ⟨address, false, false, w.now⟩ := by
  rcases List.mem_append.mp mem with old | new
  · exact .inl ⟨(fair tab old).past, (fair tab old).entry⟩
  · exact .inr (List.mem_singleton.mp new)

theorem fair_opens (fair : AllFair w) (address : ℕ) (selected : Bool)
    (finds : FindsRecent w (.opens address selected)) :
    AllFair (step w (.opens address selected)) := by
  by_cases used : isOpen w address = true
  · simpa only [step, used, if_true] using fair
  · rw [step, if_neg used]
    cases selected with
    | false =>
      intro tab mem
      rcases fair_createShell address mem fair with old | rfl
      · exact old
      · exact ⟨le_rfl, fun _ => finds⟩
    | true =>
      refine fair_showTabWindow address (fun tab mem other => ?_) fun key owns _ =>
        finds key owns
      rcases fair_createShell address mem fair with old | rfl
      · exact old
      · exact absurd rfl other

theorem fair_sweep (fair : AllFair w) : AllFair (blinkDiscardIdleBackgroundTabs w) := by
  intro tab mem
  obtain ⟨before, was, rfl⟩ := List.mem_map.mp mem
  have period : (0 : ℚ) ≤ kIdleTabSweepSeconds := by decide +kernel
  have swept : Fair (blinkDiscardIdleBackgroundTabs w) before := by
    refine ⟨(fair before was).past, fun behind time entry => ?_⟩
    have past := (fair before was).past
    change sweptTimes w before.address = some time at entry
    by_cases kept : keep w = some before.address
    · rw [sweptTimes_of_kept kept] at entry
      obtain rfl := Option.some.inj entry
      linarith
    · rw [sweptTimes_of_not_kept was kept] at entry
      cases recorded : w.lastActiveTime before.address with
      | none =>
        rw [recorded, Option.getD_none] at entry
        obtain rfl := Option.some.inj entry
        linarith
      | some time' =>
        rw [recorded, Option.getD_some] at entry
        obtain rfl := Option.some.inj entry
        exact (fair before was).entry behind _ recorded
  split
  · exact ⟨swept.past, swept.entry⟩
  · exact swept

theorem fair_step (event : Event) (fair : AllFair w) (finds : FindsRecent w event) :
    AllFair (step w event) := by
  cases event with
  | passes elapsed =>
    intro tab mem
    have later : w.now ≤ w.now + elapsed := le_add_of_nonneg_right elapsed.2
    exact ⟨(fair tab mem).past.trans later, (fair tab mem).entry⟩
  | opens address selected => exact fair_opens fair address selected finds
  | closes address =>
    intro tab mem
    obtain ⟨mem, other⟩ := List.mem_filter.mp mem
    refine ⟨(fair tab mem).past, fun behind => (fair tab mem).entry fun key => behind ?_⟩
    rw [step, key, Option.filter_some, if_pos other]
  | showTabWindow address =>
    rw [step]
    split
    · exact fair_showTabWindow address (fun tab mem _ => fair tab mem) finds
    · exact fair
  | presentShellWindow address =>
    rw [step]
    split
    · exact fair_makeKeyAndVisible fair address finds
    · exact fair
  | loads address wasDiscarded hasUncommittedNavigation =>
    intro tab mem
    obtain ⟨before, was, rfl⟩ := List.mem_map.mp mem
    split
    · exact ⟨(fair before was).past, (fair before was).entry⟩
    · exact ⟨(fair before was).past, (fair before was).entry⟩
  | sweep => exact fair_sweep fair

/-- Over every run in which no window ceases to be key with an old entry, and no shell that is
not selected at once comes to an address with one, the sweep honours its ten minutes. -/
theorem idleSweep_honours (now : ℚ) (events : List Event)
    (finds : Permitted FindsRecent step (started now) events) :
    Permitted HonoursTenMinutes step (started now) events := by
  rw [permitted_iff_each]
  intro past event before
  have permitted := permitted_past finds ((List.prefix_append past [event]).trans before)
  have fair : AllFair (past.foldl step (started now)) :=
    invariant_run (fun _ event fair finds => fair_step event fair finds) (started now) past nofun
      permitted
  exact honours_of_fair fair event

end Runs

section TenMinutes

/-- Two tabs, the first one brought back; it stays in front for nine minutes. -/
def nineMinutes : List Event :=
  [.opens 0 true, .opens 1 true, .showTabWindow 0] ++
    (List.replicate 9 [.passes 60, .sweep]).flatten

theorem idleSweep_honours_nineMinutes : Permitted HonoursTenMinutes step (started 0)
    (nineMinutes ++ [.passes 60, .sweep]) :=
  idleSweep_honours 0 (nineMinutes ++ [.passes 60, .sweep]) (by decide +kernel)

/-- The second tab is closed, and a window is opened at its address. -/
def reusedAddress : List Event :=
  nineMinutes ++ [.passes 55, .closes 1, .passes 1, .opens 1 false, .passes 4]

theorem newWindow_discarded : ¬ ∀ now events,
    Permitted HonoursTenMinutes step (started now) events := by
  intro honours
  have swept := (permitted_iff_each _ _).mp (honours 0 (reusedAddress ++ [.sweep])) reusedAddress
    .sweep (List.prefix_refl _)
  have early := (swept ⟨1, false, false, 596⟩ (by decide +kernel) (by decide +kernel)).2
  revert early
  decide +kernel

end TenMinutes

end BlinkerFluid.IdleSweep
