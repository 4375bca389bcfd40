import BlinkerFluid.RestoreList
import BlinkerFluid.LaunchSteps

/-! The tabs a launch opens. Shells are numbered in the order of the tabs, so tab `i` of
the session belongs to address `i` of the opened list: it is deferred with this address,
loading it, or showing it. -/

namespace BlinkerFluid.RestoredTabs
open ByteString WebAddress OpenTabs CrashPoints RestoreList LaunchSteps

variable {p : Platform}

def launched (p : Platform) (d : Preferences) : Session :=
  ((initializeMessageLoopContext p fun _ => .none).run (started d)).state

/-- The sessions are equal but for what the last save wrote. -/
structure Agrees (s t : Session) : Prop where
  windows : t.windows = s.windows
  pending : t.pendingRestoreURLs = s.pendingRestoreURLs
  next : t.nextShell = s.nextShell
  privateBrowsing : t.preferences.privateBrowsing = s.preferences.privateBrowsing
  homepage : t.preferences.homepage = s.preferences.homepage

theorem Agrees.trans {s t u : Session} (first : Agrees s t) (second : Agrees t u) : Agrees s u :=
  ⟨second.windows.trans first.windows, second.pending.trans first.pending,
    second.next.trans first.next, second.privateBrowsing.trans first.privateBrowsing,
    second.homepage.trans first.homepage⟩

theorem agrees_save (p : Platform) (s : Session) : Agrees s (blinkSaveOpenTabs p s) := by
  unfold blinkSaveOpenTabs
  split_ifs <;> exact ⟨rfl, rfl, rfl, rfl, rfl⟩

theorem agrees_navigate (p : Platform) (s : Session) (shell : ℕ) (f : Tab → Tab) :
    Agrees (updateTab shell f s) ((navigate p shell f).run s).state :=
  agrees_save p (updateTab shell f s)

/-- Shells are unique, so a shell finds its own tab. -/
def Unique (s : Session) : Prop :=
  ∀ tab ∈ s.windows, findTab s tab.shell = some tab

theorem updateTab_windows_congr (s : Session) (shell : ℕ) (f : Tab → Tab)
    (same : ∀ tab ∈ s.windows, tab.shell = shell → f tab = tab) : updateTab shell f s = s := by
  have windows : s.windows.map (fun tab => if tab.shell = shell then f tab else tab) =
      s.windows := by
    conv_rhs => rw [← List.map_id s.windows]
    apply List.map_congr_left
    intro tab mem
    by_cases here : tab.shell = shell
    · rw [if_pos here, same tab mem here, id]
    · rw [if_neg here, id]
  rw [updateTab, windows]

theorem agrees_loadURL (p : Platform) (s : Session) (shell : ℕ) (url : GURL) (unique : Unique s) :
    Agrees (updateTab shell (Tab.start url) s) ((loadURL p false shell url).run s).state := by
  rw [loadURL, run_get_bind]
  simp only [Bool.false_eq_true, if_false]
  cases entry : (findTab s shell).bind (·.pendingEntry) with
  | none => exact agrees_navigate p s shell _
  | some pending =>
    by_cases same : pending = url
    · subst same
      simp only [if_true, run_pure]
      rw [updateTab_windows_congr s shell]
      · exact ⟨rfl, rfl, rfl, rfl, rfl⟩
      · rintro tab mem rfl
        rw [unique tab mem] at entry
        simp only [Option.bind_some] at entry
        rw [Tab.start, ← entry]
    · simp only [same, if_false, run_bind_state]
      have stopped := agrees_navigate p s shell Tab.stop
      have restarted := agrees_navigate p ((navigate p shell Tab.stop).run s).state shell
        (Tab.start url)
      refine ⟨restarted.windows.trans ?_, restarted.pending.trans stopped.pending,
        restarted.next.trans stopped.next, restarted.privateBrowsing.trans stopped.privateBrowsing,
        restarted.homepage.trans stopped.homepage⟩
      rw [updateTab, stopped.windows]
      simp only [updateTab, List.map_map]
      apply List.map_congr_left
      intro tab _
      by_cases here : tab.shell = shell
      · simp [here, Tab.stop, Tab.start]
      · simp [here]

/-- How a tab stands to the address it was restored with. -/
inductive Holds (deferred : Option GURL) (url : GURL) (tab : Tab) : Prop where
  | deferred (kept : deferred = some url)
      (web : url.isValid = true ∧ url.schemeIsHTTPOrHTTPS = true)
      (blank : tab.lastCommittedURL = .none ∨ tab.lastCommittedURL = blankURL)
      (entry : tab.pendingEntry = none ∨ tab.pendingEntry = some blankURL)
  | loading (kept : deferred = none) (entry : tab.pendingEntry = some url)
      (committed : tab.lastCommittedURL = .none ∨ tab.lastCommittedURL = blankURL ∨
        tab.lastCommittedURL = url)
  | loaded (kept : deferred = none) (entry : tab.pendingEntry = none)
      (committed : tab.lastCommittedURL = url)

/-- Tab by tab, the session holds the restored list. -/
structure Restoring (d : Preferences) (restore : List GURL) (s : Session) : Prop where
  length : s.windows.length = restore.length
  next : s.nextShell = restore.length
  tabs : ∀ i url tab, restore[i]? = some url → s.windows[i]? = some tab →
    tab.shell = i ∧ tab.offTheRecord = false ∧ Holds (s.pendingRestoreURLs.lookup i) url tab
  fresh : ∀ shell, restore.length ≤ shell → s.pendingRestoreURLs.lookup shell = none
  privateBrowsing : s.preferences.privateBrowsing = d.privateBrowsing
  homepage : s.preferences.homepage = d.homepage

variable {d : Preferences} {restore : List GURL}

theorem Restoring.agrees {s t : Session} (held : Restoring d restore s) (agrees : Agrees s t) :
    Restoring d restore t where
  length := by rw [agrees.windows, held.length]
  next := by rw [agrees.next, held.next]
  tabs := by
    rw [agrees.windows, agrees.pending]
    exact held.tabs
  fresh := by
    rw [agrees.pending]
    exact held.fresh
  privateBrowsing := by rw [agrees.privateBrowsing, held.privateBrowsing]
  homepage := by rw [agrees.homepage, held.homepage]

theorem Restoring.tab {s : Session} (held : Restoring d restore s) {tab : Tab}
    (mem : tab ∈ s.windows) :
    ∃ url, restore[tab.shell]? = some url ∧ s.windows[tab.shell]? = some tab ∧
      tab.offTheRecord = false ∧ Holds (s.pendingRestoreURLs.lookup tab.shell) url tab := by
  obtain ⟨i, here⟩ := List.mem_iff_getElem?.mp mem
  have bound : i < restore.length := by
    rw [← held.length]
    exact (List.getElem?_eq_some_iff.mp here).1
  obtain ⟨shell, shown, holds⟩ := held.tabs i restore[i] tab (List.getElem?_eq_getElem bound) here
  subst shell
  exact ⟨restore[tab.shell], List.getElem?_eq_getElem bound, here, shown, holds⟩

theorem Restoring.unique {s : Session} (held : Restoring d restore s) : Unique s := by
  intro tab mem
  obtain ⟨url, -, here, -⟩ := held.tab mem
  cases found : findTab s tab.shell with
  | none =>
    have missing := List.find?_eq_none.mp found tab mem
    simp at missing
  | some tab' =>
    have same := List.find?_some found
    rw [decide_eq_true_eq] at same
    obtain ⟨-, -, here', -⟩ := held.tab (List.mem_of_find?_eq_some found)
    rw [same, here] at here'
    exact here'.symm

theorem Restoring.change {s : Session} (held : Restoring d restore s) (shell : ℕ) (f : Tab → Tab)
    (pending : List (ℕ × GURL)) (number : ∀ tab, (f tab).shell = tab.shell)
    (side : ∀ tab, (f tab).offTheRecord = tab.offTheRecord)
    (others : ∀ other, other ≠ shell → pending.lookup other = s.pendingRestoreURLs.lookup other)
    (beyond : restore.length ≤ shell → pending.lookup shell = none)
    (keeps : ∀ url tab, restore[shell]? = some url → s.windows[shell]? = some tab →
      Holds (s.pendingRestoreURLs.lookup shell) url tab →
      Holds (pending.lookup shell) url (f tab)) :
    Restoring d restore (updateTab shell f { s with pendingRestoreURLs := pending }) where
  length := by simp [OpenTabs.updateTab, held.length]
  next := held.next
  tabs := by
    intro i url tab listed here
    simp only [OpenTabs.updateTab, List.getElem?_map, Option.map_eq_some_iff] at here
    obtain ⟨old, here, rfl⟩ := here
    obtain ⟨same, shown, holds⟩ := held.tabs i url old listed here
    by_cases changed : old.shell = shell
    · rw [if_pos changed, number, side]
      have at_shell : i = shell := same.symm.trans changed
      subst at_shell
      exact ⟨same, shown, keeps url old listed here holds⟩
    · have other : i ≠ shell := fun at_shell => changed (same.trans at_shell)
      rw [if_neg changed]
      refine ⟨same, shown, ?_⟩
      rwa [← others i other] at holds
  fresh := by
    intro other outside
    by_cases at_shell : other = shell
    · subst at_shell
      exact beyond outside
    · exact (others other at_shell).trans (held.fresh other outside)
  privateBrowsing := held.privateBrowsing
  homepage := held.homepage

theorem Restoring.updateTab {s : Session} (held : Restoring d restore s) (shell : ℕ)
    (f : Tab → Tab) (number : ∀ tab, (f tab).shell = tab.shell)
    (side : ∀ tab, (f tab).offTheRecord = tab.offTheRecord)
    (keeps : ∀ url tab, restore[shell]? = some url → s.windows[shell]? = some tab →
      Holds (s.pendingRestoreURLs.lookup shell) url tab →
      Holds (s.pendingRestoreURLs.lookup shell) url (f tab)) :
    Restoring d restore (updateTab shell f s) :=
  held.change shell f s.pendingRestoreURLs number side (fun _ _ => rfl) (held.fresh shell) keeps

theorem Restoring.flags {s : Session} (held : Restoring d restore s) (flag : Tab → Bool) :
    Restoring d restore
      { s with windows := s.windows.map fun tab => { tab with wasDiscarded := flag tab } } := by
  refine ⟨by simp [held.length], held.next, ?_, held.fresh, held.privateBrowsing, held.homepage⟩
  intro i url tab listed here
  simp only [List.getElem?_map, Option.map_eq_some_iff] at here
  obtain ⟨old, here, rfl⟩ := here
  obtain ⟨same, shown, holds⟩ := held.tabs i url old listed here
  refine ⟨same, shown, ?_⟩
  cases holds with
  | deferred kept web blank entry => exact .deferred kept web blank entry
  | loading kept entry committed => exact .loading kept entry committed
  | loaded kept entry committed => exact .loaded kept entry committed

theorem Restoring.discard {s : Session} (held : Restoring d restore s) (keep : ℕ) :
    Restoring d restore (blinkDiscardBackgroundTabs keep s) := by
  obtain ⟨flag, same⟩ := blinkDiscardBackgroundTabs_eq keep s
  rw [same]
  exact held.flags flag

theorem Restoring.discardBehindFront {s : Session} (held : Restoring d restore s) :
    Restoring d restore (discardBehindFront s) := by
  obtain ⟨flag, same⟩ := discardBehindFront_eq s
  rw [same]
  exact held.flags flag

def newTab (shell : ℕ) (offTheRecord : Bool) (url : GURL) : Tab :=
  ⟨shell, offTheRecord, .none, some url, [], false⟩

theorem unique_createShell (s : Session) (offTheRecord : Bool) (unique : Unique s)
    (others : ∀ tab ∈ s.windows, tab.shell ≠ s.nextShell) : Unique (createShell offTheRecord s) := by
  intro tab mem
  rw [findTab, createShell, List.find?_append]
  rcases List.mem_append.mp mem with old | new
  · rw [show s.windows.find? (·.shell = tab.shell) = some tab from unique tab old]
    rfl
  · obtain rfl := List.mem_singleton.mp new
    have none : s.windows.find? (·.shell = s.nextShell) = none :=
      List.find?_eq_none.mpr fun old mem => by simpa using others old mem
    simp [none]

theorem agrees_createNewWindow (p : Platform) (s : Session) (offTheRecord : Bool) (url : GURL)
    (named : url.isEmpty = false) (unique : Unique (discardBehindFront s))
    (others : ∀ tab ∈ (discardBehindFront s).windows,
      tab.shell ≠ (discardBehindFront s).nextShell) :
    ((createNewWindow p .none offTheRecord url).run s).value =
      some (discardBehindFront s).nextShell ∧
    Agrees { discardBehindFront s with
        windows := (discardBehindFront s).windows ++
          [newTab (discardBehindFront s).nextShell offTheRecord url]
        nextShell := (discardBehindFront s).nextShell + 1 }
      ((createNewWindow p .none offTheRecord url).run s).state := by
  have admitted : (!(discardBehindFront s).windows.isEmpty && MemoryGuard.none.windowRefused) =
      false := by simp [MemoryGuard.none]
  have loads := agrees_loadURL p (createShell offTheRecord (discardBehindFront s))
    (discardBehindFront s).nextShell url (unique_createShell _ offTheRecord unique others)
  have started : updateTab (discardBehindFront s).nextShell (Tab.start url)
      (createShell offTheRecord (discardBehindFront s)) =
      { discardBehindFront s with
        windows := (discardBehindFront s).windows ++
          [newTab (discardBehindFront s).nextShell offTheRecord url]
        nextShell := (discardBehindFront s).nextShell + 1 } := by
    have old : (discardBehindFront s).windows.map (fun tab =>
        if tab.shell = (discardBehindFront s).nextShell then tab.start url else tab) =
        (discardBehindFront s).windows := by
      conv_rhs => rw [← List.map_id (discardBehindFront s).windows]
      exact List.map_congr_left fun tab mem => if_neg (others tab mem)
    simp only [updateTab, createShell, List.map_append, old]
    simp [newTab, Tab.start]
  rw [started] at loads
  simp only [createNewWindow, run_bind_value, run_bind_state, run_atomically, run_get_bind,
    admitted, Bool.false_eq_true, if_false, named, run_pure]
  exact ⟨trivial, loads⟩

theorem Restoring.others {s : Session} (held : Restoring d restore s) :
    ∀ tab ∈ s.windows, tab.shell ≠ s.nextShell := by
  intro tab mem
  obtain ⟨url, listed, -⟩ := held.tab mem
  have bound := (List.getElem?_eq_some_iff.mp listed).1
  rw [held.next]
  omega

theorem Restoring.append {s : Session} (held : Restoring d restore s) (url : GURL) (tab : Tab)
    (pending : List (ℕ × GURL)) (number : tab.shell = restore.length)
    (shown : tab.offTheRecord = false)
    (same : ∀ shell, shell ≠ restore.length →
      pending.lookup shell = s.pendingRestoreURLs.lookup shell)
    (holds : Holds (pending.lookup restore.length) url tab) :
    Restoring d (restore ++ [url]) { s with
      windows := s.windows ++ [tab]
      pendingRestoreURLs := pending
      nextShell := s.nextShell + 1 } where
  length := by simp [held.length]
  next := by simp [held.next]
  tabs := by
    intro i url' tab' listed here
    by_cases old : i < restore.length
    · rw [List.getElem?_append_left old] at listed
      rw [List.getElem?_append_left (by rw [held.length]; exact old)] at here
      rw [same i (by omega)]
      exact held.tabs i url' tab' listed here
    · have bound := (List.getElem?_eq_some_iff.mp listed).1
      rw [List.length_append, List.length_singleton] at bound
      obtain rfl : i = restore.length := by omega
      rw [List.getElem?_concat_length, Option.some.injEq] at listed
      rw [← held.length, List.getElem?_concat_length, Option.some.injEq] at here
      subst listed here
      exact ⟨number, shown, holds⟩
  fresh := by
    intro shell beyond
    rw [List.length_append, List.length_singleton] at beyond
    rw [same shell (by omega)]
    exact held.fresh shell (by omega)
  privateBrowsing := held.privateBrowsing
  homepage := held.homepage

/-- One turn of the restore loop restores one more address. -/
theorem Restoring.restoreTab (canonical : Canonical p.parse) {s : Session}
    (held : Restoring d restore s) (loadNow : Bool) (url : GURL) (restorable : Restorable p url) :
    Restoring d (restore ++ [url]) ((restoreTab p .none false loadNow url).run s).state := by
  have shed := held.discardBehindFront
  have next : (OpenTabs.discardBehindFront s).nextShell = restore.length := shed.next
  have unlisted := shed.fresh restore.length (Nat.le_refl _)
  have named : (if loadNow then url else blankURL).isEmpty = false := by
    have spec : (if loadNow then url else blankURL).spec ≠ [] := by
      split_ifs
      · exact restorable.spec_ne_nil canonical
      · decide
    simpa [GURL.isEmpty] using spec
  obtain ⟨value, agrees⟩ := agrees_createNewWindow p s false (if loadNow then url else blankURL)
    named shed.unique shed.others
  rw [OpenTabs.restoreTab, run_bind_state, value]
  by_cases deferred : (!loadNow && !url.isAboutBlank) = true
  · -- A page behind the first tab is deferred: its tab loads the blank page.
    simp only [deferred, if_true, run_atomically]
    rw [Bool.and_eq_true, Bool.not_eq_true', Bool.not_eq_true'] at deferred
    have real : RealPage p url := by
      rcases restorable with rfl | real
      · exact absurd deferred.2 (by decide)
      · exact real
    have absent : ((createNewWindow p .none false (if loadNow then url else blankURL)).run
        s).state.pendingRestoreURLs.lookup (OpenTabs.discardBehindFront s).nextShell = none := by
      rw [agrees.pending, next]
      exact unlisted
    rw [emplacePendingRestoreURL, if_neg (by simp [absent])]
    have extended := shed.append url (newTab restore.length false blankURL)
      ((restore.length, url) :: (OpenTabs.discardBehindFront s).pendingRestoreURLs) rfl rfl
      (fun shell other => by rw [List.lookup_cons, beq_eq_false_iff_ne.mpr other])
      (.deferred (by simp) ⟨real.valid, real.http⟩ (.inl rfl) (.inr rfl))
    refine extended.agrees ⟨?_, ?_, agrees.next, agrees.privateBrowsing, agrees.homepage⟩
    · rw [agrees.windows, next, deferred.1]
      rfl
    · simp only [agrees.pending, next]
  · simp only [deferred, Bool.false_eq_true, if_false, run_pure]
    -- The first tab loads its address, and a blank one has nothing to defer.
    have target : (if loadNow then url else blankURL) = url := by
      cases loadNow with
      | true => rfl
      | false =>
        rcases restorable with rfl | real
        · rfl
        · simp [real.not_isAboutBlank] at deferred
    rw [target] at agrees ⊢
    have extended := shed.append url (newTab restore.length false url)
      (OpenTabs.discardBehindFront s).pendingRestoreURLs rfl rfl (fun _ _ => rfl)
      (.loading unlisted rfl (.inl rfl))
    refine extended.agrees ⟨?_, agrees.pending, agrees.next, agrees.privateBrowsing, agrees.homepage⟩
    rw [agrees.windows, next]

theorem Restoring.restoreTabs (canonical : Canonical p.parse) (rest : List GURL) (i : ℕ)
    {s : Session} (held : Restoring d restore s) (restorable : ∀ url ∈ rest, Restorable p url) :
    Restoring d (restore ++ rest) ((restoreTabs p (fun _ => .none) false i rest).run s).state := by
  induction rest generalizing restore i s with
  | nil => simpa [OpenTabs.restoreTabs] using held
  | cons url rest ih =>
    have turn := held.restoreTab canonical (i == 0) url (restorable url List.mem_cons_self)
    have final := ih (i + 1) turn fun url' mem => restorable url' (List.mem_cons_of_mem _ mem)
    rw [OpenTabs.restoreTabs, run_bind_state]
    simpa using final

/-- The addresses a launch opens: what it restores, or else the startup page. -/
def opened (p : Platform) (d : Preferences) : List GURL :=
  if (getRestoreTabURLs p d).2 = [] then [getStartupURL p d] else (getRestoreTabURLs p d).2

theorem getStartupURL_congr (d d' : Preferences) (same : d'.homepage = d.homepage) :
    getStartupURL p d' = getStartupURL p d := by
  rw [getStartupURL, getStartupURL, same]

theorem getStartupURL_named (canonical : Canonical p.parse) (d : Preferences) :
    (getStartupURL p d).isEmpty = false ∨ getStartupURL p d = .none := by
  by_cases empty : (getStartupURL p d).spec = []
  · right
    simp only [getStartupURL] at empty ⊢
    split_ifs at empty ⊢ with homepage
    · exact canonical.empty _ empty
    · cases empty
  · left
    simpa [GURL.isEmpty] using empty

theorem Restoring.startup (canonical : Canonical p.parse) {s : Session}
    (held : Restoring d [] s) :
    Restoring d [getStartupURL p d]
      ((createNewWindow p .none false (getStartupURL p d)).run s).state := by
  have shed := held.discardBehindFront
  have undeferred := shed.fresh 0 (Nat.zero_le _)
  rcases getStartupURL_named canonical d with named | unnamed
  · obtain ⟨-, agrees⟩ := agrees_createNewWindow p s false _ named shed.unique shed.others
    have extended := shed.append (getStartupURL p d) (newTab 0 false (getStartupURL p d))
      (OpenTabs.discardBehindFront s).pendingRestoreURLs rfl rfl (fun _ _ => rfl)
      (.loading undeferred rfl (.inl rfl))
    have first : (OpenTabs.discardBehindFront s).nextShell = 0 := shed.next
    rw [first] at agrees
    exact extended.agrees ⟨agrees.windows, agrees.pending, by simpa [first] using agrees.next,
      agrees.privateBrowsing, agrees.homepage⟩
  · have extended := shed.append .none ⟨0, false, .none, none, [], false⟩
      (OpenTabs.discardBehindFront s).pendingRestoreURLs rfl rfl (fun _ _ => rfl)
      (.loaded undeferred rfl rfl)
    have first : (OpenTabs.discardBehindFront s).nextShell = 0 := shed.next
    have admitted : (!(OpenTabs.discardBehindFront s).windows.isEmpty &&
        MemoryGuard.none.windowRefused) = false := by simp [MemoryGuard.none]
    have nothing : GURL.none.isEmpty = true := rfl
    rw [unnamed]
    simp only [createNewWindow, run_bind_state, run_atomically, run_get_bind, admitted,
      Bool.false_eq_true, if_false, nothing, if_true, run_pure, createShell, first]
    simpa [first] using extended

theorem restoring_launched (canonical : Canonical p.parse) (d : Preferences)
    (shown : d.privateBrowsing = false) : Restoring d (opened p d) (launched p d) := by
  obtain ⟨guard, written⟩ := getRestoreTabURLs_preferences p d
  have empty : Restoring d [] (started (getRestoreTabURLs p d).1) :=
    ⟨rfl, rfl, by simp, fun _ _ => rfl, by rw [started, written], by rw [started, written]⟩
  rw [launched, initializeMessageLoopContext, run_get_bind]
  by_cases found : (getRestoreTabURLs p d).2 = []
  · have startup := empty.startup canonical
    have homepage : getStartupURL p (getRestoreTabURLs p d).1 = getStartupURL p d :=
      getStartupURL_congr d _ (by rw [written])
    rw [opened, if_pos found]
    simp only [run_bind_state, run_atomically, started, found, List.isEmpty_nil, Bool.not_true,
      Bool.false_eq_true, if_false, shown, homepage, run_pure]
    exact startup
  · have restored := empty.restoreTabs canonical (getRestoreTabURLs p d).2 0
      fun url mem => restorable_of_mem mem
    have some : (getRestoreTabURLs p d).2.isEmpty = false := by simpa using found
    rw [opened, if_neg found]
    simp only [run_bind_state, run_atomically, started, some, Bool.not_false, if_true, shown]
    exact restored

end BlinkerFluid.RestoredTabs
