import BlinkerFluid.RestoreList
import BlinkerFluid.LaunchSteps

/-! Crashes during the restore loop. The list being restored is only in memory, and
the load of the first tab already rewrites the persisted list from the one tab that
exists then, so the later addresses are on disk again only after their own tabs have
been created and another save has run. -/

namespace BlinkerFluid.RestoreLoop
open ByteString WebAddress OpenTabs CrashPoints RestoreList LaunchSteps

variable {p : Platform}

/-- The next launch can restore this address from what is on disk. -/
def Persists (p : Platform) (d : Preferences) (url : GURL) : Prop :=
  ∃ entry ∈ d.openTabs, restoreURL p entry = some url

/-- The states in which the process may die inside the restore loop of a launch. -/
def loopStates (p : Platform) (guards : ℕ → MemoryGuard) (d : Preferences) : List Session :=
  let (launched, restore) := getRestoreTabURLs p d
  crashStates (restoreTabs p guards d.privateBrowsing 0 restore) (started launched)

/-- Whenever the process dies, every address that was being restored is on disk. -/
def NeverLost (p : Platform) (guards : ℕ → MemoryGuard) (d : Preferences) : Prop :=
  ∀ t ∈ loopStates p guards d, ∀ url ∈ (getRestoreTabURLs p d).2, Persists p t.preferences url

/-- The first shell is loading the address; nothing else is open. -/
def firstLoading (d : Preferences) (url : GURL) : Session :=
  ⟨d, [⟨0, false, .none, some url, [], false⟩], [], 1⟩

/-- The first window is never refused; its load saves the list of this one tab. -/
theorem createNewWindow_first (guard : MemoryGuard) (loads : guard.loadRefused = false)
    (d : Preferences) (url : GURL) (named : url.spec ≠ []) :
    (createNewWindow p guard false url).run (started d) =
      ⟨some 0, blinkSaveOpenTabs p (firstLoading d url),
        [started d, createShell false (started d), firstLoading d url,
          blinkSaveOpenTabs p (firstLoading d url)]⟩ := by
  have loaded : url.isEmpty = false := by simpa [GURL.isEmpty] using named
  simp [run_bind, createNewWindow, discardBehindFront, started, loaded, loads, loadURL, findTab,
    createShell, navigate, updateTab, firstLoading, Tab.start]

theorem restoreTab_first (guard : MemoryGuard) (loads : guard.loadRefused = false)
    (d : Preferences) (url : GURL) (named : url.spec ≠ []) :
    (restoreTab p guard false true url).run (started d) =
      ⟨(), blinkSaveOpenTabs p (firstLoading d url),
        [started d, createShell false (started d), firstLoading d url,
          blinkSaveOpenTabs p (firstLoading d url)]⟩ := by
  simp [run_bind, restoreTab, createNewWindow_first guard loads d url named]

theorem blinkTabURL_loading (s : Session) (tab : Tab) (url : GURL)
    (restorable : Restorable p url) (undeferred : s.pendingRestoreURLs.lookup tab.shell = none)
    (loading : tab.pendingEntry = some url) (fresh : tab.lastCommittedURL = .none) :
    blinkTabURL s tab = some url.spec := by
  have none_invalid : GURL.none.isValid = false := rfl
  have peek : peekPendingRestoreURL s tab.shell = .none := by
    rw [peekPendingRestoreURL, undeferred]
    rfl
  have visible : tab.visibleURL = url := by
    rw [Tab.visibleURL, loading]
    rfl
  rw [← savedAs_restorable restorable, blinkTabURL, peek, fresh, visible]
  simp only [none_invalid, Bool.not_false, if_true]
  rfl

theorem blinkSaveOpenTabs_firstLoading (d : Preferences) (url : GURL)
    (restorable : Restorable p url) :
    (blinkSaveOpenTabs p (firstLoading d url)).preferences.openTabs = [some url.spec] := by
  have saved := blinkTabURL_loading (firstLoading d url) ⟨0, false, .none, some url, [], false⟩ url
    restorable rfl rfl rfl
  simp only [firstLoading] at saved
  simp [blinkSaveOpenTabs, firstLoading, saved]

/-- The first tab is still loading the address, and the address is on disk. -/
structure Anchored (p : Platform) (url : GURL) (s : Session) : Prop where
  front : ∃ rest, s.windows = ⟨0, false, .none, some url, [], false⟩ :: rest
  undeferred : s.pendingRestoreURLs.lookup 0 = none
  persists : Persists p s.preferences url
  later : s.nextShell ≠ 0

theorem anchored_save (canonical : Canonical p.parse) (url : GURL) (restorable : Restorable p url)
    (s : Session) (anchored : Anchored p url s) : Anchored p url (blinkSaveOpenTabs p s) := by
  obtain ⟨rest, front⟩ := anchored.front
  have saved : blinkTabURL s ⟨0, false, .none, some url, [], false⟩ = some url.spec :=
    blinkTabURL_loading s _ url restorable anchored.undeferred rfl rfl
  by_cases hidden : s.windows.any (·.offTheRecord) = true
  · rw [blinkSaveOpenTabs, if_pos hidden]
    exact anchored
  · rw [blinkSaveOpenTabs, if_neg hidden]
    refine ⟨anchored.front, anchored.undeferred, ⟨some url.spec, ?_, ?_⟩, anchored.later⟩
    · simp [front, saved]
    · exact restoreURL_spec canonical restorable

theorem anchored_updateTab (url : GURL) (s : Session) (shell : ℕ) (f : Tab → Tab)
    (other : shell ≠ 0) (anchored : Anchored p url s) : Anchored p url (updateTab shell f s) := by
  obtain ⟨rest, front⟩ := anchored.front
  refine ⟨?_, anchored.undeferred, anchored.persists, anchored.later⟩
  exact ⟨rest.map fun tab => if tab.shell = shell then f tab else tab,
    by simp [updateTab, front, Ne.symm other]⟩

theorem anchored_discard (url : GURL) (s : Session) (anchored : Anchored p url s) :
    Anchored p url (discardBehindFront s) := by
  obtain ⟨rest, front⟩ := anchored.front
  have kept : discardBehindFront s = blinkDiscardBackgroundTabs 0 s := by
    rw [discardBehindFront, front]
  rw [kept, blinkDiscardBackgroundTabs]
  by_cases few : s.windows.length < 6
  · rw [if_pos few]
    exact anchored
  · rw [if_neg few]
    refine ⟨?_, anchored.undeferred, anchored.persists, anchored.later⟩
    exact ⟨rest.map fun tab => if tab.shell = 0 then tab else tab.discard, by simp [front]⟩

theorem anchored_createShell (url : GURL) (s : Session) (offTheRecord : Bool)
    (anchored : Anchored p url s) : Anchored p url (createShell offTheRecord s) := by
  obtain ⟨rest, front⟩ := anchored.front
  refine ⟨⟨rest ++ [⟨s.nextShell, offTheRecord, .none, none, [], false⟩], ?_⟩,
    anchored.undeferred, anchored.persists, Nat.succ_ne_zero _⟩
  rw [createShell, front]
  rfl

theorem anchored_emplace (url : GURL) (s : Session) (shell : ℕ) (target : GURL)
    (other : shell ≠ 0) (anchored : Anchored p url s) :
    Anchored p url (emplacePendingRestoreURL shell target s) := by
  by_cases present : (s.pendingRestoreURLs.lookup shell).isSome = true
  · rw [emplacePendingRestoreURL, if_pos present]
    exact anchored
  · rw [emplacePendingRestoreURL, if_neg present]
    refine ⟨anchored.front, ?_, anchored.persists, anchored.later⟩
    have first : (0 == shell) = false := by
      rw [beq_eq_false_iff_ne]
      exact other.symm
    rw [List.lookup_cons, first]
    exact anchored.undeferred

theorem anchored_launch (canonical : Canonical p.parse) (url : GURL)
    (restorable : Restorable p url) : LaunchInvariant p (Anchored p url) (· ≠ 0) where
  save := anchored_save canonical url restorable
  start := fun s shell target other anchored =>
    anchored_updateTab url s shell (Tab.start target) other anchored
  stop := fun s shell other anchored => anchored_updateTab url s shell Tab.stop other anchored
  next := fun _ anchored => anchored.later
  shed := anchored_discard url
  create := anchored_createShell url
  defer := anchored_emplace url

theorem persists_firstLoading (canonical : Canonical p.parse) (d : Preferences) (url : GURL)
    (restorable : Restorable p url) (other : GURL) :
    Persists p (blinkSaveOpenTabs p (firstLoading d url)).preferences other ↔ other = url := by
  rw [Persists, blinkSaveOpenTabs_firstLoading d url restorable]
  simp [restoreURL_spec canonical restorable, eq_comm]

theorem persists_launched (d : Preferences) (url : GURL)
    (mem : url ∈ (getRestoreTabURLs p d).2) : Persists p (getRestoreTabURLs p d).1 url := by
  obtain ⟨guard, launched⟩ := getRestoreTabURLs_preferences p d
  rw [getRestoreTabURLs_urls] at mem
  split_ifs at mem
  · obtain ⟨entry, stored, restored⟩ := List.mem_filterMap.mp (List.mem_of_mem_take mem)
    exact ⟨entry, by rwa [launched], restored⟩
  · cases mem

theorem privateBrowsing_of_mem (d : Preferences) (url : GURL)
    (mem : url ∈ (getRestoreTabURLs p d).2) : d.privateBrowsing = false := by
  rw [getRestoreTabURLs_urls] at mem
  split_ifs at mem with shown
  · exact shown.1
  · cases mem

theorem loopStates_eq (guards : ℕ → MemoryGuard) (d : Preferences) (first : GURL)
    (rest : List GURL) (restored : (getRestoreTabURLs p d).2 = first :: rest) :
    loopStates p guards d = crashStates (restoreTabs p guards false 0 (first :: rest))
      (started (getRestoreTabURLs p d).1) := by
  have shown := privateBrowsing_of_mem (p := p) d first (by simp [restored])
  simp only [loopStates, restored, shown]

/-- The state right after the first save holds the first address alone. -/
theorem same_of_neverLost (canonical : Canonical p.parse) (guards : ℕ → MemoryGuard)
    (loads : (guards 0).loadRefused = false) (d : Preferences) (first : GURL) (rest : List GURL)
    (restored : (getRestoreTabURLs p d).2 = first :: rest) (kept : NeverLost p guards d) :
    ∀ url ∈ first :: rest, url = first := by
  have restorable : Restorable p first := restorable_of_mem (d := d) (by simp [restored])
  have turn := restoreTab_first (p := p) (guards 0) loads (getRestoreTabURLs p d).1 first
    (restorable.spec_ne_nil canonical)
  have saved : blinkSaveOpenTabs p (firstLoading (getRestoreTabURLs p d).1 first) ∈
      loopStates p guards d := by
    rw [loopStates_eq guards d first rest restored, crashStates, restoreTabs, run_bind_passed,
      beq_self_eq_true, turn]
    simp
  intro url mem
  rw [← restored] at mem
  exact (persists_firstLoading canonical _ first restorable url).mp (kept _ saved url mem)

theorem keeps_persists (canonical : Canonical p.parse) (guards : ℕ → MemoryGuard)
    (loads : (guards 0).loadRefused = false) (d : Preferences) (first : GURL) (rest : List GURL)
    (restored : (getRestoreTabURLs p d).2 = first :: rest) :
    ∀ t ∈ loopStates p guards d, Persists p t.preferences first := by
  have first_mem : first ∈ (getRestoreTabURLs p d).2 := by simp [restored]
  have restorable := restorable_of_mem first_mem
  have before := persists_launched d first first_mem
  have turn := restoreTab_first (p := p) (guards 0) loads (getRestoreTabURLs p d).1 first
    (restorable.spec_ne_nil canonical)
  have saved := (persists_firstLoading canonical (getRestoreTabURLs p d).1 first restorable
    first).mpr rfl
  have anchored : Anchored p first (blinkSaveOpenTabs p
      (firstLoading (getRestoreTabURLs p d).1 first)) :=
    ⟨⟨[], rfl⟩, rfl, saved, Nat.one_ne_zero⟩
  have later := keeps_restoreTabs (anchored_launch canonical first restorable) anchored guards
    false 1 rest
  rw [loopStates_eq guards d first rest restored]
  refine keeps_crashStates before (keeps_bind ?_ ?_)
  · rw [beq_self_eq_true, Keeps, turn]
    refine ⟨saved, ?_⟩
    simp only [List.mem_cons, List.not_mem_nil, or_false]
    rintro t (rfl | rfl | rfl | rfl)
    · exact before
    · exact before
    · exact before
    · exact saved
  · rw [beq_self_eq_true, turn]
    exact ⟨later.1.persists, fun t mem => (later.2 t mem).persists⟩

/-- If the first load goes through, the restored addresses survive every crash exactly
if they are all the same. -/
theorem neverLost_iff (canonical : Canonical p.parse) (guards : ℕ → MemoryGuard)
    (loads : (guards 0).loadRefused = false) (d : Preferences) :
    NeverLost p guards d ↔
      ∀ url ∈ (getRestoreTabURLs p d).2, ∀ other ∈ (getRestoreTabURLs p d).2, url = other := by
  cases restored : (getRestoreTabURLs p d).2 with
  | nil => simp [NeverLost, restored]
  | cons first rest =>
    constructor
    · intro kept url mem other mem'
      have only := same_of_neverLost canonical guards loads d first rest restored kept
      exact (only url mem).trans (only other mem').symm
    · intro same t mem url url_mem
      rw [restored] at url_mem
      obtain rfl : url = first := same url url_mem first List.mem_cons_self
      exact keeps_persists canonical guards loads d url rest restored t mem

/-- Two tabs on the same page survive. -/
theorem neverLost_samePage :
    NeverLost samplePlatform (fun _ => .none) (stored ["a.test".toList, "a.test".toList]) :=
  (neverLost_iff sampleParse_canonical (fun _ => .none) rfl _).mpr (by decide +kernel)

/-- With two pages stored, a crash right after the first load loses the second. -/
theorem secondPage_lost :
    ¬ ∀ p : Platform, Canonical p.parse → ∀ (guards : ℕ → MemoryGuard),
      (guards 0).loadRefused = false → ∀ d, NeverLost p guards d := by
  intro kept
  have lost := same_of_neverLost (p := samplePlatform) sampleParse_canonical (fun _ => .none) rfl
    (stored ["a.test".toList, "b.test".toList]) (sampleParse (samplePage "a.test".toList))
    [sampleParse (samplePage "b.test".toList)] (by decide +kernel)
    (kept samplePlatform sampleParse_canonical (fun _ => .none) rfl _)
    (sampleParse (samplePage "b.test".toList)) (by simp)
  revert lost
  decide +kernel

end BlinkerFluid.RestoreLoop
