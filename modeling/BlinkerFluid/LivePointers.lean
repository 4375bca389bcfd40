import BlinkerFluid.ShellPointers

/-! What the events of the browser keep. Living shells have addresses and numbers of their
own, and a property that the calls keep, of which the events are made, is kept by every
event. -/

namespace BlinkerFluid.LivePointers
open WebAddress ShellPointers

variable {α : Type} {allocator : Allocator α} {s : Shells α}

structure Distinct (s : Shells α) : Prop where
  addresses : ∀ a ∈ s.windows, ∀ b ∈ s.windows, a.address = b.address → a = b
  numbers : ∀ a ∈ s.windows, ∀ b ∈ s.windows, a.number = b.number → a = b
  below : ∀ shell ∈ s.windows, shell.number < s.allocations

/-- The shell of this number lives at this address. -/
def LivesAt (s : Shells α) (address : α) (number : ℕ) : Prop :=
  ∃ shell ∈ s.windows, shell.address = address ∧ shell.number = number

section Distinct

theorem livesAt_number (distinct : Distinct s) {address : α} {number number' : ℕ}
    (lives : LivesAt s address number) (lives' : LivesAt s address number') : number = number' := by
  obtain ⟨shell, mem, rfl, rfl⟩ := lives
  obtain ⟨shell', mem', same, rfl⟩ := lives'
  rw [distinct.addresses shell' mem' shell mem same]

theorem livesAt_address (distinct : Distinct s) {address address' : α} {number : ℕ}
    (lives : LivesAt s address number) (lives' : LivesAt s address' number) :
    address = address' := by
  obtain ⟨shell, mem, rfl, rfl⟩ := lives
  obtain ⟨shell', mem', rfl, same⟩ := lives'
  rw [distinct.numbers shell' mem' shell mem same]

theorem livesAt_below (distinct : Distinct s) {address : α} {number : ℕ}
    (lives : LivesAt s address number) : number < s.allocations := by
  obtain ⟨shell, mem, -, rfl⟩ := lives
  exact distinct.below shell mem

theorem distinct_of_subset (distinct : Distinct s) {s' : Shells α}
    (windows : ∀ shell ∈ s'.windows, shell ∈ s.windows) (later : s.allocations ≤ s'.allocations) :
    Distinct s' where
  addresses := fun a aMem b bMem => distinct.addresses a (windows a aMem) b (windows b bMem)
  numbers := fun a aMem b bMem => distinct.numbers a (windows a aMem) b (windows b bMem)
  below := fun shell mem => (distinct.below shell (windows shell mem)).trans_le later

theorem newShell_fresh (allocator : Allocator α) (webContents : α) (s : Shells α) :
    ∀ shell ∈ s.windows, shell.address ≠ (newShell allocator webContents s).address := by
  intro shell mem same
  refine allocator.fresh s.allocations (webContents :: living s) ?_
  refine List.mem_cons_of_mem _ (List.mem_flatMap.mpr ⟨shell, mem, ?_⟩)
  exact List.mem_cons.mpr (.inl same.symm)

variable [DecidableEq α]

theorem load_address (address : α) (url : GURL) (shell : Shell α) :
    (shell.load address url).address = shell.address ∧
      (shell.load address url).number = shell.number ∧
      (shell.load address url).webContents = shell.webContents := by
  unfold Shell.load
  split <;> exact ⟨rfl, rfl, rfl⟩

theorem distinct_loadURL (distinct : Distinct s) (address : α) (url : GURL) :
    Distinct (loadURL address url s) := by
  constructor
  · intro a aMem b bMem same
    obtain ⟨a', aMem', rfl⟩ := List.mem_map.mp aMem
    obtain ⟨b', bMem', rfl⟩ := List.mem_map.mp bMem
    rw [(load_address address url a').1, (load_address address url b').1] at same
    rw [distinct.addresses a' aMem' b' bMem' same]
  · intro a aMem b bMem same
    obtain ⟨a', aMem', rfl⟩ := List.mem_map.mp aMem
    obtain ⟨b', bMem', rfl⟩ := List.mem_map.mp bMem
    rw [(load_address address url a').2.1, (load_address address url b').2.1] at same
    rw [distinct.numbers a' aMem' b' bMem' same]
  · intro shell mem
    obtain ⟨shell', mem', rfl⟩ := List.mem_map.mp mem
    rw [(load_address address url shell').2.1]
    exact distinct.below shell' mem'

theorem mem_createShell {webContents : α} {shell : Shell α} :
    shell ∈ (createShell allocator webContents s).windows ↔
      shell ∈ s.windows ∨ shell = newShell allocator webContents s := by
  simp [createShell]

theorem distinct_createShell (distinct : Distinct s) (allocator : Allocator α) (webContents : α) :
    Distinct (createShell allocator webContents s) := by
  have address := newShell_fresh allocator webContents s
  have number : ∀ shell ∈ s.windows, shell.number ≠ (newShell allocator webContents s).number :=
    fun shell mem => (distinct.below shell mem).ne
  constructor
  · intro a aMem b bMem same
    rcases mem_createShell.mp aMem with aOld | rfl <;> rcases mem_createShell.mp bMem with bOld | rfl
    · exact distinct.addresses a aOld b bOld same
    · exact absurd same (address a aOld)
    · exact absurd same.symm (address b bOld)
    · rfl
  · intro a aMem b bMem same
    rcases mem_createShell.mp aMem with aOld | rfl <;> rcases mem_createShell.mp bMem with bOld | rfl
    · exact distinct.numbers a aOld b bOld same
    · exact absurd same (number a aOld)
    · exact absurd same.symm (number b bOld)
    · rfl
  · intro shell mem
    rcases mem_createShell.mp mem with old | rfl
    · exact Nat.lt_succ_of_lt (distinct.below shell old)
    · exact Nat.lt_succ_self _

end Distinct

variable [DecidableEq α]

theorem findShell_some {address : α} {shell : Shell α} (found : findShell s address = some shell) :
    shell ∈ s.windows ∧ shell.address = address := by
  have same := List.find?_some found
  exact ⟨List.mem_of_find?_eq_some found, of_decide_eq_true same⟩

section LivesAt

theorem livesAt_loadURL {address : α} {number : ℕ} (lives : LivesAt s address number) (target : α)
    (url : GURL) : LivesAt (loadURL target url s) address number := by
  obtain ⟨shell, mem, rfl, rfl⟩ := lives
  have same := load_address target url shell
  exact ⟨shell.load target url, List.mem_map_of_mem mem, same.1, same.2.1⟩

theorem livesAt_createShell {address : α} {number : ℕ} (lives : LivesAt s address number)
    (allocator : Allocator α) (webContents : α) :
    LivesAt (createShell allocator webContents s) address number := by
  obtain ⟨shell, mem, same⟩ := lives
  exact ⟨shell, mem_createShell.mpr (.inl mem), same⟩

theorem livesAt_newShell (allocator : Allocator α) (webContents : α) (s : Shells α) :
    LivesAt (createShell allocator webContents s) (newShell allocator webContents s).address
      s.allocations :=
  ⟨newShell allocator webContents s, mem_createShell.mpr (.inr rfl), rfl, rfl⟩

end LivesAt

section Closing

theorem close_some {address : α} {shell : Shell α} (found : findShell s address = some shell) :
    close address s = deleteShell shell (destroyShell address s) := by
  rw [close, found]

theorem close_none {address : α} (absent : findShell s address = none) : close address s = s := by
  rw [close, absent]

theorem mem_deleteShell {shell other : Shell α} (differ : other.address ≠ shell.address) :
    other ∈ (deleteShell shell s).windows ↔ other ∈ s.windows :=
  List.mem_eraseP_of_neg (by simpa using differ)

theorem mem_of_mem_deleteShell {shell other : Shell α}
    (mem : other ∈ (deleteShell shell s).windows) : other ∈ s.windows :=
  List.mem_of_mem_eraseP mem

theorem distinct_close (distinct : Distinct s) (address : α) : Distinct (close address s) := by
  cases found : findShell s address with
  | none => rwa [close_none found]
  | some shell =>
    rw [close_some found]
    exact distinct_of_subset distinct (fun _ => mem_of_mem_deleteShell) le_rfl

/-- Every turn of the loop of `Shell::Shutdown` closes a shell, so that none is left. -/
theorem closeAll_windows (turns : ℕ) (s : Shells α) (enough : s.windows.length ≤ turns) :
    (closeAll turns s).windows = [] := by
  induction turns generalizing s with
  | zero => exact List.eq_nil_of_length_eq_zero (Nat.le_zero.mp enough)
  | succ turns ih =>
    rw [closeAll]
    cases last : s.windows.getLast? with
    | none => exact List.getLast?_eq_none_iff.mp last
    | some back =>
      have mem : back ∈ s.windows := List.mem_of_getLast? last
      refine ih _ ?_
      cases found : findShell s back.address with
      | none => exact absurd (List.find?_eq_none.mp found back mem) (by simp)
      | some shell =>
        rw [close_some found]
        obtain ⟨shellMem, same⟩ := findShell_some found
        have shorter : (s.windows.eraseP (·.address = shell.address)).length =
            s.windows.length - 1 :=
          List.length_eraseP_of_mem shellMem (by simp)
        exact shorter.trans_le (Nat.sub_le_of_le_add enough)

theorem shutdown_windows (s : Shells α) : (shutdown s).windows = [] :=
  closeAll_windows _ s le_rfl

end Closing

/-- The calls of which the events are made keep a property. A restore is recorded for a shell
that was not there before, and nothing is taken in between. -/
structure Kept (allocator : Allocator α) (P : Shells α → Prop) : Prop where
  loadURL : ∀ address url s, P s → P (loadURL address url s)
  setKeyWindow : ∀ keyWindow s, P s → P { s with keyWindow }
  take : ∀ shell s, LivesAt s shell.address shell.number → P s →
    P (takePendingRestoreURL shell s).1
  count : ∀ s, P s → P (countAllocation s)
  create : ∀ contents s, P s → P (createShell allocator contents s)
  createPopup : ∀ contents opener s, opener ∈ s.windows → P s →
    P (createShell allocator contents { s with
      authPopupContents := some contents, authPopupOpener := some opener.webContents })
  emplace : ∀ before shell url s, P before → before.allocations ≤ shell.number →
    s.taken = before.taken → LivesAt s shell.address shell.number → P s →
    P (emplacePendingRestoreURL shell url s)
  readTrackers : ∀ s, P s → P (readTrackers none s)
  forgetAuthPopup : ∀ source s, P s → P (forgetAuthPopup source s)
  close : ∀ address s, P s → P (close address s)

section Kept

variable {P : Shells α → Prop}

theorem createNewWindow_cases (allocator : Allocator α) (windowRefused : Bool) (url : GURL)
    (s : Shells α) :
    createNewWindow allocator windowRefused url s = (s, none) ∨
      ∃ contents, ∃ shell, shell = newShell allocator contents (countAllocation s) ∧
        (createNewWindow allocator windowRefused url s =
            (createShell allocator contents (countAllocation s), some shell) ∨
          createNewWindow allocator windowRefused url s =
            (loadURL shell.address url (createShell allocator contents (countAllocation s)),
              some shell)) := by
  unfold createNewWindow
  split
  · exact .inl rfl
  · refine .inr ⟨newContents allocator s, _, rfl, ?_⟩
    split
    · exact .inl rfl
    · exact .inr rfl

theorem kept_createNewWindow (kept : Kept allocator P) (windowRefused : Bool) (url : GURL)
    (holds : P s) : P (createNewWindow allocator windowRefused url s).1 := by
  obtain refused | ⟨contents, shell, -, created | created⟩ :=
    createNewWindow_cases allocator windowRefused url s
  · rwa [refused]
  · rw [created]
    exact kept.create contents _ (kept.count s holds)
  · rw [created]
    exact kept.loadURL _ _ _ (kept.create contents _ (kept.count s holds))

theorem kept_restoreTab (kept : Kept allocator P) (windowRefused loadNow : Bool) (url : GURL)
    (holds : P s) : P (restoreTab allocator windowRefused loadNow url s) := by
  have created := fun contents => kept.create contents _ (kept.count s holds)
  have lives := fun contents => livesAt_newShell allocator contents (countAllocation s)
  have later : s.allocations ≤ (countAllocation s).allocations := Nat.le_succ _
  unfold restoreTab
  generalize (if loadNow then url else OpenTabs.blankURL) = loaded
  obtain refused | ⟨contents, shell, rfl, answer | answer⟩ :=
    createNewWindow_cases allocator windowRefused loaded s
  · rwa [refused]
  · rw [answer]
    dsimp only
    split
    · exact kept.emplace s _ url _ holds later rfl (lives contents) (created contents)
    · exact created contents
  · rw [answer]
    dsimp only
    let shell := newShell allocator contents (countAllocation s)
    have loading := kept.loadURL shell.address loaded _ (created contents)
    split
    · exact kept.emplace s _ url _ holds later rfl
        (livesAt_loadURL (lives contents) shell.address loaded) loading
    · exact loading

theorem kept_restoreTabs (kept : Kept allocator P) (windowRefused : ℕ → Bool) (i : ℕ)
    (restore : List GURL) (holds : P s) : P (restoreTabs allocator windowRefused i restore s) := by
  induction restore generalizing i s with
  | nil => exact holds
  | cons url restore ih => exact ih _ (kept_restoreTab kept _ _ url holds)

theorem kept_initializeMessageLoopContext (kept : Kept allocator P) (windowRefused : ℕ → Bool)
    (restore : List GURL) (startupURL : GURL) (holds : P s) :
    P (initializeMessageLoopContext allocator windowRefused restore startupURL s) := by
  unfold initializeMessageLoopContext
  split
  · exact kept_restoreTabs kept windowRefused 0 restore holds
  · exact kept_createNewWindow kept _ _ holds

theorem kept_loadDeferred (kept : Kept allocator P) {shell : Shell α}
    (lives : LivesAt s shell.address shell.number) (holds : P s) : P (loadDeferred shell s) := by
  have taken := kept.take shell s lives holds
  unfold loadDeferred
  dsimp only
  split
  · exact kept.loadURL _ _ _ taken
  · exact taken

theorem kept_showTabWindow (kept : Kept allocator P) (discarded : Option GURL) (address : α)
    (holds : P s) : P (showTabWindow discarded address s) := by
  unfold showTabWindow
  split
  · exact holds
  · rename_i shell found
    obtain ⟨mem, -⟩ := findShell_some found
    have lives : LivesAt s shell.address shell.number := ⟨shell, mem, rfl, rfl⟩
    refine kept.setKeyWindow _ _ ?_
    split
    · exact kept_loadDeferred kept lives holds
    · rename_i reload
      split
      · exact kept_loadDeferred kept (livesAt_loadURL lives address reload)
          (kept.loadURL address reload s holds)
      · exact kept_loadDeferred kept lives holds

theorem kept_openNewTab (kept : Kept allocator P) (windowRefused : Bool) (url : GURL)
    (holds : P s) : P (openNewTab allocator windowRefused url s) := by
  have created := kept_createNewWindow kept windowRefused url holds
  unfold openNewTab
  cases answer : createNewWindow allocator windowRefused url s with
  | mk s' shell =>
    rw [answer] at created
    cases shell with
    | none => exact created
    | some shell => exact kept_showTabWindow kept none shell.address created

theorem kept_closeContents (kept : Kept allocator P) (address : α) (holds : P s) :
    P (closeContents address s) := by
  unfold closeContents
  split
  · exact holds
  · refine kept.close _ _ (kept.forgetAuthPopup _ _ (kept.readTrackers _ ?_))
    exact kept.setKeyWindow _ _ (kept.readTrackers s holds)

theorem kept_closeCurrentTab (kept : Kept allocator P) (discarded : Option GURL) (address : α)
    (holds : P s) : P (closeCurrentTab discarded address s) := by
  unfold closeCurrentTab
  split
  · exact holds
  · refine kept.close _ _ ?_
    split
    · exact holds
    · exact kept_showTabWindow kept discarded _ holds

theorem kept_closeAll (kept : Kept allocator P) (turns : ℕ) (holds : P s) :
    P (closeAll turns s) := by
  induction turns generalizing s with
  | zero => exact holds
  | succ turns ih =>
    rw [closeAll]
    split
    · exact holds
    · exact ih (kept.close _ s holds)

theorem kept_addNewContents (kept : Kept allocator P)
    (isGoogleAuthPopup newBackgroundTab windowRefused : Bool) (source : α) (holds : P s) :
    P (addNewContents allocator isGoogleAuthPopup newBackgroundTab windowRefused source s) := by
  have counted := kept.count s holds
  unfold addNewContents
  split
  · exact holds
  · rename_i opener found
    dsimp only
    split
    · exact kept.setKeyWindow _ _ (kept.createPopup _ opener _ (findShell_some found).1 counted)
    · split
      · exact counted
      · split
        · exact kept.create _ _ counted
        · exact kept.setKeyWindow _ _ (kept.create _ _ counted)

theorem kept_step (kept : Kept allocator P) (s : Shells α) (event : Event α) (holds : P s) :
    P (step allocator s event) := by
  cases event with
  | initializeMessageLoopContext windowRefused restore startupURL =>
    exact kept_initializeMessageLoopContext kept windowRefused restore startupURL holds
  | createNewWindow windowRefused url => exact kept_createNewWindow kept windowRefused url holds
  | openNewTab windowRefused url => exact kept_openNewTab kept windowRefused url holds
  | addNewContents isGoogleAuthPopup newBackgroundTab windowRefused source =>
    exact kept_addNewContents kept isGoogleAuthPopup newBackgroundTab windowRefused source holds
  | showTabWindow discarded address => exact kept_showTabWindow kept discarded address holds
  | loadURL address url => exact kept.loadURL address url s holds
  | close address => exact kept.close address s holds
  | closeContents address => exact kept_closeContents kept address holds
  | closeCurrentTab discarded address => exact kept_closeCurrentTab kept discarded address holds
  | shutdown => exact kept_closeAll kept s.windows.length holds

end Kept

end BlinkerFluid.LivePointers
