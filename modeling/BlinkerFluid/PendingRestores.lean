import BlinkerFluid.LivePointers
import Mathlib.Data.List.Nodup

/-! The table of deferred restores never outlives its tabs. Its keys are raw pointers, but
an entry is erased before its shell is destroyed, so a shell at the same address later
finds nothing that it could take. -/

namespace BlinkerFluid.PendingRestores
open WebAddress ShellPointers LivePointers StepRun

variable {α : Type} {s : Shells α}

/-- Every key is a living shell and its entry was recorded for that shell, no shell was
created with an entry under its address, and what was recorded for a shell was taken at
most once, and by that shell. -/
structure NeverOutlives (s : Shells α) : Prop where
  live : ∀ entry ∈ s.pendingRestoreURLs, LivesAt s entry.1 entry.2.recordedFor
  uninherited : s.inherited = []
  takenOnce : (s.taken.map Taken.recordedFor).Nodup
  takenByOwner : ∀ t ∈ s.taken, t.takenBy = t.recordedFor

/-- What was taken was recorded for a shell of the past or present, and is not recorded any more. -/
structure Recorded (s : Shells α) : Prop extends Distinct s, NeverOutlives s where
  past : ∀ t ∈ s.taken, t.recordedFor < s.allocations
  erased : ∀ t ∈ s.taken, ∀ entry ∈ s.pendingRestoreURLs, entry.2.recordedFor ≠ t.recordedFor

theorem recorded_of_subset (recorded : Recorded s) {s' : Shells α} (distinct : Distinct s')
    (entries : ∀ entry ∈ s'.pendingRestoreURLs, entry ∈ s.pendingRestoreURLs)
    (lives : ∀ entry ∈ s'.pendingRestoreURLs, LivesAt s entry.1 entry.2.recordedFor →
      LivesAt s' entry.1 entry.2.recordedFor)
    (inherited : s'.inherited = s.inherited) (taken : s'.taken = s.taken)
    (later : s.allocations ≤ s'.allocations) : Recorded s' where
  toDistinct := distinct
  live := fun entry mem => lives entry mem (recorded.live entry (entries entry mem))
  uninherited := inherited.trans recorded.uninherited
  takenOnce := by
    rw [taken]
    exact recorded.takenOnce
  takenByOwner := by
    rw [taken]
    exact recorded.takenByOwner
  past := by
    rw [taken]
    exact fun t mem => (recorded.past t mem).trans_le later
  erased := by
    rw [taken]
    exact fun t mem entry entryMem => recorded.erased t mem entry (entries entry entryMem)

theorem recorded_count (recorded : Recorded s) : Recorded (countAllocation s) :=
  recorded_of_subset recorded (distinct_of_subset recorded.toDistinct (fun _ => id) (Nat.le_succ _))
    (fun _ => id) (fun _ _ => id) rfl rfl (Nat.le_succ _)

theorem recorded_setTrackers (recorded : Recorded s) (contents opener : Option α) :
    Recorded { s with authPopupContents := contents, authPopupOpener := opener } :=
  { recorded with }

theorem recorded_start : Recorded (start : Shells α) where
  addresses := fun _ mem => absurd mem List.not_mem_nil
  numbers := fun _ mem => absurd mem List.not_mem_nil
  below := fun _ mem => absurd mem List.not_mem_nil
  live := fun _ mem => absurd mem List.not_mem_nil
  uninherited := rfl
  takenOnce := List.nodup_nil
  takenByOwner := fun _ mem => absurd mem List.not_mem_nil
  past := fun _ mem => absurd mem List.not_mem_nil
  erased := fun _ mem => absurd mem List.not_mem_nil

variable [DecidableEq α]

theorem mem_of_lookup {entries : List (α × PendingRestore)} {address : α}
    {pending : PendingRestore} (found : entries.lookup address = some pending) :
    (address, pending) ∈ entries := by
  obtain ⟨before, after, rfl, -⟩ := List.lookup_eq_some_iff.mp found
  exact List.mem_append_right _ List.mem_cons_self

theorem lookup_none (outlives : NeverOutlives s) {address : α}
    (unused : ∀ shell ∈ s.windows, shell.address ≠ address) :
    s.pendingRestoreURLs.lookup address = none := by
  cases found : s.pendingRestoreURLs.lookup address with
  | none => rfl
  | some pending =>
    obtain ⟨shell, mem, same, -⟩ := outlives.live _ (mem_of_lookup found)
    exact absurd same (unused shell mem)

section Calls

theorem recorded_loadURL (recorded : Recorded s) (address : α) (url : GURL) :
    Recorded (loadURL address url s) :=
  recorded_of_subset recorded (distinct_loadURL recorded.toDistinct address url)
    (fun _ => id) (fun _ _ lives => livesAt_loadURL lives address url) rfl rfl le_rfl

theorem recorded_createShell (recorded : Recorded s) (allocator : Allocator α) (webContents : α) :
    Recorded (createShell allocator webContents s) := by
  refine recorded_of_subset recorded (distinct_createShell recorded.toDistinct allocator webContents)
    (fun _ => id) (fun _ _ lives => livesAt_createShell lives allocator webContents) ?_ rfl
    (Nat.le_succ _)
  have unpending := lookup_none recorded.toNeverOutlives (newShell_fresh allocator webContents s)
  change s.inherited ++ (s.pendingRestoreURLs.lookup _).toList = s.inherited
  rw [unpending]
  exact List.append_nil _

theorem recorded_forget (recorded : Recorded s) (address : α) :
    Recorded (forgetPendingRestoreURL address s) :=
  recorded_of_subset recorded ⟨recorded.addresses, recorded.numbers, recorded.below⟩
    (fun _ => List.mem_of_mem_filter) (fun _ _ => id) rfl rfl le_rfl

theorem recorded_close (recorded : Recorded s) (address : α) : Recorded (close address s) := by
  have distinct := distinct_close recorded.toDistinct address
  cases found : findShell s address with
  | none => rwa [close_none found]
  | some shell =>
    obtain ⟨-, rfl⟩ := findShell_some found
    rw [close_some found] at distinct ⊢
    refine recorded_of_subset recorded distinct (fun _ => List.mem_of_mem_filter) ?_ rfl rfl le_rfl
    rintro entry mem ⟨other, otherMem, same⟩
    have differ : entry.1 ≠ shell.address := of_decide_eq_true (List.mem_filter.mp mem).2
    exact ⟨other, (mem_deleteShell (same.1 ▸ differ)).mpr otherMem, same⟩

theorem recorded_take (recorded : Recorded s) (shell : Shell α)
    (lives : LivesAt s shell.address shell.number) :
    Recorded (takePendingRestoreURL shell s).1 := by
  unfold takePendingRestoreURL
  split
  · exact recorded
  · rename_i pending found
    have mem := mem_of_lookup found
    have owner : pending.recordedFor = shell.number :=
      livesAt_number recorded.toDistinct (recorded.live _ mem) lives
    have untaken : pending.recordedFor ∉ s.taken.map Taken.recordedFor := by
      intro before
      obtain ⟨t, tMem, same⟩ := List.mem_map.mp before
      exact recorded.erased t tMem _ mem same.symm
    have rest := recorded_forget recorded shell.address
    refine { rest with takenOnce := ?_, takenByOwner := ?_, past := ?_, erased := ?_ }
    · rw [List.map_append]
      exact List.Nodup.append recorded.takenOnce (List.nodup_singleton _)
        (List.disjoint_singleton.mpr untaken)
    · intro t tMem
      rcases List.mem_append.mp tMem with old | new
      · exact recorded.takenByOwner t old
      · rw [List.mem_singleton.mp new]
        exact owner.symm
    · intro t tMem
      rcases List.mem_append.mp tMem with old | new
      · exact recorded.past t old
      · rw [List.mem_singleton.mp new]
        exact livesAt_below recorded.toDistinct (recorded.live _ mem)
    · intro t tMem entry entryMem
      rcases List.mem_append.mp tMem with old | new
      · exact rest.erased t old entry entryMem
      · rw [List.mem_singleton.mp new]
        intro same
        have other := rest.live entry entryMem
        rw [same, owner] at other
        have differ := of_decide_eq_true (List.mem_filter.mp entryMem).2
        exact differ (livesAt_address recorded.toDistinct other lives)

theorem recorded_emplace (recorded : Recorded s) (shell : Shell α) (url : GURL)
    (lives : LivesAt s shell.address shell.number)
    (untaken : ∀ t ∈ s.taken, t.recordedFor ≠ shell.number) :
    Recorded (emplacePendingRestoreURL shell url s) := by
  unfold emplacePendingRestoreURL
  split
  · exact recorded
  · refine { recorded with live := ?_, erased := ?_ }
    · intro entry mem
      rcases List.mem_append.mp mem with old | new
      · exact recorded.live entry old
      · rw [List.mem_singleton.mp new]
        exact lives
    · intro t tMem entry mem
      rcases List.mem_append.mp mem with old | new
      · exact recorded.erased t tMem entry old
      · rw [List.mem_singleton.mp new]
        exact (untaken t tMem).symm

end Calls

theorem kept_recorded (allocator : Allocator α) : Kept allocator (Recorded : Shells α → Prop) where
  loadURL := fun address url _ recorded => recorded_loadURL recorded address url
  setKeyWindow := fun _ _ recorded => { recorded with }
  take := fun shell _ lives recorded => recorded_take recorded shell lives
  count := fun _ => recorded_count
  create := fun contents _ recorded => recorded_createShell recorded allocator contents
  createPopup := fun contents opener _ _ recorded =>
    recorded_createShell (recorded_setTrackers recorded (some contents) (some opener.webContents))
      allocator contents
  emplace := fun _ shell url _ before later same lives recorded => by
    refine recorded_emplace recorded shell url lives fun t mem => ?_
    rw [same] at mem
    exact ((before.past t mem).trans_le later).ne
  readTrackers := fun _ recorded => { recorded with }
  forgetAuthPopup := fun _ _ recorded => { recorded with }
  close := fun address _ recorded => recorded_close recorded address

/-- Whatever addresses the allocator uses again, the table of deferred restores never
outlives its tabs. -/
theorem pendingRestores_neverOutlive (allocator : Allocator α) (events : List (Event α)) :
    NeverOutlives (events.foldl (step allocator) start) :=
  (invariant_always (kept_step (kept_recorded allocator)) start events
    recorded_start).toNeverOutlives

theorem le_highest {address : ℕ} (living : List ℕ) (mem : address ∈ living) :
    address ≤ living.foldr max 0 := by
  induction living with
  | nil => exact absurd mem List.not_mem_nil
  | cons head living ih =>
    rcases List.mem_cons.mp mem with rfl | mem
    · exact Nat.le_max_left _ _
    · exact (ih mem).trans (Nat.le_max_right _ _)

/-- The address above the highest living one, which is used again and again. -/
def aboveHighest : Allocator ℕ where
  allocate := fun _ living => living.foldr max 0 + 1
  fresh := fun _ living mem => absurd (le_highest living mem) (Nat.not_succ_le_self _)

def pageURL : GURL :=
  ⟨true, "http://p/".toList, "http".toList, "p".toList, "/".toList⟩

/-- A deferred tab is closed, and a new tab at its address has nothing pending. -/
example :
    let restored := step aboveHighest start
      (.initializeMessageLoopContext (fun _ => false) [pageURL, pageURL] pageURL)
    let reopened := [.close 4, .createNewWindow false pageURL].foldl (step aboveHighest) restored
    restored.pendingRestoreURLs = [(4, ⟨pageURL, 3⟩)] ∧
      reopened.windows.map (·.address) = [2, 4] ∧ reopened.pendingRestoreURLs = [] := by
  decide

end BlinkerFluid.PendingRestores
