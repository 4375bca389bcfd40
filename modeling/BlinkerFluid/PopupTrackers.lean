import BlinkerFluid.LivePointers

/-! The auth popup trackers never dangle. Each of the two raw pointers names the web
contents of a living shell, because the destructor of a shell clears the tracker that
names its own web contents before these are destroyed. -/

namespace BlinkerFluid.PopupTrackers
open WebAddress ShellPointers LivePointers StepRun

variable {α : Type} {s : Shells α}

/-- Both trackers are null or name web contents of shells that exist at the read. -/
def SoundRead (read : TrackerRead α) : Prop :=
  (∀ contents ∈ read.authPopupContents, contents ∈ read.living) ∧
    ∀ opener ∈ read.authPopupOpener, opener ∈ read.living

/-- The trackers were sound at every point at which one of them was read. -/
def NeverDangle (s : Shells α) : Prop := ∀ read ∈ s.reads, SoundRead read

def Owned (s : Shells α) (contents : α) : Prop := ∃ shell ∈ s.windows, shell.webContents = contents

structure Tracked (s : Shells α) : Prop extends Distinct s where
  popup : ∀ contents ∈ s.authPopupContents, Owned s contents
  opener : ∀ opener ∈ s.authPopupOpener, Owned s opener
  reads : NeverDangle s

theorem tracked_of_owned (tracked : Tracked s) {s' : Shells α} (distinct : Distinct s')
    (owned : ∀ contents, Owned s contents → Owned s' contents)
    (popup : s'.authPopupContents = s.authPopupContents)
    (opener : s'.authPopupOpener = s.authPopupOpener) (reads : s'.reads = s.reads) :
    Tracked s' where
  toDistinct := distinct
  popup := by
    rw [popup]
    exact fun contents mem => owned contents (tracked.popup contents mem)
  opener := by
    rw [opener]
    exact fun contents mem => owned contents (tracked.opener contents mem)
  reads := by
    rw [NeverDangle, reads]
    exact tracked.reads

theorem tracked_start : Tracked (start : Shells α) where
  addresses := fun _ mem => absurd mem List.not_mem_nil
  numbers := fun _ mem => absurd mem List.not_mem_nil
  below := fun _ mem => absurd mem List.not_mem_nil
  popup := fun _ mem => absurd mem (Option.not_mem_none _)
  opener := fun _ mem => absurd mem (Option.not_mem_none _)
  reads := fun _ mem => absurd mem List.not_mem_nil

theorem neverDangle_read (reads : NeverDangle s) (closing : Option (Shell α))
    (popup : ∀ contents ∈ s.authPopupContents,
      contents ∈ (s.windows ++ closing.toList).map (·.webContents))
    (opener : ∀ opener ∈ s.authPopupOpener,
      opener ∈ (s.windows ++ closing.toList).map (·.webContents)) :
    NeverDangle (readTrackers closing s) := by
  intro read mem
  rcases List.mem_append.mp mem with old | new
  · exact reads read old
  · rw [List.mem_singleton.mp new]
    exact ⟨popup, opener⟩

/-- At the reads of a destructor, the web contents of its own shell exist, too. -/
theorem exists_of_owned {closing : Option (Shell α)} {contents : α} (owned : Owned s contents) :
    contents ∈ (s.windows ++ closing.toList).map (·.webContents) := by
  obtain ⟨shell, mem, rfl⟩ := owned
  exact List.mem_map_of_mem (List.mem_append_left _ mem)

theorem tracked_readTrackers (tracked : Tracked s) : Tracked (readTrackers none s) :=
  { tracked with
    reads := neverDangle_read tracked.reads none
      (fun contents mem => exists_of_owned (tracked.popup contents mem))
      (fun opener mem => exists_of_owned (tracked.opener opener mem)) }

theorem mem_unless {p : Prop} [Decidable p] {tracker : Option α} {contents : α}
    (mem : contents ∈ if p then none else tracker) : ¬p ∧ contents ∈ tracker := by
  split at mem
  · cases mem
  · rename_i kept
    exact ⟨kept, mem⟩

theorem tracked_count (tracked : Tracked s) : Tracked (countAllocation s) :=
  tracked_of_owned tracked (distinct_of_subset tracked.toDistinct (fun _ => id) (Nat.le_succ _))
    (fun _ => id) rfl rfl rfl

variable [DecidableEq α]

theorem tracked_loadURL (tracked : Tracked s) (address : α) (url : GURL) :
    Tracked (loadURL address url s) := by
  refine tracked_of_owned tracked (distinct_loadURL tracked.toDistinct address url) ?_ rfl rfl rfl
  rintro contents ⟨shell, mem, rfl⟩
  exact ⟨shell.load address url, List.mem_map_of_mem mem, (load_address address url shell).2.2⟩

theorem owned_createShell {contents : α} (owned : Owned s contents) (allocator : Allocator α)
    (webContents : α) : Owned (createShell allocator webContents s) contents := by
  obtain ⟨shell, mem, same⟩ := owned
  exact ⟨shell, mem_createShell.mpr (.inl mem), same⟩

theorem tracked_createShell (tracked : Tracked s) (allocator : Allocator α) (webContents : α) :
    Tracked (createShell allocator webContents s) :=
  tracked_of_owned tracked (distinct_createShell tracked.toDistinct allocator webContents)
    (fun _ owned => owned_createShell owned allocator webContents) rfl rfl rfl

theorem tracked_createPopup (tracked : Tracked s) (allocator : Allocator α) (contents : α)
    {opener : Shell α} (mem : opener ∈ s.windows) :
    Tracked (createShell allocator contents { s with
      authPopupContents := some contents, authPopupOpener := some opener.webContents }) := by
  have created := tracked_createShell tracked allocator contents
  refine { created with popup := ?_, opener := ?_ }
  · rintro _ ⟨⟩
    exact ⟨newShell allocator contents s, mem_createShell.mpr (.inr rfl), rfl⟩
  · rintro _ ⟨⟩
    exact ⟨opener, mem_createShell.mpr (.inl mem), rfl⟩

theorem tracked_forgetAuthPopup (tracked : Tracked s) (source : α) :
    Tracked (forgetAuthPopup source s) :=
  { tracked with
    popup := fun contents mem => tracked.popup contents (mem_unless mem).2
    opener := fun opener mem => tracked.opener opener (mem_unless mem).2 }

section Closing

theorem owned_erase (distinct : Distinct s) {shell : Shell α} (mem : shell ∈ s.windows)
    {contents : α} (owned : Owned s contents) :
    Owned { s with windows := s.windows.eraseP (·.address = shell.address) } contents ∨
      contents = shell.webContents := by
  obtain ⟨owner, ownerMem, rfl⟩ := owned
  by_cases same : owner.address = shell.address
  · rw [distinct.addresses owner ownerMem shell mem same]
    exact .inr rfl
  · exact .inl ⟨owner, (List.mem_eraseP_of_neg (by simpa using same)).mpr ownerMem, rfl⟩

theorem tracked_deleteShell (tracked : Tracked s) {shell : Shell α} (mem : shell ∈ s.windows) :
    Tracked (deleteShell shell s) := by
  let erased := { s with windows := s.windows.eraseP (·.address = shell.address) }
  have owned : ∀ contents, Owned s contents → Owned erased contents ∨
      contents = shell.webContents :=
    fun _ => owned_erase tracked.toDistinct mem
  have exist : ∀ contents, Owned s contents →
      contents ∈ (erased.windows ++ (some shell).toList).map (·.webContents) := by
    intro contents owner
    rcases owned contents owner with left | rfl
    · exact exists_of_owned left
    · exact List.mem_map_of_mem (List.mem_append_right _ List.mem_cons_self)
  -- both trackers may still name the shell's own web contents at the first read
  have first : NeverDangle (readTrackers (some shell) erased) :=
    neverDangle_read (s := erased) tracked.reads (some shell)
      (fun contents tracker => exist contents (tracked.popup contents tracker))
      (fun opener tracker => exist opener (tracked.opener opener tracker))
  let forgotten := forgetAuthPopup shell.webContents (readTrackers (some shell) erased)
  have second : NeverDangle (readTrackers (some shell) forgotten) :=
    neverDangle_read (s := forgotten) first (some shell)
      (fun contents tracker => exist contents (tracked.popup contents (mem_unless tracker).2))
      (fun opener tracker => exist opener (tracked.opener opener (mem_unless tracker).2))
  refine { distinct_of_subset tracked.toDistinct (fun _ => mem_of_mem_deleteShell) le_rfl with
    popup := ?_, opener := ?_, reads := second }
  · intro contents tracker
    obtain ⟨other, tracker⟩ := mem_unless tracker
    rcases owned contents (tracked.popup contents tracker) with left | rfl
    · exact left
    · exact absurd tracker other
  · intro opener tracker
    obtain ⟨other, tracker⟩ := mem_unless tracker
    rcases owned opener (tracked.opener opener (mem_unless tracker).2) with left | rfl
    · exact left
    · exact absurd tracker other

theorem tracked_close (tracked : Tracked s) (address : α) : Tracked (close address s) := by
  cases found : findShell s address with
  | none => rwa [close_none found]
  | some shell =>
    rw [close_some found]
    have destroyed : Tracked (destroyShell address s) := { tracked with }
    exact tracked_deleteShell destroyed (findShell_some found).1

end Closing

theorem tracked_emplace (tracked : Tracked s) (shell : Shell α) (url : GURL) :
    Tracked (emplacePendingRestoreURL shell url s) := by
  unfold emplacePendingRestoreURL
  split
  · exact tracked
  · exact { tracked with }

theorem tracked_take (tracked : Tracked s) (shell : Shell α) :
    Tracked (takePendingRestoreURL shell s).1 := by
  unfold takePendingRestoreURL
  split
  · exact tracked
  · exact { tracked with }

theorem kept_tracked (allocator : Allocator α) : Kept allocator (Tracked : Shells α → Prop) where
  loadURL := fun address url _ tracked => tracked_loadURL tracked address url
  setKeyWindow := fun _ _ tracked => { tracked with }
  take := fun shell _ _ tracked => tracked_take tracked shell
  count := fun _ => tracked_count
  create := fun contents _ tracked => tracked_createShell tracked allocator contents
  createPopup := fun contents _ _ mem tracked => tracked_createPopup tracked allocator contents mem
  emplace := fun _ shell url _ _ _ _ _ tracked => tracked_emplace tracked shell url
  readTrackers := fun _ => tracked_readTrackers
  forgetAuthPopup := fun source _ tracked => tracked_forgetAuthPopup tracked source
  close := fun address _ tracked => tracked_close tracked address

/-- Whatever addresses the allocator uses again, each tracker is null or names the web
contents of a living shell whenever one of them is read. -/
theorem popupTrackers_neverDangle (allocator : Allocator α) (events : List (Event α)) :
    NeverDangle (events.foldl (step allocator) start) :=
  (invariant_always (kept_step (kept_tracked allocator)) start events tracked_start).reads

end BlinkerFluid.PopupTrackers
