import BlinkerFluid.ByteString
import BlinkerFluid.StepRun
import Mathlib.Data.List.InsertIdx
import Mathlib.Data.List.Nodup

/-! The open list of downloads. The list controller takes a deleted row out of its titles, the
closures of `showDownloads` index the paths that were read when the list was opened. -/

namespace BlinkerFluid.DownloadList
open ByteString StepRun

structure DownloadedFile where
  name : Bytes
  byteCount : Bytes

/-- What the table of a `BlinkListVC` is drawn from. -/
structure BlinkListVC where
  titles : List Bytes
  subtitles : List Bytes
  imageNames : List Bytes
  protectedIndex : ℤ
deriving DecidableEq

/-- `commitEditingStyle` behind the call of `onDelete`. -/
def BlinkListVC.removeRow (row : ℕ) (vc : BlinkListVC) : BlinkListVC :=
  { titles := vc.titles.eraseIdx row
    subtitles := if row < vc.subtitles.length then vc.subtitles.eraseIdx row else vc.subtitles
    imageNames := if row < vc.imageNames.length then vc.imageNames.eraseIdx row else vc.imageNames
    protectedIndex := if vc.protectedIndex > row then vc.protectedIndex - 1 else vc.protectedIndex }

def stringByAppendingPathComponent (dir name : Bytes) : Bytes := dir ++ '/' :: name

/-- The list, the paths that its closures hold, the files on disk and the files handed to a
share sheet. The rows deleted so far are a record that nothing reads. -/
structure State where
  vc : BlinkListVC
  paths : List Bytes
  disk : List Bytes
  shared : List Bytes
  deletedRows : List ℕ
deriving DecidableEq

def showDownloads (dir : Bytes) (files : List DownloadedFile) : State :=
  let titles := files.map DownloadedFile.name
  let paths := titles.map (stringByAppendingPathComponent dir)
  let subtitles := files.map DownloadedFile.byteCount
  ⟨if titles.isEmpty then ⟨["No downloads yet".toList], [[]], [], -1⟩
    else ⟨titles, subtitles, [], -1⟩, paths, paths, [], []⟩

def removeItemAtPath (path : Bytes) (disk : List Bytes) : List Bytes := disk.filter (· ≠ path)

inductive Event where
  | delete (row : ℕ)
  | select (row : ℕ)

def Event.row : Event → ℕ
  | .delete row => row
  | .select row => row

def onDelete (row : ℕ) (s : State) : State :=
  match s.paths[row]? with
  | none => s
  | some path => { s with disk := removeItemAtPath path s.disk }

def onSelect (row : ℕ) (s : State) : State :=
  match s.paths[row]? with
  | none => s
  | some path => { s with shared := s.shared ++ [path] }

def commitDelete (row : ℕ) (s : State) : State :=
  { onDelete row s with vc := s.vc.removeRow row, deletedRows := s.deletedRows ++ [row] }

def step (s : State) (event : Event) : State :=
  if event.row < s.vc.titles.length then
    match event with
    | .delete row => commitDelete row s
    | .select row => onSelect row s
  else s

/-- The file whose name a row shows. The row of an empty list shows none. -/
def shownFile (dir : Bytes) (s : State) (row : ℕ) : Option Bytes :=
  (s.vc.titles[row]?.map (stringByAppendingPathComponent dir)).filter (· ∈ s.paths)

/-- A delete removes the file that the row shows, a selection shares it, and no other file is
touched. -/
def ActsOnShown (dir : Bytes) (s : State) (event : Event) : Prop :=
  match event with
  | .delete row =>
    (step s event).disk = s.disk.filter (some · ≠ shownFile dir s row) ∧
      (step s event).shared = s.shared
  | .select row =>
    (step s event).disk = s.disk ∧
      (step s event).shared = s.shared ++ (shownFile dir s row).toList

/-- No row has been deleted at or above this one. -/
def NoneDeletedAbove (s : State) (event : Event) : Prop :=
  event.row < s.vc.titles.length → ∀ deleted ∈ s.deletedRows, event.row < deleted

instance (dir : Bytes) (s : State) (event : Event) : Decidable (ActsOnShown dir s event) := by
  cases event <;> exact inferInstanceAs (Decidable (_ ∧ _))

instance (s : State) (event : Event) : Decidable (NoneDeletedAbove s event) :=
  inferInstanceAs (Decidable (_ → _))

section Places

/-- The content of a directory; no two of its files have the same name. -/
structure Directory where
  path : Bytes
  files : List DownloadedFile
  distinct : (files.map DownloadedFile.name).Nodup

def Directory.names (directory : Directory) : List Bytes := directory.files.map DownloadedFile.name

def Directory.file (directory : Directory) (place : ℕ) : Option Bytes :=
  directory.names[place]?.map (stringByAppendingPathComponent directory.path)

def Directory.title (directory : Directory) (place : ℕ) : Bytes :=
  directory.names.getD place "No downloads yet".toList

theorem stringByAppendingPathComponent_inj {dir name name' : Bytes} :
    stringByAppendingPathComponent dir name = stringByAppendingPathComponent dir name' ↔
      name = name' := by
  simp [stringByAppendingPathComponent]

variable {directory : Directory} {s : State} {places : List ℕ} {row place : ℕ}

theorem file_inj (within : place < directory.names.length)
    (same : directory.file row = directory.file place) : row = place := by
  have names : directory.names[row]? = directory.names[place]? :=
    Option.map_injective (fun _ _ => stringByAppendingPathComponent_inj.mp) same
  exact ((List.getElem?_inj within directory.distinct).mp names.symm).symm

/-- The rows of the list, by the places at which their files stood when the list was opened. -/
structure Placed (directory : Directory) (s : State) (places : List ℕ) : Prop where
  paths : s.paths = directory.names.map (stringByAppendingPathComponent directory.path)
  titles : s.vc.titles = places.map directory.title
  once : places.Nodup
  bound : ∀ place ∈ places, place < max 1 directory.names.length
  behind : ∀ row place : ℕ, places[row]? = some place → row ≤ place
  still : ∀ row place : ℕ, places[row]? = some place →
    (place = row ↔ ∀ deleted ∈ s.deletedRows, row < deleted)
  onDisk : ∀ place ∈ places, ∀ file, directory.file place = some file → file ∈ s.disk

theorem placed_showDownloads (directory : Directory) :
    Placed directory (showDownloads directory.path directory.files)
      (List.range (max 1 directory.names.length)) := by
  have same {row place : ℕ}
      (here : (List.range (max 1 directory.names.length))[row]? = some place) : row = place := by
    obtain ⟨within, same⟩ := List.getElem?_eq_some_iff.mp here
    rwa [List.getElem_range] at same
  refine ⟨rfl, ?_, List.nodup_range, fun place mem => List.mem_range.mp mem,
    fun row place here => Nat.le_of_eq (same here), ?_, ?_⟩
  · rw [showDownloads, ← Directory.names]
    cases listed : directory.names with
    | nil => simp [Directory.title, listed, List.range_succ]
    | cons name names =>
      refine List.ext_getElem? fun row => ?_
      by_cases within : row < names.length + 1 <;> simp [Directory.title, listed, within]
  · intro row place here
    exact iff_of_true (same here).symm fun deleted none => absurd none List.not_mem_nil
  · intro place _ file found
    obtain ⟨name, here, rfl⟩ := Option.map_eq_some_iff.mp found
    exact List.mem_map_of_mem (List.mem_of_getElem? here)

theorem shownFile_eq (placed : Placed directory s places) (here : places[row]? = some place) :
    shownFile directory.path s row = directory.file place := by
  rw [shownFile, placed.titles, List.getElem?_map, here, Option.map_some, Option.map_some,
    placed.paths, Directory.file, Directory.title, List.getD_eq_getElem?_getD]
  have within := placed.bound place (List.mem_of_getElem? here)
  cases found : directory.names[place]? with
  | some name =>
    have listed : stringByAppendingPathComponent directory.path name ∈
        directory.names.map (stringByAppendingPathComponent directory.path) :=
      List.mem_map_of_mem (List.mem_of_getElem? found)
    simpa using listed
  | none =>
    have few := List.getElem?_eq_none_iff.mp found
    have empty : directory.names = [] := List.length_eq_zero_iff.mp (by omega)
    simp [empty]

theorem paths_getElem? (placed : Placed directory s places) (row : ℕ) :
    s.paths[row]? = directory.file row := by
  rw [placed.paths, List.getElem?_map, Directory.file]

theorem row_lt_iff (placed : Placed directory s places) :
    row < s.vc.titles.length ↔ ∃ place, places[row]? = some place := by
  simp [placed.titles, List.getElem?_eq_some_iff]

theorem file_eq_iff (placed : Placed directory s places) (here : places[row]? = some place) :
    directory.file row = directory.file place ↔ place = row := by
  refine ⟨fun same => ?_, fun same => by rw [same]⟩
  have within := placed.bound place (List.mem_of_getElem? here)
  have behind := placed.behind row place here
  by_cases some_file : place < directory.names.length
  · exact (file_inj some_file same).symm
  · omega

end Places

section Steps

variable {directory : Directory} {s : State} {places : List ℕ} {row place : ℕ}

theorem commitDelete_disk (placed : Placed directory s places) (row : ℕ) :
    (commitDelete row s).disk = s.disk.filter (some · ≠ directory.file row) := by
  rw [commitDelete, onDelete, paths_getElem? placed]
  cases directory.file row with
  | none => simp
  | some path => simp [removeItemAtPath]

theorem commitDelete_shared (row : ℕ) (s : State) : (commitDelete row s).shared = s.shared := by
  rw [commitDelete, onDelete]
  cases s.paths[row]? <;> rfl

theorem commitDelete_paths (row : ℕ) (s : State) : (commitDelete row s).paths = s.paths := by
  rw [commitDelete, onDelete]
  cases s.paths[row]? <;> rfl

theorem onSelect_shared (placed : Placed directory s places) (row : ℕ) :
    (onSelect row s).shared = s.shared ++ (directory.file row).toList := by
  rw [onSelect, paths_getElem? placed]
  cases directory.file row <;> simp

theorem onSelect_disk (row : ℕ) (s : State) : (onSelect row s).disk = s.disk := by
  rw [onSelect]
  cases s.paths[row]? <;> rfl

theorem disk_eq_iff (placed : Placed directory s places) (here : places[row]? = some place) :
    s.disk.filter (some · ≠ directory.file row) = s.disk.filter (some · ≠ directory.file place) ↔
      place = row := by
  refine ⟨fun same => ?_, fun same => by rw [same]⟩
  rw [← file_eq_iff placed here]
  cases shown : directory.file place with
  | none =>
    have few : directory.names.length ≤ place := by simpa [Directory.file] using shown
    have within := placed.bound place (List.mem_of_getElem? here)
    have behind := placed.behind row place here
    have first : row = place := by omega
    rw [first, shown]
  | some file =>
    by_contra other
    have onDisk := placed.onDisk place (List.mem_of_getElem? here) file shown
    have kept : file ∈ s.disk.filter (some · ≠ directory.file row) :=
      List.mem_filter.mpr ⟨onDisk, by simpa using Ne.symm other⟩
    rw [same, shown] at kept
    simpa using (List.mem_filter.mp kept).2

theorem toList_eq_iff {a b : Option Bytes} : a.toList = b.toList ↔ a = b :=
  ⟨fun same => by rw [← Option.head?_toList (o := a), same, Option.head?_toList], congrArg _⟩

theorem actsOnShown_iff (placed : Placed directory s places) (event : Event) :
    ActsOnShown directory.path s event ↔ NoneDeletedAbove s event := by
  by_cases within : event.row < s.vc.titles.length
  · obtain ⟨place, here⟩ := (row_lt_iff placed).mp within
    rw [NoneDeletedAbove, imp_iff_right within, ← placed.still _ place here]
    cases event with
    | delete row =>
      simp only [Event.row] at within here ⊢
      rw [ActsOnShown, step, Event.row, if_pos within, commitDelete_disk placed,
        commitDelete_shared, shownFile_eq placed here, disk_eq_iff placed here, and_iff_left rfl]
    | select row =>
      simp only [Event.row] at within here ⊢
      rw [ActsOnShown, step, Event.row, if_pos within, onSelect_disk, onSelect_shared placed,
        shownFile_eq placed here, List.append_cancel_left_eq, toList_eq_iff,
        file_eq_iff placed here, and_iff_right rfl]
  · refine iff_of_true ?_ fun inside => absurd inside within
    have none : shownFile directory.path s event.row = none := by
      rw [shownFile, List.getElem?_eq_none (Nat.le_of_not_lt within)]
      rfl
    have stays : step s event = s := if_neg within
    cases event <;>
    · simp only [Event.row] at none
      simp [ActsOnShown, stays, none]

theorem placed_commitDelete (placed : Placed directory s places)
    (here : places[row]? = some row) :
    Placed directory (commitDelete row s) (places.eraseIdx row) := by
  have earlier {row' place : ℕ} (there : (places.eraseIdx row)[row']? = some place) :
      row' < row ∧ places[row']? = some place ∨ row ≤ row' ∧ places[row' + 1]? = some place := by
    rw [List.getElem?_eraseIdx] at there
    split_ifs at there with before
    · exact .inl ⟨before, there⟩
    · exact .inr ⟨Nat.le_of_not_lt before, there⟩
  refine ⟨?_, ?_, placed.once.eraseIdx row,
    fun place mem => placed.bound place (List.mem_of_mem_eraseIdx mem), ?_, ?_, ?_⟩
  · rw [commitDelete_paths, placed.paths]
  · rw [commitDelete, BlinkListVC.removeRow, placed.titles, List.eraseIdx_map]
  · intro row' place there
    obtain ⟨-, there⟩ | ⟨-, there⟩ := earlier there
    · exact placed.behind row' place there
    · exact Nat.le_of_succ_le (placed.behind (row' + 1) place there)
  · intro row' place there
    rw [commitDelete, List.forall_mem_append, List.forall_mem_singleton]
    obtain ⟨before, there⟩ | ⟨after, there⟩ := earlier there
    · rw [placed.still row' place there, and_iff_left before]
    · have behind := placed.behind (row' + 1) place there
      refine iff_of_false (by omega) fun none => ?_
      exact Nat.not_le_of_lt none.2 after
  · intro place mem file found
    obtain ⟨row', other, there⟩ := List.mem_eraseIdx_iff_getElem?.mp mem
    rw [commitDelete_disk placed, List.mem_filter]
    refine ⟨placed.onDisk place (List.mem_of_mem_eraseIdx mem) file found, ?_⟩
    rw [decide_eq_true_iff, ← found, ne_comm]
    intro same
    have within : place < directory.names.length := by
      obtain ⟨name, inside, -⟩ := Option.map_eq_some_iff.mp found
      exact (List.getElem?_eq_some_iff.mp inside).1
    have first : row = place := file_inj within same
    rw [← first, ← here] at there
    have bounds := (List.getElem?_eq_some_iff.mp here).1
    exact other ((List.getElem?_inj bounds placed.once).mp there.symm).symm

theorem placed_onSelect (placed : Placed directory s places) (row : ℕ) :
    Placed directory (onSelect row s) places := by
  rw [onSelect]
  cases s.paths[row]? with
  | none => exact placed
  | some path => exact ⟨placed.paths, placed.titles, placed.once, placed.bound, placed.behind,
      placed.still, placed.onDisk⟩

theorem placed_step (placed : Placed directory s places) (event : Event)
    (unmoved : NoneDeletedAbove s event) : ∃ places, Placed directory (step s event) places := by
  by_cases within : event.row < s.vc.titles.length
  · obtain ⟨place, here⟩ := (row_lt_iff placed).mp within
    rw [(placed.still _ place here).mpr (unmoved within)] at here
    cases event with
    | delete row =>
      rw [step, if_pos within]
      exact ⟨_, placed_commitDelete placed here⟩
    | select row =>
      rw [step, if_pos within]
      exact ⟨_, placed_onSelect placed row⟩
  · have stays : step s event = s := if_neg within
    rw [stays]
    exact ⟨places, placed⟩

end Steps

/-- Every event in an open list acts on the file that its row shows exactly if no event is on a
row at or above which a row has been deleted. -/
theorem showDownloads_actsOnShown_iff (directory : Directory) (events : List Event) :
    Permitted (ActsOnShown directory.path) step
        (showDownloads directory.path directory.files) events ↔
      Permitted NoneDeletedAbove step (showDownloads directory.path directory.files) events := by
  have kept : ∀ s event, (∃ places, Placed directory s places) → NoneDeletedAbove s event →
      ∃ places, Placed directory (step s event) places := by
    rintro s event ⟨places, placed⟩ unmoved
    exact placed_step placed event unmoved
  refine permitted_congr_while kept ?_ _ events ⟨_, placed_showDownloads directory⟩
  rintro s event ⟨places, placed⟩
  exact actsOnShown_iff placed event

def exampleDirectory : Directory :=
  ⟨"Downloads".toList, [⟨"a".toList, []⟩, ⟨"b".toList, []⟩, ⟨"c".toList, []⟩], by decide⟩

/-- Deleting the first row of a list twice takes one file off the disk. -/
theorem firstRow_twice :
    ¬∀ (directory : Directory) events, Permitted (ActsOnShown directory.path) step
      (showDownloads directory.path directory.files) events := by
  intro always
  have acts := always exampleDirectory [.delete 0, .delete 0]
  revert acts
  decide

end BlinkerFluid.DownloadList
