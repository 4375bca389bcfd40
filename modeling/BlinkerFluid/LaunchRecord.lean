import BlinkerFluid.LaunchSteps
import BlinkerFluid.RestoreList

/-! The record of clean and unclean launches. A launch writes `running` once; going to
the background, termination and a requested restart write `clean_exit`, and coming back
to the foreground writes nothing. The next launch counts the deaths that the record
shows, so it misses those of processes that had been in the background before. -/

namespace BlinkerFluid.LaunchRecord
open ByteString WebAddress OpenTabs LaunchSteps RestoreList

variable {p : Platform}

inductive Event where
  | resignActive
  | background
  | foreground
  | terminate
  | restart
  | togglesPrivateBrowsing
  | loads (refused : Bool) (shell : ℕ) (url : GURL)
deriving DecidableEq

def cleanExit : Bytes := "clean_exit".toList

def blinkMarkCleanExit (s : Session) : Session :=
  { s with preferences := { s.preferences with launchState := cleanExit } }

def blinkClearRestoreGuard (s : Session) : Session :=
  { s with preferences := { s.preferences with restoreGuard := false } }

def blinkPrepareForRestart (s : Session) : Session :=
  blinkMarkCleanExit (blinkClearRestoreGuard s)

def sceneDidEnterBackground (p : Platform) (s : Session) : Session :=
  blinkMarkCleanExit (blinkSaveOpenTabs p (blinkClearRestoreGuard s))

def restartApplication (p : Platform) (s : Session) : Session :=
  blinkPrepareForRestart (blinkSaveOpenTabs p s)

def togglePrivateBrowsing (s : Session) : Session :=
  { s with preferences :=
      { s.preferences with privateBrowsing := !s.preferences.privateBrowsing } }

def handle (p : Platform) (s : Session) : Event → Session
  | .resignActive => blinkSaveOpenTabs p s
  | .background => sceneDidEnterBackground p s
  | .foreground => s
  | .terminate => blinkMarkCleanExit s
  | .restart => restartApplication p s
  | .togglesPrivateBrowsing => togglePrivateBrowsing s
  | .loads refused shell url => ((loadURL p refused shell url).run s).state

structure Life where
  guards : ℕ → MemoryGuard
  events : List Event

def live (p : Platform) (d : Preferences) (life : Life) : Preferences :=
  (life.events.foldl (handle p)
    ((initializeMessageLoopContext p life.guards).run (started d)).state).preferences

def previousUnclean (d : Preferences) : Bool := d.launchState = running

/-- `BlinkUncleanLaunchCount` as the next launch writes it. -/
def nextCount (p : Platform) (d : Preferences) : ℤ := (getRestoreTabURLs p d).1.uncleanLaunchCount

/-- Whether the process is in the foreground, where every launch starts. -/
def inForeground (events : List Event) : Bool :=
  events.foldl (fun foreground event =>
    match event with
    | .background => false
    | .foreground => true
    | .resignActive | .terminate | .restart | .togglesPrivateBrowsing | .loads _ _ _ =>
      foreground) true

/-- The process dies in the foreground, and neither a termination was announced nor a
restart requested. -/
def Life.diesInForeground (life : Life) : Bool :=
  inForeground life.events && !life.events.contains .terminate && !life.events.contains .restart

/-- How many of the last processes died in the foreground one after the other. -/
def consecutiveDeaths (lives : List Life) : ℕ :=
  (lives.reverse.takeWhile Life.diesInForeground).length

/-- The launch after these processes reads what happened. -/
def RecordsDeaths (p : Platform) (d : Preferences) (lives : List Life) : Prop :=
  previousUnclean (lives.foldl (live p) d) = lives.getLast?.any Life.diesInForeground ∧
    nextCount p (lives.foldl (live p) d) = consecutiveDeaths lives

def Event.marks : Event → Bool
  | .background | .terminate | .restart => true
  | .resignActive | .foreground | .togglesPrivateBrowsing | .loads _ _ _ => false

structure Record (state : Bytes) (count : ℤ) (s : Session) : Prop where
  launchState : s.preferences.launchState = state
  uncleanLaunchCount : s.preferences.uncleanLaunchCount = count

theorem record_save {state : Bytes} {count : ℤ} {s : Session} (record : Record state count s) :
    Record state count (blinkSaveOpenTabs p s) := by
  unfold blinkSaveOpenTabs
  split_ifs
  · exact record
  · exact ⟨record.launchState, record.uncleanLaunchCount⟩

theorem record_launch (p : Platform) (state : Bytes) (count : ℤ) :
    LaunchInvariant p (Record state count) fun _ => True where
  save := fun _ record => record_save record
  start := fun _ _ _ _ record => ⟨record.launchState, record.uncleanLaunchCount⟩
  stop := fun _ _ _ record => ⟨record.launchState, record.uncleanLaunchCount⟩
  next := fun _ _ => trivial
  shed := by
    intro s record
    obtain ⟨flag, same⟩ := discardBehindFront_eq s
    rw [same]
    exact ⟨record.launchState, record.uncleanLaunchCount⟩
  create := fun _ _ record => ⟨record.launchState, record.uncleanLaunchCount⟩
  defer := by
    intro s shell url _ record
    unfold emplacePendingRestoreURL
    split_ifs
    · exact record
    · exact ⟨record.launchState, record.uncleanLaunchCount⟩

theorem record_handle {state : Bytes} {count : ℤ} {s : Session} (record : Record state count s)
    (e : Event) : Record (if e.marks then cleanExit else state) count (handle p s e) := by
  cases e with
  | resignActive => exact record_save record
  | background =>
    have saved := record_save (p := p) (s := blinkClearRestoreGuard s)
      ⟨record.launchState, record.uncleanLaunchCount⟩
    exact ⟨rfl, saved.uncleanLaunchCount⟩
  | foreground => exact record
  | terminate => exact ⟨rfl, record.uncleanLaunchCount⟩
  | restart => exact ⟨rfl, (record_save (p := p) record).uncleanLaunchCount⟩
  | togglesPrivateBrowsing => exact ⟨record.launchState, record.uncleanLaunchCount⟩
  | loads refused shell url =>
    exact (keeps_loadURL (record_launch p state count).toNavigationInvariant record refused shell url
      trivial).1

theorem record_handles (events : List Event) {state : Bytes} {count : ℤ} {s : Session}
    (record : Record state count s) :
    Record (if events.any Event.marks then cleanExit else state) count
      (events.foldl (handle p) s) := by
  induction events generalizing state s with
  | nil => exact record
  | cons e events ih =>
    have rest := ih (record_handle (p := p) record e)
    rw [List.any_cons, List.foldl_cons]
    cases marked : e.marks with
    | true => simpa [marked] using rest
    | false => simpa [marked] using rest

/-- Whether the process has written `clean_exit` after its launch. -/
def Life.marked (life : Life) : Bool := life.events.any Event.marks

theorem record_live (p : Platform) (d : Preferences) (life : Life) :
    (live p d life).launchState = (if life.marked then cleanExit else running) ∧
      (live p d life).uncleanLaunchCount = nextCount p d := by
  have written : Record running (nextCount p d) (started (getRestoreTabURLs p d).1) := by
    obtain ⟨guard, launched⟩ := getRestoreTabURLs_preferences p d
    exact ⟨by rw [started, launched], rfl⟩
  have launched := launch_state (record_launch p running (nextCount p d)) life.guards d written
  have died := record_handles (p := p) life.events launched
  exact ⟨died.launchState, died.uncleanLaunchCount⟩

theorem nextCount_eq (p : Platform) (d : Preferences) :
    nextCount p d = if previousUnclean d then d.uncleanLaunchCount + 1 else 0 := by
  obtain ⟨guard, launched⟩ := getRestoreTabURLs_preferences p d
  rw [nextCount, launched, previousUnclean]
  simp

theorem previousUnclean_live (p : Platform) (d : Preferences) (life : Life) :
    previousUnclean (live p d life) = !life.marked := by
  have other : cleanExit ≠ running := by decide
  rw [previousUnclean, (record_live p d life).1]
  cases life.marked with
  | true => simp [other]
  | false => simp

theorem nextCount_live (p : Platform) (d : Preferences) (life : Life) :
    nextCount p (live p d life) = if life.marked then 0 else nextCount p d + 1 := by
  rw [nextCount_eq, previousUnclean_live, (record_live p d life).2]
  cases life.marked <;> rfl

theorem takeWhile_congr {α : Type} {q r : α → Bool} (l : List α) (same : ∀ a ∈ l, q a = r a) :
    l.takeWhile q = l.takeWhile r := by
  induction l with
  | nil => rfl
  | cons a l ih =>
    rw [List.takeWhile_cons, List.takeWhile_cons, same a List.mem_cons_self,
      ih fun b mem => same b (List.mem_cons_of_mem _ mem)]

/-- The count is the number of the last processes without a mark. -/
theorem nextCount_lives (p : Platform) (d : Preferences) (installed : d.launchState ≠ running)
    (lives : List Life) :
    nextCount p (lives.foldl (live p) d) =
      (lives.reverse.takeWhile fun life => !life.marked).length := by
  induction lives using List.reverseRecOn with
  | nil => simp [nextCount_eq, previousUnclean, installed]
  | append_singleton lives life ih =>
    rw [List.foldl_append, List.foldl_cons, List.foldl_nil, nextCount_live, ih, List.reverse_append,
      List.reverse_singleton, List.singleton_append, List.takeWhile_cons]
    cases life.marked <;> simp

theorem inForeground_of_not_mem (events : List Event) (stays : Event.background ∉ events) :
    inForeground events = true := by
  unfold inForeground
  induction events with
  | nil => rfl
  | cons e events ih =>
    have rest := ih fun mem => stays (List.mem_cons_of_mem _ mem)
    rw [List.foldl_cons]
    cases e with
    | background => exact absurd List.mem_cons_self stays
    | foreground | resignActive | terminate | restart | togglesPrivateBrowsing | loads => exact rest

theorem marked_iff (life : Life) :
    life.marked = true ↔ Event.background ∈ life.events ∨ Event.terminate ∈ life.events ∨
      Event.restart ∈ life.events := by
  rw [Life.marked, List.any_eq_true]
  constructor
  · rintro ⟨e, mem, marks⟩
    cases e with
    | background => exact .inl mem
    | terminate => exact .inr (.inl mem)
    | restart => exact .inr (.inr mem)
    | resignActive | foreground | togglesPrivateBrowsing | loads => cases marks
  · rintro (mem | mem | mem)
    · exact ⟨_, mem, rfl⟩
    · exact ⟨_, mem, rfl⟩
    · exact ⟨_, mem, rfl⟩

/-- The mark of a process is right unless it comes back from the background and dies. -/
theorem diesInForeground_eq_iff (life : Life) :
    life.diesInForeground = !life.marked ↔
      (life.diesInForeground = true → Event.background ∉ life.events) := by
  by_cases marked : life.marked = true
  · rw [marked]
    constructor
    · intro survives dies
      rw [survives] at dies
      cases dies
    · intro stays
      by_contra dies
      rw [Bool.not_true, Bool.not_eq_false] at dies
      have announced := dies
      simp only [Life.diesInForeground, Bool.and_eq_true, Bool.not_eq_true',
        List.contains_eq_mem, decide_eq_false_iff_not] at announced
      rcases (marked_iff life).mp marked with mem | mem | mem
      · exact stays dies mem
      · exact announced.1.2 mem
      · exact announced.2 mem
  · have quiet := (marked_iff life).not.mp marked
    rw [not_or, not_or] at quiet
    have foreground := inForeground_of_not_mem life.events quiet.1
    simp [Life.diesInForeground, foreground, quiet, marked]

/-- Every launch of a run reads what happened exactly if no process of the run comes back
from the background and dies in the foreground. -/
theorem recordsDeaths_iff (p : Platform) (d : Preferences) (installed : d.launchState ≠ running)
    (lives : List Life) :
    (∀ past, past <+: lives → RecordsDeaths p d past) ↔
      ∀ life ∈ lives, life.diesInForeground = true → Event.background ∉ life.events := by
  constructor
  · intro records life mem
    obtain ⟨before, after, rfl⟩ := List.mem_iff_append.mp mem
    have read := (records (before ++ [life]) ⟨after, by simp⟩).1
    rw [List.foldl_append, List.foldl_cons, List.foldl_nil, previousUnclean_live,
      List.getLast?_concat, Option.any_some] at read
    exact (diesInForeground_eq_iff life).mp read.symm
  · intro stays past before
    have exact_marks : ∀ life ∈ past, life.diesInForeground = !life.marked := fun life mem =>
      (diesInForeground_eq_iff life).mpr (stays life (before.subset mem))
    constructor
    · rcases List.eq_nil_or_concat past with rfl | ⟨earlier, life, rfl⟩
      · simp [previousUnclean, installed]
      · rw [List.concat_eq_append] at exact_marks ⊢
        rw [List.foldl_append, List.foldl_cons, List.foldl_nil, previousUnclean_live,
          List.getLast?_concat, Option.any_some]
        exact (exact_marks life (by simp)).symm
    · rw [nextCount_lives p d installed, consecutiveDeaths]
      rw [takeWhile_congr _ fun life mem => (exact_marks life (List.mem_reverse.mp mem)).symm]

/-- A process that goes to the background, comes back and dies. -/
def returnsAndDies : Life := ⟨fun _ => .none, [.background, .foreground]⟩

/-- The death of a process that has been in the background is read as a clean exit. -/
theorem returnsAndDies_unrecorded :
    ¬ ∀ (p : Platform) (d : Preferences), d.launchState ≠ running → ∀ lives past,
      past <+: lives → RecordsDeaths p d past := by
  intro records
  have read := (records samplePlatform (stored sampleHosts) (by decide) [returnsAndDies]
    [returnsAndDies] List.prefix_rfl).1
  rw [List.foldl_cons, List.foldl_nil, previousUnclean_live] at read
  revert read
  decide

/-- Two deaths at once, one in the background, and one at once again. -/
theorem recordsDeaths_mixed :
    RecordsDeaths samplePlatform (stored sampleHosts)
      [⟨fun _ => .none, []⟩, ⟨fun _ => .none, [.foreground]⟩, ⟨fun _ => .none, [.background]⟩,
        ⟨fun _ => .none, []⟩] :=
  (recordsDeaths_iff samplePlatform (stored sampleHosts) (by decide) _).mpr (by decide) _
    List.prefix_rfl

end BlinkerFluid.LaunchRecord
