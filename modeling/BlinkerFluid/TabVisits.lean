import BlinkerFluid.RestoredTabs

/-! Selecting tabs and committing their navigations. Both keep every tab with the address
it was opened with, and a selection whose navigation commits leaves no tab on its way
from one document to another. -/

namespace BlinkerFluid.TabVisits
open ByteString WebAddress OpenTabs CrashPoints RestoreList LaunchSteps RestoredTabs

variable {p : Platform} {d : Preferences} {opens : List GURL}

inductive Event where
  | selects (shell : ℕ)
  | commits (shell : ℕ)

def step (p : Platform) (s : Session) : Event → Session
  | .selects shell => ((showTabWindow p false shell).run s).state
  | .commits shell => ((navigate p shell Tab.commit).run s).state

theorem restoring_erase {s : Session} (held : Restoring d opens s) (shell : ℕ)
    (undeferred : s.pendingRestoreURLs.lookup shell = none) :
    Restoring d opens (erasePendingRestoreURL shell s) := by
  have lookup (other : ℕ) : (erasePendingRestoreURL shell s).pendingRestoreURLs.lookup other =
      s.pendingRestoreURLs.lookup other := by
    rw [erasePendingRestoreURL, lookup_filter_ne]
    by_cases same : other = shell
    · rw [if_pos same, same, undeferred]
    · rw [if_neg same]
  refine ⟨held.length, held.next, ?_, ?_, held.privateBrowsing, held.homepage⟩
  · intro i url tab listed here
    rw [lookup]
    exact held.tabs i url tab listed here
  · intro other beyond
    rw [lookup]
    exact held.fresh other beyond

theorem restoring_load {s : Session} (held : Restoring d opens s) (shell : ℕ) (url : GURL)
    (deferred : s.pendingRestoreURLs.lookup shell = some url) :
    Restoring d opens (updateTab shell (Tab.start url) (erasePendingRestoreURL shell s)) := by
  have others (other : ℕ) (ne : other ≠ shell) :
      (erasePendingRestoreURL shell s).pendingRestoreURLs.lookup other =
        s.pendingRestoreURLs.lookup other := by
    rw [erasePendingRestoreURL, lookup_filter_ne, if_neg ne]
  have taken : (erasePendingRestoreURL shell s).pendingRestoreURLs.lookup shell = none := by
    rw [erasePendingRestoreURL, lookup_filter_ne, if_pos rfl]
  refine held.change shell (Tab.start url) _ (fun _ => rfl) (fun _ => rfl) others (fun _ => taken)
    fun url' tab _ _ holds => ?_
  rw [deferred] at holds
  cases holds with
  | deferred kept web blank entry =>
    obtain rfl := Option.some.inj kept
    exact .loading taken rfl (blank.imp_right .inl)
  | loading kept => cases kept
  | loaded kept => cases kept

theorem unique_erase {s : Session} (unique : Unique s) (shell : ℕ) :
    Unique (erasePendingRestoreURL shell s) := unique

theorem restoring_reload {s : Session} (held : Restoring d opens s) {tab : Tab}
    (mem : tab ∈ s.windows) (web : tab.lastCommittedURL.schemeIsHTTPOrHTTPS = true) :
    Restoring d opens (updateTab tab.shell (Tab.start tab.lastCommittedURL) s) := by
  obtain ⟨-, -, place, -⟩ := held.tab mem
  refine held.updateTab _ _ (fun _ => rfl) (fun _ => rfl) fun url old listed here holds => ?_
  rw [place, Option.some.injEq] at here
  subst here
  have other : tab.lastCommittedURL ≠ .none ∧ tab.lastCommittedURL ≠ blankURL := by
    constructor <;>
    · intro same
      rw [same] at web
      exact absurd web (by decide)
  cases holds with
  | deferred kept url_web blank entry => exact absurd blank (not_or.mpr other)
  | loading kept entry committed =>
    have shows := (committed.resolve_left other.1).resolve_left other.2
    exact .loading kept (by rw [Tab.start, shows]) committed
  | loaded kept entry committed =>
    exact .loading kept (by rw [Tab.start, committed]) (.inr (.inr committed))

theorem holds_commit {deferred : Option GURL} {url : GURL} {tab : Tab}
    (holds : Holds deferred url tab) : Holds deferred url tab.commit := by
  unfold Tab.commit
  cases entry : tab.pendingEntry with
  | none => exact holds
  | some target =>
    cases holds with
    | deferred kept web blank pending =>
      rw [entry] at pending
      have target_blank : target = blankURL := by simpa using pending
      exact .deferred kept web (.inr target_blank) (.inl rfl)
    | loading kept pending committed =>
      rw [entry, Option.some.injEq] at pending
      exact .loaded kept rfl pending
    | loaded kept pending committed =>
      rw [entry] at pending
      cases pending

theorem commit_offTheRecord (tab : Tab) : tab.commit.offTheRecord = tab.offTheRecord := by
  unfold Tab.commit
  split <;> rfl

theorem restoring_commits {s : Session} (held : Restoring d opens s) (shell : ℕ) :
    Restoring d opens (step p s (.commits shell)) := by
  have committed := held.updateTab shell Tab.commit Tab.commit_shell commit_offTheRecord
    fun url tab _ _ holds => holds_commit holds
  exact committed.agrees (agrees_navigate p s shell Tab.commit)

theorem restoring_reloadDiscarded {s : Session} (held : Restoring d opens s) {tab : Tab}
    (mem : tab ∈ s.windows) :
    Restoring d opens ((reloadDiscarded p false tab).run s).state ∧
    ((reloadDiscarded p false tab).run s).state.pendingRestoreURLs = s.pendingRestoreURLs := by
  unfold reloadDiscarded
  by_cases reloads : (tab.wasDiscarded && tab.lastCommittedURL.isValid &&
      tab.lastCommittedURL.schemeIsHTTPOrHTTPS) = true
  · have agrees := agrees_loadURL p s tab.shell tab.lastCommittedURL held.unique
    rw [if_pos reloads]
    rw [Bool.and_eq_true] at reloads
    exact ⟨(restoring_reload held mem reloads.2).agrees agrees, agrees.pending⟩
  · rw [if_neg reloads]
    exact ⟨held, rfl⟩

theorem loadDeferred_none (refused : Bool) (shell : ℕ) (s : Session) :
    ((loadDeferred p refused shell .none).run s).state = s := by
  have invalid : (GURL.none.isValid && GURL.none.schemeIsHTTPOrHTTPS) = false := rfl
  simp [loadDeferred, invalid]

theorem restoring_loadDeferred {s : Session} (held : Restoring d opens s) {tab : Tab}
    (mem : tab ∈ s.windows) (s' : Session) (held' : Restoring d opens s')
    (pending : s'.pendingRestoreURLs = s.pendingRestoreURLs) :
    Restoring d opens ((loadDeferred p false tab.shell (peekPendingRestoreURL s' tab.shell)).run
      (erasePendingRestoreURL tab.shell s')).state := by
  obtain ⟨url, -, -, -, holds⟩ := held.tab mem
  rw [peekPendingRestoreURL, pending]
  cases deferred : s.pendingRestoreURLs.lookup tab.shell with
  | none =>
    rw [Option.getD_none, loadDeferred_none]
    exact restoring_erase held' tab.shell (by rw [pending, deferred])
  | some target =>
    have loads : (target.isValid && target.schemeIsHTTPOrHTTPS) = true := by
      rw [deferred] at holds
      cases holds with
      | deferred kept web =>
        obtain rfl := Option.some.inj kept
        rw [web.1, web.2]
        rfl
      | loading kept => cases kept
      | loaded kept => cases kept
    rw [Option.getD_some, loadDeferred, if_pos loads]
    have loaded := restoring_load held' tab.shell target (by rw [pending, deferred])
    exact loaded.agrees (agrees_loadURL p _ tab.shell target (unique_erase held'.unique _))

theorem restoring_selects {s : Session} (held : Restoring d opens s) (shell : ℕ) :
    Restoring d opens (step p s (.selects shell)) := by
  simp only [step, showTabWindow, run_get_bind]
  cases found : findTab s shell with
  | none => exact held
  | some tab =>
    have mem := List.mem_of_find?_eq_some found
    obtain rfl : tab.shell = shell := by simpa using List.find?_some found
    obtain ⟨revived, pending⟩ := restoring_reloadDiscarded (p := p) held mem
    have loaded := restoring_loadDeferred (p := p) held mem _ revived pending
    exact loaded.discard tab.shell

theorem restoring_step {s : Session} (held : Restoring d opens s) (e : Event) :
    Restoring d opens (step p s e) := by
  cases e with
  | selects shell => exact restoring_selects held shell
  | commits shell => exact restoring_commits held shell

theorem restoring_run {s : Session} (held : Restoring d opens s) (events : List Event) :
    Restoring d opens (events.foldl (step p) s) := by
  induction events generalizing s with
  | nil => exact held
  | cons e events ih => exact ih (restoring_step held e)

/-- A tab that shows a document is not navigating away from it. -/
def AtRest (tab : Tab) : Prop :=
  tab.pendingEntry = none ∨ tab.lastCommittedURL.isValid = false ∨
    tab.pendingEntry = some tab.lastCommittedURL

/-- Deferred tabs aside, the navigations of all tabs but perhaps one have committed. -/
def SettledBut (shell : ℕ) (s : Session) : Prop :=
  ∀ tab ∈ s.windows, tab.shell ≠ shell → s.pendingRestoreURLs.lookup tab.shell = none → AtRest tab

/-- Deferred tabs aside, the navigations of all tabs have committed. -/
def Settled (s : Session) : Prop :=
  ∀ tab ∈ s.windows, s.pendingRestoreURLs.lookup tab.shell = none → AtRest tab

theorem settledBut_updateTab {s : Session} {shell : ℕ} (f : Tab → Tab)
    (number : ∀ tab, (f tab).shell = tab.shell) (settled : SettledBut shell s) :
    SettledBut shell (updateTab shell f s) := by
  intro tab mem other undeferred
  obtain ⟨old, old_mem, rfl⟩ := List.mem_map.mp mem
  by_cases here : old.shell = shell
  · rw [if_pos here, number] at other
    exact absurd here other
  · rw [if_neg here] at other undeferred ⊢
    exact settled old old_mem other undeferred

theorem settledBut_save {s : Session} {shell : ℕ} (settled : SettledBut shell s) :
    SettledBut shell (blinkSaveOpenTabs p s) := by
  have agrees := agrees_save p s
  unfold SettledBut
  rw [agrees.windows, agrees.pending]
  exact settled

theorem settledBut_navigation (p : Platform) (shell : ℕ) :
    NavigationInvariant p (SettledBut shell) (· = shell) where
  save := fun _ settled => settledBut_save settled
  start := by
    rintro s _ url rfl settled
    exact settledBut_updateTab _ (fun _ => rfl) settled
  stop := by
    rintro s _ rfl settled
    exact settledBut_updateTab _ (fun _ => rfl) settled

theorem settledBut_erase {s : Session} {shell : ℕ} (settled : SettledBut shell s) :
    SettledBut shell (erasePendingRestoreURL shell s) := by
  intro tab mem other undeferred
  rw [erasePendingRestoreURL, lookup_filter_ne, if_neg other] at undeferred
  exact settled tab mem other undeferred

theorem settledBut_discard {s : Session} {shell : ℕ} (keep : ℕ) (settled : SettledBut shell s) :
    SettledBut shell (blinkDiscardBackgroundTabs keep s) := by
  obtain ⟨flag, same⟩ := blinkDiscardBackgroundTabs_eq keep s
  rw [same]
  intro tab mem other undeferred
  obtain ⟨old, old_mem, rfl⟩ := List.mem_map.mp mem
  exact settled old old_mem other undeferred

theorem settledBut_selects {s : Session} {shell : ℕ} (settled : SettledBut shell s) :
    SettledBut shell (step p s (.selects shell)) := by
  simp only [step, showTabWindow, run_get_bind]
  cases found : findTab s shell with
  | none => exact settled
  | some tab =>
    have number : tab.shell = shell := by simpa using List.find?_some found
    have navigation := settledBut_navigation p shell
    have revived : SettledBut shell ((reloadDiscarded p false tab).run s).state := by
      unfold reloadDiscarded
      split_ifs
      · exact (keeps_loadURL navigation settled false _ _ number).1
      · exact settled
    have loaded (pending : GURL) : SettledBut shell ((loadDeferred p false shell pending).run
        (erasePendingRestoreURL shell ((reloadDiscarded p false tab).run s).state)).state := by
      unfold loadDeferred
      split_ifs
      · exact (keeps_loadURL navigation (settledBut_erase revived) false _ _ rfl).1
      · exact settledBut_erase revived
    exact settledBut_discard shell (loaded _)

theorem settled_commits {s : Session} {shell : ℕ} (settled : SettledBut shell s) :
    Settled (step p s (.commits shell)) := by
  have agrees := agrees_navigate p s shell Tab.commit
  intro tab mem undeferred
  rw [step, agrees.windows] at mem
  rw [step, agrees.pending] at undeferred
  obtain ⟨old, old_mem, rfl⟩ := List.mem_map.mp mem
  by_cases here : old.shell = shell
  · rw [if_pos here]
    left
    unfold Tab.commit
    split
    · assumption
    · rfl
  · rw [if_neg here] at undeferred ⊢
    exact settled old old_mem here undeferred

def visit (p : Platform) (s : Session) (shell : ℕ) : Session :=
  step p (step p s (.selects shell)) (.commits shell)

theorem settled_visit {s : Session} (settled : Settled s) (shell : ℕ) :
    Settled (visit p s shell) :=
  settled_commits (settledBut_selects fun tab mem _ => settled tab mem)

theorem settled_visits {s : Session} (settled : Settled s) (shells : List ℕ) :
    Settled (shells.foldl (visit p) s) := by
  induction shells generalizing s with
  | nil => exact settled
  | cons shell shells ih => exact ih (settled_visit settled shell)

def Fresh (s : Session) : Prop := ∀ tab ∈ s.windows, tab.lastCommittedURL = .none

theorem fresh_updateTab {s : Session} (shell : ℕ) (f : Tab → Tab)
    (committed : ∀ tab, (f tab).lastCommittedURL = tab.lastCommittedURL) (fresh : Fresh s) :
    Fresh (updateTab shell f s) := by
  intro tab mem
  obtain ⟨old, old_mem, rfl⟩ := List.mem_map.mp mem
  split_ifs
  · rw [committed, fresh old old_mem]
  · exact fresh old old_mem

theorem fresh_shed {s : Session} (fresh : Fresh s) : Fresh (discardBehindFront s) := by
  obtain ⟨flag, same⟩ := discardBehindFront_eq s
  rw [same]
  intro tab mem
  obtain ⟨old, old_mem, rfl⟩ := List.mem_map.mp mem
  exact fresh old old_mem

theorem fresh_create {s : Session} (offTheRecord : Bool) (fresh : Fresh s) :
    Fresh (createShell offTheRecord s) := by
  intro tab mem
  rcases List.mem_append.mp mem with old | new
  · exact fresh tab old
  · rw [List.mem_singleton.mp new]

theorem fresh_launch (p : Platform) : LaunchInvariant p Fresh fun _ => True where
  save := by
    intro s fresh
    unfold Fresh
    rw [(agrees_save p s).windows]
    exact fresh
  start := fun _ shell _ _ => fresh_updateTab shell _ fun _ => rfl
  stop := fun _ shell _ => fresh_updateTab shell _ fun _ => rfl
  next := fun _ _ => trivial
  shed := fun _ => fresh_shed
  create := fun _ => fresh_create
  defer := by
    intro s shell url _ fresh
    unfold emplacePendingRestoreURL
    split_ifs <;> exact fresh

theorem settled_launched (p : Platform) (d : Preferences) : Settled (launched p d) := by
  have empty : Fresh (started (getRestoreTabURLs p d).1) := by
    intro tab mem
    cases mem
  have fresh : Fresh (launched p d) := launch_state (fresh_launch p) _ d empty
  intro tab mem _
  rw [AtRest, fresh tab mem]
  exact .inr (.inl rfl)

end BlinkerFluid.TabVisits
