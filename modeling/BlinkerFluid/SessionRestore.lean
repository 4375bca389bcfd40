import BlinkerFluid.TabVisits
import Mathlib.Logic.Relation

/-! Saving and restoring agree. Once the navigations of a session have committed, a save
writes the list the session opened, and the next launch opens the same list again. -/

namespace BlinkerFluid.SessionRestore
open ByteString WebAddress OpenTabs RestoreList RestoredTabs TabVisits

variable {p : Platform} {d : Preferences} {opens : List GURL}

theorem blinkTabURL_eq (s : Session) (held : Restoring d opens s) (settled : Settled s)
    {tab : Tab} (mem : tab ∈ s.windows) {url : GURL} (listed : opens[tab.shell]? = some url) :
    blinkTabURL s tab = savedAs url := by
  obtain ⟨url', listed', -, -, holds⟩ := held.tab mem
  obtain rfl : url' = url := by rwa [listed', Option.some.injEq] at listed
  have none_invalid : GURL.none.isValid = false := rfl
  have shown (undeferred : s.pendingRestoreURLs.lookup tab.shell = none)
      (committed : tab.lastCommittedURL.isValid = true → tab.lastCommittedURL = url')
      (visible : tab.lastCommittedURL.isValid = false → tab.visibleURL = url') :
      blinkTabURL s tab = savedAs url' := by
    have peek : peekPendingRestoreURL s tab.shell = .none := by
      rw [peekPendingRestoreURL, undeferred]
      rfl
    rw [blinkTabURL, peek]
    simp only [none_invalid, Bool.not_false, if_true]
    cases valid : tab.lastCommittedURL.isValid with
    | true => simp only [Bool.not_true, Bool.false_eq_true, if_false, committed valid, savedAs]
    | false => simp only [Bool.not_false, if_true, visible valid, savedAs]
  cases holds with
  | deferred kept web =>
    have peek : peekPendingRestoreURL s tab.shell = url' := by
      rw [peekPendingRestoreURL, kept]
      rfl
    simp only [blinkTabURL, peek, web.1, Bool.not_true, Bool.false_eq_true, if_false, savedAs]
  | loading undeferred entry committed =>
    refine shown undeferred (fun valid => ?_) fun _ => by rw [Tab.visibleURL, entry]; rfl
    rcases settled tab mem undeferred with still | invalid | reloads
    · rw [entry] at still
      cases still
    · rw [valid] at invalid
      cases invalid
    · rw [entry, Option.some.injEq] at reloads
      exact reloads.symm
  | loaded undeferred entry committed =>
    exact shown undeferred (fun _ => committed) fun _ => by rw [Tab.visibleURL, entry]; exact committed

theorem blinkSaveOpenTabs_openTabs (s : Session) (shown : ∀ tab ∈ s.windows, tab.offTheRecord = false) :
    (blinkSaveOpenTabs p s).preferences.openTabs =
      ((s.windows.map (blinkTabURL s)).filterMap id).map some := by
  have listed : ¬ s.windows.any (·.offTheRecord) = true := by simpa using shown
  rw [blinkSaveOpenTabs, if_neg listed, List.filterMap_map]
  simp [List.map_filterMap, Option.map_map, Function.comp_def]

theorem saved_opens {s : Session} (held : Restoring d opens s) (settled : Settled s) :
    (blinkSaveOpenTabs p s).preferences.openTabs = (opens.filterMap savedAs).map some := by
  have tabs : s.windows.map (blinkTabURL s) = opens.map savedAs := by
    apply List.ext_getElem
    · simp [held.length]
    · intro i here listed
      rw [List.length_map] at here listed
      rw [List.getElem_map, List.getElem_map]
      obtain ⟨number, -, -⟩ := held.tabs i opens[i] s.windows[i] (List.getElem?_eq_getElem listed)
        (List.getElem?_eq_getElem here)
      exact blinkTabURL_eq s held settled (List.getElem_mem here)
        (by rw [number]; exact List.getElem?_eq_getElem listed)
  have shown : ∀ tab ∈ s.windows, tab.offTheRecord = false := fun tab mem =>
    (held.tab mem).choose_spec.2.2.1
  rw [blinkSaveOpenTabs_openTabs s shown, tabs, List.filterMap_map]
  rfl

/-- One session: a launch, selections and commits that settle, and a save. -/
def Cycle (p : Platform) (d d' : Preferences) : Prop :=
  ∃ events : List Event, Settled (events.foldl (step p) (launched p d)) ∧
    d' = (blinkSaveOpenTabs p (events.foldl (step p) (launched p d))).preferences

theorem cycle_visits (p : Platform) (d : Preferences) (shells : List ℕ) :
    Cycle p d (blinkSaveOpenTabs p (shells.foldl (visit p) (launched p d))).preferences := by
  have run : (shells.flatMap fun shell => [.selects shell, .commits shell]).foldl (step p)
      (launched p d) = shells.foldl (visit p) (launched p d) := by
    rw [List.foldl_flatMap]
    rfl
  refine ⟨shells.flatMap fun shell => [.selects shell, .commits shell], ?_, ?_⟩
  · rw [run]
    exact settled_visits (settled_launched p d) shells
  · rw [run]

/-- What a session keeps: the side, the homepage, and the opened list on disk. -/
structure Saves (p : Platform) (d d' : Preferences) : Prop where
  privateBrowsing : d'.privateBrowsing = d.privateBrowsing
  homepage : d'.homepage = d.homepage
  openTabs : d'.openTabs = ((opened p d).filterMap savedAs).map some

theorem saved_restored {d d' : Preferences} (saves : Saves p d d')
    (found : (getRestoreTabURLs p d).2 ≠ []) :
    d'.openTabs = (getRestoreTabURLs p d).2.map fun url => some url.spec := by
  have specs : (getRestoreTabURLs p d).2.filterMap savedAs =
      (getRestoreTabURLs p d).2.filterMap (some ∘ GURL.spec) :=
    List.filterMap_congr fun url mem => savedAs_restorable (restorable_of_mem mem)
  rw [saves.openTabs, opened, if_neg found, specs, List.filterMap_eq_map, List.map_map]
  rfl

theorem saves_cycle (canonical : Canonical p.parse) {d d' : Preferences}
    (shown : d.privateBrowsing = false) (cycle : Cycle p d d') : Saves p d d' := by
  obtain ⟨events, settled, rfl⟩ := cycle
  have held := restoring_run (p := p) (restoring_launched canonical d shown) events
  have agrees := agrees_save p (events.foldl (step p) (launched p d))
  exact ⟨agrees.privateBrowsing.trans held.privateBrowsing, agrees.homepage.trans held.homepage,
    saved_opens held settled⟩

theorem restoreURL_startup (canonical : Canonical p.parse) (d : Preferences)
    (other : ¬ RealPage p (getStartupURL p d)) (s : Bytes)
    (saved : savedAs (getStartupURL p d) = some s) :
    restoreURL p (some s) = none ∨ restoreURL p (some s) = some blankURL := by
  unfold savedAs at saved
  by_cases blank : (!(getStartupURL p d).isValid || (getStartupURL p d).isAboutBlank) = true
  · rw [if_pos blank, Option.some.injEq] at saved
    have spec : kAboutBlankURL = blankURL.spec := rfl
    rw [← saved, spec]
    exact .inr (restoreURL_spec canonical (.inl rfl))
  · rw [if_neg blank] at saved
    rw [Bool.or_eq_true, not_or, Bool.not_eq_true', Bool.not_eq_false, Bool.not_eq_true] at blank
    obtain ⟨valid, named⟩ := blank
    split_ifs at saved with http
    obtain rfl := Option.some.inj saved
    obtain ⟨homepage, parsed⟩ : ∃ homepage, getStartupURL p d = p.parse homepage := by
      simp only [getStartupURL] at named ⊢
      split_ifs at named ⊢
      · exact ⟨_, rfl⟩
      · exact absurd named (by decide)
    have skipped : isSafeRestoreURL (getStartupURL p d) = false := by
      by_contra safe
      exact other ⟨⟨homepage, parsed⟩, valid, http, by simpa using safe⟩
    have nothing : isSafeRestoreURL .none = false := by decide
    rw [parsed] at valid http skipped ⊢
    left
    rw [restoreURL, cfStringGetCString_printable _ _ (canonical.printable homepage valid)]
    by_cases short : (p.parse homepage).spec.length < 4096
    · simp only [if_pos short, canonical.reparse homepage valid http, skipped]
      rfl
    · simp only [if_neg short, canonical.nothing, nothing]
      rfl

theorem getRestoreTabURLs_startup (canonical : Canonical p.parse) {d d' : Preferences}
    (shown : d.privateBrowsing = false) (found : (getRestoreTabURLs p d).2 = [])
    (saves : Saves p d d') :
    (getRestoreTabURLs p d').2 = [getStartupURL p d] ∨ (getRestoreTabURLs p d').2 = [] := by
  have openTabs := saves.openTabs
  rw [opened, if_pos found] at openTabs
  have still : d'.privateBrowsing = false := by rw [saves.privateBrowsing, shown]
  by_cases real : RealPage p (getStartupURL p d)
  · left
    have tabs : candidates p d' = [getStartupURL p d] := by
      rw [candidates, openTabs]
      simp [savedAs_restorable (.inr real), restoreURL_spec canonical (.inr real), kMaxRestore]
    rw [getRestoreTabURLs_urls, tabs]
    exact if_pos ⟨still, by simp [real.not_isAboutBlank]⟩
  · right
    rw [getRestoreTabURLs_urls]
    refine if_neg fun both => ?_
    obtain ⟨url, mem, shows⟩ := List.any_eq_true.mp both.2
    obtain ⟨entry, stored, restored⟩ := List.mem_filterMap.mp (List.mem_of_mem_take mem)
    rw [openTabs] at stored
    obtain ⟨s, saved, rfl⟩ := List.mem_map.mp stored
    have startup : savedAs (getStartupURL p d) = some s := by simpa using saved
    rcases restoreURL_startup canonical d real s startup with nothing | blank
    · rw [nothing] at restored
      cases restored
    · rw [blank, Option.some.injEq] at restored
      subst restored
      exact absurd shows (by decide)

theorem opened_saves (canonical : Canonical p.parse) {d d' : Preferences}
    (shown : d.privateBrowsing = false) (saves : Saves p d d') : opened p d' = opened p d := by
  have still : d'.privateBrowsing = false := by rw [saves.privateBrowsing, shown]
  by_cases found : (getRestoreTabURLs p d).2 = []
  · have startup := getStartupURL_congr (p := p) d d' saves.homepage
    rw [opened, opened, if_pos found, startup]
    rcases getRestoreTabURLs_startup canonical shown found saves with again | nothing
    · rw [again, if_neg (List.cons_ne_nil _ _)]
    · rw [nothing, if_pos rfl]
  · have again := getRestoreTabURLs_saved canonical d d' found still (saved_restored saves found)
    rw [opened, opened, again, if_neg found, if_neg found]

theorem saves_cycles (canonical : Canonical p.parse) {d d₁ d₂ : Preferences}
    (shown : d.privateBrowsing = false) (first : Cycle p d d₁)
    (cycles : Relation.ReflTransGen (Cycle p) d₁ d₂) : Saves p d d₂ := by
  induction cycles with
  | refl => exact saves_cycle canonical shown first
  | tail _ cycle saves =>
    have still := saves.privateBrowsing.trans shown
    have again := saves_cycle canonical still cycle
    exact ⟨again.privateBrowsing.trans saves.privateBrowsing, again.homepage.trans saves.homepage,
      by rw [again.openTabs, opened_saves canonical shown saves]⟩

/-- A session stores what it restored, in order, and the next launch restores it again;
also when there was nothing to restore, every later session opens, stores and restores
the same as the first. -/
theorem cycle_restores (canonical : Canonical p.parse) (d d₁ : Preferences)
    (shown : d.privateBrowsing = false) (first : Cycle p d d₁) :
    ((getRestoreTabURLs p d).2 ≠ [] →
      d₁.openTabs = (getRestoreTabURLs p d).2.map (fun url => some url.spec) ∧
      (getRestoreTabURLs p d₁).2 = (getRestoreTabURLs p d).2) ∧
    ∀ d₂, Relation.ReflTransGen (Cycle p) d₁ d₂ →
      opened p d₂ = opened p d ∧ d₂.openTabs = d₁.openTabs ∧
      (getRestoreTabURLs p d₂).2 = (getRestoreTabURLs p d₁).2 := by
  have saves₁ := saves_cycle canonical shown first
  have still := saves₁.privateBrowsing.trans shown
  constructor
  · intro found
    have saved := saved_restored saves₁ found
    exact ⟨saved, getRestoreTabURLs_saved canonical d d₁ found still saved⟩
  · intro d₂ cycles
    have saves₂ := saves_cycles canonical shown first cycles
    have same : d₂.openTabs = d₁.openTabs := by rw [saves₂.openTabs, saves₁.openTabs]
    refine ⟨opened_saves canonical shown saves₂, same, ?_⟩
    rw [getRestoreTabURLs_urls, getRestoreTabURLs_urls, candidates, candidates, same,
      saves₂.privateBrowsing.trans shown, still]

/-- Two pages are stored again after the deferred one has been visited. -/
theorem cycle_restores_pages :
    (blinkSaveOpenTabs samplePlatform ([1].foldl (visit samplePlatform)
        (launched samplePlatform (stored sampleHosts)))).preferences.openTabs =
      (getRestoreTabURLs samplePlatform (stored sampleHosts)).2.map (fun url => some url.spec) ∧
    (getRestoreTabURLs samplePlatform (blinkSaveOpenTabs samplePlatform
        ([1].foldl (visit samplePlatform) (launched samplePlatform
          (stored sampleHosts)))).preferences).2 =
      (getRestoreTabURLs samplePlatform (stored sampleHosts)).2 :=
  (cycle_restores (p := samplePlatform) sampleParse_canonical (stored sampleHosts) _ rfl
    (cycle_visits samplePlatform (stored sampleHosts) [1])).1 (by decide +kernel)

end BlinkerFluid.SessionRestore
