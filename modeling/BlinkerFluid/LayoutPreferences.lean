import BlinkerFluid.SiteMode
import BlinkerFluid.StepRun

/-! The layout of the tabs. The user agent is one of each tab, and whether pages are laid out
as on a desktop is one global, written by every commit of a page and by the menu. Preferences
are recomputed for any tab at any time, with the global as it stands then. -/

namespace BlinkerFluid.LayoutPreferences
open WebAddress StepRun AuthFlow SiteMode

inductive PreferredColorScheme where
  | kLight
  | kDark
deriving DecidableEq

inductive PreferredContrast where
  | kNoPreference
  | kMore
deriving DecidableEq

inductive ViewportStyle where
  | kDefault
  | kMobile
  | kTelevision
deriving DecidableEq

structure WebPreferences where
  preferredColorScheme : PreferredColorScheme
  inForcedColors : Bool
  preferredContrast : PreferredContrast
  doubleTapToZoomEnabled : Bool
  viewportMetaEnabled : Bool
  viewportStyle : ViewportStyle
  shrinksViewportContentsToFit : Bool
deriving DecidableEq

structure Platform where
  forceDarkMode : Bool
  forceHighContrast : Bool
  legacyRuntime : Bool
  defaults : WebPreferences

def overrideWebPreferences (p : Platform) (gBlinkPreferredColorScheme : ℕ)
    (gForceDesktopSite : Bool) (prefs : WebPreferences) : WebPreferences :=
  let dark := gBlinkPreferredColorScheme = 2 || p.forceDarkMode
  let prefs := { prefs with
    preferredColorScheme := if dark then .kDark else .kLight
    inForcedColors := p.forceHighContrast
    preferredContrast := if p.forceHighContrast then .kMore else .kNoPreference
    doubleTapToZoomEnabled := false }
  if gForceDesktopSite then
    { prefs with
      viewportMetaEnabled := false
      viewportStyle := .kDefault
      shrinksViewportContentsToFit := true }
  else prefs

def DesktopLayout (prefs : WebPreferences) : Prop :=
  prefs.viewportMetaEnabled = false ∧ prefs.shrinksViewportContentsToFit = true

instance (prefs : WebPreferences) : Decidable (DesktopLayout prefs) :=
  inferInstanceAs (Decidable (_ ∧ _))

/-- The tabs with their overrides, and the globals. Of the page commits and the switches of
the menu the mode of the last one is noted; nothing reads the note. -/
structure Browser where
  preferences : HostPreferences
  forceDesktopSite : Bool
  preferredColorScheme : ℕ
  windows : List ℕ
  userAgentOverride : ℕ → UserAgentOverride
  lastMode : Bool

/-- A call of `OverrideWebPreferences`, and the override of its contents at that moment. -/
structure Computed where
  preferences : WebPreferences
  userAgentOverride : UserAgentOverride

inductive Event where
  | opens (tab : ℕ) (opener : Option ℕ)
  | closes (tab : ℕ)
  | commits (tab : ℕ) (navigation : NavigationHandle)
  | toggleDesktopSite (tab : ℕ) (flow : Flow) (lastCommittedURL visibleURL : GURL)
  | loadURL (tab : ℕ) (url : GURL)
  | runPostedTask (tab : ℕ) (task : PostedTask)
  | notifyPreferencesChanged (tab : ℕ)
  | applyWebColorScheme (style : ℕ)

section Steps

variable (p : Platform) (b : Browser)

def siteOf (tab : ℕ) : Site := ⟨b.preferences, b.forceDesktopSite, b.userAgentOverride tab⟩

def withSite (tab : ℕ) (site : Site) : Browser :=
  { b with
    preferences := site.preferences
    forceDesktopSite := site.forceDesktopSite
    userAgentOverride := Function.update b.userAgentOverride tab site.userAgentOverride }

def recompute (tab : ℕ) : Computed :=
  ⟨overrideWebPreferences p b.preferredColorScheme b.forceDesktopSite p.defaults,
    b.userAgentOverride tab⟩

/-- The site mode of a commit sets the override and has the preferences recomputed. -/
def SetsOverride (site : Site) (navigation : NavigationHandle) : Prop :=
  CommitsPage navigation ∧ site.storedFlag navigation.url ≠ .kUnset ∧
    decide (site.storedFlag navigation.url = .kTrue) ≠ site.userAgentOverride.active

instance (site : Site) (navigation : NavigationHandle) :
    Decidable (SetsOverride site navigation) := inferInstanceAs (Decidable (_ ∧ _ ∧ _))

/-- The menu has switched the mode and not loaded the page yet. -/
def switchMode (site : Site) (host : ByteString.Bytes) : Site :=
  let setDesktop := !site.userAgentOverride.active
  { preferences := writeHostFlag site.preferences desktopModePrefix host setDesktop
    forceDesktopSite := setDesktop
    userAgentOverride := modeOverride setDesktop }

def step : Event → Browser
  | .opens tab opener =>
    -- an override is set for the tabs that its tab opens, too
    let inherited := match opener with
      | some opener => b.userAgentOverride opener
      | none => {}
    { b with
      windows := b.windows ++ [tab]
      userAgentOverride := Function.update b.userAgentOverride tab inherited }
  | .closes tab => { b with windows := b.windows.filter (· ≠ tab) }
  | .commits tab navigation =>
    let site := commitSiteMode (siteOf b tab) navigation
    { withSite b tab site with
      lastMode := if CommitsPage navigation then site.userAgentOverride.active else b.lastMode }
  | .toggleDesktopSite tab flow lastCommittedURL visibleURL =>
    { withSite b tab (SiteMode.toggleDesktopSite p.legacyRuntime flow lastCommittedURL visibleURL
        (siteOf b tab)) with
      lastMode := if flow.inAuthFlow then b.lastMode else !(b.userAgentOverride tab).active }
  | .loadURL tab url =>
    withSite b tab (applyLegacyGoogleAuthIdentity p.legacyRuntime (siteOf b tab) url)
  | .runPostedTask tab task =>
    withSite b tab ((frontActions task).foldl (applyAction p.legacyRuntime) (siteOf b tab))
  | .notifyPreferencesChanged _ => b
  | .applyWebColorScheme style => { b with preferredColorScheme := style }

/-- The calls of `OverrideWebPreferences` during a step. -/
def computed : Event → List Computed
  | .commits tab navigation =>
    if SetsOverride (siteOf b tab) navigation then
      [recompute p (withSite b tab (commitSiteMode (siteOf b tab) navigation)) tab]
    else []
  | .toggleDesktopSite tab flow lastCommittedURL _ =>
    if flow.inAuthFlow then []
    else [recompute p (withSite b tab (switchMode (siteOf b tab) lastCommittedURL.host)) tab]
  | .notifyPreferencesChanged tab => [recompute p b tab]
  | .applyWebColorScheme style =>
    b.windows.map (recompute p { b with preferredColorScheme := style })
  | .opens .. | .closes _ | .loadURL .. | .runPostedTask .. => []

end Steps

section Global

variable {p : Platform} {b : Browser}

/-- The defaults give way to the desktop layout exactly under the global. -/
theorem overrideWebPreferences_layout (mobile : ¬ DesktopLayout p.defaults) (scheme : ℕ)
    (force : Bool) :
    DesktopLayout (overrideWebPreferences p scheme force p.defaults) ↔ force = true := by
  cases force with
  | false => exact iff_of_false mobile Bool.false_ne_true
  | true => exact iff_of_true ⟨rfl, rfl⟩ rfl

theorem commitSiteMode_forceDesktopSite (site : Site) (navigation : NavigationHandle) :
    (commitSiteMode site navigation).forceDesktopSite =
      if CommitsPage navigation then (commitSiteMode site navigation).userAgentOverride.active
      else site.forceDesktopSite := by
  by_cases commits : CommitsPage navigation
  · rw [if_pos commits, commitSiteMode_of_commitsPage commits]
    simp only [blinkApplySiteMode, commits.page, Bool.false_eq_true, if_false]
    split
    · rfl
    · split
      · assumption
      · exact (modeOverride_active _).symm
  · rw [if_neg commits, commitSiteMode_of_not_commitsPage commits]

@[simp] theorem applyLegacyGoogleAuthIdentity_forceDesktopSite (legacyRuntime : Bool) (site : Site)
    (url : GURL) : (applyLegacyGoogleAuthIdentity legacyRuntime site url).forceDesktopSite =
      site.forceDesktopSite := by
  unfold applyLegacyGoogleAuthIdentity
  split_ifs <;> rfl

theorem frontActions_forceDesktopSite (legacyRuntime : Bool) (site : Site) (task : PostedTask) :
    ((frontActions task).foldl (applyAction legacyRuntime) site).forceDesktopSite =
      site.forceDesktopSite := by
  generalize frontActions task = actions
  induction actions generalizing site with
  | nil => rfl
  | cons action actions ih =>
    rw [List.foldl_cons, ih]
    cases action with
    | setUserAgentOverride userAgent => rfl
    | stop => rfl
    | loadURL url => exact applyLegacyGoogleAuthIdentity_forceDesktopSite ..

theorem toggleDesktopSite_eq (legacyRuntime : Bool) (flow : Flow)
    (lastCommittedURL visibleURL : GURL) (site : Site) :
    SiteMode.toggleDesktopSite legacyRuntime flow lastCommittedURL visibleURL site =
      if flow.inAuthFlow then site
      else
        let current := if !lastCommittedURL.isValid then visibleURL else lastCommittedURL
        if current.isValid && current.schemeIsHTTPOrHTTPS then
          applyLegacyGoogleAuthIdentity legacyRuntime
            (switchMode site lastCommittedURL.host) current
        else switchMode site lastCommittedURL.host := rfl

theorem toggleDesktopSite_forceDesktopSite (legacyRuntime : Bool) (flow : Flow)
    (lastCommittedURL visibleURL : GURL) (site : Site) :
    (SiteMode.toggleDesktopSite legacyRuntime flow lastCommittedURL visibleURL
        site).forceDesktopSite =
      if flow.inAuthFlow then site.forceDesktopSite else !site.userAgentOverride.active := by
  rw [toggleDesktopSite_eq]
  split
  · rfl
  · dsimp only
    split_ifs <;> simp only [applyLegacyGoogleAuthIdentity_forceDesktopSite, switchMode]

/-- The global is the mode of the last commit of a page or switch of the menu. -/
theorem lastMode_step (event : Event) (noted : b.forceDesktopSite = b.lastMode) :
    (step p b event).forceDesktopSite = (step p b event).lastMode := by
  cases event with
  | opens tab opener => exact noted
  | closes tab => exact noted
  | commits tab navigation =>
    simp only [step, withSite, commitSiteMode_forceDesktopSite, ← noted]
    rfl
  | toggleDesktopSite tab flow lastCommittedURL visibleURL =>
    simp only [step, withSite, toggleDesktopSite_forceDesktopSite, ← noted]
    rfl
  | loadURL tab url =>
    simp only [step, withSite, applyLegacyGoogleAuthIdentity_forceDesktopSite]
    exact noted
  | runPostedTask tab task =>
    simp only [step, withSite, frontActions_forceDesktopSite]
    exact noted
  | notifyPreferencesChanged tab => exact noted
  | applyWebColorScheme style => exact noted

end Global

section Layout

variable {p : Platform} {b : Browser}

/-- The contents are laid out as on a desktop exactly if they carry an override. -/
def OwnLayout (call : Computed) : Prop :=
  DesktopLayout call.preferences ↔ call.userAgentOverride.active = true

def LayoutsOwn (p : Platform) (b : Browser) (event : Event) : Prop :=
  ∀ call ∈ computed p b event, OwnLayout call

/-- A tab whose preferences are recomputed by themselves is in the mode in which the last
commit of a page or switch of the menu, of any tab, has left its tab. -/
def SharesLastMode (b : Browser) : Event → Prop
  | .notifyPreferencesChanged tab => (b.userAgentOverride tab).active = b.lastMode
  | .applyWebColorScheme _ => ∀ tab ∈ b.windows, (b.userAgentOverride tab).active = b.lastMode
  | _ => True

theorem layoutsOwn_of_silent {event : Event} (silent : computed p b event = []) :
    LayoutsOwn p b event := by
  rw [LayoutsOwn, silent]
  exact fun _ mem => absurd mem List.not_mem_nil

theorem ownLayout_recompute_iff (mobile : ¬ DesktopLayout p.defaults) (tab : ℕ) :
    OwnLayout (recompute p b tab) ↔ (b.userAgentOverride tab).active = b.forceDesktopSite := by
  have layout := overrideWebPreferences_layout mobile b.preferredColorScheme b.forceDesktopSite
  exact (iff_congr layout Iff.rfl).trans (Iff.comm.trans Bool.eq_iff_iff.symm)

theorem ownLayout_withSite (mobile : ¬ DesktopLayout p.defaults) (tab : ℕ) {site : Site}
    (agree : site.forceDesktopSite = site.userAgentOverride.active) :
    OwnLayout (recompute p (withSite b tab site) tab) := by
  have own : (withSite b tab site).userAgentOverride tab = site.userAgentOverride :=
    Function.update_self ..
  rw [ownLayout_recompute_iff mobile, own]
  exact agree.symm

theorem layoutsOwn_iff (mobile : ¬ DesktopLayout p.defaults)
    (noted : b.forceDesktopSite = b.lastMode) (event : Event) :
    LayoutsOwn p b event ↔ SharesLastMode b event := by
  cases event with
  | commits tab navigation =>
    refine iff_of_true (fun call mem => ?_) trivial
    simp only [computed] at mem
    split_ifs at mem with sets
    · obtain rfl := List.mem_singleton.mp mem
      refine ownLayout_withSite mobile tab ?_
      rw [commitSiteMode_forceDesktopSite, if_pos sets.1]
    · cases mem
  | toggleDesktopSite tab flow lastCommittedURL visibleURL =>
    refine iff_of_true (fun call mem => ?_) trivial
    simp only [computed] at mem
    split_ifs at mem
    · cases mem
    · obtain rfl := List.mem_singleton.mp mem
      exact ownLayout_withSite mobile tab (modeOverride_active _).symm
  | notifyPreferencesChanged tab =>
    rw [LayoutsOwn, computed, List.forall_mem_singleton, ownLayout_recompute_iff mobile, noted]
    rfl
  | applyWebColorScheme style =>
    rw [LayoutsOwn, computed, List.forall_mem_map]
    refine forall_congr' fun tab => imp_congr_right fun _ => ?_
    rw [ownLayout_recompute_iff mobile, noted]
  | opens tab opener => exact iff_of_true (layoutsOwn_of_silent rfl) trivial
  | closes tab => exact iff_of_true (layoutsOwn_of_silent rfl) trivial
  | loadURL tab url => exact iff_of_true (layoutsOwn_of_silent rfl) trivial
  | runPostedTask tab task => exact iff_of_true (layoutsOwn_of_silent rfl) trivial

/-- A browser that has just been started, with the flags of its hosts. -/
def started (preferences : HostPreferences) : Browser where
  preferences := preferences
  forceDesktopSite := false
  preferredColorScheme := 0
  windows := []
  userAgentOverride := fun _ => {}
  lastMode := false

/-- For any tabs and any interleaving of what they do, all preferences are computed with the
layout of their own tab exactly if each recomputation comes in the mode of its tab. -/
theorem layout_own_iff (p : Platform) (mobile : ¬ DesktopLayout p.defaults)
    (preferences : HostPreferences) (events : List Event) :
    Permitted (LayoutsOwn p) (step p) (started preferences) events ↔
      Permitted SharesLastMode (step p) (started preferences) events := by
  have noted (b : Browser) (event : Event) := lastMode_step (p := p) (b := b) event
  exact permitted_congr noted (fun _ event noted => layoutsOwn_iff mobile noted event) _ events rfl

end Layout

section TwoTabs

def phone : Platform :=
  ⟨false, false, false, ⟨.kLight, false, .kNoPreference, false, true, .kMobile, true⟩⟩

def newsPage : GURL :=
  ⟨true, "https://news.example/".toList, "https".toList, "news.example".toList, "/".toList⟩

def wikiPage : GURL :=
  ⟨true, "https://wiki.example/".toList, "https".toList, "wiki.example".toList, "/".toList⟩

/-- The first tab is switched to desktop; the second one shows a page as on a phone, and the
appearance is changed. -/
def secondTabCommits : List Event :=
  [.opens 0 none, .commits 0 { url := newsPage }, .toggleDesktopSite 0 {} newsPage newsPage,
    .commits 0 { url := newsPage }, .opens 1 none, .commits 1 { url := wikiPage },
    .applyWebColorScheme 2]

theorem layout_own_iff_firstTab :
    Permitted (LayoutsOwn phone) (step phone) (started fun _ => none)
        (secondTabCommits.take 4) ↔
      Permitted SharesLastMode (step phone) (started fun _ => none) (secondTabCommits.take 4) :=
  layout_own_iff phone (by decide) (fun _ => none) (secondTabCommits.take 4)

theorem secondTab_relaysOut : ¬ ∀ p : Platform, ¬ DesktopLayout p.defaults →
    ∀ preferences events, Permitted (LayoutsOwn p) (step p) (started preferences) events := by
  intro own
  have last := (own phone (by decide) (fun _ => none) secondTabCommits).2.2.2.2.2.2.1
  have first := last _ List.mem_cons_self
  have desktop := first.mpr (by decide +kernel)
  revert desktop
  decide +kernel

end TwoTabs

end BlinkerFluid.LayoutPreferences
