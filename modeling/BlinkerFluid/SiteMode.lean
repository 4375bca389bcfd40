import BlinkerFluid.AuthFlow
import Mathlib.Logic.Function.Basic

/-! The site mode of a tab: the per-host flags in the user defaults, the user-agent
override of the web contents and the desktop layout switch. A commit restores the
mode stored for its host; the menu toggles it unless an authentication flow is on;
a load and the mobile-web recovery may replace the override. -/

namespace BlinkerFluid.SiteMode
open ByteString WebAddress AuthFlow

inductive PrefValue
  | boolean (value : Bool)
  | number (value : ℤ)
  | other
  deriving DecidableEq

abbrev HostPreferences := Bytes → Option PrefValue

def hostPreferenceKey (pre host : Bytes) : Bytes := pre ++ host

inductive HostFlag
  | kUnset
  | kFalse
  | kTrue
  deriving DecidableEq

/-- A value that is no boolean says nothing about the host. -/
def readHostFlag (preferences : HostPreferences) (pre host : Bytes) : HostFlag :=
  match preferences (hostPreferenceKey pre host) with
  | some (.boolean true) => .kTrue
  | some (.boolean false) => .kFalse
  | _ => .kUnset

def writeHostFlag (preferences : HostPreferences) (pre host : Bytes) (set : Bool) :
    HostPreferences :=
  Function.update preferences (hostPreferenceKey pre host) (some (.boolean set))

def desktopModePrefix : Bytes := "BlinkDesktopMode_".toList

/-- What the site mode changes of the shell's metadata, and what else it holds. -/
structure UserAgentMetadata where
  platform : Bytes := "Android".toList
  platformVersion : Bytes := "15.0.0".toList
  architecture : Bytes := "arm".toList
  model : Bytes := "Pixel 8".toList
  mobile : Bool := true
  deriving DecidableEq

def getShellUserAgentMetadata : UserAgentMetadata := {}

def getShellUserAgentMetadataForSiteMode (desktop : Bool) : UserAgentMetadata :=
  if desktop then
    { getShellUserAgentMetadata with
      platform := "macOS".toList
      platformVersion := "10_15_7".toList
      architecture := "x86".toList
      model := []
      mobile := false }
  else getShellUserAgentMetadata

structure UserAgentOverride where
  uaStringOverride : Bytes := []
  uaMetadataOverride : Option UserAgentMetadata := none
  deriving DecidableEq

def UserAgentOverride.active (override : UserAgentOverride) : Bool :=
  !override.uaStringOverride.isEmpty

def kBlinkDesktopUserAgent : Bytes :=
  ("Mozilla/5.0 (Macintosh; Intel Mac OS X 10_15_7) AppleWebKit/537.36 " ++
    "(KHTML, like Gecko) Chrome/149.0.0.0 Safari/537.36").toList

def kGoogleLegacySafariUA : Bytes :=
  ("Mozilla/5.0 (iPhone; CPU iPhone OS 17_5 like Mac OS X) " ++
    "AppleWebKit/605.1.15 (KHTML, like Gecko) Version/17.5 Mobile/15E148 " ++
    "Safari/604.1").toList

def modeOverride (desktop : Bool) : UserAgentOverride :=
  if desktop then
    { uaStringOverride := kBlinkDesktopUserAgent
      uaMetadataOverride := some (getShellUserAgentMetadataForSiteMode true) }
  else {}

def legacyIdentity : UserAgentOverride := { uaStringOverride := kGoogleLegacySafariUA }

structure Site where
  preferences : HostPreferences
  forceDesktopSite : Bool
  userAgentOverride : UserAgentOverride

def blinkApplySiteMode (site : Site) (url : GURL) : Site :=
  if !url.schemeIsHTTPOrHTTPS || url.host.isEmpty then site
  else
    let stored := readHostFlag site.preferences desktopModePrefix url.host
    let active := site.userAgentOverride.active
    if stored = .kUnset then
      -- no opinion for this host: an active override is recorded for it
      { site with
        preferences := if active then writeHostFlag site.preferences desktopModePrefix url.host true
          else site.preferences
        forceDesktopSite := active }
    else
      let desktop := decide (stored = .kTrue)
      if desktop = active then { site with forceDesktopSite := desktop }
      else { site with forceDesktopSite := desktop, userAgentOverride := modeOverride desktop }

/-- A Google account page on a legacy system gets a mobile Safari identity. -/
def applyLegacyGoogleAuthIdentity (legacyRuntime : Bool) (site : Site) (url : GURL) : Site :=
  if url.host ≠ "accounts.google.com".toList || !legacyRuntime then site
  else if site.userAgentOverride.uaStringOverride = kGoogleLegacySafariUA then site
  else { site with userAgentOverride := legacyIdentity }

/-- The menu button. The page it stands on is reloaded in the new mode. -/
def toggleDesktopSite (legacyRuntime : Bool) (flow : Flow) (lastCommittedURL visibleURL : GURL)
    (site : Site) : Site :=
  if flow.inAuthFlow then site
  else
    let setDesktop := !site.userAgentOverride.active
    let site : Site :=
      { preferences :=
          writeHostFlag site.preferences desktopModePrefix lastCommittedURL.host setDesktop
        forceDesktopSite := setDesktop
        userAgentOverride := modeOverride setDesktop }
    let current := if !lastCommittedURL.isValid then visibleURL else lastCommittedURL
    if current.isValid && current.schemeIsHTTPOrHTTPS then
      applyLegacyGoogleAuthIdentity legacyRuntime site current
    else site

def applyAction (legacyRuntime : Bool) (site : Site) : TabAction → Site
  | .setUserAgentOverride userAgent =>
    { site with userAgentOverride := { uaStringOverride := userAgent } }
  | .stop => site
  | .loadURL url => applyLegacyGoogleAuthIdentity legacyRuntime site url

/-- A commit of the main frame that shows a page applies the site mode. -/
def commitSiteMode (site : Site) (navigation : NavigationHandle) : Site :=
  if navigation.isInPrimaryMainFrame && navigation.hasCommitted && !navigation.isErrorPage then
    blinkApplySiteMode site navigation.url
  else site

/-- A commit that looks the flag of its host up. -/
def CommitsPage (navigation : NavigationHandle) : Prop :=
  navigation.isInPrimaryMainFrame = true ∧ navigation.hasCommitted = true ∧
    navigation.isErrorPage = false ∧ navigation.url.schemeIsHTTPOrHTTPS = true ∧
    navigation.url.host ≠ []

instance (navigation : NavigationHandle) : Decidable (CommitsPage navigation) :=
  inferInstanceAs (Decidable (_ ∧ _ ∧ _ ∧ _ ∧ _))

def Site.storedFlag (site : Site) (url : GURL) : HostFlag :=
  readHostFlag site.preferences desktopModePrefix url.host

@[simp] theorem modeOverride_active (desktop : Bool) : (modeOverride desktop).active = desktop := by
  cases desktop
  · rfl
  · decide +kernel

theorem modeOverride_ne {override : UserAgentOverride} {desktop : Bool}
    (other : desktop ≠ override.active) : modeOverride desktop ≠ override := by
  rintro rfl
  exact other (modeOverride_active desktop).symm

theorem commitSiteMode_of_not_commitsPage {site : Site} {navigation : NavigationHandle}
    (elsewhere : ¬ CommitsPage navigation) : commitSiteMode site navigation = site := by
  unfold commitSiteMode blinkApplySiteMode
  split_ifs with commits skip
  · rfl
  all_goals try rfl
  all_goals
    refine absurd ?_ elsewhere
    simp only [Bool.and_eq_true, Bool.not_eq_true', Bool.or_eq_true, not_or,
      Bool.not_eq_false, List.isEmpty_iff] at commits skip
    exact ⟨commits.1.1, commits.1.2, commits.2, skip.1, skip.2⟩

theorem CommitsPage.page {navigation : NavigationHandle} (commits : CommitsPage navigation) :
    (!navigation.url.schemeIsHTTPOrHTTPS || navigation.url.host.isEmpty) = false := by
  simp [commits.2.2.2.1, commits.2.2.2.2]

theorem commitSiteMode_of_commitsPage {site : Site} {navigation : NavigationHandle}
    (commits : CommitsPage navigation) :
    commitSiteMode site navigation = blinkApplySiteMode site navigation.url := by
  simp [commitSiteMode, commits.1, commits.2.1, commits.2.2.1]

theorem commitSiteMode_override (site : Site) (navigation : NavigationHandle) :
    (commitSiteMode site navigation).userAgentOverride =
      if CommitsPage navigation ∧ site.storedFlag navigation.url ≠ .kUnset ∧
          decide (site.storedFlag navigation.url = .kTrue) ≠ site.userAgentOverride.active then
        modeOverride (decide (site.storedFlag navigation.url = .kTrue))
      else site.userAgentOverride := by
  by_cases commits : CommitsPage navigation
  · rw [commitSiteMode_of_commitsPage commits]
    simp only [blinkApplySiteMode, commits.page, Bool.false_eq_true, if_false, commits, true_and,
      Site.storedFlag]
    by_cases unset : readHostFlag site.preferences desktopModePrefix navigation.url.host = .kUnset
    · rw [if_pos unset]
      exact (if_neg fun changes => changes.1 unset).symm
    rw [if_neg unset]
    split_ifs with agrees disagrees disagrees
    · exact absurd agrees disagrees.2
    · rfl
    · rfl
    · exact absurd ⟨unset, agrees⟩ disagrees
  · rw [commitSiteMode_of_not_commitsPage commits, if_neg fun h => commits h.1]

theorem commitSiteMode_preferences (site : Site) (navigation : NavigationHandle) :
    (commitSiteMode site navigation).preferences =
      if CommitsPage navigation ∧ site.storedFlag navigation.url = .kUnset ∧
          site.userAgentOverride.active = true then
        writeHostFlag site.preferences desktopModePrefix navigation.url.host true
      else site.preferences := by
  by_cases commits : CommitsPage navigation
  · rw [commitSiteMode_of_commitsPage commits]
    simp only [blinkApplySiteMode, commits.page, Bool.false_eq_true, if_false, commits, true_and,
      Site.storedFlag]
    by_cases unset : readHostFlag site.preferences desktopModePrefix navigation.url.host = .kUnset
    · simp only [unset, if_true, true_and]
    · rw [if_neg unset]
      split_ifs with agrees records records
      · exact absurd records.1 unset
      · rfl
      · exact absurd records.1 unset
      · rfl
  · rw [commitSiteMode_of_not_commitsPage commits, if_neg fun h => commits h.1]

theorem readHostFlag_writeHostFlag (preferences : HostPreferences) (pre host : Bytes) (set : Bool) :
    readHostFlag (writeHostFlag preferences pre host set) pre host =
      if set then .kTrue else .kFalse := by
  simp only [readHostFlag, writeHostFlag, Function.update_self]
  cases set <;> rfl

theorem applyLegacyGoogleAuthIdentity_override (legacyRuntime : Bool) (site : Site) (url : GURL) :
    (applyLegacyGoogleAuthIdentity legacyRuntime site url).userAgentOverride =
        site.userAgentOverride ∨
      (applyLegacyGoogleAuthIdentity legacyRuntime site url).userAgentOverride =
        legacyIdentity := by
  unfold applyLegacyGoogleAuthIdentity
  split_ifs
  · exact .inl rfl
  · exact .inl rfl
  · exact .inr rfl

end BlinkerFluid.SiteMode
