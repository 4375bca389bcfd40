import BlinkerFluid.UserAgentStability

/-! What a commit records for its host. Any override in force counts as the desktop mode,
whoever installed it: the sign-in on old systems and the recovery of a sign-in loop install
identities of a phone. -/

namespace BlinkerFluid.SiteRecords
open WebAddress StepRun AuthFlow SiteMode UserAgentStability

/-- After the commit of a page, a flag that was not stored before says desktop only for the
desktop user agent, and the override is the one of the stored mode. -/
structure RecordsMode (before after : Site) (url : GURL) : Prop where
  records : before.storedFlag url = .kUnset → after.storedFlag url = .kTrue →
    before.userAgentOverride.uaStringOverride = kBlinkDesktopUserAgent
  desktop : after.storedFlag url = .kTrue → after.userAgentOverride = modeOverride true
  mobile : after.storedFlag url = .kFalse → after.userAgentOverride.active = false

def CommitRecordsMode (stripMwebFallback : GURL → GURL) (legacyRuntime : Bool) (tab : AuthTab) :
    TabEvent → Prop
  | .navigation (.didFinish navigation) => CommitsPage navigation →
    RecordsMode tab.site (tabStep stripMwebFallback legacyRuntime tab
      (.navigation (.didFinish navigation))).site navigation.url
  | _ => True

/-- A commit finds no override, or the one of the desktop mode, or a host that is stored as
mobile. -/
def CommitsOwnOverride (tab : AuthTab) : TabEvent → Prop
  | .navigation (.didFinish navigation) => CommitsPage navigation →
    tab.site.userAgentOverride.active = false ∨ tab.site.userAgentOverride = modeOverride true ∨
      tab.site.storedFlag navigation.url = .kFalse
  | _ => True

theorem modeOverride_desktop : (modeOverride true).uaStringOverride = kBlinkDesktopUserAgent := by
  simp only [modeOverride, if_true]

theorem commitSiteMode_storedFlag (site : Site) {navigation : NavigationHandle}
    (commits : CommitsPage navigation) :
    (commitSiteMode site navigation).storedFlag navigation.url =
      if site.storedFlag navigation.url = .kUnset ∧ site.userAgentOverride.active = true then .kTrue
      else site.storedFlag navigation.url := by
  rw [Site.storedFlag, commitSiteMode_preferences]
  simp only [commits, true_and]
  split_ifs with records
  · rw [readHostFlag_writeHostFlag]
    rfl
  · rfl

theorem commitSiteMode_storedFlag_set {site : Site} {navigation : NavigationHandle}
    (commits : CommitsPage navigation) (set : site.storedFlag navigation.url ≠ .kUnset) :
    (commitSiteMode site navigation).storedFlag navigation.url =
      site.storedFlag navigation.url := by
  rw [commitSiteMode_storedFlag site commits, if_neg fun records => set records.1]

theorem recordsMode_of_ownOverride {site : Site} {navigation : NavigationHandle}
    (commits : CommitsPage navigation)
    (own : site.userAgentOverride.active = false ∨ site.userAgentOverride = modeOverride true ∨
      site.storedFlag navigation.url = .kFalse) :
    RecordsMode site (commitSiteMode site navigation) navigation.url := by
  have desktopActive := modeOverride_active true
  cases flag : site.storedFlag navigation.url with
  | kUnset =>
    have override : (commitSiteMode site navigation).userAgentOverride =
        site.userAgentOverride := by
      rw [commitSiteMode_override, if_neg fun changes => changes.2.1 flag]
    have stored := commitSiteMode_storedFlag site commits
    rw [flag] at stored
    rcases own with inactive | desktop | mobile
    · rw [inactive, if_neg fun records => Bool.false_ne_true records.2] at stored
      refine ⟨fun _ desktop => ?_, fun desktop => ?_, fun mobile => ?_⟩
      · exact absurd (stored.symm.trans desktop) (by decide)
      · exact absurd (stored.symm.trans desktop) (by decide)
      · exact absurd (stored.symm.trans mobile) (by decide)
    · rw [desktop, if_pos ⟨rfl, desktopActive⟩] at stored
      refine ⟨fun _ _ => ?_, fun _ => override.trans desktop, fun mobile => ?_⟩
      · rw [desktop, modeOverride_desktop]
      · exact absurd (stored.symm.trans mobile) (by decide)
    · cases flag.symm.trans mobile
  | kFalse =>
    have stored := (commitSiteMode_storedFlag_set commits (by simp [flag])).trans flag
    refine ⟨fun unset => (by cases flag.symm.trans unset), fun desktop => ?_, fun _ => ?_⟩
    · exact absurd (stored.symm.trans desktop) (by decide)
    · rw [commitSiteMode_override]
      split_ifs with changes
      · rw [flag]
        exact modeOverride_active false
      · by_contra active
        rw [Bool.not_eq_false] at active
        exact changes ⟨commits, by simp [flag], by simp [flag, active]⟩
  | kTrue =>
    have stored := (commitSiteMode_storedFlag_set commits (by simp [flag])).trans flag
    refine ⟨fun unset => (by cases flag.symm.trans unset), fun _ => ?_, fun mobile => ?_⟩
    · rw [commitSiteMode_override, flag]
      rcases own with inactive | desktop | mobile
      · rw [if_pos ⟨commits, by decide, by simp [inactive]⟩]
        rfl
      · rw [if_neg fun changes => changes.2.2 (by simp [desktop]), desktop]
      · cases flag.symm.trans mobile
    · exact absurd (stored.symm.trans mobile) (by decide)

theorem ownOverride_of_recordsMode {site : Site} {navigation : NavigationHandle}
    (commits : CommitsPage navigation)
    (records : RecordsMode site (commitSiteMode site navigation) navigation.url) :
    site.userAgentOverride.active = false ∨ site.userAgentOverride = modeOverride true ∨
      site.storedFlag navigation.url = .kFalse := by
  by_cases mobile : site.storedFlag navigation.url = .kFalse
  · exact .inr (.inr mobile)
  cases active : site.userAgentOverride.active with
  | false => exact .inl rfl
  | true =>
    refine .inr (.inl ?_)
    have stored : (commitSiteMode site navigation).storedFlag navigation.url = .kTrue := by
      cases flag : site.storedFlag navigation.url with
      | kUnset => rw [commitSiteMode_storedFlag site commits, if_pos ⟨flag, active⟩]
      | kFalse => exact absurd flag mobile
      | kTrue => exact (commitSiteMode_storedFlag_set commits (by simp [flag])).trans flag
    have kept : (commitSiteMode site navigation).userAgentOverride = site.userAgentOverride := by
      rw [commitSiteMode_override, if_neg]
      rintro ⟨-, set, changes⟩
      cases flag : site.storedFlag navigation.url with
      | kUnset => exact set flag
      | kFalse => exact mobile flag
      | kTrue => simp [flag, active] at changes
    exact kept.symm.trans (records.desktop stored)

theorem commitRecordsMode_iff (stripMwebFallback : GURL → GURL) (legacyRuntime : Bool)
    (tab : AuthTab) (event : TabEvent) :
    CommitRecordsMode stripMwebFallback legacyRuntime tab event ↔
      CommitsOwnOverride tab event := by
  cases event with
  | navigation event =>
    cases event with
    | didFinish navigation =>
      refine imp_congr_right fun commits => ?_
      exact ⟨ownOverride_of_recordsMode commits, recordsMode_of_ownOverride commits⟩
    | didStart navigation | didRedirect navigation => rfl
  | loadURL url => rfl
  | toggleDesktopSite visibleURL => rfl
  | storeFlag host desktop => rfl
  | runPostedTask => rfl

/-- Over every run of a tab, each commit records and applies the desktop identity alone
exactly if it finds no other one in force, unless its host is stored as mobile. -/
theorem desktopMode_recorded_iff (stripMwebFallback : GURL → GURL) (legacyRuntime : Bool)
    (start : AuthTab) (events : List TabEvent) :
    Permitted (CommitRecordsMode stripMwebFallback legacyRuntime)
        (tabStep stripMwebFallback legacyRuntime) start events ↔
      Permitted CommitsOwnOverride (tabStep stripMwebFallback legacyRuntime) start events := by
  rw [permitted_iff_each, permitted_iff_each]
  refine forall_congr' fun past => forall_congr' fun event => imp_congr_right fun _ => ?_
  exact commitRecordsMode_iff stripMwebFallback legacyRuntime _ event

/-- No override, or the one of the desktop mode. -/
def OwnOverride (tab : AuthTab) : Prop :=
  tab.site.userAgentOverride.active = false ∨ tab.site.userAgentOverride = modeOverride true

theorem ownOverride_mode {tab : AuthTab} {desktop : Bool}
    (mode : tab.site.userAgentOverride = modeOverride desktop) : OwnOverride tab := by
  cases desktop with
  | false => exact .inl (mode ▸ modeOverride_active false)
  | true => exact .inr mode

theorem ownOverride_step (stripMwebFallback : GURL → GURL) {tab : AuthTab} {event : TabEvent}
    (own : OwnOverride tab) (calm : event ≠ .runPostedTask) :
    OwnOverride (tabStep stripMwebFallback false tab event) := by
  have modern (site : Site) (url : GURL) : applyLegacyGoogleAuthIdentity false site url = site :=
    if_pos (Bool.or_true _)
  cases event with
  | navigation event =>
    cases event with
    | didFinish navigation =>
      have override := commitSiteMode_override tab.site navigation
      split_ifs at override with changes
      · exact ownOverride_mode override
      · rw [OwnOverride, ← override] at own
        exact own
    | didStart navigation | didRedirect navigation => exact own
  | loadURL url =>
    rw [tabStep, modern]
    exact own
  | toggleDesktopSite visibleURL =>
    by_cases locked : tab.flow.inAuthFlow = true
    · simpa only [tabStep, toggleDesktopSite, locked, if_true] using own
    · have switched : (tabStep stripMwebFallback false tab
          (.toggleDesktopSite visibleURL)).site.userAgentOverride =
            modeOverride (!tab.site.userAgentOverride.active) := by
        simp only [tabStep, toggleDesktopSite, locked, modern, ite_self, Bool.false_eq_true,
          if_false]
      exact ownOverride_mode switched
  | storeFlag host desktop => exact own
  | runPostedTask => exact absurd rfl calm

/-- On a system that is not old, and without a recovery, nothing installs another override. -/
theorem commitsOwnOverride_modern (stripMwebFallback : GURL → GURL) (start : AuthTab)
    (own : OwnOverride start) (events : List TabEvent)
    (calm : ∀ event ∈ events, event ≠ .runPostedTask) :
    Permitted CommitsOwnOverride (tabStep stripMwebFallback false) start events := by
  induction events generalizing start with
  | nil => trivial
  | cons event events ih =>
    refine ⟨?_, ih _ (ownOverride_step stripMwebFallback own (calm event List.mem_cons_self))
      fun event mem => calm event (List.mem_cons_of_mem _ mem)⟩
    cases event with
    | navigation event =>
      cases event with
      | didFinish navigation => exact fun _ => own.imp_right .inl
      | didStart navigation | didRedirect navigation => trivial
    | loadURL url => trivial
    | toggleDesktopSite visibleURL => trivial
    | storeFlag host desktop => trivial
    | runPostedTask => trivial

/-- A tab that has just been opened, on a fresh install. -/
def freshTab : AuthTab where
  flow := {}
  site := { preferences := fun _ => none, forceDesktopSite := false, userAgentOverride := {} }
  lastCommittedURL := GURL.none
  posted := []

def accountPage : GURL :=
  ⟨true, "https://accounts.google.com/".toList, "https".toList, "accounts.google.com".toList,
    "/".toList⟩

/-- On an old system the account page is stored as desktop with the identity of a phone. -/
theorem accountPage_misrecorded : ¬ ∀ stripMwebFallback legacyRuntime start events,
    Permitted (CommitRecordsMode stripMwebFallback legacyRuntime)
      (tabStep stripMwebFallback legacyRuntime) start events := by
  intro recorded
  have commit := (recorded id true freshTab
    [.loadURL accountPage, .navigation (.didFinish { url := accountPage })]).2.1
  have own := (commitRecordsMode_iff id true _ _).mp commit (by decide)
  revert own
  decide +kernel

end BlinkerFluid.SiteRecords
