import BlinkerFluid.SiteMode

/-! The user agent of a tab while it signs in. The menu respects the lock; a commit
inside the flow applies the site mode of its host all the same, before the lock is
looked at, and so replaces the override where the stored flag disagrees with it. -/

namespace BlinkerFluid.UserAgentStability
open WebAddress StepRun AuthFlow SiteMode

structure AuthTab where
  flow : Flow
  site : Site
  lastCommittedURL : GURL
  posted : List PostedTask

/-- A flag may also be stored from elsewhere, by another tab on the same host. -/
inductive TabEvent
  | navigation (event : NavigationEvent)
  | loadURL (url : GURL)
  | toggleDesktopSite (visibleURL : GURL)
  | storeFlag (host : ByteString.Bytes) (desktop : Bool)
  | runPostedTask

variable (stripMwebFallback : GURL → GURL) (legacyRuntime : Bool)

def applyCommit (tab : AuthTab) : NavigationEvent → AuthTab
  | .didFinish navigation =>
    { tab with
      site := commitSiteMode tab.site navigation
      lastCommittedURL :=
        if navigation.isInPrimaryMainFrame && navigation.hasCommitted then navigation.url
        else tab.lastCommittedURL }
  | _ => tab

def runTask (tab : AuthTab) : AuthTab :=
  match tab.posted with
  | [] => tab
  | task :: rest =>
    { tab with site := (frontActions task).foldl (applyAction legacyRuntime) tab.site, posted := rest }

def tabStep (tab : AuthTab) : TabEvent → AuthTab
  | .navigation event =>
    let (flow, tasks) := navigate stripMwebFallback tab.flow event
    { applyCommit tab event with flow := flow, posted := tab.posted ++ tasks }
  | .loadURL url => { tab with site := applyLegacyGoogleAuthIdentity legacyRuntime tab.site url }
  | .toggleDesktopSite visibleURL =>
    { tab with site :=
        toggleDesktopSite legacyRuntime tab.flow tab.lastCommittedURL visibleURL tab.site }
  | .storeFlag host desktop =>
    { tab with site := { tab.site with
        preferences := writeHostFlag tab.site.preferences desktopModePrefix host desktop } }
  | .runPostedTask => runTask legacyRuntime tab

def recoveryIdentity : UserAgentOverride :=
  { uaStringOverride := authProfileUserAgent gChatGPTAuthProfile }

/-- A step leaves the override, or it is one of the two deliberate replacements. -/
def KeepsUserAgent (event : TabEvent) (before after : UserAgentOverride) : Prop :=
  after = before ∨
    ((∃ url, event = .loadURL url) ∧ after = legacyIdentity) ∨
    (event = .runPostedTask ∧ (after = recoveryIdentity ∨ after = legacyIdentity))

/-- Whenever the lock is held, the next step keeps the user agent. -/
def UserAgentStable (start : AuthTab) (events : List TabEvent) : Prop :=
  ∀ past event, past ++ [event] <+: events →
    (past.foldl (tabStep stripMwebFallback legacyRuntime) start).flow.inAuthFlow = true →
    KeepsUserAgent event
      (past.foldl (tabStep stripMwebFallback legacyRuntime) start).site.userAgentOverride
      ((past ++ [event]).foldl (tabStep stripMwebFallback legacyRuntime) start).site.userAgentOverride

/-- A commit inside the flow finds no flag for its host, or the flag of the mode it
is in. -/
def FlagAgrees (tab : AuthTab) : TabEvent → Prop
  | .navigation (.didFinish navigation) =>
    tab.flow.inAuthFlow = true → CommitsPage navigation →
      tab.site.storedFlag navigation.url = .kUnset ∨
      decide (tab.site.storedFlag navigation.url = .kTrue) = tab.site.userAgentOverride.active
  | _ => True

theorem frontActions_override (site : Site) (task : PostedTask) :
    ((frontActions task).foldl (applyAction legacyRuntime) site).userAgentOverride =
        site.userAgentOverride ∨
      ((frontActions task).foldl (applyAction legacyRuntime) site).userAgentOverride =
        recoveryIdentity ∨
      ((frontActions task).foldl (applyAction legacyRuntime) site).userAgentOverride =
        legacyIdentity := by
  cases task with
  | stopFrontShellLoad => exact .inl rfl
  | breakChatGPTMwebLoop strippedUrl =>
    right
    have profile : (authProfileUserAgent gChatGPTAuthProfile).isEmpty = false := by decide +kernel
    simp only [frontActions, profile, Bool.not_false, if_true, List.foldl_append, List.foldl_cons,
      List.foldl_nil]
    split_ifs
    · exact applyLegacyGoogleAuthIdentity_override legacyRuntime _ strippedUrl
    · exact .inl rfl

theorem navigation_override (tab : AuthTab) (event : NavigationEvent) :
    (tabStep stripMwebFallback legacyRuntime tab (.navigation event)).site.userAgentOverride =
      (applyCommit tab event).site.userAgentOverride := rfl

/-- Inside the flow a step keeps the user agent if and only if the stored flag
agrees. -/
theorem keepsUserAgent_iff (tab : AuthTab) (event : TabEvent)
    (locked : tab.flow.inAuthFlow = true) :
    KeepsUserAgent event tab.site.userAgentOverride
        (tabStep stripMwebFallback legacyRuntime tab event).site.userAgentOverride ↔
      FlagAgrees tab event := by
  cases event with
  | navigation event =>
    rw [navigation_override]
    cases event with
    | didStart navigation => exact iff_of_true (.inl rfl) trivial
    | didRedirect navigation => exact iff_of_true (.inl rfl) trivial
    | didFinish navigation =>
      simp only [KeepsUserAgent, applyCommit, commitSiteMode_override, FlagAgrees, locked,
        true_imp_iff, reduceCtorEq, exists_false, false_and, or_false]
      split_ifs with changes
      · refine iff_of_false (modeOverride_ne changes.2.2) fun agrees => ?_
        exact (agrees changes.1).elim changes.2.1 changes.2.2
      · refine iff_of_true rfl fun commits => ?_
        rw [or_iff_not_imp_left]
        intro set
        by_contra other
        exact changes ⟨commits, set, other⟩
  | loadURL url =>
    refine iff_of_true ?_ trivial
    rcases applyLegacyGoogleAuthIdentity_override legacyRuntime tab.site url with kept | legacy
    · exact .inl kept
    · exact .inr (.inl ⟨⟨url, rfl⟩, legacy⟩)
  | toggleDesktopSite visibleURL =>
    refine iff_of_true (.inl ?_) trivial
    simp only [tabStep, toggleDesktopSite, locked, if_true]
  | storeFlag host desktop => exact iff_of_true (.inl rfl) trivial
  | runPostedTask =>
    refine iff_of_true ?_ trivial
    simp only [tabStep, runTask]
    cases tab.posted with
    | nil => exact .inl rfl
    | cons task rest =>
      rcases frontActions_override legacyRuntime tab.site task with kept | replaced
      · exact .inl kept
      · exact .inr (.inr ⟨rfl, replaced⟩)

theorem userAgentStable_iff_flagAgrees (start : AuthTab) (events : List TabEvent) :
    UserAgentStable stripMwebFallback legacyRuntime start events ↔
      Permitted FlagAgrees (tabStep stripMwebFallback legacyRuntime) start events := by
  rw [permitted_iff_each]
  refine forall_congr' fun past => forall_congr' fun event => imp_congr_right fun _ => ?_
  rw [List.foldl_append, List.foldl_cons, List.foldl_nil]
  generalize past.foldl (tabStep stripMwebFallback legacyRuntime) start = tab
  by_cases locked : tab.flow.inAuthFlow = true
  · rw [imp_iff_right locked]
    exact keepsUserAgent_iff stripMwebFallback legacyRuntime tab event locked
  · refine iff_of_true (fun held => absurd held locked) ?_
    cases event with
    | navigation event =>
      cases event with
      | didFinish navigation => exact fun held => absurd held locked
      | _ => trivial
    | _ => trivial

/-- `https://chatgpt.com/` asks for its desktop site. -/
def desktopChat : AuthTab where
  flow := {}
  site :=
    { preferences := writeHostFlag (fun _ => none) desktopModePrefix "chatgpt.com".toList true
      forceDesktopSite := false
      userAgentOverride := {} }
  lastCommittedURL := GURL.none
  posted := []

def loginPage : GURL :=
  ⟨true, "https://chatgpt.com/auth/login".toList, "https".toList, "chatgpt.com".toList,
    "/auth/login".toList⟩

def loginCommit : List TabEvent :=
  [.navigation (.didStart { url := loginPage }), .navigation (.didFinish { url := loginPage })]

theorem userAgentStable_counterexample :
    ¬ UserAgentStable id false desktopChat loginCommit := by
  intro stable
  have kept := stable [.navigation (.didStart { url := loginPage })]
    (.navigation (.didFinish { url := loginPage })) (List.prefix_refl _) (by decide)
  simp only [KeepsUserAgent, reduceCtorEq, exists_false, false_and, or_false] at kept
  exact absurd kept (by decide +kernel)

end BlinkerFluid.UserAgentStability
