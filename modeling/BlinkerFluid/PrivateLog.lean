import BlinkerFluid.NavigationLog

/-! The boot log of two private runs whose navigations differ in their URLs only.
The lines tell the class of a committed page apart, which the log is there for: what
its host is to the keyboard, and which site mode is stored for it. Up to these
classes the two logs agree in every line that the loop detector has not written. -/

namespace BlinkerFluid.PrivateLog
open ByteString WebAddress StepRun AuthFlow SiteMode NavigationLog

/-- Two navigations alike in all but their URLs, and classified alike. -/
structure SameButURLs (a b : NavigationHandle) : Prop where
  isInPrimaryMainFrame : a.isInPrimaryMainFrame = b.isInPrimaryMainFrame
  isPost : a.isPost = b.isPost
  initiator : a.initiatorOrigin.isSome = b.initiatorOrigin.isSome
  chain : a.redirectChain.length = b.redirectChain.length
  hasCommitted : a.hasCommitted = b.hasCommitted
  isErrorPage : a.isErrorPage = b.isErrorPage
  netErrorCode : a.netErrorCode = b.netErrorCode
  auth : isAuthFlowURL a.url = isAuthFlowURL b.url
  fallback : isChatGPTMwebFallback a.url = isChatGPTMwebFallback b.url
  site : thirdParty a = thirdParty b

def SameEvent : LogEvent × LogEvent → Prop
  | (.didStart now a, .didStart now' b) => now = now' ∧ SameButURLs a b
  | (.didRedirect now a, .didRedirect now' b) => now = now' ∧ SameButURLs a b
  | (.didFinish a, .didFinish b) => SameButURLs a b
  | (.cookiesFlushed, .cookiesFlushed) => True
  | (.cookiesListed cookies, .cookiesListed cookies') => cookies = cookies'
  | _ => False

def eventURL : LogEvent → Option GURL
  | .didStart _ navigation => some navigation.url
  | .didRedirect _ navigation => some navigation.url
  | .didFinish navigation => some navigation.url
  | _ => none

def eventSpecs (pair : LogEvent × LogEvent) : Option (Bytes × Bytes) :=
  match eventURL pair.1, eventURL pair.2 with
  | some url, some url' => some (url.spec, url'.spec)
  | _, _ => none

def SamePattern (specs : List (Bytes × Bytes)) : Prop :=
  ∀ p ∈ specs, ∀ q ∈ specs, p.1 = q.1 ↔ p.2 = q.2

variable (diagnostics : Bool) (stripMwebFallback : GURL → GURL)

def privateRun (site : Site) (events : List LogEvent) : Process :=
  events.foldl (logStep ⟨diagnostics, true⟩ stripMwebFallback) { site := site }

/-- Private runs that differ in their URLs only write the same log. -/
def LogHidesURLs (site : Site) : Prop :=
  ∀ pairs : List (LogEvent × LogEvent),
    (∀ pair ∈ pairs, SameEvent pair) → SamePattern (pairs.filterMap eventSpecs) →
    (privateRun diagnostics stripMwebFallback site (pairs.map Prod.fst)).log =
      (privateRun diagnostics stripMwebFallback site (pairs.map Prod.snd)).log

def pairStep (state : Process × Process) (pair : LogEvent × LogEvent) : Process × Process :=
  (logStep ⟨diagnostics, true⟩ stripMwebFallback state.1 pair.1,
    logStep ⟨diagnostics, true⟩ stripMwebFallback state.2 pair.2)

/-- Two commits of one class: a host or none, a chat page or none, a page with a site
mode or none, and the same mode stored for it. -/
structure SameClass (p q : Process) (a b : NavigationHandle) : Prop where
  host : a.url.host.isEmpty = b.url.host.isEmpty
  chat : isChatPage a.url = isChatPage b.url
  page : CommitsPage a ↔ CommitsPage b
  stored : CommitsPage a → p.site.storedFlag a.url = q.site.storedFlag b.url

def ClassAgrees (state : Process × Process) : LogEvent × LogEvent → Prop
  | (.didFinish a, .didFinish b) =>
    a.isInPrimaryMainFrame = true → a.hasCommitted = true → SameClass state.1 state.2 a b
  | _ => True

/-- The two processes tell no URLs apart: their rings hold the URLs of the same
places. -/
structure Alike (specs : List (Bytes × Bytes)) (p q : Process) : Prop where
  flow : p.flow = q.flow
  head : p.recent.head = q.recent.head
  times : p.recent.times = q.recent.times
  urls : ∀ i, p.recent.times i ≠ none → (p.recent.urls i, q.recent.urls i) ∈ specs
  active : p.site.userAgentOverride.active = q.site.userAgentOverride.active
  outside : p.log.filter (!·.fromDetector) = q.log.filter (!·.fromDetector)
  detector : p.log.any (·.fromDetector) = q.log.any (·.fromDetector)

variable {specs : List (Bytes × Bytes)} {p q : Process}

theorem diag_alike (alike : Alike specs p q) {texts texts' : List Bytes}
    (same : texts = texts') (settings : LogSettings) :
    Alike specs (diag settings false texts p) (diag settings false texts' q) := by
  subst same
  unfold diag
  split
  · exact { alike with
      outside := by simp only [List.filter_append, alike.outside]
      detector := by simp only [List.any_append, alike.detector] }
  · exact alike

/-- Whatever the detector writes stands outside of the comparison. -/
theorem diag_detector_alike (alike : Alike specs p q) (settings : LogSettings)
    {texts texts' : List Bytes} (any : texts ≠ []) (any' : texts' ≠ []) :
    Alike specs (diag settings true texts p) (diag settings true texts' q) := by
  have outside (texts : List Bytes) :
      (texts.map fun text => (⟨true, text⟩ : LogLine)).filter (!·.fromDetector) = [] := by
    simp [List.filter_map, Function.comp_def]
  have inside {texts : List Bytes} (ne : texts ≠ []) :
      (texts.map fun text => (⟨true, text⟩ : LogLine)).any (·.fromDetector) = true := by
    obtain ⟨text, mem⟩ := List.exists_mem_of_ne_nil _ ne
    exact List.any_eq_true.mpr ⟨⟨true, text⟩, List.mem_map_of_mem mem, rfl⟩
  unfold diag
  split
  · exact { alike with
      outside := by simp only [List.filter_append, outside, alike.outside]
      detector := by simp only [List.any_append, inside any, inside any', Bool.or_true] }
  · exact alike

theorem repeats_alike {recent recent' : RecentAuth} {spec spec' : Bytes} (now : ℕ)
    (pattern : SamePattern specs) (times : recent.times = recent'.times)
    (urls : ∀ i, recent.times i ≠ none → (recent.urls i, recent'.urls i) ∈ specs)
    (mem : (spec, spec') ∈ specs) : recent.repeats now spec = recent'.repeats now spec' := by
  unfold RecentAuth.repeats
  refine List.countP_congr fun i _ => ?_
  have held := urls i
  rw [← times]
  cases time : recent.times i with
  | none => rfl
  | some time =>
    rw [time] at held
    have equal := pattern _ (held nofun) _ mem
    simp only [Bool.and_eq_true, decide_eq_true_eq]
    exact and_congr_right fun _ => equal

theorem recordAuth_alike (alike : Alike specs p q) (settings : LogSettings) (now : ℕ)
    {url url' : GURL} (pattern : SamePattern specs) (mem : (url.spec, url'.spec) ∈ specs) :
    Alike specs (recordAuthUrlAndDetectLoop settings now url p)
      (recordAuthUrlAndDetectLoop settings now url' q) := by
  have times : (p.recent.record now url.spec).times = (q.recent.record now url'.spec).times := by
    simp only [RecentAuth.record, alike.head, alike.times]
  have urls : ∀ i, (p.recent.record now url.spec).times i ≠ none →
      ((p.recent.record now url.spec).urls i, (q.recent.record now url'.spec).urls i)
        ∈ specs := by
    intro i held
    by_cases new : i = q.recent.head
    · simp only [RecentAuth.record, alike.head, new, Function.update_self]
      exact mem
    · simp only [RecentAuth.record, alike.head, Function.update_of_ne new] at held ⊢
      exact alike.urls i held
  have recorded : Alike specs { p with recent := p.recent.record now url.spec }
      { q with recent := q.recent.record now url'.spec } :=
    { alike with
      head := by simp only [RecentAuth.record, alike.head]
      times := times
      urls := urls }
  simp only [recordAuthUrlAndDetectLoop]
  rw [repeats_alike now pattern times urls mem]
  split
  · exact diag_detector_alike recorded settings (by simp [loopTexts]) (by simp [loopTexts])
  · exact recorded

section Texts

variable {a b : NavigationHandle} (same : SameButURLs a b)

include same

theorem startTexts_same : startTexts ⟨diagnostics, true⟩ a = startTexts ⟨diagnostics, true⟩ b := by
  simp only [startTexts, loggableURLSpec, same.isPost, same.isInPrimaryMainFrame, same.site, if_true]

theorem redirectTexts_same :
    redirectTexts ⟨diagnostics, true⟩ a = redirectTexts ⟨diagnostics, true⟩ b := by
  have source : (redirectSource a.redirectChain).isSome = (redirectSource b.redirectChain).isSome := by
    unfold redirectSource
    rw [same.chain]
    split
    · rw [Bool.eq_iff_iff, isSome_getElem?, isSome_getElem?, same.chain]
    · rfl
  simp only [redirectTexts, loggableURLSpec, if_true, same.chain]
  cases from_ : redirectSource a.redirectChain <;> cases from' : redirectSource b.redirectChain <;>
    simp_all

theorem fallbackTexts_same (flow : Flow) : fallbackTexts flow a = fallbackTexts flow b := by
  simp only [fallbackTexts, same.fallback, same.chain]

theorem finishTexts_same :
    finishTexts ⟨diagnostics, true⟩ a = finishTexts ⟨diagnostics, true⟩ b := by
  have indices (n : ℕ) (chain : List GURL) :
      (chain.zipIdx.drop n).map (fun (entry : GURL × ℕ) =>
          "AUTH_FLOW:   [".toList ++ number entry.2 ++ "]=".toList ++ redacted) =
        ((List.range' 0 chain.length).drop n).map fun i =>
          "AUTH_FLOW:   [".toList ++ number i ++ "]=".toList ++ redacted := by
    rw [← List.zipIdx_map_snd, ← List.map_drop, List.map_map]
    rfl
  simp only [finishTexts, tooManyRedirectsTexts, loggableURLSpec, if_true, same.netErrorCode]
  rw [indices, indices, same.chain]

end Texts

theorem keyboardTexts_same {url url' : GURL} (host : url.host.isEmpty = url'.host.isEmpty)
    (chat : isChatPage url = isChatPage url') :
    keyboardTexts ⟨diagnostics, true⟩ url = keyboardTexts ⟨diagnostics, true⟩ url' := by
  simp only [keyboardTexts, host, chat, if_true]

theorem siteModeTexts_same {a b : NavigationHandle}
    (active : p.site.userAgentOverride.active = q.site.userAgentOverride.active)
    (classes : SameClass p q a b) : siteModeTexts p.site a = siteModeTexts q.site b := by
  by_cases page : CommitsPage a
  · simp only [siteModeTexts, classes.stored page, active, classes.page]
  · simp only [siteModeTexts, page, classes.page.not.mp page, false_and, if_false]

theorem commitSiteMode_active_same {a b : NavigationHandle}
    (active : p.site.userAgentOverride.active = q.site.userAgentOverride.active)
    (classes : SameClass p q a b) :
    (commitSiteMode p.site a).userAgentOverride.active =
      (commitSiteMode q.site b).userAgentOverride.active := by
  rw [commitSiteMode_override, commitSiteMode_override]
  by_cases page : CommitsPage a
  · simp only [classes.stored page, active, classes.page]
    split
    · rfl
    · exact active
  · simp only [page, classes.page.not.mp page, false_and, if_false, active]

theorem applyCommit_alike (alike : Alike specs p q) {a b : NavigationHandle}
    (same : SameButURLs a b) (classes : a.hasCommitted = true → SameClass p q a b) :
    Alike specs (applyCommit ⟨diagnostics, true⟩ a p) (applyCommit ⟨diagnostics, true⟩ b q) := by
  unfold applyCommit
  rw [← same.hasCommitted]
  by_cases committed : a.hasCommitted = true
  · have classes := classes committed
    have keyboard : Alike specs (updateKeyboardChatFallback ⟨diagnostics, true⟩ a.url p)
        (updateKeyboardChatFallback ⟨diagnostics, true⟩ b.url q) := by
      unfold updateKeyboardChatFallback
      refine diag_alike ?_ (keyboardTexts_same diagnostics classes.host classes.chat) _
      rw [← classes.host]
      split
      · exact alike
      · exact { alike with }
    have site (p : Process) (url : GURL) :
        (updateKeyboardChatFallback ⟨diagnostics, true⟩ url p).site = p.site := by
      unfold updateKeyboardChatFallback
      rw [diag_site]
      split <;> rfl
    simp only [committed, Bool.not_true, Bool.false_eq_true, if_false, diag_site, site]
    exact { diag_alike keyboard (siteModeTexts_same alike.active classes) ⟨diagnostics, true⟩ with
      active := commitSiteMode_active_same alike.active classes }
  · simp only [committed, Bool.not_false, if_true]
    exact alike

theorem didStart_alike (alike : Alike specs p q) (pattern : SamePattern specs) (now : ℕ)
    {a b : NavigationHandle} (same : SameButURLs a b) (mem : (a.url.spec, b.url.spec) ∈ specs) :
    Alike specs (logStep ⟨diagnostics, true⟩ stripMwebFallback p (.didStart now a))
      (logStep ⟨diagnostics, true⟩ stripMwebFallback q (.didStart now b)) := by
  simp only [logStep, ← same.isInPrimaryMainFrame, ← same.auth]
  split
  · exact alike
  split
  · exact alike
  · refine recordAuth_alike (diag_alike ?_ (startTexts_same diagnostics same) _) _ now pattern mem
    have flow : didStartNavigation p.flow a = didStartNavigation q.flow b := by
      simp only [didStartNavigation, same.isInPrimaryMainFrame, same.auth, alike.flow]
    exact { alike with flow := flow }

theorem didRedirect_alike (alike : Alike specs p q) (pattern : SamePattern specs) (now : ℕ)
    {a b : NavigationHandle} (same : SameButURLs a b) (mem : (a.url.spec, b.url.spec) ∈ specs) :
    Alike specs (logStep ⟨diagnostics, true⟩ stripMwebFallback p (.didRedirect now a))
      (logStep ⟨diagnostics, true⟩ stripMwebFallback q (.didRedirect now b)) := by
  simp only [logStep, ← same.isInPrimaryMainFrame, ← same.auth, ← alike.flow]
  split
  · exact alike
  split
  · exact alike
  · have recorded := recordAuth_alike
      (diag_alike alike (redirectTexts_same diagnostics same) ⟨diagnostics, true⟩)
      ⟨diagnostics, true⟩ now pattern mem
    have fallback := diag_alike recorded
      ((fallbackTexts_same same _).trans (congrArg (fallbackTexts · b) recorded.flow))
      ⟨diagnostics, true⟩
    refine { fallback with flow := ?_ }
    rw [didRedirectNavigation_eq, didRedirectNavigation_eq, fallback.flow]
    simp only [atBreaker, toFallback, same.isInPrimaryMainFrame, same.fallback, same.chain]

theorem didFinish_alike (alike : Alike specs p q) {a b : NavigationHandle}
    (same : SameButURLs a b) (classes : ClassAgrees (p, q) (.didFinish a, .didFinish b)) :
    Alike specs (logStep ⟨diagnostics, true⟩ stripMwebFallback p (.didFinish a))
      (logStep ⟨diagnostics, true⟩ stripMwebFallback q (.didFinish b)) := by
  simp only [logStep, ← same.isInPrimaryMainFrame, ← same.auth, applyCommit_flow, ← alike.flow]
  by_cases frame : a.isInPrimaryMainFrame = true
  · have committed := applyCommit_alike diagnostics alike same (classes frame)
    simp only [frame, Bool.not_true, Bool.false_eq_true, if_false]
    split
    · exact committed
    · have finished := diag_alike committed (finishTexts_same diagnostics same) ⟨diagnostics, true⟩
      refine { finished with flow := ?_ }
      rw [diag_flow, diag_flow, applyCommit_flow, applyCommit_flow, alike.flow]
      simp only [didFinishNavigation, same.isInPrimaryMainFrame, same.auth]
  · simp only [frame, Bool.not_false, if_true]
    exact alike

theorem pairStep_alike (pattern : SamePattern specs) (state : Process × Process)
    (pair : LogEvent × LogEvent) (alike : Alike specs state.1 state.2) (same : SameEvent pair)
    (mem : ∀ spec ∈ eventSpecs pair, spec ∈ specs) (classes : ClassAgrees state pair) :
    Alike specs (pairStep diagnostics stripMwebFallback state pair).1
      (pairStep diagnostics stripMwebFallback state pair).2 := by
  obtain ⟨p, q⟩ := state
  obtain ⟨event, event'⟩ := pair
  cases event with
  | didStart now a =>
    cases event' with
    | didStart _ b =>
      obtain ⟨rfl, same⟩ := same
      exact didStart_alike diagnostics stripMwebFallback alike pattern now same (mem _ rfl)
    | _ => exact same.elim
  | didRedirect now a =>
    cases event' with
    | didRedirect _ b =>
      obtain ⟨rfl, same⟩ := same
      exact didRedirect_alike diagnostics stripMwebFallback alike pattern now same (mem _ rfl)
    | _ => exact same.elim
  | didFinish a =>
    cases event' with
    | didFinish b => exact didFinish_alike diagnostics stripMwebFallback alike same classes
    | _ => exact same.elim
  | cookiesFlushed =>
    cases event' with
    | cookiesFlushed => exact diag_alike alike rfl _
    | _ => exact same.elim
  | cookiesListed cookies =>
    cases event' with
    | cookiesListed _ =>
      obtain rfl := same
      exact diag_alike alike rfl _
    | _ => exact same.elim

def PairAlike (specs : List (Bytes × Bytes)) (state : Process × Process) : Prop :=
  Alike specs state.1 state.2

theorem runs_alike (site : Site) (pairs : List (LogEvent × LogEvent))
    (same : ∀ pair ∈ pairs, SameEvent pair) (pattern : SamePattern (pairs.filterMap eventSpecs))
    (classes : Permitted ClassAgrees (pairStep diagnostics stripMwebFallback)
      ({ site := site }, { site := site }) pairs) :
    Alike (pairs.filterMap eventSpecs)
      (privateRun diagnostics stripMwebFallback site (pairs.map Prod.fst))
      (privateRun diagnostics stripMwebFallback site (pairs.map Prod.snd)) := by
  have each : ∀ pair ∈ pairs,
      SameEvent pair ∧ ∀ spec ∈ eventSpecs pair, spec ∈ pairs.filterMap eventSpecs :=
    fun pair mem => ⟨same pair mem, fun spec at_ => List.mem_filterMap.mpr ⟨pair, mem, at_⟩⟩
  have start : Alike (pairs.filterMap eventSpecs) { site := site } { site := site } :=
    ⟨rfl, rfl, rfl, fun _ held => absurd rfl held, rfl, rfl, rfl⟩
  have run : PairAlike (pairs.filterMap eventSpecs) (pairs.foldl
      (pairStep diagnostics stripMwebFallback) ({ site := site }, { site := site })) :=
    invariant_run (fun state pair alike ok => pairStep_alike diagnostics stripMwebFallback pattern
      state pair alike ok.2.1 ok.2.2 ok.1) _ pairs start (permitted_and_mem _ pairs classes each)
  have sides : pairs.foldl (pairStep diagnostics stripMwebFallback)
      ({ site := site }, { site := site }) =
      (privateRun diagnostics stripMwebFallback site (pairs.map Prod.fst),
        privateRun diagnostics stripMwebFallback site (pairs.map Prod.snd)) :=
    foldl_prod _ _ _ _ pairs
  rwa [sides] at run

/-- Two private runs whose navigations differ in their URLs only, and commit pages
of the same classes, write the same lines outside of the loop detector, and the same
log altogether if the detector reports no loop. -/
theorem privateLog_alike (site : Site) (pairs : List (LogEvent × LogEvent))
    (same : ∀ pair ∈ pairs, SameEvent pair) (pattern : SamePattern (pairs.filterMap eventSpecs))
    (classes : Permitted ClassAgrees (pairStep diagnostics stripMwebFallback)
      ({ site := site }, { site := site }) pairs) :
    let first := privateRun diagnostics stripMwebFallback site (pairs.map Prod.fst)
    let second := privateRun diagnostics stripMwebFallback site (pairs.map Prod.snd)
    first.log.filter (!·.fromDetector) = second.log.filter (!·.fromDetector) ∧
      ((∀ line ∈ first.log, line.fromDetector = false) → first.log = second.log) := by
  intro first second
  have alike : Alike _ first second :=
    runs_alike diagnostics stripMwebFallback site pairs same pattern classes
  refine ⟨alike.outside, fun quiet => ?_⟩
  have quiet' : ∀ line ∈ second.log, line.fromDetector = false := by
    have silent : first.log.any (·.fromDetector) = false := by
      rw [List.any_eq_false]
      exact fun line mem => by simp [quiet line mem]
    rw [alike.detector, List.any_eq_false] at silent
    exact fun line mem => Bool.eq_false_iff.mpr (silent line mem)
  have whole {log : List LogLine} (none : ∀ line ∈ log, line.fromDetector = false) :
      log.filter (!·.fromDetector) = log :=
    List.filter_eq_self.mpr fun line mem => by simp [none line mem]
  rw [← whole quiet, ← whole quiet', alike.outside]

def noSite : Site := ⟨fun _ => none, false, {}⟩

/-- `https://accounts.google.com/a` and `/b`. -/
def signInPages : GURL × GURL :=
  (⟨true, "https://accounts.google.com/a".toList, "https".toList, "accounts.google.com".toList,
      "/a".toList⟩,
    ⟨true, "https://accounts.google.com/b".toList, "https".toList, "accounts.google.com".toList,
      "/b".toList⟩)

def signInStarts : List (LogEvent × LogEvent) :=
  [(.didStart 1 { url := signInPages.1 }, .didStart 1 { url := signInPages.2 })]

theorem privateLog_alike_example :
    (privateRun true id noSite (signInStarts.map Prod.fst)).log =
      (privateRun true id noSite (signInStarts.map Prod.snd)).log := by
  have quiet : ∀ line ∈ (privateRun true id noSite (signInStarts.map Prod.fst)).log,
      line.fromDetector = false := by
    decide +kernel
  have classes : Permitted ClassAgrees (pairStep true id) ({ site := noSite }, { site := noSite })
      signInStarts :=
    ⟨trivial, trivial⟩
  have alike := privateLog_alike true id noSite signInStarts ?_ ?_ classes
  · exact alike.2 quiet
  · simp only [signInStarts, List.mem_singleton, forall_eq, SameEvent, true_and]
    constructor <;> decide
  · unfold SamePattern
    decide

def committedPages : List (LogEvent × LogEvent) :=
  [(.didFinish { url :=
      ⟨true, "https://claude.ai/".toList, "https".toList, "claude.ai".toList, "/".toList⟩ },
    .didFinish { url :=
      ⟨true, "https://example.test/".toList, "https".toList, "example.test".toList, "/".toList⟩ })]

theorem logHidesURLs_counterexample : ¬ LogHidesURLs true id noSite := by
  intro hides
  refine absurd (hides committedPages ?_ ?_) (by decide +kernel)
  · simp only [committedPages, List.mem_singleton, forall_eq, SameEvent]
    constructor <;> decide
  · unfold SamePattern
    decide

end BlinkerFluid.PrivateLog
