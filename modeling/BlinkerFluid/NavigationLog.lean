import BlinkerFluid.SiteMode
import BlinkerFluid.SitePolicy
import Mathlib.Data.List.FinRange

/-! What the navigation callbacks write to the boot log. A line records whether the
redirect-loop detector wrote it. Diagnostic lines are compiled out of a release
build, and in a private session URLs and hosts are meant to be logged as
`[private]`. Cookies are read back later, in events of their own. -/

namespace BlinkerFluid.NavigationLog
open ByteString WebAddress SitePolicy AuthFlow SiteMode

/-- `BLINKER_ENABLE_DIAGNOSTICS` and `IsPrivateSession()`. -/
structure LogSettings where
  diagnostics : Bool
  isPrivateSession : Bool

structure LogLine where
  fromDetector : Bool
  text : Bytes
  deriving DecidableEq

def kRecentAuthSlots : ℕ := 10

theorem authSlots_pos : 0 < kRecentAuthSlots := by decide

/-- The ring of recent authentication URLs; `none` is a null time. -/
structure RecentAuth where
  urls : Fin kRecentAuthSlots → Bytes := fun _ => []
  times : Fin kRecentAuthSlots → Option ℕ := fun _ => none
  head : Fin kRecentAuthSlots := ⟨0, authSlots_pos⟩

/-- The state of the process that the callbacks read and write. -/
structure Process where
  flow : Flow := {}
  recent : RecentAuth := {}
  site : Site
  isChatKeyboardRelocationSite : Bool := false
  log : List LogLine := []

structure CanonicalCookie where
  domain : Bytes
  isPartitioned : Bool

/-- A callback, with the time at which the detector reads the clock, or one of the
two answers of the cookie manager. -/
inductive LogEvent
  | didStart (now : ℕ) (navigation : NavigationHandle)
  | didRedirect (now : ℕ) (navigation : NavigationHandle)
  | didFinish (navigation : NavigationHandle)
  | cookiesFlushed
  | cookiesListed (cookies : List CanonicalCookie)

variable (settings : LogSettings)

def redacted : Bytes := "[private]".toList

def loggableURLSpec (url : GURL) : Bytes := if settings.isPrivateSession then redacted else url.spec

def number (n : ℕ) : Bytes := n.repr.toList

def flag (b : Bool) : Bytes := if b then "1".toList else "0".toList

/-- `BLINKER_DIAG` of several lines. -/
def diag (fromDetector : Bool) (texts : List Bytes) (process : Process) : Process :=
  if settings.diagnostics then
    { process with log := process.log ++ texts.map fun text => ⟨fromDetector, text⟩ }
  else process

def kLoopWindow : ℕ := 5000000

def RecentAuth.record (recent : RecentAuth) (now : ℕ) (spec : Bytes) : RecentAuth where
  urls := Function.update recent.urls recent.head spec
  times := Function.update recent.times recent.head (some now)
  head := recent.head + ⟨1, by decide⟩

def RecentAuth.repeats (recent : RecentAuth) (now : ℕ) (spec : Bytes) : ℕ :=
  (List.finRange kRecentAuthSlots).countP fun i =>
    match recent.times i with
    | none => false
    | some time => now - time ≤ kLoopWindow && recent.urls i = spec

def RecentAuth.dump (recent : RecentAuth) : List Bytes :=
  (List.finRange kRecentAuthSlots).filterMap fun i =>
    let url := recent.urls (recent.head + i)
    if url.isEmpty then none
    else some ("AUTH_FLOW:   [".toList ++ number i ++ "]=".toList ++ url)

def loopTexts (recent : RecentAuth) (spec : Bytes) : List Bytes :=
  ["AUTH_FLOW: redirect loop suspected".toList,
    "AUTH_FLOW: repeated url=".toList ++ spec,
    "AUTH_FLOW: last 10 redirects=".toList] ++ recent.dump

def recordAuthUrlAndDetectLoop (now : ℕ) (url : GURL) (process : Process) : Process :=
  let recent := process.recent.record now url.spec
  let process := { process with recent := recent }
  if recent.repeats now url.spec ≥ 3 then diag settings true (loopTexts recent url.spec) process
  else process

def thirdParty (navigation : NavigationHandle) : Bool :=
  match navigation.initiatorOrigin with
  | none => false
  | some initiator => initiator.host ≠ navigation.url.host

def startTexts (navigation : NavigationHandle) : List Bytes :=
  let initiator := (navigation.initiatorOrigin.map Origin.serialize).getD "(none)".toList
  ["AUTH_FLOW: navigation url=".toList ++ loggableURLSpec settings navigation.url,
    "AUTH_FLOW: method=".toList ++ (if navigation.isPost then "POST".toList else "GET".toList),
    "AUTH_FLOW: top_frame=".toList ++ flag navigation.isInPrimaryMainFrame,
    "AUTH_FLOW: initiator_origin=".toList ++
      (if settings.isPrivateSession then redacted else initiator),
    "AUTH_FLOW: same_site=".toList ++ flag (!thirdParty navigation),
    "AUTH_FLOW: third_party_context=".toList ++ flag (thirdParty navigation),
    "AUTH_FLOW: site mode locked during auth".toList,
    "AUTH_FLOW: user agent stable during auth".toList]

/-- `chain[chain.size() - 2]`, if there are two. -/
def redirectSource (chain : List GURL) : Option GURL :=
  if 2 ≤ chain.length then chain[chain.length - 2]? else none

def redirectTexts (navigation : NavigationHandle) : List Bytes :=
  ((redirectSource navigation.redirectChain).map fun url =>
      "AUTH_FLOW: redirect from=".toList ++ loggableURLSpec settings url).toList ++
    ["AUTH_FLOW: redirect to=".toList ++ loggableURLSpec settings navigation.url,
      "AUTH_FLOW: redirect_count_for_chain=".toList ++ number navigation.redirectChain.length]

/-- The lines of the mobile-web recovery, from the flags before it. -/
def fallbackTexts (flow : Flow) (navigation : NavigationHandle) : List Bytes :=
  if !isChatGPTMwebFallback navigation.url then []
  else
    (if !flow.chatgptMwebLogged then
      ["AUTH_FLOW: mweb_fallback loop detected".toList,
        "AUTH_FLOW: stuck before provider redirect".toList] else []) ++
    (if navigation.redirectChain.length ≥ 6 && flow.chatgptAuthBreakerUsed then
      ["AUTH_FLOW: retry exhausted".toList, "AUTH_FLOW: no provider url found".toList] else [])

def isAuthPath (path : Bytes) : Bool :=
  contains "/auth".toList path || contains "/login".toList path ||
    contains "/signin".toList path || contains "/sign-in".toList path

def isChatPage (url : GURL) : Bool := !isAuthPath url.path && hasTrait url.host kChatKeyboard

def keyboardTexts (url : GURL) : List Bytes :=
  if url.host.isEmpty then
    ["KEYBOARD_RELOCATE: chat fallback disabled reason=empty host (kept previous)".toList]
  else
    ["KEYBOARD_RELOCATE: current host=".toList ++
        (if settings.isPrivateSession then redacted else url.host),
      "KEYBOARD_RELOCATE: chat fallback enabled=".toList ++ flag (isChatPage url)] ++
    (if !isChatPage url then
      ["KEYBOARD_RELOCATE: chat fallback disabled reason=non-chat host".toList] else [])

def updateKeyboardChatFallback (url : GURL) (process : Process) : Process :=
  diag settings false (keyboardTexts settings url)
    (if url.host.isEmpty then process
     else { process with isChatKeyboardRelocationSite := isChatPage url })

def siteModeTexts (site : Site) (navigation : NavigationHandle) : List Bytes :=
  let stored := site.storedFlag navigation.url
  if CommitsPage navigation ∧ stored ≠ .kUnset ∧
      decide (stored = .kTrue) ≠ site.userAgentOverride.active then
    [if stored = .kTrue then "SITE_MODE: per-site desktop restored".toList
     else "SITE_MODE: per-site mobile restored".toList]
  else []

def applyCommit (navigation : NavigationHandle) (process : Process) : Process :=
  if !navigation.hasCommitted then process
  else
    let process := updateKeyboardChatFallback settings navigation.url process
    let process := diag settings false (siteModeTexts process.site navigation) process
    { process with site := commitSiteMode process.site navigation }

def tooManyRedirectsTexts (navigation : NavigationHandle) : List Bytes :=
  if navigation.netErrorCode = ERR_TOO_MANY_REDIRECTS then
    let chain := navigation.redirectChain
    ["AUTH_FLOW: redirect loop suspected".toList, "AUTH_FLOW: last 10 redirects=".toList] ++
      (chain.zipIdx.drop (chain.length - 10)).map fun (url, i) =>
        "AUTH_FLOW:   [".toList ++ number i ++ "]=".toList ++ loggableURLSpec settings url
  else []

def finishTexts (navigation : NavigationHandle) : List Bytes :=
  tooManyRedirectsTexts settings navigation ++
    ["AUTH_COOKIES: flushing after auth navigation".toList]

def cookieBuckets : List Bytes :=
  ["chatgpt.com".toList, "auth.openai.com".toList, "openai.com".toList,
    "accounts.google.com".toList]

def CanonicalCookie.inBucket (cookie : CanonicalCookie) (domain : Bytes) : Bool :=
  let d := if cookie.domain.head? = some '.' then cookie.domain.drop 1 else cookie.domain
  d = domain || ('.' :: domain).isSuffixOf d

def authCookieTexts (cookies : List CanonicalCookie) : List Bytes :=
  (cookieBuckets.map fun domain =>
    "AUTH_COOKIES: domain=".toList ++ (if settings.isPrivateSession then redacted else domain) ++
      " count=".toList ++ number (cookies.countP fun cookie => cookie.inBucket domain)) ++
  (if cookies.any (·.isPartitioned) then ["AUTH_COOKIES: partitioned cookie seen".toList] else [])

variable (stripMwebFallback : GURL → GURL)

def logStep (process : Process) : LogEvent → Process
  | .didStart now navigation =>
    if !navigation.isInPrimaryMainFrame then process
    else if !isAuthFlowURL navigation.url then process
    else
      let process := { process with flow := didStartNavigation process.flow navigation }
      let process := diag settings false (startTexts settings navigation) process
      recordAuthUrlAndDetectLoop settings now navigation.url process
  | .didRedirect now navigation =>
    if !navigation.isInPrimaryMainFrame then process
    else if !isAuthFlowURL navigation.url && !process.flow.inAuthFlow then process
    else
      let process := diag settings false (redirectTexts settings navigation) process
      let process := recordAuthUrlAndDetectLoop settings now navigation.url process
      let process := diag settings false (fallbackTexts process.flow navigation) process
      { process with flow := (didRedirectNavigation stripMwebFallback process.flow navigation).1 }
  | .didFinish navigation =>
    if !navigation.isInPrimaryMainFrame then process
    else
      let process := applyCommit settings navigation process
      if !isAuthFlowURL navigation.url && !process.flow.inAuthFlow then process
      else
        let process := diag settings false (finishTexts settings navigation) process
        { process with flow := didFinishNavigation process.flow navigation }
  | .cookiesFlushed => diag settings false ["AUTH_COOKIES: flush complete".toList] process
  | .cookiesListed cookies => diag settings false (authCookieTexts settings cookies) process

def LogEvent.navigation? : LogEvent → Option NavigationEvent
  | .didStart _ navigation => some (.didStart navigation)
  | .didRedirect _ navigation => some (.didRedirect navigation)
  | .didFinish navigation => some (.didFinish navigation)
  | _ => none

section Effects

variable (process : Process)

@[simp] theorem diag_flow (fromDetector : Bool) (texts : List Bytes) :
    (diag settings fromDetector texts process).flow = process.flow := by
  unfold diag
  split <;> rfl

@[simp] theorem diag_recent (fromDetector : Bool) (texts : List Bytes) :
    (diag settings fromDetector texts process).recent = process.recent := by
  unfold diag
  split <;> rfl

@[simp] theorem diag_site (fromDetector : Bool) (texts : List Bytes) :
    (diag settings fromDetector texts process).site = process.site := by
  unfold diag
  split <;> rfl

@[simp] theorem recordAuth_flow (now : ℕ) (url : GURL) :
    (recordAuthUrlAndDetectLoop settings now url process).flow = process.flow := by
  unfold recordAuthUrlAndDetectLoop
  simp only
  split
  · exact diag_flow settings _ _ _
  · rfl

@[simp] theorem applyCommit_flow (navigation : NavigationHandle) :
    (applyCommit settings navigation process).flow = process.flow := by
  unfold applyCommit updateKeyboardChatFallback
  split_ifs <;> simp

theorem logStep_flow (event : LogEvent) :
    (logStep settings stripMwebFallback process event).flow =
      event.navigation?.toList.foldl (flowStep stripMwebFallback) process.flow := by
  cases event with
  | didStart now navigation =>
    simp only [logStep, LogEvent.navigation?, Option.toList_some, List.foldl_cons, List.foldl_nil,
      flowStep, navigate]
    split_ifs with frame other
    · simp [didStartNavigation, frame]
    · simp [didStartNavigation, other]
    · rw [recordAuth_flow, diag_flow]
  | didRedirect now navigation =>
    simp only [logStep, LogEvent.navigation?, Option.toList_some, List.foldl_cons, List.foldl_nil,
      flowStep, navigate]
    split_ifs with frame other
    · simp [didRedirectNavigation, frame]
    · simp [didRedirectNavigation, other]
    · simp
  | didFinish navigation =>
    simp only [logStep, LogEvent.navigation?, Option.toList_some, List.foldl_cons, List.foldl_nil,
      flowStep, navigate, applyCommit_flow]
    split_ifs with frame other
    · simp [didFinishNavigation, frame]
    · simp [didFinishNavigation, other]
    · simp
  | cookiesFlushed => exact diag_flow settings _ _ _
  | cookiesListed cookies => exact diag_flow settings _ _ _

variable {settings}

end Effects

end BlinkerFluid.NavigationLog
