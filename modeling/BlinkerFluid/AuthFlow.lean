import BlinkerFluid.WebAddress
import BlinkerFluid.StepRun

/-! The authentication flow of `shell.cc`: which URLs belong to one, the three
process-wide flags that the navigation callbacks keep, and the recovery tasks they
post. What the callbacks log and what a commit applies to the page are modelled
apart. `AppendOrReplaceQueryParameter` without a value is a parameter. -/

namespace BlinkerFluid.AuthFlow
open ByteString WebAddress StepRun

def isAuthFlowURL (url : GURL) : Bool :=
  if !url.isValid then false
  else if url.host = "auth.openai.com".toList || url.host = "accounts.google.com".toList then true
  else
    let openaiFamily :=
      url.host = "chatgpt.com".toList || ".chatgpt.com".toList.isSuffixOf url.host ||
      url.host = "openai.com".toList || ".openai.com".toList.isSuffixOf url.host
    if openaiFamily && ("/auth".toList.isPrefixOf url.path ||
        contains "/oauth".toList url.path || contains "login_with".toList url.path) then true
    else
      contains "/auth/callback".toList url.path || contains "/oauth/callback".toList url.path ||
        contains "/login/callback".toList url.path

def isChatGPTMwebFallback (url : GURL) : Bool :=
  if !url.isValid then false
  else if url.host ≠ "chatgpt.com".toList && !".chatgpt.com".toList.isSuffixOf url.host then false
  else if !contains "/auth/login_with".toList url.path then false
  else contains "mweb_fallback=1".toList url.query &&
    contains "connection=google-oauth2".toList url.query

theorem isAuthFlowURL_of_mwebFallback {url : GURL} (fallback : isChatGPTMwebFallback url = true) :
    isAuthFlowURL url = true := by
  unfold isChatGPTMwebFallback at fallback
  split_ifs at fallback with invalid family elsewhere
  have valid : url.isValid = true := by simpa using invalid
  have family : (decide (url.host = "chatgpt.com".toList) ||
      ".chatgpt.com".toList.isSuffixOf url.host) = true := by
    rw [Bool.or_eq_true, decide_eq_true_eq, or_iff_not_imp_left]
    intro other
    rw [Bool.and_eq_true, decide_eq_true_eq, not_and, Bool.not_eq_true', Bool.not_eq_false] at family
    exact family other
  have login : contains "login_with".toList url.path = true := by
    rw [contains_iff]
    have inside : "login_with".toList <:+: "/auth/login_with".toList := by decide
    exact inside.trans ((contains_iff _ _).mp (by simpa using elsewhere))
  simp only [isAuthFlowURL, valid, family, login, Bool.not_true, Bool.false_eq_true, if_false,
    Bool.true_or, Bool.or_true, Bool.true_and, if_true, ite_self]

structure Origin where
  host : Bytes
  serialize : Bytes
  deriving DecidableEq

def ERR_TOO_MANY_REDIRECTS : ℤ := -310

structure NavigationHandle where
  isInPrimaryMainFrame : Bool := true
  url : GURL
  isPost : Bool := false
  initiatorOrigin : Option Origin := none
  redirectChain : List GURL := []
  hasCommitted : Bool := true
  isErrorPage : Bool := false
  netErrorCode : ℤ := 0
  deriving DecidableEq

inductive NavigationEvent
  | didStart (navigation : NavigationHandle)
  | didRedirect (navigation : NavigationHandle)
  | didFinish (navigation : NavigationHandle)
  deriving DecidableEq

/-- `g_in_auth_flow`, `g_chatgpt_auth_breaker_used` and `g_chatgpt_mweb_logged`. -/
structure Flow where
  inAuthFlow : Bool := false
  chatgptAuthBreakerUsed : Bool := false
  chatgptMwebLogged : Bool := false
  deriving DecidableEq

inductive PostedTask
  | breakChatGPTMwebLoop (strippedUrl : GURL)
  | stopFrontShellLoad
  deriving DecidableEq

def didStartNavigation (flow : Flow) (navigation : NavigationHandle) : Flow :=
  if !navigation.isInPrimaryMainFrame then flow
  else if !isAuthFlowURL navigation.url then flow
  else { flow with inAuthFlow := true }

def didRedirectNavigation (stripMwebFallback : GURL → GURL) (flow : Flow)
    (navigation : NavigationHandle) : Flow × List PostedTask :=
  if !navigation.isInPrimaryMainFrame then (flow, [])
  else if !isAuthFlowURL navigation.url && !flow.inAuthFlow then (flow, [])
  else if isChatGPTMwebFallback navigation.url then
    let flow := { flow with chatgptMwebLogged := true }
    if navigation.redirectChain.length ≥ 6 then
      if !flow.chatgptAuthBreakerUsed then
        ({ flow with chatgptAuthBreakerUsed := true },
          [.breakChatGPTMwebLoop (stripMwebFallback navigation.url)])
      else (flow, [.stopFrontShellLoad])
    else (flow, [])
  else (flow, [])

def didFinishNavigation (flow : Flow) (navigation : NavigationHandle) : Flow :=
  if !navigation.isInPrimaryMainFrame then flow
  else if !isAuthFlowURL navigation.url && !flow.inAuthFlow then flow
  else if !isAuthFlowURL navigation.url then
    { inAuthFlow := false, chatgptAuthBreakerUsed := false, chatgptMwebLogged := false }
  else flow

def navigate (stripMwebFallback : GURL → GURL) (flow : Flow) :
    NavigationEvent → Flow × List PostedTask
  | .didStart navigation => (didStartNavigation flow navigation, [])
  | .didRedirect navigation => didRedirectNavigation stripMwebFallback flow navigation
  | .didFinish navigation => (didFinishNavigation flow navigation, [])

def flowStep (stripMwebFallback : GURL → GURL) (flow : Flow) (event : NavigationEvent) : Flow :=
  (navigate stripMwebFallback flow event).1

inductive TabAction
  | setUserAgentOverride (userAgent : Bytes)
  | stop
  | loadURL (url : GURL)
  deriving DecidableEq

def kChatGPTDesktopUA : Bytes :=
  ("Mozilla/5.0 (Macintosh; Intel Mac OS X 10_15_7) AppleWebKit/537.36 " ++
    "(KHTML, like Gecko) Chrome/149.0.0.0 Safari/537.36").toList

def kChatGPTIPhoneSafariUA : Bytes :=
  ("Mozilla/5.0 (iPhone; CPU iPhone OS 15_8 like Mac OS X) " ++
    "AppleWebKit/605.1.15 (KHTML, like Gecko) Version/15.6 Mobile/15E148 " ++
    "Safari/604.1").toList

def gChatGPTAuthProfile : ℕ := 2

/-- The override of the profile, empty where the profile keeps the user agent. -/
def authProfileUserAgent (profile : ℕ) : Bytes :=
  if profile = 1 then kChatGPTDesktopUA
  else if profile = 2 then kChatGPTIPhoneSafariUA
  else []

def frontActions : PostedTask → List TabAction
  | .stopFrontShellLoad => [.stop]
  | .breakChatGPTMwebLoop strippedUrl =>
    let userAgent := authProfileUserAgent gChatGPTAuthProfile
    (if !userAgent.isEmpty then [.setUserAgentOverride userAgent] else []) ++ [.stop] ++
      (if strippedUrl.isValid then [.loadURL strippedUrl] else [])

theorem frontActions_ne_nil (task : PostedTask) : frontActions task ≠ [] := by
  cases task <;> simp [frontActions]

def toFallback (navigation : NavigationHandle) : Bool :=
  navigation.isInPrimaryMainFrame && isChatGPTMwebFallback navigation.url

def atBreaker (navigation : NavigationHandle) : Bool :=
  toFallback navigation && decide (6 ≤ navigation.redirectChain.length)

def onAuth (navigation : NavigationHandle) : Bool :=
  navigation.isInPrimaryMainFrame && isAuthFlowURL navigation.url

def offAuth (navigation : NavigationHandle) : Bool :=
  navigation.isInPrimaryMainFrame && !isAuthFlowURL navigation.url

section Callbacks

variable (stripMwebFallback : GURL → GURL) (flow : Flow) (navigation : NavigationHandle)

theorem didStartNavigation_eq : didStartNavigation flow navigation =
    { flow with inAuthFlow := flow.inAuthFlow || onAuth navigation } := by
  unfold didStartNavigation onAuth
  cases navigation.isInPrimaryMainFrame <;> cases isAuthFlowURL navigation.url <;> simp

/-- A redirect leaves the lock and sets the other flags at the fallback, however
the flow was entered. -/
theorem didRedirectNavigation_eq :
    (didRedirectNavigation stripMwebFallback flow navigation).1 =
      { flow with
        chatgptAuthBreakerUsed := flow.chatgptAuthBreakerUsed || atBreaker navigation
        chatgptMwebLogged := flow.chatgptMwebLogged || toFallback navigation } := by
  unfold didRedirectNavigation atBreaker toFallback
  cases navigation.isInPrimaryMainFrame
  · simp
  cases fallback : isChatGPTMwebFallback navigation.url
  · simp only [Bool.not_true, Bool.false_eq_true, if_false, Bool.and_false, Bool.false_and,
      Bool.or_false]
    split_ifs <;> rfl
  · rw [isAuthFlowURL_of_mwebFallback fallback]
    by_cases hops : 6 ≤ navigation.redirectChain.length <;>
      cases flow.chatgptAuthBreakerUsed <;> simp [hops]

theorem didRedirectNavigation_posts :
    (didRedirectNavigation stripMwebFallback flow navigation).2 =
      if !atBreaker navigation then []
      else if flow.chatgptAuthBreakerUsed then [.stopFrontShellLoad]
      else [.breakChatGPTMwebLoop (stripMwebFallback navigation.url)] := by
  unfold didRedirectNavigation atBreaker toFallback
  cases navigation.isInPrimaryMainFrame
  · simp
  cases fallback : isChatGPTMwebFallback navigation.url
  · simp only [Bool.not_true, Bool.not_false, Bool.false_eq_true, if_false, if_true, Bool.and_false,
      Bool.false_and, ite_self]
  · rw [isAuthFlowURL_of_mwebFallback fallback]
    by_cases hops : 6 ≤ navigation.redirectChain.length <;>
      cases flow.chatgptAuthBreakerUsed <;> simp [hops]

theorem didFinishNavigation_eq : didFinishNavigation flow navigation =
    if offAuth navigation && flow.inAuthFlow then {} else flow := by
  unfold didFinishNavigation offAuth
  cases navigation.isInPrimaryMainFrame <;> cases isAuthFlowURL navigation.url <;>
    cases inAuth : flow.inAuthFlow <;> simp

end Callbacks

end BlinkerFluid.AuthFlow
