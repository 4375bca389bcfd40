import BlinkerFluid.SitePolicy
import Mathlib.Data.Finset.Card

/-! `BlinkerContentFilter`: the rule sets, the filter-line parser that feeds them
and the decision whether a request is blocked. The registry lookup
`GetDomainAndRegistry` is a parameter; an empty answer means that a host has no
registrable domain. Selector maps are total, a missing key holding no selector. -/

namespace BlinkerFluid.ContentFilter
open ByteString LabelSuffix WebAddress SitePolicy

structure BlinkerContentFilter where
  enabled : Bool := false
  blockedHosts : Finset Bytes := ∅
  allowedHosts : Finset Bytes := ∅
  genericHideSelectors : List Bytes := []
  hostHideSelectors : Bytes → List Bytes := fun _ => []
  hostHideExceptions : Bytes → List Bytes := fun _ => []

/-- The host and its parents down to the registrable domain, in calling order. -/
def forEachHostAndParent (getDomainAndRegistry : Bytes → Bytes) (host : Bytes) : List Bytes :=
  let registered := getDomainAndRegistry host
  if registered.isEmpty then [] else walk '.' registered.length host

def normalizeHost (host : Bytes) : Bytes :=
  removeSuffixChar '.' ((toLowerASCII host).dropWhile (· = '.'))

/-- A selector that cannot break out of the style sheet or of its rule. -/
def isSafeSelector (sel : Bytes) : Bool :=
  !sel.isEmpty && sel.length ≤ 400 &&
    sel.all fun c => !(c = '{' || c = '}' || c = '\\' || c = '<' || c = '\n' || c = '\r')

def looksLikeDomain (s : Bytes) : Bool :=
  3 ≤ s.length && s.contains '.' &&
    s.all fun c => isAsciiAlphaNumeric c || c = '.' || c = '-' || c = '_'

/-- The domains of a comma-separated list; `~domain` is negated and unsupported. -/
def forEachDomain (list : Bytes) : List Bytes :=
  (splitStringPiece ',' list).filter fun d => d.head? ≠ some '~'

/-- The host under which a rule is stored, if its token is accepted at all. -/
def acceptedHost (host : Bytes) : Option Bytes :=
  let h := normalizeHost host
  if looksLikeDomain h then some h else none

def addHost (filter : BlinkerContentFilter) (host : Bytes) : BlinkerContentFilter :=
  match acceptedHost host with
  | some h => { filter with blockedHosts := insert h filter.blockedHosts }
  | none => filter

def addAllowedHost (filter : BlinkerContentFilter) (host : Bytes) : BlinkerContentFilter :=
  match acceptedHost host with
  | some h => { filter with allowedHosts := insert h filter.allowedHosts }
  | none => filter

/-- `map[NormalizeHost(d)].emplace_back(sel)` for every listed domain. -/
def appendSelector (sel : Bytes) (domains : Bytes) (table : Bytes → List Bytes) :
    Bytes → List Bytes :=
  (forEachDomain domains).foldl
    (fun t d => Function.update t (normalizeHost d) (t (normalizeHost d) ++ [sel])) table

def isLineBlank (c : Char) : Bool := c = ' ' || c = '\t' || c = '\r'

/-- Only host-wide network rules are supported. Dropping a path, request type,
wildcard or domain constraint would broaden the rule, so such lines are ignored. -/
def parseNetworkRule (filter : BlinkerContentFilter) (line : Bytes) : BlinkerContentFilter :=
  let exception := "@@".toList.isPrefixOf line
  let line := if exception then line.drop 2 else line
  if exception && !"||".toList.isPrefixOf line then filter
  else
    let line := if "||".toList.isPrefixOf line then line.drop 2 else line
    let line := removeSuffixChar '^' line
    if !looksLikeDomain line then filter
    else if exception then addAllowedHost filter line
    else addHost filter line

def parseFilterLine (filter : BlinkerContentFilter) (text : Bytes) : BlinkerContentFilter :=
  let line := trim isLineBlank text
  if line.isEmpty || line.head? = some '!' || line.head? = some '[' then filter
  else match splitAtFirst "#@#".toList line with
  | some (domains, sel) =>
    if isSafeSelector sel then
      { filter with hostHideExceptions := appendSelector sel domains filter.hostHideExceptions }
    else filter
  | none =>
    -- procedural and scriptlet cosmetics
    if contains "#?#".toList line || contains "#$#".toList line || contains "#%#".toList line then
      filter
    else match splitAtFirst "##".toList line with
    | some (domains, sel) =>
      if !isSafeSelector sel then filter
      else if domains.isEmpty then
        { filter with genericHideSelectors := filter.genericHideSelectors ++ [sel] }
      else { filter with hostHideSelectors := appendSelector sel domains filter.hostHideSelectors }
    | none => parseNetworkRule filter line

inductive Feed
  | filterLine (line : Bytes)
  | host (host : Bytes)
  | allowedHost (host : Bytes)

def feed (filter : BlinkerContentFilter) : Feed → BlinkerContentFilter
  | .filterLine line => parseFilterLine filter line
  | .host host => addHost filter host
  | .allowedHost host => addAllowedHost filter host

def setEnabled (filter : BlinkerContentFilter) (enabled : Bool) : BlinkerContentFilter := { filter with enabled }

def ruleCount (filter : BlinkerContentFilter) : ℕ := filter.blockedHosts.card

def verificationExempt (url : GURL) : Bool :=
  let host := normalizeHost url.host
  let verificationHost := hasTrait host kVerificationResource
  let googleVerificationPath :=
    (url.domainIs "google.com".toList || url.domainIs "gstatic.com".toList) &&
      (contains "/recaptcha/".toList url.path || contains "/captcha/".toList url.path)
  verificationHost || googleVerificationPath

def shouldBlock (getDomainAndRegistry : Bytes → Bytes) (filter : BlinkerContentFilter)
    (url : GURL) : Bool :=
  if !filter.enabled then false
  else if !url.hasHost || !url.schemeIsHTTPOrHTTPS then false
  else if verificationExempt url then false
  else
    let visited := forEachHostAndParent getDomainAndRegistry (normalizeHost url.host)
    let allowed := visited.any fun domain => domain ∈ filter.allowedHosts
    let blocked := visited.any fun domain => domain ∈ filter.blockedHosts
    blocked && !allowed

section Rules

variable (filter : BlinkerContentFilter)

@[simp] theorem addHost_enabled (host : Bytes) : (addHost filter host).enabled = filter.enabled := by
  unfold addHost
  split <;> rfl

@[simp] theorem addAllowedHost_enabled (host : Bytes) :
    (addAllowedHost filter host).enabled = filter.enabled := by
  unfold addAllowedHost
  split <;> rfl

/-- A network line adds at most one host, to one of the two sets. -/
theorem parseNetworkRule_cases (line : Bytes) :
    parseNetworkRule filter line = filter ∨
      (∃ h, parseNetworkRule filter line = addHost filter h) ∨
      ∃ h, parseNetworkRule filter line = addAllowedHost filter h := by
  simp only [parseNetworkRule]
  split_ifs
  · exact .inl rfl
  · exact .inl rfl
  · exact .inr (.inr ⟨_, rfl⟩)
  all_goals first | exact .inl rfl | exact .inr (.inl ⟨_, rfl⟩) | exact .inr (.inr ⟨_, rfl⟩)

theorem parseFilterLine_cases (text : Bytes) :
    (∃ generic hide exceptions, parseFilterLine filter text =
      { filter with
        genericHideSelectors := generic
        hostHideSelectors := hide
        hostHideExceptions := exceptions }) ∨
      ∃ line, parseFilterLine filter text = parseNetworkRule filter line := by
  simp only [parseFilterLine]
  split
  · exact .inl ⟨_, _, _, rfl⟩
  split
  · split <;> exact .inl ⟨_, _, _, rfl⟩
  split
  · exact .inl ⟨_, _, _, rfl⟩
  split
  · split_ifs <;> exact .inl ⟨_, _, _, rfl⟩
  · exact .inr ⟨_, rfl⟩

@[simp] theorem parseFilterLine_enabled (text : Bytes) :
    (parseFilterLine filter text).enabled = filter.enabled := by
  rcases parseFilterLine_cases filter text with ⟨_, _, _, h⟩ | ⟨line, h⟩
  · rw [h]
  · rw [h]
    rcases parseNetworkRule_cases filter line with h | ⟨_, h⟩ | ⟨_, h⟩ <;> simp [h]

@[simp] theorem feed_enabled (input : Feed) : (feed filter input).enabled = filter.enabled := by
  cases input <;> simp [feed]

theorem feeds_enabled (inputs : List Feed) :
    (inputs.foldl feed filter).enabled = filter.enabled := by
  induction inputs generalizing filter with
  | nil => rfl
  | cons input inputs ih => rw [List.foldl_cons, ih, feed_enabled]

end Rules

end BlinkerFluid.ContentFilter
