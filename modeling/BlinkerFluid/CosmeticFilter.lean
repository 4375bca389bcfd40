import BlinkerFluid.ContentFilter
import BlinkerFluid.SeparatedJoin

/-! Loading the content filter and the style sheet it yields for a host. The
selectors are the built-in ones and those of the user's filter file; the generic
ones are joined once, when the filter is loaded, and the join is what a page
without exceptions gets. -/

namespace BlinkerFluid.CosmeticFilter
open ByteString ContentFilter SeparatedJoin

def kBuiltinBlocklist : List String :=
  ["doubleclick.net", "googlesyndication.com", "googleadservices.com", "google-analytics.com",
    "googletagmanager.com", "googletagservices.com", "adservice.google.com",
    "pagead2.googlesyndication.com", "partner.googleadservices.com", "analytics.google.com",
    "2mdn.net", "app-measurement.com", "connect.facebook.net", "pixel.facebook.com",
    "an.facebook.com", "amazon-adsystem.com", "assoc-amazon.com", "aax.amazon-adsystem.com",
    "criteo.com", "criteo.net", "adnxs.com", "rubiconproject.com", "pubmatic.com", "openx.net",
    "casalemedia.com", "adform.net", "smartadserver.com", "spotxchange.com", "spotx.tv",
    "3lift.com", "sharethrough.com", "districtm.io", "gumgum.com", "indexww.com", "media.net",
    "yieldmo.com", "adcolony.com", "applovin.com", "unityads.unity3d.com", "inmobi.com",
    "mopub.com", "vungle.com", "scorecardresearch.com", "quantserve.com", "quantcount.com",
    "chartbeat.com", "chartbeat.net", "hotjar.com", "mouseflow.com", "fullstory.com",
    "mixpanel.com", "segment.com", "segment.io", "amplitude.com", "branch.io", "adjust.com",
    "appsflyer.com", "kochava.com", "bugsnag.com", "newrelic.com", "nr-data.net",
    "optimizely.com", "crazyegg.com", "clicktale.net", "bizographics.com", "demdex.net",
    "omtrdc.net", "everesttech.net", "adobedtm.com", "krxd.net", "bluekai.com", "agkn.com",
    "rlcdn.com", "crwdcntrl.net", "exelator.com", "mathtag.com", "bidswitch.net", "rfihub.com",
    "tapad.com", "eyeota.net", "adsrvr.org", "taboola.com", "outbrain.com", "revcontent.com",
    "mgid.com", "zergnet.com", "content-ad.net", "adblade.com", "onesignal.com", "pushcrew.com",
    "propellerads.com", "popads.net", "popcash.net", "adsterra.com", "hilltopads.net",
    "exoclick.com", "juicyads.com", "trafficjunky.net", "mc.yandex.ru", "an.yandex.ru",
    "top-fwz1.mail.ru", "vk.com/rtrg", "bat.bing.com", "clarity.ms", "ads.linkedin.com",
    "px.ads.linkedin.com", "ads-twitter.com", "analytics.twitter.com", "static.ads-twitter.com",
    "analytics.tiktok.com", "ads.tiktok.com", "business-api.tiktok.com"]

def kBuiltinCosmetic : List String :=
  [".adsbygoogle", "ins.adsbygoogle", "[id^=\"google_ads_iframe\"]", "[id^=\"div-gpt-ad\"]",
    "[id^=\"google_ads_frame\"]", "iframe[src*=\"doubleclick.net\"]",
    "iframe[src*=\"googlesyndication.com\"]", "iframe[src*=\"adnxs.com\"]",
    "[class^=\"adsbox\"]", ".trc_related_container", ".OUTBRAIN", ".taboola-placeholder"]

def builtinCosmetic : List Bytes := kBuiltinCosmetic.map String.toList

def kMaxGeneric : ℕ := 30000

def displayNone : Bytes := "\x7bdisplay:none!important\x7d".toList

/-- What loading finds outside: the two files the user may drop in, and the
persisted toggle where it is set to a Boolean. -/
structure UserData where
  blocklist : Option Bytes := none
  filters : Option Bytes := none
  blinkAdBlock : Option Bool := none

structure LoadedFilter where
  rules : BlinkerContentFilter := {}
  genericHideCss : Bytes := []
  loaded : Bool := false

/-- The lines of a file: nothing is read behind its last line feed. -/
def fileLines (text : Bytes) : List Bytes :=
  let pieces := text.splitOn '\n'
  if pieces.getLast? = some [] then pieces.dropLast else pieces

def loadBuiltinList (rules : BlinkerContentFilter) : BlinkerContentFilter :=
  let rules := (kBuiltinBlocklist.map String.toList).foldl addHost rules
  { rules with genericHideSelectors := rules.genericHideSelectors ++ builtinCosmetic }

def isHostsBlank (c : Char) : Bool := c = ' ' || c = '\t'

/-- A line of the hosts-format file: the address before a host is dropped. -/
def parseHostsLine (rules : BlinkerContentFilter) (text : Bytes) : BlinkerContentFilter :=
  let line := trim isLineBlank (text.takeWhile (· ≠ '#'))
  if line.isEmpty then rules
  else
    let first := line.takeWhile fun c => !isHostsBlank c
    let address := first ∈ ["0.0.0.0".toList, "127.0.0.1".toList, "::1".toList]
    if first.length < line.length ∧ address then
      addHost rules ((line.drop (first.length + 1)).dropWhile isHostsBlank)
    else addHost rules line

def loadUserListFromDisk (user : UserData) (rules : BlinkerContentFilter) :
    BlinkerContentFilter :=
  match user.blocklist with
  | some contents => (fileLines contents).foldl parseHostsLine rules
  | none => rules

def loadFilterListsFromDisk (user : UserData) (rules : BlinkerContentFilter) :
    BlinkerContentFilter :=
  match user.filters with
  | some contents => (fileLines contents).foldl parseFilterLine rules
  | none => rules

/-- The generic selectors are joined up to a cap, so that a full list cannot
produce a pathologically large style. -/
def buildGenericCSS (filter : LoadedFilter) : LoadedFilter :=
  { filter with
    genericHideCss :=
      joinInto ',' filter.genericHideCss (filter.rules.genericHideSelectors.take kMaxGeneric) }

def ensureLoaded (user : UserData) (filter : LoadedFilter) : LoadedFilter :=
  if filter.loaded then filter
  else
    let rules := loadBuiltinList filter.rules
    let rules := loadUserListFromDisk user rules
    let rules := loadFilterListsFromDisk user rules
    let filter := buildGenericCSS { filter with rules := rules, loaded := true }
    { filter with rules := setEnabled filter.rules (user.blinkAdBlock.getD true) }

def blinkAdBlockSetEnabled (filter : LoadedFilter) (enabled : Bool) : LoadedFilter :=
  { filter with rules := setEnabled filter.rules enabled }

/-- The filter as it serves pages: loaded once, its toggle set by the user since. -/
def servingFilter (user : UserData) (toggles : List Bool) : LoadedFilter :=
  toggles.foldl blinkAdBlockSetEnabled (ensureLoaded user {})

def exceptionsFor (getDomainAndRegistry : Bytes → Bytes) (filter : LoadedFilter)
    (host : Bytes) : List Bytes :=
  (forEachHostAndParent getDomainAndRegistry (normalizeHost host)).flatMap
    filter.rules.hostHideExceptions

def hostSpecificFor (getDomainAndRegistry : Bytes → Bytes) (filter : LoadedFilter)
    (host : Bytes) : List Bytes :=
  (forEachHostAndParent getDomainAndRegistry (normalizeHost host)).flatMap
    filter.rules.hostHideSelectors

def appendUnlessExcepted (exceptions : List Bytes) (css sel : Bytes) : Bytes :=
  if sel ∈ exceptions then css else appendWord ',' css sel

/-- The generic part: the cached join, or a fresh one where selectors are excepted. -/
def genericPart (filter : LoadedFilter) (exceptions : List Bytes) : Bytes :=
  if exceptions.isEmpty then filter.genericHideCss
  else filter.rules.genericHideSelectors.foldl (appendUnlessExcepted exceptions) []

def cosmeticCSSFor (getDomainAndRegistry : Bytes → Bytes) (filter : LoadedFilter)
    (host : Bytes) : Bytes :=
  if !filter.rules.enabled then []
  else
    let exceptions := exceptionsFor getDomainAndRegistry filter host
    let hostSpecific := hostSpecificFor getDomainAndRegistry filter host
    let css := genericPart filter exceptions
    let css := hostSpecific.foldl (appendUnlessExcepted exceptions) css
    if css.isEmpty then [] else css ++ displayNone

end BlinkerFluid.CosmeticFilter
