import Mathlib.Data.List.DropRight
import Mathlib.Tactic.SplitIfs

/-! `ProxyRules::ParseFromString` and `Apply` of the network stack, as documented. A text
is one list of proxies, or pairs of a scheme and a list; a pair for another scheme and an
address that does not parse are dropped silently. A list without proxies fails a load, and
a scheme without a list is loaded directly. The parser of one address is a parameter. -/

namespace BlinkerFluid.ProxyRules

abbrev RuleText := List UInt8

inductive ProxyChain
  | direct
  | servers (address : RuleText)
  deriving DecidableEq

inductive DefaultScheme
  | http
  | socks4
  deriving DecidableEq

inductive RulesType
  | empty
  | proxyList
  | proxyListPerScheme
  deriving DecidableEq

structure Rules where
  type : RulesType := .empty
  singleProxies : List ProxyChain := []
  proxiesForHttp : List ProxyChain := []
  proxiesForHttps : List ProxyChain := []
  proxiesForFtp : List ProxyChain := []
  fallbackProxies : List ProxyChain := []
  deriving DecidableEq

def ascii (name : String) : RuleText := name.toList.map fun c => c.toNat.toUInt8

def isWhitespaceASCII (byte : UInt8) : Bool := byte = 32 || (9 ≤ byte && byte ≤ 13)

def trimWhitespaceASCII (text : RuleText) : RuleText :=
  (text.dropWhile isWhitespaceASCII).rdropWhile isWhitespaceASCII

/-- `StringViewTokenizer`: the pieces between delimiters that are not empty. -/
def tokenize (delimiter : UInt8) (text : RuleText) : List RuleText :=
  (text.splitOn delimiter).filter (· ≠ [])

inductive Entry
  | lone (uris : RuleText)
  | pair (scheme uris : RuleText)

def pieces : List RuleText → List Entry
  | [] => []
  | [uris] => [.lone uris]
  | scheme :: uris :: rest => .pair scheme uris :: pieces rest

def ruleEntries (text : RuleText) : List Entry :=
  (tokenize ';'.toNat.toUInt8 text).flatMap fun token => pieces (tokenize '='.toNat.toUInt8 token)

variable (proxyUriToProxyChain : DefaultScheme → RuleText → Option ProxyChain)

/-- `AddProxyURIListToProxyList`. -/
def listed (scheme : DefaultScheme) (uris : RuleText) : List ProxyChain :=
  (tokenize ','.toNat.toUInt8 uris).filterMap (proxyUriToProxyChain scheme)

def Rules.addPair (rules : Rules) (scheme uris : RuleText) : Rules :=
  let rules := { rules with type := .proxyListPerScheme }
  let urlScheme := trimWhitespaceASCII scheme
  if urlScheme = ascii "http" then
    { rules with
      proxiesForHttp := rules.proxiesForHttp ++ listed proxyUriToProxyChain .http uris }
  else if urlScheme = ascii "https" then
    { rules with
      proxiesForHttps := rules.proxiesForHttps ++ listed proxyUriToProxyChain .http uris }
  else if urlScheme = ascii "ftp" then
    { rules with
      proxiesForFtp := rules.proxiesForFtp ++ listed proxyUriToProxyChain .http uris }
  else if urlScheme = ascii "socks" then
    { rules with
      fallbackProxies := rules.fallbackProxies ++ listed proxyUriToProxyChain .socks4 uris }
  else rules

/-- A piece of its own ends the parse, unless a pair stands before it. -/
def parseEntries (rules : Rules) : List Entry → Rules
  | [] => rules
  | .lone uris :: rest =>
    if rules.type = .proxyListPerScheme then parseEntries rules rest
    else
      { rules with
        type := .proxyList
        singleProxies := rules.singleProxies ++ listed proxyUriToProxyChain .http uris }
  | .pair scheme uris :: rest =>
    parseEntries (rules.addPair proxyUriToProxyChain scheme uris) rest

def parseFromString (text : RuleText) : Rules :=
  parseEntries proxyUriToProxyChain {} (ruleEntries text)

/-- The schemes of the URLs that connect to a server. -/
inductive NetworkScheme
  | http
  | https
  | ws
  | wss
  deriving DecidableEq

def fallbackList (rules : Rules) : Option (List ProxyChain) :=
  if rules.fallbackProxies ≠ [] then some rules.fallbackProxies else none

def getProxyListForWebSocketScheme (rules : Rules) : Option (List ProxyChain) :=
  if rules.fallbackProxies ≠ [] then some rules.fallbackProxies
  else if rules.proxiesForHttps ≠ [] then some rules.proxiesForHttps
  else if rules.proxiesForHttp ≠ [] then some rules.proxiesForHttp
  else none

def mapUrlSchemeToProxyList (rules : Rules) : NetworkScheme → Option (List ProxyChain)
  | .http =>
    if rules.proxiesForHttp ≠ [] then some rules.proxiesForHttp else fallbackList rules
  | .https =>
    if rules.proxiesForHttps ≠ [] then some rules.proxiesForHttps else fallbackList rules
  | .ws | .wss => getProxyListForWebSocketScheme rules

/-- The chains that a load tries in turn. The addresses of the device itself, which go to no
proxy under any rules, are left out. -/
def Rules.apply (rules : Rules) (scheme : NetworkScheme) : List ProxyChain :=
  match rules.type with
  | .empty => [.direct]
  | .proxyList => rules.singleProxies
  | .proxyListPerScheme => (mapUrlSchemeToProxyList rules scheme).getD [.direct]

def named (name : String) (scheme : DefaultScheme) (entries : List Entry) : List ProxyChain :=
  entries.flatMap fun
    | .lone _ => []
    | .pair urlScheme uris =>
      if trimWhitespaceASCII urlScheme = ascii name then listed proxyUriToProxyChain scheme uris
      else []

/-- The pairs list no direct connection, and a proxy for both kinds of page or for all. -/
def PairsNameProxies (entries : List Entry) : Prop :=
  let http := named proxyUriToProxyChain "http" .http entries
  let https := named proxyUriToProxyChain "https" .http entries
  let socks := named proxyUriToProxyChain "socks" .socks4 entries
  (.direct ∉ http ∧ .direct ∉ https ∧ .direct ∉ socks) ∧ (socks ≠ [] ∨ http ≠ [] ∧ https ≠ [])

/-- What a text has to spell so that no load is direct. -/
def NamesProxies (text : RuleText) : Prop :=
  match ruleEntries text with
  | [] => False
  | .lone uris :: _ => .direct ∉ listed proxyUriToProxyChain .http uris
  | entries => PairsNameProxies proxyUriToProxyChain entries

instance (text : RuleText) : Decidable (NamesProxies proxyUriToProxyChain text) := by
  unfold NamesProxies PairsNameProxies
  split <;> infer_instance

theorem addPair_eq (rules : Rules) (scheme uris : RuleText) :
    rules.addPair proxyUriToProxyChain scheme uris =
      { rules with
        type := .proxyListPerScheme
        proxiesForHttp := rules.proxiesForHttp ++
          named proxyUriToProxyChain "http" .http [.pair scheme uris]
        proxiesForHttps := rules.proxiesForHttps ++
          named proxyUriToProxyChain "https" .http [.pair scheme uris]
        proxiesForFtp := rules.proxiesForFtp ++
          named proxyUriToProxyChain "ftp" .http [.pair scheme uris]
        fallbackProxies := rules.fallbackProxies ++
          named proxyUriToProxyChain "socks" .socks4 [.pair scheme uris] } := by
  have names : ascii "http" ≠ ascii "https" ∧ ascii "http" ≠ ascii "ftp" ∧
      ascii "http" ≠ ascii "socks" ∧ ascii "https" ≠ ascii "ftp" ∧
      ascii "https" ≠ ascii "socks" ∧ ascii "ftp" ≠ ascii "socks" := by decide +kernel
  obtain ⟨http, http', http'', https, https', ftp⟩ := names
  simp only [Rules.addPair, named, List.flatMap_cons, List.flatMap_nil, List.append_nil]
  split_ifs with h₁ h₂ h₃ h₄ <;> simp_all

/-- Behind a pair every further pair adds its list, and nothing else counts. -/
theorem parseEntries_pairs (rules : Rules) (pairs : rules.type = .proxyListPerScheme)
    (entries : List Entry) :
    parseEntries proxyUriToProxyChain rules entries =
      { rules with
        proxiesForHttp := rules.proxiesForHttp ++ named proxyUriToProxyChain "http" .http entries
        proxiesForHttps := rules.proxiesForHttps ++
          named proxyUriToProxyChain "https" .http entries
        proxiesForFtp := rules.proxiesForFtp ++ named proxyUriToProxyChain "ftp" .http entries
        fallbackProxies := rules.fallbackProxies ++
          named proxyUriToProxyChain "socks" .socks4 entries } := by
  induction entries generalizing rules with
  | nil => simp [parseEntries, named]
  | cons entry entries ih =>
    cases entry with
    | lone uris =>
      rw [parseEntries, if_pos pairs, ih rules pairs]
      simp only [named, List.flatMap_cons, List.nil_append]
    | pair scheme uris =>
      rw [parseEntries, addPair_eq, ih _ rfl]
      simp only [named, List.flatMap_cons, List.flatMap_nil, List.append_nil, List.append_assoc,
        pairs]

theorem parseFromString_pairs {text : RuleText} {scheme uris : RuleText} {rest : List Entry}
    (spelt : ruleEntries text = .pair scheme uris :: rest) :
    parseFromString proxyUriToProxyChain text =
      { type := .proxyListPerScheme
        proxiesForHttp := named proxyUriToProxyChain "http" .http (ruleEntries text)
        proxiesForHttps := named proxyUriToProxyChain "https" .http (ruleEntries text)
        proxiesForFtp := named proxyUriToProxyChain "ftp" .http (ruleEntries text)
        fallbackProxies := named proxyUriToProxyChain "socks" .socks4 (ruleEntries text) } := by
  rw [parseFromString, spelt, parseEntries, addPair_eq, parseEntries_pairs _ _ rfl]
  simp only [named, List.flatMap_cons, List.flatMap_nil, List.append_nil, List.nil_append]

theorem perScheme_proxied_iff (rules : Rules) (pairs : rules.type = .proxyListPerScheme) :
    (∀ scheme, .direct ∉ rules.apply scheme) ↔
      (.direct ∉ rules.proxiesForHttp ∧ .direct ∉ rules.proxiesForHttps ∧
        .direct ∉ rules.fallbackProxies) ∧
        (rules.fallbackProxies ≠ [] ∨ rules.proxiesForHttp ≠ [] ∧ rules.proxiesForHttps ≠ []) := by
  simp only [Rules.apply, pairs]
  constructor
  · intro proxied
    have http := proxied .http
    have https := proxied .https
    have ws := proxied .ws
    simp only [mapUrlSchemeToProxyList, fallbackList, getProxyListForWebSocketScheme]
      at http https ws
    by_cases h : rules.proxiesForHttp = [] <;> by_cases t : rules.proxiesForHttps = [] <;>
      by_cases f : rules.fallbackProxies = [] <;> simp_all
  · rintro ⟨⟨http, https, socks⟩, some⟩ scheme
    cases scheme <;>
      simp only [mapUrlSchemeToProxyList, fallbackList, getProxyListForWebSocketScheme] <;>
      split_ifs <;> simp_all

theorem parseFromString_proxied_iff (text : RuleText) :
    (∀ scheme, .direct ∉ (parseFromString proxyUriToProxyChain text).apply scheme) ↔
      NamesProxies proxyUriToProxyChain text := by
  cases spelt : ruleEntries text with
  | nil =>
    simp only [NamesProxies, spelt]
    refine iff_of_false (fun proxied => ?_) id
    have first := proxied .http
    simp [parseFromString, spelt, parseEntries, Rules.apply] at first
  | cons entry rest =>
    cases entry with
    | lone uris =>
      have single : parseFromString proxyUriToProxyChain text =
          { type := .proxyList, singleProxies := listed proxyUriToProxyChain .http uris } := by
        simp [parseFromString, spelt, parseEntries]
      simp only [NamesProxies, spelt, single]
      exact ⟨fun proxied => proxied .http, fun absent _ => absent⟩
    | pair scheme uris =>
      have pairs := parseFromString_pairs proxyUriToProxyChain spelt
      have proxied := perScheme_proxied_iff _ (congrArg Rules.type pairs)
      simp only [NamesProxies, PairsNameProxies, spelt]
      rw [proxied, pairs, spelt]

end BlinkerFluid.ProxyRules
