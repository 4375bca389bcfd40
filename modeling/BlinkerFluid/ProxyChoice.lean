import BlinkerFluid.ByteString
import BlinkerFluid.ProxyRules

/-! The proxy of the settings dialog. The dialog checks the address as a URL and stores it
whatever its length; the launch reads it back through a buffer of 256 bytes, and a text that
does not fit is no proxy. One that fits is read as proxy rules, which are no URL: a text with
an equals sign may name no proxy at all. `NSURLComponents` is a parameter, and so is the
network stack's parser of one proxy address. -/

namespace BlinkerFluid.ProxyChoice
open ByteString ProxyRules

abbrev Text := List Char

section Buffer

def utf8 (text : Text) : List UInt8 := text.flatMap String.utf8EncodeChar

/-- `CFStringGetCString` with UTF-8: the text with its terminator, if it fits. -/
def cfStringGetCString (text : Text) (bufferSize : ℕ) : Option (List UInt8) :=
  if (utf8 text).length < bufferSize then some (utf8 text ++ [0]) else none

def cString (buffer : List UInt8) : List UInt8 := buffer.takeWhile (· ≠ 0)

theorem zero_mem_utf8EncodeChar_iff {c : Char} : 0 ∈ String.utf8EncodeChar c ↔ c = '\x00' := by
  have code : c = '\x00' ↔ c.val.toNat = 0 := by
    rw [Char.ext_iff, ← UInt32.toNat_inj]
    rfl
  have bound := c.val.toNat_lt
  rw [code, String.utf8EncodeChar]
  generalize c.val.toNat = v at bound
  split_ifs <;>
    simp only [List.mem_cons, List.not_mem_nil, or_false, ← UInt8.toNat_inj, UInt8.toNat_zero,
      UInt8.toNat_ofNat'] <;>
    omega

theorem zero_mem_utf8_iff {text : Text} : 0 ∈ utf8 text ↔ '\x00' ∈ text := by
  simp [utf8, List.mem_flatMap, zero_mem_utf8EncodeChar_iff]

theorem cfStringGetCString_eq_some_iff {text : Text} {bufferSize : ℕ} {buffer : List UInt8} :
    cfStringGetCString text bufferSize = some buffer ↔
      (utf8 text).length < bufferSize ∧ buffer = utf8 text ++ [0] := by
  unfold cfStringGetCString
  split_ifs with fits
  · rw [Option.some.injEq, eq_comm]
    exact ⟨fun same => ⟨fits, same⟩, And.right⟩
  · exact ⟨nofun, fun both => absurd both.1 fits⟩

theorem cString_utf8_iff {text : Text} :
    cString (utf8 text ++ [0]) = utf8 text ↔ '\x00' ∉ text := by
  rw [← zero_mem_utf8_iff]
  constructor
  · intro whole terminator
    rw [← whole] at terminator
    exact absurd (List.mem_takeWhile_imp terminator) (by decide)
  · intro inner
    rw [cString, List.takeWhile_append_of_pos fun byte mem => ?_]
    · exact List.append_nil _
    · exact decide_eq_true fun zero => inner (zero ▸ mem)

end Buffer

/-- What the dialog reads of the components of a URL. -/
structure URLComponents where
  scheme : Option Text
  host : Option Text
  port : Option ℕ

/-- `whitespaceCharacterSet`: the space separators and the tab. -/
def isWhitespace (c : Char) : Bool :=
  c = '\t' || c = ' ' || c.toNat = 0xA0 || c.toNat = 0x1680 ||
    (0x2000 ≤ c.toNat && c.toNat ≤ 0x200A) || c.toNat = 0x202F || c.toNat = 0x205F ||
    c.toNat = 0x3000

inductive StoredValue where
  | string (text : Text)
  | other

/-- The command line, and the rules that the network context starts with. -/
structure Launch where
  switches : List (Text × List UInt8)
  initialProxyConfig : Option Rules

/-- Some load may be direct. Without an initial configuration every load is. -/
def Launch.ConnectsDirectly (launched : Launch) : Prop :=
  match launched.initialProxyConfig with
  | none => True
  | some rules => ∃ scheme, .direct ∈ rules.apply scheme

section Dialog

variable (componentsWithString : Text → Option URLComponents)

def isProxyAddress (v : Text) : Bool :=
  match componentsWithString v with
  | none => false
  | some parsed =>
    let scheme := parsed.scheme.map toLowerASCII
    (scheme = some "socks5".toList || scheme = some "socks4".toList ||
      scheme = some "http".toList || scheme = some "https".toList) &&
      parsed.host.any (!·.isEmpty) && parsed.port.isSome

def enteredProxy (field : Text) : Text := trim isWhitespace field

/-- The Save button of `showProxySettings`; an address that is not valid changes nothing. -/
def saveProxy (field : Text) (blinkProxy : Option StoredValue) : Option StoredValue :=
  let v := enteredProxy field
  if v.isEmpty then none
  else if isProxyAddress componentsWithString v then some (.string v)
  else blinkProxy

end Dialog

section Start

variable (proxyUriToProxyChain : DefaultScheme → RuleText → Option ProxyChain)
  (blinkProxy : Option StoredValue)

def readProxy : Option (List UInt8) :=
  match blinkProxy with
  | some (.string text) =>
    match cfStringGetCString text 256 with
    | some buffer => if buffer.head? ≠ some 0 then some (cString buffer) else none
    | none => none
  | _ => none

def basicStartupComplete (switches : List (Text × List UInt8)) : List (Text × List UInt8) :=
  match readProxy blinkProxy with
  | some proxy => switches ++ [("proxy-server".toList, proxy)]
  | none => switches

def launch (switches : List (Text × List UInt8)) : Launch where
  switches := basicStartupComplete blinkProxy switches
  initialProxyConfig := (readProxy blinkProxy).map (parseFromString proxyUriToProxyChain)

/-- The launch appends the stored text as the proxy server, and no load is direct. -/
def AppliesProxy (v : Text) : Prop :=
  ∀ switches,
    (launch proxyUriToProxyChain blinkProxy switches).switches =
        switches ++ [("proxy-server".toList, utf8 v)] ∧
      ¬ (launch proxyUriToProxyChain blinkProxy switches).ConnectsDirectly

end Start

/-- What the launch can read of the stored text. -/
def FitsBuffer (v : Text) : Prop := (utf8 v).length < 256 ∧ '\x00' ∉ v

instance (v : Text) : Decidable (FitsBuffer v) := inferInstanceAs (Decidable (_ ∧ _))

theorem switches_appended_iff {blinkProxy : Option StoredValue} {v : Text} :
    (∀ switches, basicStartupComplete blinkProxy switches =
      switches ++ [("proxy-server".toList, utf8 v)]) ↔ readProxy blinkProxy = some (utf8 v) := by
  cases read : readProxy blinkProxy with
  | none =>
    refine iff_of_false (fun appended => ?_) nofun
    have first := appended []
    simp [basicStartupComplete, read] at first
  | some proxy =>
    simp [basicStartupComplete, read]

theorem appliesProxy_iff {proxyUriToProxyChain : DefaultScheme → RuleText → Option ProxyChain}
    {blinkProxy : Option StoredValue} {v : Text} :
    AppliesProxy proxyUriToProxyChain blinkProxy v ↔
      readProxy blinkProxy = some (utf8 v) ∧ NamesProxies proxyUriToProxyChain (utf8 v) := by
  have proxied (read : readProxy blinkProxy = some (utf8 v)) (switches) :
      ¬ (launch proxyUriToProxyChain blinkProxy switches).ConnectsDirectly ↔
        NamesProxies proxyUriToProxyChain (utf8 v) := by
    rw [← parseFromString_proxied_iff]
    simp [Launch.ConnectsDirectly, launch, read]
  constructor
  · intro applies
    have read := switches_appended_iff.mp fun switches => (applies switches).1
    exact ⟨read, (proxied read []).mp (applies []).2⟩
  · rintro ⟨read, names⟩ switches
    exact ⟨switches_appended_iff.mpr read switches, (proxied read switches).mpr names⟩

theorem readProxy_eq_iff {v : Text} (entered : v ≠ []) :
    readProxy (some (.string v)) = some (utf8 v) ↔ FitsBuffer v := by
  have nonempty : utf8 v ≠ [] := by
    obtain ⟨c, rest, rfl⟩ := List.exists_cons_of_ne_nil entered
    simp [utf8, String.utf8EncodeChar_ne_nil]
  by_cases short : (utf8 v).length < 256
  · have copied := cfStringGetCString_eq_some_iff.mpr ⟨short, rfl⟩
    have first : (utf8 v ++ [0]).head? = (utf8 v).head? := List.head?_append_of_ne_nil _ nonempty
    simp only [readProxy, copied, first, FitsBuffer, short, true_and, ← cString_utf8_iff]
    constructor
    · intro read
      split_ifs at read
      exact Option.some.inj read
    · intro whole
      refine (if_pos fun zero => ?_).trans (congrArg some whole)
      -- a text that starts with a terminator is not read back whole
      exact cString_utf8_iff.mp whole (zero_mem_utf8_iff.mp (List.mem_of_mem_head? zero))
  · have dropped : cfStringGetCString v 256 = none := if_neg short
    simp [readProxy, dropped, FitsBuffer, short]

/-- A proxy that the dialog accepts and stores is applied by the next launch exactly if it
fits into the buffer and names, as a text of rules, a proxy for every load. -/
theorem acceptedProxy_applied_iff
    (proxyUriToProxyChain : DefaultScheme → RuleText → Option ProxyChain)
    (componentsWithString : Text → Option URLComponents) (field : Text)
    (blinkProxy : Option StoredValue) (entered : enteredProxy field ≠ [])
    (valid : isProxyAddress componentsWithString (enteredProxy field) = true) :
    AppliesProxy proxyUriToProxyChain (saveProxy componentsWithString field blinkProxy)
        (enteredProxy field) ↔
      FitsBuffer (enteredProxy field) ∧
        NamesProxies proxyUriToProxyChain (utf8 (enteredProxy field)) := by
  have saved : saveProxy componentsWithString field blinkProxy =
      some (.string (enteredProxy field)) := by
    simp [saveProxy, entered, valid]
  rw [saved, appliesProxy_iff, readProxy_eq_iff entered]

section Addresses

def decimal (digits : Text) : Option ℕ :=
  if digits ≠ [] ∧ digits.all Char.isDigit then
    some (digits.foldl (fun value digit => 10 * value + (digit.toNat - '0'.toNat)) 0)
  else none

/-- The components of an address of a scheme, a user, a host and a port. -/
def exampleComponents (text : Text) : Option URLComponents :=
  match splitAtFirst "://".toList text with
  | none => none
  | some (scheme, authority) =>
    match splitAtFirst ":".toList (authority.rtakeWhile (· ≠ '@')) with
    | none => some ⟨some scheme, some authority, none⟩
    | some (host, port) => some ⟨some scheme, some host, decimal port⟩

def exampleChain (_ : DefaultScheme) (uri : RuleText) : Option ProxyChain :=
  if uri = ascii "direct://" then some .direct
  else if '@'.toNat.toUInt8 ∈ uri then none
  else some (.servers uri)

def torAddress : Text := "socks5://127.0.0.1:9050".toList

theorem acceptedProxy_applied_iff_torAddress :
    AppliesProxy exampleChain (saveProxy exampleComponents torAddress none)
        (enteredProxy torAddress) ↔
      FitsBuffer (enteredProxy torAddress) ∧
        NamesProxies exampleChain (utf8 (enteredProxy torAddress)) :=
  acceptedProxy_applied_iff exampleChain exampleComponents torAddress none (by decide)
    (by decide +kernel)

def longAddress : Text :=
  "socks5://".toList ++ List.replicate 250 'a' ++ ":9050".toList

def userAddress : Text := "socks5://us=er:pw@127.0.0.1:9050".toList

/-- The long address is dropped, and the other one is read as rules without a proxy. -/
theorem longAddress_dropped :
    ¬ (∀ proxyUriToProxyChain componentsWithString field blinkProxy,
      enteredProxy field ≠ [] →
      isProxyAddress componentsWithString (enteredProxy field) = true →
      AppliesProxy proxyUriToProxyChain (saveProxy componentsWithString field blinkProxy)
        (enteredProxy field)) ∧
    isProxyAddress exampleComponents (enteredProxy userAddress) = true ∧
    FitsBuffer userAddress ∧
    (launch exampleChain (saveProxy exampleComponents userAddress none) []).ConnectsDirectly := by
  refine ⟨fun applied => ?_, by decide +kernel, by decide +kernel, .http, ?_⟩
  · have launched := appliesProxy_iff.mp
      (applied exampleChain exampleComponents longAddress none (by decide +kernel)
        (by decide +kernel))
    revert launched
    decide +kernel
  · decide +kernel

end Addresses

end BlinkerFluid.ProxyChoice
