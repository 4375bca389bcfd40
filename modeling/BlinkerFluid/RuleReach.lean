import BlinkerFluid.FilterDecision
import BlinkerFluid.NetworkRules

/-! Which stored host rules the matcher can reach. `AddHost` judges the characters
of a host, `ShouldBlock` walks down to a registrable domain: a stored host without
one is never visited, and neither is one that still ends with a dot, since the
host of a request loses its last dot before the walk. -/

namespace BlinkerFluid.RuleReach
open ByteString LabelSuffix WebAddress ContentFilter FilterDecision NetworkRules

def decimalValue (digits : Bytes) : ℕ := digits.foldl (fun n c => 10 * n + (c.toNat - 48)) 0

def isIPv4Literal (host : Bytes) : Bool :=
  let parts := host.splitOn '.'
  parts.length = 4 &&
    parts.all fun part => !part.isEmpty && part.all Char.isDigit && decimalValue part ≤ 255

/-- What is assumed of the registry: it answers with a label suffix or not at all,
and not at all for an address literal and for a public suffix. -/
structure RegistryAnswers (getDomainAndRegistry : Bytes → Bytes) (publicSuffix : Bytes → Prop) :
    Prop where
  lookup : RegistryLookup getDomainAndRegistry
  literal : ∀ host, isIPv4Literal host = true → getDomainAndRegistry host = []
  suffix : ∀ host, publicSuffix host → getDomainAndRegistry host = []

/-- The request asks for the stored host itself, and nothing but the rules decides
about it: the filter is on, no verification is exempted, no allowed rule covers it. -/
structure Asks (getDomainAndRegistry : Bytes → Bytes) (filter : BlinkerContentFilter)
    (host : Bytes) (url : GURL) : Prop where
  host_eq : url.host = host
  http : url.schemeIsHTTPOrHTTPS = true
  enabled : filter.enabled = true
  notExempt : verificationExempt url = false
  notAllowed : ¬ ∃ rule ∈ filter.allowedHosts,
    Covers getDomainAndRegistry rule (normalizeHost host)

/-- Every host that `AddHost` has stored, other than a public suffix, is blocked. -/
def StoredRulesApply (getDomainAndRegistry : Bytes → Bytes) (publicSuffix : Bytes → Prop) : Prop :=
  ∀ filter token host url, acceptedHost token = some host → host ∈ filter.blockedHosts →
    ¬ publicSuffix host → Asks getDomainAndRegistry filter host url →
    shouldBlock getDomainAndRegistry filter url = true

section Hosts

variable {token host : Bytes}

theorem toLowerASCII_normalizeHost (token : Bytes) :
    toLowerASCII (normalizeHost token) = normalizeHost token := by
  have lowered : ∀ c ∈ normalizeHost token, c.toLower = id c := by
    intro c mem
    obtain ⟨d, -, rfl⟩ := mem_normalizeHost mem
    exact toLower_toLower d
  rw [toLowerASCII, List.map_congr_left lowered, List.map_id]

theorem removeSuffixChar_isPrefix (c : Char) (s : Bytes) : removeSuffixChar c s <+: s := by
  unfold removeSuffixChar
  split_ifs
  · exact List.dropLast_prefix s
  · exact List.prefix_rfl

theorem dropWhile_normalizeHost (token : Bytes) :
    (normalizeHost token).dropWhile (· = '.') = normalizeHost token := by
  obtain ⟨rest, split⟩ := removeSuffixChar_isPrefix '.' ((toLowerASCII token).dropWhile (· = '.'))
  have first := List.head?_dropWhile_not (· = '.') (toLowerASCII token)
  rw [← split] at first
  unfold normalizeHost
  cases normal : removeSuffixChar '.' ((toLowerASCII token).dropWhile (· = '.')) with
  | nil => rfl
  | cons c tail =>
    rw [normal, List.cons_append, List.head?_cons] at first
    rw [List.dropWhile_cons_of_neg (by simpa using first)]

theorem normalizeHost_stored (accepted : acceptedHost token = some host) :
    normalizeHost host = removeSuffixChar '.' host := by
  obtain ⟨-, rfl⟩ := (acceptedHost_eq_some_iff token host).mp accepted
  have lowered := toLowerASCII_normalizeHost token
  have undotted := dropWhile_normalizeHost token
  calc normalizeHost (normalizeHost token)
      = removeSuffixChar '.' ((toLowerASCII (normalizeHost token)).dropWhile (· = '.')) := rfl
    _ = removeSuffixChar '.' (normalizeHost token) := by rw [lowered, undotted]

theorem ne_nil_of_stored (accepted : acceptedHost token = some host) : host ≠ [] := by
  rintro rfl
  have domain := ((acceptedHost_eq_some_iff token []).mp accepted).1
  cases domain

end Hosts

section Reach

variable {getDomainAndRegistry : Bytes → Bytes} {filter : BlinkerContentFilter}
  {token host : Bytes} {url : GURL}

theorem covers_self (lookup : RegistryLookup getDomainAndRegistry)
    (registered : getDomainAndRegistry host ≠ []) : Covers getDomainAndRegistry host host :=
  ⟨registered, .refl _ _, (lookup host).resolve_left registered⟩

theorem not_covers_dotted (dotted : host.getLast? = some '.') :
    ¬ Covers getDomainAndRegistry host (removeSuffixChar '.' host) := by
  intro covers
  have le := covers.2.1.length_le
  have nonempty : host ≠ [] := by
    rintro rfl
    cases dotted
  have pos := List.length_pos_of_ne_nil nonempty
  rw [removeSuffixChar, if_pos dotted, List.length_dropLast] at le
  omega

theorem shouldBlock_asked (lookup : RegistryLookup getDomainAndRegistry)
    (accepted : acceptedHost token = some host)
    (asks : Asks getDomainAndRegistry filter host url) :
    shouldBlock getDomainAndRegistry filter url = true ↔
      ∃ rule ∈ filter.blockedHosts, Covers getDomainAndRegistry rule (normalizeHost host) := by
  have notExempt : ¬ VerificationExempt url := by
    rw [← verificationExempt_iff, asks.notExempt]
    exact Bool.false_ne_true
  rw [shouldBlock_iff lookup, asks.host_eq]
  exact ⟨fun h => h.2.2.2.2.1, fun h => ⟨asks.enabled, asks.http, ne_nil_of_stored accepted,
    notExempt, h, asks.notAllowed⟩⟩

/-- A stored host is blocked exactly if it has a registrable domain and does not
end with a dot, or ends with one and is reached by another rule. -/
theorem shouldBlock_stored_iff (getDomainAndRegistry : Bytes → Bytes)
    (publicSuffix : Bytes → Prop) (registry : RegistryAnswers getDomainAndRegistry publicSuffix)
    (filter : BlinkerContentFilter) (token host : Bytes) (url : GURL)
    (accepted : acceptedHost token = some host) (stored : host ∈ filter.blockedHosts)
    (asks : Asks getDomainAndRegistry filter host url) :
    (shouldBlock getDomainAndRegistry filter url = true ↔
      getDomainAndRegistry (normalizeHost host) ≠ [] ∧
        (host.getLast? = some '.' → ∃ rule ∈ filter.blockedHosts, rule ≠ host ∧
          Covers getDomainAndRegistry rule (normalizeHost host))) ∧
    (isIPv4Literal (normalizeHost host) = true →
      shouldBlock getDomainAndRegistry filter url = false) := by
  have reached := shouldBlock_asked registry.lookup accepted asks
  have normal := normalizeHost_stored accepted
  refine ⟨?_, fun literal => ?_⟩
  · rw [reached]
    by_cases dotted : host.getLast? = some '.'
    · simp only [dotted, true_imp_iff]
      constructor
      · rintro ⟨rule, mem, covers⟩
        refine ⟨covers.1, rule, mem, ?_, covers⟩
        rintro rfl
        exact not_covers_dotted dotted (normal ▸ covers)
      · rintro ⟨-, rule, mem, -, covers⟩
        exact ⟨rule, mem, covers⟩
    · rw [normal, removeSuffixChar, if_neg dotted]
      simp only [dotted, false_imp_iff, and_true]
      constructor
      · rintro ⟨rule, mem, covers⟩
        exact covers.1
      · intro registered
        exact ⟨host, stored, covers_self registry.lookup registered⟩
  · rw [← Bool.not_eq_true, reached]
    rintro ⟨rule, -, covers⟩
    exact covers.1 (registry.literal _ literal)

end Reach

/-- A registry that knows `example.com` and no address. -/
def exampleRegistry (host : Bytes) : Bytes :=
  if isIPv4Literal host then [] else oneDomain "example.com".toList host

theorem exampleRegistry_answers : RegistryAnswers exampleRegistry (· = "com".toList) where
  lookup host := by
    unfold exampleRegistry
    split_ifs
    · exact .inl rfl
    · exact oneDomain_lookup _ host
  literal host literal := if_pos literal
  suffix host suffix := by
    subst suffix
    decide

def exampleFilter (host : String) : BlinkerContentFilter :=
  addHost { enabled := true } host.toList

def exampleURL (host : String) : GURL :=
  ⟨true, "http://".toList ++ host.toList ++ ['/'], "http".toList, host.toList, ['/']⟩

theorem exampleURL_asks (host : String)
    (notExempt : verificationExempt (exampleURL host) = false) :
    Asks exampleRegistry (exampleFilter host) host.toList (exampleURL host) where
  host_eq := rfl
  http := rfl
  enabled := addHost_enabled _ _
  notExempt := notExempt
  notAllowed := by simp [exampleFilter]

theorem shouldBlock_stored_iff_example :
    shouldBlock exampleRegistry (exampleFilter "ads.example.com") (exampleURL "ads.example.com") =
      true :=
  (shouldBlock_stored_iff exampleRegistry _ exampleRegistry_answers _ "ads.example.com".toList
    "ads.example.com".toList _ (by decide) (by decide)
    (exampleURL_asks "ads.example.com" (by decide))).1.mpr ⟨by decide, by decide⟩

/-- The stored address `93.184.216.34` is never blocked. -/
theorem storedAddress_not_blocked :
    ¬ ∀ getDomainAndRegistry publicSuffix, RegistryAnswers getDomainAndRegistry publicSuffix →
      StoredRulesApply getDomainAndRegistry publicSuffix := by
  intro apply_all
  have blocked := apply_all exampleRegistry _ exampleRegistry_answers
    (exampleFilter "93.184.216.34") "93.184.216.34".toList "93.184.216.34".toList
    (exampleURL "93.184.216.34") (by decide) (by decide) (by decide)
    (exampleURL_asks "93.184.216.34" (by decide))
  revert blocked
  decide

end BlinkerFluid.RuleReach
