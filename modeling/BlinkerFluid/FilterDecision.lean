import BlinkerFluid.ContentFilter

/-! What the content filter blocks, over every sequence of inputs. The decision is
stated on label suffixes: a request is blocked on account of a rule between its
host and its registrable domain, unless such a rule allows it or the request
serves a verification. -/

namespace BlinkerFluid.FilterDecision
open ByteString LabelSuffix WebAddress SitePolicy ContentFilter

/-- The registry answers with a label suffix of its argument or not at all. -/
def RegistryLookup (getDomainAndRegistry : Bytes → Bytes) : Prop :=
  ∀ host, getDomainAndRegistry host = [] ∨ IsLabelSuffix '.' (getDomainAndRegistry host) host

/-- A rule for `domain` reaches `host`: it lies between the host and the
registrable domain of the host, both included. -/
def Covers (getDomainAndRegistry : Bytes → Bytes) (domain host : Bytes) : Prop :=
  getDomainAndRegistry host ≠ [] ∧ IsLabelSuffix '.' domain host ∧
    IsLabelSuffix '.' (getDomainAndRegistry host) domain

instance (getDomainAndRegistry : Bytes → Bytes) (domain host : Bytes) :
    Decidable (Covers getDomainAndRegistry domain host) :=
  inferInstanceAs (Decidable (_ ∧ _ ∧ _))

/-- The request serves a human verification or an account sign-in. -/
def VerificationExempt (url : GURL) : Prop :=
  CarriesTrait (normalizeHost url.host) kVerificationResource ∨
    ((UnderDomain url "google.com".toList ∨ UnderDomain url "gstatic.com".toList) ∧
      ("/recaptcha/".toList <:+: url.path ∨ "/captcha/".toList <:+: url.path))

theorem verificationExempt_iff (url : GURL) :
    verificationExempt url = true ↔ VerificationExempt url := by
  unfold verificationExempt VerificationExempt
  simp only [Bool.or_eq_true, Bool.and_eq_true, hasTrait_iff, domainIs_iff, contains_iff]

variable {getDomainAndRegistry : Bytes → Bytes}

theorem mem_forEachHostAndParent (lookup : RegistryLookup getDomainAndRegistry)
    (domain host : Bytes) :
    domain ∈ forEachHostAndParent getDomainAndRegistry host ↔
      Covers getDomainAndRegistry domain host := by
  unfold forEachHostAndParent Covers
  by_cases unregistered : getDomainAndRegistry host = []
  · simp [unregistered]
  · have suffix := (lookup host).resolve_left unregistered
    simp only [List.isEmpty_iff, unregistered, if_false, mem_walk_iff suffix,
      ne_eq, not_false_eq_true, true_and]

/-- The decision of one filter, on the label suffixes of the host. -/
theorem shouldBlock_iff (lookup : RegistryLookup getDomainAndRegistry)
    (filter : BlinkerContentFilter) (url : GURL) :
    shouldBlock getDomainAndRegistry filter url = true ↔
      filter.enabled = true ∧ url.schemeIsHTTPOrHTTPS = true ∧ url.host ≠ [] ∧
      ¬ VerificationExempt url ∧
      (∃ domain ∈ filter.blockedHosts,
        Covers getDomainAndRegistry domain (normalizeHost url.host)) ∧
      ¬ ∃ domain ∈ filter.allowedHosts,
        Covers getDomainAndRegistry domain (normalizeHost url.host) := by
  have visited (hosts : Finset Bytes) :
      ((forEachHostAndParent getDomainAndRegistry (normalizeHost url.host)).any
        fun domain => decide (domain ∈ hosts)) = true ↔
      ∃ domain ∈ hosts, Covers getDomainAndRegistry domain (normalizeHost url.host) := by
    simp only [List.any_eq_true, decide_eq_true_eq, mem_forEachHostAndParent lookup]
    exact exists_congr fun _ => and_comm
  rw [← visited, ← visited, ← verificationExempt_iff]
  unfold shouldBlock
  cases filter.enabled <;> cases hhost : url.host <;>
    cases url.schemeIsHTTPOrHTTPS <;> cases verificationExempt url <;>
      simp [GURL.hasHost, hhost]

theorem shouldBlock_insert_of_not_covers (lookup : RegistryLookup getDomainAndRegistry)
    (filter : BlinkerContentFilter) (url : GURL) (rule : Bytes)
    (apart : ¬ Covers getDomainAndRegistry rule (normalizeHost url.host)) :
    shouldBlock getDomainAndRegistry
        { filter with blockedHosts := insert rule filter.blockedHosts } url =
      shouldBlock getDomainAndRegistry filter url := by
  rw [Bool.eq_iff_iff, shouldBlock_iff lookup, shouldBlock_iff lookup]
  simp only [Finset.mem_insert, exists_eq_or_imp, apart, false_or]

theorem not_covers_of_above {domain host : Bytes}
    (above : IsLabelSuffix '.' domain (getDomainAndRegistry host))
    (strict : domain ≠ getDomainAndRegistry host) :
    ¬ Covers getDomainAndRegistry domain host :=
  fun covers => strict (above.antisymm covers.2.2)

/-- After any sequence of filter lines and hosts the filter blocks exactly the
requests that a blocked rule reaches, no allowed rule reaches and no verification
needs; a rule decides nothing about hosts it is no ancestor of, nor, naming a
public suffix, about the tenants registered under it. -/
theorem shouldBlock_feeds (getDomainAndRegistry : Bytes → Bytes)
    (lookup : RegistryLookup getDomainAndRegistry) (start : BlinkerContentFilter)
    (inputs : List Feed) (url : GURL) :
    let filter := inputs.foldl feed start
    let host := normalizeHost url.host
    (shouldBlock getDomainAndRegistry filter url = true ↔
      start.enabled = true ∧ url.schemeIsHTTPOrHTTPS = true ∧ url.host ≠ [] ∧
      ¬ VerificationExempt url ∧
      (∃ domain ∈ filter.blockedHosts, Covers getDomainAndRegistry domain host) ∧
      ¬ ∃ domain ∈ filter.allowedHosts, Covers getDomainAndRegistry domain host) ∧
    ∀ rule, ¬ IsLabelSuffix '.' rule host ∨
        (IsLabelSuffix '.' rule (getDomainAndRegistry host) ∧
          rule ≠ getDomainAndRegistry host) →
      shouldBlock getDomainAndRegistry
          { filter with blockedHosts := insert rule filter.blockedHosts } url =
        shouldBlock getDomainAndRegistry filter url := by
  refine ⟨?_, fun rule apart => ?_⟩
  · rw [shouldBlock_iff lookup, feeds_enabled]
  · apply shouldBlock_insert_of_not_covers lookup
    rcases apart with apart | ⟨above, strict⟩
    · exact fun covers => apart covers.2.1
    · exact not_covers_of_above above strict

def oneDomain (registered : Bytes) (host : Bytes) : Bytes :=
  if IsLabelSuffix '.' registered host then registered else []

theorem oneDomain_lookup (registered : Bytes) : RegistryLookup (oneDomain registered) := by
  intro host
  unfold oneDomain
  split
  · exact .inr ‹_›
  · exact .inl rfl

/-- `ADS.example.test.` is blocked by the parent rule, the exception for `www`
notwithstanding. -/
theorem shouldBlock_feeds_example :
    shouldBlock (oneDomain "example.test".toList)
      ([Feed.filterLine "||example.test^".toList,
        Feed.filterLine "@@||www.example.test^\r".toList].foldl feed { enabled := true })
      ⟨true, "https://ADS.example.test./ad.js".toList, "https".toList,
        "ADS.example.test.".toList, "/ad.js".toList⟩ = true := by
  refine (shouldBlock_feeds _ (oneDomain_lookup _) _ _ _).1.mpr ?_
  refine ⟨rfl, by decide, by decide, ?_, by decide, by decide⟩
  rw [← verificationExempt_iff]
  decide

end BlinkerFluid.FilterDecision
