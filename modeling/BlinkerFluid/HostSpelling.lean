import BlinkerFluid.GlobalMemoryGuard

/-! A host may be spelled with a dot behind its last label. The subdomain entries of
the site policy and `GURL::DomainIs` drop one such dot, the exact entries and the
raw comparisons of the memory guard do not: which hosts and which pairs of URLs the
site policy and the guard tell apart on account of the dot. -/

namespace BlinkerFluid.HostSpelling
open ByteString LabelSuffix WebAddress SitePolicy GlobalMemoryGuard

/-- Two URLs that differ in a dot behind the host of the second. -/
structure DotTwin (url twin : GURL) : Prop where
  isValid : twin.isValid = url.isValid
  scheme : twin.scheme = url.scheme
  path : twin.path = url.path
  host : twin.host = url.host ++ ['.']

section Hosts

variable {host domain : Bytes}

def EndsWithDot (host : Bytes) : Prop := host.getLast? = some '.'

instance : DecidablePred EndsWithDot := fun _ => inferInstanceAs (Decidable (_ = _))

@[simp] theorem removeSuffixChar_dot (host : Bytes) :
    removeSuffixChar '.' (host ++ ['.']) = host := by
  simp [removeSuffixChar]

theorem removeSuffixChar_undotted (undotted : ¬ EndsWithDot host) :
    removeSuffixChar '.' host = host := if_neg undotted

theorem not_isLabelSuffix_of_dot (dotted : EndsWithDot host) (some_char : domain ≠ [])
    (undotted : ¬ EndsWithDot domain) : ¬ IsLabelSuffix '.' domain host := by
  intro suffix
  obtain ⟨front, rfl⟩ := suffix.isSuffix
  rw [EndsWithDot, List.getLast?_append_of_ne_nil _ some_char] at dotted
  exact undotted dotted

theorem ne_of_dot (undotted : ¬ EndsWithDot domain) : host ++ ['.'] ≠ domain := by
  rintro rfl
  exact undotted (by simp [EndsWithDot])

end Hosts

section Traits

/-- An entry of the table names the trait for this very host only. -/
def NamedExactly (host : Bytes) (trait : SiteTrait) : Prop :=
  ∃ policy ∈ kSitePolicies, policy.traits &&& trait ≠ 0 ∧ policy.includeSubdomains = false ∧
    host = policy.host

/-- An entry of the table names the trait for the host as one of its subdomains. -/
def NamedBelow (host : Bytes) (trait : SiteTrait) : Prop :=
  ∃ policy ∈ kSitePolicies, policy.traits &&& trait ≠ 0 ∧ policy.includeSubdomains = true ∧
    IsLabelSuffix '.' policy.host host

theorem hasTrait_iff_named (host : Bytes) (trait : SiteTrait) :
    hasTrait host trait = true ↔
      NamedBelow (removeSuffixChar '.' host) trait ∨ NamedExactly host trait := by
  rw [hasTrait_iff]
  unfold CarriesTrait NamedBelow NamedExactly
  constructor
  · rintro ⟨policy, mem, carries, covers⟩
    cases below : policy.includeSubdomains with
    | true => exact .inl ⟨policy, mem, carries, below, by simpa [below] using covers⟩
    | false => exact .inr ⟨policy, mem, carries, below, by simpa [below] using covers⟩
  · rintro (⟨policy, mem, carries, below, covers⟩ | ⟨policy, mem, carries, below, covers⟩)
    · exact ⟨policy, mem, carries, by simpa [below] using covers⟩
    · exact ⟨policy, mem, carries, by simpa [below] using covers⟩

theorem kSitePolicies_undotted :
    ∀ policy ∈ kSitePolicies, policy.host ≠ [] ∧ ¬ EndsWithDot policy.host := by decide

theorem kSitePolicies_apart : ∀ exact ∈ kSitePolicies, exact.includeSubdomains = false →
    ∀ policy ∈ kSitePolicies, policy.includeSubdomains = true →
      ¬ IsLabelSuffix '.' policy.host exact.host := by decide

variable {host : Bytes} {trait : SiteTrait}

theorem not_namedExactly_dot : ¬ NamedExactly (host ++ ['.']) trait := by
  rintro ⟨policy, mem, -, -, same⟩
  exact ne_of_dot (kSitePolicies_undotted policy mem).2 same

theorem not_namedBelow_of_dot (dotted : EndsWithDot host) : ¬ NamedBelow host trait := by
  rintro ⟨policy, mem, -, -, suffix⟩
  obtain ⟨some_char, undotted⟩ := kSitePolicies_undotted policy mem
  exact not_isLabelSuffix_of_dot dotted some_char undotted suffix

theorem not_namedBelow_of_exactly (exactly : NamedExactly host trait) :
    ¬ NamedBelow host trait := by
  obtain ⟨entry, mem, -, alone, rfl⟩ := exactly
  rintro ⟨policy, mem', -, below, suffix⟩
  exact kSitePolicies_apart entry mem alone policy mem' below suffix

theorem hasTrait_dot (host : Bytes) (trait : SiteTrait) :
    hasTrait (host ++ ['.']) trait = true ↔ NamedBelow host trait := by
  rw [hasTrait_iff_named, removeSuffixChar_dot]
  exact or_iff_left not_namedExactly_dot

/-- The dot makes no difference exactly for a host that is no exact entry and, if it
ends with a dot already, is no subdomain entry without it. -/
theorem hasTrait_dot_eq_iff (host : Bytes) (trait : SiteTrait) :
    hasTrait (host ++ ['.']) trait = hasTrait host trait ↔
      ¬ NamedExactly host trait ∧
        ¬ (EndsWithDot host ∧ NamedBelow (removeSuffixChar '.' host) trait) := by
  rw [Bool.eq_iff_iff, hasTrait_dot, hasTrait_iff_named]
  by_cases dotted : EndsWithDot host
  · have other : ¬ NamedBelow host trait := not_namedBelow_of_dot dotted
    simp only [other, dotted, true_and, false_iff, not_or, and_comm]
  · rw [removeSuffixChar_undotted dotted]
    have apart : NamedExactly host trait → ¬ NamedBelow host trait := not_namedBelow_of_exactly
    simp only [dotted, false_and, not_false_eq_true, and_true]
    tauto

end Traits

section Guard

variable {url twin currentUrl : GURL} {ceiling footprint : ℕ} {topLevel : Bool} {domain : Bytes}

theorem domainIs_twin (pair : DotTwin url twin) (undotted : ¬ EndsWithDot url.host)
    (some_char : domain ≠ []) : twin.domainIs domain = url.domainIs domain := by
  rw [Bool.eq_iff_iff, domainIs_iff, domainIs_iff]
  unfold UnderDomain
  rw [pair.isValid, pair.host, removeSuffixChar_dot, removeSuffixChar_undotted undotted]
  have nonempty (suffix : IsLabelSuffix '.' domain url.host) : url.host ≠ [] := by
    intro empty
    have le := suffix.length_le
    rw [empty] at le
    exact some_char (List.length_eq_zero_iff.mp (Nat.le_zero.mp le))
  exact and_congr_right fun _ => ⟨fun h => ⟨nonempty h.2, h.2⟩, fun h => ⟨by simp, h.2⟩⟩

theorem domainIs_twin_of_dot (pair : DotTwin url twin) (dotted : EndsWithDot url.host)
    (some_char : domain ≠ []) (undotted : ¬ EndsWithDot domain) :
    twin.domainIs domain = false := by
  rw [← Bool.not_eq_true, domainIs_iff]
  rintro ⟨-, -, suffix⟩
  rw [pair.host, removeSuffixChar_dot] at suffix
  exact not_isLabelSuffix_of_dot dotted some_char undotted suffix

def GoogleSearch (url : GURL) : Prop :=
  url.domainIs "google.com".toList = true ∧ url.path = "/search".toList

theorem isHeavySiteURL_iff (url : GURL) :
    isHeavySiteURL url = true ↔ hasTrait url.host kHeavy = true ∨ GoogleSearch url := by
  simp only [isHeavySiteURL, GoogleSearch, Bool.or_eq_true, Bool.and_eq_true, decide_eq_true_eq]

theorem not_heavy_twin_of_dot (pair : DotTwin url twin) (dotted : EndsWithDot url.host) :
    isHeavySiteURL twin = false := by
  have elsewhere : twin.domainIs "google.com".toList = false :=
    domainIs_twin_of_dot pair dotted (by decide) (by decide)
  rw [← Bool.not_eq_true, isHeavySiteURL_iff, pair.host, hasTrait_dot, GoogleSearch, elsewhere]
  rintro (below | ⟨google, -⟩)
  · exact not_namedBelow_of_dot dotted below
  · cases google

theorem heavy_twin_iff (pair : DotTwin url twin) (undotted : ¬ EndsWithDot url.host) :
    isHeavySiteURL twin = true ↔ NamedBelow url.host kHeavy ∨ GoogleSearch url := by
  rw [isHeavySiteURL_iff, pair.host, hasTrait_dot, GoogleSearch, GoogleSearch, pair.path,
    domainIs_twin pair undotted (by decide)]

theorem heavy_iff (undotted : ¬ EndsWithDot url.host) :
    isHeavySiteURL url = true ↔
      NamedBelow url.host kHeavy ∨ GoogleSearch url ∨ NamedExactly url.host kHeavy := by
  rw [isHeavySiteURL_iff, hasTrait_iff_named, removeSuffixChar_undotted undotted]
  tauto

/-- The site is heavy without the further dot only: it is an exact entry and not the
Google search page, or its host ends with a dot already. -/
def HeavyOnce (url : GURL) : Prop :=
  NamedExactly url.host kHeavy ∧ ¬ GoogleSearch url ∨
    EndsWithDot url.host ∧ isHeavySiteURL url = true

theorem undotted_of_exactly {host : Bytes} {trait : SiteTrait} (exactly : NamedExactly host trait) :
    ¬ EndsWithDot host := by
  obtain ⟨policy, mem, -, -, rfl⟩ := exactly
  exact (kSitePolicies_undotted policy mem).2

theorem heavyOnce_iff (pair : DotTwin url twin) :
    HeavyOnce url ↔ isHeavySiteURL url = true ∧ isHeavySiteURL twin = false := by
  by_cases dotted : EndsWithDot url.host
  · have plain : ¬ NamedExactly url.host kHeavy := fun exactly => undotted_of_exactly exactly dotted
    simp only [HeavyOnce, plain, dotted, false_and, false_or, true_and,
      not_heavy_twin_of_dot pair dotted, and_true]
  · have apart : NamedExactly url.host kHeavy → ¬ NamedBelow url.host kHeavy :=
      not_namedBelow_of_exactly
    rw [← Bool.not_eq_true, heavy_iff dotted, heavy_twin_iff pair dotted]
    unfold HeavyOnce
    tauto

theorem heavy_of_twin (pair : DotTwin url twin) (heavy : isHeavySiteURL twin = true) :
    isHeavySiteURL url = true := by
  by_cases dotted : EndsWithDot url.host
  · rw [not_heavy_twin_of_dot pair dotted] at heavy
    cases heavy
  · rw [heavy_iff dotted]
    rw [heavy_twin_iff pair dotted] at heavy
    tauto

/-- The tests that compare the host as it is spelled spare the site. -/
def SparedAsSpelled (url currentUrl : GURL) : Prop :=
  isCommonHeavySite url = true ∨
    (url.host = "accounts.google.com".toList ∧ isGoogleAuthURL currentUrl = true) ∨
    (isHeavySiteURL currentUrl = true ∧ currentUrl.host = url.host)

theorem hostOrSubdomain_dot {host domain : Bytes} (some_char : domain ≠ [])
    (undotted : ¬ EndsWithDot domain) : hostOrSubdomain (host ++ ['.']) domain = false := by
  rw [← Bool.not_eq_true, hostOrSubdomain, Bool.or_eq_true, decide_eq_true_eq,
    List.isSuffixOf_iff_suffix]
  rintro (same | suffix)
  · exact ne_of_dot undotted same
  · have dotted : EndsWithDot (host ++ ['.']) := by simp [EndsWithDot]
    exact not_isLabelSuffix_of_dot dotted some_char undotted (.inr suffix)

theorem isCommonHeavySite_twin (pair : DotTwin url twin) : isCommonHeavySite twin = false := by
  have gemini : twin.host ≠ "gemini.google.com".toList := by
    rw [pair.host]
    exact ne_of_dot (by decide)
  simp only [isCommonHeavySite, gemini, decide_false, Bool.or_false]
  rw [pair.host]
  simp only [Bool.or_eq_false_iff]
  refine ⟨⟨⟨?_, ?_⟩, ?_⟩, ?_⟩ <;> exact hostOrSubdomain_dot (by decide) (by decide)

theorem sameHeavySite_iff (a b : GURL) (heavy : isHeavySiteURL b = true) :
    sameHeavySite a b = true ↔ isHeavySiteURL a = true ∧
      (a.host = b.host ∨ (isRedditURL a = true ∧ isRedditURL b = true) ∨
        (isYouTubeURL a = true ∧ isYouTubeURL b = true)) := by
  cases other : isHeavySiteURL a <;> simp [sameHeavySite, other, heavy, or_assoc]

theorem spared_iff (heavy : isHeavySiteURL url = true) :
    Spared url currentUrl ↔ (isYouTubeURL url = true ∨ isGitHubURL url = true ∨
      isRedditURL url = true) ∨ SparedAsSpelled url currentUrl := by
  unfold Spared SparedAsSpelled
  rw [sameHeavySite_iff _ _ heavy]
  generalize isYouTubeURL url = youTube
  generalize isGitHubURL url = gitHub
  generalize isRedditURL url = reddit
  generalize isCommonHeavySite url = common
  generalize isHeavySiteURL currentUrl = heavy
  generalize (url.host = "accounts.google.com".toList ∧ isGoogleAuthURL currentUrl = true) = auth
  tauto

theorem spared_twin_iff (pair : DotTwin url twin) (undotted : ¬ EndsWithDot url.host)
    (heavy : isHeavySiteURL twin = true) :
    Spared twin currentUrl ↔ (isYouTubeURL url = true ∨ isGitHubURL url = true ∨
      isRedditURL url = true) ∨
      (isHeavySiteURL currentUrl = true ∧ currentUrl.host = url.host ++ ['.']) := by
  have accounts : twin.host ≠ "accounts.google.com".toList := by
    rw [pair.host]
    exact ne_of_dot (by decide)
  have youTube : isYouTubeURL twin = isYouTubeURL url := domainIs_twin pair undotted (by decide)
  have gitHub : isGitHubURL twin = isGitHubURL url := domainIs_twin pair undotted (by decide)
  have reddit : isRedditURL twin = isRedditURL url := domainIs_twin pair undotted (by decide)
  unfold Spared
  rw [sameHeavySite_iff _ _ heavy, isCommonHeavySite_twin pair, youTube, gitHub, reddit, pair.host]
  rw [pair.host] at accounts
  simp only [accounts, false_and, false_or, Bool.false_eq_true]
  generalize isYouTubeURL url = youTube
  generalize isGitHubURL url = gitHub
  generalize isRedditURL url = reddit
  generalize isHeavySiteURL currentUrl = heavy
  tauto

theorem guard_eq_iff_refused {other : GURL} (heavy : isHeavySiteURL url = true)
    (heavy' : isHeavySiteURL other = true) :
    applyGlobalMemoryGuard ceiling footprint other currentUrl topLevel =
        applyGlobalMemoryGuard ceiling footprint url currentUrl topLevel ↔
      (Refused ceiling footprint other currentUrl topLevel ↔
        Refused ceiling footprint url currentUrl topLevel) := by
  have differ : ({ purge ceiling footprint with blocked := true, lowMemoryMode := true } :
      GuardOutcome) ≠ purge ceiling footprint := by
    intro same
    have blocked := congrArg GuardOutcome.blocked same
    simp [purge] at blocked
  by_cases refused : Refused ceiling footprint url currentUrl topLevel
  · by_cases refused' : Refused ceiling footprint other currentUrl topLevel
    · simp [guard_refused heavy refused, guard_refused heavy' refused', refused, refused']
    · simp only [guard_refused heavy refused, guard_purges heavy' refused', refused, refused']
      simpa using differ.symm
  · by_cases refused' : Refused ceiling footprint other currentUrl topLevel
    · simp only [guard_purges heavy refused, guard_refused heavy' refused', refused, refused']
      simpa using differ
    · simp [guard_purges heavy refused, guard_purges heavy' refused', refused, refused']

/-- The tests that decide on a refusal past the last threshold agree on the dot. -/
def RefusalAgrees (ceiling footprint : ℕ) (url currentUrl : GURL) (topLevel : Bool) : Prop :=
  isHeavySiteURL url = true → topLevel = true → blockNewContentsFootprint ceiling ≤ footprint →
    isYouTubeURL url = false → isGitHubURL url = false → isRedditURL url = false →
    (SparedAsSpelled url currentUrl ↔
      isHeavySiteURL currentUrl = true ∧ currentUrl.host = url.host ++ ['.'])

theorem refused_twin_iff (pair : DotTwin url twin) (undotted : ¬ EndsWithDot url.host)
    (heavy : isHeavySiteURL url = true) (heavy' : isHeavySiteURL twin = true) :
    (Refused ceiling footprint twin currentUrl topLevel ↔
        Refused ceiling footprint url currentUrl topLevel) ↔
      RefusalAgrees ceiling footprint url currentUrl topLevel := by
  unfold Refused RefusalAgrees
  rw [spared_iff heavy, spared_twin_iff pair undotted heavy']
  simp only [heavy, true_imp_iff, ← Bool.not_eq_true]
  generalize isYouTubeURL url = youTube
  generalize isGitHubURL url = gitHub
  generalize isRedditURL url = reddit
  generalize (isHeavySiteURL currentUrl = true ∧ currentUrl.host = url.host ++ ['.']) = dotted
  generalize SparedAsSpelled url currentUrl = spelled
  tauto

/-- Below the first threshold the dot makes no difference to the guard; from there
on it makes none exactly if both spellings are heavy or neither is, and the tests
that decide on a refusal agree. -/
theorem guard_twin_iff (pair : DotTwin url twin) :
    applyGlobalMemoryGuard ceiling footprint twin currentUrl topLevel =
        applyGlobalMemoryGuard ceiling footprint url currentUrl topLevel ↔
      footprint < moderateFootprint ceiling ∨
        ¬ HeavyOnce url ∧ RefusalAgrees ceiling footprint url currentUrl topLevel := by
  rcases Nat.lt_or_ge footprint (moderateFootprint ceiling) with low | high
  · simp [guard_low low, low]
  rw [or_iff_right (by omega), heavyOnce_iff pair]
  cases heavy : isHeavySiteURL url with
  | false =>
    have light : isHeavySiteURL twin = false := by
      rw [← Bool.not_eq_true]
      intro heavy'
      rw [heavy_of_twin pair heavy'] at heavy
      cases heavy
    have vacuous : RefusalAgrees ceiling footprint url currentUrl topLevel := by
      intro heavy'
      rw [heavy] at heavy'
      cases heavy'
    simp [guard_light heavy, guard_light light, vacuous]
  | true =>
    cases heavy' : isHeavySiteURL twin with
    | false =>
      rw [guard_light heavy']
      simpa using (guard_ne_nothing heavy high).symm
    | true =>
      have undotted : ¬ EndsWithDot url.host := by
        intro dotted
        rw [not_heavy_twin_of_dot pair dotted] at heavy'
        cases heavy'
      rw [guard_eq_iff_refused heavy heavy', refused_twin_iff pair undotted heavy heavy']
      simp

end Guard

/-- What the site policy says does not depend on a dot behind the host. -/
def TraitsIgnoreDot : Prop := ∀ host trait, hasTrait (host ++ ['.']) trait = hasTrait host trait

/-- What the memory guard does depends on it neither. -/
def GuardIgnoresDot : Prop :=
  ∀ ceiling footprint url twin currentUrl topLevel, DotTwin url twin →
    applyGlobalMemoryGuard ceiling footprint twin currentUrl topLevel =
      applyGlobalMemoryGuard ceiling footprint url currentUrl topLevel

/-- Where a dot behind the host makes no difference, to a trait and to the guard. -/
theorem dot_ignored_iff (host : Bytes) (trait : SiteTrait) (ceiling footprint : ℕ)
    (url twin currentUrl : GURL) (topLevel : Bool) :
    (hasTrait (host ++ ['.']) trait = hasTrait host trait ↔
      ¬ NamedExactly host trait ∧
        ¬ (EndsWithDot host ∧ NamedBelow (removeSuffixChar '.' host) trait)) ∧
    (DotTwin url twin →
      (applyGlobalMemoryGuard ceiling footprint twin currentUrl topLevel =
          applyGlobalMemoryGuard ceiling footprint url currentUrl topLevel ↔
        footprint < moderateFootprint ceiling ∨
          ¬ HeavyOnce url ∧ RefusalAgrees ceiling footprint url currentUrl topLevel)) :=
  ⟨hasTrait_dot_eq_iff host trait, guard_twin_iff⟩

def siteURL (host : String) : GURL :=
  ⟨true, "https://".toList ++ host.toList ++ ['/'], "https".toList, host.toList, ['/']⟩

def dottedURL (host : String) : GURL :=
  ⟨true, "https://".toList ++ host.toList ++ "./".toList, "https".toList, host.toList ++ ['.'],
    ['/']⟩

theorem siteURL_twin (host : String) : DotTwin (siteURL host) (dottedURL host) :=
  ⟨rfl, rfl, rfl, rfl⟩

/-- Both spellings of `www.youtube.com` are purged for only. -/
theorem dot_ignored_iff_youTube :
    applyGlobalMemoryGuard kFallbackCeiling (800 * kMiB) (dottedURL "www.youtube.com") GURL.none
        true =
      applyGlobalMemoryGuard kFallbackCeiling (800 * kMiB) (siteURL "www.youtube.com") GURL.none
        true := by
  have pair := siteURL_twin "www.youtube.com"
  have both : ¬ HeavyOnce (siteURL "www.youtube.com") := by
    rw [heavyOnce_iff pair]
    decide
  have agrees : RefusalAgrees kFallbackCeiling (800 * kMiB) (siteURL "www.youtube.com")
      GURL.none true :=
    fun _ _ _ other => absurd other (by decide)
  exact ((dot_ignored_iff [] kHeavy kFallbackCeiling (800 * kMiB) _ _ GURL.none true).2 pair).mpr
    (.inr ⟨both, agrees⟩)

/-- `accounts.google.com.` carries no trait, `discord.com.` is refused. -/
theorem dot_not_ignored : ¬ TraitsIgnoreDot ∧ ¬ GuardIgnoresDot := by
  constructor
  · intro ignore
    have same := ignore "accounts.google.com".toList kHeavy
    revert same
    decide
  · intro ignore
    have same :=
      ignore kFallbackCeiling (800 * kMiB) _ _ GURL.none true (siteURL_twin "discord.com")
    revert same
    decide

end BlinkerFluid.HostSpelling
