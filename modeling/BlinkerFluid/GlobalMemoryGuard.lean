import BlinkerFluid.SitePolicy

/-! `ApplyGlobalMemoryGuard`: what the process does about memory before a heavy site
is loaded, and whether the load is refused. The thresholds are fractions of the
memory ceiling of the process; a reading of the ceiling and of the footprint is
given for each call. -/

namespace BlinkerFluid.GlobalMemoryGuard
open ByteString LabelSuffix WebAddress SitePolicy

def kMiB : ℕ := 1024 * 1024

def kFallbackCeiling : ℕ := 900 * kMiB

def kModeratePercent : ℕ := 55
def kCriticalPercent : ℕ := 72
def kBlockNewContentsPercent : ℕ := 82

def moderateFootprint (ceiling : ℕ) : ℕ := ceiling * kModeratePercent / 100

def criticalFootprint (ceiling : ℕ) : ℕ := ceiling * kCriticalPercent / 100

def blockNewContentsFootprint (ceiling : ℕ) : ℕ := ceiling * kBlockNewContentsPercent / 100

theorem footprints_ordered (ceiling : ℕ) :
    moderateFootprint ceiling ≤ criticalFootprint ceiling ∧
      criticalFootprint ceiling ≤ blockNewContentsFootprint ceiling := by
  unfold moderateFootprint criticalFootprint blockNewContentsFootprint kModeratePercent
    kCriticalPercent kBlockNewContentsPercent
  omega

def isRedditURL (url : GURL) : Bool := url.domainIs "reddit.com".toList

def isYouTubeURL (url : GURL) : Bool := url.domainIs "youtube.com".toList

def isGitHubURL (url : GURL) : Bool := url.domainIs "github.com".toList

def isGoogleAuthURL (url : GURL) : Bool := url.domainIs "google.com".toList

def isHeavySiteURL (url : GURL) : Bool :=
  hasTrait url.host kHeavy || (url.domainIs "google.com".toList && url.path = "/search".toList)

def sameHeavySite (a b : GURL) : Bool :=
  if !isHeavySiteURL a || !isHeavySiteURL b then false
  else a.host = b.host || (isRedditURL a && isRedditURL b) || (isYouTubeURL a && isYouTubeURL b)

/-- `host == domain || EndsWith(host, "." + domain)`. -/
def hostOrSubdomain (host domain : Bytes) : Bool :=
  host = domain || ('.' :: domain).isSuffixOf host

/-- The sites with a purge-only mode besides YouTube and GitHub. -/
def isCommonHeavySite (url : GURL) : Bool :=
  hostOrSubdomain url.host "discord.com".toList ||
    hostOrSubdomain url.host "homedepot.com".toList ||
    hostOrSubdomain url.host "claude.ai".toList || hostOrSubdomain url.host "chatgpt.com".toList ||
    url.host = "gemini.google.com".toList

inductive PressureLevel where
  | moderate
  | critical
deriving DecidableEq

/-- Whether the load is refused, and with what the guard reacted: the pressure levels
it has notified, whether it has shed the background tabs, and whether it has switched
the low-memory mode on. -/
structure GuardOutcome where
  blocked : Bool := false
  notified : List PressureLevel := []
  discardsBackgroundTabs : Bool := false
  lowMemoryMode : Bool := false
deriving DecidableEq

def purge (ceiling footprint : ℕ) : GuardOutcome :=
  { notified :=
      (if footprint ≥ moderateFootprint ceiling then [.moderate] else []) ++
        if footprint ≥ criticalFootprint ceiling then [.critical] else []
    discardsBackgroundTabs := footprint ≥ criticalFootprint ceiling }

def applyGlobalMemoryGuard (ceiling footprint : ℕ) (url currentUrl : GURL)
    (topLevelStartingNavigation : Bool) : GuardOutcome :=
  if !isHeavySiteURL url then {}
  else
    let purged := purge ceiling footprint
    if isYouTubeURL url then purged
    else if isGitHubURL url then purged
    else if isCommonHeavySite url then purged
    else if url.host = "accounts.google.com".toList && isGoogleAuthURL currentUrl then purged
    else if topLevelStartingNavigation && footprint ≥ blockNewContentsFootprint ceiling &&
        !sameHeavySite currentUrl url && !isRedditURL url then
      { purged with blocked := true, lowMemoryMode := true }
    else purged

/-- A heavy site that is never refused on the way from `currentUrl`. -/
def Spared (url currentUrl : GURL) : Prop :=
  isYouTubeURL url = true ∨ isGitHubURL url = true ∨ isCommonHeavySite url = true ∨
    (url.host = "accounts.google.com".toList ∧ isGoogleAuthURL currentUrl = true) ∨
    sameHeavySite currentUrl url = true ∨ isRedditURL url = true

instance (url currentUrl : GURL) : Decidable (Spared url currentUrl) :=
  inferInstanceAs (Decidable (_ ∨ _))

section Outcome

variable {ceiling footprint : ℕ} {url currentUrl : GURL} {topLevel : Bool}

theorem guard_light (light : isHeavySiteURL url = false) :
    applyGlobalMemoryGuard ceiling footprint url currentUrl topLevel = {} := by
  simp [applyGlobalMemoryGuard, light]

/-- The load of a heavy site is refused if it is top-level, the footprint is past
the last threshold and nothing spares the site. -/
def Refused (ceiling footprint : ℕ) (url currentUrl : GURL) (topLevel : Bool) : Prop :=
  topLevel = true ∧ blockNewContentsFootprint ceiling ≤ footprint ∧ ¬ Spared url currentUrl

instance : Decidable (Refused ceiling footprint url currentUrl topLevel) :=
  inferInstanceAs (Decidable (_ ∧ _))

theorem guard_refused (heavy : isHeavySiteURL url = true)
    (refused : Refused ceiling footprint url currentUrl topLevel) :
    applyGlobalMemoryGuard ceiling footprint url currentUrl topLevel =
      { purge ceiling footprint with blocked := true, lowMemoryMode := true } := by
  obtain ⟨rfl, high, notSpared⟩ := refused
  simp only [Spared, not_or, not_and, Bool.not_eq_true] at notSpared
  obtain ⟨youTube, gitHub, common, accounts, same, reddit⟩ := notSpared
  have auth : (decide (url.host = "accounts.google.com".toList) && isGoogleAuthURL currentUrl) =
      false := by
    rw [Bool.and_eq_false_imp, decide_eq_true_eq]
    exact accounts
  simp only [applyGlobalMemoryGuard, heavy, youTube, gitHub, common, auth, same, reddit, high,
    decide_true, Bool.not_true, Bool.not_false, Bool.and_self, Bool.false_eq_true,
    if_false, if_true]

theorem guard_purges (heavy : isHeavySiteURL url = true)
    (passed : ¬ Refused ceiling footprint url currentUrl topLevel) :
    applyGlobalMemoryGuard ceiling footprint url currentUrl topLevel =
      purge ceiling footprint := by
  simp only [applyGlobalMemoryGuard, heavy, Bool.not_true, Bool.false_eq_true, if_false]
  split_ifs with youTube gitHub common auth refused
  · rfl
  · rfl
  · rfl
  · rfl
  · simp only [Bool.and_eq_true, decide_eq_true_eq, Bool.not_eq_true', ge_iff_le] at auth refused
    refine absurd ⟨refused.1.1.1, refused.1.1.2, ?_⟩ passed
    rintro (h | h | h | h | h | h)
    · exact youTube h
    · exact gitHub h
    · exact common h
    · exact auth h
    · exact Bool.false_ne_true (refused.1.2.symm.trans h)
    · exact Bool.false_ne_true (refused.2.symm.trans h)
  · rfl

theorem guard_blocked_iff :
    (applyGlobalMemoryGuard ceiling footprint url currentUrl topLevel).blocked = true ↔
      isHeavySiteURL url = true ∧ Refused ceiling footprint url currentUrl topLevel := by
  cases heavy : isHeavySiteURL url with
  | false => simp [guard_light heavy]
  | true =>
    by_cases refused : Refused ceiling footprint url currentUrl topLevel
    · simp [guard_refused heavy refused, refused]
    · simp [guard_purges heavy refused, refused, purge]

theorem guard_low (low : footprint < moderateFootprint ceiling) :
    applyGlobalMemoryGuard ceiling footprint url currentUrl topLevel = {} := by
  have ordered := footprints_ordered ceiling
  cases heavy : isHeavySiteURL url with
  | false => exact guard_light heavy
  | true =>
    rw [guard_purges heavy fun refused => absurd refused.2.1 (by omega)]
    simp only [purge, if_neg (by omega : ¬ footprint ≥ moderateFootprint ceiling),
      if_neg (by omega : ¬ footprint ≥ criticalFootprint ceiling), List.append_nil,
      decide_eq_false (by omega : ¬ footprint ≥ criticalFootprint ceiling)]

theorem guard_ne_nothing (heavy : isHeavySiteURL url = true)
    (high : moderateFootprint ceiling ≤ footprint) :
    applyGlobalMemoryGuard ceiling footprint url currentUrl topLevel ≠ {} := by
  intro nothing
  have notified := congrArg GuardOutcome.notified nothing
  by_cases refused : Refused ceiling footprint url currentUrl topLevel
  · rw [guard_refused heavy refused] at notified
    simp [purge, high] at notified
  · rw [guard_purges heavy refused] at notified
    simp [purge, high] at notified

end Outcome

end BlinkerFluid.GlobalMemoryGuard
