import BlinkerFluid.WebAddress

/-! The site policy table of `blinker_site_policy.h`: which hosts carry which
traits. Trait sets are kept as the bit masks of the source. -/

namespace BlinkerFluid.SitePolicy
open ByteString LabelSuffix WebAddress

def hostMatchesDomain (host domain : Bytes) : Bool :=
  let host := removeSuffixChar '.' host
  host = domain ||
    (domain.length < host.length && domain.isSuffixOf host &&
      (host.drop (host.length - domain.length - 1)).head? = some '.')

theorem hostMatchesDomain_iff (host domain : Bytes) :
    hostMatchesDomain host domain = true ↔
      IsLabelSuffix '.' domain (removeSuffixChar '.' host) := by
  generalize hh : removeSuffixChar '.' host = host'
  simp only [hostMatchesDomain, hh, Bool.or_eq_true, Bool.and_eq_true, decide_eq_true_eq,
    List.isSuffixOf_iff_suffix]
  constructor
  · rintro (rfl | ⟨⟨lt, hs⟩, dot⟩)
    · exact .refl _ _
    · exact .inr ((head_drop_eq_iff hs lt).mp dot)
  · rintro (rfl | h)
    · exact .inl rfl
    · have lt := length_lt_of_cons_suffix h
      have hs := (List.suffix_cons '.' domain).trans h
      exact .inr ⟨⟨lt, hs⟩, (head_drop_eq_iff hs lt).mpr h⟩

abbrev SiteTrait := Nat

def kHeavy : SiteTrait := 1 <<< 0
def kAI : SiteTrait := 1 <<< 1
def kMonitorMemory : SiteTrait := 1 <<< 2
def kChatKeyboard : SiteTrait := 1 <<< 3
def kSkipSessionRestore : SiteTrait := 1 <<< 4
def kVerificationResource : SiteTrait := 1 <<< 5

structure Policy where
  host : Bytes
  includeSubdomains : Bool
  traits : Nat

def kSitePolicies : List Policy := [
  ⟨"reddit.com".toList, true, kHeavy ||| kSkipSessionRestore⟩,
  ⟨"youtube.com".toList, true, kHeavy⟩,
  ⟨"github.com".toList, true, kHeavy ||| kMonitorMemory⟩,
  ⟨"claude.ai".toList, true, kHeavy ||| kAI ||| kMonitorMemory ||| kChatKeyboard⟩,
  ⟨"chatgpt.com".toList, true, kHeavy ||| kAI ||| kMonitorMemory ||| kChatKeyboard⟩,
  ⟨"mail.google.com".toList, false, kHeavy ||| kMonitorMemory ||| kSkipSessionRestore⟩,
  ⟨"gemini.google.com".toList, false, kHeavy ||| kMonitorMemory ||| kChatKeyboard⟩,
  ⟨"accounts.google.com".toList, false,
    kHeavy ||| kSkipSessionRestore ||| kVerificationResource⟩,
  ⟨"discord.com".toList, true, kHeavy⟩,
  ⟨"homedepot.com".toList, true, kHeavy⟩,
  ⟨"recaptcha.net".toList, true, kVerificationResource⟩,
  ⟨"hcaptcha.com".toList, true, kVerificationResource⟩,
  ⟨"challenges.cloudflare.com".toList, false, kVerificationResource⟩,
  ⟨"arkoselabs.com".toList, true, kVerificationResource⟩,
  ⟨"funcaptcha.com".toList, true, kVerificationResource⟩]

def hasTrait (host : Bytes) (trait : SiteTrait) : Bool :=
  kSitePolicies.any fun policy =>
    policy.traits &&& trait ≠ 0 &&
      (if policy.includeSubdomains then hostMatchesDomain host policy.host
       else host = policy.host)

/-- A policy of the table names the trait and covers the host, with its
subdomains or as that very host. -/
def CarriesTrait (host : Bytes) (trait : SiteTrait) : Prop :=
  ∃ policy ∈ kSitePolicies, policy.traits &&& trait ≠ 0 ∧
    if policy.includeSubdomains then IsLabelSuffix '.' policy.host (removeSuffixChar '.' host)
    else host = policy.host

theorem hasTrait_iff (host : Bytes) (trait : SiteTrait) :
    hasTrait host trait = true ↔ CarriesTrait host trait := by
  simp only [hasTrait, CarriesTrait, List.any_eq_true, Bool.and_eq_true, decide_eq_true_eq]
  refine exists_congr fun policy => and_congr_right fun _ => and_congr_right fun _ => ?_
  cases policy.includeSubdomains <;> simp [hostMatchesDomain_iff]

example : hasTrait "www.recaptcha.net".toList kVerificationResource = true := by decide
example : hasTrait "other.accounts.google.com".toList kVerificationResource = false := by decide

end BlinkerFluid.SitePolicy
