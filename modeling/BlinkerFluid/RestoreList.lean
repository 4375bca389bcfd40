import BlinkerFluid.OpenTabs
import Mathlib.Tactic.FinCases

/-! Which tabs a stored list restores, and what the stored list keeps of them. The
restored list is a bounded filter of the stored one; an address that was restored and
is saved again restores to itself. -/

namespace BlinkerFluid.RestoreList
open ByteString WebAddress OpenTabs

variable {p : Platform}

/-- What the parser guarantees: canonical specs parse to themselves and are printable, and
only `GURL()` has an empty one. -/
structure Canonical (parse : Bytes → GURL) : Prop where
  nothing : parse [] = .none
  blank : parse kAboutBlankURL = blankURL
  reparse : ∀ s, (parse s).isValid = true → (parse s).schemeIsHTTPOrHTTPS = true →
    parse (parse s).spec = parse s
  printable : ∀ s, (parse s).isValid = true → '\x00' ∉ (parse s).spec
  empty : ∀ s, (parse s).spec = [] → parse s = .none

/-- A page of the web that a launch loads by itself. -/
structure RealPage (p : Platform) (url : GURL) : Prop where
  parsed : ∃ s, url = p.parse s
  valid : url.isValid = true
  http : url.schemeIsHTTPOrHTTPS = true
  safe : isSafeRestoreURL url = true

/-- A tab that can come out of a stored list. -/
def Restorable (p : Platform) (url : GURL) : Prop := url = blankURL ∨ RealPage p url

theorem not_isAboutBlank_of_http (url : GURL) (http : url.schemeIsHTTPOrHTTPS = true) :
    url.isAboutBlank = false := by
  rw [GURL.schemeIsHTTPOrHTTPS, Bool.or_eq_true, decide_eq_true_eq, decide_eq_true_eq] at http
  rcases http with scheme | scheme <;> simp [GURL.isAboutBlank, scheme]

theorem RealPage.not_isAboutBlank {url : GURL} (real : RealPage p url) :
    url.isAboutBlank = false := not_isAboutBlank_of_http url real.http

theorem Restorable.valid {url : GURL} (restorable : Restorable p url) : url.isValid = true := by
  rcases restorable with rfl | real
  · rfl
  · exact real.valid

theorem Restorable.spec_ne_nil (canonical : Canonical p.parse) {url : GURL}
    (restorable : Restorable p url) : url.spec ≠ [] := by
  rcases restorable with rfl | real
  · decide
  · obtain ⟨s, rfl⟩ := real.parsed
    intro empty
    have valid := real.valid
    rw [canonical.empty s empty] at valid
    cases valid

theorem RealPage.length_le {url : GURL} (real : RealPage p url) :
    url.spec.length ≤ kMaxRestoreURLLength := by
  have safe := real.safe
  rw [isSafeRestoreURL, real.not_isAboutBlank, real.valid, real.http] at safe
  by_contra long
  simp only [Nat.not_le.mp long, if_true] at safe
  simp at safe

theorem restorable_of_restoreURL {entry : Option Bytes} {url : GURL}
    (restored : restoreURL p entry = some url) : Restorable p url := by
  cases entry with
  | none => cases restored
  | some s =>
    simp only [restoreURL] at restored
    by_cases safe : isSafeRestoreURL (p.parse (cfStringGetCString 4096 s)) = true
    · simp only [safe, Bool.not_true, Bool.false_eq_true, if_false] at restored
      by_cases blank : (p.parse (cfStringGetCString 4096 s)).isAboutBlank = true
      · rw [if_pos blank, Option.some.injEq] at restored
        exact .inl restored.symm
      · rw [if_neg blank, Option.some.injEq] at restored
        subst restored
        have web : (p.parse (cfStringGetCString 4096 s)).isValid = true ∧
            (p.parse (cfStringGetCString 4096 s)).schemeIsHTTPOrHTTPS = true := by
          by_contra other
          have verdict := safe
          rw [isSafeRestoreURL, if_neg blank, if_pos (by simpa [Decidable.imp_iff_not_or] using other)]
            at verdict
          cases verdict
        exact .inr ⟨⟨_, rfl⟩, web.1, web.2, safe⟩
    · rw [if_pos (by simpa using safe)] at restored
      cases restored

theorem cfStringGetCString_printable (size : ℕ) (s : Bytes) (printable : '\x00' ∉ s) :
    cfStringGetCString size s = if s.length < size then s else [] := by
  have whole : s.takeWhile (· ≠ '\x00') = s := by
    apply List.takeWhile_eq_self_iff.mpr
    intro c mem
    rw [decide_eq_true_eq]
    rintro rfl
    exact printable mem
  rw [cfStringGetCString, whole]

theorem cfStringGetCString_spec (canonical : Canonical p.parse) {url : GURL}
    (real : RealPage p url) : cfStringGetCString 4096 url.spec = url.spec := by
  obtain ⟨s, rfl⟩ := real.parsed
  have short := real.length_le
  rw [cfStringGetCString_printable _ _ (canonical.printable s real.valid)]
  exact if_pos (by unfold kMaxRestoreURLLength at short; omega)

theorem restoreURL_spec (canonical : Canonical p.parse) {url : GURL}
    (restorable : Restorable p url) : restoreURL p (some url.spec) = some url := by
  rcases restorable with rfl | real
  · have whole : cfStringGetCString 4096 blankURL.spec = kAboutBlankURL := by decide
    have safe : isSafeRestoreURL blankURL = true := by decide
    have blank : blankURL.isAboutBlank = true := by decide
    simp only [restoreURL, whole, canonical.blank, safe, blank]
    rfl
  · have same : p.parse url.spec = url := by
      obtain ⟨s, rfl⟩ := real.parsed
      exact canonical.reparse s real.valid real.http
    simp only [restoreURL, cfStringGetCString_spec canonical real, same, real.safe,
      real.not_isAboutBlank]
    rfl

/-- The loop appends the first restorable entries, up to the bound. -/
theorem collectRestoreURLs_eq (p : Platform) (entries : List (Option Bytes))
    (result : List GURL) (real : Bool) (bounded : result.length ≤ kMaxRestore) :
    collectRestoreURLs p entries (result, real) =
      (result ++ (entries.filterMap (restoreURL p)).take (kMaxRestore - result.length),
        real || ((entries.filterMap (restoreURL p)).take (kMaxRestore - result.length)).any
          fun url => !url.isAboutBlank) := by
  induction entries generalizing result real with
  | nil => simp [collectRestoreURLs]
  | cons entry entries ih =>
    rw [collectRestoreURLs]
    by_cases full : kMaxRestore ≤ result.length
    · have nothing : kMaxRestore - result.length = 0 := by omega
      simp [full, nothing]
    · rw [if_neg full]
      cases restored : restoreURL p entry with
      | none =>
        rw [List.filterMap_cons_none restored]
        exact ih result real bounded
      | some url =>
        have more : kMaxRestore - result.length = kMaxRestore - (result ++ [url]).length + 1 := by
          rw [List.length_append, List.length_singleton]
          omega
        rw [List.filterMap_cons_some restored, more, List.take_succ_cons]
        simp only
        rw [ih (result ++ [url]) _ (by rw [List.length_append, List.length_singleton]; omega)]
        simp [Bool.or_assoc]

/-- The restorable entries of a stored list, at most twelve of them. -/
def candidates (p : Platform) (d : Preferences) : List GURL :=
  (d.openTabs.filterMap (restoreURL p)).take kMaxRestore

theorem getRestoreTabURLs_urls (p : Platform) (d : Preferences) :
    (getRestoreTabURLs p d).2 =
      if d.privateBrowsing = false ∧ (candidates p d).any (fun url => !url.isAboutBlank) = true then
        candidates p d
      else [] := by
  have collected := collectRestoreURLs_eq p d.openTabs [] false (Nat.zero_le _)
  simp only [List.nil_append, List.length_nil, Nat.sub_zero, Bool.false_or] at collected
  unfold getRestoreTabURLs candidates
  cases d.privateBrowsing with
  | true => simp [markLaunchRunning]
  | false =>
    by_cases guarded : d.restoreGuard = true ∨ d.launchState = running
    · simp only [markLaunchRunning, guarded, if_true, collected]
      split_ifs <;> simp_all
    · simp only [markLaunchRunning, guarded, if_false, collected]
      split_ifs <;> simp_all

theorem getRestoreTabURLs_preferences (p : Platform) (d : Preferences) :
    ∃ guard, (getRestoreTabURLs p d).1 =
      { d with
        uncleanLaunchCount := if d.launchState = running then d.uncleanLaunchCount + 1 else 0
        launchState := running
        restoreGuard := guard } := by
  unfold getRestoreTabURLs
  by_cases hidden : d.privateBrowsing = true
  · exact ⟨d.restoreGuard, congrArg Prod.fst (if_pos hidden)⟩
  · simp only [markLaunchRunning, hidden]
    by_cases guarded : d.restoreGuard = true ∨ d.launchState = running
    · simp only [guarded, if_true]
      cases (collectRestoreURLs p d.openTabs ([], false)).2 with
      | true => exact ⟨true, by simp⟩
      | false => exact ⟨false, by simp⟩
    · simp only [guarded, if_false]
      cases (collectRestoreURLs p d.openTabs ([], false)).2 with
      | true => exact ⟨true, by simp⟩
      | false => exact ⟨d.restoreGuard, by simp⟩

theorem restorable_of_mem {d : Preferences} {url : GURL} (mem : url ∈ (getRestoreTabURLs p d).2) :
    Restorable p url := by
  rw [getRestoreTabURLs_urls] at mem
  split_ifs at mem
  · obtain ⟨entry, -, restored⟩ := List.mem_filterMap.mp (List.mem_of_mem_take mem)
    exact restorable_of_restoreURL restored
  · cases mem

def savedAs (url : GURL) : Option Bytes :=
  if !url.isValid || url.isAboutBlank then some kAboutBlankURL
  else if url.schemeIsHTTPOrHTTPS then some url.spec
  else none

theorem savedAs_restorable {url : GURL} (restorable : Restorable p url) :
    savedAs url = some url.spec := by
  rcases restorable with rfl | real
  · decide
  · simp [savedAs, real.valid, real.not_isAboutBlank, real.http]

theorem getRestoreTabURLs_saved (canonical : Canonical p.parse) (d d' : Preferences)
    (found : (getRestoreTabURLs p d).2 ≠ []) (shown : d'.privateBrowsing = false)
    (saved : d'.openTabs = (getRestoreTabURLs p d).2.map fun url => some url.spec) :
    (getRestoreTabURLs p d').2 = (getRestoreTabURLs p d).2 := by
  have restored : d'.openTabs.filterMap (restoreURL p) = (getRestoreTabURLs p d).2 := by
    rw [saved, List.filterMap_map]
    calc (getRestoreTabURLs p d).2.filterMap (restoreURL p ∘ fun url => some url.spec)
        = (getRestoreTabURLs p d).2.filterMap some :=
          List.filterMap_congr fun url mem => restoreURL_spec canonical (restorable_of_mem mem)
      _ = (getRestoreTabURLs p d).2 := List.filterMap_some
  have again : candidates p d' = (getRestoreTabURLs p d).2 := by
    rw [candidates, restored]
    apply List.take_of_length_le
    rw [getRestoreTabURLs_urls]
    split_ifs
    · exact List.length_take_le _ _
    · exact Nat.zero_le _
  rw [getRestoreTabURLs_urls p d', again]
  refine if_pos ⟨shown, ?_⟩
  rw [getRestoreTabURLs_urls] at found ⊢
  split_ifs at found ⊢ with real
  · exact real.2
  · exact absurd rfl found

def sampleHosts : List Bytes := ["a.test".toList, "b.test".toList]

def samplePage (host : Bytes) : Bytes := "https://".toList ++ host ++ "/".toList

def sampleParse (s : Bytes) : GURL :=
  if s = kAboutBlankURL then blankURL
  else match sampleHosts.find? fun host => samplePage host = s with
    | some host => ⟨true, s, "https".toList, host, "/".toList⟩
    | none => .none

theorem sampleParse_page (host : Bytes) (known : host ∈ sampleHosts) :
    sampleParse (samplePage host) =
      ⟨true, samplePage host, "https".toList, host, "/".toList⟩ := by
  fin_cases known <;> decide

theorem sampleParse_cases (s : Bytes) :
    sampleParse s = blankURL ∨ (∃ host ∈ sampleHosts, s = samplePage host) ∨
      sampleParse s = .none := by
  unfold sampleParse
  split_ifs with blank
  · exact .inl rfl
  · cases found : sampleHosts.find? fun host => samplePage host = s with
    | none => exact .inr (.inr rfl)
    | some host =>
      have page := List.find?_some found
      rw [decide_eq_true_eq] at page
      exact .inr (.inl ⟨host, List.mem_of_find?_eq_some found, page.symm⟩)

theorem sampleParse_canonical : Canonical sampleParse where
  nothing := by decide
  blank := rfl
  reparse := by
    intro s valid http
    rcases sampleParse_cases s with blank | ⟨host, known, rfl⟩ | invalid
    · rw [blank] at http
      exact absurd http (by decide)
    · rw [sampleParse_page host known, sampleParse_page host known]
    · rw [invalid] at valid
      cases valid
  printable := by
    intro s valid
    rcases sampleParse_cases s with blank | ⟨host, known, rfl⟩ | invalid
    · rw [blank]
      decide
    · rw [sampleParse_page host known]
      fin_cases known <;> decide
    · rw [invalid] at valid
      cases valid
  empty := by
    intro s empty
    rcases sampleParse_cases s with blank | ⟨host, known, rfl⟩ | invalid
    · rw [blank] at empty
      cases empty
    · rw [sampleParse_page host known] at empty
      cases empty
    · exact invalid

def samplePlatform : Platform := ⟨sampleParse, "New Tab".toList⟩

def stored (hosts : List Bytes) : Preferences :=
  ⟨"clean_exit".toList, 0, false, false, [], hosts.map fun host => some (samplePage host),
    fun _ => none⟩

end BlinkerFluid.RestoreList
