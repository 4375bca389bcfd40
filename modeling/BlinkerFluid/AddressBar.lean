import BlinkerFluid.WebAddress

/-! `openUserInput:`, what the address bar does with a text, next to the scheme a
text has by the WHATWG rules. Under HTTPS-First the text itself is rewritten if it
starts with `http://`; the URL parser recognizes the scheme in other spellings. -/

namespace BlinkerFluid.AddressBar
open ByteString WebAddress

section Scheme

/-- C0 controls and the space, stripped from both ends of a URL. -/
def isC0ControlOrSpace (c : Char) : Bool := c.toNat ≤ 32

def isTabOrNewline (c : Char) : Bool := c = '\t' || c = '\n' || c = '\r'

def schemeInput (text : Bytes) : Bytes :=
  (trim isC0ControlOrSpace text).filter fun c => !isTabOrNewline c

def isSchemeChar (c : Char) : Bool := isAsciiAlphaNumeric c || c = '+' || c = '-' || c = '.'

/-- The scheme of a text without a base URL, in lower case. -/
def schemeOf (text : Bytes) : Option Bytes :=
  let input := schemeInput text
  let scheme := input.takeWhile isSchemeChar
  if (scheme.head?.any Char.isAlpha) && (input.drop scheme.length).head? = some ':' then
    some (toLowerASCII scheme)
  else none

/-- The text spells the scheme `http`, in some letter case, and its colon. -/
def SpellsHTTP (text : Bytes) : Prop :=
  "http:".toList <+: toLowerASCII (schemeInput text)

instance (text : Bytes) : Decidable (SpellsHTTP text) :=
  inferInstanceAs (Decidable (_ <+: _))

end Scheme

structure SearchEngine where
  name : Bytes
  query : Bytes

def kSearchEngines : List SearchEngine := [
  ⟨"Google".toList, "https://www.google.com/search?q=".toList⟩,
  ⟨"DuckDuckGo".toList, "https://duckduckgo.com/?q=".toList⟩,
  ⟨"Bing".toList, "https://www.bing.com/search?q=".toList⟩,
  ⟨"Yahoo".toList, "https://search.yahoo.com/search?p=".toList⟩,
  ⟨"Blinker Fluid (Google)".toList, "https://www.google.com/search?q=".toList⟩]

/-- A parsed text; `has_scheme()` tells a missing scheme from an empty one. -/
structure ParsedURL extends GURL where
  hasScheme : Bool

/-- `StartsWith(text, prefix, INSENSITIVE_ASCII)`, the prefix in lower case. -/
def startsWithInsensitive (text start : Bytes) : Bool :=
  toLowerASCII (text.take start.length) = start

/-- What `openUserInput:` reads besides the text. -/
structure Settings where
  blinkHTTPSFirst : Bool
  searchEngine : Fin kSearchEngines.length
  hasShell : Bool

def upgraded (httpsFirst : Bool) (field : Bytes) : Bytes :=
  if httpsFirst && startsWithInsensitive field "http://".toList then
    "https://".toList ++ field.drop 7
  else field

section Open

variable (gurl : Bytes → ParsedURL) (escapeQueryParamValue : Bytes → Bytes)

def openUserInput (settings : Settings) (input : Bytes) : Option ParsedURL :=
  let fieldValue := trim isAsciiWhitespace input
  if fieldValue.isEmpty then none
  else
    let fieldValue := upgraded settings.blinkHTTPSFirst fieldValue
    let url := gurl fieldValue
    let url :=
      if !url.hasScheme then
        let looksLikeURL := !fieldValue.contains ' ' && fieldValue.contains '.'
        let engine := kSearchEngines.get settings.searchEngine
        if looksLikeURL || engine.query.isEmpty then gurl ("https://".toList ++ fieldValue)
        else gurl (engine.query ++ escapeQueryParamValue fieldValue)
      else url
    if url.isValid && settings.hasShell then some url else none

/-- What is assumed of the parser: a valid URL has the scheme its text spells. -/
def ParsesSchemes : Prop :=
  ∀ text, (gurl text).isValid = true →
    (gurl text).hasScheme = true ∧ schemeOf text = some (gurl text).scheme

end Open

section Scheme

theorem rdropWhile_append_of_keeps {drop : Char → Bool} {start : Bytes} (rest : Bytes)
    (keeps : (start.all fun c => !drop c) = true) :
    ∃ tail, (start ++ rest).rdropWhile drop = start ++ tail := by
  induction rest using List.reverseRecOn with
  | nil =>
    refine ⟨[], ?_⟩
    rw [List.append_nil, List.rdropWhile_eq_self_iff]
    intro some_char
    simpa using List.all_eq_true.mp keeps _ (List.getLast_mem some_char)
  | append_singleton rest c ih =>
    by_cases dropped : drop c = true
    · obtain ⟨tail, same⟩ := ih
      exact ⟨tail, by rw [← List.append_assoc, List.rdropWhile_concat_pos _ _ _ dropped, same]⟩
    · exact ⟨rest ++ [c], by rw [← List.append_assoc, List.rdropWhile_concat_neg _ _ _ dropped]⟩

theorem trim_append_of_keeps {drop : Char → Bool} {start : Bytes} (rest : Bytes)
    (some_char : start ≠ []) (keeps : (start.all fun c => !drop c) = true) :
    ∃ tail, trim drop (start ++ rest) = start ++ tail := by
  have whole : (start ++ rest).dropWhile drop = start ++ rest := by
    cases start with
    | nil => exact absurd rfl some_char
    | cons c start =>
      have kept := List.all_eq_true.mp keeps c List.mem_cons_self
      rw [List.cons_append, List.dropWhile_cons_of_neg (by simpa using kept)]
  rw [trim, whole]
  exact rdropWhile_append_of_keeps rest keeps

theorem schemeOf_https (rest : Bytes) :
    schemeOf ("https://".toList ++ rest) = some "https".toList := by
  obtain ⟨tail, trimmed⟩ : ∃ tail, trim isC0ControlOrSpace ("https://".toList ++ rest) =
      "https://".toList ++ tail := trim_append_of_keeps rest (by decide) (by decide)
  have kept : "https://".toList.filter (fun c => !isTabOrNewline c) = "https://".toList := by
    decide
  simp only [schemeOf, schemeInput, trimmed, List.filter_append, kept]
  rfl

theorem isAlpha_of_toLower {c d : Char} (lower : c.toLower = d) (small : d.isLower = true) :
    c.isAlpha = true := by
  rcases toLower_cases c with same | ⟨upper, -⟩
  · rw [isAlpha_eq, ← same, lower, small, Bool.or_true]
  · rw [isAlpha_eq, upper, Bool.true_or]

theorem schemeOf_eq_http_iff (text : Bytes) :
    schemeOf text = some "http".toList ↔ SpellsHTTP text := by
  unfold SpellsHTTP
  simp only [schemeOf]
  generalize schemeInput text = input
  constructor
  · intro scheme
    obtain ⟨rest, split⟩ := List.takeWhile_prefix (l := input) isSchemeChar
    generalize input.takeWhile isSchemeChar = word at scheme split
    subst split
    rw [List.drop_left, Option.ite_none_right_eq_some] at scheme
    obtain ⟨found, lowered⟩ := scheme
    have colon : rest.head? = some ':' := by simpa using (Bool.and_eq_true_iff.mp found).2
    cases rest with
    | nil => cases colon
    | cons c rest =>
      obtain rfl := Option.some.inj colon
      refine ⟨toLowerASCII rest, ?_⟩
      have spelled : toLowerASCII (word ++ ':' :: rest) =
          toLowerASCII word ++ ':' :: toLowerASCII rest := List.map_append
      rw [spelled, Option.some.inj lowered]
      rfl
  · rintro ⟨rest, spells⟩
    obtain ⟨word, behind, rfl, lowered, -⟩ := List.map_eq_append_iff.mp spells.symm
    obtain ⟨h, t, t', p, colon, rfl, hh, ht, ht', hp, hcolon⟩ :
        ∃ h t t' p colon, word = [h, t, t', p, colon] ∧ h.toLower = 'h' ∧ t.toLower = 't' ∧
          t'.toLower = 't' ∧ p.toLower = 'p' ∧ colon.toLower = ':' := by
      have five : "http:".toList = ['h', 't', 't', 'p', ':'] := rfl
      rw [five] at lowered
      simpa [List.map_eq_cons_iff] using lowered
    obtain rfl := toLower_eq_of_not_isLower hcolon (by decide)
    have letters : h.isAlpha = true ∧ t.isAlpha = true ∧ t'.isAlpha = true ∧ p.isAlpha = true :=
      ⟨isAlpha_of_toLower hh (by decide), isAlpha_of_toLower ht (by decide),
        isAlpha_of_toLower ht' (by decide), isAlpha_of_toLower hp (by decide)⟩
    have scheme : (h :: t :: t' :: p :: ':' :: behind).takeWhile isSchemeChar = [h, t, t', p] := by
      have colonless : isSchemeChar ':' = false := by decide
      have all : ∀ c, c.isAlpha = true → isSchemeChar c = true := by
        intro c letter
        simp [isSchemeChar, isAsciiAlphaNumeric, Char.isAlphanum, letter]
      simp [letters, all, colonless]
    simp only [List.cons_append, List.nil_append, scheme]
    simp [letters, toLowerASCII, hh, ht, ht', hp]

end Scheme

section Open

variable {gurl : Bytes → ParsedURL} {escapeQueryParamValue : Bytes → Bytes} {settings : Settings}

theorem scheme_https (schemes : ParsesSchemes gurl) (rest : Bytes)
    (valid : (gurl ("https://".toList ++ rest)).isValid = true) :
    (gurl ("https://".toList ++ rest)).scheme = "https".toList := by
  have spelled := (schemes _ valid).2
  rw [schemeOf_https] at spelled
  exact (Option.some.inj spelled).symm

theorem query_https (engine : Fin kSearchEngines.length) :
    ∃ rest, (kSearchEngines.get engine).query = "https://".toList ++ rest := by
  have all : ∀ engine ∈ kSearchEngines, "https://".toList <+: engine.query := by decide
  obtain ⟨rest, same⟩ := all _ (List.get_mem kSearchEngines engine)
  exact ⟨rest, same.symm⟩

theorem upgraded_other {httpsFirst : Bool} {field : Bytes}
    (starts : startsWithInsensitive field "http://".toList = false) :
    upgraded httpsFirst field = field := by
  rw [upgraded, starts, Bool.and_false]
  rfl

theorem schemeOf_upgraded (field : Bytes) :
    schemeOf (upgraded true field) = some "http".toList ↔
      SpellsHTTP field ∧ startsWithInsensitive field "http://".toList = false := by
  cases starts : startsWithInsensitive field "http://".toList with
  | true =>
    simp only [upgraded, starts, Bool.and_self, if_true, schemeOf_https]
    simp
  | false =>
    rw [upgraded_other starts, schemeOf_eq_http_iff]
    simp

theorem openUserInput_cases (schemes : ParsesSchemes gurl) {input : Bytes} {url : ParsedURL}
    (opened : openUserInput gurl escapeQueryParamValue settings input = some url) :
    settings.hasShell = true ∧ (url.scheme = "https".toList ∨
      url = gurl (upgraded settings.blinkHTTPSFirst (trim isAsciiWhitespace input)) ∧
        url.isValid = true) := by
  simp only [openUserInput] at opened
  split_ifs at opened with empty missing repaired passed passed passed
  all_goals
    obtain ⟨valid, shell⟩ := Bool.and_eq_true_iff.mp passed
    obtain rfl := Option.some.inj opened
    refine ⟨shell, ?_⟩
  · exact .inl (scheme_https schemes _ valid)
  · obtain ⟨rest, query⟩ := query_https settings.searchEngine
    rw [query, List.append_assoc] at valid ⊢
    exact .inl (scheme_https schemes _ valid)
  · exact .inr ⟨rfl, valid⟩

theorem openUserInput_valid (schemes : ParsesSchemes gurl) {input : Bytes}
    (some_char : trim isAsciiWhitespace input ≠ []) (shell : settings.hasShell = true)
    (valid : (gurl (upgraded settings.blinkHTTPSFirst (trim isAsciiWhitespace input))).isValid =
      true) :
    openUserInput gurl escapeQueryParamValue settings input =
      some (gurl (upgraded settings.blinkHTTPSFirst (trim isAsciiWhitespace input))) := by
  have found := (schemes _ valid).1
  simp [openUserInput, some_char, found, valid, shell]

theorem ne_nil_of_spellsHTTP {field : Bytes} (spells : SpellsHTTP field) : field ≠ [] := by
  rintro rfl
  revert spells
  decide

end Open

/-- With HTTPS-First on no URL of the scheme `http` is opened, unless the trimmed
text is a valid URL that spells this scheme without starting with `http://`. -/
theorem openUserInput_https_iff (gurl : Bytes → ParsedURL)
    (escapeQueryParamValue : Bytes → Bytes) (schemes : ParsesSchemes gurl) (settings : Settings)
    (httpsFirst : settings.blinkHTTPSFirst = true) (input : Bytes) :
    (∀ url, openUserInput gurl escapeQueryParamValue settings input = some url →
      url.scheme ≠ "http".toList) ↔
    let field := trim isAsciiWhitespace input
    settings.hasShell = false ∨ (gurl field).isValid = false ∨ ¬ SpellsHTTP field ∨
      startsWithInsensitive field "http://".toList = true := by
  constructor
  · intro never
    by_contra bad
    simp only [not_or, Bool.not_eq_false, Bool.not_eq_true, not_not] at bad
    obtain ⟨shell, valid, spells, starts⟩ := bad
    have same : upgraded settings.blinkHTTPSFirst (trim isAsciiWhitespace input) =
        trim isAsciiWhitespace input := upgraded_other starts
    rw [← same] at valid
    refine never _ (openUserInput_valid schemes (ne_nil_of_spellsHTTP spells) shell valid) ?_
    have spelled := (schemes _ valid).2
    rw [httpsFirst, (schemeOf_upgraded _).mpr ⟨spells, starts⟩, ← httpsFirst] at spelled
    exact (Option.some.inj spelled).symm
  · intro condition url opened http
    obtain ⟨shell, secure | ⟨rfl, valid⟩⟩ := openUserInput_cases schemes opened
    · rw [secure] at http
      exact absurd http (by decide)
    · have spelled := (schemes _ valid).2
      rw [http, httpsFirst, schemeOf_upgraded] at spelled
      obtain ⟨spells, starts⟩ := spelled
      have same : upgraded settings.blinkHTTPSFirst (trim isAsciiWhitespace input) =
          trim isAsciiWhitespace input := upgraded_other starts
      rcases condition with noShell | invalid | other | plain
      · rw [noShell] at shell
        cases shell
      · rw [same, invalid] at valid
        cases valid
      · exact other spells
      · rw [plain] at starts
        cases starts

def exampleParser (text : Bytes) : ParsedURL :=
  if text = "http:/example.com".toList then
    ⟨⟨true, "http://example.com/".toList, "http".toList, "example.com".toList, ['/']⟩, true⟩
  else if text = "https://example.com".toList then
    ⟨⟨true, "https://example.com/".toList, "https".toList, "example.com".toList, ['/']⟩, true⟩
  else ⟨GURL.none, false⟩

theorem exampleParser_schemes : ParsesSchemes exampleParser := by
  intro text valid
  unfold exampleParser at valid ⊢
  split_ifs at valid ⊢ with single double
  · subst single
    decide
  · subst double
    decide
  · cases valid

def exampleSettings : Settings := ⟨true, ⟨0, by decide⟩, true⟩

theorem openUserInput_https_iff_example :
    ¬ ∃ url,
      openUserInput exampleParser id exampleSettings " HTTP://example.com".toList = some url ∧
        url.scheme = "http".toList := by
  rintro ⟨url, opened, http⟩
  exact (openUserInput_https_iff exampleParser id exampleParser_schemes exampleSettings rfl _).mpr
    (.inr (.inr (.inr (by decide)))) url opened http

/-- `http:/example.com` is opened over `http`. -/
theorem singleSlash_opened :
    ¬ ∀ gurl escapeQueryParamValue settings input, ParsesSchemes gurl →
      settings.blinkHTTPSFirst = true →
      ∀ url, openUserInput gurl escapeQueryParamValue settings input = some url →
        url.scheme ≠ "http".toList := by
  intro never
  have https := never exampleParser id exampleSettings "http:/example.com".toList
    exampleParser_schemes rfl _ rfl
  revert https
  decide

end BlinkerFluid.AddressBar
