import BlinkerFluid.AddressBar
import BlinkerFluid.FormEncoding
import BlinkerFluid.ProxyChoice
import Mathlib.Algebra.GroupWithZero.Nat

/-! The term that the start page hands to the suggestion service of a search engine, next to the
one that the address bar searches for. Both end a URL as the value of its last parameter.
`NSURL` and the escaping of the search term are parameters. -/

namespace BlinkerFluid.SuggestTerm
open ByteString AddressBar FormEncoding ProxyChoice

def bytes (text : Text) : Bytes := (utf8 text).map fun byte => Char.ofNat byte.toNat

def utf16Length (text : Text) : ℕ := (text.map fun c => if c.toNat < 0x10000 then 1 else 2).sum

structure SuggestEngine extends SearchEngine where
  suggest : Bytes

def kSuggestEngines : List SuggestEngine := [
  ⟨⟨"Google".toList, "https://www.google.com/search?q=".toList⟩,
    "https://suggestqueries.google.com/complete/search?client=firefox&q=".toList⟩,
  ⟨⟨"DuckDuckGo".toList, "https://duckduckgo.com/?q=".toList⟩,
    "https://duckduckgo.com/ac/?type=list&q=".toList⟩,
  ⟨⟨"Bing".toList, "https://www.bing.com/search?q=".toList⟩,
    "https://api.bing.com/osjson.aspx?query=".toList⟩,
  ⟨⟨"Yahoo".toList, "https://search.yahoo.com/search?p=".toList⟩,
    "https://search.yahoo.com/sugg/os?output=fxjson&command=".toList⟩,
  ⟨⟨"Blinker Fluid (Google)".toList, "https://www.google.com/search?q=".toList⟩,
    "https://suggestqueries.google.com/complete/search?client=firefox&q=".toList⟩]

theorem kSuggestEngines_searchEngines :
    kSuggestEngines.map SuggestEngine.toSearchEngine = kSearchEngines := rfl

/-- What the start page and the address bar read besides the text. -/
structure SuggestSettings extends Settings where
  blinkSearchSuggestions : Option Bool
  blinkProxy : Option Text
  privateSession : Bool

def SuggestSettings.engine (settings : SuggestSettings) : SuggestEngine :=
  kSuggestEngines.get (settings.searchEngine.cast rfl)

/-- `URLQueryAllowedCharacterSet`. -/
def isURLQueryAllowed (c : Char) : Bool :=
  isAsciiAlphaNumeric c || "-._~!$&'()*+,;=:@/?".toList.contains c

section Suggestions

variable (urlWithString : Bytes → Bool)

/-- The URL that `searchTextChanged` requests, where it does not hide the suggestions. -/
def suggestionURL (settings : SuggestSettings) (term : Text) : Option Bytes :=
  let enabled := settings.blinkSearchSuggestions.getD true
  let proxied := settings.blinkProxy.any (!·.isEmpty)
  if !enabled || proxied || settings.privateSession then none
  else if utf16Length term < 2 then none
  else if settings.engine.suggest.isEmpty then none
  else
    let url := settings.engine.suggest ++ percentEncode isURLQueryAllowed (bytes term)
    if urlWithString url then some url else none

end Suggestions

section Search

variable (gurl : Bytes → ParsedURL) (escapeQueryParamValue : Bytes → Bytes)

/-- The text that `openUserInput:` searches for, where it searches. -/
def searchedText (settings : Settings) (input : Bytes) : Option Bytes :=
  let fieldValue := trim isAsciiWhitespace input
  if fieldValue.isEmpty then none
  else
    let fieldValue := upgraded settings.blinkHTTPSFirst fieldValue
    let looksLikeURL := !fieldValue.contains ' ' && fieldValue.contains '.'
    let engine := kSearchEngines.get settings.searchEngine
    if (gurl fieldValue).hasScheme || looksLikeURL || engine.query.isEmpty then none
    else some fieldValue

def searchURL (settings : Settings) (text : Bytes) : Bytes :=
  (kSearchEngines.get settings.searchEngine).query ++ escapeQueryParamValue text

def isQueryParamPlain (c : Char) : Bool :=
  isAsciiAlphaNumeric c || "-_.!~*'()".toList.contains c

/-- What is documented of `EscapeQueryParamValue` with `use_plus`. -/
def EscapesForms : Prop := ∀ text, escapeQueryParamValue text = formEncode isQueryParamPlain text

theorem openUserInput_searched {settings : Settings} {input text : Bytes}
    (searched : searchedText gurl settings input = some text) :
    openUserInput gurl escapeQueryParamValue settings input =
      let url := gurl (searchURL escapeQueryParamValue settings text)
      if url.isValid && settings.hasShell then some url else none := by
  simp only [searchedText] at searched
  split_ifs at searched with empty direct
  obtain rfl := Option.some.inj searched
  simp only [Bool.or_eq_true, not_or, Bool.not_eq_true] at direct
  obtain ⟨⟨missing, words⟩, known⟩ := direct
  simp only [openUserInput, searchURL, if_neg empty, missing, words, known]
  rfl

end Search

section Bytes

theorem toNat_ofNat_byte {n : ℕ} (byte : n < 256) : (Char.ofNat n).toNat = n := by
  have valid : n.isValidChar := .inl (by omega)
  rw [Char.ofNat, dif_pos valid]
  rfl

theorem bytes_lt (term : Text) : ∀ c ∈ bytes term, c.toNat < 256 := by
  intro c mem
  obtain ⟨byte, -, rfl⟩ := List.mem_map.mp mem
  rw [toNat_ofNat_byte byte.toNat_lt]
  exact byte.toNat_lt

theorem ascii_mem_utf8EncodeChar_iff {a c : Char} (ascii : a.toNat < 128) :
    (∃ byte ∈ String.utf8EncodeChar c, byte.toNat = a.toNat) ↔ c = a := by
  have code : c = a ↔ c.val.toNat = a.val.toNat := by rw [Char.ext_iff, ← UInt32.toNat_inj]
  have bound := c.val.toNat_lt
  change a.val.toNat < 128 at ascii
  change (∃ byte ∈ String.utf8EncodeChar c, byte.toNat = a.val.toNat) ↔ _
  rw [code, String.utf8EncodeChar]
  generalize c.val.toNat = v at bound
  generalize a.val.toNat = w at ascii
  split_ifs <;>
    simp only [List.mem_cons, List.not_mem_nil, or_false, exists_eq_or_imp, exists_eq_left,
      UInt8.toNat_ofNat'] <;>
    omega

theorem ascii_mem_bytes_iff {a : Char} (ascii : a.toNat < 128) {term : Text} :
    a ∈ bytes term ↔ a ∈ term := by
  have same (byte : UInt8) : Char.ofNat byte.toNat = a ↔ byte.toNat = a.toNat := by
    constructor
    · rintro rfl
      exact (toNat_ofNat_byte byte.toNat_lt).symm
    · intro code
      rw [code, Char.ofNat_toNat]
  simp only [bytes, utf8, List.mem_map, List.mem_flatMap, same]
  constructor
  · rintro ⟨byte, ⟨c, mem, inside⟩, code⟩
    exact (ascii_mem_utf8EncodeChar_iff ascii).mp ⟨byte, inside, code⟩ ▸ mem
  · intro mem
    obtain ⟨byte, inside, code⟩ := (ascii_mem_utf8EncodeChar_iff ascii).mpr (rfl : a = a)
    exact ⟨byte, ⟨a, mem, inside⟩, code⟩

end Bytes

section Engine

variable (settings : SuggestSettings)

theorem engine_templates :
    (∃ t : Template, t.text = settings.engine.suggest) ∧
      ∃ t : Template, t.text = settings.engine.query := by
  have all : ∀ engine ∈ kSuggestEngines,
      isTemplate engine.suggest = true ∧ isTemplate engine.query = true := by
    decide +kernel
  obtain ⟨suggest, query⟩ := all _ (List.get_mem kSuggestEngines _)
  exact ⟨exists_template suggest, exists_template query⟩

theorem engine_query :
    (kSearchEngines.get settings.searchEngine).query = settings.engine.query := by
  have same := congrArg SearchEngine.query
    (List.get_of_eq kSuggestEngines_searchEngines (settings.searchEngine.cast rfl))
  rw [List.get_eq_getElem, List.getElem_map] at same
  exact same.symm

end Engine

/-- The term is the value of the last parameter of the requested URL, and of the URL that the
address bar builds if it searches for the term. -/
structure Faithful (gurl : Bytes → ParsedURL) (escapeQueryParamValue : Bytes → Bytes)
    (settings : SuggestSettings) (term : Text) (url : Bytes) : Prop where
  asked : formParse (queryOf url) =
    withLastValue (bytes term) (formParse (queryOf settings.engine.suggest))
  searched : ∀ text, searchedText gurl settings.toSettings (bytes term) = some text →
    formParse (queryOf (searchURL escapeQueryParamValue settings.toSettings text)) =
      withLastValue (bytes term) (formParse (queryOf settings.engine.query))

/-- The term has neither an ampersand nor a plus sign, and if the address bar searches for it,
there is nothing to trim or to rewrite. -/
def Plain (gurl : Bytes → ParsedURL) (settings : SuggestSettings) (term : Text) : Prop :=
  '&' ∉ term ∧ '+' ∉ term ∧
    ((searchedText gurl settings.toSettings (bytes term)).isSome →
      trim isAsciiWhitespace (bytes term) = bytes term ∧
        (settings.blinkHTTPSFirst &&
          startsWithInsensitive (bytes term) "http://".toList) = false)

section Request

variable {urlWithString : Bytes → Bool} {settings : SuggestSettings} {term : Text} {url : Bytes}

theorem suggestionURL_eq (requested : suggestionURL urlWithString settings term = some url) :
    url = settings.engine.suggest ++ percentEncode isURLQueryAllowed (bytes term) := by
  simp only [suggestionURL] at requested
  split_ifs at requested
  exact (Option.some.inj requested).symm

/-- The requested URL carries the term exactly if no character of it separates parameters or
stands for a space. -/
theorem suggestionURL_carries_iff
    (requested : suggestionURL urlWithString settings term = some url) :
    formParse (queryOf url) =
        withLastValue (bytes term) (formParse (queryOf settings.engine.suggest)) ↔
      '&' ∉ term ∧ '+' ∉ term := by
  obtain ⟨t, same⟩ := (engine_templates settings).1
  rw [suggestionURL_eq requested, ← same,
    formParse_percentEncode_iff ⟨by decide, by decide⟩ (bytes_lt term)]
  have kept : isURLQueryAllowed '&' = true ∧ isURLQueryAllowed '+' = true := by decide
  simp only [kept, forall_const]
  rw [ascii_mem_bytes_iff (by decide), ascii_mem_bytes_iff (by decide)]

end Request

section Searched

variable {gurl : Bytes → ParsedURL} {escapeQueryParamValue : Bytes → Bytes}
  {settings : SuggestSettings} {term : Text}

theorem searchedText_eq {input text : Bytes}
    (searched : searchedText gurl settings.toSettings input = some text) :
    text = upgraded settings.blinkHTTPSFirst (trim isAsciiWhitespace input) := by
  simp only [searchedText] at searched
  split_ifs at searched
  exact (Option.some.inj searched).symm

theorem searchedText_lt {input text : Bytes} (small : ∀ c ∈ input, c.toNat < 256)
    (searched : searchedText gurl settings.toSettings input = some text) :
    ∀ c ∈ text, c.toNat < 256 := by
  have trimmed : ∀ c ∈ trim isAsciiWhitespace input, c.toNat < 256 := fun c mem =>
    small c ((List.dropWhile_sublist _).subset ((List.rdropWhile_prefix _ _).subset mem))
  have scheme : ("https://".toList.all fun c => decide (c.toNat < 256)) = true := by decide
  intro c mem
  rw [searchedText_eq searched, upgraded] at mem
  split_ifs at mem
  · rcases List.mem_append.mp mem with inside | inside
    · exact of_decide_eq_true (List.all_eq_true.mp scheme c inside)
    · exact trimmed c (List.mem_of_mem_drop inside)
  · exact trimmed c mem

theorem upgraded_trim_eq_iff {httpsFirst : Bool} {input : Bytes} :
    upgraded httpsFirst (trim isAsciiWhitespace input) = input ↔
      trim isAsciiWhitespace input = input ∧
        (httpsFirst && startsWithInsensitive input "http://".toList) = false := by
  constructor
  · intro same
    unfold upgraded at same
    split_ifs at same with rewrites
    · have kept (rest : Bytes) : ∃ tail,
          trim isAsciiWhitespace ("https://".toList ++ rest) = "https://".toList ++ tail :=
        trim_append_of_keeps rest (by decide) (by decide)
      obtain ⟨tail, trimmed⟩ := kept ((trim isAsciiWhitespace input).drop 7)
      rw [same] at trimmed
      have starts := (Bool.and_eq_true_iff.mp rewrites).2
      rw [trimmed] at starts
      have secure : startsWithInsensitive ("https://".toList ++ tail) "http://".toList = false :=
        rfl
      rw [secure] at starts
      cases starts
    · rw [same] at rewrites
      exact ⟨same, Bool.eq_false_iff.mpr rewrites⟩
  · rintro ⟨trimmed, plain⟩
    rw [trimmed, upgraded, plain]
    rfl

theorem withLastValue_text_inj {t : Template} {value value' : Bytes} :
    withLastValue value (formParse (queryOf t.text)) =
        withLastValue value' (formParse (queryOf t.text)) ↔ value = value' := by
  rw [formParse_text_nil, withLastValue_append, withLastValue_append, List.append_cancel_left_eq]
  simp

theorem searchURL_carries_iff (escapes : EscapesForms escapeQueryParamValue) {text : Bytes}
    (searched : searchedText gurl settings.toSettings (bytes term) = some text) :
    formParse (queryOf (searchURL escapeQueryParamValue settings.toSettings text)) =
        withLastValue (bytes term) (formParse (queryOf settings.engine.query)) ↔
      trim isAsciiWhitespace (bytes term) = bytes term ∧
        (settings.blinkHTTPSFirst &&
          startsWithInsensitive (bytes term) "http://".toList) = false := by
  obtain ⟨t, same⟩ := (engine_templates settings).2
  rw [searchURL, engine_query, escapes, ← same,
    formParse_formEncode (by decide) (searchedText_lt (bytes_lt term) searched),
    withLastValue_text_inj, searchedText_eq searched, upgraded_trim_eq_iff]

end Searched

/-- The requested URL carries the term, and so does a search for it, exactly if the term has
neither an ampersand nor a plus sign and is searched for as it was typed. -/
theorem suggestion_faithful_iff (gurl : Bytes → ParsedURL)
    (escapeQueryParamValue : Bytes → Bytes) (escapes : EscapesForms escapeQueryParamValue)
    (urlWithString : Bytes → Bool) (settings : SuggestSettings) (term : Text) (url : Bytes)
    (requested : suggestionURL urlWithString settings term = some url) :
    Faithful gurl escapeQueryParamValue settings term url ↔ Plain gurl settings term := by
  have asked := suggestionURL_carries_iff requested
  have searched (text : Bytes)
      (found : searchedText gurl settings.toSettings (bytes term) = some text) :=
    searchURL_carries_iff escapes found
  constructor
  · intro faithful
    obtain ⟨ampersand, plus⟩ := asked.mp faithful.asked
    refine ⟨ampersand, plus, fun searches => ?_⟩
    obtain ⟨text, found⟩ := Option.isSome_iff_exists.mp searches
    exact (searched text found).mp (faithful.searched text found)
  · rintro ⟨ampersand, plus, asTyped⟩
    refine ⟨asked.mpr ⟨ampersand, plus⟩, fun text found => ?_⟩
    exact (searched text found).mpr (asTyped (by rw [found]; rfl))

def exampleSuggestSettings : SuggestSettings := ⟨exampleSettings, none, none, false⟩

/-- The escaping of a search term, as it is documented. -/
def exampleEscape : Bytes → Bytes := formEncode isQueryParamPlain

theorem suggestion_faithful_iff_example :
    Faithful exampleParser exampleEscape exampleSuggestSettings "a=b #1 é".toList
      ("https://suggestqueries.google.com/complete/search?client=firefox&q=".toList ++
        "a=b%20%231%20%C3%A9".toList) := by
  refine (suggestion_faithful_iff exampleParser exampleEscape (fun _ => rfl) (fun _ => true)
    exampleSuggestSettings "a=b #1 é".toList _ (by decide)).mpr ?_
  exact ⟨by decide, by decide, fun _ => by decide⟩

/-- Of `AT&T` the suggestion service is handed `AT`. -/
theorem ampersand_cut :
    ¬∀ (urlWithString : Bytes → Bool) (settings : SuggestSettings) (term : Text) (url : Bytes),
      suggestionURL urlWithString settings term = some url →
      formParse (queryOf url) =
        withLastValue (bytes term) (formParse (queryOf settings.engine.suggest)) := by
  intro always
  have same := always (fun _ => true) exampleSuggestSettings "AT&T".toList _ rfl
  revert same
  decide

end BlinkerFluid.SuggestTerm
