import BlinkerFluid.ByteString

/-! `SanitizeBootLogLine`: the scanner that keeps queries and fragments of web
addresses out of the boot log. The scanner emits chunks, single characters and the
replacement text, and a buffer takes them up while they fit. What is emitted is
clean, and a clean line passes unchanged. -/

namespace BlinkerFluid.BootLog
open ByteString

def nul : Char := Char.ofNat 0

/-- The characters of a C string, before its NUL. -/
structure CString where
  chars : Bytes
  terminated : nul ∉ chars

def CString.bytes (s : CString) : Bytes := s.chars ++ [nul]

def startsURL (s : Bytes) : Bool :=
  "https://".toList.isPrefixOf s || "http://".toList.isPrefixOf s

def isMark (c : Char) : Bool := c = '?' || c = '#'

def endsURL (c : Char) : Bool := c = ' ' || c = '\t' || c = '\n'

def kRedacted : Bytes := "[redacted]".toList

/-- The loop over the input: `write` is the length of what is written so far. -/
def scan (outputSize : ℕ) : Bytes → Bool → Bool → Bytes → Bytes
  | [], _, _, output => output
  | c :: input, inUrl, redacting, output =>
    if output.length + 1 < outputSize then
      let inUrl := inUrl || startsURL (c :: input)
      if inUrl && !redacting && isMark c then
        if output.length + kRedacted.length ≥ outputSize then output
        else scan outputSize input inUrl true (output ++ kRedacted)
      else
        let ended := inUrl && endsURL c
        let inUrl := inUrl && !ended
        let redacting := redacting && !ended
        scan outputSize input inUrl redacting
          (if !redacting || !inUrl then output ++ [c] else output)
    else output

/-- What the scanner writes, chunk by chunk, into a buffer that is large enough. -/
def emitted : Bool → Bool → Bytes → List Bytes
  | _, _, [] => []
  | inUrl, redacting, c :: input =>
    let inUrl := inUrl || startsURL (c :: input)
    if inUrl && !redacting && isMark c then kRedacted :: emitted inUrl true input
    else
      let ended := inUrl && endsURL c
      let inUrl := inUrl && !ended
      let redacting := redacting && !ended
      (if !redacting || !inUrl then [[c]] else []) ++ emitted inUrl redacting input

/-- A buffer takes up chunks until one does not fit with a NUL behind it. -/
def fill (outputSize : ℕ) (output : Bytes) : List Bytes → Bytes
  | [] => output
  | chunk :: chunks =>
    if output.length + chunk.length < outputSize then fill outputSize (output ++ chunk) chunks
    else output

section Buffer

variable {outputSize : ℕ}

theorem fill_full {output : Bytes} {chunks : List Bytes} (full : outputSize ≤ output.length + 1)
    (some_char : ∀ chunk ∈ chunks, chunk ≠ []) : fill outputSize output chunks = output := by
  cases chunks with
  | nil => rfl
  | cons chunk chunks =>
    have pos := List.length_pos_of_ne_nil (some_char chunk List.mem_cons_self)
    rw [fill, if_neg (by omega)]

theorem fill_isPrefix (output : Bytes) (chunks : List Bytes) :
    fill outputSize output chunks <+: output ++ chunks.flatten := by
  induction chunks generalizing output with
  | nil => simp [fill]
  | cons chunk chunks ih =>
    rw [fill, List.flatten_cons, ← List.append_assoc]
    split_ifs
    · exact ih _
    · exact (List.prefix_append _ _).trans (List.prefix_append _ _)

theorem fill_length (output : Bytes) (chunks : List Bytes) (room : output.length < outputSize) :
    (fill outputSize output chunks).length < outputSize := by
  induction chunks generalizing output with
  | nil => exact room
  | cons chunk chunks ih =>
    rw [fill]
    split_ifs with fits
    · exact ih _ (by rwa [List.length_append])
    · exact room

theorem fill_fits (output : Bytes) (chunks : List Bytes)
    (fits : (output ++ chunks.flatten).length < outputSize) :
    fill outputSize output chunks = output ++ chunks.flatten := by
  induction chunks generalizing output with
  | nil => simp [fill]
  | cons chunk chunks ih =>
    rw [List.flatten_cons, ← List.append_assoc] at fits ⊢
    have first : output.length + chunk.length < outputSize := by
      simp only [List.length_append] at fits
      omega
    rw [fill, if_pos first, ih _ fits]

end Buffer

theorem emitted_ne_nil (inUrl redacting : Bool) (input : Bytes) :
    ∀ chunk ∈ emitted inUrl redacting input, chunk ≠ [] := by
  induction input generalizing inUrl redacting with
  | nil => simp [emitted]
  | cons c input ih =>
    intro chunk mem
    simp only [emitted] at mem
    split_ifs at mem
    · rcases List.mem_cons.mp mem with rfl | mem
      · decide
      · exact ih _ _ chunk mem
    · rcases List.mem_cons.mp mem with rfl | mem
      · exact List.cons_ne_nil c []
      · exact ih _ _ chunk mem
    · exact ih _ _ chunk mem

/-- The scanner fills the buffer with the chunks it emits. -/
theorem scan_eq_fill (outputSize : ℕ) (input : Bytes) (inUrl redacting : Bool) (output : Bytes) :
    scan outputSize input inUrl redacting output =
      fill outputSize output (emitted inUrl redacting input) := by
  induction input generalizing inUrl redacting output with
  | nil => rfl
  | cons c input ih =>
    by_cases room : output.length + 1 < outputSize
    · simp only [scan, emitted, room, if_true]
      split_ifs with mark tight copied
      · rw [fill, if_neg (by omega)]
      · rw [fill, if_pos (by omega), ih]
      · rw [List.singleton_append, fill, if_pos (by simpa using room), ih]
      · rw [List.nil_append, ih]
    · rw [scan, if_neg room, fill_full (by omega) (emitted_ne_nil inUrl redacting _)]

section Clean

/-- No mark stands between the start of an address and the blank that ends it; the
flag says whether the line starts inside an address. -/
def clean : Bool → Bytes → Bool
  | _, [] => true
  | inUrl, c :: line =>
    let inUrl := inUrl || startsURL (c :: line)
    !(inUrl && isMark c) && clean (inUrl && !endsURL c) line

theorem startsURL_iff (s : Bytes) :
    startsURL s = true ↔ "https://".toList <+: s ∨ "http://".toList <+: s := by
  simp only [startsURL, Bool.or_eq_true, List.isPrefixOf_iff_prefix]

theorem startsURL_of_isPrefix {s t : Bytes} (starts : startsURL s = true) (pre : s <+: t) :
    startsURL t = true := by
  rw [startsURL_iff] at starts ⊢
  exact starts.imp (·.trans pre) (·.trans pre)

theorem clean_cons {inUrl : Bool} {c : Char} {line : Bytes} :
    clean inUrl (c :: line) = true ↔
      (inUrl = true ∨ startsURL (c :: line) = true → isMark c = false) ∧
        clean ((inUrl || startsURL (c :: line)) && !endsURL c) line = true := by
  simp only [clean, Bool.and_eq_true, Bool.not_eq_true', Bool.and_eq_false_imp, Bool.or_eq_true]

theorem clean_outside {inUrl later : Bool} {line : Bytes} (cleaned : clean inUrl line = true)
    (fewer : later = true → inUrl = true) : clean later line = true := by
  induction line generalizing inUrl later with
  | nil => rfl
  | cons c line ih =>
    obtain ⟨plain, rest⟩ := clean_cons.mp cleaned
    refine clean_cons.mpr ⟨fun inside => plain (inside.imp_left fewer), ih rest ?_⟩
    simp only [Bool.and_eq_true, Bool.or_eq_true]
    exact And.imp_left (Or.imp_left fewer)

theorem clean_isPrefix {inUrl : Bool} {line rest : Bytes} (cleaned : clean inUrl rest = true)
    (pre : line <+: rest) : clean inUrl line = true := by
  induction line generalizing inUrl rest with
  | nil => rfl
  | cons c line ih =>
    obtain ⟨more, rfl⟩ := pre
    rw [List.cons_append] at cleaned
    obtain ⟨plain, tail⟩ := clean_cons.mp cleaned
    have starts (h : startsURL (c :: line) = true) : startsURL (c :: (line ++ more)) = true :=
      startsURL_of_isPrefix h (List.prefix_append (c :: line) more)
    refine clean_cons.mpr ⟨fun inside => plain (inside.imp_right starts), ?_⟩
    refine clean_outside (ih tail (List.prefix_append _ _)) ?_
    simp only [Bool.and_eq_true, Bool.or_eq_true]
    exact And.imp_left (Or.imp_right starts)

theorem clean_append {inUrl : Bool} {before line : Bytes}
    (cleaned : clean inUrl (before ++ line) = true) : clean false line = true := by
  induction before generalizing inUrl with
  | nil => exact clean_outside cleaned (absurd · Bool.false_ne_true)
  | cons c before ih => exact ih (clean_cons.mp cleaned).2

theorem clean_inside {address behind : Bytes} {c : Char}
    (cleaned : clean true (address ++ c :: behind) = true)
    (still : ∀ d ∈ address, endsURL d = false) : isMark c = false := by
  induction address with
  | nil => exact (clean_cons.mp cleaned).1 (.inl rfl)
  | cons d address ih =>
    have rest := (clean_cons.mp cleaned).2
    rw [still d List.mem_cons_self] at rest
    exact ih rest fun e mem => still e (List.mem_cons_of_mem _ mem)

/-- In a clean line no mark follows the start of an address before a blank does. -/
theorem not_isMark_of_clean {inUrl : Bool} {before address behind : Bytes} {c : Char}
    (cleaned : clean inUrl (before ++ address ++ c :: behind) = true)
    (starts : startsURL address = true) (still : ∀ d ∈ address, endsURL d = false) :
    isMark c = false := by
  rw [List.append_assoc] at cleaned
  have here := clean_append cleaned
  cases address with
  | nil => cases starts
  | cons d address =>
    have begun : startsURL (d :: (address ++ c :: behind)) = true :=
      startsURL_of_isPrefix starts (List.prefix_append (d :: address) _)
    rw [List.cons_append] at here
    have rest := (clean_cons.mp here).2
    rw [begun, still d List.mem_cons_self] at rest
    exact clean_inside rest fun e mem => still e (List.mem_cons_of_mem _ mem)

end Clean

section Emitted

variable {inUrl : Bool} {c : Char} {input : Bytes}

theorem emitted_mark (inside : inUrl = true ∨ startsURL (c :: input) = true)
    (mark : isMark c = true) :
    emitted inUrl false (c :: input) = kRedacted :: emitted true true input := by
  have here : (inUrl || startsURL (c :: input)) = true := by simpa using inside
  simp [emitted, here, mark]

theorem emitted_copy (plain : inUrl = true ∨ startsURL (c :: input) = true → isMark c = false) :
    emitted inUrl false (c :: input) =
      [c] :: emitted ((inUrl || startsURL (c :: input)) && !endsURL c) false input := by
  simp only [emitted]
  cases inside : inUrl || startsURL (c :: input) with
  | false => simp
  | true =>
    have unmarked := plain (by simpa using inside)
    simp [unmarked]

theorem emitted_skip (c : Char) (input : Bytes) :
    emitted true true (c :: input) =
      if endsURL c then [c] :: emitted false false input else emitted true true input := by
  simp only [emitted]
  cases endsURL c <;> simp

theorem emitted_of_clean {line : Bytes} (cleaned : clean inUrl line = true) :
    emitted inUrl false line = line.map ([·]) := by
  induction line generalizing inUrl with
  | nil => rfl
  | cons c line ih =>
    obtain ⟨plain, rest⟩ := clean_cons.mp cleaned
    rw [emitted_copy plain, ih rest, List.map_cons]

theorem isPrefix_of_emitted {text : Bytes} (plain : '[' ∉ text)
    (pre : text <+: (emitted inUrl false input).flatten) : text <+: input := by
  induction input generalizing inUrl text with
  | nil => exact pre
  | cons c input ih =>
    cases text with
    | nil => exact List.nil_prefix
    | cons d text =>
      rw [List.mem_cons, not_or] at plain
      by_cases mark : (inUrl = true ∨ startsURL (c :: input) = true) ∧ isMark c = true
      · rw [emitted_mark mark.1 mark.2, List.flatten_cons] at pre
        exact absurd (List.cons_prefix_cons.mp pre).1.symm plain.1
      · rw [emitted_copy (by simpa using mark), List.flatten_cons, List.singleton_append,
          List.cons_prefix_cons] at pre
        exact List.cons_prefix_cons.mpr ⟨pre.1, ih plain.2 pre.2⟩

theorem startsURL_of_emitted (starts : startsURL (emitted inUrl false input).flatten = true) :
    startsURL input = true := by
  rw [startsURL_iff] at starts ⊢
  exact starts.imp (isPrefix_of_emitted (by decide)) (isPrefix_of_emitted (by decide))

theorem clean_plain_append {text : Bytes} (rest : Bytes)
    (plain : (text.all fun c => !isMark c && !endsURL c) = true) :
    clean true (text ++ rest) = clean true rest := by
  induction text with
  | nil => rfl
  | cons c text ih =>
    simp only [List.all_cons, Bool.and_eq_true, Bool.not_eq_true'] at plain
    obtain ⟨⟨unmarked, still⟩, others⟩ := plain
    simpa [clean, unmarked, still] using ih others

theorem clean_redacted (rest : Bytes) : clean true (kRedacted ++ rest) = clean true rest :=
  clean_plain_append rest (by decide)

theorem isMark_of_endsURL (ends : endsURL c = true) : isMark c = false := by
  simp only [endsURL, Bool.or_eq_true, decide_eq_true_eq] at ends
  rcases ends with (rfl | rfl) | rfl <;> rfl

/-- What the scanner emits is clean, also behind a replacement. -/
theorem clean_emitted (inUrl : Bool) (input : Bytes) :
    clean inUrl (emitted inUrl false input).flatten = true ∧
      clean true (emitted true true input).flatten = true := by
  induction input generalizing inUrl with
  | nil => exact ⟨rfl, rfl⟩
  | cons c input ih =>
    constructor
    · by_cases mark : (inUrl = true ∨ startsURL (c :: input) = true) ∧ isMark c = true
      · rw [emitted_mark mark.1 mark.2, List.flatten_cons]
        have inside := (ih true).2
        rw [← clean_redacted] at inside
        exact clean_outside inside fun _ => rfl
      · have plain : inUrl = true ∨ startsURL (c :: input) = true → isMark c = false := by
          simpa using mark
        have rest := (ih ((inUrl || startsURL (c :: input)) && !endsURL c)).1
        have copy := emitted_copy plain
        have starts (h : startsURL (c :: (emitted ((inUrl || startsURL (c :: input)) && !endsURL c)
            false input).flatten) = true) : startsURL (c :: input) = true := by
          have output : startsURL (emitted inUrl false (c :: input)).flatten = true := by
            rw [copy]
            exact h
          exact startsURL_of_emitted output
        rw [copy, List.flatten_cons, List.singleton_append]
        refine clean_cons.mpr ⟨fun inside => plain (inside.imp_right starts), ?_⟩
        refine clean_outside rest ?_
        simp only [Bool.and_eq_true, Bool.or_eq_true]
        exact And.imp_left (Or.imp_right starts)
    · rw [emitted_skip]
      split_ifs with ends
      · rw [List.flatten_cons, List.singleton_append]
        refine clean_cons.mpr ⟨fun _ => isMark_of_endsURL ends, ?_⟩
        rw [ends, Bool.not_true, Bool.and_false]
        exact (ih false).1
      · exact (ih true).2

theorem mem_emitted {redacting : Bool} {d : Char}
    (mem : d ∈ (emitted inUrl redacting input).flatten) : d ∈ input ∨ d ∈ kRedacted := by
  induction input generalizing inUrl redacting with
  | nil => simp [emitted] at mem
  | cons c input ih =>
    simp only [emitted] at mem
    split_ifs at mem
    · rw [List.flatten_cons, List.mem_append] at mem
      rcases mem with mem | mem
      · exact .inr mem
      · exact (ih mem).imp_left (List.mem_cons_of_mem _)
    · rw [List.singleton_append, List.flatten_cons, List.singleton_append, List.mem_cons] at mem
      rcases mem with rfl | mem
      · exact .inl List.mem_cons_self
      · exact (ih mem).imp_left (List.mem_cons_of_mem _)
    · exact (ih mem).imp_left (List.mem_cons_of_mem _)

end Emitted

theorem nul_not_mem_scan (outputSize : ℕ) (line : CString) :
    nul ∉ scan outputSize line.chars false false [] := by
  intro mem
  rw [scan_eq_fill] at mem
  rcases mem_emitted ((fill_isPrefix [] _).subset mem) with mem | mem
  · exact line.terminated mem
  · revert mem
    decide

/-- The string left in the output buffer, if the function writes one. -/
def sanitizeBootLogLine (input : Option CString) (outputSize : ℕ) : Option CString :=
  match input with
  | some line =>
    if outputSize = 0 then none
    else some ⟨scan outputSize line.chars false false [], nul_not_mem_scan outputSize line⟩
  | none => none

end BlinkerFluid.BootLog
