import BlinkerFluid.ByteString

/-! Lexers for the text of a style sheet that has no escapes: names, numbers, functions.
A lexer reads from the front of a text, as far as it can, and never past a comma or an
opening brace. -/

namespace BlinkerFluid.CssLexers
open ByteString

def isNewline (c : Char) : Bool := c = '\n' || c = '\r' || c = '\x0c'

def isBlank (c : Char) : Bool := c = ' ' || c = '\t' || isNewline c

def isQuote (c : Char) : Bool := c = '\x22' || c = '\x27'

/-- A letter, an underscore, or what is not ASCII; a null character counts as the
replacement character. -/
def isNameStart (c : Char) : Bool := c.isAlpha || c = '_' || c.toNat = 0 || 128 ≤ c.toNat

def isNameChar (c : Char) : Bool := isNameStart c || c.isDigit || c = '-'

section Lexers

def readOne (p : Char → Bool) (s : Bytes) : Bytes := (s.take 1).takeWhile p

def literal (text s : Bytes) : Bytes := if text <+: s then text else []

def andThen (first second : Bytes → Bytes) (s : Bytes) : Bytes :=
  first s ++ second (s.drop (first s).length)

def upTo (first second : Bytes → Bytes) (s : Bytes) : Bytes :=
  if second (s.drop (first s).length) = [] then [] else andThen first second s

def both (first second : Bytes → Bytes) (s : Bytes) : Bytes :=
  if first s = [] then [] else upTo first second s

def digits : Bytes → Bytes := List.takeWhile Char.isDigit

def sign : Bytes → Bytes := readOne fun c => c = '+' || c = '-'

def fraction : Bytes → Bytes := both (readOne (· = '.')) digits

def exponent : Bytes → Bytes := both (readOne fun c => c = 'e' || c = 'E') (upTo sign digits)

def mantissa : Bytes → Bytes := upTo sign (andThen digits fraction)

def number (s : Bytes) : Bytes := if mantissa s = [] then [] else andThen mantissa exponent s

def startsIdent : Bytes → Bool
  | [] => false
  | c :: rest => isNameStart c || (c = '-' && rest.head?.any fun d => isNameStart d || d = '-')

def ident (s : Bytes) : Bytes := if startsIdent s then s.takeWhile isNameChar else []

def function : Bytes → Bytes := both ident (literal ['('])

/-- `url(` without a quote behind it. -/
def urlStart (s : Bytes) : Bytes :=
  if toLowerASCII (function s) = "url(".toList ∧
      ((s.drop (function s).length).dropWhile isBlank).head?.any isQuote = false then function s
  else []

end Lexers

/-- The first lexer of a list that reads something, with what it reads. -/
def firstOf {α : Type} (choices : List (α × (Bytes → Bytes))) (s : Bytes) : Option (α × Bytes) :=
  (choices.map fun choice => (choice.1, choice.2 s)).find? fun found => found.2 ≠ []

/-- A character that ends what a lexer reads. -/
def IsStop (c : Char) : Prop := c = ',' ∨ c = '\x7b'

/-- The lexer reads from the front and not past a stop. -/
structure Reads (read : Bytes → Bytes) : Prop where
  isPrefix : ∀ s, read s <+: s
  stops : ∀ s c rest, IsStop c → read (s ++ c :: rest) = read s

section Reads

variable {first second : Bytes → Bytes} {c : Char}

theorem drop_append_of_isPrefix {text s : Bytes} (h : text <+: s) (rest : Bytes) :
    (s ++ rest).drop text.length = s.drop text.length ++ rest :=
  List.drop_append_of_le_length h.length_le

theorem takeWhile_stop {p : Char → Bool} (s rest : Bytes) (h : p c = false) :
    (s ++ c :: rest).takeWhile p = s.takeWhile p := by
  induction s with
  | nil => simp [h]
  | cons d s ih => simp only [List.cons_append, List.takeWhile_cons, ih]

theorem reads_takeWhile {p : Char → Bool} (h : ∀ c, IsStop c → p c = false) :
    Reads (List.takeWhile p) where
  isPrefix _ := List.takeWhile_prefix p
  stops s c rest stop := takeWhile_stop s rest (h c stop)

theorem reads_readOne {p : Char → Bool} (h : ∀ c, IsStop c → p c = false) : Reads (readOne p) where
  isPrefix s := (List.takeWhile_prefix p).trans (List.take_prefix 1 s)
  stops s c rest stop := by
    cases s with
    | nil => simp [readOne, h c stop]
    | cons d s => simp [readOne]

theorem reads_literal {text : Bytes} (h : ∀ c, IsStop c → c ∉ text) : Reads (literal text) where
  isPrefix s := by
    unfold literal
    split_ifs with front
    · exact front
    · exact List.nil_prefix
  stops s c rest stop := by simp only [literal, prefix_append_iff_of_not_mem (h c stop)]

theorem Reads.drop_stop (h : Reads first) (s rest : Bytes) (stop : IsStop c) :
    (s ++ c :: rest).drop (first (s ++ c :: rest)).length =
      s.drop (first s).length ++ c :: rest := by
  rw [h.stops s c rest stop, drop_append_of_isPrefix (h.isPrefix s)]

theorem Reads.andThen (h : Reads first) (h' : Reads second) : Reads (andThen first second) where
  isPrefix s := by
    have behind : second (s.drop (first s).length) <+: s.drop (first s).length := h'.isPrefix _
    have front : first s ++ s.drop (first s).length = s :=
      (List.prefix_append_drop (h.isPrefix s)).symm
    calc CssLexers.andThen first second s <+: first s ++ s.drop (first s).length :=
          (List.prefix_append_right_inj _).mpr behind
      _ = s := front
  stops s c rest stop := by
    unfold CssLexers.andThen
    rw [h.drop_stop s rest stop, h'.stops _ c rest stop, h.stops s c rest stop]

theorem Reads.upTo (h : Reads first) (h' : Reads second) : Reads (upTo first second) where
  isPrefix s := by
    unfold CssLexers.upTo
    split_ifs
    · exact List.nil_prefix
    · exact (h.andThen h').isPrefix s
  stops s c rest stop := by
    unfold CssLexers.upTo
    rw [h.drop_stop s rest stop, h'.stops _ c rest stop, (h.andThen h').stops s c rest stop]

theorem Reads.both (h : Reads first) (h' : Reads second) : Reads (both first second) where
  isPrefix s := by
    unfold CssLexers.both
    split_ifs
    · exact List.nil_prefix
    · exact (h.upTo h').isPrefix s
  stops s c rest stop := by
    unfold CssLexers.both
    rw [h.stops s c rest stop, (h.upTo h').stops s c rest stop]

end Reads

section Stops

variable {c : Char}

theorem not_isDigit_of_stop (stop : IsStop c) : c.isDigit = false := by
  rcases stop with rfl | rfl <;> decide

theorem not_isNameChar_of_stop (stop : IsStop c) : isNameChar c = false := by
  rcases stop with rfl | rfl <;> decide

theorem not_isBlank_of_stop (stop : IsStop c) : isBlank c = false := by
  rcases stop with rfl | rfl <;> decide

theorem reads_digits : Reads digits := reads_takeWhile fun _ => not_isDigit_of_stop

theorem reads_sign : Reads sign :=
  reads_readOne fun c stop => by rcases stop with rfl | rfl <;> decide

theorem reads_fraction : Reads fraction :=
  (reads_readOne fun c stop => by rcases stop with rfl | rfl <;> decide).both reads_digits

theorem reads_exponent : Reads exponent :=
  (reads_readOne fun c stop => by rcases stop with rfl | rfl <;> decide).both
    (reads_sign.upTo reads_digits)

theorem reads_mantissa : Reads mantissa := reads_sign.upTo (reads_digits.andThen reads_fraction)

theorem reads_number : Reads number where
  isPrefix s := by
    unfold number
    split_ifs
    · exact List.nil_prefix
    · exact (reads_mantissa.andThen reads_exponent).isPrefix s
  stops s c rest stop := by
    unfold number
    rw [reads_mantissa.stops s c rest stop,
      (reads_mantissa.andThen reads_exponent).stops s c rest stop]

theorem startsIdent_stop (s rest : Bytes) (stop : IsStop c) :
    startsIdent (s ++ c :: rest) = startsIdent s := by
  have first : isNameStart c = false ∧ c ≠ '-' := by rcases stop with rfl | rfl <;> decide
  cases s with
  | nil => simp [startsIdent, first]
  | cons d s => cases s <;> simp [startsIdent, first]

theorem reads_ident : Reads ident where
  isPrefix s := by
    unfold ident
    split_ifs
    · exact List.takeWhile_prefix _
    · exact List.nil_prefix
  stops s c rest stop := by
    simp only [ident, startsIdent_stop s rest stop,
      takeWhile_stop s rest (not_isNameChar_of_stop stop)]

theorem reads_one {c : Char} (h : ¬ IsStop c) : Reads (literal [c]) := by
  refine reads_literal fun d stop mem => h ?_
  rwa [← List.mem_singleton.mp mem]

theorem reads_function : Reads function :=
  reads_ident.both (reads_one (by simp [IsStop]))

theorem quote_behind_stop (s rest : Bytes) (stop : IsStop c) :
    ((s ++ c :: rest).dropWhile isBlank).head?.any isQuote =
      (s.dropWhile isBlank).head?.any isQuote := by
  have quote : isQuote c = false := by rcases stop with rfl | rfl <;> decide
  induction s with
  | nil => simp [not_isBlank_of_stop stop, quote]
  | cons d s ih =>
    simp only [List.cons_append, List.dropWhile_cons]
    split_ifs
    · exact ih
    · rfl

theorem reads_urlStart : Reads urlStart where
  isPrefix s := by
    unfold urlStart
    split_ifs
    · exact reads_function.isPrefix s
    · exact List.nil_prefix
  stops s c rest stop := by
    unfold urlStart
    rw [reads_function.drop_stop s rest stop, quote_behind_stop _ rest stop,
      reads_function.stops s c rest stop]

end Stops

section FirstOf

variable {α : Type} {choices : List (α × (Bytes → Bytes))} {s : Bytes} {kind : α} {text : Bytes}

theorem firstOf_stop (reads : ∀ choice ∈ choices, Reads choice.2) (s rest : Bytes) {c : Char}
    (stop : IsStop c) : firstOf choices (s ++ c :: rest) = firstOf choices s := by
  have same : (choices.map fun choice => (choice.1, choice.2 (s ++ c :: rest))) =
      choices.map fun choice => (choice.1, choice.2 s) :=
    List.map_congr_left fun choice mem => by rw [(reads choice mem).stops s c rest stop]
  rw [firstOf, same, firstOf]

theorem firstOf_some (reads : ∀ choice ∈ choices, Reads choice.2)
    (found : firstOf choices s = some (kind, text)) : text ≠ [] ∧ text <+: s ∧
      ∃ choice ∈ choices, choice.1 = kind := by
  obtain ⟨choice, mem, same⟩ := List.mem_map.mp (List.mem_of_find?_eq_some found)
  obtain ⟨rfl, rfl⟩ := Prod.mk.inj same
  exact ⟨by simpa using List.find?_some found, (reads choice mem).isPrefix s, choice, mem, rfl⟩

end FirstOf

end BlinkerFluid.CssLexers
