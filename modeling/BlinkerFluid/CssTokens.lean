import BlinkerFluid.CssLexers

/-! The tokens of a style sheet that has no escapes. A token is cut off the front by the
first lexer that reads something; comments, strings and `url(` tokens run on to their end,
whatever stands in them. -/

namespace BlinkerFluid.CssTokens
open ByteString CssLexers

inductive Quote where
  | double
  | single
deriving DecidableEq

def Quote.char : Quote → Char
  | .double => '\x22'
  | .single => '\x27'

inductive Opening where
  | comment
  | string (quote : Quote)
  | url
deriving DecidableEq

/-- A `delim` is any token of one character, a bracket among them. A `url` may be a bad
one: both end at the next parenthesis. -/
inductive Kind where
  | whitespace
  | comment
  | string
  | badString
  | url
  | hash
  | dimension
  | percentage
  | number
  | cdc
  | cdo
  | atKeyword
  | function
  | ident
  | delim
  | unclosed (opening : Opening)
deriving DecidableEq

structure Token where
  kind : Kind
  text : Bytes
deriving DecidableEq

def Quote.quotes (quote : Quote) (c : Char) : Bool := c ≠ quote.char && !isNewline c

/-- The end of what is open, with what stands in front of it; a string ends in front of a
line break, too. -/
def Opening.close : Opening → Bytes → Option Token
  | .comment, s => (splitAtFirst "*/".toList s).map fun (before, _) =>
    ⟨.comment, before ++ "*/".toList⟩
  | .url, s => (splitAtFirst [')'] s).map fun (before, _) => ⟨.url, before ++ [')']⟩
  | .string quote, s => (s.dropWhile quote.quotes).head?.map fun c =>
    if c = quote.char then ⟨.string, s.takeWhile quote.quotes ++ [c]⟩
    else ⟨.badString, s.takeWhile quote.quotes⟩

def Token.behind (lead : Bytes) (token : Token) : Token := { token with text := lead ++ token.text }

def enclosed (opening : Opening) (lead s : Bytes) : Token :=
  ((opening.close s).getD ⟨.unclosed opening, s⟩).behind lead

def openers : List (Opening × (Bytes → Bytes)) :=
  [(.comment, literal "/*".toList), (.string .double, literal [Quote.double.char]),
    (.string .single, literal [Quote.single.char]), (.url, urlStart)]

def lexers : List (Kind × (Bytes → Bytes)) :=
  [(.whitespace, List.takeWhile isBlank),
    (.hash, both (literal ['#']) (List.takeWhile isNameChar)),
    (.dimension, both number ident), (.percentage, both number (literal ['%'])),
    (.number, number), (.cdc, literal "-->".toList), (.cdo, literal "<!--".toList),
    (.atKeyword, both (literal ['@']) ident), (.function, function), (.ident, ident)]

/-- The first token of a text that is not empty. -/
def consume (s : Bytes) : Token :=
  match firstOf openers s with
  | some (opening, lead) => enclosed opening lead (s.drop lead.length)
  | none =>
    match firstOf lexers s with
    | some (kind, text) => ⟨kind, text⟩
    | none => ⟨.delim, s.take 1⟩

def Token.opening (token : Token) : Option Opening :=
  match token.kind with
  | .unclosed opening => some opening
  | _ => none

/-- The tokens, comments among them, for as long as there is fuel. -/
def tokensWithin : ℕ → Bytes → List Token
  | 0, _ => []
  | _ + 1, [] => []
  | fuel + 1, c :: rest =>
    let token := consume (c :: rest)
    token :: tokensWithin fuel ((c :: rest).drop token.text.length)

/-- Every token takes a character, so the length is fuel enough. -/
def tokenize (s : Bytes) : List Token := tokensWithin s.length s

theorem reads_openers : ∀ choice ∈ openers, Reads choice.2 := by
  have comment : Reads (literal "/*".toList) :=
    reads_literal fun c stop => by rcases stop with rfl | rfl <;> decide
  simp only [openers, List.forall_mem_cons, List.not_mem_nil, false_imp_iff, implies_true, and_true]
  exact ⟨comment, reads_one (by simp [IsStop, Quote.char]),
    reads_one (by simp [IsStop, Quote.char]), reads_urlStart⟩

theorem reads_lexers : ∀ choice ∈ lexers, Reads choice.2 := by
  have blank : Reads (List.takeWhile isBlank) := reads_takeWhile fun _ => not_isBlank_of_stop
  have name : Reads (List.takeWhile isNameChar) := reads_takeWhile fun _ => not_isNameChar_of_stop
  have cdc : Reads (literal "-->".toList) :=
    reads_literal fun c stop => by rcases stop with rfl | rfl <;> decide
  have cdo : Reads (literal "<!--".toList) :=
    reads_literal fun c stop => by rcases stop with rfl | rfl <;> decide
  simp only [lexers, List.forall_mem_cons, List.not_mem_nil, false_imp_iff, implies_true, and_true]
  exact ⟨blank, (reads_one (by simp [IsStop])).both name, reads_number.both reads_ident,
    reads_number.both (reads_one (by simp [IsStop])), reads_number, cdc, cdo,
    (reads_one (by simp [IsStop])).both reads_ident, reads_function, reads_ident⟩

section Close

variable {opening : Opening} {token : Token} {s : Bytes}

@[simp] theorem behind_kind (lead : Bytes) (token : Token) :
    (token.behind lead).kind = token.kind := rfl

@[simp] theorem behind_text (lead : Bytes) (token : Token) :
    (token.behind lead).text = lead ++ token.text := rfl

theorem behind_behind (lead lead' : Bytes) (token : Token) :
    (token.behind lead').behind lead = token.behind (lead ++ lead') := by
  simp [Token.behind]

theorem close_isPrefix (h : opening.close s = some token) : token.text <+: s := by
  cases opening with
  | comment =>
    obtain ⟨⟨before, after⟩, found, rfl⟩ := Option.map_eq_some_iff.mp h
    exact ⟨after, (splitAtFirst_eq_append found).symm⟩
  | url =>
    obtain ⟨⟨before, after⟩, found, rfl⟩ := Option.map_eq_some_iff.mp h
    exact ⟨after, (splitAtFirst_eq_append found).symm⟩
  | string quote =>
    obtain ⟨c, first, rfl⟩ := Option.map_eq_some_iff.mp h
    split_ifs
    · obtain ⟨after, behind⟩ := List.head?_eq_some_iff.mp first
      refine ⟨after, ?_⟩
      rw [List.append_assoc, List.singleton_append, ← behind]
      exact List.takeWhile_append_dropWhile
    · exact List.takeWhile_prefix _

theorem close_kind (h : opening.close s = some token) :
    token.kind ∈ [.comment, .string, .badString, .url] := by
  cases opening with
  | comment | url =>
    obtain ⟨_, _, rfl⟩ := Option.map_eq_some_iff.mp h
    simp
  | string quote =>
    obtain ⟨c, _, rfl⟩ := Option.map_eq_some_iff.mp h
    split_ifs <;> simp

theorem close_closed (h : opening.close s = some token) (other : Opening) :
    token.kind ≠ .unclosed other := by
  have kind := close_kind h
  intro same
  simp [same] at kind

theorem close_append (h : opening.close s = some token) (rest : Bytes) :
    opening.close (s ++ rest) = some token := by
  cases opening with
  | comment | url =>
    obtain ⟨⟨before, after⟩, found, rfl⟩ := Option.map_eq_some_iff.mp h
    rw [Opening.close, splitAtFirst_append_of_some found rest]
    rfl
  | string quote =>
    obtain ⟨c, first, rfl⟩ := Option.map_eq_some_iff.mp h
    obtain ⟨after, behind⟩ := List.head?_eq_some_iff.mp first
    have body : s = s.takeWhile quote.quotes ++ c :: after := by
      rw [← behind, List.takeWhile_append_dropWhile]
    have ends : quote.quotes c = false := by
      have head := List.head?_dropWhile_not quote.quotes s
      rw [first] at head
      simpa using head
    have inside : ∀ d ∈ s.takeWhile quote.quotes, quote.quotes d = true :=
      fun d => List.mem_takeWhile_imp
    have front : (s ++ rest).takeWhile quote.quotes = s.takeWhile quote.quotes := by
      conv_lhs => rw [body]
      rw [List.append_assoc, List.takeWhile_append_of_pos inside]
      simp [ends]
    have back : (s ++ rest).dropWhile quote.quotes = c :: (after ++ rest) := by
      conv_lhs => rw [body]
      rw [List.append_assoc, List.dropWhile_append_of_pos inside]
      simp [ends]
    rw [Opening.close, front, back]
    rfl

theorem close_through {c : Char} (h : opening.close s = none) (stop : IsStop c) (rest : Bytes) :
    opening.close (s ++ c :: rest) = (opening.close rest).map (Token.behind (s ++ [c])) := by
  cases opening with
  | comment =>
    have absent : c ∉ "*/".toList := by rcases stop with rfl | rfl <;> decide
    rw [Opening.close, splitAtFirst_append_of_none (Option.map_eq_none_iff.mp h) absent]
    simp [Opening.close, Token.behind, Function.comp_def]
  | url =>
    have absent : c ∉ [')'] := by rcases stop with rfl | rfl <;> decide
    rw [Opening.close, splitAtFirst_append_of_none (Option.map_eq_none_iff.mp h) absent]
    simp [Opening.close, Token.behind, Function.comp_def]
  | string quote =>
    have stays : quote.quotes c = true := by
      cases quote <;> rcases stop with rfl | rfl <;> decide
    have inside : ∀ d ∈ s, quote.quotes d = true := by
      have ended := Option.map_eq_none_iff.mp h
      exact List.dropWhile_eq_nil_iff.mp (List.head?_eq_none_iff.mp ended)
    simp only [Opening.close, List.takeWhile_append_of_pos inside,
      List.dropWhile_append_of_pos inside, List.takeWhile_cons, List.dropWhile_cons, stays, if_true,
      Option.map_map]
    congr 1
    funext d
    simp only [Function.comp_apply]
    split_ifs <;> simp [Token.behind]

end Close

section Enclosed

variable {opening : Opening} {token : Token} {lead s : Bytes}

theorem opening_eq_some_iff {other : Opening} :
    token.opening = some other ↔ token.kind = .unclosed other := by
  unfold Token.opening
  split
  · next kind => simp [kind]
  · next kind => simpa using kind other

theorem enclosed_of_close (h : opening.close s = some token) (lead : Bytes) :
    enclosed opening lead s = token.behind lead := by simp [enclosed, h]

theorem enclosed_of_open (h : opening.close s = none) (lead : Bytes) :
    enclosed opening lead s = ⟨.unclosed opening, lead ++ s⟩ := by simp [enclosed, h, Token.behind]

theorem enclosed_isPrefix (opening : Opening) (lead s : Bytes) :
    (enclosed opening lead s).text <+: lead ++ s := by
  cases h : opening.close s with
  | some token =>
    rw [enclosed_of_close h, behind_text]
    exact (List.prefix_append_right_inj lead).mpr (close_isPrefix h)
  | none => rw [enclosed_of_open h]

theorem lead_prefix_enclosed (opening : Opening) (lead s : Bytes) :
    lead <+: (enclosed opening lead s).text := List.prefix_append _ _

theorem enclosed_through {c : Char} (h : opening.close s = none) (stop : IsStop c)
    (lead rest : Bytes) :
    enclosed opening lead (s ++ c :: rest) = enclosed opening (lead ++ s ++ [c]) rest := by
  have through := close_through h stop rest
  cases found : opening.close rest with
  | some token =>
    rw [found] at through
    rw [enclosed_of_close through, enclosed_of_close found, behind_behind, List.append_assoc]
  | none =>
    rw [found] at through
    rw [enclosed_of_open through, enclosed_of_open found]
    simp

theorem enclosed_opening : (enclosed opening lead s).opening = none ↔
    (opening.close s).isSome := by
  cases h : opening.close s with
  | some token =>
    rw [enclosed_of_close h]
    have closed : (token.behind lead).opening = none := by
      rw [Option.eq_none_iff_forall_ne_some]
      exact fun other open' => close_closed h other (opening_eq_some_iff.mp open')
    simpa using closed
  | none =>
    rw [enclosed_of_open h]
    simp [Token.opening]

end Enclosed

section Consume

variable {s : Bytes}

theorem consume_isPrefix (s : Bytes) : (consume s).text <+: s := by
  unfold consume
  cases opener : firstOf openers s with
  | some found =>
    obtain ⟨-, front, -⟩ := firstOf_some reads_openers opener
    have whole : s = found.2 ++ s.drop found.2.length := List.prefix_append_drop front
    exact (enclosed_isPrefix found.1 found.2 _).trans (whole ▸ List.prefix_rfl)
  | none =>
    cases lexer : firstOf lexers s with
    | some found => exact (firstOf_some reads_lexers lexer).2.1
    | none => exact List.take_prefix 1 s

theorem consume_ne_nil (some_char : s ≠ []) : (consume s).text ≠ [] := by
  unfold consume
  cases opener : firstOf openers s with
  | some found =>
    obtain ⟨lead, -, -⟩ := firstOf_some reads_openers opener
    exact (lead_prefix_enclosed found.1 found.2 _).ne_nil lead
  | none =>
    cases lexer : firstOf lexers s with
    | some found => exact (firstOf_some reads_lexers lexer).1
    | none => simpa using some_char

theorem lexers_closed : ∀ choice ∈ lexers, ∀ opening, choice.1 ≠ .unclosed opening := by
  simp [lexers]

theorem consume_of_opener {opening : Opening} {lead : Bytes}
    (h : firstOf openers s = some (opening, lead)) :
    consume s = enclosed opening lead (s.drop lead.length) := by rw [consume, h]

theorem opening_of_no_opener (h : firstOf openers s = none) : (consume s).opening = none := by
  rw [consume, h, Option.eq_none_iff_forall_ne_some]
  intro opening open'
  rw [opening_eq_some_iff] at open'
  cases lexer : firstOf lexers s with
  | some found =>
    rw [lexer] at open'
    obtain ⟨-, -, choice, mem, kind⟩ := firstOf_some reads_lexers lexer
    exact lexers_closed choice mem opening (kind.trans open')
  | none =>
    rw [lexer] at open'
    cases open'

variable {c : Char}

theorem consume_of_closed (some_char : s ≠ []) (closed : (consume s).opening = none)
    (stop : IsStop c) (rest : Bytes) : consume (s ++ c :: rest) = consume s := by
  have openers' := firstOf_stop reads_openers s rest stop
  cases opener : firstOf openers s with
  | some found =>
    obtain ⟨opening, lead⟩ := found
    obtain ⟨-, front, -⟩ := firstOf_some reads_openers opener
    rw [consume_of_opener opener, enclosed_opening] at closed
    obtain ⟨token, found⟩ := Option.isSome_iff_exists.mp closed
    rw [opener] at openers'
    rw [consume_of_opener openers', consume_of_opener opener, drop_append_of_isPrefix front,
      enclosed_of_close (close_append found _), enclosed_of_close found]
  | none =>
    rw [opener] at openers'
    have lexers' := firstOf_stop reads_lexers s rest stop
    obtain ⟨d, s, rfl⟩ := List.exists_cons_of_ne_nil some_char
    rw [consume, openers', consume, opener, lexers']
    rfl

theorem consume_of_unclosed {opening : Opening} (unclosed : (consume s).opening = some opening)
    (stop : IsStop c) (rest : Bytes) : (consume s).text = s ∧
      consume (s ++ c :: rest) = enclosed opening (s ++ [c]) rest := by
  have openers' := firstOf_stop reads_openers s rest stop
  cases opener : firstOf openers s with
  | some found =>
    obtain ⟨other, lead⟩ := found
    obtain ⟨-, front, -⟩ := firstOf_some reads_openers opener
    have whole : lead ++ s.drop lead.length = s := (List.prefix_append_drop front).symm
    rw [opener] at openers'
    rw [consume_of_opener opener] at unclosed
    cases found : other.close (s.drop lead.length) with
    | some token =>
      have closed : (enclosed other lead (s.drop lead.length)).opening = none :=
        enclosed_opening.mpr (by rw [found]; rfl)
      rw [closed] at unclosed
      cases unclosed
    | none =>
      obtain rfl : other = opening := by
        rw [enclosed_of_open found] at unclosed
        exact Option.some.inj unclosed
      rw [consume_of_opener opener, enclosed_of_open found, consume_of_opener openers',
        drop_append_of_isPrefix front, enclosed_through found stop, whole]
      exact ⟨rfl, rfl⟩
  | none =>
    rw [opening_of_no_opener opener] at unclosed
    cases unclosed

end Consume

section Tokenize

variable {s : Bytes}

theorem length_drop_consume (some_char : s ≠ []) :
    (s.drop (consume s).text.length).length < s.length := by
  have some_text := List.length_pos_iff.mpr (consume_ne_nil some_char)
  have some_length := List.length_pos_iff.mpr some_char
  simp only [List.length_drop]
  omega

theorem tokensWithin_congr {fuel fuel' : ℕ} (enough : s.length ≤ fuel)
    (enough' : s.length ≤ fuel') : tokensWithin fuel s = tokensWithin fuel' s := by
  induction fuel generalizing s fuel' with
  | zero =>
    obtain rfl := List.length_eq_zero_iff.mp (Nat.le_zero.mp enough)
    cases fuel' <;> rfl
  | succ fuel ih =>
    cases s with
    | nil => cases fuel' <;> rfl
    | cons c s =>
      have shorter := length_drop_consume (List.cons_ne_nil c s)
      simp only [List.length_cons] at enough enough' shorter
      cases fuel' with
      | zero => omega
      | succ fuel' =>
        rw [tokensWithin, tokensWithin]
        exact congrArg _ (ih (by omega) (by omega))

@[simp] theorem tokenize_nil : tokenize [] = [] := rfl

theorem tokenize_eq_cons (some_char : s ≠ []) :
    tokenize s = consume s :: tokenize (s.drop (consume s).text.length) := by
  have shorter := length_drop_consume some_char
  obtain ⟨c, rest, rfl⟩ := List.exists_cons_of_ne_nil some_char
  simp only [List.length_cons] at shorter
  rw [tokenize, List.length_cons, tokensWithin]
  exact congrArg _ (tokensWithin_congr (by omega) le_rfl)

theorem flatMap_tokenize (s : Bytes) : (tokenize s).flatMap Token.text = s := by
  induction h : s.length using Nat.strong_induction_on generalizing s with
  | _ length ih =>
    cases s with
    | nil => rfl
    | cons c rest =>
      have shorter := length_drop_consume (List.cons_ne_nil c rest)
      rw [tokenize_eq_cons (List.cons_ne_nil c rest), List.flatMap_cons,
        ih _ (h ▸ shorter) _ rfl]
      exact (List.prefix_append_drop (consume_isPrefix (c :: rest))).symm

end Tokenize

end BlinkerFluid.CssTokens
