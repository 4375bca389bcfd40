import BlinkerFluid.CssTokens
import Mathlib.Data.List.Basic

/-! What stands open at a place of a style sheet: brackets that wait for their closing one,
and a comment, string or `url(` token that has not ended. Where texts are joined by stops,
what one of them leaves open is read on in the next. -/

namespace BlinkerFluid.CssNesting
open ByteString CssLexers CssTokens

/-- The closing brackets that are waited for, the innermost first. -/
def bracket (stack : List Char) (c : Char) : List Char :=
  if c = '(' then ')' :: stack
  else if c = '[' then ']' :: stack
  else if c = '\x7b' then '\x7d' :: stack
  else if c ∈ [')', ']', '\x7d'] ∧ stack.head? = some c then stack.tail
  else stack

def nest (stack : List Char) (token : Token) : List Char :=
  match token.kind with
  | .function => ')' :: stack
  | .delim => token.text.foldl bracket stack
  | _ => stack

def delim (c : Char) : Token := ⟨.delim, [c]⟩

/-- A block opens where nothing else is open: no bracket waits for its closing one, and
the brace is a token of its own. -/
def OpensAtTop (css : Bytes) : Prop :=
  ∃ before after, tokenize css = before ++ delim '\x7b' :: after ∧ before.foldl nest [] = []

structure Context where
  opening : Option Opening
  stack : List Char
deriving DecidableEq

def Context.top : Context := ⟨none, []⟩

def Context.after (context : Context) (token : Token) : Context :=
  ⟨token.opening, nest context.stack token⟩

/-- What is open behind a text, where something is open in front of it. -/
def Context.read (context : Context) (s : Bytes) : Context :=
  match context.opening with
  | none => (tokenize s).foldl Context.after context
  | some opening =>
    match opening.close s with
    | none => context
    | some token =>
      (tokenize (s.drop token.text.length)).foldl Context.after ⟨none, context.stack⟩

/-- A stop is read into what is open, or it is a token. -/
def Context.stop (context : Context) (c : Char) : Context :=
  match context.opening with
  | none => ⟨none, bracket context.stack c⟩
  | some _ => context

section Stops

variable {c : Char}

theorem consume_stop (stop : IsStop c) (rest : Bytes) : consume (c :: rest) = delim c := by
  have openers' := firstOf_stop reads_openers [] rest stop
  have lexers' := firstOf_stop reads_lexers [] rest stop
  rw [List.nil_append] at openers' lexers'
  rw [consume, openers', lexers']
  rfl

theorem tokenize_cons_stop (stop : IsStop c) (rest : Bytes) :
    tokenize (c :: rest) = delim c :: tokenize rest := by
  rw [tokenize_eq_cons (List.cons_ne_nil c rest), consume_stop stop]
  rfl

/-- What of a text is left behind the end of what is open. -/
def behind (opening : Opening) (s : Bytes) : Bytes :=
  match opening.close s with
  | none => []
  | some token => s.drop token.text.length

theorem drop_enclosed (opening : Opening) (lead s : Bytes) :
    (lead ++ s).drop (enclosed opening lead s).text.length = behind opening s := by
  cases h : opening.close s with
  | none => simp [enclosed_of_open h, behind, h]
  | some token => simp [enclosed_of_close h, behind, h]

/-- A stop behind a text is a token of its own, or the last token of the text runs on
behind it. -/
theorem tokenize_stop (stop : IsStop c) (s rest : Bytes) :
    ((∀ token ∈ tokenize s, token.opening = none) ∧
        tokenize (s ++ c :: rest) = tokenize s ++ delim c :: tokenize rest) ∨
      ∃ front opening text, (∀ token ∈ front, token.opening = none) ∧
        tokenize s = front ++ [⟨.unclosed opening, text⟩] ∧
        tokenize (s ++ c :: rest) =
          front ++ enclosed opening (text ++ [c]) rest :: tokenize (behind opening rest) := by
  induction h : s.length using Nat.strong_induction_on generalizing s with
  | _ length ih =>
    by_cases empty : s = []
    · subst empty
      exact .inl ⟨by simp, tokenize_cons_stop stop rest⟩
    have shorter := h ▸ length_drop_consume empty
    have longer : s ++ c :: rest ≠ [] := by simp
    cases open' : (consume s).opening with
    | none =>
      have same := consume_of_closed empty open' stop rest
      have later : (s ++ c :: rest).drop (consume s).text.length =
          s.drop (consume s).text.length ++ c :: rest :=
        drop_append_of_isPrefix (consume_isPrefix s) _
      rw [tokenize_eq_cons empty, tokenize_eq_cons longer, same, later]
      rcases ih _ shorter _ rfl with
        ⟨closed, tokens⟩ | ⟨front, opening, text, closed, tokens, tokens'⟩
      · exact .inl ⟨List.forall_mem_cons.mpr ⟨open', closed⟩, by rw [tokens, List.cons_append]⟩
      · refine .inr ⟨consume s :: front, opening, text,
          List.forall_mem_cons.mpr ⟨open', closed⟩, ?_⟩
        rw [tokens, tokens', List.cons_append, List.cons_append]
        exact ⟨rfl, rfl⟩
    | some opening =>
      obtain ⟨whole, same⟩ := consume_of_unclosed open' stop rest
      have token : consume s = ⟨.unclosed opening, s⟩ :=
        calc consume s = ⟨(consume s).kind, (consume s).text⟩ := rfl
          _ = ⟨.unclosed opening, s⟩ := by rw [opening_eq_some_iff.mp open', whole]
      have later : (s ++ c :: rest).drop (enclosed opening (s ++ [c]) rest).text.length =
          behind opening rest := by
        rw [← drop_enclosed opening (s ++ [c]) rest, List.append_assoc, List.singleton_append]
      refine .inr ⟨[], opening, s, nofun, ?_, ?_⟩
      · rw [tokenize_eq_cons empty, whole, List.drop_length, tokenize_nil, token]
        rfl
      · rw [tokenize_eq_cons longer, same, later]
        rfl

end Stops

section Contexts

variable {c : Char} {stack : List Char}

theorem nest_enclosed (opening : Opening) (lead s : Bytes) :
    nest stack (enclosed opening lead s) = stack := by
  cases h : opening.close s with
  | none => rw [enclosed_of_open h, nest]
  | some token =>
    have kind := close_kind h
    simp only [List.mem_cons, List.not_mem_nil, or_false] at kind
    rw [enclosed_of_close h, nest, behind_kind]
    rcases kind with kind | kind | kind | kind <;> rw [kind]

theorem foldl_after_closed {tokens : List Token} (closed : ∀ token ∈ tokens, token.opening = none) :
    tokens.foldl Context.after ⟨none, stack⟩ = ⟨none, tokens.foldl nest stack⟩ := by
  induction tokens generalizing stack with
  | nil => rfl
  | cons token tokens ih =>
    rw [List.forall_mem_cons] at closed
    rw [List.foldl_cons, Context.after, closed.1, ih closed.2, List.foldl_cons]

theorem read_open (opening : Opening) (lead s : Bytes) :
    (⟨some opening, stack⟩ : Context).read s = (tokenize (behind opening s)).foldl Context.after
      (Context.after ⟨none, stack⟩ (enclosed opening lead s)) := by
  rw [Context.after, nest_enclosed]
  cases h : opening.close s with
  | none =>
    have still : (enclosed opening lead s).opening = some opening := by
      rw [enclosed_of_open h]
      rfl
    simp [Context.read, h, behind, still]
  | some token =>
    have closed : (enclosed opening lead s).opening = none :=
      enclosed_opening.mpr (by rw [h]; rfl)
    simp [Context.read, h, behind, closed]

theorem read_plain_stop (stop : IsStop c) (s rest : Bytes) :
    (⟨none, stack⟩ : Context).read (s ++ c :: rest) =
      (((⟨none, stack⟩ : Context).read s).stop c).read rest := by
  rcases tokenize_stop stop s rest with
    ⟨closed, tokens⟩ | ⟨front, opening, text, closed, tokens, tokens'⟩
  · simp only [Context.read, tokens, List.foldl_append, foldl_after_closed closed, Context.stop]
    rfl
  · have front' : (⟨none, stack⟩ : Context).read s = ⟨some opening, front.foldl nest stack⟩ := by
      simp only [Context.read, tokens, List.foldl_append, foldl_after_closed closed]
      rfl
    rw [front']
    calc (⟨none, stack⟩ : Context).read (s ++ c :: rest) =
          (tokenize (behind opening rest)).foldl Context.after (Context.after
            ⟨none, front.foldl nest stack⟩ (enclosed opening (text ++ [c]) rest)) := by
          simp only [Context.read, tokens', List.foldl_append, foldl_after_closed closed,
            List.foldl_cons]
      _ = (⟨some opening, front.foldl nest stack⟩ : Context).read rest := (read_open ..).symm

theorem read_stop (context : Context) (stop : IsStop c) (s rest : Bytes) :
    context.read (s ++ c :: rest) = ((context.read s).stop c).read rest := by
  obtain ⟨opening, stack⟩ := context
  cases opening with
  | none => exact read_plain_stop stop s rest
  | some opening =>
    cases h : opening.close s with
    | none =>
      have here : (⟨some opening, stack⟩ : Context).read s = ⟨some opening, stack⟩ := by
        simp [Context.read, h]
      rw [here]
      have through := close_through h stop rest
      cases found : opening.close rest with
      | none =>
        rw [found] at through
        simp [Context.read, Context.stop, through, found]
      | some token =>
        rw [found] at through
        have later : (s ++ c :: rest).drop (s ++ [c] ++ token.text).length =
            rest.drop token.text.length := by
          simp [← List.drop_drop]
        simp only [Context.read, Context.stop, through, found, Option.map_some, behind_text, later]
    | some token =>
      have here : (⟨some opening, stack⟩ : Context).read s =
          (⟨none, stack⟩ : Context).read (s.drop token.text.length) := by
        simp [Context.read, h]
      have there : (⟨some opening, stack⟩ : Context).read (s ++ c :: rest) =
          (⟨none, stack⟩ : Context).read (s.drop token.text.length ++ c :: rest) := by
        rw [← drop_append_of_isPrefix (close_isPrefix h) (c :: rest)]
        simp [Context.read, close_append h]
      rw [here, there, read_plain_stop stop]

theorem stop_comma (context : Context) : context.stop ',' = context := by
  obtain ⟨_ | opening, stack⟩ := context <;> rfl

theorem read_intercalate (context : Context) {texts : List Bytes} (some_text : texts ≠ []) :
    context.read ([','].intercalate texts) = texts.foldl Context.read context := by
  induction texts generalizing context with
  | nil => exact absurd rfl some_text
  | cons text texts ih =>
    cases texts with
    | nil => simp [List.intercalate]
    | cons text' texts =>
      have joined : [','].intercalate (text :: text' :: texts) =
          text ++ ',' :: [','].intercalate (text' :: texts) := by simp [List.intercalate]
      rw [joined, read_stop context (.inl rfl), stop_comma, ih _ (List.cons_ne_nil _ _)]
      rfl

end Contexts

section Blocks

variable {s rest : Bytes}

theorem mem_of_mem_tokenize {token : Token} (mem : token ∈ tokenize s) {c : Char}
    (inside : c ∈ token.text) : c ∈ s := by
  rw [← flatMap_tokenize s]
  exact List.mem_flatMap.mpr ⟨token, mem, inside⟩

theorem delim_not_mem {c : Char} (absent : c ∉ s) : delim c ∉ tokenize s :=
  fun mem => absent (mem_of_mem_tokenize mem (List.mem_singleton_self c))

theorem mem_of_mem_behind {opening : Opening} {c : Char} (mem : c ∈ behind opening s) : c ∈ s := by
  unfold behind at mem
  split at mem
  · cases mem
  · exact List.mem_of_mem_drop mem

theorem opensAtTop_iff (absent : '\x7b' ∉ s) (absent' : '\x7b' ∉ rest) :
    OpensAtTop (s ++ '\x7b' :: rest) ↔ Context.top.read s = Context.top := by
  have stop : IsStop '\x7b' := .inr rfl
  rcases tokenize_stop stop s rest with
    ⟨closed, tokens⟩ | ⟨front, opening, text, closed, tokens, tokens'⟩
  · have read : Context.top.read s = ⟨none, (tokenize s).foldl nest []⟩ := foldl_after_closed closed
    rw [read, OpensAtTop, tokens]
    constructor
    · rintro ⟨before, after, same, level⟩
      have split := (List.append_cons_inj_of_notMem (delim_not_mem absent)
        (delim_not_mem absent')).mp same
      rw [split.1, level]
      rfl
    · intro level
      exact ⟨tokenize s, tokenize rest, rfl, congrArg Context.stack level⟩
  · have read : Context.top.read s = ⟨some opening, front.foldl nest []⟩ := by
      simp only [Context.top, Context.read, tokens, List.foldl_append, foldl_after_closed closed]
      rfl
    have kept : ∀ token ∈ front, token ∈ tokenize s := fun token mem => by
      rw [tokens]
      exact List.mem_append_left _ mem
    constructor
    · rintro ⟨before, after, same, -⟩
      have brace : delim '\x7b' ∈ tokenize (s ++ '\x7b' :: rest) := by simp [same]
      rw [tokens', List.mem_append, List.mem_cons] at brace
      rcases brace with mem | enclosed' | mem
      · exact absurd (kept _ mem) (delim_not_mem absent)
      · have level : nest [] (enclosed opening (text ++ ['\x7b']) rest) = [] := nest_enclosed ..
        rw [← enclosed'] at level
        cases level
      · exact absurd mem (delim_not_mem fun later => absent' (mem_of_mem_behind later))
    · intro level
      rw [read] at level
      cases level

end Blocks

end BlinkerFluid.CssNesting
