import BlinkerFluid.FilterOrder

/-! The lines that `ParseFilterLine` turns into host rules, as a grammar: a bare
domain token, on its own or marked with `||` in front and `^` behind, and with
`@@||` in front for an exception. A token is bare up to `NormalizeHost`. -/

namespace BlinkerFluid.NetworkRules
open ByteString ContentFilter

/-- The four spellings of a rule that covers the whole host `token`. -/
def hostSpellings (token : Bytes) : List Bytes :=
  [token, "||".toList ++ token, token ++ ['^'], "||".toList ++ token ++ ['^']]

/-- The trimmed line spells a token that stands for `host`. -/
def BlocksHost (text host : Bytes) : Prop :=
  looksLikeDomain host = true ∧
    ∃ token, normalizeHost token = host ∧ trim isLineBlank text ∈ hostSpellings token

/-- The trimmed line is `@@||token` or `@@||token^`, the token standing for `host`. -/
def AllowsHost (text host : Bytes) : Prop :=
  looksLikeDomain host = true ∧
    ∃ token, normalizeHost token = host ∧
      (trim isLineBlank text = "@@||".toList ++ token ∨
        trim isLineBlank text = "@@||".toList ++ token ++ ['^'])

/-- A mark of options, a path or a regex, a wildcard, a comment, a header, a
cosmetic or procedural rule. -/
def IsRuleMark (c : Char) : Prop := c ∈ ['$', '/', '*', '!', '[', '#']

instance : DecidablePred IsRuleMark := fun _ => inferInstanceAs (Decidable (_ ∈ _))

/-- What remains of a network line without `||` in front and `^` behind. -/
def ruleToken (line : Bytes) : Bytes :=
  removeSuffixChar '^' (if "||".toList.isPrefixOf line then line.drop 2 else line)

section Tokens

def IsDomainChar (c : Char) : Prop :=
  (isAsciiAlphaNumeric c || c = '.' || c = '-' || c = '_') = true

instance : DecidablePred IsDomainChar := fun _ => inferInstanceAs (Decidable (_ = true))

theorem looksLikeDomain_iff (s : Bytes) :
    looksLikeDomain s = true ↔ 3 ≤ s.length ∧ '.' ∈ s ∧ ∀ c ∈ s, IsDomainChar c := by
  simp only [looksLikeDomain, Bool.and_eq_true, decide_eq_true_eq, List.contains_iff_mem,
    List.all_eq_true, IsDomainChar, and_assoc]

theorem isDomainChar_of_toLower {c : Char} (h : IsDomainChar c.toLower) : IsDomainChar c := by
  rcases toLower_cases c with same | ⟨upper, _⟩
  · exact same ▸ h
  · simp [IsDomainChar, isAsciiAlphaNumeric, Char.isAlphanum, isAlpha_eq, upper]

theorem mem_removeSuffixChar {s : Bytes} {c d : Char} (h : c ∈ removeSuffixChar d s) : c ∈ s := by
  unfold removeSuffixChar at h
  split_ifs at h
  · exact List.mem_of_mem_dropLast h
  · exact h

theorem length_removeSuffixChar_le (d : Char) (s : Bytes) :
    (removeSuffixChar d s).length ≤ s.length := by
  unfold removeSuffixChar
  split_ifs
  · simp
  · exact le_rfl

theorem length_normalizeHost_le (token : Bytes) :
    (normalizeHost token).length ≤ token.length := by
  have dropped := (List.dropWhile_suffix (l := toLowerASCII token) (· = '.')).length_le
  have lowered : (toLowerASCII token).length = token.length := List.length_map ..
  exact ((length_removeSuffixChar_le _ _).trans dropped).trans lowered.le

theorem mem_normalizeHost {token : Bytes} {c : Char} (h : c ∈ normalizeHost token) :
    ∃ d ∈ token, d.toLower = c :=
  List.mem_map.mp ((List.dropWhile_suffix _).subset (mem_removeSuffixChar h))

theorem mem_removeSuffixChar_or {s : Bytes} {c d : Char} (h : c ∈ s) :
    c ∈ removeSuffixChar d s ∨ c = d := by
  unfold removeSuffixChar
  split_ifs with last
  · have split := List.dropLast_append_getLast? d last
    rw [← split, List.mem_append, List.mem_singleton] at h
    exact h
  · exact .inl h

theorem mem_normalizeHost_or_dot {token : Bytes} {c : Char} (h : c ∈ token) :
    c.toLower ∈ normalizeHost token ∨ c.toLower = '.' := by
  have lowered : c.toLower ∈ toLowerASCII token := List.mem_map_of_mem h
  rw [← List.takeWhile_append_dropWhile (p := (· = '.')) (l := toLowerASCII token),
    List.mem_append] at lowered
  rcases lowered with front | rest
  · exact .inr (by simpa using List.mem_takeWhile_imp front)
  · exact mem_removeSuffixChar_or rest

theorem looksLikeDomain_of_normalizeHost {token : Bytes}
    (h : looksLikeDomain (normalizeHost token) = true) : looksLikeDomain token = true := by
  obtain ⟨long, dot, bare⟩ := (looksLikeDomain_iff _).mp h
  refine (looksLikeDomain_iff _).mpr ⟨long.trans (length_normalizeHost_le token), ?_, ?_⟩
  · obtain ⟨c, mem, lower⟩ := mem_normalizeHost dot
    exact toLower_eq_of_not_isLower lower (by decide) ▸ mem
  · intro c mem
    rcases mem_normalizeHost_or_dot mem with kept | dropped
    · exact isDomainChar_of_toLower (bare _ kept)
    · rw [toLower_eq_of_not_isLower dropped (by decide)]
      decide

theorem isDomainChar_of_normalizeHost {token : Bytes}
    (h : looksLikeDomain (normalizeHost token) = true) : ∀ c ∈ token, IsDomainChar c :=
  ((looksLikeDomain_iff _).mp (looksLikeDomain_of_normalizeHost h)).2.2

theorem acceptedHost_eq_some_iff (token host : Bytes) :
    acceptedHost token = some host ↔ looksLikeDomain host = true ∧ normalizeHost token = host := by
  simp only [acceptedHost, Option.ite_none_right_eq_some, Option.some.injEq]
  constructor
  · rintro ⟨accepted, rfl⟩
    exact ⟨accepted, rfl⟩
  · rintro ⟨accepted, rfl⟩
    exact ⟨accepted, rfl⟩

end Tokens

section Spellings

variable {line token : Bytes}

theorem mem_hostSpellings : line ∈ hostSpellings token ↔ line = token ∨
    line = "||".toList ++ token ∨ line = token ++ ['^'] ∨ line = "||".toList ++ token ++ ['^'] := by
  simp only [hostSpellings, List.mem_cons, List.not_mem_nil, or_false]

theorem bars_first (rest : Bytes) : "||".toList.isPrefixOf ("||".toList ++ rest) = true :=
  List.isPrefixOf_iff_prefix.mpr (List.prefix_append _ _)

theorem not_bars_first (bare : ∀ c ∈ token, IsDomainChar c) (rest : Bytes) :
    "||".toList.isPrefixOf (token ++ '^' :: rest) = false ∧ "||".toList.isPrefixOf token = false := by
  cases token with
  | nil => exact ⟨rfl, rfl⟩
  | cons c token =>
    have other : ('|' == c) = false := by
      have bar : ¬ IsDomainChar '|' := by decide
      exact beq_eq_false_iff_ne.mpr fun h => bar (h ▸ bare c List.mem_cons_self)
    constructor <;> simp [List.isPrefixOf, other]

theorem removeSuffixChar_caret_append (s : Bytes) : removeSuffixChar '^' (s ++ ['^']) = s := by
  simp [removeSuffixChar]

theorem removeSuffixChar_caret_bare (bare : ∀ c ∈ token, IsDomainChar c) :
    removeSuffixChar '^' token = token := by
  unfold removeSuffixChar
  split_ifs with last
  · exact absurd (bare '^' (List.mem_of_getLast? last)) (by decide)
  · rfl

theorem ruleToken_of_spelling (bare : ∀ c ∈ token, IsDomainChar c)
    (spelled : line ∈ hostSpellings token) : ruleToken line = token := by
  rcases mem_hostSpellings.mp spelled with rfl | rfl | rfl | rfl
  · rw [ruleToken, (not_bars_first bare []).2]
    exact removeSuffixChar_caret_bare bare
  · rw [ruleToken, bars_first]
    exact removeSuffixChar_caret_bare bare
  · rw [ruleToken, (not_bars_first bare []).1]
    exact removeSuffixChar_caret_append token
  · rw [ruleToken, List.append_assoc, bars_first]
    exact removeSuffixChar_caret_append token

theorem mem_hostSpellings_ruleToken (line : Bytes) : line ∈ hostSpellings (ruleToken line) := by
  have caret (s : Bytes) : s = removeSuffixChar '^' s ∨ s = removeSuffixChar '^' s ++ ['^'] := by
    unfold removeSuffixChar
    split_ifs with last
    · exact .inr (List.dropLast_append_getLast? '^' last).symm
    · exact .inl rfl
  rw [mem_hostSpellings]
  cases bars : "||".toList.isPrefixOf line
  · have kept : ruleToken line = removeSuffixChar '^' line := by rw [ruleToken, bars]; rfl
    rw [kept]
    exact (caret line).imp_right fun h => .inr (.inl h)
  · have cut : ruleToken line = removeSuffixChar '^' (line.drop 2) := by rw [ruleToken, bars]; rfl
    have split : line = "||".toList ++ line.drop 2 :=
      List.prefix_iff_eq_append.mp (List.isPrefixOf_iff_prefix.mp bars)|>.symm
    rw [cut]
    rcases caret (line.drop 2) with h | h
    · exact .inr (.inl (h ▸ split))
    · exact .inr (.inr (.inr (by rw [List.append_assoc, ← h]; exact split)))

end Spellings

section Parsing

variable (filter : BlinkerContentFilter)

theorem parseNetworkRule_plain {line : Bytes} (plain : "@@".toList.isPrefixOf line = false) :
    parseNetworkRule filter line =
      if looksLikeDomain (ruleToken line) then addHost filter (ruleToken line) else filter := by
  simp only [parseNetworkRule, plain, Bool.false_and, Bool.false_eq_true, if_false, ruleToken]
  split_ifs <;> simp_all

theorem parseNetworkRule_exception {line : Bytes}
    (exception : "@@".toList.isPrefixOf line = true) :
    parseNetworkRule filter line =
      if "||".toList.isPrefixOf (line.drop 2) && looksLikeDomain (ruleToken (line.drop 2)) then
        addAllowedHost filter (ruleToken (line.drop 2))
      else filter := by
  simp only [parseNetworkRule, exception, Bool.true_and, if_true, ruleToken]
  by_cases bars : "||".toList.isPrefixOf (line.drop 2) = true
  · simp only [bars, Bool.not_true, Bool.false_eq_true, if_false, if_true, Bool.true_and]
    split_ifs <;> simp_all
  · rw [Bool.not_eq_true] at bars
    simp only [bars, Bool.not_false, if_true, Bool.false_and, Bool.false_eq_true, if_false]

theorem parseFilterLine_network {text : Bytes} (some_char : trim isLineBlank text ≠ [])
    (hash : '#' ∉ trim isLineBlank text) (comment : (trim isLineBlank text).head? ≠ some '!')
    (header : (trim isLineBlank text).head? ≠ some '[') :
    parseFilterLine filter text = parseNetworkRule filter (trim isLineBlank text) := by
  have absent (needle : Bytes) (marked : '#' ∈ needle) : ¬ needle <:+: trim isLineBlank text :=
    fun h => hash (h.subset marked)
  have unsplit (needle : Bytes) (marked : '#' ∈ needle) :
      splitAtFirst needle (trim isLineBlank text) = none := by
    rw [← Option.not_isSome_iff_eq_none, splitAtFirst_isSome_iff]
    exact absent needle marked
  have uncontained (needle : Bytes) (marked : '#' ∈ needle) :
      contains needle (trim isLineBlank text) = false :=
    decide_eq_false (absent needle marked)
  simp only [parseFilterLine, unsplit "#@#".toList (by decide), unsplit "##".toList (by decide),
    uncontained "#?#".toList (by decide), uncontained "#$#".toList (by decide),
    uncontained "#%#".toList (by decide)]
  simp [some_char, comment, header]

theorem parseFilterLine_hosts (text : Bytes) :
    (parseFilterLine filter text).blockedHosts = filter.blockedHosts ∧
        (parseFilterLine filter text).allowedHosts = filter.allowedHosts ∨
      parseFilterLine filter text = parseNetworkRule filter (trim isLineBlank text) := by
  simp only [parseFilterLine]
  split
  · exact .inl ⟨rfl, rfl⟩
  split
  · split <;> exact .inl ⟨rfl, rfl⟩
  split
  · exact .inl ⟨rfl, rfl⟩
  split
  · split_ifs <;> exact .inl ⟨rfl, rfl⟩
  · exact .inr rfl

end Parsing

section Grammar

variable {text host : Bytes}

theorem blocked_addHost (filter : BlinkerContentFilter) (token host : Bytes) :
    host ∈ (addHost filter token).blockedHosts ↔
      host ∈ filter.blockedHosts ∨ looksLikeDomain host = true ∧ normalizeHost token = host := by
  rw [← acceptedHost_eq_some_iff]
  cases accepted : acceptedHost token <;> simp [addHost, accepted, or_comm, eq_comm]

theorem allowed_addAllowedHost (filter : BlinkerContentFilter) (token host : Bytes) :
    host ∈ (addAllowedHost filter token).allowedHosts ↔
      host ∈ filter.allowedHosts ∨ looksLikeDomain host = true ∧ normalizeHost token = host := by
  rw [← acceptedHost_eq_some_iff]
  cases accepted : acceptedHost token <;> simp [addAllowedHost, accepted, or_comm, eq_comm]

@[simp] theorem addHost_allowedHosts (filter : BlinkerContentFilter) (token : Bytes) :
    (addHost filter token).allowedHosts = filter.allowedHosts := by
  unfold addHost
  split <;> rfl

@[simp] theorem addAllowedHost_blockedHosts (filter : BlinkerContentFilter) (token : Bytes) :
    (addAllowedHost filter token).blockedHosts = filter.blockedHosts := by
  unfold addAllowedHost
  split <;> rfl

theorem mem_spelling {line token : Bytes} (spelled : line ∈ hostSpellings token) {c : Char}
    (h : c ∈ line) : c ∈ token ∨ c = '|' ∨ c = '^' := by
  have bars : "||".toList = ['|', '|'] := rfl
  rcases mem_hostSpellings.mp spelled with rfl | rfl | rfl | rfl
  · exact .inl h
  all_goals
    simp only [bars, List.mem_append, List.mem_cons, List.not_mem_nil, or_false] at h
    tauto

def IsHostRuleChar (c : Char) : Prop := IsDomainChar c ∨ c = '|' ∨ c = '^' ∨ c = '@'

instance : DecidablePred IsHostRuleChar := fun _ => inferInstanceAs (Decidable (_ ∨ _))

variable {line token : Bytes}

theorem bare_of_looksLikeDomain (domain : looksLikeDomain host = true)
    (stands : normalizeHost token = host) : ∀ c ∈ token, IsDomainChar c :=
  isDomainChar_of_normalizeHost (stands ▸ domain)

theorem hostRuleChar_of_spelling (domain : looksLikeDomain host = true)
    (stands : normalizeHost token = host) (spelled : line ∈ hostSpellings token)
    (trimmed : trim isLineBlank text = line ∨ trim isLineBlank text = "@@".toList ++ line) :
    ∀ c ∈ trim isLineBlank text, IsHostRuleChar c := by
  have made (c : Char) (h : c ∈ line) : IsHostRuleChar c := by
    rcases mem_spelling spelled h with inside | rfl | rfl
    · exact .inl (bare_of_looksLikeDomain domain stands c inside)
    · exact .inr (.inl rfl)
    · exact .inr (.inr (.inl rfl))
  intro c h
  rcases trimmed with same | marked
  · exact made c (same ▸ h)
  · rw [marked, List.mem_append] at h
    rcases h with ats | h
    · have at_sign : c = '@' := by simpa using ats
      exact .inr (.inr (.inr at_sign))
    · exact made c h

theorem dot_mem_spelling (domain : looksLikeDomain host = true)
    (stands : normalizeHost token = host) (spelled : line ∈ hostSpellings token) : '.' ∈ line := by
  have dot : '.' ∈ token :=
    ((looksLikeDomain_iff token).mp (looksLikeDomain_of_normalizeHost (stands ▸ domain))).2.1
  rcases mem_hostSpellings.mp spelled with rfl | rfl | rfl | rfl <;> simp [dot]

theorem parseFilterLine_spelling (filter : BlinkerContentFilter)
    (domain : looksLikeDomain host = true) (stands : normalizeHost token = host)
    (spelled : line ∈ hostSpellings token)
    (trimmed : trim isLineBlank text = line ∨ trim isLineBlank text = "@@".toList ++ line) :
    parseFilterLine filter text = parseNetworkRule filter (trim isLineBlank text) := by
  have made := hostRuleChar_of_spelling domain stands spelled trimmed
  have dot : '.' ∈ trim isLineBlank text := by
    have inside := dot_mem_spelling domain stands spelled
    rcases trimmed with same | marked
    · exact same ▸ inside
    · exact marked ▸ List.mem_append_right _ inside
  apply parseFilterLine_network
  · exact List.ne_nil_of_mem dot
  · exact fun h => absurd (made '#' h) (by decide)
  · exact fun h => absurd (made '!' (List.mem_of_head? h)) (by decide)
  · exact fun h => absurd (made '[' (List.mem_of_head? h)) (by decide)

theorem mem_blockRules_iff (text host : Bytes) :
    host ∈ FilterOrder.blockRules text ↔ BlocksHost text host := by
  unfold FilterOrder.blockRules
  constructor
  · intro blocked
    rcases parseFilterLine_hosts {} text with ⟨same, _⟩ | network
    · rw [same] at blocked
      exact absurd blocked (Finset.notMem_empty host)
    · rw [network] at blocked
      cases exception : "@@".toList.isPrefixOf (trim isLineBlank text)
      · rw [parseNetworkRule_plain _ exception] at blocked
        split_ifs at blocked
        · obtain ⟨domain, stands⟩ :=
            ((blocked_addHost _ _ _).mp blocked).resolve_left (Finset.notMem_empty host)
          exact ⟨domain, _, stands, mem_hostSpellings_ruleToken _⟩
        · exact absurd blocked (Finset.notMem_empty host)
      · rw [parseNetworkRule_exception _ exception] at blocked
        split_ifs at blocked
        · rw [addAllowedHost_blockedHosts] at blocked
          exact absurd blocked (Finset.notMem_empty host)
        · exact absurd blocked (Finset.notMem_empty host)
  · rintro ⟨domain, token, stands, spelled⟩
    have bare := bare_of_looksLikeDomain domain stands
    have plain : "@@".toList.isPrefixOf (trim isLineBlank text) = false := by
      rw [Bool.eq_false_iff, ne_eq, List.isPrefixOf_iff_prefix]
      intro ats
      rcases mem_spelling spelled (ats.subset List.mem_cons_self) with inside | bar | caret
      · exact absurd (bare _ inside) (by decide)
      · exact absurd bar (by decide)
      · exact absurd caret (by decide)
    rw [parseFilterLine_spelling {} domain stands spelled (.inl rfl),
      parseNetworkRule_plain _ plain, ruleToken_of_spelling bare spelled,
      if_pos (looksLikeDomain_of_normalizeHost (stands ▸ domain))]
    exact (blocked_addHost _ _ _).mpr (.inr ⟨domain, stands⟩)

theorem allowsHost_iff (text host : Bytes) :
    AllowsHost text host ↔ looksLikeDomain host = true ∧
      ∃ token line, normalizeHost token = host ∧ line ∈ hostSpellings token ∧
        "||".toList.isPrefixOf line = true ∧ trim isLineBlank text = "@@".toList ++ line := by
  refine and_congr_right fun domain => exists_congr fun token => ?_
  constructor
  · rintro ⟨stands, trimmed | trimmed⟩
    · exact ⟨"||".toList ++ token, stands, by simp [hostSpellings], bars_first token, trimmed⟩
    · exact ⟨"||".toList ++ (token ++ ['^']), stands, by simp [hostSpellings], bars_first _, trimmed⟩
  · rintro ⟨line, stands, spelled, marked, trimmed⟩
    have bare := bare_of_looksLikeDomain domain stands
    rcases mem_hostSpellings.mp spelled with rfl | rfl | rfl | rfl
    · rw [(not_bars_first bare []).2] at marked
      exact absurd marked Bool.false_ne_true
    · exact ⟨stands, .inl trimmed⟩
    · rw [(not_bars_first bare []).1] at marked
      exact absurd marked Bool.false_ne_true
    · exact ⟨stands, .inr trimmed⟩

theorem mem_allowRules_iff (text host : Bytes) :
    host ∈ FilterOrder.allowRules text ↔ AllowsHost text host := by
  rw [allowsHost_iff]
  unfold FilterOrder.allowRules
  constructor
  · intro allowed
    rcases parseFilterLine_hosts {} text with ⟨_, same⟩ | network
    · rw [same] at allowed
      exact absurd allowed (Finset.notMem_empty host)
    · rw [network] at allowed
      cases exception : "@@".toList.isPrefixOf (trim isLineBlank text)
      · rw [parseNetworkRule_plain _ exception] at allowed
        split_ifs at allowed
        · rw [addHost_allowedHosts] at allowed
          exact absurd allowed (Finset.notMem_empty host)
        · exact absurd allowed (Finset.notMem_empty host)
      · rw [parseNetworkRule_exception _ exception] at allowed
        split_ifs at allowed with accepted
        · obtain ⟨domain, stands⟩ :=
            ((allowed_addAllowedHost _ _ _).mp allowed).resolve_left (Finset.notMem_empty host)
          have split := List.prefix_iff_eq_append.mp (List.isPrefixOf_iff_prefix.mp exception)
          rw [Bool.and_eq_true] at accepted
          exact ⟨domain, _, _, stands, mem_hostSpellings_ruleToken _, accepted.1, split.symm⟩
        · exact absurd allowed (Finset.notMem_empty host)
  · rintro ⟨domain, token, line, stands, spelled, bars, trimmed⟩
    have bare := bare_of_looksLikeDomain domain stands
    have exception : "@@".toList.isPrefixOf (trim isLineBlank text) = true := by
      rw [trimmed, List.isPrefixOf_iff_prefix]
      exact List.prefix_append _ _
    have behind : (trim isLineBlank text).drop 2 = line := by rw [trimmed]; rfl
    rw [parseFilterLine_spelling {} domain stands spelled (.inr trimmed),
      parseNetworkRule_exception _ exception, behind, ruleToken_of_spelling bare spelled, bars,
      looksLikeDomain_of_normalizeHost (stands ▸ domain)]
    exact (allowed_addAllowedHost _ _ _).mpr (.inr ⟨domain, stands⟩)

/-- The trimmed line holds a rule mark or a single bar. -/
def Constrained (text : Bytes) : Prop :=
  (∃ c ∈ trim isLineBlank text, IsRuleMark c) ∨ (trim isLineBlank text).count '|' = 1

theorem host_unique {other token' : Bytes} (domain : looksLikeDomain host = true)
    (stands : normalizeHost token = host) (spelled : line ∈ hostSpellings token)
    (domain' : looksLikeDomain other = true) (stands' : normalizeHost token' = other)
    (spelled' : line ∈ hostSpellings token') : host = other := by
  have read := ruleToken_of_spelling (bare_of_looksLikeDomain domain stands) spelled
  have read' := ruleToken_of_spelling (bare_of_looksLikeDomain domain' stands') spelled'
  rw [← stands, ← stands', ← read, ← read']

theorem blocksHost_unique {other : Bytes} (h : BlocksHost text host) (h' : BlocksHost text other) :
    host = other := by
  obtain ⟨domain, _, stands, spelled⟩ := h
  obtain ⟨domain', _, stands', spelled'⟩ := h'
  exact host_unique domain stands spelled domain' stands' spelled'

theorem allowsHost_unique {other : Bytes} (h : AllowsHost text host) (h' : AllowsHost text other) :
    host = other := by
  obtain ⟨domain, _, line, stands, spelled, _, trimmed⟩ := (allowsHost_iff text host).mp h
  obtain ⟨domain', _, line', stands', spelled', _, trimmed'⟩ := (allowsHost_iff text other).mp h'
  obtain rfl : line = line' := List.append_cancel_left (trimmed.symm.trans trimmed')
  exact host_unique domain stands spelled domain' stands' spelled'

theorem count_bar_spelling (bare : ∀ c ∈ token, IsDomainChar c)
    (spelled : line ∈ hostSpellings token) : line.count '|' ≠ 1 := by
  have none : token.count '|' = 0 :=
    List.count_eq_zero.mpr fun h => absurd (bare '|' h) (by decide)
  rcases mem_hostSpellings.mp spelled with rfl | rfl | rfl | rfl <;> simp [List.count_append, none]

theorem not_constrained (domain : looksLikeDomain host = true)
    (stands : normalizeHost token = host) (spelled : line ∈ hostSpellings token)
    (trimmed : trim isLineBlank text = line ∨ trim isLineBlank text = "@@".toList ++ line) :
    ¬ Constrained text := by
  rintro (⟨c, mem, mark⟩ | single)
  · have made := hostRuleChar_of_spelling domain stands spelled trimmed c mem
    revert made
    simp only [IsRuleMark, List.mem_cons, List.not_mem_nil, or_false] at mark
    rcases mark with rfl | rfl | rfl | rfl | rfl | rfl <;> decide
  · refine count_bar_spelling (bare_of_looksLikeDomain domain stands) spelled ?_
    rcases trimmed with same | marked
    · rwa [same] at single
    · rw [marked, List.count_append] at single
      simpa using single

end Grammar

/-- A line records the host it spells, if any, to block it or, behind `@@`, to
allow it, and nothing else; so an option, a path, a wildcard, a regex, a single
bar, a comment, a header or a cosmetic mark leaves both sets alone. -/
theorem parseFilterLine_records (filter : BlinkerContentFilter) (text : Bytes) :
    let parsed := parseFilterLine filter text
    (∀ host, host ∈ parsed.blockedHosts ↔ host ∈ filter.blockedHosts ∨ BlocksHost text host) ∧
    (∀ host, host ∈ parsed.allowedHosts ↔ host ∈ filter.allowedHosts ∨ AllowsHost text host) ∧
    (∀ host other, BlocksHost text host → BlocksHost text other → host = other) ∧
    (∀ host other, AllowsHost text host → AllowsHost text other → host = other) ∧
    (Constrained text → parsed.blockedHosts = filter.blockedHosts ∧
      parsed.allowedHosts = filter.allowedHosts) := by
  have blocked (host : Bytes) : host ∈ (parseFilterLine filter text).blockedHosts ↔
      host ∈ filter.blockedHosts ∨ BlocksHost text host := by
    rw [FilterOrder.parseFilterLine_blockedHosts, Finset.mem_union, mem_blockRules_iff]
  have allowed (host : Bytes) : host ∈ (parseFilterLine filter text).allowedHosts ↔
      host ∈ filter.allowedHosts ∨ AllowsHost text host := by
    rw [FilterOrder.parseFilterLine_allowedHosts, Finset.mem_union, mem_allowRules_iff]
  refine ⟨blocked, allowed, fun _ _ => blocksHost_unique, fun _ _ => allowsHost_unique,
    fun constrained => ⟨?_, ?_⟩⟩
  · ext host
    rw [blocked, or_iff_left]
    rintro ⟨domain, token, stands, spelled⟩
    exact not_constrained domain stands spelled (.inl rfl) constrained
  · ext host
    rw [allowed, or_iff_left]
    rw [allowsHost_iff]
    rintro ⟨domain, token, line, stands, spelled, _, trimmed⟩
    exact not_constrained domain stands spelled (.inr trimmed) constrained

/-- A line with options changes nothing; `||Ads.Example.test.^` blocks one host. -/
theorem parseFilterLine_records_example :
    (parseFilterLine {} "||ads.example.test^$script".toList).blockedHosts = ∅ ∧
    "ads.example.test".toList ∈
      (parseFilterLine {} " ||Ads.Example.test.^\r".toList).blockedHosts ∧
    ∀ other, BlocksHost "||Ads.Example.test.^".toList other →
      "ads.example.test".toList = other :=
  have spelled (text : Bytes) (h : trim isLineBlank text = "||Ads.Example.test.^".toList) :
      BlocksHost text "ads.example.test".toList :=
    ⟨by decide, "Ads.Example.test.".toList, by decide, by rw [h]; decide⟩
  ⟨((parseFilterLine_records {} _).2.2.2.2 (.inl ⟨'$', by decide, by decide⟩)).1,
    ((parseFilterLine_records {} _).1 _).mpr (.inr (spelled _ (by decide))),
    fun _ => (parseFilterLine_records {} _).2.2.1 _ _ (spelled _ (by decide))⟩

end BlinkerFluid.NetworkRules
