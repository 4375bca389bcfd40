import BlinkerFluid.FilterDecision
import Mathlib.Data.Finset.Lattice.Lemmas

/-! Filter lists as sets of rules. What a line adds does not depend on the lines
before it, both host stores are sets, and an exception wins wherever it stands:
a list decides by its members only, blocking rules can only block more, and
exceptions can only block less. -/

namespace BlinkerFluid.FilterOrder
open ByteString WebAddress ContentFilter

section Fold

variable {σ ι α : Type*} [DecidableEq α] {read : σ → Finset α} {yield : ι → Finset α}
  {step : σ → ι → σ}

/-- A fold whose every step unions in what its input yields collects the yields. -/
theorem mem_foldl_iff (adds : ∀ s i, read (step s i) = read s ∪ yield i)
    (s : σ) (inputs : List ι) (a : α) :
    a ∈ read (inputs.foldl step s) ↔ a ∈ read s ∨ ∃ i ∈ inputs, a ∈ yield i := by
  induction inputs generalizing s with
  | nil => simp
  | cons i inputs ih =>
    rw [List.foldl_cons, ih, adds, Finset.mem_union, or_assoc]
    simp only [List.mem_cons, exists_eq_or_imp]

theorem foldl_eq_of_mem_iff (adds : ∀ s i, read (step s i) = read s ∪ yield i)
    (s : σ) (inputs others : List ι) (same : ∀ i, i ∈ inputs ↔ i ∈ others) :
    read (inputs.foldl step s) = read (others.foldl step s) := by
  ext a
  rw [mem_foldl_iff adds, mem_foldl_iff adds]
  simp only [same]

end Fold

/-- The hosts that a line blocks, read off a filter that holds nothing else. -/
def blockRules (line : Bytes) : Finset Bytes := (parseFilterLine {} line).blockedHosts

def allowRules (line : Bytes) : Finset Bytes := (parseFilterLine {} line).allowedHosts

/-- The line without its blanks starts with the exception mark. -/
def IsExceptionLine (line : Bytes) : Prop := "@@".toList <+: trim isLineBlank line

instance (line : Bytes) : Decidable (IsExceptionLine line) :=
  inferInstanceAs (Decidable (_ <+: _))

/-- A filter line is handled in one of three ways, the same in every filter. -/
inductive LineEffect (line : Bytes) : Prop
  | neither (h : ∀ filter, (parseFilterLine filter line).blockedHosts = filter.blockedHosts ∧
      (parseFilterLine filter line).allowedHosts = filter.allowedHosts)
  | blocks (host : Bytes) (plain : ¬ IsExceptionLine line)
      (h : ∀ filter,
        (parseFilterLine filter line).blockedHosts = insert host filter.blockedHosts ∧
        (parseFilterLine filter line).allowedHosts = filter.allowedHosts)
  | allows (host : Bytes)
      (h : ∀ filter, (parseFilterLine filter line).blockedHosts = filter.blockedHosts ∧
        (parseFilterLine filter line).allowedHosts = insert host filter.allowedHosts)

theorem parseNetworkRule_uniform (line : Bytes) :
    (∀ filter, parseNetworkRule filter line = filter) ∨
      (¬ "@@".toList <+: line ∧
        ∃ token, ∀ filter, parseNetworkRule filter line = addHost filter token) ∨
      ∃ token, ∀ filter, parseNetworkRule filter line = addAllowedHost filter token := by
  simp only [parseNetworkRule]
  cases exception : "@@".toList.isPrefixOf line
  · have plain : ¬ "@@".toList <+: line := by
      rw [← List.isPrefixOf_iff_prefix, exception]
      exact Bool.false_ne_true
    simp only [Bool.false_and, Bool.false_eq_true, if_false]
    split_ifs
    all_goals first | exact .inl fun _ => rfl | exact .inr (.inl ⟨plain, _, fun _ => rfl⟩)
  · simp only [Bool.true_and, if_true]
    split_ifs
    all_goals first | exact .inl fun _ => rfl | exact .inr (.inr ⟨_, fun _ => rfl⟩)

theorem lineEffect_of_network (text : Bytes)
    (parsed : ∀ filter,
      parseFilterLine filter text = parseNetworkRule filter (trim isLineBlank text)) :
    LineEffect text := by
  rcases parseNetworkRule_uniform (trim isLineBlank text) with
    ignored | ⟨plain, token, added⟩ | ⟨token, added⟩
  · exact .neither fun filter => by rw [parsed, ignored]; exact ⟨rfl, rfl⟩
  · cases accepted : acceptedHost token with
    | none => exact .neither fun filter => by simp [parsed, added, addHost, accepted]
    | some host => exact .blocks host plain fun filter => by simp [parsed, added, addHost, accepted]
  · cases accepted : acceptedHost token with
    | none => exact .neither fun filter => by simp [parsed, added, addAllowedHost, accepted]
    | some host => exact .allows host fun filter => by simp [parsed, added, addAllowedHost, accepted]

theorem lineEffect (text : Bytes) : LineEffect text := by
  generalize trimmed : trim isLineBlank text = line
  by_cases skip : (line.isEmpty || line.head? = some '!' || line.head? = some '[') = true
  · refine .neither fun filter => ?_
    simp only [parseFilterLine, trimmed, skip, if_true, and_self]
  cases unhide : splitAtFirst "#@#".toList line with
  | some parts =>
    refine .neither fun filter => ?_
    simp only [parseFilterLine, trimmed, skip, unhide]
    split_ifs <;> simp
  | none =>
    by_cases procedural : (contains "#?#".toList line || contains "#$#".toList line ||
        contains "#%#".toList line) = true
    · refine .neither fun filter => ?_
      simp only [parseFilterLine, trimmed, skip, unhide, procedural]
      simp
    cases hide : splitAtFirst "##".toList line with
    | some parts =>
      refine .neither fun filter => ?_
      simp only [parseFilterLine, trimmed, skip, unhide, procedural, hide]
      split_ifs <;> simp
    | none =>
      refine lineEffect_of_network text fun filter => ?_
      simp only [parseFilterLine, trimmed, skip, unhide, procedural, hide]
      simp

theorem parseFilterLine_blockedHosts (filter : BlinkerContentFilter) (line : Bytes) :
    (parseFilterLine filter line).blockedHosts = filter.blockedHosts ∪ blockRules line := by
  unfold blockRules
  cases lineEffect line with
  | neither h => simp [h]
  | blocks host _ h => simp only [h, Finset.union_singleton, insert_empty_eq]
  | allows host h => simp [h]

theorem parseFilterLine_allowedHosts (filter : BlinkerContentFilter) (line : Bytes) :
    (parseFilterLine filter line).allowedHosts = filter.allowedHosts ∪ allowRules line := by
  unfold allowRules
  cases lineEffect line with
  | neither h => simp [h]
  | blocks host _ h => simp [h]
  | allows host h => simp only [h, Finset.union_singleton, insert_empty_eq]

theorem allowRules_of_blockRules (line : Bytes) (blocks : (blockRules line).Nonempty) :
    allowRules line = ∅ := by
  unfold blockRules at blocks
  unfold allowRules
  cases lineEffect line with
  | neither h => simp [h]
  | blocks host _ h => simp [h]
  | allows host h => simp [h] at blocks

theorem blockRules_of_exception (line : Bytes) (exception : IsExceptionLine line) :
    blockRules line = ∅ := by
  unfold blockRules
  cases lineEffect line with
  | neither h => simp [h]
  | blocks host plain h => exact absurd exception plain
  | allows host h => simp [h]

theorem parseFilterLines_enabled (filter : BlinkerContentFilter) (lines : List Bytes) :
    (lines.foldl parseFilterLine filter).enabled = filter.enabled := by
  induction lines generalizing filter with
  | nil => rfl
  | cons line lines ih => rw [List.foldl_cons, ih, parseFilterLine_enabled]

section Decision

variable (getDomainAndRegistry : Bytes → Bytes) {filter other : BlinkerContentFilter}

theorem shouldBlock_congr (enabled : filter.enabled = other.enabled)
    (blocked : filter.blockedHosts = other.blockedHosts)
    (allowed : filter.allowedHosts = other.allowedHosts) (url : GURL) :
    shouldBlock getDomainAndRegistry filter url = shouldBlock getDomainAndRegistry other url := by
  simp only [shouldBlock, enabled, blocked, allowed]

theorem shouldBlock_mono (enabled : filter.enabled = other.enabled)
    (blocked : filter.blockedHosts ⊆ other.blockedHosts)
    (allowed : other.allowedHosts ⊆ filter.allowedHosts) (url : GURL)
    (blocks : shouldBlock getDomainAndRegistry filter url = true) :
    shouldBlock getDomainAndRegistry other url = true := by
  unfold shouldBlock at blocks ⊢
  rw [← enabled]
  split_ifs at blocks ⊢ with off target exempt
  simp only [Bool.and_eq_true, Bool.not_eq_true', List.any_eq_true, List.any_eq_false,
    decide_eq_true_eq] at blocks ⊢
  obtain ⟨⟨domain, visited, mem⟩, unallowed⟩ := blocks
  exact ⟨⟨domain, visited, blocked mem⟩, fun d seen mem' => unallowed d seen (allowed mem')⟩

end Decision

/-- Two lists of filter lines with the same members, in particular two
permutations of each other, decide every request alike and count the same rules; a
further line that yields a block rule only blocks more, a further exception only
blocks less. -/
theorem filterLines_unordered_monotone (getDomainAndRegistry : Bytes → Bytes)
    (start : BlinkerContentFilter) (lines : List Bytes) :
    (∀ others : List Bytes, lines.Perm others ∨ (∀ line, line ∈ lines ↔ line ∈ others) →
      (∀ url, shouldBlock getDomainAndRegistry (lines.foldl parseFilterLine start) url =
        shouldBlock getDomainAndRegistry (others.foldl parseFilterLine start) url) ∧
      ruleCount (lines.foldl parseFilterLine start) =
        ruleCount (others.foldl parseFilterLine start)) ∧
    (∀ line, (blockRules line).Nonempty → ∀ url,
      shouldBlock getDomainAndRegistry (lines.foldl parseFilterLine start) url = true →
      shouldBlock getDomainAndRegistry ((lines ++ [line]).foldl parseFilterLine start) url
        = true) ∧
    ∀ line, IsExceptionLine line → ∀ url,
      shouldBlock getDomainAndRegistry ((lines ++ [line]).foldl parseFilterLine start) url = true →
      shouldBlock getDomainAndRegistry (lines.foldl parseFilterLine start) url = true := by
  refine ⟨fun others alike => ?_, fun line blocks url => ?_, fun line exception url => ?_⟩
  · have same : ∀ line, line ∈ lines ↔ line ∈ others :=
      alike.elim (fun perm _ => perm.mem_iff) id
    have blocked := foldl_eq_of_mem_iff parseFilterLine_blockedHosts start lines others same
    have allowed := foldl_eq_of_mem_iff parseFilterLine_allowedHosts start lines others same
    refine ⟨shouldBlock_congr _ ?_ blocked allowed, ?_⟩
    · rw [parseFilterLines_enabled, parseFilterLines_enabled]
    · rw [ruleCount, ruleCount, blocked]
  · rw [List.foldl_append, List.foldl_cons, List.foldl_nil]
    apply shouldBlock_mono
    · rw [parseFilterLine_enabled]
    · rw [parseFilterLine_blockedHosts]
      exact Finset.subset_union_left
    · rw [parseFilterLine_allowedHosts, allowRules_of_blockRules line blocks, Finset.union_empty]
  · rw [List.foldl_append, List.foldl_cons, List.foldl_nil]
    apply shouldBlock_mono
    · rw [parseFilterLine_enabled]
    · rw [parseFilterLine_blockedHosts, blockRules_of_exception line exception, Finset.union_empty]
    · rw [parseFilterLine_allowedHosts]
      exact Finset.subset_union_left

/-- An exception before its rule and behind it: the two lists decide alike, another
rule keeps what they block, and what they block was blocked before the exception. -/
theorem filterLines_unordered_monotone_example :
    let registry := FilterDecision.oneDomain "example.test".toList
    let rule := "||example.test^".toList
    let other := "||ads.example.test^".toList
    let exception := "@@||www.example.test^".toList
    let filter (lines : List Bytes) := lines.foldl parseFilterLine { enabled := true }
    let url : GURL := ⟨true, "https://example.test/".toList, "https".toList,
      "example.test".toList, "/".toList⟩
    (∀ url, shouldBlock registry (filter [exception, rule, rule]) url =
      shouldBlock registry (filter [rule, exception, rule]) url) ∧
    shouldBlock registry (filter [rule, other]) url = true ∧
    shouldBlock registry (filter [rule]) url = true :=
  ⟨((filterLines_unordered_monotone _ _ _).1 _ (.inl (List.Perm.swap _ _ _))).1,
    (filterLines_unordered_monotone _ _ ["||example.test^".toList]).2.1 _ (by decide) _ (by decide),
    (filterLines_unordered_monotone _ _ ["||example.test^".toList]).2.2
      "@@||www.example.test^".toList (by decide) _ (by decide)⟩

end BlinkerFluid.FilterOrder
