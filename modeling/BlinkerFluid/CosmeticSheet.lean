import BlinkerFluid.CosmeticRules

/-! The style sheet of a host as a list of selectors: a join of selectors that were
stored as they stand in a line, closed by one declaration block. -/

namespace BlinkerFluid.CosmeticSheet
open ByteString ContentFilter CosmeticFilter CosmeticRules SeparatedJoin

/-- A rule that hides what the selectors match; no rule for no selectors. -/
def sheet (selectors : List Bytes) : Bytes :=
  if selectors = [] then [] else [','].intercalate selectors ++ displayNone

section Selectors

variable (getDomainAndRegistry : Bytes → Bytes) (filter : LoadedFilter) (host : Bytes)

def usedSelectors : List Bytes :=
  let exceptions := exceptionsFor getDomainAndRegistry filter host
  let generic := filter.rules.genericHideSelectors
  (if exceptions = [] then generic.take kMaxGeneric else generic.filter (· ∉ exceptions)) ++
    (hostSpecificFor getDomainAndRegistry filter host).filter (· ∉ exceptions)

/-- The generic list as far as it was joined, then the selectors of the host,
without the selectors that the host excepts. -/
def admittedSelectors : List Bytes :=
  (filter.rules.genericHideSelectors.take kMaxGeneric ++
    hostSpecificFor getDomainAndRegistry filter host).filter
      (· ∉ exceptionsFor getDomainAndRegistry filter host)

end Selectors

/-- The cache is the capped join and every stored selector can stand in a sheet. -/
structure Loaded (filter : LoadedFilter) : Prop where
  cached : filter.genericHideCss =
    joinInto ',' [] (filter.rules.genericHideSelectors.take kMaxGeneric)
  generic : ∀ sel ∈ filter.rules.genericHideSelectors, isSafeSelector sel = true
  hidden : ∀ key, ∀ sel ∈ filter.rules.hostHideSelectors key, isSafeSelector sel = true

theorem builtinCosmetic_safe : ∀ sel ∈ builtinCosmetic, isSafeSelector sel = true := by
  decide +kernel

theorem servingFilter_loaded (user : UserData) (toggles : List Bool) :
    Loaded (servingFilter user toggles) where
  cached := servingFilter_css user toggles
  generic sel mem := by
    rw [servingFilter_generic, List.mem_append, List.mem_flatMap] at mem
    rcases mem with builtin | ⟨text, _, stored⟩
    · exact builtinCosmetic_safe sel builtin
    · exact ((mem_genericOf_iff text sel).mp stored).1
  hidden key sel mem := by
    rw [servingFilter_hides, List.mem_flatMap] at mem
    obtain ⟨text, _, stored⟩ := mem
    exact ((mem_hidesOf_iff text key sel).mp stored).1

theorem ne_nil_of_isSafeSelector {sel : Bytes} (h : isSafeSelector sel = true) : sel ≠ [] := by
  rintro rfl
  exact absurd h (by decide)

section Sheet

variable (getDomainAndRegistry : Bytes → Bytes) {filter : LoadedFilter} (host : Bytes)

theorem genericPart_eq (loaded : Loaded filter) (exceptions : List Bytes) :
    genericPart filter exceptions = joinInto ',' [] (if exceptions = [] then
      filter.rules.genericHideSelectors.take kMaxGeneric
    else filter.rules.genericHideSelectors.filter (· ∉ exceptions)) := by
  unfold genericPart
  cases exceptions with
  | nil => exact loaded.cached
  | cons sel rest => exact foldl_skip_eq (· ∈ sel :: rest)

theorem usedSelectors_safe (loaded : Loaded filter) :
    ∀ sel ∈ usedSelectors getDomainAndRegistry filter host, isSafeSelector sel = true := by
  intro sel mem
  simp only [usedSelectors, List.mem_append] at mem
  rcases mem with generic | hidden
  · apply loaded.generic
    split_ifs at generic
    · exact List.mem_of_mem_take generic
    · exact List.mem_of_mem_filter generic
  · obtain ⟨key, _, stored⟩ := List.mem_flatMap.mp (List.mem_of_mem_filter hidden)
    exact loaded.hidden key sel stored

theorem sheet_eq_joinInto {selectors : List Bytes} (full : ∀ sel ∈ selectors, sel ≠ []) :
    sheet selectors = if (joinInto ',' [] selectors).isEmpty then []
      else joinInto ',' [] selectors ++ displayNone := by
  simp only [List.isEmpty_iff, joinInto_eq_nil_iff full, sheet]
  rw [joinInto_eq_intercalate full]

theorem cosmeticCSSFor_eq (loaded : Loaded filter) :
    cosmeticCSSFor getDomainAndRegistry filter host = if filter.rules.enabled then
      sheet (usedSelectors getDomainAndRegistry filter host) else [] := by
  have full : ∀ sel ∈ usedSelectors getDomainAndRegistry filter host, sel ≠ [] :=
    fun sel mem => ne_nil_of_isSafeSelector (usedSelectors_safe _ _ loaded sel mem)
  have joined : (hostSpecificFor getDomainAndRegistry filter host).foldl
      (appendUnlessExcepted (exceptionsFor getDomainAndRegistry filter host))
      (genericPart filter (exceptionsFor getDomainAndRegistry filter host)) =
      joinInto ',' [] (usedSelectors getDomainAndRegistry filter host) := by
    rw [genericPart_eq loaded, usedSelectors, joinInto_append]
    exact foldl_skip_eq (· ∈ exceptionsFor getDomainAndRegistry filter host)
  rw [sheet_eq_joinInto full]
  simp only [cosmeticCSSFor, joined]
  cases filter.rules.enabled <;> rfl

end Sheet

section Shape

variable {selectors : List Bytes}

theorem length_sheet (full : ∀ sel ∈ selectors, sel ≠ []) :
    (sheet selectors).length =
      if selectors = [] then 0 else weight selectors - 1 + displayNone.length := by
  unfold sheet
  split_ifs
  · rfl
  · rw [List.length_append, ← joinInto_eq_intercalate full, length_joinInto full]

theorem weight_eq_of_sheet_eq {others : List Bytes} (full : ∀ sel ∈ selectors, sel ≠ [])
    (full' : ∀ sel ∈ others, sel ≠ []) (same : sheet selectors = sheet others) :
    weight selectors = weight others := by
  have lengths := congrArg List.length same
  have ends : displayNone.length = 24 := by decide
  rw [length_sheet full, length_sheet full', ends] at lengths
  by_cases none : selectors = [] <;> by_cases none' : others = []
  · rw [none, none']
  · simp only [none, none', if_true, if_false] at lengths
    omega
  · simp only [none, none', if_true, if_false] at lengths
    omega
  · simp only [none, none', if_false] at lengths
    have some_weight : weight selectors ≠ 0 := mt weight_eq_zero_iff.mp none
    have some_weight' : weight others ≠ 0 := mt weight_eq_zero_iff.mp none'
    omega

/-- A character that could end the rule or the style element. -/
def CanEscape (c : Char) : Prop := c ∈ ['{', '}', '\\', '<', '\n', '\r']

instance : DecidablePred CanEscape := fun _ => inferInstanceAs (Decidable (_ ∈ _))

theorem not_canEscape_of_safe {sel : Bytes} (safe : isSafeSelector sel = true) {c : Char}
    (mem : c ∈ sel) : ¬ CanEscape c := by
  simp only [isSafeSelector, Bool.and_eq_true, List.all_eq_true] at safe
  have kept := safe.2 c mem
  simpa [CanEscape, and_assoc] using kept

theorem not_canEscape_of_join (safe : ∀ sel ∈ selectors, isSafeSelector sel = true) {c : Char}
    (mem : c ∈ [','].intercalate selectors) : ¬ CanEscape c := by
  have full : ∀ sel ∈ selectors, sel ≠ [] := fun sel h => ne_nil_of_isSafeSelector (safe sel h)
  rw [← joinInto_eq_intercalate full] at mem
  rcases mem_joinInto full mem with rfl | ⟨sel, stored, inside⟩
  · decide
  · exact not_canEscape_of_safe (safe sel stored) inside

theorem count_sheet (safe : ∀ sel ∈ selectors, isSafeSelector sel = true) (some_sel : selectors ≠ [])
    {brace : Char} (escapes : CanEscape brace) :
    (sheet selectors).count brace = displayNone.count brace := by
  have absent : ([','].intercalate selectors).count brace = 0 :=
    List.count_eq_zero.mpr fun mem => not_canEscape_of_join safe mem escapes
  rw [sheet, if_neg some_sel, List.count_append, absent, Nat.zero_add]

theorem not_mem_sheet (safe : ∀ sel ∈ selectors, isSafeSelector sel = true) {c : Char}
    (escapes : CanEscape c) (absent : c ∉ displayNone) : c ∉ sheet selectors := by
  unfold sheet
  split_ifs
  · exact List.not_mem_nil
  · rw [List.mem_append]
    rintro (mem | mem)
    · exact not_canEscape_of_join safe mem escapes
    · exact absent mem

end Shape

/-- The selector stands in a line behind its `##`, and the line was accepted. -/
def TakenFrom (text sel : Bytes) : Prop :=
  isSafeSelector sel = true ∧ ∃ domains, Hides text domains sel ∧
    trim isLineBlank text = domains ++ "##".toList ++ sel

theorem takenFrom_of_hides {text domains sel : Bytes} (safe : isSafeSelector sel = true)
    (hides : Hides text domains sel) : TakenFrom text sel :=
  ⟨safe, domains, hides, splitAtFirst_eq_append hides.2.2.2⟩

/-- Every selector of a sheet is built in or taken from a line of the file. -/
theorem usedSelectors_source (getDomainAndRegistry : Bytes → Bytes) (user : UserData)
    (toggles : List Bool) (host : Bytes) :
    ∀ sel ∈ usedSelectors getDomainAndRegistry (servingFilter user toggles) host,
      sel ∈ builtinCosmetic ∨ ∃ text ∈ filterLines user, TakenFrom text sel := by
  intro sel mem
  simp only [usedSelectors, List.mem_append] at mem
  rcases mem with generic | hidden
  · have stored : sel ∈ (servingFilter user toggles).rules.genericHideSelectors := by
      split_ifs at generic
      · exact List.mem_of_mem_take generic
      · exact List.mem_of_mem_filter generic
    rw [servingFilter_generic, List.mem_append, List.mem_flatMap] at stored
    refine stored.imp_right ?_
    rintro ⟨text, line, yielded⟩
    obtain ⟨safe, hides⟩ := (mem_genericOf_iff text sel).mp yielded
    exact ⟨text, line, takenFrom_of_hides safe hides⟩
  · obtain ⟨key, _, stored⟩ := List.mem_flatMap.mp (List.mem_of_mem_filter hidden)
    rw [servingFilter_hides, List.mem_flatMap] at stored
    obtain ⟨text, line, yielded⟩ := stored
    obtain ⟨safe, domains, _, hides, _⟩ := (mem_hidesOf_iff text key sel).mp yielded
    exact .inr ⟨text, line, takenFrom_of_hides safe hides⟩

/-- The sheet for any host, from any file: nothing, or one rule, its braces and its
block its own, over selectors that are built in or stand in accepted lines. -/
theorem cosmeticCSSFor_contained (getDomainAndRegistry : Bytes → Bytes) (user : UserData)
    (toggles : List Bool) (host : Bytes) :
    let css := cosmeticCSSFor getDomainAndRegistry (servingFilter user toggles) host
    css = [] ∨
      css.count '{' = 1 ∧ css.count '}' = 1 ∧ (∀ c ∈ ['<', '\\', '\r', '\n'], c ∉ css) ∧
      ∃ selectors ≠ [], css = [','].intercalate selectors ++ displayNone ∧
        ∀ sel ∈ selectors,
          sel ∈ builtinCosmetic ∨ ∃ text ∈ filterLines user, TakenFrom text sel := by
  intro css
  have loaded := servingFilter_loaded user toggles
  have safe := usedSelectors_safe getDomainAndRegistry host loaded
  have source := usedSelectors_source getDomainAndRegistry user toggles host
  have served : css = _ := cosmeticCSSFor_eq getDomainAndRegistry host loaded
  clear_value css
  generalize usedSelectors getDomainAndRegistry (servingFilter user toggles) host = selectors at *
  rw [served]
  split_ifs
  swap
  · exact .inl rfl
  by_cases none : selectors = []
  · exact .inl (if_pos none)
  refine .inr ⟨?_, ?_, ?_, selectors, none, if_neg none, source⟩
  · rw [count_sheet safe none (by decide)]
    decide
  · rw [count_sheet safe none (by decide)]
    decide
  · intro c mem
    simp only [List.mem_cons, List.not_mem_nil, or_false] at mem
    rcases mem with rfl | rfl | rfl | rfl <;> exact not_mem_sheet safe (by decide) (by decide)

end BlinkerFluid.CosmeticSheet
