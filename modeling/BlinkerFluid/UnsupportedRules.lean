import BlinkerFluid.CosmeticLines

/-! Rules whose constraints the filter does not support: procedural, scriptlet and
HTML rules, and hiding rules that exempt a subdomain. Which of them are dropped,
and which are kept as a plain selector under the domains that remain. -/

namespace BlinkerFluid.UnsupportedRules
open ByteString LabelSuffix ContentFilter CosmeticFilter CosmeticRules CosmeticLines

/-- The body of a `##` rule names a scriptlet or an HTML element. -/
def IsScriptletBody (body : Bytes) : Prop := "+js(".toList <+: body ∨ "^".toList <+: body

instance (body : Bytes) : Decidable (IsScriptletBody body) := inferInstanceAs (Decidable (_ ∨ _))

/-- A line whose first marker is procedural, or `##` before a scriptlet body. -/
structure Unsupported (text domains body : Bytes) : Prop where
  single : '\n' ∉ text
  unmarked : '#' ∉ domains
  marked : trim isLineBlank text = domains ++ "#?#".toList ++ body ∨
    trim isLineBlank text = domains ++ "#$#".toList ++ body ∨
    trim isLineBlank text = domains ++ "#%#".toList ++ body ∨
    trim isLineBlank text = domains ++ "##".toList ++ body ∧ IsScriptletBody body

/-- A listed domain is one that some host is looked up under. -/
def Reaches (getDomainAndRegistry : Bytes → Bytes) (domains : Bytes) : Prop :=
  ∃ d ∈ forEachDomain domains, ∃ host,
    normalizeHost d ∈ forEachHostAndParent getDomainAndRegistry (normalizeHost host)

/-- The line gets past the checks: a `#@#` stands in it, before a safe rest and behind
a domain that is looked up; or no further marker does, its body is safe, and it is
meant for all hosts or for a domain that is looked up. -/
def GetsPast (getDomainAndRegistry : Bytes → Bytes) (text domains body : Bytes) : Prop :=
  IsRuleLine (trim isLineBlank text) ∧
    ((∃ before sel, splitAtFirst "#@#".toList (trim isLineBlank text) = some (before, sel) ∧
        isSafeSelector sel = true ∧ Reaches getDomainAndRegistry before) ∨
      (¬ "#@#".toList <:+: trim isLineBlank text ∧ ¬ IsProcedural (trim isLineBlank text) ∧
        isSafeSelector body = true ∧ (domains = [] ∨ Reaches getDomainAndRegistry domains)))

section Unsupported

variable {getDomainAndRegistry : Bytes → Bytes} {text domains body : Bytes}

theorem splitAtFirst_hashes (absent : '#' ∉ domains) (body : Bytes) :
    splitAtFirst "##".toList (domains ++ "##".toList ++ body) = some (domains, body) := by
  have marker : "##".toList = ['#', '#'] := rfl
  rw [marker]
  induction domains with
  | nil => simp [splitAtFirst]
  | cons c rest ih =>
    have other : ('#' == c) = false :=
      beq_eq_false_iff_ne.mpr fun h => absent (h ▸ List.mem_cons_self)
    have found := ih fun mem => absent (List.mem_cons_of_mem c mem)
    have later : ¬ ['#', '#'] <+: c :: (rest ++ ['#', '#'] ++ body) := by
      rw [← List.isPrefixOf_iff_prefix]
      simp [List.isPrefixOf, other]
    rw [List.cons_append, List.cons_append, splitAtFirst, if_neg later, found]
    rfl

theorem Unsupported.procedural_or (unsupported : Unsupported text domains body) :
    IsProcedural (trim isLineBlank text) ∨
      splitAtFirst "##".toList (trim isLineBlank text) = some (domains, body) := by
  have inside (marker : Bytes) (h : trim isLineBlank text = domains ++ marker ++ body) :
      marker <:+: trim isLineBlank text := ⟨domains, body, h.symm⟩
  rcases unsupported.marked with h | h | h | ⟨h, _⟩
  · exact .inl (.inl (inside _ h))
  · exact .inl (.inr (.inl (inside _ h)))
  · exact .inl (.inr (.inr (inside _ h)))
  · rw [h]
    exact .inr (splitAtFirst_hashes unsupported.unmarked body)

theorem Unsupported.hides_eq (unsupported : Unsupported text domains body) {before sel : Bytes}
    (hides : Hides text before sel) : before = domains ∧ sel = body := by
  have split := unsupported.procedural_or.resolve_left hides.2.2.1
  simpa using hides.2.2.2.symm.trans split

theorem stores_of_getsPast (unsupported : Unsupported text domains body)
    (past : GetsPast getDomainAndRegistry text domains body) :
    ∃ host, ¬ StoresNothingFor getDomainAndRegistry text host := by
  obtain ⟨rule, ⟨before, sel, split, safe, d, listed, host, visited⟩ | ⟨plain, supported, safe, meant⟩⟩ :=
    past
  · refine ⟨host, fun nothing => ?_⟩
    have stored : sel ∈ exceptsOf (normalizeHost d) text :=
      (mem_exceptsOf_iff _ _ _).mpr ⟨safe, before, ⟨rule, split⟩, d, listed, rfl⟩
    rw [(nothing.2 _ visited).2] at stored
    exact absurd stored List.not_mem_nil
  have hides : Hides text domains body :=
    ⟨rule, plain, supported, unsupported.procedural_or.resolve_left supported⟩
  by_cases everywhere : domains = []
  · refine ⟨[], fun nothing => ?_⟩
    have stored : body ∈ genericOf text :=
      (mem_genericOf_iff _ _).mpr ⟨safe, everywhere ▸ hides⟩
    rw [nothing.1] at stored
    exact absurd stored List.not_mem_nil
  · obtain ⟨d, listed, host, visited⟩ := meant.resolve_left everywhere
    refine ⟨host, fun nothing => ?_⟩
    have stored : body ∈ hidesOf (normalizeHost d) text :=
      (mem_hidesOf_iff _ _ _).mpr ⟨safe, domains, everywhere, hides, d, listed, rfl⟩
    rw [(nothing.2 _ visited).1] at stored
    exact absurd stored List.not_mem_nil

theorem getsPast_of_stores (unsupported : Unsupported text domains body) {host : Bytes}
    (stores : ¬ StoresNothingFor getDomainAndRegistry text host) :
    GetsPast getDomainAndRegistry text domains body := by
  by_contra refused
  refine stores ⟨?_, fun key visited => ⟨?_, ?_⟩⟩ <;>
    refine List.eq_nil_iff_forall_not_mem.mpr fun sel stored => refused ?_
  · obtain ⟨safe, hides⟩ := (mem_genericOf_iff _ _).mp stored
    obtain ⟨rfl, rfl⟩ := unsupported.hides_eq hides
    exact ⟨hides.1, .inr ⟨hides.2.1, hides.2.2.1, safe, .inl rfl⟩⟩
  · obtain ⟨safe, before, _, hides, d, listed, rfl⟩ := (mem_hidesOf_iff _ _ _).mp stored
    obtain ⟨rfl, rfl⟩ := unsupported.hides_eq hides
    exact ⟨hides.1, .inr ⟨hides.2.1, hides.2.2.1, safe, .inr ⟨d, listed, host, visited⟩⟩⟩
  · obtain ⟨safe, before, excepts, d, listed, rfl⟩ := (mem_exceptsOf_iff _ _ _).mp stored
    exact ⟨excepts.1, .inl ⟨before, sel, excepts.2, safe, d, listed, host, visited⟩⟩

theorem not_ignored_of_getsPast (unsupported : Unsupported text domains body)
    (past : GetsPast getDomainAndRegistry text domains body) :
    ∃ host, ¬ IgnoredFor getDomainAndRegistry text host := by
  obtain ⟨host, stores⟩ := stores_of_getsPast unsupported past
  exact ⟨host, fun ignored => stores ((ignoredFor_iff unsupported.single).mp ignored)⟩

end Unsupported

/-- An unsupported rule changes no sheet, whatever the file around it, exactly if it
does not get past the checks. -/
theorem unsupported_ignored_iff (getDomainAndRegistry : Bytes → Bytes) (text domains body : Bytes)
    (unsupported : Unsupported text domains body) :
    (∀ host, IgnoredFor getDomainAndRegistry text host) ↔
      ¬ GetsPast getDomainAndRegistry text domains body := by
  constructor
  · intro ignored past
    obtain ⟨host, shown⟩ := not_ignored_of_getsPast unsupported past
    exact shown (ignored host)
  · intro refused host
    by_contra shown
    exact refused (getsPast_of_stores unsupported (mt ignoredFor_of_storesNothing shown))

/-- A procedural rule is dropped. -/
theorem unsupported_ignored_iff_example :
    IgnoredFor (FilterDecision.oneDomain "example.test".toList)
      "example.test#?#.ad:has(b)".toList "www.example.test".toList := by
  refine (unsupported_ignored_iff _ "example.test#?#.ad:has(b)".toList "example.test".toList
    ".ad:has(b)".toList ⟨by decide, by decide, .inl (by decide)⟩).mpr ?_ _
  rintro ⟨_, ⟨before, sel, split, _⟩ | ⟨_, supported, _⟩⟩
  · have unmarked : splitAtFirst "#@#".toList
        (trim isLineBlank "example.test#?#.ad:has(b)".toList) = none := by decide
    exact absurd (unmarked.symm.trans split) (by simp)
  · exact supported (by decide)

/-- A scriptlet is taken for a selector. -/
theorem scriptlet_not_ignored :
    Unsupported "example.test##+js(nobab)".toList "example.test".toList "+js(nobab)".toList ∧
      ¬ ∀ host, IgnoredFor (FilterDecision.oneDomain "example.test".toList)
        "example.test##+js(nobab)".toList host := by
  have scriptlet : Unsupported "example.test##+js(nobab)".toList "example.test".toList
      "+js(nobab)".toList :=
    ⟨by decide, by decide, .inr (.inr (.inr ⟨by decide, by decide⟩))⟩
  have past : GetsPast (FilterDecision.oneDomain "example.test".toList)
      "example.test##+js(nobab)".toList "example.test".toList "+js(nobab)".toList := by
    refine ⟨by decide, .inr ⟨by decide, by decide, by decide, .inr ?_⟩⟩
    exact ⟨"example.test".toList, by decide, "example.test".toList, by decide⟩
  obtain ⟨host, shown⟩ := not_ignored_of_getsPast scriptlet past
  exact ⟨scriptlet, fun ignored => shown (ignored host)⟩

/-- The host is a listed negated domain, or lies under one, and no positive domain
that covers it is longer. -/
def MostSpecificNegated (domains host : Bytes) : Prop :=
  ∃ negated, '~' :: negated ∈ splitStringPiece ',' domains ∧
    IsLabelSuffix '.' (normalizeHost negated) (normalizeHost host) ∧
    ∀ d ∈ forEachDomain domains, IsLabelSuffix '.' (normalizeHost d) (normalizeHost host) →
      (normalizeHost d).length ≤ (normalizeHost negated).length

/-- A hiding rule over positive and negated domains, and a host that it exempts. -/
structure Exempts (text domains sel host : Bytes) : Prop where
  single : '\n' ∉ text
  hides : Hides text domains sel
  positive : ∃ d, d ∈ forEachDomain domains
  negated : MostSpecificNegated domains host

section Negated

variable {getDomainAndRegistry : Bytes → Bytes} {text domains sel host : Bytes}

theorem ne_nil_of_listed (listed : ∃ d, d ∈ forEachDomain domains) : domains ≠ [] := by
  rintro rfl
  obtain ⟨d, mem⟩ := listed
  exact absurd mem (by decide +revert)

theorem storesNothing_of_hides_iff (hides : Hides text domains sel) (limited : domains ≠ []) :
    StoresNothingFor getDomainAndRegistry text host ↔ isSafeSelector sel = false ∨
      ∀ d ∈ forEachDomain domains,
        normalizeHost d ∉ forEachHostAndParent getDomainAndRegistry (normalizeHost host) := by
  constructor
  · intro nothing
    by_contra! stored
    obtain ⟨accepted, d, listed, visited⟩ := stored
    have mem : sel ∈ hidesOf (normalizeHost d) text := (mem_hidesOf_iff _ _ _).mpr
      ⟨Bool.eq_true_of_not_eq_false accepted, domains, limited, hides, d, listed, rfl⟩
    rw [(nothing.2 _ visited).1] at mem
    exact absurd mem List.not_mem_nil
  · intro refused
    refine ⟨?_, fun key visited => ⟨?_, ?_⟩⟩ <;>
      refine List.eq_nil_iff_forall_not_mem.mpr fun other stored => ?_
    · obtain ⟨_, everywhere⟩ := (mem_genericOf_iff _ _).mp stored
      exact limited (hides_unique text hides everywhere).1
    · obtain ⟨safe, domains', _, hides', d, listed, rfl⟩ := (mem_hidesOf_iff _ _ _).mp stored
      obtain ⟨rfl, rfl⟩ := hides_unique text hides hides'
      rcases refused with refusal | apart
      · exact absurd (refusal.symm.trans safe) Bool.false_ne_true
      · exact apart d listed visited
    · obtain ⟨_, domains', excepts, _⟩ := (mem_exceptsOf_iff _ _ _).mp stored
      exact not_hides_of_excepts text excepts hides

end Negated

/-- A rule that exempts a host has no part in its sheet exactly if the selector is
refused or no positive domain of the rule is one that the host is looked up under. -/
theorem exempted_ignored_iff (getDomainAndRegistry : Bytes → Bytes) (text domains sel host : Bytes)
    (exempts : Exempts text domains sel host) :
    IgnoredFor getDomainAndRegistry text host ↔ isSafeSelector sel = false ∨
      ∀ d ∈ forEachDomain domains,
        normalizeHost d ∉ forEachHostAndParent getDomainAndRegistry (normalizeHost host) := by
  rw [ignoredFor_iff exempts.single,
    storesNothing_of_hides_iff exempts.hides (ne_nil_of_listed exempts.positive)]

/-- The positive domain is another site: the exemption holds. -/
theorem exempted_ignored_iff_example :
    IgnoredFor (FilterDecision.oneDomain "example.test".toList)
      "other.test,~example.test##.ad".toList "example.test".toList :=
  (exempted_ignored_iff _ _ "other.test,~example.test".toList ".ad".toList _
    ⟨by decide, by decide, ⟨"other.test".toList, by decide⟩,
      "example.test".toList, by decide, by decide, by decide⟩).mpr (.inr (by decide))

/-- The positive domain is the parent of the exempted one: the parent walk finds it. -/
theorem exempted_not_ignored :
    Exempts "example.test,~shop.example.test##.ad".toList
        "example.test,~shop.example.test".toList ".ad".toList "shop.example.test".toList ∧
      ¬ IgnoredFor (FilterDecision.oneDomain "example.test".toList)
        "example.test,~shop.example.test##.ad".toList "shop.example.test".toList := by
  have exempts : Exempts "example.test,~shop.example.test##.ad".toList
      "example.test,~shop.example.test".toList ".ad".toList "shop.example.test".toList :=
    ⟨by decide, by decide, ⟨"example.test".toList, by decide⟩,
      "shop.example.test".toList, by decide, by decide, by decide⟩
  refine ⟨exempts, fun ignored => ?_⟩
  have nothing := (ignoredFor_iff exempts.single).mp ignored
  rcases (storesNothing_of_hides_iff exempts.hides (by decide)).mp nothing with refused | apart
  · exact absurd refused (by decide)
  · exact apart "example.test".toList (by decide) (by decide)

end BlinkerFluid.UnsupportedRules
