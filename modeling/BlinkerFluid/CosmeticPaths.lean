import BlinkerFluid.CosmeticSheet
import BlinkerFluid.FilterDecision

/-! The cached join and the join made afresh for a host with exceptions. The first
is capped and the second is not, so the two paths agree where no selector beyond
the cap is left to the second. -/

namespace BlinkerFluid.CosmeticPaths
open ByteString ContentFilter CosmeticFilter CosmeticRules CosmeticSheet SeparatedJoin

section Conditions

variable (getDomainAndRegistry : Bytes → Bytes) (filter : LoadedFilter) (host : Bytes)

/-- Neither the host nor a parent of it has an exception. -/
def NoException : Prop :=
  ∀ key ∈ forEachHostAndParent getDomainAndRegistry (normalizeHost host),
    filter.rules.hostHideExceptions key = []

/-- The host or a parent of it excepts the selector. -/
def Excepted (sel : Bytes) : Prop :=
  ∃ key ∈ forEachHostAndParent getDomainAndRegistry (normalizeHost host),
    sel ∈ filter.rules.hostHideExceptions key

/-- No exception reaches the host, or all generic selectors beyond the cap are excepted. -/
def PathsMeet : Prop :=
  NoException getDomainAndRegistry filter host ∨
    ∀ sel ∈ filter.rules.genericHideSelectors.drop kMaxGeneric,
      Excepted getDomainAndRegistry filter host sel

theorem exceptionsFor_eq_nil_iff :
    exceptionsFor getDomainAndRegistry filter host = [] ↔
      NoException getDomainAndRegistry filter host :=
  List.flatMap_eq_nil_iff

theorem mem_exceptionsFor_iff (sel : Bytes) :
    sel ∈ exceptionsFor getDomainAndRegistry filter host ↔
      Excepted getDomainAndRegistry filter host sel :=
  List.mem_flatMap

end Conditions

section Agreement

variable (getDomainAndRegistry : Bytes → Bytes) (filter : LoadedFilter) (host : Bytes)

theorem admittedSelectors_safe {filter : LoadedFilter} (loaded : Loaded filter) :
    ∀ sel ∈ admittedSelectors getDomainAndRegistry filter host, isSafeSelector sel = true := by
  intro sel mem
  rcases List.mem_append.mp (List.mem_of_mem_filter mem) with generic | hidden
  · exact loaded.generic sel (List.mem_of_mem_take generic)
  · obtain ⟨key, _, stored⟩ := List.mem_flatMap.mp hidden
    exact loaded.hidden key sel stored

/-- The fresh join has the admitted selectors and those beyond the cap. -/
theorem usedSelectors_of_exception
    (excepts : ¬ NoException getDomainAndRegistry filter host) :
    usedSelectors getDomainAndRegistry filter host =
      (filter.rules.genericHideSelectors.take kMaxGeneric).filter
          (· ∉ exceptionsFor getDomainAndRegistry filter host) ++
        (filter.rules.genericHideSelectors.drop kMaxGeneric).filter
          (· ∉ exceptionsFor getDomainAndRegistry filter host) ++
        (hostSpecificFor getDomainAndRegistry filter host).filter
          (· ∉ exceptionsFor getDomainAndRegistry filter host) := by
  rw [← exceptionsFor_eq_nil_iff] at excepts
  rw [← List.filter_append, List.take_append_drop, usedSelectors, if_neg excepts]

theorem usedSelectors_of_noException (free : NoException getDomainAndRegistry filter host) :
    usedSelectors getDomainAndRegistry filter host =
      admittedSelectors getDomainAndRegistry filter host := by
  rw [← exceptionsFor_eq_nil_iff] at free
  simp [usedSelectors, admittedSelectors, free]

theorem beyond_eq_nil_iff :
    (filter.rules.genericHideSelectors.drop kMaxGeneric).filter
        (· ∉ exceptionsFor getDomainAndRegistry filter host) = [] ↔
      ∀ sel ∈ filter.rules.genericHideSelectors.drop kMaxGeneric,
        Excepted getDomainAndRegistry filter host sel := by
  simp only [List.filter_eq_nil_iff, decide_eq_true_eq, not_not, mem_exceptionsFor_iff]

theorem usedSelectors_of_meet (meet : PathsMeet getDomainAndRegistry filter host) :
    usedSelectors getDomainAndRegistry filter host =
      admittedSelectors getDomainAndRegistry filter host := by
  by_cases free : NoException getDomainAndRegistry filter host
  · exact usedSelectors_of_noException _ _ _ free
  · have nothing := (beyond_eq_nil_iff _ _ _).mpr (meet.resolve_left free)
    rw [usedSelectors_of_exception _ _ _ free, nothing, List.append_nil, admittedSelectors,
      List.filter_append]

/-- A selector beyond the cap makes the sheet of the fresh join a longer one. -/
theorem meet_of_sheet_eq {filter : LoadedFilter} (loaded : Loaded filter)
    (same : sheet (usedSelectors getDomainAndRegistry filter host) =
      sheet (admittedSelectors getDomainAndRegistry filter host)) :
    PathsMeet getDomainAndRegistry filter host := by
  by_cases free : NoException getDomainAndRegistry filter host
  · exact .inl free
  refine .inr ((beyond_eq_nil_iff _ _ _).mp ?_)
  have weights := weight_eq_of_sheet_eq
    (fun sel mem => ne_nil_of_isSafeSelector (usedSelectors_safe _ _ loaded sel mem))
    (fun sel mem => ne_nil_of_isSafeSelector (admittedSelectors_safe _ _ loaded sel mem)) same
  rw [usedSelectors_of_exception _ _ _ free, admittedSelectors, List.filter_append] at weights
  simp only [weight_append] at weights
  exact weight_eq_zero_iff.mp (by omega)

end Agreement

section Exceptions

variable (getDomainAndRegistry : Bytes → Bytes)

theorem filter_notMem_sublist {exceptions more : List Bytes} (h : exceptions ⊆ more)
    (selectors : List Bytes) :
    (selectors.filter (· ∉ more)).Sublist (selectors.filter (· ∉ exceptions)) := by
  apply List.monotone_filter_right
  intro sel kept
  rw [decide_eq_true_eq] at kept ⊢
  exact fun mem => kept (h mem)

theorem admittedSelectors_sublist (filter : LoadedFilter) (host : Bytes) :
    (admittedSelectors getDomainAndRegistry filter host).Sublist
      (usedSelectors getDomainAndRegistry filter host) := by
  by_cases free : NoException getDomainAndRegistry filter host
  · rw [usedSelectors_of_noException _ _ _ free]
  · rw [usedSelectors_of_exception _ _ _ free, admittedSelectors, List.filter_append]
    exact (List.sublist_append_left _ _).append (.refl _)

variable {text domains sel : Bytes} {user longer : UserData}

theorem stores_of_exception (excepts : Excepts text domains sel)
    (inserted : InsertsLine text user longer) (toggles : List Bool) (host : Bytes) :
    (servingFilter longer toggles).rules.genericHideSelectors =
        (servingFilter user toggles).rules.genericHideSelectors ∧
      hostSpecificFor getDomainAndRegistry (servingFilter longer toggles) host =
        hostSpecificFor getDomainAndRegistry (servingFilter user toggles) host ∧
      exceptionsFor getDomainAndRegistry (servingFilter user toggles) host ⊆
        exceptionsFor getDomainAndRegistry (servingFilter longer toggles) host := by
  refine ⟨?_, ?_, ?_⟩
  · obtain ⟨before, behind, same, added⟩ := flatMap_filterLines_of_inserts inserted genericOf
    rw [servingFilter_generic, servingFilter_generic, same, added,
      (yields_of_excepts text excepts []).1, List.append_nil]
  · refine List.flatMap_congr fun key _ => ?_
    obtain ⟨before, behind, same, added⟩ := flatMap_filterLines_of_inserts inserted (hidesOf key)
    rw [servingFilter_hides, servingFilter_hides, same, added,
      (yields_of_excepts text excepts key).2.1, List.append_nil]
  · intro other mem
    obtain ⟨key, visited, stored⟩ := List.mem_flatMap.mp mem
    obtain ⟨before, behind, same, added⟩ := flatMap_filterLines_of_inserts inserted (exceptsOf key)
    rw [servingFilter_excepts, same, List.mem_append] at stored
    refine List.mem_flatMap.mpr ⟨key, visited, ?_⟩
    rw [servingFilter_excepts, added, List.mem_append, List.mem_append]
    exact stored.imp_left .inl

theorem admittedSelectors_of_exception (excepts : Excepts text domains sel)
    (inserted : InsertsLine text user longer) (toggles : List Bool) (host : Bytes) :
    (admittedSelectors getDomainAndRegistry (servingFilter longer toggles) host).Sublist
      (admittedSelectors getDomainAndRegistry (servingFilter user toggles) host) := by
  obtain ⟨generic, hidden, more⟩ :=
    stores_of_exception getDomainAndRegistry excepts inserted toggles host
  rw [admittedSelectors, generic, hidden]
  exact filter_notMem_sublist more _

end Exceptions

/-- What the two paths owe each other, for one filter and one host. -/
structure PathsCoincide (getDomainAndRegistry : Bytes → Bytes) (user : UserData)
    (toggles : List Bool) (host : Bytes) : Prop where
  /-- The sheet is made of the admitted selectors. -/
  admitted : cosmeticCSSFor getDomainAndRegistry (servingFilter user toggles) host =
    if (servingFilter user toggles).rules.enabled then
      sheet (admittedSelectors getDomainAndRegistry (servingFilter user toggles) host) else []
  /-- A file without one of the exception lines yields a sheet with at least the selectors. -/
  exception_removes : ∀ text domains sel shorter, Excepts text domains sel →
    InsertsLine text shorter user → ∃ fewer more : List Bytes, fewer.Sublist more ∧
      cosmeticCSSFor getDomainAndRegistry (servingFilter user toggles) host = sheet fewer ∧
      cosmeticCSSFor getDomainAndRegistry (servingFilter shorter toggles) host = sheet more
  /-- Exceptions that name no generic selector leave the generic part as it is elsewhere. -/
  same_generic : (servingFilter user toggles).rules.enabled = true →
    (∀ sel ∈ (servingFilter user toggles).rules.genericHideSelectors,
      ¬ Excepted getDomainAndRegistry (servingFilter user toggles) host sel) →
    ∀ other, NoException getDomainAndRegistry (servingFilter user toggles) other →
      genericPart (servingFilter user toggles)
          (exceptionsFor getDomainAndRegistry (servingFilter user toggles) host) =
        genericPart (servingFilter user toggles)
          (exceptionsFor getDomainAndRegistry (servingFilter user toggles) other)

section Coincidence

variable (getDomainAndRegistry : Bytes → Bytes) (user : UserData) (toggles : List Bool)
  (host : Bytes)

theorem cosmeticCSSFor_admitted_iff :
    cosmeticCSSFor getDomainAndRegistry (servingFilter user toggles) host =
        (if (servingFilter user toggles).rules.enabled then
          sheet (admittedSelectors getDomainAndRegistry (servingFilter user toggles) host)
        else []) ↔
      ((servingFilter user toggles).rules.enabled = true →
        PathsMeet getDomainAndRegistry (servingFilter user toggles) host) := by
  have loaded := servingFilter_loaded user toggles
  rw [cosmeticCSSFor_eq getDomainAndRegistry host loaded]
  cases (servingFilter user toggles).rules.enabled
  · simp
  · simp only [if_true, forall_true_left]
    refine ⟨meet_of_sheet_eq getDomainAndRegistry host loaded, fun meet => ?_⟩
    rw [usedSelectors_of_meet _ _ _ meet]

theorem exception_removes_of_meet (meet : (servingFilter user toggles).rules.enabled = true →
      PathsMeet getDomainAndRegistry (servingFilter user toggles) host)
    {text domains sel : Bytes} {shorter : UserData} (excepts : Excepts text domains sel)
    (inserted : InsertsLine text shorter user) :
    ∃ fewer more : List Bytes, fewer.Sublist more ∧
      cosmeticCSSFor getDomainAndRegistry (servingFilter user toggles) host = sheet fewer ∧
      cosmeticCSSFor getDomainAndRegistry (servingFilter shorter toggles) host = sheet more := by
  have toggle : (servingFilter shorter toggles).rules.enabled =
      (servingFilter user toggles).rules.enabled := by
    rw [servingFilter_enabled, servingFilter_enabled, inserted.2.1]
  rw [cosmeticCSSFor_eq _ host (servingFilter_loaded user toggles),
    cosmeticCSSFor_eq _ host (servingFilter_loaded shorter toggles), toggle]
  cases enabled : (servingFilter user toggles).rules.enabled
  · exact ⟨[], [], .refl _, rfl, rfl⟩
  · refine ⟨_, _, ?_, rfl, rfl⟩
    rw [usedSelectors_of_meet _ _ _ (meet enabled)]
    exact (admittedSelectors_of_exception _ excepts inserted toggles host).trans
      (admittedSelectors_sublist _ _ _)

theorem same_generic_of_meet
    (meet : PathsMeet getDomainAndRegistry (servingFilter user toggles) host)
    (unnamed : ∀ sel ∈ (servingFilter user toggles).rules.genericHideSelectors,
      ¬ Excepted getDomainAndRegistry (servingFilter user toggles) host sel)
    {other : Bytes} (free : NoException getDomainAndRegistry (servingFilter user toggles) other) :
    genericPart (servingFilter user toggles)
        (exceptionsFor getDomainAndRegistry (servingFilter user toggles) host) =
      genericPart (servingFilter user toggles)
        (exceptionsFor getDomainAndRegistry (servingFilter user toggles) other) := by
  have loaded := servingFilter_loaded user toggles
  rw [genericPart_eq loaded, genericPart_eq loaded, if_pos ((exceptionsFor_eq_nil_iff _ _ _).mpr free)]
  split_ifs with none
  · rfl
  have beyond := meet.resolve_left (mt (exceptionsFor_eq_nil_iff _ _ _).mpr none)
  have short : (servingFilter user toggles).rules.genericHideSelectors.drop kMaxGeneric = [] :=
    List.eq_nil_iff_forall_not_mem.mpr fun sel mem =>
      unnamed sel (List.mem_of_mem_drop mem) (beyond sel mem)
  have whole := List.take_append_drop kMaxGeneric
    (servingFilter user toggles).rules.genericHideSelectors
  rw [short, List.append_nil] at whole
  rw [whole, List.filter_eq_self.mpr]
  intro sel mem
  rw [decide_eq_true_eq, mem_exceptionsFor_iff]
  exact unnamed sel mem

/-- The two paths agree, with what follows from it, exactly where the filter is off
or no generic selector beyond the cap is left to the path without the cap. -/
theorem pathsCoincide_iff :
    PathsCoincide getDomainAndRegistry user toggles host ↔
      ((servingFilter user toggles).rules.enabled = true →
        PathsMeet getDomainAndRegistry (servingFilter user toggles) host) := by
  constructor
  · intro coincide
    exact (cosmeticCSSFor_admitted_iff _ _ _ _).mp coincide.admitted
  · intro meet
    exact {
      admitted := (cosmeticCSSFor_admitted_iff _ _ _ _).mpr meet
      exception_removes := fun _ _ _ _ excepts inserted =>
        exception_removes_of_meet _ _ _ _ meet excepts inserted
      same_generic := fun enabled unnamed _ free =>
        same_generic_of_meet _ _ _ _ (meet enabled) unnamed free }

end Coincidence

/-- As many generic rules as the cap allows, and an exception for one host. -/
def longFile : List Bytes :=
  List.replicate kMaxGeneric "##.ad".toList ++ ["example.test#@#.other".toList]

theorem filterLines_longFile : filterLines (fileUser longFile) = longFile := by
  apply filterLines_fileUser
  intro line mem
  rcases List.mem_append.mp mem with generic | exception
  · rw [List.eq_of_mem_replicate generic]
    decide
  · rw [List.mem_singleton.mp exception]
    decide

theorem longFile_generic :
    (servingFilter (fileUser longFile) []).rules.genericHideSelectors =
      builtinCosmetic ++ List.replicate kMaxGeneric ".ad".toList := by
  have hides : genericOf "##.ad".toList = [".ad".toList] := by decide
  have unhides : genericOf "example.test#@#.other".toList = [] := by decide
  rw [servingFilter_generic, filterLines_longFile, longFile, List.flatMap_append,
    List.flatMap_replicate, hides, List.flatten_replicate_singleton, List.flatMap_singleton,
    unhides, List.append_nil]

theorem longFile_excepts (key sel : Bytes) :
    sel ∈ (servingFilter (fileUser longFile) []).rules.hostHideExceptions key ↔
      sel ∈ exceptsOf key "example.test#@#.other".toList := by
  have unmarked : splitAtFirst "#@#".toList (trim isLineBlank "##.ad".toList) = none := by decide
  have nothing : exceptsOf key "##.ad".toList = [] := by
    refine List.eq_nil_iff_forall_not_mem.mpr fun other mem => ?_
    obtain ⟨_, domains, excepts, _⟩ := (mem_exceptsOf_iff _ _ _).mp mem
    exact absurd (unmarked.symm.trans excepts.2) (by simp)
  rw [servingFilter_excepts, filterLines_longFile, longFile, List.flatMap_append,
    List.flatMap_replicate, nothing]
  simp

/-- On the long file the host with the exception gets selectors beyond the cap. -/
theorem longFile_not_coincide :
    ¬ PathsCoincide (FilterDecision.oneDomain "example.test".toList) (fileUser longFile) []
      "example.test".toList := by
  intro coincide
  have meet := (cosmeticCSSFor_admitted_iff _ _ _ _).mp coincide.admitted
    (servingFilter_enabled _ _)
  rcases meet with free | beyond
  · have none := free "example.test".toList (by decide)
    have stored := (longFile_excepts "example.test".toList ".other".toList).mpr (by decide)
    rw [none] at stored
    exact absurd stored List.not_mem_nil
  · obtain ⟨key, _, stored⟩ := beyond ".ad".toList (by
      rw [longFile_generic, List.drop_append, List.drop_replicate, List.mem_append]
      exact .inr (List.mem_replicate.mpr ⟨by decide, rfl⟩))
    obtain ⟨_, domains, excepts, _⟩ :=
      (mem_exceptsOf_iff _ _ _).mp ((longFile_excepts key ".ad".toList).mp stored)
    have split : splitAtFirst "#@#".toList (trim isLineBlank "example.test#@#.other".toList) =
        some ("example.test".toList, ".other".toList) := by decide
    exact absurd (split.symm.trans excepts.2) (by simp)

end BlinkerFluid.CosmeticPaths
