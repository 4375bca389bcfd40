import BlinkerFluid.CosmeticPaths

/-! What one line of the filter file changes. A line leaves the sheet of a host as it
is, in every file and at every place, exactly when it stores nothing that the host
or a parent of it is looked up under. -/

namespace BlinkerFluid.CosmeticLines
open ByteString LabelSuffix ContentFilter CosmeticFilter CosmeticRules CosmeticSheet CosmeticPaths
  SeparatedJoin

/-- Inserted anywhere in any file, the line leaves the sheet of the host as it is. -/
def IgnoredFor (getDomainAndRegistry : Bytes → Bytes) (text host : Bytes) : Prop :=
  ∀ user longer toggles, InsertsLine text user longer →
    cosmeticCSSFor getDomainAndRegistry (servingFilter longer toggles) host =
      cosmeticCSSFor getDomainAndRegistry (servingFilter user toggles) host

/-- The line stores nothing that the host is looked up under. -/
def StoresNothingFor (getDomainAndRegistry : Bytes → Bytes) (text host : Bytes) : Prop :=
  genericOf text = [] ∧
    ∀ key ∈ forEachHostAndParent getDomainAndRegistry (normalizeHost host),
      hidesOf key text = [] ∧ exceptsOf key text = []

section Unchanged

variable {getDomainAndRegistry : Bytes → Bytes} {text host : Bytes}

theorem flatMap_filterLines_of_inserts_nil {α : Type*} {user longer : UserData}
    (inserted : InsertsLine text user longer) {yield : Bytes → List α} (nothing : yield text = []) :
    (filterLines longer).flatMap yield = (filterLines user).flatMap yield := by
  obtain ⟨before, behind, same, added⟩ := flatMap_filterLines_of_inserts inserted yield
  rw [same, added, nothing, List.append_nil]

theorem ignoredFor_of_storesNothing (nothing : StoresNothingFor getDomainAndRegistry text host) :
    IgnoredFor getDomainAndRegistry text host := by
  intro user longer toggles inserted
  have generic : (servingFilter longer toggles).rules.genericHideSelectors =
      (servingFilter user toggles).rules.genericHideSelectors := by
    rw [servingFilter_generic, servingFilter_generic,
      flatMap_filterLines_of_inserts_nil inserted nothing.1]
  have hidden : hostSpecificFor getDomainAndRegistry (servingFilter longer toggles) host =
      hostSpecificFor getDomainAndRegistry (servingFilter user toggles) host := by
    refine List.flatMap_congr fun key visited => ?_
    rw [servingFilter_hides, servingFilter_hides,
      flatMap_filterLines_of_inserts_nil inserted (nothing.2 key visited).1]
  have excepted : exceptionsFor getDomainAndRegistry (servingFilter longer toggles) host =
      exceptionsFor getDomainAndRegistry (servingFilter user toggles) host := by
    refine List.flatMap_congr fun key visited => ?_
    rw [servingFilter_excepts, servingFilter_excepts,
      flatMap_filterLines_of_inserts_nil inserted (nothing.2 key visited).2]
  have toggle : (servingFilter longer toggles).rules.enabled =
      (servingFilter user toggles).rules.enabled := by
    rw [servingFilter_enabled, servingFilter_enabled, inserted.2.1]
  rw [cosmeticCSSFor_eq _ host (servingFilter_loaded longer toggles),
    cosmeticCSSFor_eq _ host (servingFilter_loaded user toggles), toggle]
  simp only [usedSelectors, generic, hidden, excepted]

end Unchanged

section Fillers

/-- A line that hides one selector of one character everywhere. -/
structure IsFiller (line sel : Bytes) : Prop where
  single : '\n' ∉ line
  safe : isSafeSelector sel = true
  hides : Hides line [] sel
  short : sel.length = 1

theorem exists_filler (sel : Bytes) : ∃ line other, IsFiller line other ∧ other ≠ sel := by
  have a : IsFiller "##a".toList "a".toList := ⟨by decide, by decide, by decide, rfl⟩
  have b : IsFiller "##b".toList "b".toList := ⟨by decide, by decide, by decide, rfl⟩
  by_cases taken : "a".toList = sel
  · exact ⟨_, _, b, fun h => absurd (taken.trans h.symm) (by decide)⟩
  · exact ⟨_, _, a, taken⟩

variable {line sel : Bytes}

theorem IsFiller.yields (filler : IsFiller line sel) (key : Bytes) :
    genericOf line = [sel] ∧ hidesOf key line = [] ∧ exceptsOf key line = [] := by
  obtain ⟨generic, hidden, excepted⟩ := yields_of_hides line filler.hides key
  simpa [filler.safe] using And.intro generic (And.intro hidden excepted)

variable (getDomainAndRegistry : Bytes → Bytes) (text host : Bytes) (n : ℕ)

/-- The file of fillers, without and with the line behind them. -/
def fillerFile (line : Bytes) (n : ℕ) (rest : List Bytes) : UserData :=
  fileUser (List.replicate n line ++ rest)

theorem filterLines_fillerFile (filler : IsFiller line sel) {rest : List Bytes}
    (single : ∀ other ∈ rest, '\n' ∉ other) :
    filterLines (fillerFile line n rest) = List.replicate n line ++ rest := by
  apply filterLines_fileUser
  intro other mem
  rcases List.mem_append.mp mem with fill | mem
  · rw [List.eq_of_mem_replicate fill]
    exact filler.single
  · exact single other mem

theorem inserts_fillerFile (filler : IsFiller line sel) (single : '\n' ∉ text) :
    InsertsLine text (fillerFile line n []) (fillerFile line n [text]) := by
  refine ⟨rfl, rfl, List.replicate n line, [], ?_, ?_⟩
  · rw [filterLines_fillerFile n filler (by simp)]
  · rw [filterLines_fillerFile n filler (by simpa using single)]

theorem stores_fillerFile (filler : IsFiller line sel) (rest : List Bytes)
    (single : ∀ other ∈ rest, '\n' ∉ other) :
    let filter := servingFilter (fillerFile line n rest) []
    filter.rules.genericHideSelectors =
        builtinCosmetic ++ (List.replicate n sel ++ rest.flatMap genericOf) ∧
      hostSpecificFor getDomainAndRegistry filter host =
        (forEachHostAndParent getDomainAndRegistry (normalizeHost host)).flatMap
          (fun key => rest.flatMap (hidesOf key)) ∧
      exceptionsFor getDomainAndRegistry filter host =
        (forEachHostAndParent getDomainAndRegistry (normalizeHost host)).flatMap
          (fun key => rest.flatMap (exceptsOf key)) := by
  intro filter
  have lines := filterLines_fillerFile n filler single
  refine ⟨?_, ?_, ?_⟩
  · rw [servingFilter_generic, lines, List.flatMap_append, List.flatMap_replicate,
      (filler.yields []).1, List.flatten_replicate_singleton]
  · refine List.flatMap_congr fun key _ => ?_
    rw [servingFilter_hides, lines, List.flatMap_append, List.flatMap_replicate,
      (filler.yields key).2.1]
    simp
  · refine List.flatMap_congr fun key _ => ?_
    rw [servingFilter_excepts, lines, List.flatMap_append, List.flatMap_replicate,
      (filler.yields key).2.2]
    simp

theorem weight_eq_of_ignored (ignored : IgnoredFor getDomainAndRegistry text host)
    (filler : IsFiller line sel) (single : '\n' ∉ text) :
    weight (usedSelectors getDomainAndRegistry (servingFilter (fillerFile line n [text]) []) host) =
      weight (usedSelectors getDomainAndRegistry (servingFilter (fillerFile line n []) []) host) := by
  have loaded (user : UserData) := servingFilter_loaded user []
  have on (user : UserData) (unset : user.blinkAdBlock = none) :
      (servingFilter user []).rules.enabled = true := by
    rw [servingFilter_enabled, unset]
    rfl
  have same := ignored _ _ [] (inserts_fillerFile text n filler single)
  rw [cosmeticCSSFor_eq _ host (loaded _), cosmeticCSSFor_eq _ host (loaded _), on _ rfl, on _ rfl]
    at same
  exact weight_eq_of_sheet_eq
    (fun sel mem => ne_nil_of_isSafeSelector (usedSelectors_safe _ _ (loaded _) sel mem))
    (fun sel mem => ne_nil_of_isSafeSelector (usedSelectors_safe _ _ (loaded _) sel mem)) same

end Fillers

section Exact

variable {getDomainAndRegistry : Bytes → Bytes} {text host : Bytes}

theorem usedSelectors_free {filter : LoadedFilter}
    (free : exceptionsFor getDomainAndRegistry filter host = []) :
    usedSelectors getDomainAndRegistry filter host =
      filter.rules.genericHideSelectors.take kMaxGeneric ++
        hostSpecificFor getDomainAndRegistry filter host := by
  simp [usedSelectors, free]

theorem length_genericOf_le (text : Bytes) : (genericOf text).length ≤ 1 := by
  cases reading text with
  | excepts domains sel h => simp [(yields_of_excepts text h []).1]
  | hides domains sel h =>
    rw [(yields_of_hides text h []).1]
    split_ifs <;> simp
  | neither unread => simp [(yields_of_neither text unread []).1]

theorem usedSelectors_fillerFile {line sel : Bytes} (filler : IsFiller line sel) (n : ℕ) :
    usedSelectors getDomainAndRegistry (servingFilter (fillerFile line n []) []) host =
      (builtinCosmetic ++ List.replicate n sel).take kMaxGeneric := by
  obtain ⟨generic, hidden, excepted⟩ :=
    stores_fillerFile getDomainAndRegistry host n filler [] (by simp)
  have unhidden := hidden.trans (List.flatMap_eq_nil_iff.mpr fun _ _ => rfl)
  rw [usedSelectors_free (excepted.trans (by simp)), generic, unhidden, List.flatMap_nil,
    List.append_nil, List.append_nil]

/-- On a file of its own the line shows what it hides. -/
theorem hidesNothing_of_ignored (ignored : IgnoredFor getDomainAndRegistry text host)
    (single : '\n' ∉ text)
    (unexcepting : ∀ key ∈ forEachHostAndParent getDomainAndRegistry (normalizeHost host),
      exceptsOf key text = []) :
    genericOf text = [] ∧
      ∀ key ∈ forEachHostAndParent getDomainAndRegistry (normalizeHost host),
        hidesOf key text = [] := by
  obtain ⟨line, sel, filler, _⟩ := exists_filler []
  have weights := weight_eq_of_ignored getDomainAndRegistry text host 0 ignored filler single
  have fits (more : List Bytes) (few : more.length ≤ 1) :
      (builtinCosmetic ++ more).take kMaxGeneric = builtinCosmetic ++ more := by
    have builtin : builtinCosmetic.length = 12 := by simp [builtinCosmetic, kBuiltinCosmetic]
    apply List.take_of_length_le
    rw [List.length_append, builtin, kMaxGeneric]
    omega
  have shown :
      usedSelectors getDomainAndRegistry (servingFilter (fillerFile line 0 [text]) []) host =
        builtinCosmetic ++ genericOf text ++
          (forEachHostAndParent getDomainAndRegistry (normalizeHost host)).flatMap
            (fun key => hidesOf key text) := by
    obtain ⟨generic, hidden, excepted⟩ :=
      stores_fillerFile getDomainAndRegistry host 0 filler [text] (by simpa using single)
    rw [usedSelectors_free (excepted.trans (by simpa using unexcepting)), generic, hidden]
    simp only [List.replicate_zero, List.nil_append, List.flatMap_singleton,
      fits _ (length_genericOf_le text)]
  rw [usedSelectors_fillerFile filler 0, fits _ (by simp), shown, List.replicate_zero,
    List.append_nil, weight_append, weight_append] at weights
  have none : weight (genericOf text) = 0 := by omega
  have none_hidden : weight ((forEachHostAndParent getDomainAndRegistry (normalizeHost host)).flatMap
      (fun key => hidesOf key text)) = 0 := by omega
  exact ⟨weight_eq_zero_iff.mp none, List.flatMap_eq_nil_iff.mp (weight_eq_zero_iff.mp none_hidden)⟩

/-- Without an exception the cap bounds what a file of fillers shows. -/
theorem weight_fillerFile_le {line fill : Bytes} (filler : IsFiller line fill) (n : ℕ) :
    weight (usedSelectors getDomainAndRegistry (servingFilter (fillerFile line n []) []) host) ≤
      weight builtinCosmetic + 2 * kMaxGeneric := by
  rw [usedSelectors_fillerFile filler n, List.take_append, weight_append, List.take_replicate,
    weight_replicate, filler.short]
  have builtin := weight_le_of_sublist (List.take_sublist kMaxGeneric builtinCosmetic)
  have count : min (kMaxGeneric - builtinCosmetic.length) n ≤ kMaxGeneric :=
    (min_le_left _ _).trans (Nat.sub_le _ _)
  omega

theorem le_weight_fillerFile {line fill : Bytes} (filler : IsFiller line fill) (n : ℕ)
    (single : '\n' ∉ text) {key : Bytes}
    (visited : key ∈ forEachHostAndParent getDomainAndRegistry (normalizeHost host))
    (excepting : exceptsOf key text ≠ []) (unexcepted : ∀ key', fill ∉ exceptsOf key' text) :
    2 * n ≤ weight (usedSelectors getDomainAndRegistry
      (servingFilter (fillerFile line n [text]) []) host) := by
  obtain ⟨generic, _, excepted⟩ :=
    stores_fillerFile getDomainAndRegistry host n filler [text] (by simpa using single)
  have reached : exceptionsFor getDomainAndRegistry
      (servingFilter (fillerFile line n [text]) []) host ≠ [] := by
    rw [excepted]
    exact fun none => excepting (by simpa using List.flatMap_eq_nil_iff.mp none key visited)
  have kept : fill ∉ exceptionsFor getDomainAndRegistry
      (servingFilter (fillerFile line n [text]) []) host := by
    rw [excepted]
    intro mem
    obtain ⟨key', _, stored⟩ := List.mem_flatMap.mp mem
    rw [List.flatMap_singleton] at stored
    exact unexcepted key' stored
  have fills : (List.replicate n fill).Sublist (usedSelectors getDomainAndRegistry
      (servingFilter (fillerFile line n [text]) []) host) := by
    rw [usedSelectors, if_neg reached, generic, List.filter_append, List.filter_append,
      List.filter_replicate, if_pos (by simpa using kept)]
    exact ((List.sublist_append_left _ _).trans (List.sublist_append_right _ _)).trans
      (List.sublist_append_left _ _)
  have heavy := weight_le_of_sublist fills
  rw [weight_replicate, filler.short] at heavy
  omega

/-- On a file longer than the cap an exception shows by the path it takes. -/
theorem exceptsNothing_of_ignored (ignored : IgnoredFor getDomainAndRegistry text host)
    (single : '\n' ∉ text) :
    ∀ key ∈ forEachHostAndParent getDomainAndRegistry (normalizeHost host),
      exceptsOf key text = [] := by
  intro key visited
  by_contra excepting
  obtain ⟨sel, mem⟩ := List.exists_mem_of_ne_nil _ excepting
  obtain ⟨_, domains, excepts, _⟩ := (mem_exceptsOf_iff text key sel).mp mem
  obtain ⟨line, fill, filler, other⟩ := exists_filler sel
  have unexcepted : ∀ key', fill ∉ exceptsOf key' text := by
    intro key' stored
    obtain ⟨_, domains', excepts', _⟩ := (mem_exceptsOf_iff text key' fill).mp stored
    exact other (excepts_unique text excepts' excepts).2
  let n := kMaxGeneric + weight builtinCosmetic
  have weights := weight_eq_of_ignored getDomainAndRegistry text host n ignored filler single
  have capped : weight (usedSelectors getDomainAndRegistry
      (servingFilter (fillerFile line n []) []) host) ≤ weight builtinCosmetic + 2 * kMaxGeneric :=
    weight_fillerFile_le filler n
  have uncapped := le_weight_fillerFile filler n single visited excepting unexcepted
  have builtin : 0 < weight builtinCosmetic := by
    simp [builtinCosmetic, kBuiltinCosmetic]
  omega

theorem ignoredFor_iff (single : '\n' ∉ text) :
    IgnoredFor getDomainAndRegistry text host ↔
      StoresNothingFor getDomainAndRegistry text host := by
  refine ⟨fun ignored => ?_, ignoredFor_of_storesNothing⟩
  have unexcepting := exceptsNothing_of_ignored ignored single
  obtain ⟨generic, hidden⟩ := hidesNothing_of_ignored ignored single unexcepting
  exact ⟨generic, fun key visited => ⟨hidden key visited, unexcepting key visited⟩⟩

end Exact

end BlinkerFluid.CosmeticLines
