import BlinkerFluid.CosmeticSheet
import BlinkerFluid.CssNesting

/-! Whether the block of the cosmetic style sheet is a block: the selectors in front of it
are checked character by character, so one of them may leave a comment, a string, a
`url(` token or a bracket open that the sheet never closes. -/

namespace BlinkerFluid.CosmeticNesting
open ByteString ContentFilter CosmeticFilter CosmeticRules CosmeticSheet SeparatedJoin
open CssTokens CssNesting

/-- Read in turn, what one selector leaves open a later one closes. -/
def NothingLeftOpen (selectors : List Bytes) : Prop :=
  selectors.foldl Context.read Context.top = Context.top

instance : DecidablePred NothingLeftOpen := fun _ => inferInstanceAs (Decidable (_ = _))

def Closes (sel : Bytes) : Prop := NothingLeftOpen [sel]

theorem nothingLeftOpen_of_closes {selectors : List Bytes}
    (each : ∀ sel ∈ selectors, Closes sel) : NothingLeftOpen selectors := by
  induction selectors with
  | nil => rfl
  | cons sel selectors ih =>
    rw [List.forall_mem_cons] at each
    have closed : Context.top.read sel = Context.top := each.1
    rw [NothingLeftOpen, List.foldl_cons, closed]
    exact ih each.2

theorem sheet_escapeFree {selectors : List Bytes}
    (safe : ∀ sel ∈ selectors, isSafeSelector sel = true) : '\\' ∉ sheet selectors :=
  not_mem_sheet safe (by decide) (by decide)

theorem sheet_opensAtTop_iff {selectors : List Bytes} (some_sel : selectors ≠ [])
    (safe : ∀ sel ∈ selectors, isSafeSelector sel = true) :
    OpensAtTop (sheet selectors) ↔ NothingLeftOpen selectors := by
  have absent : '\x7b' ∉ [','].intercalate selectors :=
    fun mem => not_canEscape_of_join safe mem (by decide)
  have block : displayNone = '\x7b' :: "display:none!important\x7d".toList := by decide
  rw [sheet, if_neg some_sel, block, opensAtTop_iff absent (by decide),
    read_intercalate Context.top some_sel, NothingLeftOpen]

section Served

variable (getDomainAndRegistry : Bytes → Bytes) (user : UserData) (toggles : List Bool)
  (host : Bytes)

/-- The block that is served opens at the top of the sheet. -/
def BlockOpens : Prop :=
  let css := cosmeticCSSFor getDomainAndRegistry (servingFilter user toggles) host
  css ≠ [] → OpensAtTop css

theorem blockOpens_iff_used : BlockOpens getDomainAndRegistry user toggles host ↔
    ((servingFilter user toggles).rules.enabled = true →
      NothingLeftOpen (usedSelectors getDomainAndRegistry (servingFilter user toggles) host)) := by
  have loaded := servingFilter_loaded user toggles
  have safe := usedSelectors_safe getDomainAndRegistry host loaded
  rw [BlockOpens, cosmeticCSSFor_eq getDomainAndRegistry host loaded]
  generalize usedSelectors getDomainAndRegistry (servingFilter user toggles) host = selectors at *
  generalize (servingFilter user toggles).rules.enabled = enabled
  cases enabled with
  | false => simp
  | true =>
    simp only [if_true, true_imp_iff]
    by_cases none : selectors = []
    · subst none
      simp [sheet, NothingLeftOpen]
    · have served : sheet selectors ≠ [] := by
        rw [sheet, if_neg none]
        exact List.append_ne_nil_of_right_ne_nil _ (by decide)
      rw [imp_iff_right served]
      exact sheet_opensAtTop_iff none safe

theorem builtinCosmetic_closes : ∀ sel ∈ builtinCosmetic, Closes sel := by
  unfold Closes
  decide +kernel

/-- Accepted lines whose selectors close what they open do no harm to each other. -/
theorem blockOpens_of_closes
    (each : ∀ text ∈ filterLines user, ∀ sel, TakenFrom text sel → Closes sel) :
    BlockOpens getDomainAndRegistry user toggles host := by
  refine (blockOpens_iff_used ..).mpr fun _ => nothingLeftOpen_of_closes fun sel mem => ?_
  rcases usedSelectors_source getDomainAndRegistry user toggles host sel mem with
    builtin | ⟨text, line, taken⟩
  · exact builtinCosmetic_closes sel builtin
  · exact each text line sel taken

theorem usedSelectors_of_line {text sel : Bytes} (line : filterLines user = [text])
    (hides : Hides text [] sel) (safe : isSafeSelector sel = true) :
    usedSelectors getDomainAndRegistry (servingFilter user toggles) host =
      builtinCosmetic ++ [sel] := by
  have generic : (servingFilter user toggles).rules.genericHideSelectors =
      builtinCosmetic ++ [sel] := by
    rw [servingFilter_generic, line, List.flatMap_singleton, (yields_of_hides text hides []).1,
      if_pos ⟨safe, rfl⟩]
  have none : exceptionsFor getDomainAndRegistry (servingFilter user toggles) host = [] := by
    refine List.flatMap_eq_nil_iff.mpr fun key _ => ?_
    rw [servingFilter_excepts, line, List.flatMap_singleton, (yields_of_hides text hides key).2.2]
  have everywhere :
      hostSpecificFor getDomainAndRegistry (servingFilter user toggles) host = [] := by
    refine List.flatMap_eq_nil_iff.mpr fun key _ => ?_
    rw [servingFilter_hides, line, List.flatMap_singleton, (yields_of_hides text hides key).2.1,
      if_neg fun limited => limited.2 rfl]
  have short : (builtinCosmetic ++ [sel]).length ≤ kMaxGeneric := by
    simp [builtinCosmetic, kBuiltinCosmetic, kMaxGeneric]
  simp only [usedSelectors, generic, none, everywhere, if_true, List.take_of_length_le short,
    List.filter_nil, List.append_nil]

theorem nothingLeftOpen_append {front selectors : List Bytes} (closed : NothingLeftOpen front) :
    NothingLeftOpen (front ++ selectors) ↔ NothingLeftOpen selectors := by
  rw [NothingLeftOpen, List.foldl_append, closed, NothingLeftOpen]

theorem blockOpens_of_line {text sel : Bytes} (line : filterLines user = [text])
    (hides : Hides text [] sel) (safe : isSafeSelector sel = true)
    (enabled : (servingFilter user toggles).rules.enabled = true) :
    BlockOpens getDomainAndRegistry user toggles host ↔ Closes sel := by
  rw [blockOpens_iff_used, imp_iff_right enabled,
    usedSelectors_of_line getDomainAndRegistry user toggles host line hides safe]
  exact nothingLeftOpen_append (nothingLeftOpen_of_closes builtinCosmetic_closes)

/-- The block opens at the top exactly if the filter is off or the selectors that the
host gets close, read in turn, what they open. -/
theorem blockOpens_iff : BlockOpens getDomainAndRegistry user toggles host ↔
    (servingFilter user toggles).rules.enabled = false ∨
      NothingLeftOpen (usedSelectors getDomainAndRegistry (servingFilter user toggles) host) := by
  rw [blockOpens_iff_used]
  cases (servingFilter user toggles).rules.enabled <;> simp

end Served

/-- One line `##a[b` keeps a bracket open in front of every block. -/
theorem openBracket_blocks_none : ¬ ∀ getDomainAndRegistry user toggles host,
    BlockOpens getDomainAndRegistry user toggles host := by
  intro opens
  have closes : Closes "a[b".toList :=
    (blockOpens_of_line id { filters := some "##a[b\n".toList } [] "example.com".toList (by decide)
      (by decide : Hides "##a[b".toList [] _) (by decide) (servingFilter_enabled ..)).mp
      (opens _ _ _ _)
  exact absurd closes (by unfold Closes; decide +kernel)

end BlinkerFluid.CosmeticNesting
