import BlinkerFluid.CosmeticFilter

/-! What the lines of a filter file add to the selector stores. A line adds the
same in every filter, behind what is there; so a store holds what the lines of the
file yield, in their order. -/

namespace BlinkerFluid.CosmeticRules
open ByteString ContentFilter CosmeticFilter

section Fold

variable {σ ι α β : Type*} {yield : ι → List α} {step : σ → ι → σ}

/-- A fold whose every step appends what its input yields collects the yields. -/
theorem read_foldl (read : σ → List α) (adds : ∀ s i, read (step s i) = read s ++ yield i)
    (s : σ) (inputs : List ι) : read (inputs.foldl step s) = read s ++ inputs.flatMap yield := by
  induction inputs generalizing s with
  | nil => simp
  | cons i inputs ih => rw [List.foldl_cons, ih, adds, List.flatMap_cons, List.append_assoc]

theorem read_foldl_fixed (read : σ → β) (fixed : ∀ s i, read (step s i) = read s) (s : σ)
    (inputs : List ι) : read (inputs.foldl step s) = read s := by
  induction inputs generalizing s with
  | nil => rfl
  | cons i inputs ih => rw [List.foldl_cons, ih, fixed]

end Fold

/-- The line is not blank, no comment and no header. -/
def IsRuleLine (line : Bytes) : Prop := line ≠ [] ∧ line.head? ≠ some '!' ∧ line.head? ≠ some '['

instance (line : Bytes) : Decidable (IsRuleLine line) := inferInstanceAs (Decidable (_ ∧ _))

/-- `domains#@#sel`, read as an exception. -/
def Excepts (text domains sel : Bytes) : Prop :=
  IsRuleLine (trim isLineBlank text) ∧
    splitAtFirst "#@#".toList (trim isLineBlank text) = some (domains, sel)

def IsProcedural (line : Bytes) : Prop :=
  "#?#".toList <:+: line ∨ "#$#".toList <:+: line ∨ "#%#".toList <:+: line

instance (line : Bytes) : Decidable (IsProcedural line) := inferInstanceAs (Decidable (_ ∨ _))

/-- `domains##sel`, read as a hiding rule. -/
def Hides (text domains sel : Bytes) : Prop :=
  IsRuleLine (trim isLineBlank text) ∧ ¬ "#@#".toList <:+: trim isLineBlank text ∧
    ¬ IsProcedural (trim isLineBlank text) ∧
    splitAtFirst "##".toList (trim isLineBlank text) = some (domains, sel)

instance (text domains sel : Bytes) : Decidable (Excepts text domains sel) :=
  inferInstanceAs (Decidable (_ ∧ _))

instance (text domains sel : Bytes) : Decidable (Hides text domains sel) :=
  inferInstanceAs (Decidable (_ ∧ _))

/-- How a line is read, and what it does to every filter. -/
inductive Reading (text : Bytes) : Prop
  | excepts (domains sel : Bytes) (h : Excepts text domains sel)
      (parsed : ∀ filter, parseFilterLine filter text = if isSafeSelector sel then
          { filter with hostHideExceptions := appendSelector sel domains filter.hostHideExceptions }
        else filter)
  | hides (domains sel : Bytes) (h : Hides text domains sel)
      (parsed : ∀ filter, parseFilterLine filter text = if !isSafeSelector sel then filter
        else if domains.isEmpty then
          { filter with genericHideSelectors := filter.genericHideSelectors ++ [sel] }
        else { filter with hostHideSelectors := appendSelector sel domains filter.hostHideSelectors })
  | neither (unread : ∀ domains sel, ¬ Excepts text domains sel ∧ ¬ Hides text domains sel)
      (parsed : ∀ filter, parseFilterLine filter text = filter ∨
        parseFilterLine filter text = parseNetworkRule filter (trim isLineBlank text))

theorem isRuleLine_iff (line : Bytes) :
    IsRuleLine line ↔
      ¬ (line.isEmpty || line.head? = some '!' || line.head? = some '[') = true := by
  simp [IsRuleLine, and_assoc]

theorem isProcedural_iff (line : Bytes) :
    IsProcedural line ↔ (contains "#?#".toList line || contains "#$#".toList line ||
      contains "#%#".toList line) = true := by
  simp only [IsProcedural, Bool.or_eq_true, contains_iff, or_assoc]

theorem reading (text : Bytes) : Reading text := by
  by_cases rule : IsRuleLine (trim isLineBlank text)
  swap
  · refine .neither (fun _ _ => ⟨fun h => rule h.1, fun h => rule h.1⟩) fun filter => .inl ?_
    rw [isRuleLine_iff, not_not] at rule
    simp only [parseFilterLine, rule, if_true]
  have skip := (isRuleLine_iff _).mp rule
  cases except : splitAtFirst "#@#".toList (trim isLineBlank text) with
  | some parts =>
    refine .excepts parts.1 parts.2 ⟨rule, except⟩ fun filter => ?_
    simp only [parseFilterLine, skip, except]
    simp
  | none =>
    have plain : ¬ "#@#".toList <:+: trim isLineBlank text := by
      rw [← splitAtFirst_isSome_iff, except]
      exact Bool.false_ne_true
    have unexcepted (domains sel : Bytes) : ¬ Excepts text domains sel := by
      intro h
      have split := h.2
      rw [except] at split
      exact absurd split (by simp)
    by_cases procedural : IsProcedural (trim isLineBlank text)
    · refine .neither (fun _ _ => ⟨unexcepted _ _, fun h => h.2.2.1 procedural⟩) fun filter => .inl ?_
      rw [isProcedural_iff] at procedural
      simp only [parseFilterLine, skip, except, procedural]
      simp
    have supported := (isProcedural_iff _).not.mp procedural
    cases hide : splitAtFirst "##".toList (trim isLineBlank text) with
    | some parts =>
      refine .hides parts.1 parts.2 ⟨rule, plain, procedural, hide⟩ fun filter => ?_
      simp only [parseFilterLine, skip, except, supported, hide]
      simp
    | none =>
      refine .neither (fun _ _ => ⟨unexcepted _ _, fun h => ?_⟩) fun filter => .inr ?_
      · have split := h.2.2.2
        rw [hide] at split
        exact absurd split (by simp)
      · simp only [parseFilterLine, skip, except, supported, hide]
        simp

section Stores

variable (filter : BlinkerContentFilter)

/-- The selectors of a filter, the part that a style sheet reads. -/
def selectors (filter : BlinkerContentFilter) :
    List Bytes × (Bytes → List Bytes) × (Bytes → List Bytes) :=
  (filter.genericHideSelectors, filter.hostHideSelectors, filter.hostHideExceptions)

@[simp] theorem addHost_selectors (host : Bytes) :
    selectors (addHost filter host) = selectors filter := by
  unfold addHost
  split <;> rfl

@[simp] theorem addAllowedHost_selectors (host : Bytes) :
    selectors (addAllowedHost filter host) = selectors filter := by
  unfold addAllowedHost
  split <;> rfl

@[simp] theorem parseNetworkRule_selectors (line : Bytes) :
    selectors (parseNetworkRule filter line) = selectors filter := by
  rcases parseNetworkRule_cases filter line with h | ⟨_, h⟩ | ⟨_, h⟩ <;> simp [h]

@[simp] theorem parseHostsLine_selectors (text : Bytes) :
    selectors (parseHostsLine filter text) = selectors filter := by
  simp only [parseHostsLine]
  split_ifs <;> simp

/-- The selectors that a line hides everywhere, read off an empty filter. -/
def genericOf (text : Bytes) : List Bytes := (parseFilterLine {} text).genericHideSelectors

def hidesOf (key text : Bytes) : List Bytes := (parseFilterLine {} text).hostHideSelectors key

def exceptsOf (key text : Bytes) : List Bytes := (parseFilterLine {} text).hostHideExceptions key

theorem appendSelector_apply (sel domains : Bytes) (table : Bytes → List Bytes) (key : Bytes) :
    appendSelector sel domains table key = table key ++
      List.replicate ((forEachDomain domains).countP (normalizeHost · = key)) sel := by
  unfold appendSelector
  induction forEachDomain domains generalizing table with
  | nil => simp
  | cons domain rest ih =>
    rw [List.foldl_cons, ih, List.countP_cons]
    by_cases stored : normalizeHost domain = key
    · subst stored
      simp [List.replicate_succ]
    · simp [stored, Function.update_of_ne (Ne.symm stored)]

theorem appendSelector_adds (sel domains : Bytes) (table : Bytes → List Bytes) (key : Bytes) :
    appendSelector sel domains table key =
      table key ++ appendSelector sel domains (fun _ => []) key := by
  rw [appendSelector_apply, appendSelector_apply sel domains fun _ => [], List.nil_append]

theorem mem_appendSelector (sel domains key other : Bytes) :
    other ∈ appendSelector sel domains (fun _ => []) key ↔
      other = sel ∧ ∃ d ∈ forEachDomain domains, normalizeHost d = key := by
  rw [appendSelector_apply, List.nil_append, List.mem_replicate, ne_eq,
    List.countP_eq_zero]
  simp [and_comm]

theorem parseFilterLine_selectors (text : Bytes) :
    (parseFilterLine filter text).genericHideSelectors =
        filter.genericHideSelectors ++ genericOf text ∧
      (∀ key, (parseFilterLine filter text).hostHideSelectors key =
        filter.hostHideSelectors key ++ hidesOf key text) ∧
      ∀ key, (parseFilterLine filter text).hostHideExceptions key =
        filter.hostHideExceptions key ++ exceptsOf key text := by
  unfold genericOf hidesOf exceptsOf
  cases reading text with
  | excepts domains sel _ parsed =>
    simp only [parsed]
    split_ifs
    · exact ⟨by simp, by simp, appendSelector_adds sel domains _⟩
    · simp
  | hides domains sel _ parsed =>
    simp only [parsed]
    split_ifs
    · simp
    · simp
    · exact ⟨by simp, appendSelector_adds sel domains _, by simp⟩
  | neither _ parsed =>
    have same (filter : BlinkerContentFilter) :
        selectors (parseFilterLine filter text) = selectors filter := by
      rcases parsed filter with h | h <;> simp [h]
    have here := same filter
    have empty := same {}
    simp only [selectors, Prod.mk.injEq] at here empty
    simp [here, empty]

end Stores

section Yields

variable (text : Bytes)

theorem excepts_unique {domains domains' sel sel' : Bytes} (h : Excepts text domains sel)
    (h' : Excepts text domains' sel') : domains = domains' ∧ sel = sel' := by
  simpa using h.2.symm.trans h'.2

theorem hides_unique {domains domains' sel sel' : Bytes} (h : Hides text domains sel)
    (h' : Hides text domains' sel') : domains = domains' ∧ sel = sel' := by
  simpa using h.2.2.2.symm.trans h'.2.2.2

theorem not_hides_of_excepts {domains domains' sel sel' : Bytes} (h : Excepts text domains sel) :
    ¬ Hides text domains' sel' := by
  intro h'
  refine h'.2.1 ((splitAtFirst_isSome_iff _ _).mp ?_)
  rw [h.2]
  rfl

theorem yields_of_excepts {domains sel : Bytes} (h : Excepts text domains sel) (key : Bytes) :
    genericOf text = [] ∧ hidesOf key text = [] ∧ exceptsOf key text =
      if isSafeSelector sel then appendSelector sel domains (fun _ => []) key else [] := by
  unfold genericOf hidesOf exceptsOf
  cases reading text with
  | excepts domains' sel' h' parsed =>
    obtain ⟨rfl, rfl⟩ := excepts_unique text h h'
    rw [parsed]
    split_ifs <;> exact ⟨rfl, rfl, rfl⟩
  | hides domains' sel' h' => exact absurd h' (not_hides_of_excepts text h)
  | neither unread => exact absurd h (unread domains sel).1

theorem yields_of_hides {domains sel : Bytes} (h : Hides text domains sel) (key : Bytes) :
    genericOf text = (if isSafeSelector sel ∧ domains = [] then [sel] else []) ∧
      hidesOf key text = (if isSafeSelector sel ∧ domains ≠ [] then
        appendSelector sel domains (fun _ => []) key else []) ∧
      exceptsOf key text = [] := by
  unfold genericOf hidesOf exceptsOf
  cases reading text with
  | excepts domains' sel' h' => exact absurd h (not_hides_of_excepts text h')
  | hides domains' sel' h' parsed =>
    obtain ⟨rfl, rfl⟩ := hides_unique text h h'
    rw [parsed]
    cases safe : isSafeSelector sel
    · simp
    · cases domains <;> simp
  | neither unread => exact absurd h (unread domains sel).2

theorem yields_of_neither (unread : ∀ domains sel, ¬ Excepts text domains sel ∧ ¬ Hides text domains sel)
    (key : Bytes) : genericOf text = [] ∧ hidesOf key text = [] ∧ exceptsOf key text = [] := by
  unfold genericOf hidesOf exceptsOf
  cases reading text with
  | excepts domains sel h => exact absurd h (unread domains sel).1
  | hides domains sel h => exact absurd h (unread domains sel).2
  | neither _ parsed =>
    have same : selectors (parseFilterLine {} text) = selectors {} := by
      rcases parsed {} with h | h <;> simp [h]
    simp only [selectors, Prod.mk.injEq] at same
    simp [same]

theorem mem_genericOf_iff (sel : Bytes) :
    sel ∈ genericOf text ↔ isSafeSelector sel = true ∧ Hides text [] sel := by
  cases reading text with
  | excepts domains sel' h =>
    simp [(yields_of_excepts text h []).1, not_hides_of_excepts text h]
  | hides domains sel' h =>
    rw [(yields_of_hides text h []).1]
    constructor
    · intro mem
      split_ifs at mem with stored
      · obtain rfl := List.mem_singleton.mp mem
        exact ⟨stored.1, stored.2 ▸ h⟩
      · exact absurd mem List.not_mem_nil
    · rintro ⟨safe, h'⟩
      obtain ⟨rfl, rfl⟩ := hides_unique text h h'
      simp [safe]
  | neither unread => simp [(yields_of_neither text unread []).1, (unread [] sel).2]

theorem mem_hidesOf_iff (key sel : Bytes) :
    sel ∈ hidesOf key text ↔ isSafeSelector sel = true ∧ ∃ domains, domains ≠ [] ∧
      Hides text domains sel ∧ ∃ d ∈ forEachDomain domains, normalizeHost d = key := by
  cases reading text with
  | excepts domains sel' h =>
    simp [(yields_of_excepts text h key).2.1, not_hides_of_excepts text h]
  | hides domains sel' h =>
    rw [(yields_of_hides text h key).2.1]
    constructor
    · intro mem
      split_ifs at mem with stored
      · obtain ⟨rfl, listed⟩ := (mem_appendSelector _ _ _ _).mp mem
        exact ⟨stored.1, domains, stored.2, h, listed⟩
      · exact absurd mem List.not_mem_nil
    · rintro ⟨safe, domains', limited, h', listed⟩
      obtain ⟨rfl, rfl⟩ := hides_unique text h h'
      rw [if_pos ⟨safe, limited⟩]
      exact (mem_appendSelector _ _ _ _).mpr ⟨rfl, listed⟩
  | neither unread => simp [(yields_of_neither text unread key).2.1, unread]

theorem mem_exceptsOf_iff (key sel : Bytes) :
    sel ∈ exceptsOf key text ↔ isSafeSelector sel = true ∧ ∃ domains,
      Excepts text domains sel ∧ ∃ d ∈ forEachDomain domains, normalizeHost d = key := by
  cases reading text with
  | excepts domains sel' h =>
    rw [(yields_of_excepts text h key).2.2]
    constructor
    · intro mem
      split_ifs at mem with safe
      · obtain ⟨rfl, listed⟩ := (mem_appendSelector _ _ _ _).mp mem
        exact ⟨safe, domains, h, listed⟩
      · exact absurd mem List.not_mem_nil
    · rintro ⟨safe, domains', h', listed⟩
      obtain ⟨rfl, rfl⟩ := excepts_unique text h h'
      rw [if_pos safe]
      exact (mem_appendSelector _ _ _ _).mpr ⟨rfl, listed⟩
  | hides domains sel' h =>
    have unexcepted (domains : Bytes) : ¬ Excepts text domains sel :=
      fun h' => not_hides_of_excepts text h' h
    simp [(yields_of_hides text h key).2.2, unexcepted]
  | neither unread => simp [(yields_of_neither text unread key).2.2, unread]

end Yields

section Loading

variable (user : UserData) (toggles : List Bool)

def filterLines (user : UserData) : List Bytes := (user.filters.map fileLines).getD []

theorem loadBuiltinList_selectors :
    selectors (loadBuiltinList {}) = (builtinCosmetic, fun _ => [], fun _ => []) := by
  have kept := read_foldl_fixed selectors addHost_selectors {}
    (kBuiltinBlocklist.map String.toList)
  simp only [selectors, Prod.mk.injEq] at kept
  simp only [loadBuiltinList, selectors, kept, List.nil_append]

theorem loadUserListFromDisk_selectors (rules : BlinkerContentFilter) :
    selectors (loadUserListFromDisk user rules) = selectors rules := by
  unfold loadUserListFromDisk
  split
  · exact read_foldl_fixed selectors parseHostsLine_selectors rules _
  · rfl

theorem loadFilterListsFromDisk_eq (rules : BlinkerContentFilter) :
    loadFilterListsFromDisk user rules = (filterLines user).foldl parseFilterLine rules := by
  unfold loadFilterListsFromDisk filterLines
  cases user.filters <;> rfl

def fileText (lines : List Bytes) : Bytes := lines.flatMap (· ++ ['\n'])

theorem fileLines_fileText (lines : List Bytes) (single : ∀ line ∈ lines, '\n' ∉ line) :
    fileLines (fileText lines) = lines := by
  have pieces : (fileText lines).splitOn '\n' = lines ++ [[]] := by
    induction lines with
    | nil => rfl
    | cons line lines ih =>
      have rest := ih fun other mem => single other (List.mem_cons_of_mem _ mem)
      rw [fileText] at rest ⊢
      rw [List.flatMap_cons, List.append_assoc, List.singleton_append,
        List.splitOn_append_cons_self_of_not_mem (single line List.mem_cons_self), rest]
      rfl
  simp [fileLines, pieces]

/-- A user with nothing but a filter file, the toggle never touched. -/
def fileUser (lines : List Bytes) : UserData := { filters := some (fileText lines) }

theorem filterLines_fileUser {lines : List Bytes} (single : ∀ line ∈ lines, '\n' ∉ line) :
    filterLines (fileUser lines) = lines :=
  fileLines_fileText lines single

/-- The line stands somewhere in the filter file of `longer`, and but for it the two
users have the same data. -/
def InsertsLine (text : Bytes) (user longer : UserData) : Prop :=
  longer.blocklist = user.blocklist ∧ longer.blinkAdBlock = user.blinkAdBlock ∧
    ∃ before behind, filterLines user = before ++ behind ∧
      filterLines longer = before ++ text :: behind

theorem flatMap_filterLines_of_inserts {α : Type*} {text : Bytes} {user longer : UserData}
    (inserted : InsertsLine text user longer) (yield : Bytes → List α) :
    ∃ before behind, (filterLines user).flatMap yield = before ++ behind ∧
      (filterLines longer).flatMap yield = before ++ yield text ++ behind := by
  obtain ⟨_, _, before, behind, shorter_lines, longer_lines⟩ := inserted
  refine ⟨before.flatMap yield, behind.flatMap yield, ?_, ?_⟩
  · rw [shorter_lines, List.flatMap_append]
  · rw [longer_lines, List.flatMap_append, List.flatMap_cons, List.append_assoc]

theorem servingFilter_eq :
    servingFilter user toggles =
      { ensureLoaded user {} with
        rules := setEnabled (ensureLoaded user {}).rules
          (toggles.getLast?.getD (user.blinkAdBlock.getD true)) } := by
  unfold servingFilter
  induction toggles using List.reverseRecOn with
  | nil => rfl
  | append_singleton toggles enabled ih =>
    rw [List.foldl_append, ih]
    simp [blinkAdBlockSetEnabled, setEnabled]

theorem ensureLoaded_rules :
    (ensureLoaded user {}).rules =
      setEnabled ((filterLines user).foldl parseFilterLine
        (loadUserListFromDisk user (loadBuiltinList {}))) (user.blinkAdBlock.getD true) := by
  simp only [ensureLoaded, buildGenericCSS, loadFilterListsFromDisk_eq]
  rfl

theorem loadedRules_selectors :
    selectors (loadUserListFromDisk user (loadBuiltinList {})) =
      (builtinCosmetic, fun _ => [], fun _ => []) := by
  rw [loadUserListFromDisk_selectors, loadBuiltinList_selectors]

/-- A store to which every line appends its yield holds the yields of the file, in order. -/
theorem servingFilter_read (read : BlinkerContentFilter → List Bytes)
    {yield : Bytes → List Bytes} {initial : List Bytes}
    (toggled : ∀ rules enabled, read (setEnabled rules enabled) = read rules)
    (adds : ∀ filter text, read (parseFilterLine filter text) = read filter ++ yield text)
    (start : read (loadUserListFromDisk user (loadBuiltinList {})) = initial) :
    read (servingFilter user toggles).rules = initial ++ (filterLines user).flatMap yield := by
  have folded := read_foldl read adds (loadUserListFromDisk user (loadBuiltinList {}))
    (filterLines user)
  rw [servingFilter_eq, toggled, ensureLoaded_rules, toggled, folded, start]

theorem servingFilter_generic :
    (servingFilter user toggles).rules.genericHideSelectors =
      builtinCosmetic ++ (filterLines user).flatMap genericOf :=
  servingFilter_read user toggles (·.genericHideSelectors) (fun _ _ => rfl)
    (fun filter text => (parseFilterLine_selectors filter text).1)
    (congrArg Prod.fst (loadedRules_selectors user))

theorem servingFilter_hides (key : Bytes) :
    (servingFilter user toggles).rules.hostHideSelectors key =
      (filterLines user).flatMap (hidesOf key) :=
  servingFilter_read user toggles (fun rules => rules.hostHideSelectors key) (fun _ _ => rfl)
    (fun filter text => (parseFilterLine_selectors filter text).2.1 key)
    (congrFun (congrArg (·.2.1) (loadedRules_selectors user)) key)

theorem servingFilter_excepts (key : Bytes) :
    (servingFilter user toggles).rules.hostHideExceptions key =
      (filterLines user).flatMap (exceptsOf key) :=
  servingFilter_read user toggles (fun rules => rules.hostHideExceptions key) (fun _ _ => rfl)
    (fun filter text => (parseFilterLine_selectors filter text).2.2 key)
    (congrFun (congrArg (·.2.2) (loadedRules_selectors user)) key)

theorem servingFilter_css :
    (servingFilter user toggles).genericHideCss = SeparatedJoin.joinInto ',' []
      ((servingFilter user toggles).rules.genericHideSelectors.take kMaxGeneric) := by
  rw [servingFilter_eq]
  rfl

theorem servingFilter_enabled :
    (servingFilter user toggles).rules.enabled =
      toggles.getLast?.getD (user.blinkAdBlock.getD true) := by
  rw [servingFilter_eq]
  rfl

end Loading

end BlinkerFluid.CosmeticRules
