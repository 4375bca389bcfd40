import BlinkerFluid.JitRecord

/-! Runs of calls into the record of executable memory. The calls that end the process
are exactly those the record does not admit, whatever pages have been merged or split
before. -/

namespace BlinkerFluid.JitRuns
open JitPages JitRecord OrderedMap PageSpan SpanMap StepRun

variable {pages : JitPageMap} {r : Record}

theorem keeps_trim (held : Keeps pages r) {address stop : ℕ} {page : JitPage}
    (stored : pages.get? address = some page) (lower : address < stop)
    (upper : stop ≤ address + page.size) :
    ∃ trimmed rest, (if stop < address + page.size then cutTail pages address page stop
        else pages) = trimmed ∧
      Keeps trimmed r ∧
      (∀ but, Inside but pages → (∀ key allocation, r.allocations.get? key = some allocation →
        key < stop → stop < key + allocation.size → but key) → Inside but trimmed) ∧
      trimmed.get? address = some rest ∧ address + rest.size = stop ∧
      ∀ key, key < address → trimmed.get? key = pages.get? key := by
  by_cases tail : stop < address + page.size
  · refine ⟨_, ⟨stop - address, page.allocations.keep fun k => k < stop⟩, if_pos tail,
      keeps_cutTail held stored lower tail,
      fun but inside clear => inside_cutTail held inside stored lower tail clear, ?_, ?_,
      fun key less => ?_⟩
    · rw [get?_cutTail held stored lower tail, if_neg (by omega), if_pos rfl]
    · simp only
      omega
    · rw [get?_cutTail held stored lower tail, if_neg (by omega), if_neg (by omega)]
  · exact ⟨pages, page, if_neg tail, held, fun _ inside _ => inside, stored, by omega,
      fun _ _ => rfl⟩

theorem no_straddler {allocations : KeyMap ℕ JitAllocation} {cut : ℕ}
    (clear : ¬Straddles allocations cut) (key : ℕ) (allocation : JitAllocation)
    (found : allocations.get? key = some allocation) (low : key < cut)
    (high : cut < key + allocation.size) : False :=
  clear ⟨key, allocation, found, low, high⟩

theorem splitJitPage_cases (held : Keeps pages r) {addr size : ℕ}
    (words : addr < 2 ^ 64 ∧ size < 2 ^ 64) :
    (splitJitPage pages addr size = none ∧ ¬r.Spans addr size) ∨
    ∃ pages' page, splitJitPage pages addr size = some (pages', addr, page) ∧
      r.Spans addr size ∧ Keeps pages' r ∧ pages'.get? addr = some page ∧ page.size = size ∧
      (AllInside pages → ¬Straddles r.allocations addr → ¬Straddles r.allocations (addr + size) →
        AllInside pages') ∧
      ∀ key page, pages.get? key = some page → key + page.size ≤ addr →
        pages'.get? key = some page := by
  rcases lookupJitPage_cases held words with
    ⟨failed, missing⟩ | ⟨found, address, page, looked, spans, held', inside', stored, lower, upper,
      before⟩
  · exact .inl ⟨by simp [splitJitPage, failed], missing⟩
  · have nonempty := spans.nonempty
    obtain ⟨trimmed, rest, trim, trimHeld, trimInside, restStored, restSize, trimBefore⟩ :=
      keeps_trim held' stored (show address < addr + size by omega) upper
    have kept : ∀ key other, pages.get? key = some other → key + other.size ≤ addr →
        key < address ∧ trimmed.get? key = some other := by
      intro key other storedKey ends
      obtain ⟨less, same⟩ := before key other storedKey ends
      exact ⟨less, (trimBefore key less).trans same⟩
    have tail : (0 < page.size - size - (addr - address)) = (addr + size < address + page.size) :=
      propext (by omega)
    by_cases head : 0 < addr - address
    · have cut : (cutTail trimmed address rest addr).get? addr =
          some ⟨address + rest.size - addr, rest.allocations.keep fun k => addr ≤ k⟩ := by
        rw [get?_cutTail trimHeld restStored (by omega) (by omega), if_pos rfl]
      refine .inr ⟨cutTail trimmed address rest addr, _, ?_, spans,
        keeps_cutTail trimHeld restStored (by omega) (by omega), cut, by simp only; omega, ?_, ?_⟩
      · simp only [splitJitPage, looked, tail, trim, restStored, if_pos head, cut,
          Option.bind_eq_bind, Option.bind_some, Option.pure_def]
      · intro inside clear clear'
        exact inside_cutTail trimHeld (trimInside _ (inside' _ inside) (no_straddler clear'))
          restStored (by omega) (by omega) (no_straddler clear)
      · intro key other storedKey ends
        obtain ⟨less, same⟩ := kept key other storedKey ends
        rw [get?_cutTail trimHeld restStored (by omega) (by omega), if_neg (by omega),
          if_neg (by omega), same]
    · have same : address = addr := by omega
      subst same
      refine .inr ⟨trimmed, rest, ?_, spans, trimHeld, restStored, by omega,
        fun inside _ clear => trimInside _ (inside' _ inside) (no_straddler clear),
        fun key other storedKey ends => (kept key other storedKey ends).2⟩
      simp only [splitJitPage, looked, tail, trim, restStored, if_neg head,
        Option.bind_eq_bind, Option.bind_some, Option.pure_def]

theorem unregisterJitPage_cases (held : Keeps pages r) {addr size : ℕ}
    (words : addr < 2 ^ 64 ∧ size < 2 ^ 64) :
    (unregisterJitPage pages addr size = none ∧ ¬r.Spans addr size) ∨
    ∃ pages', unregisterJitPage pages addr size = some pages' ∧ r.Spans addr size ∧
      Keeps pages' (r.release addr size) ∧
      ∀ but, Inside but pages → (∀ key allocation, r.allocations.get? key = some allocation →
        key < addr → addr < key + allocation.size → but key) → Inside but pages' := by
  rcases lookupJitPage_cases held words with
    ⟨failed, missing⟩ | ⟨found, address, page, looked, spans, held', inside', stored, lower, upper,
      before⟩
  · exact .inl ⟨by simp [unregisterJitPage, failed], missing⟩
  · have nonempty := spans.nonempty
    obtain ⟨trimmed, rest, trim, trimHeld, trimInside, restStored, restSize, trimBefore⟩ :=
      keeps_trim held' stored (show address < addr + size by omega) upper
    -- What starts in the range is about to go as well.
    have widen : ∀ {but : ℕ → Prop}, Inside but pages →
        Inside (fun key => but key ∨ addr ≤ key ∧ key < addr + size) pages :=
      fun inside a p key allocation storedA found stays =>
        inside a p key allocation storedA found fun gone => stays (.inl gone)
    have straddlers : ∀ {but : ℕ → Prop}, (∀ key allocation,
        r.allocations.get? key = some allocation → key < addr → addr < key + allocation.size →
        but key) → ∀ key allocation, r.allocations.get? key = some allocation → key < addr + size →
        addr + size < key + allocation.size → but key ∨ addr ≤ key ∧ key < addr + size := by
      intro but clear key allocation stored low high
      by_cases before : key < addr
      · exact .inl (clear key allocation stored before (by omega))
      · exact .inr ⟨by omega, low⟩
    have released : ∀ {but : ℕ → Prop} {after : JitPageMap}, Keeps after (r.release addr size) →
        Inside (fun key => but key ∨ addr ≤ key ∧ key < addr + size) after → Inside but after := by
      intro but after kept inside a p key allocation storedA found stays
      refine inside a p key allocation storedA found ?_
      rintro (gone | within)
      · exact stays gone
      · have known := (kept.allocations key allocation).mpr ⟨a, p, storedA, found⟩
        rw [Record.release, KeyMap.get?_keep, if_neg (not_not_intro within)] at known
        cases known
    by_cases first : addr = address
    · subst first
      obtain ⟨erased, erasedInside⟩ := keeps_erasePage trimHeld restStored
      have size' : rest.size = size := by omega
      rw [size'] at erased
      refine .inr ⟨trimmed.erase addr, ?_, spans, erased, ?_⟩
      · simp only [unregisterJitPage, looked, trim, restStored, if_true, Option.bind_eq_bind,
          Option.bind_some, Option.pure_def]
      · exact fun but inside clear => released erased (erasedInside _
          (trimInside _ (inside' _ (widen inside)) (straddlers clear)))
    · -- What is cut off the page is the range itself.
      have cut : (cutTail trimmed address rest addr).get? addr =
          some ⟨address + rest.size - addr, rest.allocations.keep fun k => addr ≤ k⟩ := by
        rw [get?_cutTail trimHeld restStored (by omega) (by omega), if_pos rfl]
      have cutHeld := keeps_cutTail trimHeld restStored (show address < addr by omega) (by omega)
      obtain ⟨erased, erasedInside⟩ := keeps_erasePage cutHeld cut
      have size' : address + rest.size - addr = size := by omega
      simp only [size'] at erased
      have shrunk : trimmed.set address (shrink rest address size).1 =
          (cutTail trimmed address rest addr).erase addr := by
        have absent : trimmed.get? addr = none := by
          cases hit : trimmed.get? addr with
          | none => rfl
          | some other =>
            have := trimHeld.beside restStored hit first
            have := (trimHeld.words _ _ hit).1
            omega
        have head : rest.size - size = addr - address := by omega
        have stop : address + (addr - address) = addr := by omega
        apply KeyMap.ext_get?
        intro key
        rw [KeyMap.get?_erase, get?_cutTail trimHeld restStored (by omega) (by omega),
          KeyMap.get?_set, shrink]
        by_cases here : key = addr
        · subst here
          simp [first, absent]
        · simp [here, head, stop]
      refine .inr ⟨trimmed.set address (shrink rest address size).1, ?_, spans, ?_, ?_⟩
      · simp only [unregisterJitPage, looked, trim, restStored, if_neg first,
          Option.bind_eq_bind, Option.bind_some, Option.pure_def]
      · rw [shrunk]
        exact erased
      · intro but inside clear
        rw [shrunk]
        exact released erased (erasedInside _ (inside_cutTail trimHeld
          (trimInside _ (inside' _ (widen inside)) (straddlers clear)) restStored (by omega)
          (by omega)
          fun key allocation stored low high => .inl (clear key allocation stored low high)))

def unregisterJitPages : JitPageMap → List Range → Option JitPageMap
  | pages, [] => some pages
  | pages, range :: ranges => do
    let pages ← unregisterJitPage pages range.addr range.size
    unregisterJitPages pages ranges

def SpansEach : Record → List Range → Prop
  | _, [] => True
  | r, range :: ranges =>
    r.Spans range.addr range.size ∧ SpansEach (r.release range.addr range.size) ranges

def releaseEach (r : Record) (ranges : List Range) : Record :=
  ranges.foldl (fun r range => r.release range.addr range.size) r

theorem releaseEach_cons (r : Record) (range : Range) (ranges : List Range) :
    releaseEach r (range :: ranges) = releaseEach (r.release range.addr range.size) ranges := rfl

theorem get?_releaseEach (r : Record) (ranges : List Range) {key : ℕ} {allocation : JitAllocation} :
    (releaseEach r ranges).allocations.get? key = some allocation ↔
      r.allocations.get? key = some allocation ∧
        ∀ range ∈ ranges, ¬(range.addr ≤ key ∧ key < range.addr + range.size) := by
  induction ranges generalizing r with
  | nil => simp [releaseEach]
  | cons range ranges ih =>
    rw [releaseEach_cons, ih, Record.release, KeyMap.get?_keep, List.forall_mem_cons]
    by_cases within : range.addr ≤ key ∧ key < range.addr + range.size
    · rw [if_neg (not_not_intro within)]
      refine ⟨fun all => ?_, fun all => absurd within all.2.1⟩
      cases all.1
    · rw [if_pos within]
      exact ⟨fun all => ⟨all.1, within, all.2⟩, fun all => ⟨all.1, all.2.2⟩⟩

theorem unregisterJitPages_cases (held : Keeps pages r) {but : ℕ → Prop} (inside : Inside but pages)
    {ranges : List Range} (clear : ∀ range ∈ ranges, ∀ key allocation,
      r.allocations.get? key = some allocation → key < range.addr →
      range.addr < key + allocation.size → but key) :
    (unregisterJitPages pages ranges = none ∧ ¬SpansEach r ranges) ∨
    ∃ pages', unregisterJitPages pages ranges = some pages' ∧ SpansEach r ranges ∧
      Keeps pages' (releaseEach r ranges) ∧ Inside but pages' := by
  induction ranges generalizing pages r with
  | nil => exact .inr ⟨pages, rfl, trivial, held, inside⟩
  | cons range ranges ih =>
    rcases unregisterJitPage_cases held range.words with
      ⟨failed, missing⟩ | ⟨pages', done, spans, held', inside'⟩
    · exact .inl ⟨by simp [unregisterJitPages, failed], fun all => missing all.1⟩
    · rcases ih held' (inside' but inside (clear range List.mem_cons_self))
        (fun other mem key allocation found => by
          rw [Record.release, KeyMap.get?_keep] at found
          split_ifs at found
          exact clear other (List.mem_cons_of_mem _ mem) key allocation found) with
        ⟨failed, missing⟩ | ⟨pages'', done', spans', held'', inside''⟩
      · exact .inl ⟨by simp [unregisterJitPages, done, failed], fun all => missing all.2⟩
      · exact .inr ⟨pages'', by simp [unregisterJitPages, done, done'], ⟨spans, spans'⟩, held'',
          inside''⟩

def allocateAll (type : JitAllocationType) : Record → ℕ → List ℕ → Record
  | r, _, [] => r
  | r, start, size :: sizes => allocateAll type (r.allocate start size type) (start + size) sizes

theorem unused_append (allocations : KeyMap ℕ JitAllocation) (addr first second : ℕ) :
    Unused allocations addr (first + second) ↔
      Unused allocations addr first ∧ Unused allocations (addr + first) second :=
  uncovered_append _ _ _ _

theorem unused_allocate {addr size next rest : ℕ} {type : JitAllocationType}
    (after : addr + size ≤ next) (absent : r.allocations.get? addr = none) :
    Unused (r.allocate addr size type).allocations next rest ↔
      Unused r.allocations next rest := by
  refine forall_congr' fun x => forall_congr' fun from_x => forall_congr' fun to_x => not_congr ?_
  constructor
  · rintro ⟨key, allocation, found, low, high⟩
    rw [Record.allocate, KeyMap.get?_set] at found
    split_ifs at found with here
    · cases found
      simp only at high
      omega
    · exact ⟨key, allocation, found, low, high⟩
  · rintro ⟨key, allocation, found, low, high⟩
    refine ⟨key, allocation, ?_, low, high⟩
    rw [Record.allocate, KeyMap.get?_set, if_neg, found]
    rintro rfl
    rw [absent] at found
    cases found

theorem registerEach_cases (type : JitAllocationType) {address : ℕ} {page : JitPage} {start : ℕ}
    {sizes : List ℕ} (held : Keeps pages r) (stored : pages.get? address = some page)
    (clear : ¬Straddles r.allocations address) (lower : address ≤ start)
    (upper : start + sizes.sum ≤ address + page.size) :
    (registerEach address type page start sizes = none ∧
      ¬((∀ size ∈ sizes, 0 < size) ∧ Unused r.allocations start sizes.sum)) ∨
    ∃ page', registerEach address type page start sizes = some page' ∧
      (∀ size ∈ sizes, 0 < size) ∧ Unused r.allocations start sizes.sum ∧
      Keeps (pages.set address page') (allocateAll type r start sizes) ∧
      (AllInside pages → AllInside (pages.set address page')) := by
  induction sizes generalizing pages r page start with
  | nil =>
    have same : pages.set address page = pages := by
      apply KeyMap.ext_get?
      intro key
      rw [KeyMap.get?_set]
      split_ifs with here
      · rw [here, stored]
      · rfl
    refine .inr ⟨page, rfl, by simp, fun x low high => ?_, ?_, ?_⟩
    · simp only [List.sum_nil] at high
      omega
    · rw [same]
      exact held
    · rw [same]
      exact id
  | cons size sizes ih =>
    rw [List.sum_cons] at upper
    have fits := (held.words _ _ stored).2
    by_cases positive : 0 < size
    · have first := registerAllocation_cases type (held.page_apart stored) lower positive
        (show start + size ≤ address + page.size by omega) fits
        (fun key allocation found => (held.starts _ _ _ _ stored found).2.2)
      rw [unused_page_iff held stored clear lower (by omega)] at first
      rcases first with ⟨failed, meets⟩ | ⟨done, unused⟩
      · refine .inl ⟨by simp [registerEach, failed], fun all => meets ?_⟩
        rw [List.sum_cons, unused_append] at all
        exact all.2.1
      · have absent : r.allocations.get? start = none := by
          cases found : r.allocations.get? start with
          | none => rfl
          | some other =>
            have := held.positive found
            exact absurd ⟨start, other, found, le_rfl, by omega⟩ (unused start le_rfl (by omega))
        obtain ⟨held', inside'⟩ := keeps_allocate held type stored lower positive (by omega) unused
        have stored' : (pages.set address
            ⟨page.size, page.allocations.set start ⟨size, type⟩⟩).get? address =
            some ⟨page.size, page.allocations.set start ⟨size, type⟩⟩ := by simp
        have clear' : ¬Straddles (r.allocate start size type).allocations address := by
          rintro ⟨key, allocation, found, low, high⟩
          rw [Record.allocate, KeyMap.get?_set, if_neg (by omega)] at found
          exact clear ⟨key, allocation, found, low, high⟩
        have rest := ih held' stored' clear' (show address ≤ start + size by omega)
          (by simp only; omega)
        rw [unused_allocate (le_refl _) absent] at rest
        have unfolded : registerEach address type page start (size :: sizes) =
            registerEach address type ⟨page.size, page.allocations.set start ⟨size, type⟩⟩
              (start + size) sizes := by
          simp [registerEach, done]
        have overwritten : ∀ q, (pages.set address
            ⟨page.size, page.allocations.set start ⟨size, type⟩⟩).set address q =
            pages.set address q := by
          intro q
          apply KeyMap.ext_get?
          intro key
          rw [KeyMap.get?_set, KeyMap.get?_set, KeyMap.get?_set]
          split_ifs <;> rfl
        rw [unfolded, List.sum_cons, unused_append, List.forall_mem_cons]
        rcases rest with ⟨failed, meets⟩ | ⟨page', done', positives, unused', held'', inside''⟩
        · exact .inl ⟨failed, fun all => meets ⟨all.1.2, all.2.2⟩⟩
        · rw [overwritten] at held'' inside''
          exact .inr ⟨page', done', ⟨positive, positives⟩, ⟨unused, unused'⟩, held'',
            fun inside => inside'' (inside' inside)⟩
    · have zero : size = 0 := by omega
      refine .inl ⟨?_, fun all => positive (all.1 size List.mem_cons_self)⟩
      have offset : wrap (start - address) = start - address := wrap_eq (by omega)
      subst zero
      by_cases ge : address ≤ start <;>
        simp [registerEach, registerAllocation, check, ge, offset]

/-- A call that went through left what the record holds, inside its pages. -/
def Leaves (outcome : Option JitPageMap) (admitted : Prop) (r : Record) : Prop :=
  (outcome = none ∧ ¬admitted) ∨ ∃ pages, outcome = some pages ∧ admitted ∧ Tracks pages r

theorem registerJitPage_leaves (tracks : Tracks pages r) {addr size : ℕ} (nonempty : 0 < size)
    (fits : addr + size < 2 ^ 64) :
    Leaves (registerJitPage pages addr size)
      (∀ x, addr ≤ x → x < addr + size → ¬r.registered x) (r.register addr size) := by
  have overlap := checkForRegionOverlap_iff tracks.apart
    (fun a q stored => (tracks.words a q stored).1) fits nonempty
  have fresh : Uncovered JitPage.size pages addr size ↔
      ∀ x, addr ≤ x → x < addr + size → ¬r.registered x := by
    simp only [Uncovered, tracks.registered]
  cases done : checkForRegionOverlap JitPage.size pages addr size with
  | none =>
    refine .inl ⟨by simp [registerJitPage, done], fun free => ?_⟩
    rw [overlap.mpr (fresh.mpr free)] at done
    cases done
  | some u =>
    obtain ⟨held, inside⟩ := keeps_newPage tracks.toKeeps nonempty fits (overlap.mp done)
    exact .inr ⟨_, by simp [registerJitPage, done], fresh.mp (overlap.mp done), held,
      inside tracks.inside⟩

theorem registerJitAllocation_leaves (tracks : Tracks pages r) {addr size : ℕ}
    (words : addr < 2 ^ 64 ∧ size < 2 ^ 64) (type : JitAllocationType) :
    Leaves (registerJitAllocation pages addr size type)
      (r.Spans addr size ∧ Unused r.allocations addr size) (r.allocate addr size type) := by
  rcases lookupJitPage_cases tracks.toKeeps words with
    ⟨failed, missing⟩ | ⟨found, address, page, looked, spans, held, inside, stored, lower, upper, -⟩
  · exact .inl ⟨by simp [registerJitAllocation, failed], fun all => missing all.1⟩
  · have tracks' : Tracks found r := ⟨held, inside _ tracks.inside⟩
    have made := registerAllocation_cases type (held.page_apart stored) lower spans.nonempty upper
      (held.words _ _ stored).2
      (fun key allocation found => (held.starts _ _ _ _ stored found).2.2)
    rw [unused_page_iff held stored (tracks'.clear_start stored) lower upper] at made
    rcases made with ⟨failed, meets⟩ | ⟨done, unused⟩
    · exact .inl ⟨by simp [registerJitAllocation, looked, failed], fun all => meets all.2⟩
    · obtain ⟨held', inside'⟩ := keeps_allocate held type stored lower spans.nonempty upper unused
      exact .inr ⟨_, by simp [registerJitAllocation, looked, done], ⟨spans, unused⟩, held',
        inside' tracks'.inside⟩

theorem lookupJitAllocation_leaves (tracks : Tracks pages r) {addr size : ℕ}
    (words : addr < 2 ^ 64 ∧ size < 2 ^ 64) (type : JitAllocationType) :
    Leaves (lookupJitAllocation pages addr size type)
      (r.Spans addr size ∧ r.allocations.get? addr = some ⟨size, type⟩) r := by
  rcases lookupJitPage_cases tracks.toKeeps words with
    ⟨failed, missing⟩ | ⟨found, address, page, looked, spans, held, inside, stored, lower, upper, -⟩
  · exact .inl ⟨by simp [lookupJitAllocation, failed], fun all => missing all.1⟩
  · have nonempty := spans.nonempty
    have same := held.get?_of_start stored lower (by omega)
    by_cases here : r.allocations.get? addr = some ⟨size, type⟩
    · refine .inr ⟨found, ?_, ⟨spans, here⟩, held, inside _ tracks.inside⟩
      simp [lookupJitAllocation, lookupAllocation, looked, same, here, check]
    · refine .inl ⟨?_, fun all => here all.2⟩
      cases hit : r.allocations.get? addr with
      | none => simp [lookupJitAllocation, lookupAllocation, looked, same, hit]
      | some allocation =>
        obtain ⟨size', type'⟩ := allocation
        by_cases sameSize : size' = size
        · have otherType : type' ≠ type := by
            rintro rfl
            exact here (sameSize ▸ hit)
          simp [lookupJitAllocation, lookupAllocation, looked, same, hit, check, sameSize,
            otherType]
        · simp [lookupJitAllocation, lookupAllocation, looked, same, hit, check, sameSize]

theorem clear_of_unused {allocations : KeyMap ℕ JitAllocation} {addr size : ℕ}
    (nonempty : 0 < size) (unused : Unused allocations addr size) :
    ¬Straddles allocations addr ∧ ¬Straddles allocations (addr + size) := by
  constructor
  · rintro ⟨key, allocation, found, low, high⟩
    exact unused addr le_rfl (by omega) ⟨key, allocation, found, by omega, high⟩
  · rintro ⟨key, allocation, found, low, high⟩
    exact unused (addr + size - 1) (by omega) (by omega)
      ⟨key, allocation, found, by omega, by omega⟩

/-- A large batch is not checked against an allocation that straddles its start. -/
def BatchChecked (r : Record) (start : ℕ) (sizes : List ℕ) : Prop :=
  sizes.sum < 2 ^ 64 ∧ (kSplitThreshold ≤ sizes.sum → ¬Straddles r.allocations start)

theorem registerJitAllocations_leaves (tracks : Tracks pages r) {start : ℕ} {sizes : List ℕ}
    (word : start < 2 ^ 64) (checked : BatchChecked r start sizes) (type : JitAllocationType) :
    Leaves (registerJitAllocations pages start sizes type)
      (r.Spans start sizes.sum ∧ (∀ size ∈ sizes, 0 < size) ∧ Unused r.allocations start sizes.sum)
      (allocateAll type r start sizes) := by
  have total : wrap sizes.sum = sizes.sum := wrap_eq checked.1
  by_cases large : kSplitThreshold ≤ sizes.sum
  · rcases splitJitPage_cases tracks.toKeeps ⟨word, checked.1⟩ with
      ⟨failed, missing⟩ | ⟨found, page, looked, spans, held, stored, size, inside, -⟩
    · exact .inl ⟨by simp [registerJitAllocations, total, large, failed], fun all => missing all.1⟩
    · rcases registerEach_cases type held stored (checked.2 large) le_rfl
        (show start + sizes.sum ≤ start + page.size by omega) with
        ⟨failed, meets⟩ | ⟨page', done, positive, unused, held', inside'⟩
      · exact .inl ⟨by simp [registerJitAllocations, total, large, looked, failed],
          fun all => meets all.2⟩
      · have clear := clear_of_unused spans.nonempty unused
        exact .inr ⟨_, by simp [registerJitAllocations, total, large, looked, done],
          ⟨spans, positive, unused⟩, held', inside' (inside tracks.inside clear.1 clear.2)⟩
  · rcases lookupJitPage_cases tracks.toKeeps ⟨word, checked.1⟩ with
      ⟨failed, missing⟩ |
      ⟨found, address, page, looked, spans, held, inside, stored, lower, upper, -⟩
    · exact .inl ⟨by simp [registerJitAllocations, total, large, failed], fun all => missing all.1⟩
    · have tracks' : Tracks found r := ⟨held, inside _ tracks.inside⟩
      rcases registerEach_cases type held stored (tracks'.clear_start stored) lower upper with
        ⟨failed, meets⟩ | ⟨page', done, positive, unused, held', inside'⟩
      · exact .inl ⟨by simp [registerJitAllocations, total, large, looked, failed],
          fun all => meets all.2⟩
      · exact .inr ⟨_, by simp [registerJitAllocations, total, large, looked, done],
          ⟨spans, positive, unused⟩, held', inside' tracks'.inside⟩

theorem unregisterWasmAllocation_leaves (tracks : Tracks pages r) {addr size : ℕ}
    (words : addr < 2 ^ 64 ∧ size < 2 ^ 64) :
    Leaves (unregisterWasmAllocation pages addr size)
      (r.Spans addr size ∧ (r.allocations.get? addr).isSome)
      (r.keepAllocations fun key => key ≠ addr) := by
  rcases lookupJitPage_cases tracks.toKeeps words with
    ⟨failed, missing⟩ | ⟨found, address, page, looked, spans, held, inside, stored, lower, upper, -⟩
  · exact .inl ⟨by simp [unregisterWasmAllocation, failed], fun all => missing all.1⟩
  · have nonempty := spans.nonempty
    have same := held.get?_of_start stored lower (by omega)
    by_cases here : (r.allocations.get? addr).isSome
    · obtain ⟨held', inside'⟩ := keeps_drop held stored (fun key => key ≠ addr)
        (fun key outside => by rintro rfl; exact outside ⟨lower, by omega⟩)
      refine .inr ⟨_, ?_, ⟨spans, here⟩, held', inside' (inside _ tracks.inside)⟩
      simp only [unregisterWasmAllocation, looked, unregisterAllocation, same, check_pos here,
        Option.bind_eq_bind, Option.bind_some, Option.pure_def, KeyMap.erase]
    · refine .inl ⟨?_, fun all => here all.2⟩
      simp [unregisterWasmAllocation, looked, unregisterAllocation, same, check, here]

/-- The allocations that start in a range are dropped if none of them reaches behind it. -/
theorem unregisterUpTo_cases {start : ℕ} {allocations : KeyMap ℕ JitAllocation}
    {later : List (ℕ × JitAllocation)} (sorted : later.Pairwise fun a b => a.1 < b.1)
    (mem : ∀ key allocation, (key, allocation) ∈ later ↔
      allocations.get? key = some allocation ∧ start ≤ key)
    (fits : ∀ key allocation, allocations.get? key = some allocation →
      key + allocation.size < 2 ^ 64) (stop : ℕ) :
    (unregisterUpTo stop allocations later = none ∧ ∃ key allocation,
      allocations.get? key = some allocation ∧ start ≤ key ∧ key < stop ∧
        stop < key + allocation.size) ∨
    (unregisterUpTo stop allocations later =
        some (allocations.keep fun key => ¬(start ≤ key ∧ key < stop)) ∧
      ∀ key allocation, allocations.get? key = some allocation → start ≤ key → key < stop →
        key + allocation.size ≤ stop) := by
  induction later generalizing allocations with
  | nil =>
    have absent : ∀ key allocation, allocations.get? key = some allocation → ¬start ≤ key :=
      fun key allocation found after =>
        absurd ((mem key allocation).mpr ⟨found, after⟩) List.not_mem_nil
    refine .inr ⟨?_, fun key allocation found after => absurd after (absent _ _ found)⟩
    rw [unregisterUpTo, KeyMap.keep_eq_self]
    exact fun key allocation found inside => absent _ _ found inside.1
  | cons entry later ih =>
    obtain ⟨key, allocation⟩ := entry
    obtain ⟨first, rest⟩ := List.pairwise_cons.mp sorted
    obtain ⟨found, after⟩ := (mem key allocation).mp List.mem_cons_self
    by_cases behind : stop ≤ key
    · -- All later keys lie behind the range as well.
      have beyond : ∀ k a, allocations.get? k = some a → start ≤ k → stop ≤ k := by
        intro k a found' after'
        rcases List.mem_cons.mp ((mem k a).mpr ⟨found', after'⟩) with same | next
        · exact (Prod.mk.inj same).1 ▸ behind
        · exact behind.trans (first _ next).le
      refine .inr ⟨?_, fun k a found' after' less => absurd (beyond k a found' after') (by omega)⟩
      rw [unregisterUpTo, if_pos behind, KeyMap.keep_eq_self]
      intro k a found' inside
      have := beyond k a found' inside.1
      omega
    · have stopAt : wrap (key + allocation.size) = key + allocation.size := wrap_eq (fits _ _ found)
      by_cases reaches : key + allocation.size ≤ stop
      · have get : ∀ k, (allocations.erase key).get? k =
            if k = key then none else allocations.get? k := KeyMap.get?_erase allocations key
        have mem' : ∀ k a, (k, a) ∈ later ↔
            (allocations.erase key).get? k = some a ∧ start ≤ k := by
          intro k a
          have outer := mem k a
          rw [List.mem_cons] at outer
          rw [get]
          constructor
          · intro inside
            have less := first _ inside
            rw [if_neg (ne_of_gt less)]
            exact outer.mp (.inr inside)
          · rintro ⟨found', after'⟩
            split_ifs at found' with same
            exact (outer.mpr ⟨found', after'⟩).resolve_left fun eq => same (Prod.mk.inj eq).1
        have erased := ih rest mem' fun k a found' => by
          rw [get] at found'
          split_ifs at found'
          exact fits k a found'
        have unfolded : unregisterUpTo stop allocations ((key, allocation) :: later) =
            unregisterUpTo stop (allocations.erase key) later := by
          simp [unregisterUpTo, behind, stopAt, reaches, check_pos]
        have keep : ((allocations.erase key).keep fun k => ¬(start ≤ k ∧ k < stop)) =
            allocations.keep fun k => ¬(start ≤ k ∧ k < stop) := by
          apply KeyMap.ext_get?
          intro k
          rw [KeyMap.get?_keep, KeyMap.get?_keep, get]
          by_cases same : k = key
          · subst same
            simp [after, behind]
          · simp [same]
        rw [unfolded]
        rcases erased with ⟨failed, k, a, found', rest'⟩ | ⟨done, all⟩
        · rw [get] at found'
          split_ifs at found'
          exact .inl ⟨failed, k, a, found', rest'⟩
        · refine .inr ⟨keep ▸ done, fun k a found' after' less => ?_⟩
          by_cases same : k = key
          · subst same
            rw [found] at found'
            cases found'
            exact reaches
          · exact all k a (by rw [get, if_neg same]; exact found') after' less
      · refine .inl ⟨?_, key, allocation, found, after, by omega, by omega⟩
        simp [unregisterUpTo, behind, stopAt, check, reaches]

theorem freeRange_leaves (tracks : Tracks pages r) {pageAddr pageSize addr size : ℕ}
    (words : pageAddr < 2 ^ 64 ∧ pageSize < 2 ^ 64) (lower : pageAddr ≤ addr)
    (upper : addr + size ≤ pageAddr + pageSize) :
    Leaves (freeRange pages pageAddr pageSize addr size)
      (r.Spans pageAddr pageSize ∧ ∀ key allocation, r.allocations.get? key = some allocation →
        addr ≤ key → key < addr + size → key + allocation.size ≤ addr + size)
      (r.keepAllocations fun key => ¬(addr ≤ key ∧ key < addr + size)) := by
  rcases lookupJitPage_cases tracks.toKeeps words with
    ⟨failed, missing⟩ |
    ⟨found, address, page, looked, spans, held, inside, stored, lower', upper', -⟩
  · exact .inl ⟨by simp [freeRange, failed], fun all => missing all.1⟩
  · have tracks' : Tracks found r := ⟨held, inside _ tracks.inside⟩
    have fits := (held.words _ _ stored).2
    have stop : wrap (addr + size) = addr + size := wrap_eq (by omega)
    have dropped := unregisterUpTo_cases (KeyMap.sorted _)
      (fun key allocation =>
        KeyMap.mem_keep page.allocations (fun key => addr ≤ key) (key, allocation))
      (fun key allocation found' =>
        lt_of_le_of_lt (tracks'.inside _ _ _ _ stored found' not_false) fits)
    have known : ∀ key allocation, addr ≤ key → key < addr + size →
        (page.allocations.get? key = some allocation ↔
          r.allocations.get? key = some allocation) := by
      intro key allocation after less
      rw [held.get?_of_start stored (by omega) (by omega)]
    rcases dropped (addr + size) with ⟨failed, key, allocation, found', after, less, beyond⟩ |
      ⟨done, all⟩
    · refine .inl ⟨by simp [freeRange, looked, unregisterRange, stop, failed], fun all => ?_⟩
      have := all.2 key allocation ((known _ _ after less).mp found') after less
      omega
    · obtain ⟨held', inside'⟩ := keeps_drop held stored
        (fun key => ¬(addr ≤ key ∧ key < addr + size)) (fun key outside => by omega)
      refine .inr ⟨_, by simp [freeRange, looked, unregisterRange, stop, done], ⟨spans, ?_⟩, held',
        inside' tracks'.inside⟩
      exact fun key allocation found' after less =>
        all key allocation ((known _ _ after less).mpr found') after less

theorem splitJitPagesInOrder_cases (held : Keeps pages r) {addr₁ size₁ addr₂ size₂ : ℕ}
    (words₁ : addr₁ < 2 ^ 64 ∧ size₁ < 2 ^ 64) (words₂ : addr₂ < 2 ^ 64 ∧ size₂ < 2 ^ 64) :
    (splitJitPagesInOrder pages addr₁ size₁ addr₂ size₂ = none ∧
      ¬(r.Spans addr₁ size₁ ∧ r.Spans addr₂ size₂ ∧ addr₁ + size₁ ≤ addr₂)) ∨
    ∃ pages' page₁ page₂, splitJitPagesInOrder pages addr₁ size₁ addr₂ size₂ = some pages' ∧
      (r.Spans addr₁ size₁ ∧ r.Spans addr₂ size₂ ∧ addr₁ + size₁ ≤ addr₂) ∧ Keeps pages' r ∧
      pages'.get? addr₁ = some page₁ ∧ pages'.get? addr₂ = some page₂ ∧
      (AllInside pages → ¬Straddles r.allocations addr₁ → ¬Straddles r.allocations (addr₁ + size₁) →
        ¬Straddles r.allocations addr₂ → ¬Straddles r.allocations (addr₂ + size₂) →
        AllInside pages') := by
  by_cases order : wrap (addr₁ + size₁) ≤ addr₂
  · rcases splitJitPage_cases held words₁ with
      ⟨failed, missing⟩ | ⟨first, page₁, done₁, spans₁, held₁, stored₁, size, inside₁, -⟩
    · exact .inl ⟨by simp [splitJitPagesInOrder, check_pos order, failed], fun all => missing all.1⟩
    · rw [wrap_eq spans₁.fits] at order
      have checked : check (wrap (addr₁ + size₁) ≤ addr₂) = some () := by
        rw [wrap_eq spans₁.fits]
        exact check_pos order
      rcases splitJitPage_cases held₁ words₂ with
        ⟨failed, missing⟩ | ⟨second, page₂, done₂, spans₂, held₂, stored₂, -, inside₂, kept⟩
      · exact .inl ⟨by simp [splitJitPagesInOrder, checked, done₁, failed],
          fun all => missing all.2.1⟩
      · refine .inr ⟨second, page₁, page₂, by simp [splitJitPagesInOrder, checked, done₁, done₂],
          ⟨spans₁, spans₂, order⟩, held₂, kept addr₁ page₁ stored₁ (by omega), stored₂, ?_⟩
        exact fun inside clear₁ clear₁' clear₂ clear₂' =>
          inside₂ (inside₁ inside clear₁ clear₁') clear₂ clear₂'
  · refine .inl ⟨by simp [splitJitPagesInOrder, check, order], fun all => order ?_⟩
    rw [wrap_eq all.1.fits]
    exact all.2.2

theorem contains_iff (held : Keeps pages r) {addr : ℕ} {page : JitPage} (size : ℕ)
    (type : JitAllocationType) (stored : pages.get? addr = some page) :
    page.contains addr size type = true ↔ r.allocations.get? addr = some ⟨size, type⟩ := by
  have positive := (held.words _ _ stored).1
  rw [JitPage.contains, decide_eq_true_eq, held.get?_of_start stored le_rfl (by omega)]

theorem lookupJumpTableAllocations_leaves (tracks : Tracks pages r)
    {jumpTable jumpTableSize farJumpTable farJumpTableSize : ℕ}
    (words : jumpTable < 2 ^ 64 ∧ jumpTableSize < 2 ^ 64)
    (farWords : farJumpTable < 2 ^ 64 ∧ farJumpTableSize < 2 ^ 64) :
    Leaves (lookupJumpTableAllocations pages jumpTable jumpTableSize farJumpTable farJumpTableSize)
      ((r.Spans jumpTable jumpTableSize ∧ r.Spans farJumpTable farJumpTableSize) ∧
        r.allocations.get? jumpTable = some ⟨jumpTableSize, .kWasmJumpTable⟩ ∧
        r.allocations.get? farJumpTable = some ⟨farJumpTableSize, .kWasmFarJumpTable⟩) r := by
  have held := tracks.toKeeps
  -- Allocations of two types lie one behind the other.
  have ordered : r.allocations.get? jumpTable = some ⟨jumpTableSize, .kWasmJumpTable⟩ →
      r.allocations.get? farJumpTable = some ⟨farJumpTableSize, .kWasmFarJumpTable⟩ →
      if jumpTable < farJumpTable then jumpTable + jumpTableSize ≤ farJumpTable
      else farJumpTable + farJumpTableSize ≤ jumpTable := by
    intro near far
    split_ifs with less
    · exact held.separate _ _ _ _ near far less
    · refine held.separate _ _ _ _ far near (lt_of_le_of_ne (Nat.le_of_not_lt less) ?_)
      rintro rfl
      rw [near] at far
      cases far
  have split : (splitJitPages pages farJumpTable farJumpTableSize jumpTable jumpTableSize = none ∧
      ¬((r.Spans jumpTable jumpTableSize ∧ r.Spans farJumpTable farJumpTableSize) ∧
        r.allocations.get? jumpTable = some ⟨jumpTableSize, .kWasmJumpTable⟩ ∧
        r.allocations.get? farJumpTable = some ⟨farJumpTableSize, .kWasmFarJumpTable⟩)) ∨
      ∃ pages' near far,
        splitJitPages pages farJumpTable farJumpTableSize jumpTable jumpTableSize = some pages' ∧
        (r.Spans jumpTable jumpTableSize ∧ r.Spans farJumpTable farJumpTableSize) ∧
        Keeps pages' r ∧ pages'.get? jumpTable = some near ∧ pages'.get? farJumpTable = some far ∧
        (¬Straddles r.allocations jumpTable → ¬Straddles r.allocations (jumpTable + jumpTableSize) →
          ¬Straddles r.allocations farJumpTable →
          ¬Straddles r.allocations (farJumpTable + farJumpTableSize) → AllInside pages') := by
    rw [splitJitPages]
    split_ifs at ordered ⊢ with less
    · rcases splitJitPagesInOrder_cases held words farWords with
        ⟨failed, missing⟩ | ⟨pages', near, far, done, spans, held', storedNear, storedFar, inside⟩
      · exact .inl ⟨failed, fun all => missing ⟨all.1.1, all.1.2, ordered all.2.1 all.2.2⟩⟩
      · exact .inr ⟨pages', near, far, done, ⟨spans.1, spans.2.1⟩, held', storedNear, storedFar,
          fun a b c d => inside tracks.inside a b c d⟩
    · rcases splitJitPagesInOrder_cases held farWords words with
        ⟨failed, missing⟩ | ⟨pages', far, near, done, spans, held', storedFar, storedNear, inside⟩
      · exact .inl ⟨failed, fun all => missing ⟨all.1.2, all.1.1, ordered all.2.1 all.2.2⟩⟩
      · exact .inr ⟨pages', near, far, done, ⟨spans.2.1, spans.1⟩, held', storedNear, storedFar,
          fun a b c d => inside tracks.inside c d a b⟩
  rcases split with ⟨failed, missing⟩ |
    ⟨pages', near, far, done, spans, held', storedNear, storedFar, inside⟩
  · exact .inl ⟨by simp [lookupJumpTableAllocations, failed], missing⟩
  · have nearContains := contains_iff held' jumpTableSize .kWasmJumpTable storedNear
    have farContains := contains_iff held' farJumpTableSize .kWasmFarJumpTable storedFar
    by_cases nearHere : near.contains jumpTable jumpTableSize .kWasmJumpTable = true
    · by_cases farHere : far.contains farJumpTable farJumpTableSize .kWasmFarJumpTable = true
      · have nearFound := nearContains.mp nearHere
        have farFound := farContains.mp farHere
        have nearClear := held.clear_allocation nearFound
        have farClear := held.clear_allocation farFound
        refine .inr ⟨pages', ?_, ⟨spans, nearFound, farFound⟩, held',
          inside nearClear.1 nearClear.2 farClear.1 farClear.2⟩
        simp [lookupJumpTableAllocations, done, storedNear, storedFar, nearHere, farHere, check]
      · refine .inl ⟨?_, fun all => farHere (farContains.mpr all.2.2)⟩
        simp [lookupJumpTableAllocations, done, storedNear, storedFar, farHere, check]
    · refine .inl ⟨?_, fun all => nearHere (nearContains.mpr all.2.1)⟩
      simp [lookupJumpTableAllocations, done, storedNear, nearHere, check]

/-- The start of the allocation around a registered byte. -/
def Located (r : Record) (innerPointer : ℕ) (answer : Option ℕ) : Prop :=
  match answer with
  | none => ¬r.registered innerPointer
  | some start => ∃ allocation, r.allocations.get? start = some allocation ∧
      start ≤ innerPointer ∧ innerPointer < start + allocation.size

theorem startOfJitAllocationAt_cases (tracks : Tracks pages r) {innerPointer : ℕ}
    (word : innerPointer < 2 ^ 64) :
    (startOfJitAllocationAt pages innerPointer = none ∧
      ¬(innerPointer + 1 < 2 ^ 64 ∧ ∃ answer, Located r innerPointer answer)) ∨
    ∃ answer, startOfJitAllocationAt pages innerPointer = some (pages, answer) ∧
      innerPointer + 1 < 2 ^ 64 ∧ Located r innerPointer answer := by
  have held := tracks.toKeeps
  have passes := lt_wrap_iff ⟨innerPointer, 1, word, by decide⟩
  simp only [Nat.zero_lt_one, true_and] at passes
  by_cases fits : innerPointer + 1 < 2 ^ 64
  · have checked : check True = some () := check_pos trivial
    have stop : wrap (innerPointer + 1) = innerPointer + 1 := wrap_eq fits
    cases found : pages.last? fun key => key ≤ innerPointer with
    | none =>
      refine .inr ⟨none, by simp [startOfJitAllocationAt, tryLookupJitPage, checked, stop, found],
        fits, fun registered => ?_⟩
      obtain ⟨address, page, hit, -⟩ := held.page_of_byte registered
      rw [found] at hit
      cases hit
    | some entry =>
      obtain ⟨address, page⟩ := entry
      obtain ⟨stored, lower, -⟩ := (pages.last?_eq_some_iff _ _ _).mp found
      by_cases behind : address + page.size ≤ innerPointer
      · refine .inr ⟨none, ?_, fits, fun registered => ?_⟩
        · simp [startOfJitAllocationAt, tryLookupJitPage, checked, stop, found, behind]
        · obtain ⟨address', page', hit, -, -, upper⟩ := held.page_of_byte registered
          rw [found] at hit
          obtain ⟨rfl, rfl⟩ := Prod.mk.inj (Option.some.inj hit)
          omega
      · have looked : startOfJitAllocationAt pages innerPointer =
            (allocationContaining page innerPointer).map fun entry => (pages, some entry.1) := by
          have whole : innerPointer + 1 ≤ address + page.size := by omega
          simp [startOfJitAllocationAt, tryLookupJitPage, checked, stop, found, behind, whole,
            stored, Option.map_eq_bind]
        have registered : r.registered innerPointer :=
          (held.registered _).mpr ⟨address, page, stored, lower, by omega⟩
        have apart := held.page_apart stored
        -- An allocation around the byte is the last one of the page that starts before it.
        have located : (∃ answer, Located r innerPointer answer) ↔
            Covered JitAllocation.size page.allocations innerPointer := by
          constructor
          · rintro ⟨answer, here⟩
            cases answer with
            | none => exact absurd registered here
            | some start =>
              obtain ⟨allocation, known, low, high⟩ := here
              obtain ⟨address', page', stored', inPage⟩ := (held.allocations _ _).mp known
              have := held.starts _ _ _ _ stored' inPage
              have := tracks.inside _ _ _ _ stored' inPage not_false
              obtain ⟨rfl, rfl⟩ := holds_unique held.apart stored lower (by omega) stored'
                (show address' ≤ innerPointer by omega) (by omega)
              exact ⟨start, allocation, inPage, low, high⟩
          · rintro ⟨start, allocation, inPage, low, high⟩
            exact ⟨some start, allocation, (held.allocations _ _).mpr ⟨_, _, stored, inPage⟩, low,
              high⟩
        rw [looked, located, covered_iff_last apart]
        cases last : page.allocations.last? fun key => key ≤ innerPointer with
        | none => exact .inl ⟨by simp [allocationContaining, last], by simp⟩
        | some entry =>
          obtain ⟨start, allocation⟩ := entry
          obtain ⟨inPage, low, -⟩ := (page.allocations.last?_eq_some_iff _ _ _).mp last
          by_cases around : innerPointer - start < allocation.size
          · refine .inr ⟨some start, by simp [allocationContaining, last, check, around], fits,
              allocation, (held.allocations _ _).mpr ⟨_, _, stored, inPage⟩, low, by omega⟩
          · refine .inl ⟨by simp [allocationContaining, last, check, around], ?_⟩
            rintro ⟨-, start', allocation', same, high⟩
            obtain ⟨rfl, rfl⟩ := Prod.mk.inj (Option.some.inj same)
            omega
  · refine .inl ⟨?_, fun all => fits all.1⟩
    have failed : ¬innerPointer < wrap (innerPointer + 1) := fun less => fits (passes.mp less)
    simp [startOfJitAllocationAt, tryLookupJitPage, check, failed]

/-! Runs. -/

inductive Event where
  | registersPage (range : Range)
  | unregistersPages (ranges : List Range)
  | registersAllocation (range : Range) (type : JitAllocationType)
  | looksUpAllocation (range : Range) (type : JitAllocationType)
  | registersAllocations (start : ℕ) (sizes : List ℕ) (type : JitAllocationType)
  | unregistersWasm (range : Range)
  | freesRange (page : Range) (addr size : ℕ)
  | looksUpJumpTables (jumpTable farJumpTable : Range)
  | asksStart (innerPointer : ℕ)

/-- A call, and the answer of a call that asks. -/
def call (pages : JitPageMap) : Event → Option (JitPageMap × Option ℕ)
  | .registersPage range => (registerJitPage pages range.addr range.size).map (·, none)
  | .unregistersPages ranges => (unregisterJitPages pages ranges).map (·, none)
  | .registersAllocation range type =>
    (registerJitAllocation pages range.addr range.size type).map (·, none)
  | .looksUpAllocation range type =>
    (lookupJitAllocation pages range.addr range.size type).map (·, none)
  | .registersAllocations start sizes type =>
    (registerJitAllocations pages start sizes type).map (·, none)
  | .unregistersWasm range => (unregisterWasmAllocation pages range.addr range.size).map (·, none)
  | .freesRange page addr size => (freeRange pages page.addr page.size addr size).map (·, none)
  | .looksUpJumpTables jumpTable farJumpTable =>
    (lookupJumpTableAllocations pages jumpTable.addr jumpTable.size farJumpTable.addr
      farJumpTable.size).map (·, none)
  | .asksStart innerPointer => startOfJitAllocationAt pages innerPointer

def Admits (r : Record) : Event → Prop
  | .registersPage range =>
    ∀ x, range.addr ≤ x → x < range.addr + range.size → ¬r.registered x
  | .unregistersPages ranges => SpansEach r ranges
  | .registersAllocation range _ =>
    r.Spans range.addr range.size ∧ Unused r.allocations range.addr range.size
  | .looksUpAllocation range type =>
    r.Spans range.addr range.size ∧ r.allocations.get? range.addr = some ⟨range.size, type⟩
  | .registersAllocations start sizes _ =>
    r.Spans start sizes.sum ∧ (∀ size ∈ sizes, 0 < size) ∧ Unused r.allocations start sizes.sum
  | .unregistersWasm range =>
    r.Spans range.addr range.size ∧ (r.allocations.get? range.addr).isSome
  | .freesRange page addr size =>
    r.Spans page.addr page.size ∧ ∀ key allocation, r.allocations.get? key = some allocation →
      addr ≤ key → key < addr + size → key + allocation.size ≤ addr + size
  | .looksUpJumpTables jumpTable farJumpTable =>
    (r.Spans jumpTable.addr jumpTable.size ∧ r.Spans farJumpTable.addr farJumpTable.size) ∧
      r.allocations.get? jumpTable.addr = some ⟨jumpTable.size, .kWasmJumpTable⟩ ∧
      r.allocations.get? farJumpTable.addr = some ⟨farJumpTable.size, .kWasmFarJumpTable⟩
  | .asksStart innerPointer =>
    innerPointer + 1 < 2 ^ 64 ∧ ∃ answer, Located r innerPointer answer

def effect (r : Record) : Event → Record
  | .registersPage range => r.register range.addr range.size
  | .unregistersPages ranges => releaseEach r ranges
  | .registersAllocation range type => r.allocate range.addr range.size type
  | .registersAllocations start sizes type => allocateAll type r start sizes
  | .unregistersWasm range => r.keepAllocations fun key => key ≠ range.addr
  | .freesRange _ addr size => r.keepAllocations fun key => ¬(addr ≤ key ∧ key < addr + size)
  | .looksUpAllocation _ _ | .looksUpJumpTables _ _ | .asksStart _ => r

def Answers (r : Record) : Event → Option ℕ → Prop
  | .asksStart innerPointer, answer => Located r innerPointer answer
  | _, answer => answer = none

def Careful (r : Record) : Event → Prop
  | .registersPage range => 0 < range.size ∧ range.addr + range.size < 2 ^ 64
  | .unregistersPages ranges => ∀ range ∈ ranges, ∀ key allocation,
    r.allocations.get? key = some allocation → key < range.addr →
    range.addr < key + allocation.size →
    ∃ other ∈ ranges, other.addr ≤ key ∧ key < other.addr + other.size
  | .registersAllocations start sizes _ => start < 2 ^ 64 ∧ BatchChecked r start sizes
  | .freesRange page addr size => page.addr ≤ addr ∧ addr + size ≤ page.addr + page.size
  | .asksStart innerPointer => innerPointer < 2 ^ 64
  | .registersAllocation _ _ | .looksUpAllocation _ _ | .unregistersWasm _
  | .looksUpJumpTables _ _ => True

theorem Leaves.call {outcome : Option JitPageMap} {admitted : Prop} {after : Record}
    (leaves : Leaves outcome admitted after) :
    (outcome.map (·, (none : Option ℕ)) = none ∧ ¬admitted) ∨
    ∃ pages' answer, outcome.map (·, (none : Option ℕ)) = some (pages', answer) ∧ admitted ∧
      answer = none ∧ Tracks pages' after := by
  rcases leaves with ⟨failed, refused⟩ | ⟨pages', done, admitted, tracks⟩
  · exact .inl ⟨by rw [failed]; rfl, refused⟩
  · exact .inr ⟨pages', none, by rw [done]; rfl, admitted, rfl, tracks⟩

/-- A call goes through, answers and changes the pages as the record says. -/
theorem call_cases (tracks : Tracks pages r) (event : Event) (careful : Careful r event) :
    (call pages event = none ∧ ¬Admits r event) ∨
    ∃ pages' answer, call pages event = some (pages', answer) ∧ Admits r event ∧
      Answers r event answer ∧ Tracks pages' (effect r event) := by
  cases event with
  | registersPage range => exact (registerJitPage_leaves tracks careful.1 careful.2).call
  | unregistersPages ranges =>
    -- An allocation that reaches into a range goes with another range.
    have inside : Inside (fun key => ∃ other ∈ ranges, other.addr ≤ key ∧
        key < other.addr + other.size) pages :=
      fun a p key allocation storedA found _ =>
        tracks.inside a p key allocation storedA found not_false
    rcases unregisterJitPages_cases tracks.toKeeps inside careful with
      ⟨failed, missing⟩ | ⟨pages', done, spans, held, inside'⟩
    · exact .inl ⟨by rw [call, failed]; rfl, missing⟩
    · refine .inr ⟨pages', none, by rw [call, done]; rfl, spans, rfl, held, ?_⟩
      intro a p key allocation storedA found _
      refine inside' a p key allocation storedA found ?_
      rintro ⟨other, mem, within⟩
      have known := (held.allocations key allocation).mpr ⟨a, p, storedA, found⟩
      exact ((get?_releaseEach r ranges).mp known).2 other mem within
  | registersAllocation range type =>
    exact (registerJitAllocation_leaves tracks range.words type).call
  | looksUpAllocation range type =>
    exact (lookupJitAllocation_leaves tracks range.words type).call
  | registersAllocations start sizes type =>
    exact (registerJitAllocations_leaves tracks careful.1 careful.2 type).call
  | unregistersWasm range => exact (unregisterWasmAllocation_leaves tracks range.words).call
  | freesRange page addr size =>
    exact (freeRange_leaves tracks page.words careful.1 careful.2).call
  | looksUpJumpTables jumpTable farJumpTable =>
    exact (lookupJumpTableAllocations_leaves tracks jumpTable.words farJumpTable.words).call
  | asksStart innerPointer =>
    rcases startOfJitAllocationAt_cases tracks careful with ⟨failed, lost⟩ |
      ⟨answer, done, fits, located⟩
    · exact .inl ⟨failed, lost⟩
    · exact .inr ⟨pages, answer, done, ⟨fits, answer, located⟩, located, tracks⟩

def run : JitPageMap → List Event → Option (JitPageMap × List (Option ℕ))
  | pages, [] => some (pages, [])
  | pages, event :: events => do
    let (pages, answer) ← call pages event
    let (pages, answers) ← run pages events
    pure (pages, answer :: answers)

inductive AllAnswered : Record → List Event → List (Option ℕ) → Prop
  | nil {r : Record} : AllAnswered r [] []
  | cons {r : Record} {event : Event} {events : List Event} {answer : Option ℕ}
    {answers : List (Option ℕ)} : Answers r event answer →
    AllAnswered (effect r event) events answers →
    AllAnswered r (event :: events) (answer :: answers)

theorem run_cases (tracks : Tracks pages r) (events : List Event)
    (careful : Permitted Careful effect r events) :
    (run pages events = none ∧ ¬Permitted Admits effect r events) ∨
    ∃ pages' answers, run pages events = some (pages', answers) ∧
      Permitted Admits effect r events ∧ AllAnswered r events answers ∧
      Tracks pages' (events.foldl effect r) := by
  induction events generalizing pages r with
  | nil => exact .inr ⟨pages, [], rfl, trivial, .nil, tracks⟩
  | cons event events ih =>
    obtain ⟨first, rest⟩ := careful
    rcases call_cases tracks event first with
      ⟨failed, refused⟩ | ⟨pages', answer, done, admitted, answered, tracks'⟩
    · exact .inl ⟨by simp [run, failed], fun all => refused all.1⟩
    · rcases ih tracks' rest with
        ⟨failed, refused⟩ | ⟨pages'', answers, done', admitted', answered', tracks''⟩
      · exact .inl ⟨by simp [run, done, failed], fun all => refused all.2⟩
      · exact .inr ⟨pages'', answer :: answers, by simp [run, done, done'], ⟨admitted, admitted'⟩,
          .cons answered answered', tracks''⟩

theorem tracks_empty : Tracks .empty .empty where
  apart := by rintro _ _ _ _ ⟨⟩
  words := by rintro _ _ ⟨⟩
  registered := by
    intro x
    simp [Record.empty, Covered]
  allocations := by
    intro key allocation
    simp [Record.empty]
  starts := by rintro _ _ _ _ ⟨⟩
  separate := by rintro _ _ _ _ ⟨⟩
  inside := by rintro _ _ _ _ ⟨⟩

/-- A process gets through a run of careful callers exactly if the record admits every
call, and then the answers are those of the record. -/
theorem run_follows_record (events : List Event)
    (careful : Permitted Careful effect .empty events) :
    ((run .empty events).isSome ↔ Permitted Admits effect .empty events) ∧
    ∀ pages answers, run .empty events = some (pages, answers) →
      AllAnswered .empty events answers ∧ Tracks pages (events.foldl effect .empty) := by
  rcases run_cases tracks_empty events careful with
    ⟨failed, refused⟩ | ⟨pages, answers, done, admitted, answered, tracks⟩
  · rw [failed]
    exact ⟨by simp [refused], fun _ _ eq => by cases eq⟩
  · rw [done]
    refine ⟨by simp [admitted], fun pages' answers' eq => ?_⟩
    cases eq
    exact ⟨answered, tracks⟩

/-- Two adjacent pages; an allocation across their border, and a byte of it. -/
def acrossBorder : List Event :=
  [.registersPage ⟨0x4000, 0x4000, by decide⟩, .registersPage ⟨0x8000, 0x4000, by decide⟩,
    .registersAllocation ⟨0x7f00, 0x200, by decide⟩ .kWasmCode, .asksStart 0x8080,
    .unregistersPages [⟨0x8000, 0x4000, by decide⟩, ⟨0x4000, 0x4000, by decide⟩]]

theorem acrossBorder_careful : Permitted Careful effect .empty acrossBorder := by
  refine ⟨⟨by decide, by decide⟩, ⟨by decide, by decide⟩, trivial, show 0x8080 < 2 ^ 64 by decide,
    fun range mem key allocation found low high => ?_, trivial⟩
  have start : key = 0x7f00 := by
    by_contra other
    have stored : (Record.allocate ((Record.empty.register 0x4000 0x4000).register 0x8000 0x4000)
        0x7f00 0x200 .kWasmCode).allocations.get? key = some allocation := found
    rw [Record.allocate, KeyMap.get?_set, if_neg other] at stored
    cases stored
  subst start
  exact ⟨⟨0x4000, 0x4000, by decide⟩, by simp, by decide, by decide⟩

theorem run_follows_record_across : ∃ pages answers,
    run .empty acrossBorder = some (pages, answers) ∧
      AllAnswered .empty acrossBorder answers ∧ Tracks pages (acrossBorder.foldl effect .empty) :=
  ⟨_, [none, none, none, some 0x7f00, none], rfl,
    (run_follows_record acrossBorder acrossBorder_careful).2 _ _ rfl⟩

end BlinkerFluid.JitRuns
