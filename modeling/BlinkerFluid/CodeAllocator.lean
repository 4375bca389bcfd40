import BlinkerFluid.AllocationPool
import BlinkerFluid.PageUnits

/-! The code memory of a wasm module. Space is reserved, handed out from the front of the
free regions, and never handed out again. A page is committed while a byte on it has been
handed out and not all of its bytes have been freed. -/

namespace BlinkerFluid.CodeAllocator
open AllocationPool OrderedMap PageUnits SpanMap StepRun

structure Platform where
  kCodeAlignment : ℕ
  commitPageSize : ℕ
  allocatePageSize : ℕ
  overlap : Overlap
  alignment_pos : 0 < kCodeAlignment
  page_pos : 0 < commitPageSize
  allocatePage_pos : 0 < allocatePageSize
  aligned : kCodeAlignment ∣ commitPageSize
  paged : commitPageSize ∣ allocatePageSize

inductive PageCall
  | commit (region : AddressRegion)
  | decommit (region : AddressRegion)
deriving DecidableEq

def PageCall.region : PageCall → AddressRegion
  | .commit region | .decommit region => region

structure WasmCodeAllocator where
  ownedCodeSpace : List AddressRegion
  freeCodeSpace : Pool
  freedCodeSpace : Pool
  committedCodeSpace : ℕ
  generatedCodeSize : ℕ
  freedCodeSize : ℕ
deriving DecidableEq

def empty : WasmCodeAllocator := ⟨[], .empty, .empty, 0, 0, 0⟩

variable (p : Platform)

def addSpace (a : WasmCodeAllocator) (region : AddressRegion) : WasmCodeAllocator :=
  { a with
    freeCodeSpace := (merge a.freeCodeSpace region).1
    ownedCodeSpace := a.ownedCodeSpace ++ [region] }

/-- The page of the start is committed already, unless it starts there. -/
def commitCode (a : WasmCodeAllocator) (codeSpace : AddressRegion) :
    WasmCodeAllocator × List PageCall :=
  let first := roundUp p.commitPageSize codeSpace.start
  let stop := roundUp p.commitPageSize codeSpace.stop
  let a := { a with generatedCodeSize := a.generatedCodeSize + codeSpace.size }
  if first < stop then
    ({ a with committedCodeSpace := a.committedCodeSpace + (stop - first) },
      [.commit ⟨first, stop - first⟩])
  else (a, [])

def allocateForCodeInRegion (a : WasmCodeAllocator) (size : ℕ) (region : AddressRegion) :
    Option (WasmCodeAllocator × AddressRegion × List PageCall) :=
  let (free, codeSpace) :=
    allocateInRegion p.overlap a.freeCodeSpace (roundUp p.kCodeAlignment size) region
  if codeSpace.size = 0 then none
  else
    let (a, calls) := commitCode p { a with freeCodeSpace := free } codeSpace
    some (a, codeSpace, calls)

def freedRegions (codes : List AddressRegion) : Pool :=
  codes.foldl (fun pool code => (merge pool code).1) .empty

def discard (pools : Pool × Pool) (entry : ℕ × ℕ) : Pool × Pool :=
  let region : AddressRegion := ⟨entry.1, entry.2⟩
  let (freed, merged) := merge pools.1 region
  let first := max (roundUp p.commitPageSize merged.start) (roundDown p.commitPageSize region.start)
  let stop := min (roundDown p.commitPageSize merged.stop) (roundUp p.commitPageSize region.stop)
  if first < stop then (freed, (merge pools.2 ⟨first, stop - first⟩).1) else (freed, pools.2)

def freeCode (a : WasmCodeAllocator) (codes : List AddressRegion) :
    WasmCodeAllocator × List PageCall :=
  let pools := (freedRegions codes).entries.foldl (discard p) (a.freedCodeSpace, .empty)
  ({ a with
      freedCodeSpace := pools.1
      freedCodeSize := a.freedCodeSize + (codes.map AddressRegion.size).sum
      committedCodeSpace := pools.2.entries.foldl (fun committed e => committed - e.2)
        a.committedCodeSpace },
    pools.2.entries.map fun e => .decommit ⟨e.1, e.2⟩)

/-! What the calls do to the committed pages. -/

def pagesOf (region : AddressRegion) : Finset ℕ := units p.commitPageSize region.start region.stop

def settle (pages : Finset ℕ) : PageCall → Finset ℕ
  | .commit region => pages ∪ pagesOf p region
  | .decommit region => pages \ pagesOf p region

def Paged (region : AddressRegion) : Prop :=
  0 < region.size ∧ p.commitPageSize ∣ region.start ∧ p.commitPageSize ∣ region.size

/-- No page is committed twice, and none is decommitted that is not committed. -/
def Orderly (pages : Finset ℕ) : PageCall → Prop
  | .commit region => Paged p region ∧ ∀ k ∈ pagesOf p region, k ∉ pages
  | .decommit region => Paged p region ∧ pagesOf p region ⊆ pages

/-! The addresses of an allocator. -/

def Owned (a : WasmCodeAllocator) (x : ℕ) : Prop := ∃ region ∈ a.ownedCodeSpace, region.Has x

def Used (a : WasmCodeAllocator) (x : ℕ) : Prop := Owned a x ∧ ¬Holds a.freeCodeSpace x

def Live (a : WasmCodeAllocator) (x : ℕ) : Prop := Used a x ∧ ¬Holds a.freedCodeSpace x

def Apart (r r' : AddressRegion) : Prop := r.stop ≤ r'.start ∨ r'.stop ≤ r.start

structure Sound (a : WasmCodeAllocator) : Prop where
  free : Canonical a.freeCodeSpace
  freed : Canonical a.freedCodeSpace
  owned : ∀ region ∈ a.ownedCodeSpace, Paged p region
  apart : a.ownedCodeSpace.Pairwise Apart
  free_owned : ∀ x, Holds a.freeCodeSpace x → Owned a x
  freed_used : ∀ x, Holds a.freedCodeSpace x → Used a x
  starts : ∀ start size, a.freeCodeSpace.get? start = some size → p.kCodeAlignment ∣ start
  stops : ∀ start size, a.freeCodeSpace.get? start = some size →
    p.commitPageSize ∣ start + size

/-- Some code was put on the first byte of a page, and not all of the page is freed. -/
def Needed (a : WasmCodeAllocator) (k : ℕ) : Prop :=
  Used a (k * p.commitPageSize) ∧ ∃ x, x / p.commitPageSize = k ∧ ¬Holds a.freedCodeSpace x

/-- The calls are about the pages of the allocator. -/
def Within (a : WasmCodeAllocator) (calls : List PageCall) : Prop :=
  ∀ call ∈ calls, ∀ k ∈ pagesOf p call.region, Owned a (k * p.commitPageSize)

/-- The counters are the sizes of what they count. -/
structure Accounts (a : WasmCodeAllocator) (pages : Finset ℕ) : Prop where
  needed : ∀ k, k ∈ pages ↔ Needed p a k
  committed : a.committedCodeSpace = p.commitPageSize * pages.card
  generated : ∃ used : Finset ℕ, (∀ x, x ∈ used ↔ Used a x) ∧ a.generatedCodeSize = used.card
  freedSize : ∃ gone : Finset ℕ, (∀ x, x ∈ gone ↔ Holds a.freedCodeSpace x) ∧
    a.freedCodeSize = gone.card

variable {p}

theorem Paged.stop {region : AddressRegion} (paged : Paged p region) :
    p.commitPageSize ∣ region.stop := Nat.dvd_add paged.2.1 paged.2.2

theorem mem_pagesOf {region : AddressRegion} (paged : Paged p region) (k : ℕ) :
    k ∈ pagesOf p region ↔ region.Has (k * p.commitPageSize) :=
  mem_units p.page_pos paged.2.1 paged.stop

theorem card_pagesOf {region : AddressRegion} (paged : Paged p region) :
    p.commitPageSize * (pagesOf p region).card = region.size :=
  card_units p.page_pos paged.2.1 paged.2.2

theorem Paged.has_iff {region : AddressRegion} (paged : Paged p region) (x : ℕ) :
    region.Has x ↔ x / p.commitPageSize ∈ pagesOf p region := by
  obtain ⟨-, ⟨a, starts⟩, ⟨b, sizes⟩⟩ := paged
  have positive := p.page_pos
  rw [pagesOf, units, Finset.mem_Ico, AddressRegion.Has, AddressRegion.stop, starts, sizes,
    ← Nat.mul_add, Nat.mul_div_cancel_left _ positive, Nat.mul_div_cancel_left _ positive,
    Nat.le_div_iff_mul_le positive, Nat.div_lt_iff_lt_mul positive, Nat.mul_comm _ a,
    Nat.mul_comm _ (a + b)]

theorem paged_between {first stop : ℕ} (some : first < stop) (starts : p.commitPageSize ∣ first)
    (stops : p.commitPageSize ∣ stop) : Paged p ⟨first, stop - first⟩ :=
  ⟨Nat.sub_pos_of_lt some, starts, Nat.dvd_sub stops starts⟩

theorem mem_pagesOf_between {first stop : ℕ} (some : first < stop)
    (starts : p.commitPageSize ∣ first) (stops : p.commitPageSize ∣ stop) (k : ℕ) :
    k ∈ pagesOf p ⟨first, stop - first⟩ ↔
      first ≤ k * p.commitPageSize ∧ k * p.commitPageSize < stop := by
  rw [mem_pagesOf (paged_between some starts stops), AddressRegion.Has, AddressRegion.stop]
  simp only [Nat.add_sub_cancel' some.le]

theorem Sound.owned_saturated {a : WasmCodeAllocator} (sound : Sound p a) :
    Saturated p.commitPageSize (Owned a) := by
  intro x y same
  refine exists_congr fun region => and_congr_right fun mem => ?_
  rw [(sound.owned region mem).has_iff, (sound.owned region mem).has_iff, same]

theorem sound_empty : Sound p empty where
  free := canonical_empty
  freed := canonical_empty
  owned := by rintro _ ⟨⟩
  apart := .nil
  free_owned := by rintro x ⟨_, _, ⟨⟩, -⟩
  freed_used := by rintro x ⟨_, _, ⟨⟩, -⟩
  starts := by rintro _ _ ⟨⟩
  stops := by rintro _ _ ⟨⟩

theorem accounts_empty : Accounts p empty ∅ := by
  have unused : ∀ x, ¬Used empty x := by
    rintro x ⟨⟨_, ⟨⟩, -⟩, -⟩
  have unfreed : ∀ x, ¬Holds empty.freedCodeSpace x := by
    rintro x ⟨_, _, ⟨⟩, -⟩
  refine ⟨fun k => ?_, by simp [empty], ⟨∅, by simp [unused], rfl⟩, ⟨∅, by simp [unfreed], rfl⟩⟩
  exact ⟨fun mem => absurd mem (Finset.notMem_empty k), fun needed => absurd needed.1 (unused _)⟩

theorem edges {before after : Pool} (canonical : Canonical after) {gain : AddressRegion}
    (holds : ∀ x, Holds after x ↔ Holds before x ∨ gain.Has x) {start size : ℕ}
    (stored : after.get? start = some size) :
    ((∃ length, before.get? start = some length) ∨ start = gain.start) ∧
      ((∃ first length, before.get? first = some length ∧ first + length = start + size) ∨
        start + size = gain.stop) := by
  have positive := canonical.positive _ _ stored
  have first : Holds after start := (holds_iff _ _).mpr ⟨start, size, stored, le_rfl, by omega⟩
  have front : ∀ y, y + 1 = start → ¬Holds after y :=
    fun y next => canonical.separated.front_uncovered stored next
  obtain ⟨x, stop⟩ : ∃ x, start + size = x + 1 := ⟨start + size - 1, by omega⟩
  have last : Holds after x := (holds_iff _ _).mpr ⟨start, size, stored, by omega, by omega⟩
  have behind : ¬Holds after (x + 1) := stop ▸ canonical.separated.stop_uncovered stored
  rw [stop]
  constructor
  · rcases (holds start).mp first with old | new
    · exact .inl (starts_of_edge old fun y next held => front y next ((holds y).mpr (.inl held)))
    · refine .inr (le_antisymm ?_ new.1)
      by_contra inner
      refine front (start - 1) (by omega) ((holds _).mpr (.inr ⟨by omega, ?_⟩))
      have := new.2
      omega
  · rcases (holds x).mp last with old | new
    · exact .inl (stops_of_edge old fun held => behind ((holds _).mpr (.inl held)))
    · refine .inr (le_antisymm ?_ ?_)
      · have := new.2
        omega
      · by_contra inner
        refine behind ((holds _).mpr (.inr ⟨?_, by omega⟩))
        have := new.1
        omega

section AddSpace

variable {a : WasmCodeAllocator} {region : AddressRegion}

theorem owned_addSpace (x : ℕ) : Owned (addSpace a region) x ↔ Owned a x ∨ region.Has x := by
  simp only [Owned, addSpace, List.mem_append, List.mem_singleton, or_and_right, exists_or,
    exists_eq_left]

theorem not_has_of_apart (away : ∀ r ∈ a.ownedCodeSpace, Apart r region) {x : ℕ}
    (owned : Owned a x) : ¬region.Has x := by
  obtain ⟨r, mem, lower, upper⟩ := owned
  rintro ⟨lower', upper'⟩
  have := away r mem
  rw [Apart] at this
  omega

theorem holds_addSpace (sound : Sound p a) (paged : Paged p region)
    (away : ∀ r ∈ a.ownedCodeSpace, Apart r region) :
    Canonical (addSpace a region).freeCodeSpace ∧
      ∀ x, Holds (addSpace a region).freeCodeSpace x ↔ Holds a.freeCodeSpace x ∨ region.Has x := by
  have merged := merge_merged sound.free paged.1
    fun x inside held => not_has_of_apart away (sound.free_owned x held) inside
  exact ⟨merged.canonical, merged.holds⟩

theorem used_addSpace (sound : Sound p a) (paged : Paged p region)
    (away : ∀ r ∈ a.ownedCodeSpace, Apart r region) (x : ℕ) :
    Used (addSpace a region) x ↔ Used a x := by
  rw [Used, Used, owned_addSpace, (holds_addSpace sound paged away).2]
  have := not_has_of_apart away (x := x)
  tauto

theorem sound_addSpace (sound : Sound p a) (paged : Paged p region)
    (away : ∀ r ∈ a.ownedCodeSpace, Apart r region) : Sound p (addSpace a region) := by
  obtain ⟨canonical, holds⟩ := holds_addSpace sound paged away
  refine ⟨canonical, sound.freed, ?_, ?_, fun x free => ?_, fun x freed => ?_, ?_, ?_⟩
  · intro r mem
    rcases List.mem_append.mp mem with old | new
    · exact sound.owned r old
    · rwa [List.mem_singleton.mp new]
  · refine List.pairwise_append.mpr ⟨sound.apart, List.pairwise_singleton _ _, ?_⟩
    intro r mem r' new
    rw [List.mem_singleton.mp new]
    exact away r mem
  · rw [owned_addSpace]
    exact ((holds x).mp free).imp (sound.free_owned x) id
  · exact (used_addSpace sound paged away x).mpr (sound.freed_used x freed)
  · intro start size stored
    rcases (edges canonical holds stored).1 with ⟨length, old⟩ | rfl
    · exact sound.starts _ _ old
    · exact p.aligned.trans paged.2.1
  · intro start size stored
    rcases (edges canonical holds stored).2 with ⟨first, length, old, same⟩ | new
    · exact same ▸ sound.stops _ _ old
    · exact new ▸ paged.stop

theorem accounts_addSpace (sound : Sound p a) (paged : Paged p region)
    (away : ∀ r ∈ a.ownedCodeSpace, Apart r region) {pages : Finset ℕ}
    (accounts : Accounts p a pages) : Accounts p (addSpace a region) pages := by
  have used := used_addSpace sound paged away
  obtain ⟨needed, committed, ⟨bytes, mem, generated⟩, freedSize⟩ := accounts
  refine ⟨fun k => ?_, committed, ⟨bytes, fun x => (mem x).trans (used x).symm, generated⟩,
    freedSize⟩
  rw [needed, Needed, Needed, used]
  rfl

end AddSpace

theorem edges_lost {before after : Pool} (canonical : Canonical after) {loss : AddressRegion}
    (holds : ∀ x, Holds after x ↔ Holds before x ∧ ¬loss.Has x) {start size : ℕ}
    (stored : after.get? start = some size) :
    ((∃ length, before.get? start = some length) ∨ start = loss.stop) ∧
      ((∃ first length, before.get? first = some length ∧ first + length = start + size) ∨
        (start + size = loss.start ∧ ∃ x, x + 1 = loss.start ∧ Holds before x)) := by
  have positive := canonical.positive _ _ stored
  have first : Holds after start := (holds_iff _ _).mpr ⟨start, size, stored, le_rfl, by omega⟩
  have front : ∀ y, y + 1 = start → ¬Holds after y :=
    fun y next => canonical.separated.front_uncovered stored next
  obtain ⟨x, stop⟩ : ∃ x, start + size = x + 1 := ⟨start + size - 1, by omega⟩
  have last : Holds after x := (holds_iff _ _).mpr ⟨start, size, stored, by omega, by omega⟩
  have behind : ¬Holds after (x + 1) := stop ▸ canonical.separated.stop_uncovered stored
  obtain ⟨heldFirst, keptFirst⟩ := (holds start).mp first
  obtain ⟨heldLast, keptLast⟩ := (holds x).mp last
  rw [stop]
  constructor
  · by_cases edge : ∃ y, y + 1 = start ∧ Holds before y
    · obtain ⟨y, next, held⟩ := edge
      have gone : loss.Has y := by
        by_contra kept
        exact front y next ((holds y).mpr ⟨held, kept⟩)
      refine .inr (le_antisymm ?_ ?_)
      · have := gone.2
        omega
      · by_contra inner
        refine keptFirst ⟨?_, by omega⟩
        have := gone.1
        omega
    · exact .inl (starts_of_edge heldFirst fun y next held => edge ⟨y, next, held⟩)
  · by_cases edge : Holds before (x + 1)
    · have gone : loss.Has (x + 1) := by
        by_contra kept
        exact behind ((holds _).mpr ⟨edge, kept⟩)
      have lower : loss.start = x + 1 := by
        refine le_antisymm gone.1 ?_
        by_contra inner
        refine keptLast ⟨by omega, ?_⟩
        have := gone.2
        omega
      exact .inr ⟨lower.symm, x, lower.symm, heldLast⟩
    · exact .inl (stops_of_edge heldLast edge)

/-- An allocation: the code, the allocator behind it, and the calls. -/
structure Handed (p : Platform) (a : WasmCodeAllocator) (size : ℕ) (region : AddressRegion)
    (after : WasmCodeAllocator) (code : AddressRegion) (calls : List PageCall) : Prop where
  size : code.size = roundUp p.kCodeAlignment size
  aligned : p.kCodeAlignment ∣ code.start
  inside : region.start ≤ code.start ∧ code.stop ≤ region.stop
  wasFree : ∀ x, code.Has x → Holds a.freeCodeSpace x
  free : ∀ x, Holds after.freeCodeSpace x ↔ Holds a.freeCodeSpace x ∧ ¬code.Has x
  owned : after.ownedCodeSpace = a.ownedCodeSpace
  freed : after.freedCodeSpace = a.freedCodeSpace
  sound : Sound p after
  accounts : ∀ pages, Accounts p a pages → Permitted (Orderly p) (settle p) pages calls ∧
    Accounts p after (calls.foldl (settle p) pages)
  within : Within p a calls

theorem Sound.used_front {a : WasmCodeAllocator} (sound : Sound p a) {x : ℕ} (used : Used a x) :
    Used a (x / p.commitPageSize * p.commitPageSize) := by
  have positive := p.page_pos
  have page : x / p.commitPageSize * p.commitPageSize / p.commitPageSize = x / p.commitPageSize :=
    Nat.mul_div_cancel _ positive
  refine ⟨(sound.owned_saturated _ _ page).mpr used.1, ?_⟩
  rintro ⟨start, length, stored, lower, upper⟩
  obtain ⟨b, stop⟩ := sound.stops _ _ stored
  simp only [id] at upper
  have above : x / p.commitPageSize < b := by
    rw [stop, Nat.mul_comm] at upper
    exact Nat.lt_of_mul_lt_mul_left upper
  have below : x < start + length := by
    rw [stop, Nat.mul_comm]
    exact (Nat.div_lt_iff_lt_mul positive).mp above
  have := Nat.div_mul_le_self x p.commitPageSize
  exact used.2 ((holds_iff _ _).mpr ⟨start, length, stored, by omega, below⟩)

theorem Sound.needed_of_live {a : WasmCodeAllocator} (sound : Sound p a) {x : ℕ}
    (live : Live a x) : Needed p a (x / p.commitPageSize) :=
  ⟨sound.used_front live.1, x, rfl, live.2⟩

section Allocate

variable {a : WasmCodeAllocator} {code : AddressRegion}

theorem counts_insert {s t : ℕ → Prop} {counted : ℕ} (count : ∃ bytes : Finset ℕ,
    (∀ x, x ∈ bytes ↔ s x) ∧ counted = bytes.card) (fresh : ∀ x, code.Has x → ¬s x)
    (after : ∀ x, t x ↔ s x ∨ code.Has x) : ∃ bytes : Finset ℕ,
    (∀ x, x ∈ bytes ↔ t x) ∧ counted + code.size = bytes.card := by
  obtain ⟨bytes, mem, rfl⟩ := count
  have has : ∀ x, x ∈ Finset.Ico code.start code.stop ↔ code.Has x := fun x => Finset.mem_Ico
  have apart : Disjoint bytes (Finset.Ico code.start code.stop) := by
    refine Finset.disjoint_left.mpr fun x old new => ?_
    exact fresh x ((has x).mp new) ((mem x).mp old)
  refine ⟨bytes ∪ Finset.Ico code.start code.stop, fun x => ?_, ?_⟩
  · rw [Finset.mem_union, mem, has, after]
  · rw [Finset.card_union_of_disjoint apart, Nat.card_Ico, AddressRegion.stop,
      Nat.add_sub_cancel_left]

theorem has_page_iff (code : AddressRegion) (k : ℕ) : code.Has (k * p.commitPageSize) ↔
    roundUp p.commitPageSize code.start ≤ k * p.commitPageSize ∧
      k * p.commitPageSize < roundUp p.commitPageSize code.stop := by
  rw [roundUp_le_iff p.page_pos (Nat.dvd_mul_left _ _), lt_roundUp_iff p.page_pos]
  rfl

theorem within_commitCode (sound : Sound p a) (wasFree : ∀ x, code.Has x → Holds a.freeCodeSpace x)
    (b : WasmCodeAllocator) : Within p a (commitCode p b code).2 := by
  unfold commitCode
  simp only
  split_ifs with some
  · intro call among k new
    rw [List.mem_singleton.mp among, PageCall.region,
      mem_pagesOf_between some (dvd_roundUp _ _) (dvd_roundUp _ _)] at new
    exact sound.free_owned _ (wasFree _ ((has_page_iff code k).mpr new))
  · exact fun call among => absurd among List.not_mem_nil

theorem accounts_commitCode {b : WasmCodeAllocator} {pages : Finset ℕ}
    (accounts : Accounts p a pages) (wasFree : ∀ x, code.Has x → Holds a.freeCodeSpace x)
    (sound : Sound p a) (used : ∀ x, Used b x ↔ Used a x ∨ code.Has x)
    (freed : b.freedCodeSpace = a.freedCodeSpace)
    (committed : b.committedCodeSpace = a.committedCodeSpace)
    (generated : b.generatedCodeSize = a.generatedCodeSize)
    (freedSize : b.freedCodeSize = a.freedCodeSize) :
    Permitted (Orderly p) (settle p) pages (commitCode p b code).2 ∧
      Accounts p (commitCode p b code).1 ((commitCode p b code).2.foldl (settle p) pages) := by
  have positive := p.page_pos
  have unused : ∀ x, code.Has x → ¬Used a x := fun x inside used => used.2 (wasFree x inside)
  have unfreed : ∀ x, code.Has x → ¬Holds a.freedCodeSpace x :=
    fun x inside held => unused x inside (sound.freed_used x held)
  have needed : ∀ k, Needed p b k ↔ Needed p a k ∨ code.Has (k * p.commitPageSize) := by
    intro k
    rw [Needed, Needed, used, freed]
    constructor
    · rintro ⟨old | new, x, page, kept⟩
      · exact .inl ⟨old, x, page, kept⟩
      · exact .inr new
    · rintro (⟨old, x, page, kept⟩ | new)
      · exact ⟨.inl old, x, page, kept⟩
      · exact ⟨.inr new, _, Nat.mul_div_cancel _ positive, unfreed _ new⟩
  have begins := has_page_iff (p := p) code
  have bytes := counts_insert accounts.generated unused used
  rw [← generated] at bytes
  unfold commitCode
  simp only
  split_ifs with some
  · have starts := dvd_roundUp p.commitPageSize code.start
    have stops := dvd_roundUp p.commitPageSize code.stop
    have paged := paged_between some starts stops
    have mem := mem_pagesOf_between some starts stops
    have fresh : ∀ k ∈ pagesOf p ⟨roundUp p.commitPageSize code.start,
        roundUp p.commitPageSize code.stop - roundUp p.commitPageSize code.start⟩, k ∉ pages := by
      intro k new old
      have inside := (begins k).mpr ((mem k).mp new)
      exact unused _ inside ((accounts.needed k).mp old).1
    refine ⟨⟨⟨paged, fresh⟩, trivial⟩, fun k => ?_, ?_, bytes, ?_⟩
    · rw [List.foldl_cons, List.foldl_nil, settle, Finset.mem_union, accounts.needed, mem,
        ← begins]
      exact (needed k).symm
    · rw [List.foldl_cons, List.foldl_nil, settle, Finset.card_union_of_disjoint
        (Finset.disjoint_right.mpr fresh), Nat.mul_add, card_pagesOf paged, committed,
        accounts.committed]
    · simp only [freed, freedSize]
      exact accounts.freedSize
  · refine ⟨trivial, fun k => ?_, by simp only [committed, List.foldl_nil, accounts.committed],
      bytes, ?_⟩
    · have none : ¬code.Has (k * p.commitPageSize) := by
        rw [begins]
        omega
      rw [List.foldl_nil, accounts.needed]
      have same := needed k
      simp only [none, or_false] at same
      exact same.symm
    · simp only [freed, freedSize]
      exact accounts.freedSize

/-- The lowest fitting place is where the region starts, or where a free region does. -/
theorem starts_of_lowest {pool : Pool} {region : AddressRegion} {size first : ℕ}
    (nonempty : 0 < size) (fits : Fits pool region size first)
    (lowest : ∀ other, Fits pool region size other → first ≤ other) :
    first = region.start ∨ ((∃ length, pool.get? first = some length) ∧
      ∀ x, x + 1 = first → ¬Holds pool x) := by
  by_cases start : first = region.start
  · exact .inl start
  · have front : ∀ x, x + 1 = first → ¬Holds pool x := by
      intro x next held
      have := fits.1
      have := fits.2.1
      have lower := lowest x ⟨by omega, by omega, fun y from_y to_y => ?_⟩
      · omega
      · by_cases here : y = x
        · exact here ▸ held
        · exact fits.2.2 y (by omega) (by omega)
    exact .inr ⟨starts_of_edge (fits.2.2 first le_rfl (by omega)) front, front⟩

theorem used_of_taken (sound : Sound p a) {b : WasmCodeAllocator}
    (owned : b.ownedCodeSpace = a.ownedCodeSpace)
    (wasFree : ∀ x, code.Has x → Holds a.freeCodeSpace x)
    (free : ∀ x, Holds b.freeCodeSpace x ↔ Holds a.freeCodeSpace x ∧ ¬code.Has x) (x : ℕ) :
    Used b x ↔ Used a x ∨ code.Has x := by
  have inside := fun has => sound.free_owned x (wasFree x has)
  have held := wasFree x
  rw [Used, Used, Owned, Owned, owned, free, ← Owned]
  tauto

theorem sound_of_taken (sound : Sound p a) {b : WasmCodeAllocator}
    (owned : b.ownedCodeSpace = a.ownedCodeSpace) (freed : b.freedCodeSpace = a.freedCodeSpace)
    (canonical : Canonical b.freeCodeSpace)
    (wasFree : ∀ x, code.Has x → Holds a.freeCodeSpace x)
    (free : ∀ x, Holds b.freeCodeSpace x ↔ Holds a.freeCodeSpace x ∧ ¬code.Has x)
    (stop : p.kCodeAlignment ∣ code.stop)
    (front : ∀ x, x + 1 = code.start → Holds a.freeCodeSpace x → p.commitPageSize ∣ code.start) :
    Sound p b where
  free := canonical
  freed := freed ▸ sound.freed
  owned := owned ▸ sound.owned
  apart := owned ▸ sound.apart
  free_owned x held := by
    rw [Owned, owned]
    exact sound.free_owned x ((free x).mp held).1
  freed_used x held := by
    rw [freed] at held
    exact (used_of_taken sound owned wasFree free x).mpr (.inl (sound.freed_used x held))
  starts start length stored := by
    rcases (edges_lost canonical free stored).1 with ⟨old, before⟩ | rfl
    · exact sound.starts _ _ before
    · exact stop
  stops start length stored := by
    rcases (edges_lost canonical free stored).2 with ⟨start', length', before, same⟩ |
      ⟨stop, x, next, held⟩
    · exact same ▸ sound.stops _ _ before
    · exact stop ▸ front x next held

theorem commitCode_frame (b : WasmCodeAllocator) :
    (commitCode p b code).1.ownedCodeSpace = b.ownedCodeSpace ∧
      (commitCode p b code).1.freeCodeSpace = b.freeCodeSpace ∧
      (commitCode p b code).1.freedCodeSpace = b.freedCodeSpace := by
  unfold commitCode
  simp only
  split_ifs <;> exact ⟨rfl, rfl, rfl⟩

theorem allocateForCodeInRegion_cases (sound : Sound p a) {size : ℕ} (nonempty : 0 < size)
    {region : AddressRegion} (starts : p.commitPageSize ∣ region.start) :
    (allocateForCodeInRegion p a size region = none ∧
      ∀ first, ¬Fits a.freeCodeSpace region (roundUp p.kCodeAlignment size) first) ∨
    ∃ after code calls, allocateForCodeInRegion p a size region = some (after, code, calls) ∧
      Handed p a size region after code calls := by
  have large := roundUp_pos p.alignment_pos nonempty
  have allocated := allocateInRegion_allocated sound.free p.overlap large region
  rw [allocateForCodeInRegion]
  cases done :
    allocateInRegion p.overlap a.freeCodeSpace (roundUp p.kCodeAlignment size) region with
  | mk free code =>
    rw [done] at allocated
    cases allocated with
    | full none => exact .inl ⟨rfl, none⟩
    | taken fits lowest canonical holds =>
      rename_i first
      right
      simp only
      rw [if_neg large.ne']
      refine ⟨_, _, _, rfl, ?_⟩
      have edge := starts_of_lowest large fits lowest
      have aligned : p.kCodeAlignment ∣ first := by
        rcases edge with rfl | ⟨⟨length, stored⟩, -⟩
        · exact p.aligned.trans starts
        · exact sound.starts _ _ stored
      have front : ∀ x, x + 1 = first → Holds a.freeCodeSpace x → p.commitPageSize ∣ first := by
        rcases edge with rfl | ⟨-, front⟩
        · exact fun _ _ _ => starts
        · exact fun x next held => absurd held (front x next)
      have wasFree : ∀ x, (⟨first, roundUp p.kCodeAlignment size⟩ : AddressRegion).Has x →
          Holds a.freeCodeSpace x := fun x inside => fits.2.2 x inside.1 inside.2
      obtain ⟨sameOwned, sameFree, sameFreed⟩ := @commitCode_frame p
        ⟨first, roundUp p.kCodeAlignment size⟩ { a with freeCodeSpace := free }
      have held := fun x => (Iff.of_eq (congrArg (Holds · x) sameFree)).trans (holds x)
      refine ⟨rfl, aligned, ⟨fits.1, fits.2.1⟩, wasFree, held, sameOwned, sameFreed, ?_,
        fun pages accounts => accounts_commitCode accounts wasFree sound
          (used_of_taken sound rfl wasFree holds) rfl rfl rfl rfl,
        within_commitCode sound wasFree _⟩
      exact sound_of_taken sound sameOwned sameFreed (sameFree ▸ canonical) wasFree held
        (Nat.dvd_add aligned (dvd_roundUp _ _)) front

theorem allocateForCodeInRegion_lowest (sound : Sound p a) {size : ℕ} (nonempty : 0 < size)
    {region code : AddressRegion} {after : WasmCodeAllocator} {calls : List PageCall}
    (made : allocateForCodeInRegion p a size region = some (after, code, calls)) {other : ℕ}
    (fits : Fits a.freeCodeSpace region (roundUp p.kCodeAlignment size) other) :
    code.start ≤ other := by
  have large := roundUp_pos p.alignment_pos nonempty
  have allocated := allocateInRegion_allocated sound.free p.overlap large region
  rw [allocateForCodeInRegion] at made
  cases done :
    allocateInRegion p.overlap a.freeCodeSpace (roundUp p.kCodeAlignment size) region with
  | mk free codeSpace =>
    rw [done] at allocated made
    cases allocated with
    | full none => exact absurd fits (none other)
    | taken first lowest =>
      simp only at made
      rw [if_neg large.ne'] at made
      obtain ⟨-, rfl, -⟩ := made
      exact lowest other fits

end Allocate

/-! Freeing. -/

/-- All bytes of a page are in a pool. -/
def Full (p : Platform) (pool : Pool) (k : ℕ) : Prop := ∀ x, x / p.commitPageSize = k → Holds pool x

theorem needed_iff (a : WasmCodeAllocator) (k : ℕ) :
    Needed p a k ↔ Used a (k * p.commitPageSize) ∧ ¬Full p a.freedCodeSpace k := by
  simp only [Needed, Full, not_forall, exists_prop]

theorem freedRegions_cases {codes : List AddressRegion} (sizes : ∀ code ∈ codes, 0 < code.size)
    (apart : codes.Pairwise Apart) {pool : Pool} (canonical : Canonical pool)
    (fresh : ∀ code ∈ codes, Avoids pool code) :
    Canonical (codes.foldl (fun pool code => (merge pool code).1) pool) ∧
      ∀ x, Holds (codes.foldl (fun pool code => (merge pool code).1) pool) x ↔
        Holds pool x ∨ ∃ code ∈ codes, code.Has x := by
  induction codes generalizing pool with
  | nil => exact ⟨canonical, by simp⟩
  | cons code codes ih =>
    obtain ⟨first, rest⟩ := List.pairwise_cons.mp apart
    have merged := merge_merged canonical (sizes code List.mem_cons_self)
      (fresh code List.mem_cons_self)
    obtain ⟨canonical', holds⟩ := ih (fun c mem => sizes c (List.mem_cons_of_mem _ mem)) rest
      merged.canonical fun c mem x inside held => by
        rcases (merged.holds x).mp held with old | new
        · exact fresh c (List.mem_cons_of_mem _ mem) x inside old
        · have away := first c mem
          have := inside.1
          have := inside.2
          have := new.1
          have := new.2
          rw [Apart] at away
          omega
    refine ⟨canonical', fun x => ?_⟩
    rw [List.foldl_cons, holds, merged.holds, List.exists_mem_cons_iff, or_assoc]

structure Discards (p : Platform) (old : Pool) (pools : Pool × Pool) : Prop where
  freed : Canonical pools.1
  grows : ∀ x, Holds old x → Holds pools.1 x
  pages : Canonical pools.2
  filled : ∀ x, Holds pools.2 x ↔
    Full p pools.1 (x / p.commitPageSize) ∧ ¬Full p old (x / p.commitPageSize)

theorem filled_iff {old freed after : Pool} {region joined : AddressRegion}
    (grows : ∀ x, Holds old x → Holds freed x) (merged : Merged freed after region joined)
    (avoids : Avoids freed region) (k : ℕ) :
    (Full p after k ∧ ¬Full p old k) ↔ (Full p freed k ∧ ¬Full p old k) ∨
      ((∀ x, x / p.commitPageSize = k → joined.Has x) ∧
        ∃ x, x / p.commitPageSize = k ∧ region.Has x) := by
  constructor
  · rintro ⟨full, open_⟩
    by_cases before : Full p freed k
    · exact .inl ⟨before, open_⟩
    · obtain ⟨y, gap⟩ := not_forall.mp before
      obtain ⟨page, missing⟩ := Classical.not_imp.mp gap
      have new : region.Has y := ((merged.holds y).mp (full y page)).resolve_left missing
      refine .inr ⟨fun x samePage => ?_, y, page, new⟩
      obtain ⟨start, size, stored, lower, upper⟩ := merged.canonical.separated.run_within
        (show min x y < max x y + 1 by omega) fun z from_z to_z => full z (by
          have low := Nat.div_le_div_right (c := p.commitPageSize) from_z
          have high := Nat.div_le_div_right (c := p.commitPageSize) (show z ≤ max x y by omega)
          rcases le_total x y with le | le <;> simp only [le, min_eq_left, min_eq_right,
            max_eq_left, max_eq_right] at low high <;> omega)
      have inside : joined.Has y :=
        ⟨merged.contains.1.trans new.1, new.2.trans_le merged.contains.2⟩
      obtain ⟨sameStart, sameSize⟩ := holds_unique merged.canonical.separated.noOverlap stored
        (show start ≤ y by omega) (by omega) merged.stored inside.1 inside.2
      subst sameStart sameSize
      exact ⟨by omega, by rw [AddressRegion.stop]; simp only [id] at upper; omega⟩
  · rintro (⟨full, open_⟩ | ⟨full, y, page, inside⟩)
    · exact ⟨fun x page => (merged.holds x).mpr (.inl (full x page)), open_⟩
    · refine ⟨fun x page => ?_, fun closed => avoids y inside (grows y (closed y page))⟩
      have := full x page
      exact (holds_iff _ _).mpr ⟨_, _, merged.stored, this.1, this.2⟩

theorem page_iff (k x : ℕ) : x / p.commitPageSize = k ↔
    k * p.commitPageSize ≤ x ∧ x < k * p.commitPageSize + p.commitPageSize := by
  rw [← Nat.succ_mul, ← Nat.le_div_iff_mul_le p.page_pos, ← Nat.div_lt_iff_lt_mul p.page_pos]
  omega

/-- The pages between the rounded ends are those inside the one region that meet the other. -/
theorem between_iff (joined region : AddressRegion) (nonempty : 0 < region.size) (k : ℕ) :
    (max (roundUp p.commitPageSize joined.start) (roundDown p.commitPageSize region.start) ≤
        k * p.commitPageSize ∧
      k * p.commitPageSize < min (roundDown p.commitPageSize joined.stop)
        (roundUp p.commitPageSize region.stop)) ↔
    (∀ x, x / p.commitPageSize = k → joined.Has x) ∧
      ∃ x, x / p.commitPageSize = k ∧ region.Has x := by
  have positive := p.page_pos
  rw [max_le_iff, lt_min_iff, roundUp_le_iff positive (Nat.dvd_mul_left _ _),
    roundDown_le_iff positive, lt_roundDown_iff positive, lt_roundUp_iff positive]
  have stop : region.stop = region.start + region.size := rfl
  simp only [page_iff, AddressRegion.Has]
  constructor
  · rintro ⟨⟨low, low'⟩, high, high'⟩
    refine ⟨fun x page => ⟨by omega, by omega⟩, max (k * p.commitPageSize) region.start, ?_, ?_⟩
    · exact ⟨le_max_left _ _, by omega⟩
    · exact ⟨le_max_right _ _, by omega⟩
  · rintro ⟨all, x, page, inside⟩
    have first := all (k * p.commitPageSize) ⟨le_rfl, by omega⟩
    have last := all (k * p.commitPageSize + p.commitPageSize - 1) ⟨by omega, by omega⟩
    exact ⟨⟨first.1, by omega⟩, by omega, by omega⟩

theorem discards_step {old : Pool} {pools : Pool × Pool} (held : Discards p old pools)
    {entry : ℕ × ℕ} (nonempty : 0 < entry.2) (avoids : Avoids pools.1 ⟨entry.1, entry.2⟩) :
    Discards p old (discard p pools entry) ∧
      ∀ x, Holds (discard p pools entry).1 x ↔
        Holds pools.1 x ∨ (⟨entry.1, entry.2⟩ : AddressRegion).Has x := by
  have positive := p.page_pos
  have merged := merge_merged held.freed nonempty avoids
  have within := fun k => between_iff (p := p) (merge pools.1 ⟨entry.1, entry.2⟩).2
    ⟨entry.1, entry.2⟩ nonempty k
  have filled := fun k => filled_iff (p := p) held.grows merged avoids k
  simp only [← within] at filled
  have grows := fun x old => (merged.holds x).mpr (.inl (held.grows x old))
  unfold discard
  simp only
  split_ifs with some
  · have starts : p.commitPageSize ∣ max (roundUp p.commitPageSize
        (merge pools.1 ⟨entry.1, entry.2⟩).2.start) (roundDown p.commitPageSize entry.1) := by
      rcases max_choice (roundUp p.commitPageSize (merge pools.1 ⟨entry.1, entry.2⟩).2.start)
        (roundDown p.commitPageSize entry.1) with h | h <;> rw [h]
      · exact dvd_roundUp _ _
      · exact dvd_roundDown _ _
    have stops : p.commitPageSize ∣ min (roundDown p.commitPageSize
        (merge pools.1 ⟨entry.1, entry.2⟩).2.stop)
        (roundUp p.commitPageSize (⟨entry.1, entry.2⟩ : AddressRegion).stop) := by
      rcases min_choice (roundDown p.commitPageSize (merge pools.1 ⟨entry.1, entry.2⟩).2.stop)
        (roundUp p.commitPageSize (⟨entry.1, entry.2⟩ : AddressRegion).stop) with h | h <;> rw [h]
      · exact dvd_roundDown _ _
      · exact dvd_roundUp _ _
    have paged := paged_between some starts stops
    have between : ∀ x, (⟨_, _⟩ : AddressRegion).Has x ↔ _ := fun x => (paged.has_iff x).trans
      (mem_pagesOf_between some starts stops (x / p.commitPageSize))
    have pages := merge_merged held.pages paged.1 fun x inside full => by
      obtain ⟨-, y, page, meets⟩ := (within _).mp ((between x).mp inside)
      exact avoids y meets (((held.filled x).mp full).1 y page)
    refine ⟨⟨merged.canonical, grows, pages.canonical, fun x => ?_⟩, merged.holds⟩
    rw [pages.holds, held.filled, between]
    exact (filled _).symm
  · refine ⟨⟨merged.canonical, grows, held.pages, fun x => ?_⟩, merged.holds⟩
    rw [held.filled, filled]
    have nothing : ¬(max (roundUp p.commitPageSize (merge pools.1 ⟨entry.1, entry.2⟩).2.start)
        (roundDown p.commitPageSize entry.1) ≤ x / p.commitPageSize * p.commitPageSize ∧
        x / p.commitPageSize * p.commitPageSize <
          min (roundDown p.commitPageSize (merge pools.1 ⟨entry.1, entry.2⟩).2.stop)
            (roundUp p.commitPageSize (⟨entry.1, entry.2⟩ : AddressRegion).stop)) := by
      rintro ⟨low, high⟩
      exact some (low.trans_lt high)
    tauto

theorem discards_foldl {old : Pool} {pools : Pool × Pool} (held : Discards p old pools)
    {entries : List (ℕ × ℕ)} (nonempty : ∀ e ∈ entries, 0 < e.2)
    (avoids : ∀ e ∈ entries, Avoids pools.1 ⟨e.1, e.2⟩)
    (apart : entries.Pairwise fun e e' => e.1 + e.2 ≤ e'.1) :
    Discards p old (entries.foldl (discard p) pools) ∧
      ∀ x, Holds (entries.foldl (discard p) pools).1 x ↔
        Holds pools.1 x ∨ ∃ e ∈ entries, (⟨e.1, e.2⟩ : AddressRegion).Has x := by
  induction entries generalizing pools with
  | nil => exact ⟨held, by simp⟩
  | cons entry entries ih =>
    obtain ⟨first, rest⟩ := List.pairwise_cons.mp apart
    obtain ⟨held', holds⟩ := discards_step held (nonempty entry List.mem_cons_self)
      (avoids entry List.mem_cons_self)
    obtain ⟨held'', holds'⟩ := ih held' (fun e mem => nonempty e (List.mem_cons_of_mem _ mem))
      (fun e mem x inside full => by
        rcases (holds x).mp full with old | new
        · exact avoids e (List.mem_cons_of_mem _ mem) x inside old
        · have away := first e mem
          have := inside.1
          have := new.2
          rw [AddressRegion.stop] at this
          simp only at *
          omega) rest
    refine ⟨held'', fun x => ?_⟩
    rw [List.foldl_cons, holds', holds, List.exists_mem_cons_iff, or_assoc]

theorem holds_iff_entries (pool : Pool) (x : ℕ) :
    Holds pool x ↔ ∃ e ∈ pool.entries, (⟨e.1, e.2⟩ : AddressRegion).Has x := by
  rw [holds_iff]
  constructor
  · rintro ⟨start, size, stored, inside⟩
    exact ⟨(start, size), (pool.get?_eq_some_iff _ _).mp stored, inside⟩
  · rintro ⟨e, mem, inside⟩
    exact ⟨e.1, e.2, (pool.get?_eq_some_iff _ _).mpr mem, inside⟩

theorem canonical_entries {pool : Pool} (canonical : Canonical pool) :
    (∀ e ∈ pool.entries, 0 < e.2) ∧ pool.entries.Pairwise fun e e' => e.1 + e.2 ≤ e'.1 := by
  have stored : ∀ e ∈ pool.entries, pool.get? e.1 = some e.2 :=
    fun e mem => (pool.get?_eq_some_iff _ _).mpr mem
  refine ⟨fun e mem => canonical.positive _ _ (stored e mem), ?_⟩
  refine (List.Pairwise.and_mem.mp pool.sorted).imp ?_
  rintro e e' ⟨mem, mem', less⟩
  exact (canonical.gaps _ _ _ _ (stored e mem) (stored e' mem') less).le

theorem Discards.entries {old : Pool} {pools : Pool × Pool} (held : Discards p old pools) :
    (∀ e ∈ pools.2.entries, Paged p ⟨e.1, e.2⟩) ∧
      ∀ k, (∃ e ∈ pools.2.entries, k ∈ pagesOf p ⟨e.1, e.2⟩) ↔
        Full p pools.1 k ∧ ¬Full p old k := by
  have whole : Saturated p.commitPageSize (Holds pools.2) := by
    intro x y same
    rw [held.filled, held.filled, same]
  have paged : ∀ e ∈ pools.2.entries, Paged p ⟨e.1, e.2⟩ := by
    intro e mem
    obtain ⟨starts, stops⟩ := Saturated.dvd held.pages.separated whole
      ((KeyMap.get?_eq_some_iff _ _ _).mpr mem)
    exact ⟨(canonical_entries held.pages).1 e mem, starts, (Nat.dvd_add_right starts).mp stops⟩
  refine ⟨paged, fun k => ?_⟩
  have filled := held.filled (k * p.commitPageSize)
  rw [Nat.mul_div_cancel _ p.page_pos, holds_iff_entries] at filled
  rw [← filled]
  exact exists_congr fun e => and_congr_right fun mem => mem_pagesOf (paged e mem) k

theorem decommit_all {entries : List (ℕ × ℕ)} (paged : ∀ e ∈ entries, Paged p ⟨e.1, e.2⟩)
    (apart : entries.Pairwise fun e e' => e.1 + e.2 ≤ e'.1) {pages : Finset ℕ} {committed : ℕ}
    (within : ∀ e ∈ entries, pagesOf p ⟨e.1, e.2⟩ ⊆ pages)
    (total : committed = p.commitPageSize * pages.card) :
    let calls : List PageCall := entries.map fun e => .decommit ⟨e.1, e.2⟩
    Permitted (Orderly p) (settle p) pages calls ∧
      (∀ k, k ∈ calls.foldl (settle p) pages ↔
        k ∈ pages ∧ ∀ e ∈ entries, k ∉ pagesOf p ⟨e.1, e.2⟩) ∧
      entries.foldl (fun committed e => committed - e.2) committed =
        p.commitPageSize * (calls.foldl (settle p) pages).card := by
  induction entries generalizing pages committed with
  | nil => exact ⟨trivial, by simp, total⟩
  | cons entry entries ih =>
    obtain ⟨first, rest⟩ := List.pairwise_cons.mp apart
    have here := paged entry List.mem_cons_self
    have part := within entry List.mem_cons_self
    have left : committed - entry.2 =
        p.commitPageSize * (pages \ pagesOf p ⟨entry.1, entry.2⟩).card := by
      rw [Finset.card_sdiff_of_subset part, Nat.mul_sub, card_pagesOf here, total]
    obtain ⟨orderly, mem, sum⟩ := ih (fun e mem => paged e (List.mem_cons_of_mem _ mem)) rest
      (fun e mem k inside => by
        refine Finset.mem_sdiff.mpr ⟨within e (List.mem_cons_of_mem _ mem) inside, fun also => ?_⟩
        have away := first e mem
        have new := ((mem_pagesOf (paged e (List.mem_cons_of_mem _ mem)) k).mp inside).1
        have old := ((mem_pagesOf here k).mp also).2
        rw [AddressRegion.stop] at old
        simp only at new old
        omega) left
    refine ⟨⟨⟨here, part⟩, orderly⟩, fun k => ?_, sum⟩
    rw [List.map_cons, List.foldl_cons, settle, mem, Finset.mem_sdiff, List.forall_mem_cons,
      and_assoc]

theorem counts_insert_all {codes : List AddressRegion} (apart : codes.Pairwise Apart)
    {s : ℕ → Prop} {counted : ℕ} (count : ∃ bytes : Finset ℕ,
      (∀ x, x ∈ bytes ↔ s x) ∧ counted = bytes.card)
    (fresh : ∀ code ∈ codes, ∀ x, code.Has x → ¬s x) : ∃ bytes : Finset ℕ,
    (∀ x, x ∈ bytes ↔ s x ∨ ∃ code ∈ codes, code.Has x) ∧
      counted + (codes.map AddressRegion.size).sum = bytes.card := by
  induction codes generalizing s counted with
  | nil => simpa using count
  | cons code codes ih =>
    obtain ⟨first, rest⟩ := List.pairwise_cons.mp apart
    obtain ⟨bytes, mem, total⟩ := ih rest
      (counts_insert count (fresh code List.mem_cons_self) fun x => Iff.rfl)
      fun c mem x inside => by
        rintro (old | new)
        · exact fresh c (List.mem_cons_of_mem _ mem) x inside old
        · have away := first c mem
          have := inside.1
          have := inside.2
          have := new.1
          have := new.2
          rw [Apart] at away
          omega
    refine ⟨bytes, fun x => ?_, ?_⟩
    · rw [mem, List.exists_mem_cons_iff, or_assoc]
    · rw [List.map_cons, List.sum_cons, ← total, Nat.add_assoc]

structure Released (p : Platform) (a : WasmCodeAllocator) (codes : List AddressRegion)
    (after : WasmCodeAllocator) (calls : List PageCall) : Prop where
  owned : after.ownedCodeSpace = a.ownedCodeSpace
  free : after.freeCodeSpace = a.freeCodeSpace
  freed : ∀ x, Holds after.freedCodeSpace x ↔
    Holds a.freedCodeSpace x ∨ ∃ code ∈ codes, code.Has x
  sound : Sound p after
  accounts : ∀ pages, Accounts p a pages → Permitted (Orderly p) (settle p) pages calls ∧
    Accounts p after (calls.foldl (settle p) pages)
  within : Within p a calls

theorem freeCode_released {a : WasmCodeAllocator} (sound : Sound p a) {codes : List AddressRegion}
    (sizes : ∀ code ∈ codes, 0 < code.size) (apart : codes.Pairwise Apart)
    (live : ∀ code ∈ codes, ∀ x, code.Has x → Live a x) :
    Released p a codes (freeCode p a codes).1 (freeCode p a codes).2 := by
  have positive := p.page_pos
  obtain ⟨canonical, regions⟩ := freedRegions_cases sizes apart canonical_empty
    (by rintro code - x - ⟨_, _, ⟨⟩, -⟩)
  obtain ⟨nonempty, ordered⟩ := canonical_entries canonical
  have start : Discards p a.freedCodeSpace (a.freedCodeSpace, .empty) := by
    refine ⟨sound.freed, fun _ held => held, canonical_empty, fun x => ⟨?_, ?_⟩⟩
    · rintro ⟨_, _, ⟨⟩, -⟩
    · rintro ⟨full, open_⟩
      exact absurd full open_
  have inCode : ∀ x, (∃ e ∈ (freedRegions codes).entries, (⟨e.1, e.2⟩ : AddressRegion).Has x) ↔
      ∃ code ∈ codes, code.Has x := by
    intro x
    rw [← holds_iff_entries, freedRegions, regions]
    exact or_iff_right (by rintro ⟨_, _, ⟨⟩, -⟩)
  obtain ⟨discards, holds⟩ := discards_foldl start nonempty
    (fun e mem x inside held => by
      obtain ⟨code, codeMem, there⟩ := (inCode x).mp ⟨e, mem, inside⟩
      exact (live code codeMem x there).2 held) ordered
  have freed : ∀ x, Holds (freeCode p a codes).1.freedCodeSpace x ↔
      Holds a.freedCodeSpace x ∨ ∃ code ∈ codes, code.Has x := by
    intro x
    rw [← inCode x]
    exact holds x
  have used : ∀ x, Holds (freeCode p a codes).1.freedCodeSpace x → Used a x := by
    intro x held
    rcases (freed x).mp held with old | ⟨code, mem, inside⟩
    · exact sound.freed_used x old
    · exact (live code mem x inside).1
  obtain ⟨paged, inPages⟩ := discards.entries
  refine ⟨rfl, rfl, freed, ⟨sound.free, discards.freed, sound.owned, sound.apart, sound.free_owned,
    used, sound.starts, sound.stops⟩, fun pages accounts => ?_, fun call among k inside => ?_⟩
  swap
  · obtain ⟨e, mem, rfl⟩ := List.mem_map.mp among
    exact (used _ (((inPages k).mp ⟨e, mem, inside⟩).1 _ (Nat.mul_div_cancel _ positive))).1
  obtain ⟨orderly, mem, total⟩ := decommit_all paged (canonical_entries discards.pages).2
    (fun e mem k inside => by
      obtain ⟨full, open_⟩ := (inPages k).mp ⟨e, mem, inside⟩
      rw [accounts.needed, needed_iff]
      exact ⟨used _ (full _ (Nat.mul_div_cancel _ positive)), open_⟩) accounts.committed
  refine ⟨orderly, fun k => ?_, total, accounts.generated, ?_⟩
  · rw [needed_iff]
    have grows := discards.grows
    have kept := inPages k
    refine (mem k).trans ?_
    rw [accounts.needed, needed_iff]
    have shrink : Full p a.freedCodeSpace k → Full p (freeCode p a codes).1.freedCodeSpace k :=
      fun full x page => grows x (full x page)
    have sameUsed : Used (freeCode p a codes).1 (k * p.commitPageSize) ↔
      Used a (k * p.commitPageSize) := Iff.rfl
    rw [sameUsed]
    constructor
    · rintro ⟨⟨inUse, open_⟩, none⟩
      refine ⟨inUse, fun full => ?_⟩
      obtain ⟨e, mem, inside⟩ := kept.mpr ⟨full, open_⟩
      exact none e mem inside
    · rintro ⟨inUse, open_⟩
      refine ⟨⟨inUse, fun full => open_ (shrink full)⟩, fun e mem inside => ?_⟩
      exact open_ (kept.mp ⟨e, mem, inside⟩).1
  · obtain ⟨bytes, mem, sum⟩ := counts_insert_all apart accounts.freedSize
      fun code mem x inside => (live code mem x inside).2
    exact ⟨bytes, fun x => (mem x).trans (freed x).symm, sum⟩

/-! Runs of an allocator. -/

inductive Step
  | reserves (region : AddressRegion)
  | allocates (size : ℕ) (region : AddressRegion)
  | frees (codes : List AddressRegion)
deriving DecidableEq

/-- The allocator behind a step, with the code handed out and the calls. -/
def perform (p : Platform) (a : WasmCodeAllocator) :
    Step → WasmCodeAllocator × Option AddressRegion × List PageCall
  | .reserves region => (addSpace a region, none, [])
  | .allocates size region =>
    ((allocateForCodeInRegion p a size region).map fun made =>
      (made.1, some made.2.1, made.2.2)).getD (a, none, [])
  | .frees codes => ((freeCode p a codes).1, none, (freeCode p a codes).2)

/-- What is left to the callers and to the platform. -/
def Proper (p : Platform) (a : WasmCodeAllocator) : Step → Prop
  | .reserves region => Paged p region ∧ ∀ owned ∈ a.ownedCodeSpace, Apart owned region
  | .allocates size region => 0 < size ∧ p.commitPageSize ∣ region.start
  | .frees codes => (∀ code ∈ codes, 0 < code.size) ∧ codes.Pairwise Apart ∧
      ∀ code ∈ codes, ∀ x, code.Has x → Live a x

structure Taken (p : Platform) (a after : WasmCodeAllocator) (code : Option AddressRegion)
    (calls : List PageCall) : Prop where
  sound : Sound p after
  used : ∀ x, Used after x ↔ Used a x ∨ ∃ c ∈ code, c.Has x
  fresh : ∀ c ∈ code, 0 < c.size ∧ p.kCodeAlignment ∣ c.start ∧ ∀ x, c.Has x → ¬Used a x
  accounts : ∀ pages, Accounts p a pages → Permitted (Orderly p) (settle p) pages calls ∧
    Accounts p after (calls.foldl (settle p) pages)

theorem perform_taken {a : WasmCodeAllocator} (sound : Sound p a) {step : Step}
    (proper : Proper p a step) :
    Taken p a (perform p a step).1 (perform p a step).2.1 (perform p a step).2.2 := by
  cases step with
  | reserves region =>
    refine ⟨sound_addSpace sound proper.1 proper.2, fun x => ?_, by rintro c ⟨⟩,
      fun pages accounts => ⟨trivial, accounts_addSpace sound proper.1 proper.2 accounts⟩⟩
    exact (used_addSpace sound proper.1 proper.2 x).trans (or_iff_left (by rintro ⟨_, ⟨⟩, -⟩)).symm
  | allocates size region =>
    rcases allocateForCodeInRegion_cases sound proper.1 proper.2 with
      ⟨full, -⟩ | ⟨after, code, calls, made, handed⟩
    · rw [perform, full]
      exact ⟨sound, by simp, by rintro c ⟨⟩, fun pages accounts => ⟨trivial, accounts⟩⟩
    · rw [perform, made]
      have used := used_of_taken sound handed.owned handed.wasFree handed.free
      refine ⟨handed.sound, by simpa using used, fun c mem => ?_, handed.accounts⟩
      have same : code = c := Option.mem_some_iff.mp mem
      subst same
      refine ⟨handed.size ▸ roundUp_pos p.alignment_pos proper.1, handed.aligned, ?_⟩
      exact fun x inside used => used.2 (handed.wasFree x inside)
  | frees codes =>
    have released := freeCode_released sound proper.1 proper.2.1 proper.2.2
    exact ⟨released.sound, fun x => (or_iff_left (by rintro ⟨_, ⟨⟩, -⟩)).symm, by rintro c ⟨⟩,
      released.accounts⟩

theorem apart_of_bytes {r r' : AddressRegion} (nonempty : 0 < r.size) (nonempty' : 0 < r'.size)
    (separate : ∀ x, r.Has x → ¬r'.Has x) : Apart r r' := by
  by_contra meets
  rw [Apart] at meets
  have stop : r.stop = r.start + r.size := rfl
  have stop' : r'.stop = r'.start + r'.size := rfl
  exact separate (max r.start r'.start) ⟨by omega, by omega⟩ ⟨by omega, by omega⟩

/-- The pages that are committed are the pages that are needed, and no address is handed out
twice. -/
theorem run_from {a : WasmCodeAllocator} (sound : Sound p a) {pages : Finset ℕ}
    (accounts : Accounts p a pages) {steps : List Step}
    (proper : Permitted (Proper p) (fun a step => (perform p a step).1) a steps) :
    let after := stateAfter (perform p) a steps
    let codes := (outputs (perform p) a steps).filterMap Prod.fst
    let calls := (outputs (perform p) a steps).flatMap Prod.snd
    Sound p after ∧ (∀ x, Used a x → Used after x) ∧
      (∀ code ∈ codes, 0 < code.size ∧ p.kCodeAlignment ∣ code.start ∧
        ∀ x, code.Has x → ¬Used a x ∧ Used after x) ∧
      codes.Pairwise Apart ∧ Permitted (Orderly p) (settle p) pages calls ∧
      Accounts p after (calls.foldl (settle p) pages) := by
  induction steps generalizing a pages with
  | nil => exact ⟨sound, fun _ used => used, by rintro _ ⟨⟩, .nil, trivial, accounts⟩
  | cons step steps ih =>
    have taken := perform_taken sound proper.1
    obtain ⟨orderly, accounts'⟩ := taken.accounts pages accounts
    obtain ⟨sound', grows, fresh, apart, orderly', accounts''⟩ :=
      ih taken.sound accounts' proper.2
    have kept : ∀ x, Used a x → Used (perform p a step).1 x :=
      fun x used => (taken.used x).mpr (.inl used)
    have later : ∀ code ∈ (outputs (perform p) (perform p a step).1 steps).filterMap Prod.fst,
        0 < code.size ∧ p.kCodeAlignment ∣ code.start ∧
          ∀ x, code.Has x → ¬Used a x ∧ Used (stateAfter (perform p) a (step :: steps)) x := by
      intro code mem
      obtain ⟨nonempty, aligned, bytes⟩ := fresh code mem
      exact ⟨nonempty, aligned, fun x inside =>
        ⟨fun used => (bytes x inside).1 (kept x used), (bytes x inside).2⟩⟩
    intro after codes calls
    have parts : calls = (perform p a step).2.2 ++
        (outputs (perform p) (perform p a step).1 steps).flatMap Prod.snd := rfl
    rw [parts, permitted_append, List.foldl_append]
    refine ⟨sound', fun x used => grows x (kept x used), ?_, ?_, ⟨orderly, orderly'⟩, accounts''⟩
    · intro code mem
      cases made : (perform p a step).2.1 with
      | none =>
        simp only [codes, outputs, List.filterMap_cons, made] at mem
        exact later code mem
      | some first =>
        simp only [codes, outputs, List.filterMap_cons, made, List.mem_cons] at mem
        rcases mem with rfl | mem
        · obtain ⟨nonempty, aligned, unused⟩ := taken.fresh code made
          refine ⟨nonempty, aligned, fun x inside => ⟨unused x inside, grows x ?_⟩⟩
          exact (taken.used x).mpr (.inr ⟨code, made, inside⟩)
        · exact later code mem
    · cases made : (perform p a step).2.1 with
      | none =>
        simp only [codes, outputs, List.filterMap_cons, made]
        exact apart
      | some first =>
        simp only [codes, outputs, List.filterMap_cons, made]
        refine List.pairwise_cons.mpr ⟨fun code mem => ?_, apart⟩
        obtain ⟨nonempty, -, bytes⟩ := fresh code mem
        refine apart_of_bytes (taken.fresh first made).1 nonempty fun x inside also => ?_
        exact (bytes x also).1 ((taken.used x).mpr (.inr ⟨first, made, inside⟩))

/-- Behind every run the committed pages are those with a byte that was handed out and a byte
that was not freed, and the counters are the numbers of these pages' bytes, of the bytes that
were handed out and of those that were freed. -/
theorem pages_of_run (p : Platform) (steps : List Step)
    (proper : Permitted (Proper p) (fun a step => (perform p a step).1) empty steps) :
    let after := stateAfter (perform p) empty steps
    let codes := (outputs (perform p) empty steps).filterMap Prod.fst
    let calls := (outputs (perform p) empty steps).flatMap Prod.snd
    let pages := calls.foldl (settle p) ∅
    Permitted (Orderly p) (settle p) ∅ calls ∧
      (∀ k, k ∈ pages ↔ (∃ x, x / p.commitPageSize = k ∧ Used after x) ∧
        ∃ x, x / p.commitPageSize = k ∧ ¬Holds after.freedCodeSpace x) ∧
      after.committedCodeSpace = p.commitPageSize * pages.card ∧
      (∃ used : Finset ℕ, (∀ x, x ∈ used ↔ Used after x) ∧
        after.generatedCodeSize = used.card) ∧
      (∃ gone : Finset ℕ, (∀ x, x ∈ gone ↔ Holds after.freedCodeSpace x) ∧
        after.freedCodeSize = gone.card) ∧
      after.freedCodeSize ≤ after.generatedCodeSize ∧
      codes.Pairwise Apart ∧ ∀ code ∈ codes, p.kCodeAlignment ∣ code.start := by
  obtain ⟨sound, -, fresh, apart, orderly, accounts⟩ := run_from sound_empty accounts_empty proper
  refine ⟨orderly, fun k => ?_, accounts.committed, accounts.generated, accounts.freedSize, ?_,
    apart, fun code mem => (fresh code mem).2.1⟩
  · rw [accounts.needed, Needed]
    refine and_congr_left fun _ => ⟨fun used => ⟨_, Nat.mul_div_cancel _ p.page_pos, used⟩, ?_⟩
    rintro ⟨x, rfl, used⟩
    exact sound.used_front used
  · obtain ⟨used, memUsed, generated⟩ := accounts.generated
    obtain ⟨gone, memGone, freedSize⟩ := accounts.freedSize
    rw [generated, freedSize]
    refine Finset.card_le_card fun x mem => (memUsed x).mpr ?_
    exact sound.freed_used x ((memGone x).mp mem)

def device : Platform where
  kCodeAlignment := 64
  commitPageSize := 16384
  allocatePageSize := 16384
  overlap := commonPart
  alignment_pos := by decide
  page_pos := by decide
  allocatePage_pos := by decide
  aligned := by decide
  paged := by decide

def fillsAndFrees : List Step :=
  [.reserves ⟨65536, 49152⟩, .allocates 100 ⟨0, 2 ^ 64 - 1⟩, .allocates 20000 ⟨65536, 49152⟩,
    .frees [⟨65664, 20032⟩, ⟨65536, 128⟩]]

/-- The first page is decommitted, and the second one is kept for its rest. -/
theorem pages_of_run_fillsAndFrees :
    outputs (perform device) empty fillsAndFrees =
        [(none, []), (some ⟨65536, 128⟩, [.commit ⟨65536, 16384⟩]),
          (some ⟨65664, 20032⟩, [.commit ⟨81920, 16384⟩]), (none, [.decommit ⟨65536, 16384⟩])] ∧
      (stateAfter (perform device) empty fillsAndFrees).committedCodeSpace = 16384 ∧
      ((outputs (perform device) empty fillsAndFrees).filterMap Prod.fst).Pairwise Apart := by
  have live : ∀ code ∈ [(⟨65664, 20032⟩ : AddressRegion), ⟨65536, 128⟩], ∀ x, code.Has x →
      Live (stateAfter (perform device) empty (fillsAndFrees.take 3)) x := by
    have owned : (stateAfter (perform device) empty (fillsAndFrees.take 3)).ownedCodeSpace =
        [⟨65536, 49152⟩] := by decide +kernel
    have free : (stateAfter (perform device) empty (fillsAndFrees.take 3)).freeCodeSpace.entries =
        [(85696, 28992)] := by decide +kernel
    have freed : (stateAfter (perform device) empty (fillsAndFrees.take 3)).freedCodeSpace.entries =
        [] := by decide +kernel
    intro code mem x inside
    have bounds : 65536 ≤ x ∧ x < 85696 := by
      simp only [List.mem_cons, List.not_mem_nil, or_false] at mem
      rcases mem with rfl | rfl <;> simp only [AddressRegion.Has, AddressRegion.stop] at inside <;>
        omega
    rw [Live, Used, Owned, holds_iff_entries, holds_iff_entries, owned, free, freed]
    simp only [List.mem_singleton, exists_eq_left, AddressRegion.Has, AddressRegion.stop,
      List.not_mem_nil, false_and, exists_false, not_false_eq_true, and_true]
    omega
  have apart : [(⟨65664, 20032⟩ : AddressRegion), ⟨65536, 128⟩].Pairwise Apart := by
    simp [Apart, AddressRegion.stop]
  have run := pages_of_run device fillsAndFrees
    ⟨⟨⟨by decide, by decide, by decide⟩, by rintro _ ⟨⟩⟩, ⟨by decide, by decide⟩,
      ⟨by decide, by decide⟩, ⟨by decide, apart, live⟩, trivial⟩
  exact ⟨by decide +kernel, by decide +kernel, run.2.2.2.2.2.2.1⟩

end BlinkerFluid.CodeAllocator
