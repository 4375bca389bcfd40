import Mathlib.Algebra.Group.Nat.Defs
import BlinkerFluid.SpanMap
import BlinkerFluid.StepRun

/-! A pool of disjoint address regions. Merging joins a region with the regions beside it,
and allocating takes the first part of a region that is large enough. A gap stays between
any two regions, so the pool depends on the free addresses alone. -/

namespace BlinkerFluid.AllocationPool
open OrderedMap SpanMap StepRun

structure AddressRegion where
  start : ℕ
  size : ℕ
deriving DecidableEq

namespace AddressRegion

def stop (region : AddressRegion) : ℕ := region.start + region.size

def Has (region : AddressRegion) (x : ℕ) : Prop := region.start ≤ x ∧ x < region.stop

instance (region : AddressRegion) (x : ℕ) : Decidable (region.Has x) := by
  unfold Has
  infer_instance

def none : AddressRegion := ⟨0, 0⟩

end AddressRegion

/-- The overlap of two regions, whatever its start where it is empty. -/
structure Overlap where
  get : AddressRegion → AddressRegion → AddressRegion
  size_eq : ∀ a b, (get a b).size = min a.stop b.stop - max a.start b.start
  start_eq : ∀ a b, 0 < (get a b).size → (get a b).start = max a.start b.start

abbrev Pool := KeyMap ℕ ℕ

def insert (pool : Pool) (region : AddressRegion) : Pool := pool.emplace region.start region.size

/-- The pool with a region that is not adjacent to the region above it. -/
def mergeBelow (pool : Pool) (region : AddressRegion) : Pool × AddressRegion :=
  match pool.last? fun key => key < region.start with
  | none => (insert pool region, region)
  | some below =>
    if below.1 + below.2 = region.start then
      let merged : AddressRegion := ⟨below.1, below.2 + region.size⟩
      (insert (pool.erase below.1) merged, merged)
    else (insert pool region, region)

def merge (pool : Pool) (region : AddressRegion) : Pool × AddressRegion :=
  match pool.first? fun key => region.start ≤ key with
  | none => mergeBelow pool region
  | some above =>
    if region.stop = above.1 then
      mergeBelow (pool.erase above.1) ⟨region.start, region.size + above.2⟩
    else mergeBelow pool region

/-- The region that is returned, and what is left of the pool's region. -/
def take (pool : Pool) (old taken : AddressRegion) : Pool :=
  let pool := pool.erase old.start
  if taken.size = old.size then pool
  else if taken.start = old.start then insert pool ⟨old.start + taken.size, old.size - taken.size⟩
  else if taken.stop = old.stop then insert pool ⟨old.start, old.size - taken.size⟩
  else
    insert (insert pool ⟨old.start, taken.start - old.start⟩) ⟨taken.stop, old.stop - taken.stop⟩

def allocateFrom (o : Overlap) (pool : Pool) (size : ℕ) (region : AddressRegion) :
    List (ℕ × ℕ) → Pool × AddressRegion
  | [] => (pool, .none)
  | (start, length) :: later =>
    let overlap := o.get ⟨start, length⟩ region
    if overlap.size < size then allocateFrom o pool size region later
    else
      let taken : AddressRegion := ⟨overlap.start, size⟩
      (take pool ⟨start, length⟩ taken, taken)

/-- The search begins at the last region that starts before the given one. -/
def searchOrder (pool : Pool) (region : AddressRegion) : List (ℕ × ℕ) :=
  (pool.last? fun key => key < region.start).toList ++
    (pool.keep fun key => region.start ≤ key).entries

def allocateInRegion (o : Overlap) (pool : Pool) (size : ℕ) (region : AddressRegion) :
    Pool × AddressRegion :=
  allocateFrom o pool size region (searchOrder pool region)

def kUnrestrictedRegion : AddressRegion := ⟨0, 2 ^ 64 - 1⟩

def allocate (o : Overlap) (pool : Pool) (size : ℕ) : Pool × AddressRegion :=
  allocateInRegion o pool size kUnrestrictedRegion

/-! What a pool stands for. -/

def Holds (pool : Pool) (x : ℕ) : Prop := Covered id pool x

theorem holds_iff (pool : Pool) (x : ℕ) :
    Holds pool x ↔ ∃ start size, pool.get? start = some size ∧ start ≤ x ∧ x < start + size :=
  Iff.rfl

/-- No region is empty, and a gap lies between any two. -/
structure Canonical (pool : Pool) : Prop where
  positive : ∀ start size, pool.get? start = some size → 0 < size
  gaps : ∀ start size start' size', pool.get? start = some size →
    pool.get? start' = some size' → start < start' → start + size < start'

theorem Canonical.separated {pool : Pool} (canonical : Canonical pool) : Separated id pool :=
  ⟨canonical.positive, canonical.gaps⟩

theorem Canonical.beside {pool : Pool} (canonical : Canonical pool) {start start' size size' : ℕ}
    (stored : pool.get? start = some size) (stored' : pool.get? start' = some size')
    (other : start' ≠ start) : start' + size' < start ∨ start + size < start' :=
  canonical.separated.beside stored stored' other

theorem Canonical.eq_of_holds {pool pool' : Pool} (canonical : Canonical pool)
    (canonical' : Canonical pool') (same : ∀ x, Holds pool x ↔ Holds pool' x) : pool = pool' :=
  canonical.separated.eq_of_covered canonical'.separated same

theorem canonical_empty : Canonical .empty := ⟨by rintro _ _ ⟨⟩, by rintro _ _ _ _ ⟨⟩⟩

/-- None of the addresses of a region are in the pool. -/
def Avoids (pool : Pool) (region : AddressRegion) : Prop := ∀ x, region.Has x → ¬Holds pool x

theorem Canonical.outside {pool : Pool} (canonical : Canonical pool) {region : AddressRegion}
    (nonempty : 0 < region.size) (avoids : Avoids pool region) {start size : ℕ}
    (stored : pool.get? start = some size) :
    start + size ≤ region.start ∨ region.stop ≤ start := by
  have positive := canonical.positive _ _ stored
  by_contra meets
  rw [AddressRegion.stop] at meets
  refine avoids (max start region.start) ⟨by omega, ?_⟩
    ((holds_iff _ _).mpr ⟨start, size, stored, by omega, by omega⟩)
  rw [AddressRegion.stop]
  omega

theorem canonical_insert {pool : Pool} (canonical : Canonical pool) {region : AddressRegion}
    (nonempty : 0 < region.size) (gaps : ∀ start size, pool.get? start = some size →
      start + size < region.start ∨ region.stop < start) :
    Canonical (insert pool region) ∧ (insert pool region).get? region.start = some region.size ∧
      ∀ x, Holds (insert pool region) x ↔ Holds pool x ∨ region.Has x := by
  have absent : pool.get? region.start = none := by
    cases found : pool.get? region.start with
    | none => rfl
    | some size =>
      have := gaps _ _ found
      rw [AddressRegion.stop] at this
      omega
  have get : ∀ key, (insert pool region).get? key =
      if key = region.start then some region.size else pool.get? key := by
    intro key
    rw [insert, KeyMap.get?_emplace, absent]
    rfl
  refine ⟨⟨?_, ?_⟩, by rw [get, if_pos rfl], fun x => ?_⟩
  · intro start size stored
    rw [get] at stored
    split_ifs at stored with here
    · cases stored
      exact nonempty
    · exact canonical.positive _ _ stored
  · intro start size start' size' stored stored' less
    rw [get] at stored stored'
    split_ifs at stored stored' with here here'
    · omega
    · cases stored
      have := gaps _ _ stored'
      rw [AddressRegion.stop] at this
      omega
    · cases stored'
      have := gaps _ _ stored
      rw [AddressRegion.stop] at this
      omega
    · exact canonical.gaps _ _ _ _ stored stored' less
  · rw [holds_iff, holds_iff]
    constructor
    · rintro ⟨start, size, stored, lower, upper⟩
      rw [get] at stored
      split_ifs at stored with here
      · subst here
        cases stored
        exact .inr ⟨lower, upper⟩
      · exact .inl ⟨start, size, stored, lower, upper⟩
    · rintro (⟨start, size, stored, lower, upper⟩ | ⟨lower, upper⟩)
      · refine ⟨start, size, ?_, lower, upper⟩
        rw [get, if_neg, stored]
        rintro rfl
        rw [absent] at stored
        cases stored
      · exact ⟨region.start, region.size, by rw [get, if_pos rfl], lower, upper⟩

theorem canonical_erase {pool : Pool} (canonical : Canonical pool) {start size : ℕ}
    (stored : pool.get? start = some size) : Canonical (pool.erase start) ∧
      ∀ x, Holds (pool.erase start) x ↔ Holds pool x ∧ ¬(start ≤ x ∧ x < start + size) := by
  have old : ∀ key length, (pool.erase start).get? key = some length →
      pool.get? key = some length ∧ key ≠ start := by
    intro key length found
    rw [KeyMap.get?_erase] at found
    split_ifs at found with here
    exact ⟨found, here⟩
  refine ⟨⟨?_, ?_⟩, fun x => ?_⟩
  · exact fun key length found => canonical.positive _ _ (old _ _ found).1
  · exact fun key length key' length' found found' =>
      canonical.gaps _ _ _ _ (old _ _ found).1 (old _ _ found').1
  · rw [holds_iff, holds_iff]
    constructor
    · rintro ⟨key, length, found, lower, upper⟩
      obtain ⟨found', other⟩ := old _ _ found
      have := canonical.beside stored found' other
      exact ⟨⟨key, length, found', lower, upper⟩, by omega⟩
    · rintro ⟨⟨key, length, found, lower, upper⟩, outside⟩
      refine ⟨key, length, ?_, lower, upper⟩
      rw [KeyMap.get?_erase, if_neg, found]
      rintro rfl
      rw [stored] at found
      cases found
      exact outside ⟨lower, upper⟩

/-- What merging leaves: the region is joined with what it touches. -/
structure Merged (pool after : Pool) (region joined : AddressRegion) : Prop where
  canonical : Canonical after
  holds : ∀ x, Holds after x ↔ Holds pool x ∨ region.Has x
  stored : after.get? joined.start = some joined.size
  contains : joined.start ≤ region.start ∧ region.stop ≤ joined.stop

theorem mergeBelow_merged {pool : Pool} (canonical : Canonical pool) {region : AddressRegion}
    (nonempty : 0 < region.size) (outside : ∀ start size, pool.get? start = some size →
      start + size ≤ region.start ∨ region.stop < start) :
    Merged pool (mergeBelow pool region).1 region (mergeBelow pool region).2 := by
  -- Only the last region below can touch the region.
  have apart : (∀ start size, pool.get? start = some size → start + size ≠ region.start) →
      Merged pool (insert pool region) region region := by
    intro touches
    obtain ⟨canonical', stored, holds⟩ := canonical_insert canonical nonempty
      fun start size found => by
        have := outside _ _ found
        have := touches _ _ found
        omega
    exact ⟨canonical', holds, stored, le_rfl, le_rfl⟩
  rw [mergeBelow]
  cases found : pool.last? fun key => key < region.start with
  | none =>
    refine apart fun start size stored touches => ?_
    have positive := canonical.positive _ _ stored
    rw [(pool.last?_eq_none_iff _).mp found start (by omega)] at stored
    cases stored
  | some below =>
    obtain ⟨start, size⟩ := below
    obtain ⟨stored, less, final⟩ := (pool.last?_eq_some_iff _ _ _).mp found
    have positive := canonical.positive _ _ stored
    simp only
    split_ifs with touches
    · obtain ⟨erased, holdsErased⟩ := canonical_erase canonical stored
      have stopEq : (⟨start, size + region.size⟩ : AddressRegion).stop = region.stop := by
        simp only [AddressRegion.stop]
        omega
      have gaps : ∀ start' size', (pool.erase start).get? start' = some size' →
          start' + size' < start ∨ region.stop < start' := by
        intro start' size' found'
        rw [KeyMap.get?_erase] at found'
        split_ifs at found' with here
        have := canonical.beside stored found' here
        have := outside _ _ found'
        have := canonical.positive _ _ found'
        omega
      obtain ⟨canonical', stored', holds⟩ := canonical_insert erased
        (show 0 < (⟨start, size + region.size⟩ : AddressRegion).size by simp only; omega)
        (fun start' size' found' => by rw [stopEq]; exact gaps start' size' found')
      refine ⟨canonical', fun x => ?_, stored', by simp only; omega, stopEq.ge⟩
      rw [holds, holdsErased]
      have part : (⟨start, size + region.size⟩ : AddressRegion).Has x ↔
          (start ≤ x ∧ x < start + size) ∨ region.Has x := by
        simp only [AddressRegion.Has, AddressRegion.stop]
        omega
      have inPool : start ≤ x ∧ x < start + size → Holds pool x :=
        fun inside => (holds_iff _ _).mpr ⟨start, size, stored, inside⟩
      rw [part]
      tauto
    · refine apart fun start' size' stored' touches' => ?_
      rcases Nat.lt_trichotomy start' start with early | same | late
      · have := canonical.gaps _ _ _ _ stored' stored early
        omega
      · subst same
        rw [stored] at stored'
        cases stored'
        exact touches touches'
      · have positive' := canonical.positive _ _ stored'
        rw [final start' late (by omega)] at stored'
        cases stored'

theorem merge_merged {pool : Pool} (canonical : Canonical pool) {region : AddressRegion}
    (nonempty : 0 < region.size) (avoids : Avoids pool region) :
    Merged pool (merge pool region).1 region (merge pool region).2 := by
  have outside : ∀ start size, pool.get? start = some size →
      start + size ≤ region.start ∨ region.stop ≤ start :=
    fun start size stored => canonical.outside nonempty avoids stored
  have stop : region.stop = region.start + region.size := rfl
  rw [merge]
  cases found : pool.first? fun key => region.start ≤ key with
  | none =>
    refine mergeBelow_merged canonical nonempty fun start size stored => ?_
    have := outside _ _ stored
    have : ¬region.start ≤ start := by
      intro after
      rw [(pool.first?_eq_none_iff _).mp found start after] at stored
      cases stored
    omega
  | some above =>
    obtain ⟨start, size⟩ := above
    obtain ⟨stored, after, initial⟩ := (pool.first?_eq_some_iff _ _ _).mp found
    simp only
    split_ifs with touches
    · obtain ⟨erased, holdsErased⟩ := canonical_erase canonical stored
      have positive := canonical.positive _ _ stored
      have both : (⟨region.start, region.size + size⟩ : AddressRegion).stop = start + size := by
        simp only [AddressRegion.stop]
        omega
      have merged := mergeBelow_merged erased
        (show 0 < (⟨region.start, region.size + size⟩ : AddressRegion).size by simp only; omega)
        (fun start' size' found' => by
          rw [KeyMap.get?_erase] at found'
          split_ifs at found' with here
          have := canonical.beside stored found' here
          have := outside _ _ found'
          have := canonical.positive _ _ found'
          rw [both]
          simp only
          omega)
      refine ⟨merged.canonical, fun x => ?_, merged.stored, ?_⟩
      · rw [merged.holds, holdsErased]
        have part : (⟨region.start, region.size + size⟩ : AddressRegion).Has x ↔
            region.Has x ∨ (start ≤ x ∧ x < start + size) := by
          simp only [AddressRegion.Has, AddressRegion.stop]
          omega
        have inPool : start ≤ x ∧ x < start + size → Holds pool x :=
          fun inside => (holds_iff _ _).mpr ⟨start, size, stored, inside⟩
        rw [part]
        tauto
      · have contains := merged.contains
        rw [both] at contains
        simp only at contains
        exact ⟨contains.1, by omega⟩
    · refine mergeBelow_merged canonical nonempty fun start' size' stored' => ?_
      have := outside _ _ stored'
      have : start' ≠ region.stop := by
        intro here
        rcases Nat.lt_trichotomy start' start with early | same | late
        · rw [initial start' early (by omega)] at stored'
          cases stored'
        · omega
        · have := outside _ _ stored
          have := canonical.positive _ _ stored
          omega
      omega

/-! Allocation. -/

/-- The addresses from `first` on fit into the pool and into the region. -/
def Fits (pool : Pool) (region : AddressRegion) (size first : ℕ) : Prop :=
  region.start ≤ first ∧ first + size ≤ region.stop ∧
    ∀ x, first ≤ x → x < first + size → Holds pool x

/-- A place for an allocation lies in one region of the pool, and in its overlap. -/
theorem Canonical.fits_iff {pool : Pool} (canonical : Canonical pool) (o : Overlap)
    {region : AddressRegion} {size first : ℕ} (nonempty : 0 < size) :
    Fits pool region size first ↔ ∃ start length, pool.get? start = some length ∧
      (o.get ⟨start, length⟩ region).start ≤ first ∧
      first + size ≤ (o.get ⟨start, length⟩ region).start + (o.get ⟨start, length⟩ region).size ∧
      0 < (o.get ⟨start, length⟩ region).size := by
  constructor
  · rintro ⟨lower, upper, held⟩
    obtain ⟨start, length, stored, low, high⟩ := canonical.separated.run_within
      (show first < first + size by omega) held
    simp only [id] at high
    have sizes := o.size_eq ⟨start, length⟩ region
    have starts := o.start_eq ⟨start, length⟩ region
    rw [AddressRegion.stop] at sizes
    simp only at sizes starts
    exact ⟨start, length, stored, by rw [starts (by omega)]; omega,
      by rw [starts (by omega)]; omega, by omega⟩
  · rintro ⟨start, length, stored, low, high, positive⟩
    have sizes := o.size_eq ⟨start, length⟩ region
    have starts := o.start_eq ⟨start, length⟩ region positive
    rw [AddressRegion.stop] at sizes
    simp only at sizes starts
    refine ⟨by omega, by omega, fun x from_x to_x => ?_⟩
    exact (holds_iff _ _).mpr ⟨start, length, stored, by omega, by omega⟩

theorem remains_iff {held old taken rest : Prop} (stored : old → held) (within : taken → old)
    (split : rest ↔ old ∧ ¬taken) : (held ∧ ¬old) ∨ rest ↔ held ∧ ¬taken := by
  rw [split]
  constructor
  · rintro (⟨inside, outside⟩ | ⟨inside, free⟩)
    · exact ⟨inside, fun gone => outside (within gone)⟩
    · exact ⟨stored inside, free⟩
  · rintro ⟨inside, free⟩
    by_cases here : old
    · exact .inr ⟨here, free⟩
    · exact .inl ⟨inside, here⟩

section Parts

variable {pool : Pool} (canonical : Canonical pool) {start length : ℕ}
  (stored : pool.get? start = some length)
include canonical stored

theorem beside_erased {start' size' : ℕ} (found : (pool.erase start).get? start' = some size') :
    start' + size' < start ∨ start + length < start' := by
  rw [KeyMap.get?_erase] at found
  split_ifs at found with here
  exact canonical.beside stored found here

theorem canonical_insert_part (part : AddressRegion) (positive : 0 < part.size)
    (low : start ≤ part.start) (high : part.stop ≤ start + length) :
    Canonical (insert (pool.erase start) part) ∧
      (insert (pool.erase start) part).get? part.start = some part.size ∧
      ∀ x, Holds (insert (pool.erase start) part) x ↔
        (Holds pool x ∧ ¬(start ≤ x ∧ x < start + length)) ∨ part.Has x := by
  obtain ⟨erased, holdsErased⟩ := canonical_erase canonical stored
  obtain ⟨canonical', part', holds⟩ := canonical_insert erased positive fun start' size' found => by
    have := beside_erased canonical stored found
    rw [AddressRegion.stop] at high ⊢
    omega
  exact ⟨canonical', part', fun x => by rw [holds, holdsErased]⟩

theorem canonical_insert_parts (front back : AddressRegion) (positive : 0 < front.size)
    (positive' : 0 < back.size) (low : start ≤ front.start) (gap : front.stop < back.start)
    (high : back.stop ≤ start + length) :
    Canonical (insert (insert (pool.erase start) front) back) ∧
      ∀ x, Holds (insert (insert (pool.erase start) front) back) x ↔
        (Holds pool x ∧ ¬(start ≤ x ∧ x < start + length)) ∨ (front.Has x ∨ back.Has x) := by
  have inner : front.stop ≤ start + length := by
    rw [AddressRegion.stop] at high
    omega
  obtain ⟨canonical', front', holds⟩ :=
    canonical_insert_part canonical stored front positive low inner
  obtain ⟨canonical'', -, holds'⟩ := canonical_insert canonical' positive'
    fun start' size' found => by
      rw [AddressRegion.stop] at gap high ⊢
      by_cases here : start' = front.start
      · rw [here, front'] at found
        cases found
        omega
      · rw [insert, KeyMap.get?_emplace, if_neg here] at found
        have := beside_erased canonical stored found
        omega
  exact ⟨canonical'', fun x => by rw [holds', holds, or_assoc]⟩

theorem take_taken (taken : AddressRegion) (nonempty : 0 < taken.size)
    (lower : start ≤ taken.start) (upper : taken.stop ≤ start + length) :
    Canonical (take pool ⟨start, length⟩ taken) ∧
      ∀ x, Holds (take pool ⟨start, length⟩ taken) x ↔ Holds pool x ∧ ¬taken.Has x := by
  have inPool (x : ℕ) (inside : start ≤ x ∧ x < start + length) : Holds pool x :=
    (holds_iff _ _).mpr ⟨start, length, stored, inside⟩
  have stop : taken.stop = taken.start + taken.size := rfl
  have within (x : ℕ) (gone : taken.Has x) : start ≤ x ∧ x < start + length := by
    rw [AddressRegion.Has] at gone
    omega
  rw [take]
  simp only
  split_ifs with whole front tail
  · obtain ⟨erased, holds⟩ := canonical_erase canonical stored
    refine ⟨erased, fun x => ?_⟩
    have first : taken.start = start := by omega
    rw [holds, AddressRegion.Has, stop, first, whole]
  · obtain ⟨canonical', -, holds⟩ := canonical_insert_part canonical stored
      ⟨start + taken.size, length - taken.size⟩
      (by simp only; omega) (by simp only; omega) (by simp only [AddressRegion.stop]; omega)
    refine ⟨canonical', fun x => (holds x).trans (remains_iff (inPool x) (within x) ?_)⟩
    simp only [AddressRegion.Has, AddressRegion.stop]
    omega
  · obtain ⟨canonical', -, holds⟩ := canonical_insert_part canonical stored
      ⟨start, length - taken.size⟩
      (by simp only; omega) le_rfl (by simp only [AddressRegion.stop]; omega)
    refine ⟨canonical', fun x => (holds x).trans (remains_iff (inPool x) (within x) ?_)⟩
    simp only [AddressRegion.Has, AddressRegion.stop] at tail ⊢
    omega
  · have oldStop : (⟨start, length⟩ : AddressRegion).stop = start + length := rfl
    rw [oldStop] at tail ⊢
    obtain ⟨canonical', holds⟩ := canonical_insert_parts canonical stored
      ⟨start, taken.start - start⟩ ⟨taken.stop, start + length - taken.stop⟩
      (by simp only; omega) (by simp only; omega) le_rfl
      (by simp only [AddressRegion.stop]; omega) (by simp only [AddressRegion.stop]; omega)
    refine ⟨canonical', fun x => (holds x).trans (remains_iff (inPool x) (within x) ?_)⟩
    simp only [AddressRegion.Has, AddressRegion.stop]
    omega

end Parts

/-- How an allocation ends: nothing fits, or the lowest fitting addresses are taken. -/
inductive Allocated (pool : Pool) (size : ℕ) (region : AddressRegion) :
    Pool × AddressRegion → Prop
  | full : (∀ first, ¬Fits pool region size first) → Allocated pool size region (pool, .none)
  | taken {after : Pool} {first : ℕ} : Fits pool region size first →
    (∀ other, Fits pool region size other → first ≤ other) → Canonical after →
    (∀ x, Holds after x ↔ Holds pool x ∧ ¬(first ≤ x ∧ x < first + size)) →
    Allocated pool size region (after, ⟨first, size⟩)

theorem allocateFrom_allocated {pool : Pool} (canonical : Canonical pool) (o : Overlap)
    {size : ℕ} (nonempty : 0 < size) {region : AddressRegion} {later : List (ℕ × ℕ)}
    (sorted : later.Pairwise fun a b => a.1 < b.1)
    (stored : ∀ start length, (start, length) ∈ later → pool.get? start = some length)
    (all : ∀ start length, pool.get? start = some length →
      size ≤ (o.get ⟨start, length⟩ region).size → (start, length) ∈ later) :
    Allocated pool size region (allocateFrom o pool size region later) := by
  induction later with
  | nil =>
    refine .full fun first fits => ?_
    obtain ⟨start, length, found, low, high, -⟩ := (canonical.fits_iff o nonempty).mp fits
    exact absurd (all start length found (by omega)) List.not_mem_nil
  | cons entry later ih =>
    obtain ⟨start, length⟩ := entry
    obtain ⟨first, rest⟩ := List.pairwise_cons.mp sorted
    have found := stored start length List.mem_cons_self
    rw [allocateFrom]
    simp only
    split_ifs with short
    · refine ih rest (fun start' length' mem => stored _ _ (List.mem_cons_of_mem _ mem)) ?_
      intro start' length' found' large
      rcases List.mem_cons.mp (all start' length' found' large) with same | mem
      · obtain ⟨rfl, rfl⟩ := Prod.mk.inj same
        omega
      · exact mem
    · have sizes := o.size_eq ⟨start, length⟩ region
      have starts := o.start_eq ⟨start, length⟩ region (by omega)
      have oldStop : (⟨start, length⟩ : AddressRegion).stop = start + length := rfl
      rw [oldStop] at sizes
      simp only at sizes starts
      obtain ⟨canonical', holds⟩ := take_taken canonical found
        ⟨(o.get ⟨start, length⟩ region).start, size⟩ nonempty (by simp only; omega)
        (by simp only [AddressRegion.stop]; omega)
      refine .taken ?_ ?_ canonical' holds
      · exact (canonical.fits_iff o nonempty).mpr
          ⟨start, length, found, le_rfl, by omega, by omega⟩
      · intro other fits
        obtain ⟨start', length', found', low, high, positive⟩ :=
          (canonical.fits_iff o nonempty).mp fits
        rcases List.mem_cons.mp (all start' length' found' (by omega)) with same | mem
        · obtain ⟨rfl, rfl⟩ := Prod.mk.inj same
          exact low
        · have before := first _ mem
          have starts' := o.start_eq ⟨start', length'⟩ region positive
          simp only at before starts'
          omega

theorem allocateInRegion_allocated {pool : Pool} (canonical : Canonical pool) (o : Overlap)
    {size : ℕ} (nonempty : 0 < size) (region : AddressRegion) :
    Allocated pool size region (allocateInRegion o pool size region) := by
  have tail : ∀ start length, (start, length) ∈ (pool.keep fun key => region.start ≤ key).entries ↔
      pool.get? start = some length ∧ region.start ≤ start :=
    fun start length => pool.mem_keep _ (start, length)
  refine allocateFrom_allocated canonical o nonempty ?_ ?_ ?_
  · rw [searchOrder]
    cases found : pool.last? fun key => key < region.start with
    | none => exact KeyMap.sorted _
    | some below =>
      obtain ⟨stored, less, -⟩ := (pool.last?_eq_some_iff _ below.1 below.2).mp found
      refine List.pairwise_cons.mpr ⟨fun entry mem => ?_, KeyMap.sorted _⟩
      have := ((tail entry.1 entry.2).mp mem).2
      omega
  · intro start length mem
    rcases List.mem_append.mp mem with below | above
    · exact ((pool.last?_eq_some_iff _ _ _).mp (Option.mem_toList.mp below)).1
    · exact ((tail start length).mp above).1
  · intro start length stored large
    rw [searchOrder, List.mem_append, tail]
    by_cases after : region.start ≤ start
    · exact .inr ⟨stored, after⟩
    · refine .inl (Option.mem_toList.mpr ((pool.last?_eq_some_iff _ _ _).mpr
        ⟨stored, by omega, fun key later early => ?_⟩))
      -- A later region below would end this one in front of the given region.
      cases found : pool.get? key with
      | none => rfl
      | some length' =>
        have := canonical.gaps _ _ _ _ stored found later
        have sizes := o.size_eq ⟨start, length⟩ region
        rw [AddressRegion.stop] at sizes
        simp only at sizes
        omega

/-! Runs of requests, against the set of free addresses. -/

inductive Request
  | merge (region : AddressRegion)
  | allocate (size : ℕ) (region : AddressRegion)
deriving DecidableEq

def serve (o : Overlap) (pool : Pool) : Request → Pool × AddressRegion
  | .merge region => merge pool region
  | .allocate size region => allocateInRegion o pool size region

/-- What the assertions ask of a request: the pool's own of a merge, and `DCHECK_LT(0, size)` of
the code allocator in front of it. -/
def Proper (free : ℕ → Prop) : Request → Prop
  | .merge region => 0 < region.size ∧ ∀ x, region.Has x → ¬free x
  | .allocate size _ => 0 < size

/-- A run of free addresses that cannot be made longer. -/
def WholeRun (free : ℕ → Prop) (run : AddressRegion) : Prop :=
  (∀ x, run.Has x → free x) ∧ ¬free run.stop ∧ ∀ x, x + 1 = run.start → ¬free x

/-- The answer to a request where some addresses are free, and the free addresses then. -/
inductive Served (free : ℕ → Prop) : Request → AddressRegion → (ℕ → Prop) → Prop
  | merged {region run : AddressRegion} : WholeRun (fun x => free x ∨ region.Has x) run →
    run.start ≤ region.start → region.stop ≤ run.stop →
    Served free (.merge region) run fun x => free x ∨ region.Has x
  | full {size : ℕ} {region : AddressRegion} : (∀ first, region.start ≤ first →
      first + size ≤ region.stop → ¬∀ x, first ≤ x → x < first + size → free x) →
    Served free (.allocate size region) .none free
  | lowest {size first : ℕ} {region : AddressRegion} : region.start ≤ first →
    first + size ≤ region.stop → (∀ x, first ≤ x → x < first + size → free x) →
    (∀ other, region.start ≤ other → other + size ≤ region.stop →
      (∀ x, other ≤ x → x < other + size → free x) → first ≤ other) →
    Served free (.allocate size region) ⟨first, size⟩
      fun x => free x ∧ ¬(first ≤ x ∧ x < first + size)

def Follows : (ℕ → Prop) → List (Request × AddressRegion) → (ℕ → Prop) → Prop
  | free, [], final => final = free
  | free, (request, answer) :: later, final =>
    ∃ next, Served free request answer next ∧ Follows next later final

theorem WholeRun.unique {free : ℕ → Prop} {run run' : AddressRegion} (whole : WholeRun free run)
    (whole' : WholeRun free run') {x : ℕ} (inside : run.Has x) (inside' : run'.Has x) :
    run = run' := by
  have first : ∀ {a b : AddressRegion}, WholeRun free a → WholeRun free b → a.Has x → b.Has x →
      a.start ≤ b.start := by
    intro a b wholeA wholeB insideA insideB
    by_contra later
    refine wholeA.2.2 (a.start - 1) (by omega) (wholeB.1 _ ⟨by omega, ?_⟩)
    have := insideA.1
    have := insideB.2
    omega
  have last : ∀ {a b : AddressRegion}, WholeRun free a → WholeRun free b → a.Has x → b.Has x →
      b.stop ≤ a.stop := by
    intro a b wholeA wholeB insideA insideB
    by_contra longer
    refine wholeA.2.1 (wholeB.1 _ ⟨?_, by omega⟩)
    have := insideA.2
    have := insideB.1
    omega
  have starts := le_antisymm (first whole whole' inside inside')
    (first whole' whole inside' inside)
  have stops := le_antisymm (last whole' whole inside' inside) (last whole whole' inside inside')
  rw [AddressRegion.stop, AddressRegion.stop] at stops
  obtain ⟨start, size⟩ := run
  obtain ⟨start', size'⟩ := run'
  simp only at starts stops
  rw [AddressRegion.mk.injEq]
  omega

theorem Served.unique {free next next' : ℕ → Prop} {request : Request}
    {answer answer' : AddressRegion} (proper : Proper free request)
    (served : Served free request answer next) (served' : Served free request answer' next') :
    answer = answer' ∧ next = next' := by
  cases served with
  | merged whole starts stops =>
    rename_i region
    cases served' with
    | merged whole' starts' stops' =>
      have nonempty := proper.1
      have stop : region.stop = region.start + region.size := rfl
      exact ⟨whole.unique whole' (x := region.start) ⟨starts, by omega⟩ ⟨starts', by omega⟩, rfl⟩
  | full none =>
    cases served' with
    | full => exact ⟨rfl, rfl⟩
    | lowest lower upper all => exact absurd all (none _ lower upper)
  | lowest lower upper all least =>
    cases served' with
    | full none => exact absurd all (none _ lower upper)
    | lowest lower' upper' all' least' =>
      have same := le_antisymm (least _ lower' upper' all') (least' _ lower upper all)
      subst same
      exact ⟨rfl, rfl⟩

theorem serve_served {pool : Pool} (canonical : Canonical pool) (o : Overlap) {request : Request}
    (proper : Proper (Holds pool) request) :
    Canonical (serve o pool request).1 ∧
      Served (Holds pool) request (serve o pool request).2 (Holds (serve o pool request).1) := by
  cases request with
  | merge region =>
    have merged := merge_merged canonical proper.1 proper.2
    have same : Holds (merge pool region).1 = fun x => Holds pool x ∨ region.Has x :=
      funext fun x => propext (merged.holds x)
    refine ⟨merged.canonical, ?_⟩
    rw [serve, same]
    refine .merged ?_ merged.contains.1 merged.contains.2
    rw [← same]
    refine ⟨fun x inside => ?_, ?_, fun x front => ?_⟩
    · exact (holds_iff _ _).mpr ⟨_, _, merged.stored, inside.1, inside.2⟩
    · exact merged.canonical.separated.stop_uncovered merged.stored
    · exact merged.canonical.separated.front_uncovered merged.stored front
  | allocate size region =>
    rw [serve]
    have allocated := allocateInRegion_allocated canonical o proper region
    cases done : allocateInRegion o pool size region with
    | mk after answer =>
      rw [done] at allocated
      cases allocated with
      | full none =>
        exact ⟨canonical, .full fun first lower upper all => none first ⟨lower, upper, all⟩⟩
      | taken fits least canonical' holds =>
        have same : Holds after = _ := funext fun x => propext (holds x)
        refine ⟨canonical', ?_⟩
        rw [same]
        exact .lowest fits.1 fits.2.1 fits.2.2
          fun other lower upper all => least other ⟨lower, upper, all⟩

/-- Every run of proper requests follows the set of free addresses, and no other answers do. -/
theorem run_from (o : Overlap) {pool : Pool} (canonical : Canonical pool) {requests : List Request}
    (proper : Permitted (fun pool request => Proper (Holds pool) request)
      (fun pool request => (serve o pool request).1) pool requests) :
    Canonical (stateAfter (serve o) pool requests) ∧
      Follows (Holds pool) (requests.zip (outputs (serve o) pool requests))
        (Holds (stateAfter (serve o) pool requests)) ∧
      ∀ answers final, answers.length = requests.length →
        Follows (Holds pool) (requests.zip answers) final →
        answers = outputs (serve o) pool requests := by
  induction requests generalizing pool with
  | nil => exact ⟨canonical, rfl, fun answers _ length _ => List.length_eq_zero_iff.mp length⟩
  | cons request requests ih =>
    obtain ⟨canonical', served⟩ := serve_served canonical o proper.1
    obtain ⟨last, follows, only⟩ := ih canonical' proper.2
    refine ⟨last, ⟨_, served, follows⟩, fun answers final length other => ?_⟩
    cases answers with
    | nil => cases length
    | cons answer answers =>
      obtain ⟨next, served', follows'⟩ := other
      obtain ⟨same, sameNext⟩ := served.unique proper.1 served'
      subst same sameNext
      rw [only answers final (Nat.succ.inj length) follows']
      rfl

theorem canonical_run (o : Overlap) (requests : List Request)
    (proper : Permitted (fun pool request => Proper (Holds pool) request)
      (fun pool request => (serve o pool request).1) .empty requests) :
    let pool := stateAfter (serve o) .empty requests
    let answers := outputs (serve o) .empty requests
    Canonical pool ∧ (∀ other, Canonical other → (∀ x, Holds other x ↔ Holds pool x) →
        other = pool) ∧
      Follows (fun _ => False) (requests.zip answers) (Holds pool) ∧
      ∀ others final, others.length = requests.length →
        Follows (fun _ => False) (requests.zip others) final → others = answers := by
  have none : Holds .empty = fun _ => False := by
    funext x
    refine propext ⟨?_, False.elim⟩
    rintro ⟨start, size, stored, -⟩
    cases stored
  obtain ⟨canonical, follows, only⟩ := run_from o canonical_empty proper
  rw [none] at follows only
  exact ⟨canonical, fun other canonical' same => canonical'.eq_of_holds canonical same, follows,
    only⟩

def commonPart : Overlap where
  get a b := ⟨max a.start b.start, min a.stop b.stop - max a.start b.start⟩
  size_eq _ _ := rfl
  start_eq _ _ _ := rfl

/-- A part out of the middle comes back while another one is out. -/
theorem canonical_run_middle :
    let requests : List Request := [.merge ⟨4096, 4096⟩, .allocate 256 ⟨5000, 300⟩,
      .allocate 64 ⟨0, 2 ^ 64 - 1⟩, .merge ⟨5000, 256⟩]
    outputs (serve commonPart) .empty requests =
        [⟨4096, 4096⟩, ⟨5000, 256⟩, ⟨4096, 64⟩, ⟨4160, 4032⟩] ∧
      Canonical (stateAfter (serve commonPart) .empty requests) := by
  intro requests
  have free : ∀ x, (⟨5000, 256⟩ : AddressRegion).Has x →
      ¬Holds (stateAfter (serve commonPart) .empty (requests.take 3)) x := by
    rintro x ⟨lower, upper⟩ ⟨start, size, stored, low, high⟩
    have entries : (stateAfter (serve commonPart) .empty (requests.take 3)).entries =
        [(4160, 840), (5256, 2936)] := by decide +kernel
    rw [KeyMap.get?_eq_some_iff, entries] at stored
    simp only [AddressRegion.stop, id] at upper high lower
    simp only [List.mem_cons, Prod.mk.injEq, List.not_mem_nil, or_false] at stored
    omega
  have nothing : ∀ x, (⟨4096, 4096⟩ : AddressRegion).Has x → ¬Holds .empty x := by
    rintro x - ⟨start, size, stored, -⟩
    cases stored
  have first : (0 : ℕ) < 256 := by decide
  have second : (0 : ℕ) < 64 := by decide
  exact ⟨by decide +kernel, (canonical_run commonPart requests
    ⟨⟨by decide, nothing⟩, first, second, ⟨by decide, free⟩, trivial⟩).1⟩

end BlinkerFluid.AllocationPool
