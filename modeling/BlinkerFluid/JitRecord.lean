import BlinkerFluid.JitPages
import BlinkerFluid.StepRun

/-! What the pages stand for: the bytes registered as executable, and the allocations by
their start. Merging and splitting pages changes neither, so every call succeeds or
fails, and answers, as the record says. -/

namespace BlinkerFluid.JitRecord
open JitPages OrderedMap PageSpan SpanMap StepRun

structure Range where
  addr : ℕ
  size : ℕ
  words : addr < 2 ^ 64 ∧ size < 2 ^ 64
deriving DecidableEq

structure Record where
  registered : ℕ → Prop
  allocations : KeyMap ℕ JitAllocation

def Record.empty : Record := ⟨fun _ => False, .empty⟩

/-- The bytes from `addr` on are registered, and there is at least one. -/
structure Record.Spans (r : Record) (addr size : ℕ) : Prop where
  nonempty : 0 < size
  fits : addr + size < 2 ^ 64
  bytes : ∀ x, addr ≤ x → x < addr + size → r.registered x

abbrev Unused (allocations : KeyMap ℕ JitAllocation) (addr size : ℕ) : Prop :=
  Uncovered JitAllocation.size allocations addr size

/-- An allocation begins before the cut and ends behind it. -/
def Straddles (allocations : KeyMap ℕ JitAllocation) (cut : ℕ) : Prop :=
  ∃ key allocation, allocations.get? key = some allocation ∧ key < cut ∧
    cut < key + allocation.size

/-- The pages hold the registered bytes and the allocations that start in them. -/
structure Keeps (pages : JitPageMap) (r : Record) : Prop where
  apart : NoOverlap JitPage.size pages
  words : ∀ address page, pages.get? address = some page →
    0 < page.size ∧ address + page.size < 2 ^ 64
  registered : ∀ x, r.registered x ↔ Covered JitPage.size pages x
  allocations : ∀ key allocation, r.allocations.get? key = some allocation ↔
    ∃ address page, pages.get? address = some page ∧ page.allocations.get? key = some allocation
  starts : ∀ address page key allocation, pages.get? address = some page →
    page.allocations.get? key = some allocation →
    address ≤ key ∧ key < address + page.size ∧ 0 < allocation.size
  separate : NoOverlap JitAllocation.size r.allocations

/-- No allocation reaches out of its page, but some that are about to go. -/
def Inside (but : ℕ → Prop) (pages : JitPageMap) : Prop :=
  ∀ address page key allocation, pages.get? address = some page →
    page.allocations.get? key = some allocation → ¬but key →
    key + allocation.size ≤ address + page.size

abbrev AllInside (pages : JitPageMap) : Prop := Inside (fun _ => False) pages

structure Tracks (pages : JitPageMap) (r : Record) : Prop extends Keeps pages r where
  inside : AllInside pages

variable {pages : JitPageMap} {r : Record}

@[simp] theorem check_eq_some (condition : Prop) [Decidable condition] (u : Unit) :
    check condition = some u ↔ condition := by
  unfold check
  split_ifs with holds <;> simp [holds]

@[simp] theorem check_eq_none (condition : Prop) [Decidable condition] :
    check condition = none ↔ ¬condition := by
  unfold check
  split_ifs with holds <;> simp [holds]

theorem check_pos {condition : Prop} [Decidable condition] (holds : condition) :
    check condition = some () := if_pos holds

theorem wrap_past {addr size : ℕ} (words : addr < 2 ^ 64 ∧ size < 2 ^ 64)
    (beyond : 2 ^ 64 ≤ addr + size) : wrap (addr + size) ≤ addr := by
  rw [wrap, Nat.mod_eq_sub_mod beyond, Nat.mod_eq_of_lt (by omega)]
  omega

theorem lt_wrap_iff (range : Range) :
    range.addr < wrap (range.addr + range.size) ↔
      0 < range.size ∧ range.addr + range.size < 2 ^ 64 := by
  by_cases beyond : 2 ^ 64 ≤ range.addr + range.size
  · have back := wrap_past range.words beyond
    constructor
    · intro less
      omega
    · rintro ⟨-, fits⟩
      omega
  · rw [wrap_eq (by omega)]
    omega

theorem Keeps.page_of_byte (held : Keeps pages r) {x : ℕ} (registered : r.registered x) :
    ∃ address page, (pages.last? fun key => key ≤ x) = some (address, page) ∧
      pages.get? address = some page ∧ address ≤ x ∧ x < address + page.size := by
  obtain ⟨address, page, stored, lower, upper⟩ := (held.registered x).mp registered
  exact ⟨address, page, last?_of_holds held.apart stored lower upper, stored, lower, upper⟩

theorem Keeps.get?_of_start (held : Keeps pages r) {address key : ℕ} {page : JitPage}
    (stored : pages.get? address = some page) (lower : address ≤ key)
    (upper : key < address + page.size) :
    page.allocations.get? key = r.allocations.get? key := by
  apply Option.ext
  intro allocation
  rw [held.allocations]
  constructor
  · exact fun found => ⟨address, page, stored, found⟩
  · rintro ⟨address', page', stored', found⟩
    obtain ⟨lower', upper', -⟩ := held.starts _ _ _ _ stored' found
    obtain ⟨rfl, rfl⟩ := holds_unique held.apart stored lower upper stored' lower' upper'
    exact found

/-- Behind the last byte of a page, either nothing is registered or the next page starts. -/
theorem Keeps.registered_stop (held : Keeps pages r) {address : ℕ} {page : JitPage}
    (stored : pages.get? address = some page) (registered : r.registered (address + page.size)) :
    ∃ next, pages.get? (address + page.size) = some next := by
  obtain ⟨address', page', stored', lower, upper⟩ := (held.registered _).mp registered
  have positive := (held.words _ _ stored).1
  rcases Nat.lt_trichotomy address address' with after | same | before
  · have bound := held.apart _ _ _ _ stored stored' after
    have here : address' = address + page.size := by omega
    exact ⟨page', here ▸ stored'⟩
  · subst same
    rw [stored] at stored'
    cases stored'
    omega
  · have bound := held.apart _ _ _ _ stored' stored before
    omega

/-! Cutting and merging. -/

theorem get?_cutTail (held : Keeps pages r) {address stop : ℕ} {page : JitPage}
    (stored : pages.get? address = some page) (lower : address < stop)
    (upper : stop < address + page.size) (key : ℕ) :
    (cutTail pages address page stop).get? key =
      if key = stop then some ⟨address + page.size - stop, page.allocations.keep fun k => stop ≤ k⟩
      else if key = address then some ⟨stop - address, page.allocations.keep fun k => k < stop⟩
      else pages.get? key := by
  have fresh : pages.get? stop = none := by
    cases found : pages.get? stop with
    | none => rfl
    | some other =>
      have := held.apart _ _ _ _ stored found lower
      omega
  have size : page.size - (address + page.size - stop) = stop - address := by omega
  have cut : address + (stop - address) = stop := by omega
  have other : stop ≠ address := by omega
  simp only [cutTail, shrink, size, cut, KeyMap.get?_emplace, KeyMap.get?_set, fresh, other,
    if_false, Option.getD_none]

theorem Keeps.beside (held : Keeps pages r) {address address' : ℕ} {page page' : JitPage}
    (stored : pages.get? address = some page) (stored' : pages.get? address' = some page')
    (other : address' ≠ address) :
    address' + page'.size ≤ address ∨ address + page.size ≤ address' := by
  rcases lt_or_gt_of_ne other with before | after
  · exact .inl (held.apart _ _ _ _ stored' stored before)
  · exact .inr (held.apart _ _ _ _ stored stored' after)

theorem cutTail_cases (held : Keeps pages r) {address stop : ℕ} {page : JitPage}
    (stored : pages.get? address = some page) (lower : address < stop)
    (upper : stop < address + page.size) {address' : ℕ} {page' : JitPage}
    (stored' : (cutTail pages address page stop).get? address' = some page') :
    (address' = stop ∧ page' =
      ⟨address + page.size - stop, page.allocations.keep fun k => stop ≤ k⟩) ∨
    (address' = address ∧ page' = ⟨stop - address, page.allocations.keep fun k => k < stop⟩) ∨
    (pages.get? address' = some page' ∧
      (address' + page'.size ≤ address ∨ address + page.size ≤ address')) := by
  rw [get?_cutTail held stored lower upper] at stored'
  split_ifs at stored' with tail head
  · exact .inl ⟨tail, (Option.some.inj stored').symm⟩
  · exact .inr (.inl ⟨head, (Option.some.inj stored').symm⟩)
  · exact .inr (.inr ⟨stored', held.beside stored stored' head⟩)

theorem keeps_cutTail (held : Keeps pages r) {address stop : ℕ} {page : JitPage}
    (stored : pages.get? address = some page) (lower : address < stop)
    (upper : stop < address + page.size) : Keeps (cutTail pages address page stop) r := by
  have cases' := @cutTail_cases pages r held address stop page stored lower upper
  have tail : (cutTail pages address page stop).get? stop = some
      ⟨address + page.size - stop, page.allocations.keep fun k => stop ≤ k⟩ := by
    simp [get?_cutTail held stored lower upper]
  have head : (cutTail pages address page stop).get? address = some
      ⟨stop - address, page.allocations.keep fun k => k < stop⟩ := by
    rw [get?_cutTail held stored lower upper, if_neg (by omega), if_pos rfl]
  have beside : ∀ address' page', pages.get? address' = some page' → address' ≠ address →
      (cutTail pages address page stop).get? address' = some page' := by
    intro address' page' stored' other
    have := held.beside stored stored' other
    have := (held.words _ _ stored').1
    rw [get?_cutTail held stored lower upper, if_neg (by omega), if_neg other, stored']
  constructor
  · intro a p b q storedA storedB less
    rcases cases' storedA with ⟨rfl, rfl⟩ | ⟨rfl, rfl⟩ | ⟨oldA, besideA⟩ <;>
      rcases cases' storedB with ⟨rfl, rfl⟩ | ⟨rfl, rfl⟩ | ⟨oldB, besideB⟩
    -- Every case but the last one has the two cut positions and the old bounds.
    case inr.inr.inr.inr => exact held.apart _ _ _ _ oldA oldB less
    all_goals try simp only
    all_goals omega
  · intro a p storedA
    have bound := held.words _ _ stored
    rcases cases' storedA with ⟨rfl, rfl⟩ | ⟨rfl, rfl⟩ | ⟨oldA, -⟩
    · simp only
      omega
    · simp only
      omega
    · exact held.words _ _ oldA
  · intro x
    rw [held.registered]
    constructor
    · rintro ⟨a, p, storedA, from_a, to_a⟩
      by_cases here : a = address
      · subst here
        rw [stored] at storedA
        cases storedA
        by_cases low : x < stop
        · exact ⟨_, _, head, from_a, by simp only; omega⟩
        · exact ⟨_, _, tail, by omega, by simp only; omega⟩
      · exact ⟨a, p, beside a p storedA here, from_a, to_a⟩
    · rintro ⟨a, p, storedA, from_a, to_a⟩
      rcases cases' storedA with ⟨rfl, rfl⟩ | ⟨rfl, rfl⟩ | ⟨oldA, -⟩
      · exact ⟨_, _, stored, by omega, by simp only at to_a; omega⟩
      · exact ⟨_, _, stored, by omega, by simp only at to_a; omega⟩
      · exact ⟨_, _, oldA, from_a, to_a⟩
  · intro key allocation
    rw [held.allocations]
    constructor
    · rintro ⟨a, p, storedA, found⟩
      by_cases here : a = address
      · subst here
        rw [stored] at storedA
        cases storedA
        by_cases low : key < stop
        · exact ⟨_, _, head, by simpa [KeyMap.get?_keep, low] using found⟩
        · exact ⟨_, _, tail, by simpa [KeyMap.get?_keep, Nat.le_of_not_lt low] using found⟩
      · exact ⟨a, p, beside a p storedA here, found⟩
    · rintro ⟨a, p, storedA, found⟩
      rcases cases' storedA with ⟨rfl, rfl⟩ | ⟨rfl, rfl⟩ | ⟨oldA, -⟩
      · rw [KeyMap.get?_keep] at found
        split_ifs at found
        exact ⟨_, _, stored, found⟩
      · rw [KeyMap.get?_keep] at found
        split_ifs at found
        exact ⟨_, _, stored, found⟩
      · exact ⟨_, _, oldA, found⟩
  · intro a p key allocation storedA found
    rcases cases' storedA with ⟨rfl, rfl⟩ | ⟨rfl, rfl⟩ | ⟨oldA, -⟩
    · rw [KeyMap.get?_keep] at found
      split_ifs at found with high
      obtain ⟨-, below, positive⟩ := held.starts _ _ _ _ stored found
      exact ⟨high, by simp only; omega, positive⟩
    · rw [KeyMap.get?_keep] at found
      split_ifs at found with low
      obtain ⟨above, -, positive⟩ := held.starts _ _ _ _ stored found
      exact ⟨above, by simp only; omega, positive⟩
    · exact held.starts _ _ _ _ oldA found
  · exact held.separate

theorem inside_cutTail (held : Keeps pages r) {but : ℕ → Prop} (inside : Inside but pages)
    {address stop : ℕ} {page : JitPage} (stored : pages.get? address = some page)
    (lower : address < stop) (upper : stop < address + page.size)
    (clear : ∀ key allocation, r.allocations.get? key = some allocation → key < stop →
      stop < key + allocation.size → but key) : Inside but (cutTail pages address page stop) := by
  intro a p key allocation storedA found stays
  rcases cutTail_cases held stored lower upper storedA with
    ⟨rfl, rfl⟩ | ⟨rfl, rfl⟩ | ⟨oldA, -⟩
  · rw [KeyMap.get?_keep] at found
    split_ifs at found
    have bound := inside _ _ _ _ stored found stays
    simp only
    omega
  · rw [KeyMap.get?_keep] at found
    split_ifs at found with low
    have known := (held.allocations key allocation).mpr ⟨_, _, stored, found⟩
    have : ¬stop < key + allocation.size := fun high => stays (clear _ _ known low high)
    simp only
    omega
  · exact inside _ _ _ _ oldA found stays

/-- A page takes over the next one, which starts where it ends. -/
def joined (pages : JitPageMap) (address : ℕ) (page next : JitPage) : JitPageMap :=
  (pages.erase (address + page.size)).set address (page.merge next)

theorem joined_cases (held : Keeps pages r) {address : ℕ} {page next : JitPage}
    (stored : pages.get? address = some page)
    (storedNext : pages.get? (address + page.size) = some next) {address' : ℕ} {page' : JitPage}
    (stored' : (joined pages address page next).get? address' = some page') :
    (address' = address ∧ page' = page.merge next) ∨
    (pages.get? address' = some page' ∧ (address' + page'.size ≤ address ∨
      address + page.size + next.size ≤ address')) := by
  rw [joined, KeyMap.get?_set, KeyMap.get?_erase] at stored'
  split_ifs at stored' with here gone
  · exact .inl ⟨here, (Option.some.inj stored').symm⟩
  · have first := held.beside stored stored' here
    have second := held.beside storedNext stored' gone
    have := (held.words _ _ stored).1
    have := (held.words _ _ stored').1
    exact .inr ⟨stored', by omega⟩

theorem joined_other {address : ℕ} {page next : JitPage} {address' : ℕ}
    (other : address' ≠ address) (other' : address' ≠ address + page.size) :
    (joined pages address page next).get? address' = pages.get? address' := by
  rw [joined, KeyMap.get?_set, if_neg other, KeyMap.get?_erase, if_neg other']

theorem joined_self (address : ℕ) (page next : JitPage) :
    (joined pages address page next).get? address = some (page.merge next) := by
  rw [joined, KeyMap.get?_set, if_pos rfl]

theorem merge_allocations (page next : JitPage) (key : ℕ) :
    (page.merge next).allocations.get? key =
      (page.allocations.get? key).or (next.allocations.get? key) := by
  simp [JitPage.merge]

section Joined

variable (held : Keeps pages r) {address : ℕ} {page next : JitPage}
  (stored : pages.get? address = some page)
  (storedNext : pages.get? (address + page.size) = some next)
include held stored storedNext

theorem starts_once {key : ℕ} {allocation : JitAllocation}
    (found : next.allocations.get? key = some allocation) : page.allocations.get? key = none := by
  cases hit : page.allocations.get? key with
  | none => rfl
  | some other =>
    have first := held.starts _ _ _ _ stored hit
    have second := held.starts _ _ _ _ storedNext found
    omega

theorem covered_joined (x : ℕ) :
    Covered JitPage.size (joined pages address page next) x ↔ Covered JitPage.size pages x := by
  have size : (page.merge next).size = page.size + next.size := rfl
  have merged : (joined pages address page next).get? address = some (page.merge next) :=
    joined_self address page next
  constructor
  · rintro ⟨a, p, storedA, from_a, to_a⟩
    rcases joined_cases held stored storedNext storedA with ⟨rfl, rfl⟩ | ⟨oldA, -⟩
    · rw [size] at to_a
      by_cases low : x < a + page.size
      · exact ⟨_, _, stored, from_a, low⟩
      · exact ⟨_, _, storedNext, by omega, by omega⟩
    · exact ⟨_, _, oldA, from_a, to_a⟩
  · rintro ⟨a, p, storedA, from_a, to_a⟩
    by_cases here : a = address
    · rw [here, stored] at storedA
      cases storedA
      exact ⟨_, _, merged, by omega, by rw [size]; omega⟩
    · by_cases gone : a = address + page.size
      · rw [gone, storedNext] at storedA
        cases storedA
        exact ⟨_, _, merged, by omega, by rw [size]; omega⟩
      · exact ⟨a, p, (joined_other here gone).trans storedA, from_a, to_a⟩

theorem allocated_joined (key : ℕ) (allocation : JitAllocation) :
    (∃ a p, (joined pages address page next).get? a = some p ∧
        p.allocations.get? key = some allocation) ↔
      ∃ a p, pages.get? a = some p ∧ p.allocations.get? key = some allocation := by
  have merged : (joined pages address page next).get? address = some (page.merge next) :=
    joined_self address page next
  constructor
  · rintro ⟨a, p, storedA, found⟩
    rcases joined_cases held stored storedNext storedA with ⟨rfl, rfl⟩ | ⟨oldA, -⟩
    · rw [merge_allocations, Option.or_eq_some_iff] at found
      rcases found with first | ⟨-, second⟩
      · exact ⟨_, _, stored, first⟩
      · exact ⟨_, _, storedNext, second⟩
    · exact ⟨_, _, oldA, found⟩
  · rintro ⟨a, p, storedA, found⟩
    by_cases here : a = address
    · rw [here, stored] at storedA
      cases storedA
      exact ⟨_, _, merged, by rw [merge_allocations, found]; rfl⟩
    · by_cases gone : a = address + page.size
      · rw [gone, storedNext] at storedA
        cases storedA
        have absent := starts_once held stored storedNext found
        exact ⟨_, _, merged, by rw [merge_allocations, absent, found]; rfl⟩
      · exact ⟨a, p, (joined_other here gone).trans storedA, found⟩

theorem keeps_joined : Keeps (joined pages address page next) r := by
  have size : (page.merge next).size = page.size + next.size := rfl
  have positive := (held.words _ _ stored).1
  have bound := held.words _ _ storedNext
  constructor
  · intro a p b q storedA storedB less
    rcases joined_cases held stored storedNext storedA with ⟨rfl, rfl⟩ | ⟨oldA, besideA⟩ <;>
      rcases joined_cases held stored storedNext storedB with ⟨rfl, rfl⟩ | ⟨oldB, besideB⟩
    case inr.inr => exact held.apart _ _ _ _ oldA oldB less
    all_goals try rw [size]
    all_goals omega
  · intro a p storedA
    rcases joined_cases held stored storedNext storedA with ⟨rfl, rfl⟩ | ⟨oldA, -⟩
    · rw [size]
      omega
    · exact held.words _ _ oldA
  · intro x
    rw [held.registered, covered_joined held stored storedNext]
  · intro key allocation
    rw [held.allocations, allocated_joined held stored storedNext]
  · intro a p key allocation storedA found
    rcases joined_cases held stored storedNext storedA with ⟨rfl, rfl⟩ | ⟨oldA, -⟩
    · rw [merge_allocations, Option.or_eq_some_iff] at found
      rw [size]
      rcases found with first | ⟨-, second⟩
      · have := held.starts _ _ _ _ stored first
        omega
      · have := held.starts _ _ _ _ storedNext second
        omega
    · exact held.starts _ _ _ _ oldA found
  · exact held.separate

end Joined

theorem inside_joined (held : Keeps pages r) {but : ℕ → Prop} (inside : Inside but pages)
    {address : ℕ} {page next : JitPage} (stored : pages.get? address = some page)
    (storedNext : pages.get? (address + page.size) = some next) :
    Inside but (joined pages address page next) := by
  intro a p key allocation storedA found stays
  rcases joined_cases held stored storedNext storedA with ⟨rfl, rfl⟩ | ⟨oldA, -⟩
  · rw [JitPage.merge, KeyMap.get?_merge, Option.or_eq_some_iff] at found
    have size : (page.merge next).size = page.size + next.size := rfl
    rw [size]
    rcases found with first | ⟨-, second⟩
    · have := inside _ _ _ _ stored first stays
      omega
    · have := inside _ _ _ _ storedNext second stays
      omega
  · exact inside _ _ _ _ oldA found stays

/-! Looking up a page. -/

structure Later (pages : JitPageMap) (address : ℕ) (later : List (ℕ × JitPage)) : Prop where
  sorted : later.Pairwise fun a b => a.1 < b.1
  mem : ∀ key page, (key, page) ∈ later ↔ pages.get? key = some page ∧ address < key

theorem later_joined {address : ℕ} {page next : JitPage} {later : List (ℕ × JitPage)}
    (behind : Later pages address ((address + page.size, next) :: later)) :
    Later (joined pages address page next) address later := by
  obtain ⟨first, sorted⟩ := List.pairwise_cons.mp behind.sorted
  refine ⟨sorted, fun key page' => ?_⟩
  rw [joined, KeyMap.get?_set, KeyMap.get?_erase]
  have mem := behind.mem key page'
  rw [List.mem_cons] at mem
  constructor
  · intro inside
    obtain ⟨stored, after⟩ := mem.mp (.inr inside)
    have beyond := first _ inside
    simp only at beyond
    rw [if_neg (by omega), if_neg (by omega)]
    exact ⟨stored, after⟩
  · rintro ⟨stored, after⟩
    rw [if_neg (by omega)] at stored
    split_ifs at stored with gone
    refine (mem.mpr ⟨stored, after⟩).resolve_left fun same => ?_
    exact gone (Prod.mk.inj same).1

/-- A page takes over its successors until the end, or until the registered bytes end. -/
theorem mergeUpTo_cases {address : ℕ} (stop : ℕ) {page : JitPage} {later : List (ℕ × JitPage)}
    (held : Keeps pages r) (stored : pages.get? address = some page)
    (behind : Later pages address later) :
    (mergeUpTo address stop pages page later = none ∧
      ∃ x, address + page.size ≤ x ∧ x < stop ∧ ¬r.registered x) ∨
    ∃ pages' page', mergeUpTo address stop pages page later = some (pages', page') ∧
      Keeps pages' r ∧ (∀ but, Inside but pages → Inside but pages') ∧
      pages'.get? address = some page' ∧
      page.size ≤ page'.size ∧ (∀ key, key < address → pages'.get? key = pages.get? key) ∧
      (stop ≤ address + page'.size ∨
        address + page'.size < stop ∧ ¬r.registered (address + page'.size)) := by
  have positive := (held.words _ _ stored).1
  induction later generalizing pages page with
  | nil =>
    refine .inr ⟨pages, page, rfl, held, fun _ => id, stored, le_rfl, fun _ _ => rfl, ?_⟩
    by_cases reached : stop ≤ address + page.size
    · exact .inl reached
    · refine .inr ⟨by omega, fun registered => ?_⟩
      obtain ⟨next, found⟩ := held.registered_stop stored registered
      exact absurd ((behind.mem _ _).mpr ⟨found, by omega⟩) List.not_mem_nil
  | cons entry later ih =>
    obtain ⟨nextAddress, next⟩ := entry
    obtain ⟨storedNext, after⟩ := (behind.mem _ _).mp List.mem_cons_self
    by_cases short : address + page.size < stop
    · by_cases adjacent : nextAddress = address + page.size
      · subst adjacent
        have joinedHeld := keeps_joined held stored storedNext
        have merged : (joined pages address page next).get? address = some (page.merge next) := by
          simp [joined]
        have size : (page.merge next).size = page.size + next.size := rfl
        have unfolded : mergeUpTo address stop pages page ((address + page.size, next) :: later) =
            mergeUpTo address stop (joined pages address page next) (page.merge next) later := by
          simp [mergeUpTo, short, check_pos, joined]
        rw [unfolded]
        rcases ih joinedHeld merged (later_joined behind) (by omega) with
          ⟨failed, x, from_x, to_x, missing⟩ |
          ⟨pages', page', done, held', inside', stored', longer, before, ends⟩
        · exact .inl ⟨failed, x, by omega, to_x, missing⟩
        · refine .inr ⟨pages', page', done, held', fun but inside => ?_, stored', by omega,
            fun key less => ?_, ends⟩
          · exact inside' but (inside_joined held inside stored storedNext)
          · rw [before key less, joined, KeyMap.get?_set, KeyMap.get?_erase, if_neg (by omega),
              if_neg (by omega)]
      · refine .inl ⟨?_, address + page.size, le_rfl, short, fun registered => ?_⟩
        · simp [mergeUpTo, short, check, adjacent]
        · -- A page at the end of this one would come before the next one.
          obtain ⟨between, found⟩ := held.registered_stop stored registered
          have bound := held.apart _ _ _ _ stored storedNext after
          have mem := (behind.mem _ _).mpr ⟨found, by omega⟩
          rcases List.mem_cons.mp mem with same | later'
          · exact adjacent (Prod.mk.inj same).1.symm
          · have := (List.pairwise_cons.mp behind.sorted).1 _ later'
            simp only at this
            omega
    · exact .inr ⟨pages, page, by simp [mergeUpTo, short], held, fun _ => id, stored, le_rfl,
        fun _ _ => rfl, .inl (by omega)⟩

/-- A page is found for exactly the registered ranges, and it spans the range. -/
theorem lookupJitPage_cases (held : Keeps pages r) {addr size : ℕ}
    (words : addr < 2 ^ 64 ∧ size < 2 ^ 64) :
    (lookupJitPage pages addr size = none ∧ ¬r.Spans addr size) ∨
    ∃ pages' address page, lookupJitPage pages addr size = some (pages', address, page) ∧
      r.Spans addr size ∧ Keeps pages' r ∧ (∀ but, Inside but pages → Inside but pages') ∧
      pages'.get? address = some page ∧ address ≤ addr ∧ addr + size ≤ address + page.size ∧
      ∀ key other, pages.get? key = some other → key + other.size ≤ addr →
        key < address ∧ pages'.get? key = some other := by
  have passes := lt_wrap_iff ⟨addr, size, words⟩
  simp only at passes
  by_cases proper : 0 < size ∧ addr + size < 2 ^ 64
  · have checked := check_pos (passes.mpr proper)
    have opened : check (0 < size) = some () := check_pos proper.1
    have stop : wrap (addr + size) = addr + size := wrap_eq proper.2
    have spans : ∀ address page, pages.get? address = some page → address ≤ addr →
        addr + size ≤ address + page.size → r.Spans addr size := by
      intro address page stored lower upper
      refine ⟨proper.1, proper.2, fun x from_x to_x => (held.registered x).mpr ?_⟩
      exact ⟨address, page, stored, by omega, by omega⟩
    cases found : pages.last? fun key => key ≤ addr with
    | none =>
      refine .inl ⟨by simp [lookupJitPage, tryLookupJitPage, checked, found], fun all => ?_⟩
      obtain ⟨address, page, hit, -⟩ := held.page_of_byte (all.bytes addr le_rfl (by omega))
      rw [found] at hit
      cases hit
    | some entry =>
      obtain ⟨address, page⟩ := entry
      obtain ⟨stored, lower, -⟩ := (pages.last?_eq_some_iff _ _ _).mp found
      by_cases behind : address + page.size ≤ addr
      · refine .inl ⟨by simp [lookupJitPage, tryLookupJitPage, checked, found, behind],
          fun all => ?_⟩
        obtain ⟨address', page', hit, -, -, upper⟩ :=
          held.page_of_byte (all.bytes addr le_rfl (by omega))
        rw [found] at hit
        obtain ⟨rfl, rfl⟩ := Prod.mk.inj (Option.some.inj hit)
        omega
      · have front : ∀ key other, pages.get? key = some other → key + other.size ≤ addr →
            key < address := by
          intro key other storedKey ends
          have := (held.words _ _ storedKey).1
          by_cases same : key = address
          · subst same
            rw [stored] at storedKey
            cases storedKey
            omega
          · have := held.beside stored storedKey same
            omega
        by_cases whole : addr + size ≤ address + page.size
        · refine .inr ⟨pages, address, page, ?_, spans _ _ stored lower whole, held, fun _ => id,
            stored, lower, whole,
            fun key other storedKey ends => ⟨front _ _ storedKey ends, storedKey⟩⟩
          simp [lookupJitPage, tryLookupJitPage, opened, found, behind, stop, whole, stored]
        · -- The entries behind `addr` are those behind the page.
          have behindAll : Later pages address (pages.keep fun key => addr < key).entries := by
            refine ⟨KeyMap.sorted _, fun key page' => ?_⟩
            rw [KeyMap.mem_keep pages _ (key, page')]
            refine and_congr_right fun stored' => ⟨fun after => by omega, fun after => ?_⟩
            have := held.apart _ _ _ _ stored stored' after
            omega
          rcases mergeUpTo_cases (addr + size) held stored behindAll with
            ⟨failed, x, from_x, to_x, missing⟩ |
            ⟨pages', page', done, held', inside', stored', longer, before, ends⟩
          · refine .inl ⟨?_, fun all => missing (all.bytes x (by omega) to_x)⟩
            simp [lookupJitPage, tryLookupJitPage, found, behind, stop, whole, failed]
          · rcases ends with reached | ⟨short, missing⟩
            · refine .inr ⟨pages', address, page', ?_, ?_, held', inside', stored', lower,
                reached, fun key other storedKey ends => ?_⟩
              · simp [lookupJitPage, tryLookupJitPage, opened, found, behind, stop, whole, done,
                  Nat.not_lt.mpr reached, stored']
              · refine ⟨proper.1, proper.2, fun x from_x to_x => (held'.registered x).mpr ?_⟩
                exact ⟨address, page', stored', by omega, by omega⟩
              · have less := front _ _ storedKey ends
                exact ⟨less, (before key less).trans storedKey⟩
            · refine .inl ⟨?_, fun all => missing (all.bytes _ (by omega) short)⟩
              simp [lookupJitPage, tryLookupJitPage, opened, found, behind, stop, whole, done,
                short]
  · refine .inl ⟨?_, fun all => proper ⟨all.nonempty, all.fits⟩⟩
    have failed : ¬addr < wrap (addr + size) := fun less => proper (passes.mp less)
    simp [lookupJitPage, tryLookupJitPage, check, failed]

/-! Allocations. -/

theorem checkForRegionOverlap_iff {ν : Type*} {getSize : ν → ℕ} {m : KeyMap ℕ ν}
    (apart : NoOverlap getSize m) (positive : ∀ key v, m.get? key = some v → 0 < getSize v)
    {addr size : ℕ} (fits : addr + size < 2 ^ 64) (nonempty : 0 < size) :
    checkForRegionOverlap getSize m addr size = some () ↔ Uncovered getSize m addr size := by
  have grows : check (addr ≤ wrap (addr + size)) = some () := by
    rw [wrap_eq fits]
    exact check_pos (Nat.le_add_right _ _)
  have next : ∀ next v, (m.first? fun key => addr < key) = some (next, v) →
      m.get? next = some v ∧ addr < next ∧ ∀ k, k < next → addr < k → m.get? k = none :=
    fun next v => (m.first?_eq_some_iff _ _ _).mp
  have prev : ∀ prev v, (m.last? fun key => key ≤ addr) = some (prev, v) →
      m.get? prev = some v ∧ prev ≤ addr ∧ ∀ k, prev < k → k ≤ addr → m.get? k = none :=
    fun prev v => (m.last?_eq_some_iff _ _ _).mp
  -- Behind `addr` the next entry decides, in front of it the previous one.
  have behind : (∀ key v, m.get? key = some v → addr < key → addr + size ≤ key) ↔
      ∀ entry, (m.first? fun key => addr < key) = some entry → size ≤ entry.1 - addr := by
    constructor
    · rintro all ⟨key, v⟩ found
      have := all key v (next _ _ found).1 (next _ _ found).2.1
      simp only
      omega
    · intro decides key v stored after
      cases found : m.first? fun key => addr < key with
      | none =>
        rw [(m.first?_eq_none_iff _).mp found key after] at stored
        cases stored
      | some entry =>
        obtain ⟨-, after', initial⟩ := next entry.1 entry.2 found
        have := decides entry found
        have : ¬key < entry.1 := by
          intro less
          rw [initial key less after] at stored
          cases stored
        omega
  have before : (∀ key v, m.get? key = some v → key ≤ addr → key + getSize v ≤ addr) ↔
      ∀ entry, (m.last? fun key => key ≤ addr) = some entry →
        getSize entry.2 ≤ addr - entry.1 := by
    constructor
    · rintro all ⟨key, v⟩ found
      have := all key v (prev _ _ found).1 (prev _ _ found).2.1
      simp only
      omega
    · intro decides key v stored le
      cases found : m.last? fun key => key ≤ addr with
      | none =>
        rw [(m.last?_eq_none_iff _).mp found key le] at stored
        cases stored
      | some entry =>
        obtain ⟨stored', le', final⟩ := prev entry.1 entry.2 found
        have bound := decides entry found
        rcases Nat.lt_trichotomy key entry.1 with early | same | late
        · have := apart _ _ _ _ stored stored' early
          omega
        · subst same
          rw [stored'] at stored
          cases stored
          omega
        · rw [final key late le] at stored
          cases stored
  have split : (∀ key v, m.get? key = some v → key + getSize v ≤ addr ∨ addr + size ≤ key) ↔
      (∀ key v, m.get? key = some v → addr < key → addr + size ≤ key) ∧
        ∀ key v, m.get? key = some v → key ≤ addr → key + getSize v ≤ addr := by
    constructor
    · intro all
      exact ⟨fun key v stored after => by have := all key v stored; omega,
        fun key v stored le => by have := all key v stored; omega⟩
    · rintro ⟨behind, before⟩ key v stored
      by_cases le : key ≤ addr
      · exact .inl (before key v stored le)
      · exact .inr (behind key v stored (by omega))
  rw [uncovered_iff_beside positive nonempty, split, behind, before, checkForRegionOverlap, grows]
  cases m.first? fun key => addr < key <;> cases m.last? fun key => key ≤ addr <;>
    simp [Option.bind_eq_some_iff]

theorem registerAllocation_cases {page : JitPage} {address addr size : ℕ}
    (type : JitAllocationType) (apart : NoOverlap JitAllocation.size page.allocations)
    (lower : address ≤ addr) (nonempty : 0 < size) (upper : addr + size ≤ address + page.size)
    (fits : address + page.size < 2 ^ 64)
    (positive : ∀ key allocation, page.allocations.get? key = some allocation →
      0 < allocation.size) :
    (registerAllocation page address addr size type = none ∧
      ¬Unused page.allocations addr size) ∨
    (registerAllocation page address addr size type =
        some { page with allocations := page.allocations.set addr ⟨size, type⟩ } ∧
      Unused page.allocations addr size) := by
  have overlap :=
    checkForRegionOverlap_iff apart positive (show addr + size < 2 ^ 64 by omega) nonempty
  have stop : wrap (addr - address + size) = addr - address + size := wrap_eq (by omega)
  have checks : check (address ≤ addr) = some () ∧
      check (addr - address < addr - address + size) = some () ∧
      check (addr - address < page.size) = some () ∧
      check (addr - address + size ≤ page.size) = some () :=
    ⟨check_pos lower, check_pos (by omega), check_pos (by omega), check_pos (by omega)⟩
  rw [registerAllocation]
  simp only [stop, checks, Option.pure_def, Option.bind_eq_bind, Option.bind_some]
  cases done : checkForRegionOverlap JitAllocation.size page.allocations addr size with
  | none =>
    refine .inl ⟨rfl, fun unused => ?_⟩
    rw [overlap.mpr unused] at done
    cases done
  | some u =>
    have unused : Unused page.allocations addr size := overlap.mp done
    have absent : page.allocations.get? addr = none := by
      cases found : page.allocations.get? addr with
      | none => rfl
      | some other =>
        have := positive addr other found
        exact absurd ⟨addr, other, found, le_rfl, by omega⟩ (unused addr le_rfl (by omega))
    exact .inr ⟨by simp [KeyMap.emplace, absent], unused⟩

def Record.allocate (r : Record) (addr size : ℕ) (type : JitAllocationType) : Record :=
  { r with allocations := r.allocations.set addr ⟨size, type⟩ }

theorem Keeps.positive (held : Keeps pages r) {key : ℕ} {allocation : JitAllocation}
    (found : r.allocations.get? key = some allocation) : 0 < allocation.size := by
  obtain ⟨address, page, stored, here⟩ := (held.allocations _ _).mp found
  exact (held.starts _ _ _ _ stored here).2.2

theorem Keeps.clear_allocation (held : Keeps pages r) {key : ℕ} {allocation : JitAllocation}
    (found : r.allocations.get? key = some allocation) :
    ¬Straddles r.allocations key ∧ ¬Straddles r.allocations (key + allocation.size) := by
  have positive := held.positive found
  constructor
  · rintro ⟨key', allocation', found', low, high⟩
    have := held.separate _ _ _ _ found' found low
    omega
  · rintro ⟨key', allocation', found', low, high⟩
    rcases Nat.lt_trichotomy key key' with after | same | before
    · have := held.separate _ _ _ _ found found' after
      omega
    · subst same
      rw [found] at found'
      cases found'
      omega
    · have := held.separate _ _ _ _ found' found before
      omega

theorem Keeps.page_apart (held : Keeps pages r) {address : ℕ} {page : JitPage}
    (stored : pages.get? address = some page) : NoOverlap JitAllocation.size page.allocations :=
  fun key v key' v' found found' less =>
    held.separate key v key' v' ((held.allocations _ _).mpr ⟨_, _, stored, found⟩)
      ((held.allocations _ _).mpr ⟨_, _, stored, found'⟩) less

/-- No allocation straddles the start of a page if all stay inside theirs. -/
theorem Tracks.clear_start (held : Tracks pages r) {address : ℕ} {page : JitPage}
    (stored : pages.get? address = some page) : ¬Straddles r.allocations address := by
  rintro ⟨key, allocation, found, low, high⟩
  obtain ⟨address', page', stored', here⟩ := (held.allocations _ _).mp found
  have := held.starts _ _ _ _ stored' here
  have := held.inside _ _ _ _ stored' here not_false
  have := held.beside stored stored' (by omega)
  omega

theorem unused_page_iff (held : Keeps pages r) {address addr size : ℕ} {page : JitPage}
    (stored : pages.get? address = some page) (clear : ¬Straddles r.allocations address)
    (lower : address ≤ addr) (upper : addr + size ≤ address + page.size) :
    Unused page.allocations addr size ↔ Unused r.allocations addr size := by
  refine forall_congr' fun x => forall_congr' fun from_x => forall_congr' fun to_x => not_congr ?_
  constructor
  · rintro ⟨key, allocation, found, rest⟩
    exact ⟨key, allocation, (held.allocations _ _).mpr ⟨_, _, stored, found⟩, rest⟩
  · rintro ⟨key, allocation, found, low, high⟩
    have here : address ≤ key := by
      by_contra early
      exact clear ⟨key, allocation, found, by omega, by omega⟩
    refine ⟨key, allocation, ?_, low, high⟩
    rw [held.get?_of_start stored here (by omega)]
    exact found

theorem keeps_setAllocations (held : Keeps pages r) {address : ℕ} {page : JitPage}
    (stored : pages.get? address = some page) (allocations others : KeyMap ℕ JitAllocation)
    (here : ∀ key, address ≤ key → key < address + page.size →
      others.get? key = allocations.get? key)
    (elsewhere : ∀ key, ¬(address ≤ key ∧ key < address + page.size) →
      others.get? key = r.allocations.get? key)
    (starts : ∀ key allocation, allocations.get? key = some allocation →
      address ≤ key ∧ key < address + page.size ∧ 0 < allocation.size)
    (separate : NoOverlap JitAllocation.size others) :
    Keeps (pages.set address ⟨page.size, allocations⟩) { r with allocations := others } := by
  have old : ∀ a q, (pages.set address ⟨page.size, allocations⟩).get? a = some q →
      (a = address ∧ q = ⟨page.size, allocations⟩) ∨ (a ≠ address ∧ pages.get? a = some q) := by
    intro a q storedA
    rw [KeyMap.get?_set] at storedA
    split_ifs at storedA with same
    · exact .inl ⟨same, (Option.some.inj storedA).symm⟩
    · exact .inr ⟨same, storedA⟩
  -- Sizes are as before, so the pages cover what they covered.
  have sizes : ∀ a n, (∃ q, (pages.set address ⟨page.size, allocations⟩).get? a = some q ∧
      q.size = n) ↔ ∃ q, pages.get? a = some q ∧ q.size = n := by
    intro a n
    by_cases same : a = address
    · subst same
      simp [stored]
    · simp [same]
  have covered : ∀ x, Covered JitPage.size (pages.set address ⟨page.size, allocations⟩) x ↔
      Covered JitPage.size pages x := by
    intro x
    constructor
    · rintro ⟨a, q, storedA, from_a, to_a⟩
      obtain ⟨q', storedA', size⟩ := (sizes a q.size).mp ⟨q, storedA, rfl⟩
      exact ⟨a, q', storedA', from_a, size ▸ to_a⟩
    · rintro ⟨a, q, storedA, from_a, to_a⟩
      obtain ⟨q', storedA', size⟩ := (sizes a q.size).mpr ⟨q, storedA, rfl⟩
      exact ⟨a, q', storedA', from_a, size ▸ to_a⟩
  constructor
  · intro a q b q' storedA storedB less
    obtain ⟨p, storedA', sizeA⟩ := (sizes a q.size).mp ⟨q, storedA, rfl⟩
    obtain ⟨p', storedB', -⟩ := (sizes b q'.size).mp ⟨q', storedB, rfl⟩
    rw [← sizeA]
    exact held.apart _ _ _ _ storedA' storedB' less
  · intro a q storedA
    obtain ⟨p, storedA', sizeA⟩ := (sizes a q.size).mp ⟨q, storedA, rfl⟩
    rw [← sizeA]
    exact held.words _ _ storedA'
  · intro x
    rw [covered]
    exact held.registered x
  · intro key allocation
    by_cases inPage : address ≤ key ∧ key < address + page.size
    · simp only [here key inPage.1 inPage.2]
      constructor
      · exact fun found => ⟨address, ⟨page.size, allocations⟩, by simp, found⟩
      · rintro ⟨a, q, storedA, found⟩
        rcases old a q storedA with ⟨rfl, rfl⟩ | ⟨other, oldA⟩
        · exact found
        · have := held.starts _ _ _ _ oldA found
          have := held.beside stored oldA other
          omega
    · simp only [elsewhere key inPage, held.allocations]
      constructor
      · rintro ⟨a, q, storedA, found⟩
        have other : a ≠ address := by
          rintro rfl
          rw [stored] at storedA
          cases storedA
          have := held.starts _ _ _ _ stored found
          exact inPage ⟨this.1, this.2.1⟩
        exact ⟨a, q, by simp [other, storedA], found⟩
      · rintro ⟨a, q, storedA, found⟩
        rcases old a q storedA with ⟨rfl, rfl⟩ | ⟨-, oldA⟩
        · have := starts _ _ found
          exact absurd ⟨this.1, this.2.1⟩ inPage
        · exact ⟨a, q, oldA, found⟩
  · intro a q key allocation storedA found
    rcases old a q storedA with ⟨rfl, rfl⟩ | ⟨-, oldA⟩
    · exact starts _ _ found
    · exact held.starts _ _ _ _ oldA found
  · exact separate

theorem inside_setAllocations {address : ℕ} {page : JitPage} {allocations : KeyMap ℕ JitAllocation}
    (inside : AllInside pages) (within : ∀ key allocation,
      allocations.get? key = some allocation → key + allocation.size ≤ address + page.size) :
    AllInside (pages.set address ⟨page.size, allocations⟩) := by
  intro a q key allocation storedA found stays
  rw [KeyMap.get?_set] at storedA
  split_ifs at storedA with same
  · cases storedA
    exact same ▸ within _ _ found
  · exact inside _ _ _ _ storedA found stays

theorem keeps_allocate (held : Keeps pages r) {address addr size : ℕ} {page : JitPage}
    (type : JitAllocationType) (stored : pages.get? address = some page) (lower : address ≤ addr)
    (nonempty : 0 < size) (upper : addr + size ≤ address + page.size)
    (unused : Unused r.allocations addr size) :
    Keeps (pages.set address ⟨page.size, page.allocations.set addr ⟨size, type⟩⟩)
        (r.allocate addr size type) ∧
      (AllInside pages →
        AllInside (pages.set address ⟨page.size, page.allocations.set addr ⟨size, type⟩⟩)) := by
  have beside := (uncovered_iff_beside (fun key v => held.positive) nonempty).mp unused
  have among : ∀ key allocation,
      (page.allocations.set addr ⟨size, type⟩).get? key = some allocation →
      (key = addr ∧ allocation = ⟨size, type⟩) ∨ page.allocations.get? key = some allocation := by
    intro key allocation found
    rw [KeyMap.get?_set] at found
    split_ifs at found with new
    · exact .inl ⟨new, (Option.some.inj found).symm⟩
    · exact .inr found
  constructor
  · refine keeps_setAllocations held stored _ _ ?_ ?_ ?_ ?_
    · intro key from_page to_page
      rw [KeyMap.get?_set, KeyMap.get?_set, held.get?_of_start stored from_page to_page]
    · intro key outside
      rw [KeyMap.get?_set, if_neg]
      rintro rfl
      exact outside ⟨lower, by omega⟩
    · intro key allocation found
      rcases among _ _ found with ⟨rfl, rfl⟩ | before
      · exact ⟨lower, by omega, nonempty⟩
      · exact held.starts _ _ _ _ stored before
    · intro key v key' v' found found' less
      rw [KeyMap.get?_set] at found found'
      split_ifs at found found' with new new'
      · omega
      · cases found
        have := beside _ _ found'
        have := held.positive found'
        simp only
        omega
      · cases found'
        have := beside _ _ found
        omega
      · exact held.separate _ _ _ _ found found' less
  · intro inside
    refine inside_setAllocations inside fun key allocation found => ?_
    rcases among _ _ found with ⟨rfl, rfl⟩ | before
    · exact upper
    · exact inside _ _ _ _ stored before not_false

def Record.keepAllocations (r : Record) (p : ℕ → Prop) [DecidablePred p] : Record :=
  { r with allocations := r.allocations.keep p }

theorem keeps_drop (held : Keeps pages r) {address : ℕ} {page : JitPage}
    (stored : pages.get? address = some page) (p : ℕ → Prop) [DecidablePred p]
    (outside : ∀ key, ¬(address ≤ key ∧ key < address + page.size) → p key) :
    Keeps (pages.set address ⟨page.size, page.allocations.keep p⟩) (r.keepAllocations p) ∧
      (AllInside pages → AllInside (pages.set address ⟨page.size, page.allocations.keep p⟩)) := by
  have among : ∀ key allocation, (page.allocations.keep p).get? key = some allocation →
      page.allocations.get? key = some allocation := by
    intro key allocation found
    rw [KeyMap.get?_keep] at found
    split_ifs at found
    exact found
  constructor
  · refine keeps_setAllocations held stored _ _ ?_ ?_ ?_ ?_
    · intro key from_page to_page
      rw [KeyMap.get?_keep, KeyMap.get?_keep, held.get?_of_start stored from_page to_page]
    · intro key beyond
      rw [KeyMap.get?_keep, if_pos (outside key beyond)]
    · exact fun key allocation found => held.starts _ _ _ _ stored (among _ _ found)
    · intro key v key' v' found found' less
      rw [KeyMap.get?_keep] at found found'
      split_ifs at found found'
      exact held.separate _ _ _ _ found found' less
  · intro inside
    refine inside_setAllocations inside fun key allocation found => ?_
    exact inside _ _ _ _ stored (among _ _ found) not_false

/-- The bytes of a span are no longer registered, and what starts there is forgotten. -/
def Record.release (r : Record) (addr size : ℕ) : Record where
  registered := fun x => r.registered x ∧ ¬(addr ≤ x ∧ x < addr + size)
  allocations := r.allocations.keep fun key => ¬(addr ≤ key ∧ key < addr + size)

theorem keeps_erasePage (held : Keeps pages r) {address : ℕ} {page : JitPage}
    (stored : pages.get? address = some page) :
    Keeps (pages.erase address) (r.release address page.size) ∧
      ∀ but, Inside but pages → Inside but (pages.erase address) := by
  have old : ∀ a q, (pages.erase address).get? a = some q →
      pages.get? a = some q ∧ (a + q.size ≤ address ∨ address + page.size ≤ a) := by
    intro a q storedA
    rw [KeyMap.get?_erase] at storedA
    split_ifs at storedA with here
    exact ⟨storedA, held.beside stored storedA here⟩
  have new : ∀ a q x, pages.get? a = some q → a ≤ x → x < a + q.size →
      ¬(address ≤ x ∧ x < address + page.size) → (pages.erase address).get? a = some q := by
    intro a q x storedA lower upper outside
    rw [KeyMap.get?_erase, if_neg, storedA]
    rintro rfl
    rw [stored] at storedA
    cases storedA
    exact outside ⟨lower, upper⟩
  refine ⟨⟨?_, ?_, ?_, ?_, ?_, ?_⟩, ?_⟩
  · intro a q b q' storedA storedB
    exact held.apart _ _ _ _ (old a q storedA).1 (old b q' storedB).1
  · exact fun a q storedA => held.words _ _ (old a q storedA).1
  · intro x
    simp only [Record.release, held.registered]
    constructor
    · rintro ⟨⟨a, q, storedA, from_a, to_a⟩, outside⟩
      exact ⟨a, q, new a q x storedA from_a to_a outside, from_a, to_a⟩
    · rintro ⟨a, q, storedA, from_a, to_a⟩
      obtain ⟨storedA', beside⟩ := old a q storedA
      exact ⟨⟨a, q, storedA', from_a, to_a⟩, by omega⟩
  · intro key allocation
    rw [Record.release, KeyMap.get?_keep]
    constructor
    · intro found
      split_ifs at found with outside
      obtain ⟨a, q, storedA, inA⟩ := (held.allocations _ _).mp found
      obtain ⟨lower, upper, -⟩ := held.starts _ _ _ _ storedA inA
      exact ⟨a, q, new a q key storedA lower upper outside, inA⟩
    · rintro ⟨a, q, storedA, found⟩
      obtain ⟨storedA', beside⟩ := old a q storedA
      have := held.starts _ _ _ _ storedA' found
      rw [if_pos (by omega)]
      exact (held.allocations _ _).mpr ⟨_, _, storedA', found⟩
  · exact fun a q key allocation storedA => held.starts _ _ _ _ (old a q storedA).1
  · intro key v key' v' found found' less
    rw [Record.release, KeyMap.get?_keep] at found found'
    split_ifs at found found'
    exact held.separate _ _ _ _ found found' less
  · exact fun but inside a q key allocation storedA => inside _ _ _ _ (old a q storedA).1

def Record.register (r : Record) (addr size : ℕ) : Record :=
  { r with registered := fun x => r.registered x ∨ addr ≤ x ∧ x < addr + size }

theorem keeps_newPage (held : Keeps pages r) {address size : ℕ} (nonempty : 0 < size)
    (fits : address + size < 2 ^ 64) (fresh : Uncovered JitPage.size pages address size) :
    Keeps (pages.emplace address ⟨size, .empty⟩) (r.register address size) ∧
      (AllInside pages → AllInside (pages.emplace address ⟨size, .empty⟩)) := by
  have beside := (uncovered_iff_beside (fun a q stored => (held.words a q stored).1) nonempty).mp
    fresh
  have absent : pages.get? address = none := by
    cases found : pages.get? address with
    | none => rfl
    | some other =>
      have := beside _ _ found
      have := (held.words _ _ found).1
      omega
  have get : ∀ a, (pages.emplace address ⟨size, .empty⟩).get? a =
      if a = address then some ⟨size, .empty⟩ else pages.get? a := by
    intro a
    rw [KeyMap.get?_emplace, absent]
    rfl
  have old : ∀ a q, (pages.emplace address ⟨size, .empty⟩).get? a = some q →
      (a = address ∧ q = ⟨size, .empty⟩) ∨
        (pages.get? a = some q ∧ (a + q.size ≤ address ∨ address + size ≤ a)) := by
    intro a q storedA
    rw [get] at storedA
    split_ifs at storedA with here
    · exact .inl ⟨here, (Option.some.inj storedA).symm⟩
    · exact .inr ⟨storedA, beside _ _ storedA⟩
  have new : ∀ a q, pages.get? a = some q →
      (pages.emplace address ⟨size, .empty⟩).get? a = some q := by
    intro a q storedA
    rw [get, if_neg, storedA]
    rintro rfl
    rw [absent] at storedA
    cases storedA
  refine ⟨⟨?_, ?_, ?_, ?_, ?_, ?_⟩, ?_⟩
  · intro a q b q' storedA storedB less
    rcases old a q storedA with ⟨rfl, rfl⟩ | ⟨oldA, besideA⟩ <;>
      rcases old b q' storedB with ⟨rfl, rfl⟩ | ⟨oldB, besideB⟩
    · omega
    · have := (held.words _ _ oldB).1
      simp only
      omega
    · have := (held.words _ _ oldA).1
      omega
    · exact held.apart _ _ _ _ oldA oldB less
  · intro a q storedA
    rcases old a q storedA with ⟨rfl, rfl⟩ | ⟨oldA, -⟩
    · exact ⟨nonempty, fits⟩
    · exact held.words _ _ oldA
  · intro x
    simp only [Record.register, held.registered]
    constructor
    · rintro (⟨a, q, storedA, from_a, to_a⟩ | ⟨from_a, to_a⟩)
      · exact ⟨a, q, new a q storedA, from_a, to_a⟩
      · exact ⟨address, ⟨size, .empty⟩, by simp [get], from_a, to_a⟩
    · rintro ⟨a, q, storedA, from_a, to_a⟩
      rcases old a q storedA with ⟨rfl, rfl⟩ | ⟨oldA, -⟩
      · exact .inr ⟨from_a, to_a⟩
      · exact .inl ⟨a, q, oldA, from_a, to_a⟩
  · intro key allocation
    rw [Record.register, held.allocations]
    constructor
    · rintro ⟨a, q, storedA, found⟩
      exact ⟨a, q, new a q storedA, found⟩
    · rintro ⟨a, q, storedA, found⟩
      rcases old a q storedA with ⟨rfl, rfl⟩ | ⟨oldA, -⟩
      · cases found
      · exact ⟨a, q, oldA, found⟩
  · intro a q key allocation storedA found
    rcases old a q storedA with ⟨rfl, rfl⟩ | ⟨oldA, -⟩
    · cases found
    · exact held.starts _ _ _ _ oldA found
  · exact held.separate
  · intro inside a q key allocation storedA found stays
    rcases old a q storedA with ⟨rfl, rfl⟩ | ⟨oldA, -⟩
    · cases found
    · exact inside _ _ _ _ oldA found stays

end BlinkerFluid.JitRecord
