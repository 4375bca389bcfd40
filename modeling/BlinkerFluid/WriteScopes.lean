import BlinkerFluid.ScopeEffects
import BlinkerFluid.StepRun

/-! Write scopes of many threads over one process-wide depth. A thread closes its
own latest scope; the calls of different threads interleave in any order. The
burst is the list of scopes opened since no scope was open: restoration waits for
the outermost close, so the burst and not the open scopes decides what is writable.
A range is reserved inaccessible, and a restored page becomes executable, so the scopes
used so far decide what is executable at rest. -/

namespace BlinkerFluid.WriteScopes
open PageSpan CodeRangeProtect ScopeEffects StepRun

variable {k : Kernel}

/-- An open scope, and whether the depth counts it. -/
structure OpenedScope (k : Kernel) where
  thread : ℕ
  scope : Scope k.pageBits
  counted : Bool

structure World (k : Kernel) where
  state : State
  opened : List (OpenedScope k)
  burst : List (Scope k.pageBits)
  used : List (Scope k.pageBits)

inductive Event (k : Kernel) where
  | opens (thread : ℕ) (scope : Scope k.pageBits)
  | closes (thread : ℕ)
  | registers (range : Region k.pageBits) (remap : Remap)

def closeLatest (thread : ℕ) (opened : List (OpenedScope k)) : List (OpenedScope k) :=
  opened.eraseP fun o => o.thread = thread

def step (w : World k) : Event k → World k
  | .opens thread scope =>
    { state := openScope k w.state scope
      opened := ⟨thread, scope, w.state.mirrorOffset = 0⟩ :: w.opened
      burst := scope :: w.burst
      used := scope :: w.used }
  | .closes thread =>
    let rest := closeLatest thread w.opened
    { w with
      state := setExecutable k w.state
      opened := rest
      burst := if rest = [] then [] else w.burst }
  | .registers range remap =>
    { w with state := registerCodeRange k remap w.state range.base range.size }

def atRest (k : Kernel) (s : State) : World k := ⟨s, [], [], []⟩

def HasOpen (w : World k) (thread : ℕ) : Prop := ∃ o ∈ w.opened, o.thread = thread

/-- Scopes are balanced in each thread, and the registered range stays. -/
def Nested (w : World k) : Event k → Prop
  | .opens _ _ => True
  | .closes thread => HasOpen w thread
  | .registers _ _ => False

/-- A registered range without a mirror, and no scope open. -/
structure Registered (k : Kernel) (s : State) : Prop where
  range : Fits k.pageBits s.codeRangeBase s.codeRangeSize
  fallback : s.mirrorOffset = 0
  depth : s.wxDepth = 0
  whole : s.wholeRangeWritable = false
  spans : s.writableSpans = []

/-- Some scope opened so far covers the page. -/
def Used (start : State) (w : World k) (page : ℕ) : Prop :=
  ∃ scope ∈ w.used, Covers k start page scope

theorem closeLatest_length (w : World k) (thread : ℕ) (has : HasOpen w thread) :
    (closeLatest thread w.opened).length + 1 = w.opened.length := by
  obtain ⟨o, mem, same⟩ := has
  have shorter := List.length_eraseP_of_mem (p := fun o => decide (o.thread = thread)) mem
    (by simpa using same)
  have positive := List.length_pos_of_mem mem
  rw [closeLatest, shorter]
  omega

theorem mem_of_mem_closeLatest {opened : List (OpenedScope k)} {thread : ℕ} {o : OpenedScope k}
    (mem : o ∈ closeLatest thread opened) : o ∈ opened := List.mem_of_mem_eraseP mem

/-- What a run over a registered range maintains: the pages of the burst, and no
others, are named by the state and writable. -/
structure Maintained (k : Kernel) (start : State) (w : World k) : Prop where
  shaped : Shaped k w.state
  base : w.state.codeRangeBase = start.codeRangeBase
  size : w.state.codeRangeSize = start.codeRangeSize
  fallback : w.state.mirrorOffset = 0
  depth : w.state.wxDepth = w.opened.length
  idle : w.opened = [] →
    w.burst = [] ∧ w.state.wholeRangeWritable = false ∧ w.state.writableSpans = []
  burst : ∀ o ∈ w.opened, o.scope ∈ w.burst
  used : ∀ scope ∈ w.burst, scope ∈ w.used
  named : ∀ page, Writable k w.state page ↔ ∃ scope ∈ w.burst, Covers k start page scope
  writable : ∀ page, Writable k w.state page → w.state.memory.perm page = .readWrite
  restored : ∀ page, ¬ Writable k w.state page → Used start w page →
    w.state.memory.perm page = .readExecute
  unused : ∀ page, ¬ Used start w page → w.state.memory.perm page = start.memory.perm page
  calls : ∃ new, w.state.memory.mprotects = new ++ start.memory.mprotects ∧
    ∀ call ∈ new, ∀ page, Meets k.pageBits call.start call.length page → InRange k start page

theorem maintained_atRest (start : State) (registered : Registered k start) :
    Maintained k start (atRest k start) where
  shaped := ⟨registered.range, by simp [atRest, registered.spans]⟩
  base := rfl
  size := rfl
  fallback := registered.fallback
  depth := registered.depth
  idle := fun _ => ⟨rfl, registered.whole, registered.spans⟩
  burst := by simp [atRest]
  used := by simp [atRest]
  named := fun page => by simp [Writable, atRest, registered.whole, registered.spans]
  writable := fun page named => by
    simp [Writable, atRest, registered.whole, registered.spans] at named
  restored := by simp [Used, atRest]
  unused := fun _ _ => rfl
  calls := ⟨[], rfl, by simp⟩

theorem calls_extend {start s s' : State} {pages : ℕ → Prop} {prot : Prot}
    (calls : ∃ new, s.memory.mprotects = new ++ start.memory.mprotects ∧
      ∀ call ∈ new, ∀ page, Meets k.pageBits call.start call.length page → InRange k start page)
    (change : Reprotected k s.memory s'.memory pages prot)
    (inside : ∀ page, pages page → InRange k start page) :
    ∃ new, s'.memory.mprotects = new ++ start.memory.mprotects ∧
      ∀ call ∈ new, ∀ page, Meets k.pageBits call.start call.length page →
        InRange k start page := by
  obtain ⟨old, log, old_inside⟩ := calls
  obtain ⟨new, log', new_inside⟩ := change.calls
  refine ⟨new ++ old, by rw [log', log, List.append_assoc], ?_⟩
  intro call mem page meets
  rcases List.mem_append.mp mem with mem | mem
  · exact inside page (new_inside call mem page meets)
  · exact old_inside call mem page meets

theorem maintained_opens (reliable : k.Reliable) (start : State) (w : World k) (thread : ℕ)
    (scope : Scope k.pageBits) (held : Maintained k start w) :
    Maintained k start (step w (.opens thread scope)) := by
  obtain ⟨memory, failures, transitions, whole, spans, frame⟩ :=
    openScope_frame w.state held.shaped.range held.fallback scope
  obtain ⟨shaped, named⟩ := openScope_writable w.state held.shaped held.fallback scope
  have change := openScope_reprotected reliable w.state held.shaped held.fallback scope
  have same : ∀ page, Covers k w.state page scope ↔ Covers k start page scope :=
    fun page => covers_congr held.base held.size page scope
  -- A covered page is flipped now, or the whole range was flipped before.
  have covered : ∀ page, Covers k w.state page scope →
      (openScope k w.state scope).memory.perm page = .readWrite := by
    intro page covers
    by_cases whole : w.state.wholeRangeWritable = false
    · exact change.inside page ⟨whole, covers⟩
    · rw [change.outside page fun newly => whole newly.1]
      rw [Bool.not_eq_false] at whole
      exact held.writable page (.inl ⟨whole, covers_inRange w.state page scope covers⟩)
  constructor
  · exact shaped
  · rw [step, frame]
    exact held.base
  · rw [step, frame]
    exact held.size
  · rw [step, frame]
    exact held.fallback
  · rw [step, frame]
    exact congrArg (· + 1) held.depth
  · exact fun none => absurd none (List.cons_ne_nil _ _)
  · intro o mem
    rcases List.mem_cons.mp mem with rfl | mem
    · exact List.mem_cons_self
    · exact List.mem_cons_of_mem _ (held.burst o mem)
  · intro old mem
    exact List.mem_cons.mpr ((List.mem_cons.mp mem).imp_right (held.used old))
  · intro page
    rw [step, named page, held.named page, same page]
    simp only [List.mem_cons, exists_eq_or_imp]
    exact or_comm
  · intro page writable
    rcases (named page).mp writable with old | covers
    · by_cases newly : w.state.wholeRangeWritable = false ∧ Covers k w.state page scope
      · exact change.inside page newly
      · exact (change.outside page newly).trans (held.writable page old)
    · exact covered page covers
  · intro page unnamed used
    have untouched : ¬ (Writable k w.state page ∨ Covers k w.state page scope) :=
      fun old => unnamed ((named page).mpr old)
    push Not at untouched
    refine (change.outside page fun newly => untouched.2 newly.2).trans
      (held.restored page untouched.1 ?_)
    obtain ⟨old, mem, covers⟩ := used
    rcases List.mem_cons.mp mem with rfl | mem
    · exact absurd ((same page).mpr covers) untouched.2
    · exact ⟨old, mem, covers⟩
  · intro page unused
    have before : ¬ Used start w page :=
      fun ⟨old, mem, covers⟩ => unused ⟨old, List.mem_cons_of_mem _ mem, covers⟩
    refine (change.outside page fun newly => unused ?_).trans (held.unused page before)
    exact ⟨scope, List.mem_cons_self, (same page).mp newly.2⟩
  · refine calls_extend held.calls change fun page newly => ?_
    exact covers_inRange start page scope ((same page).mp newly.2)

/-- A close that leaves a scope open changes the depth alone. -/
theorem maintained_closes_inner (start : State) (w : World k) (thread : ℕ)
    (held : Maintained k start w) (has : HasOpen w thread)
    (more : closeLatest thread w.opened ≠ []) :
    Maintained k start (step w (.closes thread)) := by
  have length := closeLatest_length w thread has
  have rest := List.length_pos_of_ne_nil more
  have counted := held.depth
  have closed : step w (.closes thread) =
      ⟨{ w.state with wxDepth := w.state.wxDepth - 1 }, closeLatest thread w.opened, w.burst,
        w.used⟩ := by
    rw [step, setExecutable_inner w.state held.fallback (by omega), if_neg more]
  rw [closed]
  constructor
  · exact ⟨held.shaped.range, held.shaped.spans⟩
  · exact held.base
  · exact held.size
  · exact held.fallback
  · simp only
    omega
  · exact fun none => absurd none more
  · exact fun o mem => held.burst o (mem_of_mem_closeLatest mem)
  · exact held.used
  · exact held.named
  · exact held.writable
  · exact held.restored
  · exact held.unused
  · exact held.calls

/-- The last close restores every page of the burst. -/
theorem maintained_closes_outermost (reliable : k.Reliable) (start : State) (w : World k)
    (thread : ℕ) (held : Maintained k start w) (has : HasOpen w thread)
    (last : closeLatest thread w.opened = []) :
    Maintained k start (step w (.closes thread)) := by
  have length := closeLatest_length w thread has
  have counted := held.depth
  rw [last, List.length_nil] at length
  have restored : setExecutable k w.state = restoreAllLocked k { w.state with wxDepth := 0 } :=
    setExecutable_outermost w.state held.fallback (by omega)
  have change : Reprotected k w.state.memory (restoreAllLocked k
      { w.state with wxDepth := 0 }).memory (Writable k w.state) .readExecute :=
    restoreAllLocked_reprotected reliable { w.state with wxDepth := 0 }
      ⟨held.shaped.range, held.shaped.spans⟩
  obtain ⟨memory, failures, transitions, frame⟩ :=
    restoreAllLocked_frame (k := k) { w.state with wxDepth := 0 }
  have in_range : ∀ page, Writable k w.state page → InRange k start page := by
    intro page named
    have here := writable_inRange w.state held.shaped page named
    rwa [InRange, held.base, held.size] at here
  have closed : step w (.closes thread) =
      ⟨restoreAllLocked k { w.state with wxDepth := 0 }, [], [], w.used⟩ := by
    rw [step, restored, if_pos last, last]
  have unnamed : ∀ page, ¬ Writable k (restoreAllLocked k { w.state with wxDepth := 0 }) page :=
    fun page => by simp [frame, Writable]
  rw [closed]
  constructor
  · rw [frame]
    exact ⟨held.shaped.range, by simp⟩
  · rw [frame]
    exact held.base
  · rw [frame]
    exact held.size
  · rw [frame]
    exact held.fallback
  · rw [frame]
    rfl
  · rw [frame]
    exact fun _ => ⟨rfl, rfl, rfl⟩
  · simp
  · simp
  · exact fun page => iff_of_false (unnamed page) (by simp)
  · exact fun page named => absurd named (unnamed page)
  · intro page _ used
    by_cases named : Writable k w.state page
    · exact change.inside page named
    · exact (change.outside page named).trans (held.restored page named used)
  · intro page unused
    have unnamed : ¬ Writable k w.state page := by
      rw [held.named page]
      rintro ⟨scope, mem, covers⟩
      exact unused ⟨scope, held.used scope mem, covers⟩
    exact (change.outside page unnamed).trans (held.unused page unused)
  · exact calls_extend held.calls change in_range

theorem maintained_step (reliable : k.Reliable) (start : State) (w : World k)
    (event : Event k) (held : Maintained k start w) (nested : Nested w event) :
    Maintained k start (step w event) := by
  cases event with
  | opens thread scope => exact maintained_opens reliable start w thread scope held
  | closes thread =>
    by_cases last : closeLatest thread w.opened = []
    · exact maintained_closes_outermost reliable start w thread held nested last
    · exact maintained_closes_inner start w thread held nested last
  | registers range remap => exact nested.elim

theorem maintained_run (reliable : k.Reliable) (start : State) (registered : Registered k start)
    (events : List (Event k)) (nested : Permitted Nested step (atRest k start) events) :
    Maintained k start (events.foldl step (atRest k start)) :=
  invariant_run (maintained_step reliable start) _ _ (maintained_atRest start registered) nested

theorem Maintained.executable {start : State} {w : World k} (held : Maintained k start w)
    {page : ℕ} (unnamed : ¬ Writable k w.state page)
    (before : start.memory.perm page = .readExecute ∨ Used start w page) :
    w.state.memory.perm page = .readExecute := by
  by_cases used : Used start w page
  · exact held.restored page unnamed used
  · rw [held.unused page used]
    exact before.resolve_right used

/-- After every run of balanced scopes the pages of the open scopes are writable; with
no scope open nothing is recorded, and the pages that were executable or that a scope
covered are executable; no permission change named a page outside the range. -/
theorem scopes_protected (reliable : k.Reliable) (start : State) (registered : Registered k start)
    (events : List (Event k)) (nested : Permitted Nested step (atRest k start) events) :
    let w := events.foldl step (atRest k start)
    (∀ o ∈ w.opened, ∀ page, Covers k start page o.scope →
      w.state.memory.perm page = .readWrite) ∧
    (w.opened = [] →
      (∀ page, start.memory.perm page = .readExecute ∨ Used start w page →
        w.state.memory.perm page = .readExecute) ∧
      w.state.wholeRangeWritable = false ∧ w.state.writableSpans = [] ∧ w.state.wxDepth = 0) ∧
    (∀ page, ¬ Used start w page → w.state.memory.perm page = start.memory.perm page) ∧
    (∀ page, ¬ InRange k start page →
      w.state.memory.perm page = start.memory.perm page) ∧
    ∃ calls, w.state.memory.mprotects = calls ++ start.memory.mprotects ∧
      ∀ call ∈ calls, ∀ page, Meets k.pageBits call.start call.length page →
        InRange k start page := by
  intro w
  have held : Maintained k start w := maintained_run reliable start registered events nested
  refine ⟨?_, ?_, held.unused, ?_, held.calls⟩
  · intro o mem page covers
    exact held.writable page ((held.named page).mpr ⟨o.scope, held.burst o mem, covers⟩)
  · intro closed
    obtain ⟨burst, whole, spans⟩ := held.idle closed
    refine ⟨fun page before => ?_, whole, spans, by rw [held.depth, closed]; rfl⟩
    have unnamed : ¬ Writable k w.state page := by simp [Writable, whole, spans]
    exact held.executable unnamed before
  · intro page outside
    apply held.unused
    rintro ⟨scope, -, covers⟩
    exact outside (covers_inRange start page scope covers)

/-- Three pages from page 4 on, registered without a mirror and executable. -/
def threePages : State :=
  { unregistered (fun _ => .readExecute) with
    codeRangeBase := 4 * 2 ^ 14
    codeRangeSize := 3 * 2 ^ 14 }

theorem threePages_registered : Registered deviceKernel threePages where
  range := by decide
  fallback := rfl
  depth := rfl
  whole := rfl
  spans := rfl

def spanOnPage (page : ℕ) (fits : Fits 14 (page * 2 ^ 14 + 256) 64) : Scope 14 :=
  .span ⟨page * 2 ^ 14 + 256, 64, fits⟩

/-- Thread 1 writes on page 4 while thread 2 writes on page 5. -/
def overlapping : List (Event deviceKernel) :=
  [.opens 1 (spanOnPage 4 (by decide)), .opens 2 (spanOnPage 5 (by decide)), .closes 1]

theorem overlapping_nested :
    Permitted Nested step (atRest deviceKernel threePages) (overlapping ++ [.closes 2]) :=
  ⟨trivial, trivial, ⟨_, .tail _ (.head _), rfl⟩, ⟨_, .head _, rfl⟩, trivial⟩

/-- Page 5 is writable while thread 2 writes, and executable afterwards. -/
theorem scopes_protected_overlapping :
    (overlapping.foldl step (atRest deviceKernel threePages)).state.memory.perm 5 = .readWrite ∧
    ((overlapping ++ [Event.closes 2]).foldl step
      (atRest deviceKernel threePages)).state.memory.perm 5 = .readExecute :=
  ⟨(scopes_protected deviceKernel_reliable threePages threePages_registered overlapping
      ((permitted_append _ _ _).mp overlapping_nested).1).1 _ (.head _) 5
      ⟨by decide, 5 * 2 ^ 14 + 256, by decide, by decide, by decide⟩,
    ((scopes_protected deviceKernel_reliable threePages threePages_registered _
      overlapping_nested).2.1 rfl).1 5 (.inl rfl)⟩

def reservedPages : State :=
  { threePages with memory := ⟨fun _ => .other, []⟩ }

/-- A page that no scope ever covered stays as it was reserved. -/
theorem reservedPages_not_executable :
    ¬ ∀ (k : Kernel), k.Reliable → ∀ start, Registered k start → ∀ events,
      Permitted Nested step (atRest k start) events →
      (events.foldl step (atRest k start)).opened = [] → ∀ page, InRange k start page →
        (events.foldl step (atRest k start)).state.memory.perm page = .readExecute := by
  intro restored
  have executable := restored deviceKernel deviceKernel_reliable reservedPages
    ⟨by decide, rfl, rfl, rfl, rfl⟩ [.opens 1 (spanOnPage 4 (by decide)), .closes 1]
    ⟨trivial, ⟨_, .head _, rfl⟩, trivial⟩ rfl 6 (by decide)
  revert executable
  decide +kernel

/-- Every page of the range that no open scope covers is executable. -/
def OnlyOpenExposed (k : Kernel) (start : State) (w : World k) : Prop :=
  ∀ page, InRange k start page → (∀ o ∈ w.opened, ¬ Covers k start page o.scope) →
    w.state.memory.perm page = .readExecute

/-- A page is executable exactly if no scope of the burst covers it, and it was executable from
the start or some scope has covered it. -/
theorem executable_iff (reliable : k.Reliable) (start : State) (registered : Registered k start)
    (events : List (Event k)) (nested : Permitted Nested step (atRest k start) events)
    (page : ℕ) :
    let w := events.foldl step (atRest k start)
    (w.opened = [] → w.burst = []) ∧
    (w.state.memory.perm page = .readExecute ↔
      (∀ scope ∈ w.burst, ¬ Covers k start page scope) ∧
        (start.memory.perm page = .readExecute ∨ Used start w page)) := by
  intro w
  have held : Maintained k start w := maintained_run reliable start registered events nested
  refine ⟨fun closed => (held.idle closed).1, ?_⟩
  constructor
  · intro executable
    refine ⟨fun scope mem covers => ?_, ?_⟩
    · have writable := held.writable page ((held.named page).mpr ⟨scope, mem, covers⟩)
      rw [executable] at writable
      cases writable
    · by_cases used : Used start w page
      · exact .inr used
      · exact .inl ((held.unused page used).symm.trans executable)
  · rintro ⟨clear, before⟩
    have unnamed : ¬ Writable k w.state page := by
      rw [held.named page]
      rintro ⟨scope, mem, covers⟩
      exact clear scope mem covers
    exact held.executable unnamed before

/-- The span that thread 1 has closed stays writable while thread 2 writes elsewhere. -/
theorem closed_span_exposed :
    ¬ ∀ (k : Kernel), k.Reliable → ∀ start, Registered k start →
      (∀ page, InRange k start page → start.memory.perm page = .readExecute) → ∀ events thread,
      Permitted Nested step (atRest k start) (events ++ [.closes thread]) →
      OnlyOpenExposed k start ((events ++ [.closes thread]).foldl step (atRest k start)) := by
  intro exposed
  have executable := exposed deviceKernel deviceKernel_reliable threePages threePages_registered
    (fun _ _ => rfl) [.opens 1 (spanOnPage 4 (by decide)), .opens 2 (spanOnPage 5 (by decide))] 1
    ((permitted_append _ _ _).mp overlapping_nested).1 4 (by decide) ?_
  · revert executable
    decide +kernel
  · intro o mem
    -- Only the scope of thread 2 is left, and it lies on page 5.
    obtain rfl : o = ⟨2, spanOnPage 5 (by decide), true⟩ := List.mem_singleton.mp mem
    rintro ⟨-, x, span, -, on_page⟩
    have page_four : x / 2 ^ 14 = 4 := on_page
    simp only at span
    omega

/-- Page 6, which no scope of the burst covers, is executable throughout. -/
theorem executable_iff_overlapping :
    (overlapping.foldl step (atRest deviceKernel threePages)).state.memory.perm 6 =
      .readExecute := by
  refine ((executable_iff deviceKernel_reliable threePages threePages_registered overlapping
    ((permitted_append _ _ _).mp overlapping_nested).1 6).2).mpr ⟨?_, .inl rfl⟩
  intro scope mem covers
  rcases List.mem_cons.mp mem with rfl | mem
  · obtain ⟨-, x, span, -, on_page⟩ := covers
    have page_six : x / 2 ^ 14 = 6 := on_page
    simp only at span
    omega
  · obtain rfl : scope = spanOnPage 4 (by decide) := List.mem_singleton.mp mem
    obtain ⟨-, x, span, -, on_page⟩ := covers
    have page_six : x / 2 ^ 14 = 6 := on_page
    simp only at span
    omega

end BlinkerFluid.WriteScopes
