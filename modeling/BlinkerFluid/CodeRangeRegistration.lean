import BlinkerFluid.WriteScopes

/-! Registration of code ranges among write scopes. Registering a range zeroes the
depth and forgets the spans, and its mirror decides whether later scopes are counted,
so the accounting survives as long as no scope is open across a registration. -/

namespace BlinkerFluid.CodeRangeRegistration
open PageSpan CodeRangeProtect ScopeEffects WriteScopes StepRun

variable {k : Kernel}

/-- Scopes are balanced in each thread; ranges are registered at any time. -/
def Balanced (w : World k) : Event k → Prop
  | .opens _ _ => True
  | .closes thread => HasOpen w thread
  | .registers _ _ => True

/-- Scopes are balanced, and ranges are registered while no scope is open. -/
def Quiet (w : World k) : Event k → Prop
  | .opens _ _ => True
  | .closes thread => HasOpen w thread
  | .registers _ _ => w.opened = []

/-- A mirror that the event may place does not use the page. -/
def Avoids (k : Kernel) (page : ℕ) : Event k → Prop
  | .opens _ _ => True
  | .closes _ => True
  | .registers range remap =>
    ∀ mirror, remap.mirror = some mirror → ¬ Meets k.pageBits mirror range.size page

/-- The close leaves the pages of the scopes that stay open as they are. -/
def KeepsOpenPages (w : World k) (thread : ℕ) : Prop :=
  ∀ o ∈ (step w (.closes thread)).opened, ∀ page, Covers k w.state page o.scope →
    (step w (.closes thread)).state.memory.perm page = w.state.memory.perm page

/-- The depth is the number of open scopes that were counted. -/
def DepthExact (w : World k) : Prop := w.state.wxDepth = w.opened.countP (·.counted)

/-- A page that was not writable from the start is writable only inside the current
range and while a counted scope is open. -/
def OnlyOpenWritable (perm : ℕ → Prot) (page : ℕ) (w : World k) : Prop :=
  w.state.memory.perm page = .readWrite → perm page = .readWrite ∨
    (InRange k w.state page ∧ ∃ o ∈ w.opened, o.counted = true)

/-- All open scopes are counted, or a mirror exists and none is. -/
structure Accounted (w : World k) : Prop where
  shaped : Shaped k w.state
  counted : ∀ o ∈ w.opened, o.counted = true ↔ w.state.mirrorOffset = 0
  depth : DepthExact w
  idle : w.state.wxDepth = 0 →
    w.state.wholeRangeWritable = false ∧ w.state.writableSpans = []

theorem Accounted.countP_fallback {w : World k} (held : Accounted w)
    (fallback : w.state.mirrorOffset = 0) (rest : List (OpenedScope k))
    (among : ∀ o ∈ rest, o ∈ w.opened) : rest.countP (·.counted) = rest.length :=
  List.countP_eq_length.mpr fun o mem => (held.counted o (among o mem)).mpr fallback

theorem Accounted.countP_mirrored {w : World k} (held : Accounted w)
    (mirrored : w.state.mirrorOffset ≠ 0) (rest : List (OpenedScope k))
    (among : ∀ o ∈ rest, o ∈ w.opened) : rest.countP (·.counted) = 0 :=
  List.countP_eq_zero.mpr fun o mem counted =>
    mirrored ((held.counted o (among o mem)).mp counted)

theorem Accounted.depth_fallback {w : World k} (held : Accounted w)
    (fallback : w.state.mirrorOffset = 0) : w.state.wxDepth = w.opened.length :=
  held.depth.trans (held.countP_fallback fallback _ fun _ mem => mem)

theorem Accounted.depth_mirrored {w : World k} (held : Accounted w)
    (mirrored : w.state.mirrorOffset ≠ 0) : w.state.wxDepth = 0 :=
  held.depth.trans (held.countP_mirrored mirrored _ fun _ mem => mem)

theorem Accounted.not_writable {w : World k} (held : Accounted w)
    (zero : w.state.wxDepth = 0) (page : ℕ) : ¬ Writable k w.state page := by
  obtain ⟨whole, spans⟩ := held.idle zero
  simp [Writable, whole, spans]

theorem registerCodeRange_frame (remap : Remap) (s : State) (base size : ℕ) :
    (registerCodeRange k remap s base size).codeRangeBase = base ∧
    (registerCodeRange k remap s base size).codeRangeSize = size ∧
    (registerCodeRange k remap s base size).wxDepth = 0 ∧
    (registerCodeRange k remap s base size).wholeRangeWritable = false ∧
    (registerCodeRange k remap s base size).writableSpans = [] := by
  unfold registerCodeRange
  by_cases null : base = 0 ∨ size = 0
  · simp [releaseMirror, null]
  · cases remap.mirror with
    | none => simp [releaseMirror, null]
    | some mirror => cases remap.mirrorOk <;> simp [releaseMirror, null]

/-- A range registered without a mirror starts at rest, with the protections it had. -/
theorem registerCodeRange_registered (range : Region k.pageBits) (remap : Remap) (s : State)
    (failed : remap.mirror = none) (first : s.mirrorBase = 0) :
    Registered k (registerCodeRange k remap s range.base range.size) ∧
      (registerCodeRange k remap s range.base range.size).memory = s.memory := by
  obtain ⟨base, size, depth, whole, spans⟩ :=
    registerCodeRange_frame (k := k) remap s range.base range.size
  have memory : (registerCodeRange k remap s range.base range.size).memory = s.memory ∧
      (registerCodeRange k remap s range.base range.size).mirrorOffset = 0 := by
    unfold registerCodeRange
    split_ifs <;> simp [failed, releaseMirror, first]
  refine ⟨⟨?_, memory.2, depth, whole, spans⟩, memory.1⟩
  rw [base, size]
  exact range.fits

theorem registerCodeRange_readWrite (range : Region k.pageBits) (remap : Remap) (s : State)
    (page : ℕ) (avoids : Avoids k page (.registers range remap))
    (writable : (registerCodeRange k remap s range.base range.size).memory.perm page = .readWrite) :
    s.memory.perm page = .readWrite := by
  have released : ∀ t : State, (releaseMirror k t).memory.perm page = .readWrite →
      t.memory.perm page = .readWrite := by
    intro t still
    by_cases old : t.mirrorBase ≠ 0 ∧ t.mirrorSize ≠ 0
    · by_cases here : Meets k.pageBits t.mirrorBase t.mirrorSize page
      · simp [releaseMirror, old, vmDeallocate, here] at still
      · simpa [releaseMirror, old, vmDeallocate, here] using still
    · simpa only [releaseMirror, if_neg old] using still
  unfold registerCodeRange at writable
  by_cases null : range.base = 0 ∨ range.size = 0
  · rw [if_pos null] at writable
    exact released _ writable
  · rw [if_neg null] at writable
    cases placed : remap.mirror with
    | none =>
      rw [placed] at writable
      exact released _ writable
    | some mirror =>
      have apart := avoids mirror placed
      rw [placed] at writable
      refine released { s with
        codeRangeBase := range.base
        codeRangeSize := range.size
        wxDepth := 0
        wholeRangeWritable := false
        writableSpans := [] } ?_
      cases mirrorOk : remap.mirrorOk with
      | false => simpa [mirrorOk, mprotect, vmRemap, apart] using writable
      | true =>
        by_cases source : remap.sourceOk = true ∧ Meets k.pageBits range.base range.size page
        · simp [mirrorOk, mprotect, source] at writable
        · simpa [mirrorOk, mprotect, vmRemap, apart, source] using writable

theorem accounted_opens (w : World k) (thread : ℕ) (scope : Scope k.pageBits)
    (held : Accounted w) : Accounted (step w (.opens thread scope)) := by
  by_cases fallback : w.state.mirrorOffset = 0
  · obtain ⟨memory, failures, transitions, whole, spans, frame⟩ :=
      openScope_frame w.state held.shaped.range fallback scope
    have kept : (openScope k w.state scope).mirrorOffset = w.state.mirrorOffset := by rw [frame]
    have deeper : (openScope k w.state scope).wxDepth = w.state.wxDepth + 1 := by rw [frame]
    constructor
    · exact (openScope_writable w.state held.shaped fallback scope).1
    · intro o mem
      rw [step, kept]
      rcases List.mem_cons.mp mem with rfl | mem
      · simp
      · exact held.counted o mem
    · rw [DepthExact, step, deeper, held.depth]
      simp [fallback]
    · rw [step, deeper]
      exact fun zero => absurd zero (Nat.succ_ne_zero _)
  · have same : openScope k w.state scope = w.state := openScope_mirrored w.state fallback scope
    constructor
    · rw [step, same]
      exact held.shaped
    · intro o mem
      rw [step, same]
      rcases List.mem_cons.mp mem with rfl | mem
      · simp
      · exact held.counted o mem
    · rw [DepthExact, step, same, held.depth]
      simp [fallback]
    · rw [step, same]
      exact held.idle

theorem accounted_closes (w : World k) (thread : ℕ) (held : Accounted w)
    (has : HasOpen w thread) : Accounted (step w (.closes thread)) := by
  have length := closeLatest_length w thread has
  have among : ∀ o ∈ closeLatest thread w.opened, o ∈ w.opened :=
    fun o mem => mem_of_mem_closeLatest mem
  by_cases fallback : w.state.mirrorOffset = 0
  · have depth := held.depth_fallback fallback
    have rest := held.countP_fallback fallback _ among
    by_cases last : w.state.wxDepth = 1
    · obtain ⟨memory, failures, transitions, frame⟩ :=
        restoreAllLocked_frame (k := k) { w.state with wxDepth := 0 }
      rw [step, setExecutable_outermost w.state fallback last, frame]
      refine ⟨⟨held.shaped.range, by simp⟩, fun o mem => held.counted o (among o mem), ?_,
        fun _ => ⟨rfl, rfl⟩⟩
      rw [DepthExact, rest]
      simp only
      omega
    · rw [step, setExecutable_inner w.state fallback (by omega)]
      refine ⟨⟨held.shaped.range, held.shaped.spans⟩, fun o mem => held.counted o (among o mem),
        ?_, ?_⟩
      · rw [DepthExact, rest]
        simp only
        omega
      · intro zero
        simp only at zero
        omega
  · rw [step, setExecutable_mirrored w.state fallback]
    refine ⟨held.shaped, fun o mem => held.counted o (among o mem), ?_, held.idle⟩
    rw [DepthExact, held.countP_mirrored fallback _ among]
    exact held.depth_mirrored fallback

theorem accounted_registers (w : World k) (range : Region k.pageBits) (remap : Remap)
    (quiet : w.opened = []) : Accounted (step w (.registers range remap)) := by
  obtain ⟨base, size, depth, whole, spans⟩ :=
    registerCodeRange_frame (k := k) remap w.state range.base range.size
  constructor
  · refine ⟨?_, ?_⟩
    · rw [step, base, size]
      exact range.fits
    · rw [step, spans]
      simp
  · rw [step, quiet]
    simp
  · rw [DepthExact, step, depth, quiet]
    rfl
  · exact fun _ => ⟨whole, spans⟩

theorem accounted_step (w : World k) (event : Event k) (held : Accounted w)
    (quiet : Quiet w event) : Accounted (step w event) := by
  cases event with
  | opens thread scope => exact accounted_opens w thread scope held
  | closes thread => exact accounted_closes w thread held quiet
  | registers range remap => exact accounted_registers w range remap quiet

theorem accounted_unregistered (perm : ℕ → Prot) :
    Accounted (atRest k (unregistered perm)) where
  shaped := ⟨by simpa [Fits, atRest, unregistered] using
    Nat.pow_le_pow_right (show 0 < 2 by decide) k.pageBits_le, by simp [atRest, unregistered]⟩
  counted := by simp [atRest]
  depth := rfl
  idle := fun _ => ⟨rfl, rfl⟩

/-- A page without a mirror that is writable was so from the start or is named. -/
def NamedWritable (perm : ℕ → Prot) (page : ℕ) (w : World k) : Prop :=
  w.state.memory.perm page = .readWrite →
    perm page = .readWrite ∨ Writable k w.state page

theorem namedWritable_opens (reliable : k.Reliable) (perm : ℕ → Prot) (page : ℕ) (w : World k)
    (thread : ℕ) (scope : Scope k.pageBits) (held : Accounted w)
    (named : NamedWritable perm page w) :
    NamedWritable perm page (step w (.opens thread scope)) := by
  by_cases fallback : w.state.mirrorOffset = 0
  · have change := openScope_reprotected reliable w.state held.shaped fallback scope
    have grows := (openScope_writable w.state held.shaped fallback scope).2 page
    intro writable
    by_cases newly : w.state.wholeRangeWritable = false ∧ Covers k w.state page scope
    · exact .inr (grows.mpr (.inr newly.2))
    · rw [step, change.outside page newly] at writable
      exact (named writable).imp_right fun old => grows.mpr (.inl old)
  · unfold NamedWritable
    rw [step, openScope_mirrored w.state fallback scope]
    exact named

theorem namedWritable_closes (reliable : k.Reliable) (perm : ℕ → Prot) (page : ℕ) (w : World k)
    (thread : ℕ) (held : Accounted w) (has : HasOpen w thread)
    (named : NamedWritable perm page w) : NamedWritable perm page (step w (.closes thread)) := by
  by_cases fallback : w.state.mirrorOffset = 0
  · have depth := held.depth_fallback fallback
    have length := closeLatest_length w thread has
    by_cases last : w.state.wxDepth = 1
    · have change : Reprotected k w.state.memory (restoreAllLocked k
          { w.state with wxDepth := 0 }).memory (Writable k w.state) .readExecute :=
        restoreAllLocked_reprotected reliable { w.state with wxDepth := 0 }
          ⟨held.shaped.range, held.shaped.spans⟩
      intro writable
      rw [step, setExecutable_outermost w.state fallback last] at writable
      by_cases restored : Writable k w.state page
      · rw [change.inside page restored] at writable
        cases writable
      · rw [change.outside page restored] at writable
        exact .inl ((named writable).resolve_right restored)
    · unfold NamedWritable
      rw [step, setExecutable_inner w.state fallback (by omega)]
      exact named
  · unfold NamedWritable
    rw [step, setExecutable_mirrored w.state fallback]
    exact named

theorem namedWritable_registers (perm : ℕ → Prot) (page : ℕ) (w : World k)
    (range : Region k.pageBits) (remap : Remap) (held : Accounted w) (quiet : w.opened = [])
    (avoids : Avoids k page (.registers range remap)) (named : NamedWritable perm page w) :
    NamedWritable perm page (step w (.registers range remap)) := by
  intro writable
  have before := registerCodeRange_readWrite range remap w.state page avoids writable
  have zero : w.state.wxDepth = 0 := by
    rw [held.depth, quiet]
    rfl
  exact .inl ((named before).resolve_right (held.not_writable zero page))

theorem accounted_run (perm : ℕ → Prot) (events : List (Event k))
    (quiet : Permitted Quiet step (atRest k (unregistered perm)) events) :
    Accounted (events.foldl step (atRest k (unregistered perm))) :=
  invariant_run accounted_step _ _ (accounted_unregistered perm) quiet

theorem namedWritable_run (reliable : k.Reliable) (perm : ℕ → Prot) (page : ℕ)
    (events : List (Event k))
    (quiet : Permitted Quiet step (atRest k (unregistered perm)) events)
    (avoids : ∀ e ∈ events, Avoids k page e) :
    NamedWritable perm page (events.foldl step (atRest k (unregistered perm))) := by
  have preserved : ∀ w e, (Accounted w ∧ NamedWritable perm page w) →
      (Quiet w e ∧ Avoids k page e) →
      (Accounted (step w e) ∧ NamedWritable perm page (step w e)) := by
    intro w event held ok
    refine ⟨accounted_step w event held.1 ok.1, ?_⟩
    cases event with
    | opens thread scope =>
      exact namedWritable_opens reliable perm page w thread scope held.1 held.2
    | closes thread => exact namedWritable_closes reliable perm page w thread held.1 ok.1 held.2
    | registers range remap =>
      exact namedWritable_registers perm page w range remap held.1 ok.1 ok.2 held.2
  exact (invariant_run preserved _ events ⟨accounted_unregistered perm, fun writable => .inl writable⟩
    (permitted_and_mem _ _ quiet avoids)).2

/-- A close that leaves scopes open changes no page; the last one leaves none open. -/
theorem keepsOpenPages_of_accounted (w : World k) (thread : ℕ) (held : Accounted w)
    (has : HasOpen w thread) : KeepsOpenPages w thread := by
  intro o mem page _
  by_cases fallback : w.state.mirrorOffset = 0
  · have depth := held.depth_fallback fallback
    have length := closeLatest_length w thread has
    have more : 0 < (closeLatest thread w.opened).length := List.length_pos_of_mem mem
    rw [step, setExecutable_inner w.state fallback (by omega)]
  · rw [step, setExecutable_mirrored w.state fallback]

/-- If ranges are registered only while no scope is open, closes restore no page of an
open scope, the depth counts the open scopes, and no page stays writable. -/
theorem accounting_survives (perm : ℕ → Prot) (events : List (Event k))
    (quiet : Permitted Quiet step (atRest k (unregistered perm)) events) :
    let w := events.foldl step (atRest k (unregistered perm))
    (∀ thread, HasOpen w thread → KeepsOpenPages w thread) ∧
    DepthExact w ∧
    (k.Reliable → ∀ page, (∀ e ∈ events, Avoids k page e) → OnlyOpenWritable perm page w) := by
  intro w
  have held : Accounted w := accounted_run perm events quiet
  refine ⟨fun thread has => keepsOpenPages_of_accounted w thread held has, held.depth, ?_⟩
  intro reliable page avoids writable
  refine (namedWritable_run reliable perm page events quiet avoids writable).imp_right fun named => ?_
  refine ⟨writable_inRange w.state held.shaped page named, ?_⟩
  have counting : w.opened.countP (·.counted) ≠ 0 := by
    rw [← held.depth]
    exact fun zero => held.not_writable zero page named
  exact List.countP_pos_iff.mp (Nat.pos_of_ne_zero counting)

def threePageRange : Region 14 := ⟨4 * 2 ^ 14, 3 * 2 ^ 14, by decide⟩

def unmirrored : Remap := ⟨none, false, false⟩

theorem pageFour_fits : Fits 14 (4 * 2 ^ 14 + 256) 64 := by decide

/-- The range is registered, used by one scope, and registered again. -/
def reregistered : List (Event deviceKernel) :=
  [.registers threePageRange unmirrored, .opens 1 (spanOnPage 4 pageFour_fits), .closes 1,
    .registers threePageRange unmirrored]

/-- After the second registration the depth is exact, and page 4 is not writable. -/
theorem accounting_survives_reregistered :
    let w := reregistered.foldl step (atRest deviceKernel (unregistered fun _ => .readExecute))
    DepthExact w ∧ OnlyOpenWritable (fun _ => .readExecute) 4 w := by
  have survives := accounting_survives (fun _ => .readExecute) reregistered
    ⟨rfl, trivial, ⟨_, .head _, rfl⟩, rfl, trivial⟩
  exact ⟨survives.2.1,
    survives.2.2 deviceKernel_reliable 4 (by simp [reregistered, Avoids, unmirrored])⟩

/-- Thread 1 holds a scope across a registration; its close ends the scope of thread 2. -/
theorem straddling_scope_restores :
    ¬ ∀ (k : Kernel) perm events,
      Permitted Balanced step (atRest k (unregistered perm)) events →
      let w := events.foldl step (atRest k (unregistered perm))
      (∀ thread, HasOpen w thread → KeepsOpenPages w thread) ∧
      DepthExact w ∧
      (k.Reliable → ∀ page, (∀ e ∈ events, Avoids k page e) → OnlyOpenWritable perm page w) := by
  intro survives
  have still := (survives deviceKernel (fun _ => .readExecute)
    [.registers threePageRange unmirrored, .opens 1 (spanOnPage 4 (by decide)),
      .registers threePageRange unmirrored, .opens 2 (spanOnPage 5 (by decide))]
    ⟨trivial, trivial, trivial, trivial, trivial⟩).1 1 ⟨_, .tail _ (.head _), rfl⟩ _ (.head _) 5
    ⟨by decide, 5 * 2 ^ 14 + 256, by decide, by decide, by decide⟩
  revert still
  decide +kernel

end BlinkerFluid.CodeRangeRegistration
