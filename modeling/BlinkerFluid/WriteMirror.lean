import BlinkerFluid.CodeRangeProtect
import BlinkerFluid.SlotTable
import BlinkerFluid.StepRun
import Mathlib.Data.List.Nodup

/-! Write addresses of mirrored code. The ledger says which ranges are mirrored and
where: the range of the last code-range registration if its mirror came about, and
the wasm ranges registered with success and not unregistered since. The variables and
the eight slots of the code carry out the ledger: the slots in use hold the wasm
ranges in some order, and a zero offset marks a slot as free. -/

namespace BlinkerFluid.WriteMirror
open PageSpan CodeRangeProtect SlotTable StepRun

variable {k : Kernel}

structure Mapping where
  base : ℕ
  size : ℕ
  mirror : ℕ
deriving DecidableEq

def Mapping.Contains (m : Mapping) (addr : ℕ) : Prop := m.base ≤ addr ∧ addr < m.base + m.size

instance (m : Mapping) (addr : ℕ) : Decidable (m.Contains addr) := by
  unfold Mapping.Contains
  infer_instance

structure Ledger where
  heap : Option Mapping
  wasm : List Mapping

def Ledger.mirrored (l : Ledger) : List Mapping := l.heap.toList ++ l.wasm

structure World where
  state : State
  ledger : Ledger

inductive Event (k : Kernel) where
  | registersCode (range : Region k.pageBits) (remap : Remap)
  | registersWasm (range : Region k.pageBits) (remap : Remap)
  | unregistersWasm (base : ℕ)

/-- The mapping of a code-range registration, if the call established its mirror. -/
def established (range : Region k.pageBits) (remap : Remap) : Option Mapping :=
  if range.base ≠ 0 ∧ range.size ≠ 0 ∧ remap.mirrorOk = true then
    remap.mirror.map fun mirror => ⟨range.base, range.size, mirror⟩
  else none

def wasmMapping (range : Region k.pageBits) (remap : Remap) : List Mapping :=
  (remap.mirror.map fun mirror => ⟨range.base, range.size, mirror⟩).toList

def step (w : World) : Event k → World
  | .registersCode range remap =>
    { state := registerCodeRange k remap w.state range.base range.size
      ledger := { w.ledger with heap := established range remap } }
  | .registersWasm range remap =>
    let (state, outcome) := registerWasmCodeRange k remap w.state range.base range.size
    { state := state
      ledger := { w.ledger with
        wasm := if outcome.returned then wasmMapping range remap ++ w.ledger.wasm
          else w.ledger.wasm } }
  | .unregistersWasm base =>
    { state := unregisterWasmCodeRange k w.state base
      ledger := { w.ledger with wasm := w.ledger.wasm.eraseP fun m => m.base = base } }

/-- A mirror does not wrap, and it is disjoint from its source. -/
def Apart (range : Region k.pageBits) (remap : Remap) : Prop :=
  ∀ mirror, remap.mirror = some mirror → mirror + range.size < 2 ^ 64 ∧
    (mirror + range.size ≤ range.base ∨ range.base + range.size ≤ mirror)

/-- Mirrors are placed apart, and no two mirrored wasm ranges share their base. -/
def Allowed (w : World) : Event k → Prop
  | .registersCode range remap => Apart range remap
  | .registersWasm range remap => Apart range remap ∧ ∀ m ∈ w.ledger.wasm, m.base ≠ range.base
  | .unregistersWasm _ => True

def fresh (perm : ℕ → Prot) : World := ⟨unregistered perm, ⟨none, []⟩⟩

def Mapping.slot (m : Mapping) : WasmMirror := ⟨m.base, m.size, (m.mirror : ℤ) - m.base, m.mirror⟩

def used (slot : WasmMirror) : Bool := slot.offset ≠ 0

/-- Neither end wraps, and the offset is not zero. -/
structure Mapping.Sound (m : Mapping) : Prop where
  source : m.base + m.size < 2 ^ 64
  target : m.mirror + m.size < 2 ^ 64
  moves : m.mirror ≠ m.base

theorem sound_of_apart (range : Region k.pageBits) (remap : Remap) (mirror : ℕ)
    (apart : Apart range remap) (placed : remap.mirror = some mirror) (nonempty : range.size ≠ 0) :
    Mapping.Sound ⟨range.base, range.size, mirror⟩ where
  source := range.fits.stop_lt
  target := (apart mirror placed).1
  moves := by
    have disjoint := (apart mirror placed).2
    simp only
    omega

theorem Mapping.Sound.used_slot {m : Mapping} (sound : m.Sound) : used m.slot = true := by
  have moves := sound.moves
  apply decide_eq_true
  intro still
  simp only [Mapping.slot] at still
  omega

theorem Mapping.Sound.moved_eq {m : Mapping} (sound : m.Sound) {addr : ℕ}
    (inside : m.Contains addr) : (moved addr m.slot.offset : ℤ) = addr + ((m.mirror : ℤ) - m.base) := by
  obtain ⟨lower, upper⟩ := inside
  have target := sound.target
  rw [moved, Mapping.slot]
  simp only
  omega

structure Tracks (w : World) : Prop where
  heap : match w.ledger.heap with
    | none => w.state.mirrorOffset = 0
    | some m => m.Sound ∧ w.state.mirrorOffset = m.slot.offset ∧
      w.state.codeRangeBase = m.base ∧ w.state.codeRangeSize = m.size
  slots : (w.state.wasmMirrors.filter used).Perm (w.ledger.wasm.map Mapping.slot)
  count : w.state.wasmMirrors.length = kMaxWasmMirrors
  sound : ∀ m ∈ w.ledger.wasm, m.Sound
  distinct : (w.ledger.wasm.map Mapping.base).Nodup

theorem free_complement (slot : WasmMirror) : decide (slot.offset = 0) = !used slot := by
  simp [used]

theorem registerWasmCodeRange_cases (remap : Remap) (s : State) (base size : ℕ) :
    ((registerWasmCodeRange k remap s base size).2.returned = false ∧
      ∃ memory, (registerWasmCodeRange k remap s base size).1 = { s with memory := memory }) ∨
    ((registerWasmCodeRange k remap s base size).2 = .mirrored ∧ size ≠ 0 ∧
      ∃ slot mirror memory, s.wasmMirrors.findIdx? (fun slot => slot.offset = 0) = some slot ∧
        remap.mirror = some mirror ∧
        (registerWasmCodeRange k remap s base size).1 =
          { s with
            wasmMirrors := s.wasmMirrors.set slot (Mapping.slot ⟨base, size, mirror⟩)
            memory := memory }) := by
  unfold registerWasmCodeRange
  by_cases null : base = 0 ∨ size = 0
  · rw [if_pos null]
    exact .inl ⟨rfl, s.memory, rfl⟩
  · rw [if_neg null]
    push Not at null
    cases vacant : s.wasmMirrors.findIdx? (fun slot => slot.offset = 0) with
    | none => exact .inl ⟨rfl, s.memory, rfl⟩
    | some slot =>
      cases placed : remap.mirror with
      | none => exact .inl ⟨rfl, s.memory, rfl⟩
      | some mirror =>
        cases mirrorOk : remap.mirrorOk with
        | false => exact .inl ⟨rfl, _, rfl⟩
        | true =>
          cases sourceOk : remap.sourceOk with
          | false => exact .inl ⟨rfl, _, rfl⟩
          | true => exact .inr ⟨rfl, null.2, slot, mirror, _, rfl, rfl, rfl⟩

theorem registerCodeRange_offset (range : Region k.pageBits) (remap : Remap) (s : State) :
    (registerCodeRange k remap s range.base range.size).wasmMirrors = s.wasmMirrors ∧
    (registerCodeRange k remap s range.base range.size).codeRangeBase = range.base ∧
    (registerCodeRange k remap s range.base range.size).codeRangeSize = range.size ∧
    (registerCodeRange k remap s range.base range.size).mirrorOffset =
      match established range remap with
      | none => 0
      | some m => m.slot.offset := by
  unfold registerCodeRange established
  by_cases null : range.base = 0 ∨ range.size = 0
  · have absent : ¬ (range.base ≠ 0 ∧ range.size ≠ 0 ∧ remap.mirrorOk = true) := by tauto
    rw [if_pos null, if_neg absent]
    exact ⟨rfl, rfl, rfl, rfl⟩
  · rw [if_neg null]
    push Not at null
    cases mirrorOk : remap.mirrorOk with
    | false =>
      cases remap.mirror with
      | none => exact ⟨rfl, rfl, rfl, by simp [releaseMirror]⟩
      | some mirror => exact ⟨rfl, rfl, rfl, by simp [releaseMirror]⟩
    | true =>
      cases remap.mirror with
      | none => exact ⟨rfl, rfl, rfl, by simp [releaseMirror]⟩
      | some mirror => exact ⟨rfl, rfl, rfl, by simp [null, Mapping.slot]⟩

theorem tracks_registersCode (w : World) (range : Region k.pageBits) (remap : Remap)
    (held : Tracks w) (apart : Apart range remap) :
    Tracks (step w (.registersCode range remap)) := by
  obtain ⟨slots, base, size, offset⟩ := registerCodeRange_offset range remap w.state
  constructor
  · simp only [step, base, size, offset]
    cases mapping : established range remap with
    | none => rfl
    | some m =>
      unfold established at mapping
      by_cases placed : range.base ≠ 0 ∧ range.size ≠ 0 ∧ remap.mirrorOk = true
      · rw [if_pos placed, Option.map_eq_some_iff] at mapping
        obtain ⟨mirror, remapped, rfl⟩ := mapping
        exact ⟨sound_of_apart range remap mirror apart remapped placed.2.1, rfl, rfl, rfl⟩
      · rw [if_neg placed] at mapping
        cases mapping
  · simp only [step, slots]
    exact held.slots
  · simp only [step, slots]
    exact held.count
  · exact held.sound
  · exact held.distinct

theorem tracks_registersWasm (w : World) (range : Region k.pageBits) (remap : Remap)
    (held : Tracks w) (apart : Apart range remap)
    (new : ∀ m ∈ w.ledger.wasm, m.base ≠ range.base) :
    Tracks (step w (.registersWasm range remap)) := by
  rcases registerWasmCodeRange_cases (k := k) remap w.state range.base range.size with
    ⟨failed, memory, same⟩ | ⟨mirrored, nonempty, slot, mirror, memory, vacant, placed, set⟩
  · simp only [step, failed, same]
    exact ⟨held.heap, held.slots, held.count, held.sound, held.distinct⟩
  · have returned : (registerWasmCodeRange k remap w.state range.base range.size).2.returned =
        true := by rw [mirrored]; rfl
    have added : wasmMapping range remap = [⟨range.base, range.size, mirror⟩] := by
      rw [wasmMapping, placed]
      rfl
    have sound := sound_of_apart range remap mirror apart placed nonempty
    simp only [step, returned, if_true, set, added, List.singleton_append]
    constructor
    · exact held.heap
    · exact (fill_perm free_complement vacant _ sound.used_slot).trans (held.slots.cons _)
    · simpa using held.count
    · intro m mem
      rcases List.mem_cons.mp mem with rfl | mem
      · exact sound
      · exact held.sound m mem
    · rw [List.map_cons, List.nodup_cons]
      refine ⟨?_, held.distinct⟩
      rw [List.mem_map]
      rintro ⟨m, mem, same⟩
      exact new m mem same

theorem unregisterWasmCodeRange_frame (s : State) (base : ℕ) :
    ∃ slots memory, unregisterWasmCodeRange k s base =
        { s with wasmMirrors := slots, memory := memory } ∧
      slots.length = s.wasmMirrors.length ∧
      slots.filter used = (s.wasmMirrors.filter used).eraseP fun slot => slot.base = base := by
  have both : (fun slot : WasmMirror => decide (slot.offset ≠ 0 ∧ slot.base = base)) =
      fun slot => used slot && decide (slot.base = base) := by
    funext slot
    exact Bool.decide_and _ _
  unfold unregisterWasmCodeRange
  rw [both]
  cases found : s.wasmMirrors.findIdx? fun slot => used slot && decide (slot.base = base) with
  | none => exact ⟨s.wasmMirrors, s.memory, rfl, rfl, (free_filter_none found).symm⟩
  | some i =>
    exact ⟨s.wasmMirrors.set i .unused, _, rfl, List.length_set, free_filter found _ rfl⟩

theorem tracks_unregistersWasm (w : World) (base : ℕ) (held : Tracks w) :
    Tracks (step w (.unregistersWasm base : Event k)) := by
  obtain ⟨slots, memory, cleared, length, erased⟩ :=
    unregisterWasmCodeRange_frame (k := k) w.state base
  -- Bases are distinct, so at most one slot in use matches.
  have single : (w.state.wasmMirrors.filter used).Pairwise fun a b =>
      decide (a.base = base) = true → decide (b.base = base) = true → False := by
    have bases : ((w.state.wasmMirrors.filter used).map WasmMirror.base).Nodup := by
      rw [(held.slots.map WasmMirror.base).nodup_iff, List.map_map]
      exact held.distinct
    refine (List.pairwise_map.mp bases).imp fun {a b} differ => ?_
    simp only [decide_eq_true_eq]
    exact fun left right => differ (left.trans right.symm)
  simp only [step, cleared]
  constructor
  · exact held.heap
  · rw [erased]
    refine (held.slots.eraseP _ single).trans ?_
    rw [List.eraseP_map]
    exact List.Perm.refl _
  · exact length.trans held.count
  · exact fun m mem => held.sound m (List.mem_of_mem_eraseP mem)
  · exact held.distinct.sublist (List.eraseP_sublist.map _)

theorem tracks_step (w : World) (event : Event k) (held : Tracks w) (allowed : Allowed w event) :
    Tracks (step w event) := by
  cases event with
  | registersCode range remap => exact tracks_registersCode w range remap held allowed
  | registersWasm range remap =>
    exact tracks_registersWasm w range remap held allowed.1 allowed.2
  | unregistersWasm base => exact tracks_unregistersWasm w base held

theorem tracks_fresh (perm : ℕ → Prot) : Tracks (fresh perm) where
  heap := rfl
  slots := by simp [fresh, unregistered, used, WasmMirror.unused]
  count := rfl
  sound := by simp [fresh]
  distinct := by simp [fresh]

theorem mirrorWriteAddress_heap (w : World) (held : Tracks w) (addr : ℕ) (m : Mapping)
    (heap : w.ledger.heap = some m) (inside : m.Contains addr) :
    (mirrorWriteAddress w.state addr : ℤ) = addr + ((m.mirror : ℤ) - m.base) := by
  have tracked := held.heap
  rw [heap] at tracked
  obtain ⟨sound, offset, base, size⟩ := tracked
  have live : w.state.mirrorOffset ≠ 0 ∧ w.state.codeRangeBase ≤ addr ∧
      addr < wrap (w.state.codeRangeBase + w.state.codeRangeSize) := by
    rw [base, size, wrap_eq sound.source, offset]
    exact ⟨of_decide_eq_true sound.used_slot, inside⟩
  rw [mirrorWriteAddress, if_pos live, offset, sound.moved_eq inside]

theorem mirrorWriteAddress_slots (w : World) (held : Tracks w) (addr : ℕ)
    (outside : ∀ m, w.ledger.heap = some m → ¬ m.Contains addr) :
    mirrorWriteAddress w.state addr =
      match w.state.wasmMirrors.find? (fun slot =>
        slot.offset ≠ 0 ∧ slot.base ≤ addr ∧ addr < wrap (slot.base + slot.size)) with
      | some slot => moved addr slot.offset
      | none => addr := by
  refine if_neg ?_
  rintro ⟨live, lower, upper⟩
  have tracked := held.heap
  cases heap : w.ledger.heap with
  | none =>
    rw [heap] at tracked
    exact live tracked
  | some m =>
    rw [heap] at tracked
    obtain ⟨sound, -, base, size⟩ := tracked
    rw [base, size, wrap_eq sound.source] at upper
    rw [base] at lower
    exact outside m heap ⟨lower, upper⟩

theorem mem_slots_iff (w : World) (held : Tracks w) (slot : WasmMirror) :
    (slot ∈ w.state.wasmMirrors ∧ slot.offset ≠ 0) ↔ ∃ m ∈ w.ledger.wasm, m.slot = slot := by
  rw [← List.mem_map, ← held.slots.mem_iff, List.mem_filter, used, decide_eq_true_eq]

theorem mirrorWriteAddress_of_mirrored (w : World) (held : Tracks w) (addr : ℕ)
    (mirrored : ∃ m ∈ w.ledger.mirrored, m.Contains addr) :
    ∃ m ∈ w.ledger.mirrored, m.Contains addr ∧
      (mirrorWriteAddress w.state addr : ℤ) = addr + ((m.mirror : ℤ) - m.base) := by
  by_cases heap : ∃ m, w.ledger.heap = some m ∧ m.Contains addr
  · obtain ⟨m, heap, inside⟩ := heap
    exact ⟨m, by simp [Ledger.mirrored, heap], inside,
      mirrorWriteAddress_heap w held addr m heap inside⟩
  · push Not at heap
    rw [mirrorWriteAddress_slots w held addr heap]
    -- Some wasm range contains the address, so the search over the slots succeeds.
    obtain ⟨m, mem, inside⟩ := mirrored
    have wasm : m ∈ w.ledger.wasm := by
      rcases List.mem_append.mp mem with mem | mem
      · exact absurd inside (heap m (Option.mem_toList.mp mem))
      · exact mem
    cases search : w.state.wasmMirrors.find? (fun slot =>
        slot.offset ≠ 0 ∧ slot.base ≤ addr ∧ addr < wrap (slot.base + slot.size)) with
    | none =>
      obtain ⟨in_table, live⟩ := (mem_slots_iff w held m.slot).mpr ⟨m, wasm, rfl⟩
      have miss := List.find?_eq_none.mp search m.slot in_table
      have stop := wrap_eq (held.sound m wasm).source
      simp only [decide_eq_true_eq] at miss
      refine absurd ⟨live, inside.1, ?_⟩ miss
      simp only [Mapping.slot, stop]
      exact inside.2
    | some slot =>
      have hit := List.find?_some search
      simp only [decide_eq_true_eq] at hit
      obtain ⟨live, lower, upper⟩ := hit
      obtain ⟨m', wasm', rfl⟩ := (mem_slots_iff w held slot).mp ⟨List.mem_of_find?_eq_some search, live⟩
      have sound := held.sound m' wasm'
      have inside' : m'.Contains addr := by
        simp only [Mapping.slot, wrap_eq sound.source] at lower upper
        exact ⟨lower, upper⟩
      exact ⟨m', List.mem_append_right _ wasm', inside', sound.moved_eq inside'⟩

theorem mirrorWriteAddress_of_unmirrored (w : World) (held : Tracks w) (addr : ℕ)
    (unmirrored : ∀ m ∈ w.ledger.mirrored, ¬ m.Contains addr) :
    mirrorWriteAddress w.state addr = addr := by
  rw [mirrorWriteAddress_slots w held addr fun m heap =>
    unmirrored m (by simp [Ledger.mirrored, heap])]
  have miss : w.state.wasmMirrors.find? (fun slot =>
      slot.offset ≠ 0 ∧ slot.base ≤ addr ∧ addr < wrap (slot.base + slot.size)) = none := by
    rw [List.find?_eq_none]
    intro slot mem hit
    simp only [decide_eq_true_eq] at hit
    obtain ⟨live, lower, upper⟩ := hit
    obtain ⟨m, wasm, rfl⟩ := (mem_slots_iff w held slot).mp ⟨mem, live⟩
    simp only [Mapping.slot, wrap_eq (held.sound m wasm).source] at lower upper
    exact unmirrored m (List.mem_append_right _ wasm) ⟨lower, upper⟩
  rw [miss]

theorem mirrorWriteAddress_of_failed (remap : Remap) (s : State) (base size addr : ℕ)
    (failed : (registerWasmCodeRange k remap s base size).2.returned = false) :
    mirrorWriteAddress (registerWasmCodeRange k remap s base size).1 addr =
      mirrorWriteAddress s addr := by
  rcases registerWasmCodeRange_cases (k := k) remap s base size with
    ⟨-, memory, same⟩ | ⟨mirrored, -⟩
  · rw [same]
    rfl
  · rw [mirrored] at failed
    cases failed

theorem noFreeSlot_iff (w : World) (held : Tracks w) (remap : Remap) (base size : ℕ)
    (nonnull : base ≠ 0) (nonempty : size ≠ 0) :
    (registerWasmCodeRange k remap w.state base size).2 = .noFreeSlot ↔
      w.ledger.wasm.length = kMaxWasmMirrors := by
  have full := full_iff free_complement w.state.wasmMirrors
  rw [held.slots.length_eq, List.length_map, held.count] at full
  rw [← full, registerWasmCodeRange, if_neg (by tauto)]
  cases w.state.wasmMirrors.findIdx? (fun slot => slot.offset = 0) with
  | none => simp
  | some slot =>
    cases remap.mirror with
    | none => simp
    | some mirror => cases remap.mirrorOk <;> cases remap.sourceOk <;> simp

/-- After every sequence of registrations the write address of a byte lies in the
mirror of a range that contains it, if one is mirrored, and is the byte's own address
otherwise; a registration that returns false changes no write address, and lacks a
slot exactly if eight wasm ranges are mirrored. -/
theorem mirror_translates (perm : ℕ → Prot) (events : List (Event k))
    (allowed : Permitted Allowed step (fresh perm) events) :
    let w := events.foldl step (fresh perm)
    (∀ addr, (∃ m ∈ w.ledger.mirrored, m.Contains addr) →
      ∃ m ∈ w.ledger.mirrored, m.Contains addr ∧
        (mirrorWriteAddress w.state addr : ℤ) = addr + ((m.mirror : ℤ) - m.base)) ∧
    (∀ addr, (∀ m ∈ w.ledger.mirrored, ¬ m.Contains addr) →
      mirrorWriteAddress w.state addr = addr) ∧
    (∀ (range : Region k.pageBits) (remap : Remap),
      (registerWasmCodeRange k remap w.state range.base range.size).2.returned = false →
      ∀ addr, mirrorWriteAddress
          (registerWasmCodeRange k remap w.state range.base range.size).1 addr =
        mirrorWriteAddress w.state addr) ∧
    (∀ (range : Region k.pageBits) (remap : Remap), range.base ≠ 0 → range.size ≠ 0 →
      ((registerWasmCodeRange k remap w.state range.base range.size).2 = .noFreeSlot ↔
        w.ledger.wasm.length = kMaxWasmMirrors)) := by
  intro w
  have held : Tracks w := invariant_run tracks_step _ _ (tracks_fresh perm) allowed
  refine ⟨?_, ?_, ?_, ?_⟩
  · exact fun addr mirrored => mirrorWriteAddress_of_mirrored w held addr mirrored
  · exact fun addr unmirrored => mirrorWriteAddress_of_unmirrored w held addr unmirrored
  · exact fun range remap failed addr => mirrorWriteAddress_of_failed remap w.state _ _ addr failed
  · exact fun range remap nonnull nonempty =>
      noFreeSlot_iff w held remap range.base range.size nonnull nonempty

/-- A code range on pages 4 to 6, then a wasm range on page 5 inside it that is
unregistered again, then one on page 9. -/
def threeRegistrations : List (Event deviceKernel) :=
  [.registersCode ⟨4 * 2 ^ 14, 3 * 2 ^ 14, by decide⟩ ⟨some (20 * 2 ^ 14), true, true⟩,
    .registersWasm ⟨5 * 2 ^ 14, 2 ^ 14, by decide⟩ ⟨some (30 * 2 ^ 14), true, true⟩,
    .unregistersWasm (5 * 2 ^ 14),
    .registersWasm ⟨9 * 2 ^ 14, 2 ^ 14, by decide⟩ ⟨some (40 * 2 ^ 14), true, true⟩]

theorem threeRegistrations_allowed :
    Permitted Allowed step (fresh fun _ => .other) threeRegistrations := by
  refine ⟨?_, ⟨?_, ?_⟩, trivial, ⟨?_, ?_⟩, trivial⟩
  · rintro mirror ⟨⟩
    decide
  · rintro mirror ⟨⟩
    decide
  · exact fun m mem => absurd mem List.not_mem_nil
  · rintro mirror ⟨⟩
    decide
  · exact fun m mem => absurd mem List.not_mem_nil

/-- The byte at the start of page 5 is written through the mirror of the code range,
and page 8 in place. -/
theorem mirror_translates_threeRegistrations :
    (∃ m ∈ (threeRegistrations.foldl step (fresh fun _ => .other)).ledger.mirrored,
      m.Contains (5 * 2 ^ 14) ∧
      (mirrorWriteAddress (threeRegistrations.foldl step (fresh fun _ => .other)).state
        (5 * 2 ^ 14) : ℤ) = 5 * 2 ^ 14 + ((m.mirror : ℤ) - m.base)) ∧
    mirrorWriteAddress (threeRegistrations.foldl step (fresh fun _ => .other)).state
      (8 * 2 ^ 14) = 8 * 2 ^ 14 := by
  obtain ⟨mirrored, unmirrored, -, -⟩ :=
    mirror_translates (fun _ => .other) threeRegistrations threeRegistrations_allowed
  exact ⟨mirrored (5 * 2 ^ 14) ⟨⟨4 * 2 ^ 14, 3 * 2 ^ 14, 20 * 2 ^ 14⟩, .head _, by decide⟩,
    unmirrored (8 * 2 ^ 14) (by decide)⟩

end BlinkerFluid.WriteMirror
