import BlinkerFluid.WriteMirror
import Mathlib.Data.List.Pairwise
import Mathlib.Data.Set.Image

/-! Stores into generated code. Each write primitive turns the address it was given into
a write address by hand, some before and some behind the addition of an offset. A range of
wasm code lies inside the mirrored range of the heap or apart from it, so one mirror carries
all of its bytes, and a store that begins in a range stays in that mirror. -/

namespace BlinkerFluid.CodeWrites
open PageSpan CodeRangeProtect WriteMirror StepRun

variable {k : Kernel}

def Clear (start size start' size' : ℕ) : Prop := start + size ≤ start' ∨ start' + size' ≤ start

/-- Neither range meets the other, and no mirror lies over the other's range. -/
structure Separate (m m' : Mapping) : Prop where
  ranges : Clear m.base m.size m'.base m'.size
  mirror : Clear m.mirror m.size m'.base m'.size
  mirrored : Clear m'.mirror m'.size m.base m.size

theorem Separate.symm {m m' : Mapping} (separate : Separate m m') : Separate m' m :=
  ⟨separate.ranges.symm, separate.mirrored, separate.mirror⟩

instance : Std.Symm Separate := ⟨fun _ _ => Separate.symm⟩

/-- All bytes of the second range are bytes of the first one. -/
def Holds (m m' : Mapping) : Prop := m.base ≤ m'.base ∧ m'.base + m'.size ≤ m.base + m.size

/-- A wasm range is taken from the range of the heap or from elsewhere; the mirrors are placed
where nothing is reserved. -/
structure Around (heap m : Mapping) : Prop where
  ranges : Holds heap m ∨ Clear heap.base heap.size m.base m.size
  mirror : Clear heap.mirror heap.size m.base m.size
  mirrored : Clear m.mirror m.size heap.base heap.size

/-- Where the kernel and the allocator of the heap place a new range and its mirror. -/
def Lands (w : World) : Event k → Prop
  | .registersCode range remap => ∀ mirror, remap.mirror = some mirror →
    ∀ m ∈ w.ledger.wasm, Around ⟨range.base, range.size, mirror⟩ m
  | .registersWasm range remap => ∀ mirror, remap.mirror = some mirror →
    (∀ m ∈ w.ledger.wasm, Separate ⟨range.base, range.size, mirror⟩ m) ∧
      ∀ heap ∈ w.ledger.heap, Around heap ⟨range.base, range.size, mirror⟩
  | .unregistersWasm _ => True

def Placed (w : World) (event : Event k) : Prop := Allowed w event ∧ Lands w event

structure Spread (w : World) : Prop where
  tracks : Tracks w
  separate : w.ledger.wasm.Pairwise Separate
  around : ∀ heap ∈ w.ledger.heap, ∀ m ∈ w.ledger.wasm, Around heap m
  away : ∀ m ∈ w.ledger.mirrored, Clear m.mirror m.size m.base m.size

theorem spread_fresh (perm : ℕ → Prot) : Spread (fresh perm) where
  tracks := tracks_fresh perm
  separate := .nil
  around := nofun
  away := nofun

theorem established_eq_some {range : Region k.pageBits} {remap : Remap} {m : Mapping}
    (registered : established range remap = some m) :
    remap.mirror = some m.mirror ∧ m.base = range.base ∧ m.size = range.size := by
  unfold established at registered
  split at registered
  · obtain ⟨mirror, placed, rfl⟩ := Option.map_eq_some_iff.mp registered
    exact ⟨placed, rfl, rfl⟩
  · cases registered

theorem mem_mirrored {l : Ledger} {m : Mapping} :
    m ∈ l.mirrored ↔ l.heap = some m ∨ m ∈ l.wasm := by
  rw [Ledger.mirrored, List.mem_append, Option.mem_toList]

theorem spread_registersCode {w : World} (spread : Spread w) (range : Region k.pageBits)
    (remap : Remap) (placed : Placed w (.registersCode range remap)) :
    Spread (step w (.registersCode range remap)) := by
  obtain ⟨apart, lands⟩ := placed
  have same {m : Mapping} (registered : established range remap = some m) :
      remap.mirror = some m.mirror ∧ m = ⟨range.base, range.size, m.mirror⟩ := by
    obtain ⟨mirror, base, size⟩ := established_eq_some registered
    exact ⟨mirror, by rw [← base, ← size]⟩
  refine ⟨tracks_registersCode w range remap spread.tracks apart, spread.separate,
    fun heap registered m mem => ?_, fun m mem => ?_⟩
  · obtain ⟨mirror, shape⟩ := same registered
    exact shape ▸ lands heap.mirror mirror m mem
  · rcases mem_mirrored.mp mem with registered | wasm
    · obtain ⟨mirror, shape⟩ := same registered
      rw [shape]
      exact (apart m.mirror mirror).2
    · exact spread.away m (mem_mirrored.mpr (.inr wasm))

theorem spread_registersWasm {w : World} (spread : Spread w) (range : Region k.pageBits)
    (remap : Remap) (placed : Placed w (.registersWasm range remap)) :
    Spread (step w (.registersWasm range remap)) := by
  obtain ⟨⟨apart, new⟩, lands⟩ := placed
  have held := tracks_registersWasm w range remap spread.tracks apart new
  have heap : (step w (.registersWasm range remap)).ledger.heap = w.ledger.heap := rfl
  have still (same : (step w (.registersWasm range remap)).ledger.wasm = w.ledger.wasm) :
      Spread (step w (.registersWasm range remap)) := by
    refine ⟨held, same ▸ spread.separate, same ▸ spread.around, fun m mem => ?_⟩
    rw [mem_mirrored, heap, same] at mem
    exact spread.away m (mem_mirrored.mpr mem)
  cases returned : (registerWasmCodeRange k remap w.state range.base range.size).2.returned with
  | false => exact still (by simp [step, returned])
  | true =>
    cases mapping : remap.mirror with
    | none => exact still (by simp [step, returned, wasmMapping, mapping])
    | some mirror =>
      have wasm : (step w (.registersWasm range remap)).ledger.wasm =
          ⟨range.base, range.size, mirror⟩ :: w.ledger.wasm := by
        simp [step, returned, wasmMapping, mapping]
      obtain ⟨separate, around⟩ := lands mirror mapping
      refine ⟨held, ?_, fun h registered m mem => ?_, fun m mem => ?_⟩
      · rw [wasm]
        exact List.pairwise_cons.mpr ⟨separate, spread.separate⟩
      · rw [wasm] at mem
        rcases List.mem_cons.mp mem with rfl | mem
        · exact around h registered
        · exact spread.around h registered m mem
      · rw [mem_mirrored, heap, wasm, List.mem_cons] at mem
        rcases mem with registered | rfl | mem
        · exact spread.away m (mem_mirrored.mpr (.inl registered))
        · exact (apart mirror mapping).2
        · exact spread.away m (mem_mirrored.mpr (.inr mem))

theorem spread_step (w : World) (event : Event k) (spread : Spread w) (placed : Placed w event) :
    Spread (step w event) := by
  cases event with
  | registersCode range remap => exact spread_registersCode spread range remap placed
  | registersWasm range remap => exact spread_registersWasm spread range remap placed
  | unregistersWasm base =>
    have fewer : (step w (.unregistersWasm base : Event k)).ledger.wasm.Sublist w.ledger.wasm :=
      List.eraseP_sublist
    refine ⟨tracks_unregistersWasm w base spread.tracks, spread.separate.sublist fewer,
      fun heap registered m mem => spread.around heap registered m (fewer.mem mem), ?_⟩
    intro m mem
    rw [mem_mirrored] at mem
    exact spread.away m (mem_mirrored.mpr (mem.imp_right fun mem => fewer.mem mem))

inductive JitAllocationType where
  | kInstructionStream
  | kWasmCode
  | kWasmJumpTable
  | kWasmFarJumpTable
  | kWasmLazyCompileTable
deriving DecidableEq

/-- The size of a tagged field, and the offsets that the primitives name. -/
structure ObjectLayout where
  kTaggedSize : ℕ
  kMapOffset : ℕ
  kCodeOffset : ℕ
  kRelocationInfoOffset : ℕ
  tagged : 0 < kTaggedSize

structure WritableJitAllocation where
  address : ℕ
  size : ℕ
  type : JitAllocationType
deriving DecidableEq

structure WritableFreeSpace where
  address : ℕ
  size : ℕ
  executable : Bool
deriving DecidableEq

/-- The addresses of `length` bytes from `start` on. -/
def bytes (start length : ℕ) : Set ℕ := {addr | ∃ i < length, addr = wrap (start + i)}

def jitWriteAddr (s : State) (addr : ℕ) : ℕ := mirrorWriteAddress s addr

section Primitives

variable (o : ObjectLayout) (s : State) (a : WritableJitAllocation) (f : WritableFreeSpace)

def taggedField (object offset : ℕ) : Set ℕ := bytes (object + offset) o.kTaggedSize

/-- `WriteHeaderSlot` of a value of `width` bytes that is not tagged. -/
def writeHeaderSlotValue (offset width : ℕ) : Set ℕ :=
  if offset = o.kMapOffset then taggedField o (jitWriteAddr s a.address) offset
  else bytes (jitWriteAddr s (wrap (a.address + offset))) width

def writeHeaderSlotRelease (offset : ℕ) : Set ℕ := taggedField o (jitWriteAddr s a.address) offset

def writeHeaderSlotRelaxed (offset : ℕ) : Set ℕ := taggedField o (jitWriteAddr s a.address) offset

def writeProtectedPointerHeaderSlot (offset : ℕ) : Set ℕ :=
  taggedField o (jitWriteAddr s a.address) offset

/-- `WriteHeaderSlot` at an address; elsewhere than at the two slots of an instruction stream
the process is stopped. -/
def writeHeaderSlotAt (address : ℕ) : Option (Set ℕ) :=
  if a.type ≠ .kInstructionStream then none
  else
    let offset := wordSub address a.address
    if offset = o.kCodeOffset then some (writeProtectedPointerHeaderSlot o s a o.kCodeOffset)
    else if offset = o.kRelocationInfoOffset then
      some (writeProtectedPointerHeaderSlot o s a o.kRelocationInfoOffset)
    else none

def writeUnalignedValue (address width : ℕ) : Set ℕ := bytes (jitWriteAddr s address) width

def writeValue (address width : ℕ) : Set ℕ := bytes (jitWriteAddr s address) width

def copyCode (dstOffset numBytes : ℕ) : Set ℕ :=
  bytes (jitWriteAddr s (wrap (a.address + dstOffset))) numBytes

def copyData (dstOffset numBytes : ℕ) : Set ℕ :=
  bytes (jitWriteAddr s (wrap (a.address + dstOffset))) numBytes

def clearBytes (offset len : ℕ) : Set ℕ :=
  bytes (jitWriteAddr s (wrap (a.address + offset))) len

/-- `WritableFreeSpace::WriteHeaderSlot`. -/
def writeFreeHeaderSlot (offset : ℕ) : Set ℕ :=
  taggedField o (if f.executable then jitWriteAddr s f.address else f.address) offset

def clearTagged (offset count : ℕ) : Set ℕ := bytes (f.address + offset) (count * o.kTaggedSize)

end Primitives

inductive CodeWrite where
  | headerSlotValue (a : WritableJitAllocation) (offset width : ℕ)
  | headerSlotRelease (a : WritableJitAllocation) (offset : ℕ)
  | headerSlotRelaxed (a : WritableJitAllocation) (offset : ℕ)
  | protectedPointerHeaderSlot (a : WritableJitAllocation) (offset : ℕ)
  | headerSlotAt (a : WritableJitAllocation) (address : ℕ)
  | unalignedValue (a : WritableJitAllocation) (address width : ℕ)
  | value (a : WritableJitAllocation) (address width : ℕ)
  | copyCode (a : WritableJitAllocation) (dstOffset numBytes : ℕ)
  | copyData (a : WritableJitAllocation) (dstOffset numBytes : ℕ)
  | clearBytes (a : WritableJitAllocation) (offset len : ℕ)
  | freeHeaderSlot (f : WritableFreeSpace) (offset : ℕ)
  | clearTagged (f : WritableFreeSpace) (offset count : ℕ)
deriving DecidableEq

namespace CodeWrite

variable (o : ObjectLayout)

/-- Where a write goes, if it does not stop the process. -/
def stores (s : State) : CodeWrite → Option (Set ℕ)
  | .headerSlotValue a offset width => some (writeHeaderSlotValue o s a offset width)
  | .headerSlotRelease a offset => some (writeHeaderSlotRelease o s a offset)
  | .headerSlotRelaxed a offset => some (writeHeaderSlotRelaxed o s a offset)
  | .protectedPointerHeaderSlot a offset => some (writeProtectedPointerHeaderSlot o s a offset)
  | .headerSlotAt a address => writeHeaderSlotAt o s a address
  | .unalignedValue _ address width => some (writeUnalignedValue s address width)
  | .value _ address width => some (writeValue s address width)
  | .copyCode a dstOffset numBytes => some (CodeWrites.copyCode s a dstOffset numBytes)
  | .copyData a dstOffset numBytes => some (CodeWrites.copyData s a dstOffset numBytes)
  | .clearBytes a offset len => some (CodeWrites.clearBytes s a offset len)
  | .freeHeaderSlot f offset => some (writeFreeHeaderSlot o s f offset)
  | .clearTagged f offset count => some (CodeWrites.clearTagged o f offset count)

def intended : CodeWrite → ℕ × ℕ
  | .headerSlotValue a offset width =>
    (a.address + offset, if offset = o.kMapOffset then o.kTaggedSize else width)
  | .headerSlotRelease a offset | .headerSlotRelaxed a offset
  | .protectedPointerHeaderSlot a offset => (a.address + offset, o.kTaggedSize)
  | .headerSlotAt _ address => (address, o.kTaggedSize)
  | .unalignedValue _ address width | .value _ address width => (address, width)
  | .copyCode a dstOffset numBytes | .copyData a dstOffset numBytes =>
    (a.address + dstOffset, numBytes)
  | .clearBytes a offset len => (a.address + offset, len)
  | .freeHeaderSlot f offset => (f.address + offset, o.kTaggedSize)
  | .clearTagged f offset count => (f.address + offset, count * o.kTaggedSize)

def block : CodeWrite → ℕ × ℕ
  | .headerSlotValue a .. | .headerSlotRelease a _ | .headerSlotRelaxed a _
  | .protectedPointerHeaderSlot a _ | .headerSlotAt a _ | .unalignedValue a .. | .value a ..
  | .copyCode a .. | .copyData a .. | .clearBytes a .. => (a.address, a.size)
  | .freeHeaderSlot f _ | .clearTagged f .. => (f.address, f.size)

def executable : CodeWrite → Bool
  | .freeHeaderSlot f _ | .clearTagged f .. => f.executable
  | _ => true

/-- The write stays in its block, and the block in a mirrored range. -/
structure Inside (l : Ledger) (write : CodeWrite) : Prop where
  code : write.executable = true
  lower : write.block.1 ≤ (write.intended o).1
  upper : (write.intended o).1 + (write.intended o).2 ≤ write.block.1 + write.block.2
  mirrored : ∃ m ∈ l.mirrored, m.base ≤ write.block.1 ∧
    write.block.1 + write.block.2 ≤ m.base + m.size

/-- The stores are the images of the intended addresses, and none is in an executable view. -/
def ThroughAlias (w : World) (write : CodeWrite) : Prop :=
  ∀ stored, write.stores o w.state = some stored →
    stored = mirrorWriteAddress w.state '' bytes (write.intended o).1 (write.intended o).2 ∧
      ∀ addr ∈ stored, ∀ m ∈ w.ledger.mirrored, ¬ m.Contains addr

/-- Tagged fields of a free range are cleared. -/
def ClearsTagged : CodeWrite → Prop
  | .clearTagged _ _ count => 0 < count
  | _ => False

instance : (write : CodeWrite) → Decidable write.ClearsTagged
  | .clearTagged _ _ count => inferInstanceAs (Decidable (0 < count))
  | .headerSlotValue .. | .headerSlotRelease .. | .headerSlotRelaxed ..
  | .protectedPointerHeaderSlot .. | .headerSlotAt .. | .unalignedValue .. | .value ..
  | .copyCode .. | .copyData .. | .clearBytes .. | .freeHeaderSlot .. => isFalse id

end CodeWrite

section Aliases

variable {w : World} {m : Mapping}

theorem sound_of_mirrored (held : Tracks w) (mem : m ∈ w.ledger.mirrored) : m.Sound := by
  rcases List.mem_append.mp mem with heap | wasm
  · have tracked := held.heap
    rw [Option.mem_toList.mp heap] at tracked
    exact tracked.1
  · exact held.sound m wasm

theorem mirror_clear (spread : Spread w) {m' : Mapping} (mem : m ∈ w.ledger.mirrored)
    (mem' : m' ∈ w.ledger.mirrored) : Clear m.mirror m.size m'.base m'.size := by
  by_cases same : m = m'
  · rw [← same]
    exact spread.away m mem
  · rcases mem_mirrored.mp mem with heap | wasm <;> rcases mem_mirrored.mp mem' with heap' | wasm'
    · exact absurd (Option.some.inj (heap.symm.trans heap')) same
    · exact (spread.around m heap m' wasm').mirror
    · exact (spread.around m' heap' m wasm).mirrored
    · exact (spread.separate.forall wasm wasm' same).mirror

/-- All bytes of a mirrored range have their aliases in one mirror: that of the heap, if the
range lies inside the heap's, and its own one otherwise. -/
theorem carried (spread : Spread w) (mem : m ∈ w.ledger.mirrored) :
    ∃ m' ∈ w.ledger.mirrored, Holds m' m ∧ ∀ addr, m.Contains addr →
      (mirrorWriteAddress w.state addr : ℤ) = addr + ((m'.mirror : ℤ) - m'.base) := by
  by_cases inHeap : ∃ heap, w.ledger.heap = some heap ∧ Holds heap m
  · obtain ⟨heap, registered, holds⟩ := inHeap
    refine ⟨heap, mem_mirrored.mpr (.inl registered), holds, fun addr inside => ?_⟩
    obtain ⟨lower, upper⟩ := inside
    obtain ⟨first, last⟩ := holds
    exact mirrorWriteAddress_heap w spread.tracks addr heap registered ⟨by omega, by omega⟩
  · refine ⟨m, mem, ⟨le_rfl, le_rfl⟩, fun addr inside => ?_⟩
    obtain ⟨m', mem', inside', moved⟩ :=
      mirrorWriteAddress_of_mirrored w spread.tracks addr ⟨m, mem, inside⟩
    have wasm : m ∈ w.ledger.wasm := (mem_mirrored.mp mem).resolve_left
      fun registered => inHeap ⟨m, registered, le_rfl, le_rfl⟩
    have same : m' = m := by
      by_contra other
      have ranges : Clear m'.base m'.size m.base m.size := by
        rcases mem_mirrored.mp mem' with registered | wasm'
        · exact (spread.around m' registered m wasm).ranges.resolve_left
            fun holds => inHeap ⟨m', registered, holds⟩
        · exact (spread.separate.forall wasm' wasm other).ranges
      obtain ⟨lower, upper⟩ := inside
      obtain ⟨lower', upper'⟩ := inside'
      unfold Clear at ranges
      omega
    rwa [← same]

theorem alias_away (spread : Spread w) (mem : m ∈ w.ledger.mirrored) {addr : ℕ}
    (inside : m.Contains addr) :
    ∀ m' ∈ w.ledger.mirrored, ¬ m'.Contains (mirrorWriteAddress w.state addr) := by
  intro m' mem' ⟨lower', upper'⟩
  obtain ⟨carrier, carries, ⟨first, last⟩, moved⟩ := carried spread mem
  have moved := moved addr inside
  have clear := mirror_clear spread carries mem'
  obtain ⟨lower, upper⟩ := inside
  unfold Clear at clear
  omega

/-- A store that begins at an alias is the alias of the store. -/
theorem bytes_alias (spread : Spread w) (mem : m ∈ w.ledger.mirrored) {base offset length : ℕ}
    (lower : m.base ≤ base) (upper : base + offset + length ≤ m.base + m.size) :
    bytes (mirrorWriteAddress w.state base + offset) length =
      mirrorWriteAddress w.state '' bytes (base + offset) length := by
  obtain ⟨carrier, carries, ⟨first, last⟩, moved⟩ := carried spread mem
  have sound := sound_of_mirrored spread.tracks carries
  have source := sound.source
  have target := sound.target
  have moved (i : ℕ) (small : i < length) : wrap (mirrorWriteAddress w.state base + offset + i) =
      mirrorWriteAddress w.state (wrap (base + offset + i)) := by
    have start := moved base ⟨lower, by omega⟩
    have later := moved (base + offset + i) ⟨by omega, by omega⟩
    rw [wrap_eq (by omega : base + offset + i < 2 ^ 64), wrap_eq (by omega)]
    omega
  ext addr
  constructor
  · rintro ⟨i, small, rfl⟩
    exact ⟨_, ⟨i, small, rfl⟩, (moved i small).symm⟩
  · rintro ⟨_, ⟨i, small, rfl⟩, rfl⟩
    exact ⟨i, small, (moved i small).symm⟩

end Aliases

section Writes

variable {o : ObjectLayout} {w : World} {write : CodeWrite}

theorem Inside.word (inside : write.Inside o w.ledger) (spread : Spread w) :
    (write.intended o).1 < 2 ^ 64 := by
  obtain ⟨m, mem, -, upper⟩ := inside.mirrored
  have source := (sound_of_mirrored spread.tracks mem).source
  have stop := inside.upper
  omega

/-- A primitive that goes through the alias adds its offset before or behind it. -/
def Aliased (o : ObjectLayout) (s : State) (write : CodeWrite) (stored : Set ℕ) : Prop :=
  ∃ base offset, write.block.1 ≤ base ∧ base + offset = (write.intended o).1 ∧
    stored = bytes (jitWriteAddr s base + offset) (write.intended o).2

theorem aliased_start {s : State} (inside : write.Inside o w.ledger)
    (word : (write.intended o).1 < 2 ^ 64) : Aliased o s write
    (bytes (jitWriteAddr s (wrap (write.intended o).1)) (write.intended o).2) :=
  ⟨(write.intended o).1, 0, inside.lower, rfl, by rw [wrap_eq word, Nat.add_zero]⟩

theorem aliased_stores (spread : Spread w) (inside : write.Inside o w.ledger)
    (kept : ¬ write.ClearsTagged) {stored : Set ℕ}
    (stores : write.stores o w.state = some stored) : Aliased o w.state write stored := by
  have word := Inside.word inside spread
  have start := aliased_start (s := w.state) inside word
  cases write with
  | headerSlotValue a offset width =>
    obtain rfl := Option.some.inj stores
    unfold writeHeaderSlotValue
    by_cases map : offset = o.kMapOffset
    · exact ⟨a.address, offset, le_rfl, rfl, by simp [map, taggedField, CodeWrite.intended]⟩
    · simpa [map, CodeWrite.intended] using start
  | headerSlotRelease a offset | headerSlotRelaxed a offset
  | protectedPointerHeaderSlot a offset =>
    obtain rfl := Option.some.inj stores
    exact ⟨a.address, offset, le_rfl, rfl, rfl⟩
  | headerSlotAt a address =>
    have lower : a.address ≤ address := inside.lower
    have offset := wordSub_eq word lower
    have slot (named : ℕ) (at_slot : wordSub address a.address = named) :
        Aliased o w.state (.headerSlotAt a address)
          (writeProtectedPointerHeaderSlot o w.state a named) := by
      refine ⟨a.address, named, le_rfl, ?_, rfl⟩
      change a.address + named = address
      change wordSub address a.address = address - a.address at offset
      omega
    simp only [CodeWrite.stores, writeHeaderSlotAt] at stores
    split_ifs at stores with _ code relocation
    · obtain rfl := Option.some.inj stores
      exact slot _ code
    · obtain rfl := Option.some.inj stores
      exact slot _ relocation
  | unalignedValue a address width | value a address width =>
    obtain rfl := Option.some.inj stores
    rwa [wrap_eq word] at start
  | copyCode a dstOffset numBytes | copyData a dstOffset numBytes
  | clearBytes a dstOffset numBytes =>
    obtain rfl := Option.some.inj stores
    exact start
  | freeHeaderSlot f offset =>
    obtain rfl := Option.some.inj stores
    refine ⟨f.address, offset, le_rfl, rfl, ?_⟩
    have code : f.executable = true := inside.code
    rw [writeFreeHeaderSlot, code]
    rfl
  | clearTagged f offset count =>
    have none_cleared : count = 0 := Nat.eq_zero_of_not_pos kept
    obtain rfl := Option.some.inj stores
    refine ⟨f.address, offset, le_rfl, rfl, ?_⟩
    subst none_cleared
    simp [CodeWrites.clearTagged, CodeWrite.intended, bytes]

theorem throughAlias_of_aliased (spread : Spread w) (inside : write.Inside o w.ledger)
    (aliased : ∀ stored, write.stores o w.state = some stored →
      Aliased o w.state write stored) : write.ThroughAlias o w := by
  intro stored stores
  obtain ⟨base, offset, lower, start, rfl⟩ := aliased stored stores
  obtain ⟨m, mem, first, last⟩ := inside.mirrored
  have upper := inside.upper
  have same : bytes (mirrorWriteAddress w.state base + offset) (write.intended o).2 =
      mirrorWriteAddress w.state '' bytes (base + offset) (write.intended o).2 :=
    bytes_alias spread mem (by omega) (by omega)
  rw [start] at same
  refine ⟨same, ?_⟩
  rw [jitWriteAddr, same]
  rintro _ ⟨_, ⟨i, small, rfl⟩, rfl⟩
  have bottom := inside.lower
  have source := (sound_of_mirrored spread.tracks mem).source
  rw [wrap_eq (by omega)]
  exact alias_away spread mem ⟨by omega, by omega⟩

theorem not_throughAlias_of_clearsTagged (spread : Spread w) (inside : write.Inside o w.ledger)
    (clears : write.ClearsTagged) : ¬ write.ThroughAlias o w := by
  intro through
  cases write with
  | clearTagged f offset count =>
    have word := Inside.word inside spread
    obtain ⟨m, mem, first, last⟩ := inside.mirrored
    have lower := inside.lower
    have upper := inside.upper
    simp only [CodeWrite.intended, CodeWrite.block] at word lower upper first last
    have positive : 0 < count * o.kTaggedSize := Nat.mul_pos clears o.tagged
    have stored : f.address + offset ∈ CodeWrites.clearTagged o f offset count :=
      ⟨0, positive, (wrap_eq word).symm⟩
    exact (through _ rfl).2 _ stored m mem ⟨by omega, by omega⟩
  | _ => exact clears

/-- After every sequence of registrations, a write inside a mirrored range stores exactly at
the aliases of what it is to change, and in no executable view, unless it clears tagged
fields of a free range. -/
theorem throughAlias_iff (o : ObjectLayout) (perm : ℕ → Prot) (events : List (Event k))
    (placed : Permitted Placed step (fresh perm) events) (write : CodeWrite)
    (inside : write.Inside o (events.foldl step (fresh perm)).ledger) :
    write.ThroughAlias o (events.foldl step (fresh perm)) ↔ ¬ write.ClearsTagged := by
  have spread : Spread (events.foldl step (fresh perm)) :=
    invariant_run spread_step _ _ (spread_fresh perm) placed
  constructor
  · exact fun through clears => not_throughAlias_of_clearsTagged spread inside clears through
  · exact fun kept => throughAlias_of_aliased spread inside fun _ =>
      aliased_stores spread inside kept

end Writes

section FreeRange

/-- Offsets of the fields of an instruction stream whose tagged fields have eight bytes. -/
def wideLayout : ObjectLayout := ⟨8, 0, 8, 16, by decide⟩

theorem codeRange_fits : PageSpan.Fits deviceKernel.pageBits (4 * 2 ^ 14) (3 * 2 ^ 14) := by decide

theorem wasmRange_fits : PageSpan.Fits deviceKernel.pageBits (6 * 2 ^ 14) (2 ^ 14) := by decide

/-- A code range on pages 4 to 6, with its mirror on pages 20 to 22; its last page is taken for
wasm code, and mirrored once more. -/
def codeRange : List (Event deviceKernel) :=
  [.registersCode ⟨4 * 2 ^ 14, 3 * 2 ^ 14, codeRange_fits⟩ ⟨some (20 * 2 ^ 14), true, true⟩,
    .registersWasm ⟨6 * 2 ^ 14, 2 ^ 14, wasmRange_fits⟩ ⟨some (30 * 2 ^ 14), true, true⟩]

theorem codeRange_placed : Permitted Placed step (fresh fun _ => .other) codeRange := by
  refine ⟨⟨?_, ?_⟩, ⟨⟨?_, ?_⟩, ?_⟩, trivial⟩
  · rintro mirror ⟨⟩
    decide
  · exact fun _ _ m mem => absurd mem List.not_mem_nil
  · rintro mirror ⟨⟩
    decide
  · exact fun m mem => absurd mem List.not_mem_nil
  · rintro mirror ⟨⟩
    refine ⟨fun m mem => absurd mem List.not_mem_nil, ?_⟩
    rintro heap ⟨⟩
    exact ⟨.inl ⟨by decide, by decide⟩, .inr (by decide), .inr (by decide)⟩

/-- 64 bytes behind the start of page 6, which two mirrors alias. -/
def wasmOnPage6 : WritableJitAllocation := ⟨6 * 2 ^ 14, 64, .kWasmCode⟩

theorem throughAlias_iff_wasmOnPage6 :
    (CodeWrite.copyCode wasmOnPage6 32 16).ThroughAlias wideLayout
        (codeRange.foldl step (fresh fun _ => .other)) ↔
      ¬ (CodeWrite.copyCode wasmOnPage6 32 16).ClearsTagged :=
  throughAlias_iff wideLayout (fun _ => .other) codeRange codeRange_placed
    (.copyCode wasmOnPage6 32 16)
    ⟨rfl, by decide, by decide, ⟨6 * 2 ^ 14, 2 ^ 14, 30 * 2 ^ 14⟩, .tail _ (.head _), by decide⟩

/-- Two fields of a free range on page 5 are cleared in the executable view. -/
theorem freeRange_notThroughAlias : ¬ ∀ (o : ObjectLayout) (perm : ℕ → Prot)
    (events : List (Event deviceKernel)), Permitted Placed step (fresh perm) events →
    ∀ write : CodeWrite, write.Inside o (events.foldl step (fresh perm)).ledger →
      write.ThroughAlias o (events.foldl step (fresh perm)) := by
  intro through
  obtain ⟨-, away⟩ := through wideLayout (fun _ => .other) codeRange codeRange_placed
    (.clearTagged ⟨5 * 2 ^ 14, 64, true⟩ 16 2)
    ⟨rfl, by decide, by decide, ⟨4 * 2 ^ 14, 3 * 2 ^ 14, 20 * 2 ^ 14⟩, .head _, by decide⟩ _ rfl
  exact away (5 * 2 ^ 14 + 16) ⟨0, by decide, by decide⟩ ⟨4 * 2 ^ 14, 3 * 2 ^ 14, 20 * 2 ^ 14⟩
    (.head _) (by decide)

end FreeRange

end BlinkerFluid.CodeWrites
