import BlinkerFluid.PageSpan
import Mathlib.Data.List.Basic

/-! Write protection of generated code. One process-wide depth counts the open
write scopes of all threads while pages are flipped between read-write and
read-execute; a mirrored range is written through its alias and never flipped.
Each function holds one mutex, so calls happen one after another. The kernel is a
parameter: which permission changes succeed, and where a mirror is placed. -/

namespace BlinkerFluid.CodeRangeProtect
open PageSpan

/-- Page protections; `other` is any further one, or no mapping at all. -/
inductive Prot where
  | readWrite
  | readExecute
  | other
deriving DecidableEq

/-- The page size, and whether a scope's permission change succeeds when it is the
n-th change of the process. -/
structure Kernel where
  pageBits : ℕ
  pageBits_le : pageBits ≤ 64
  flipOk : ℕ → Bool

def Kernel.Reliable (k : Kernel) : Prop := ∀ n, k.flipOk n = true

/-- Pages of 16 KiB, and no permission change of a scope fails. -/
def deviceKernel : Kernel := ⟨14, by decide, fun _ => true⟩

theorem deviceKernel_reliable : deviceKernel.Reliable := fun _ => rfl

/-- The kernel's answers to one registration: where vm_remap placed the mirror, if it
succeeded, and whether mirror and source accepted their protections. -/
structure Remap where
  mirror : Option ℕ
  mirrorOk : Bool
  sourceOk : Bool
deriving DecidableEq

structure MprotectCall where
  start : ℕ
  length : ℕ
  prot : Prot
deriving DecidableEq

/-- Protections by page number, and the permission changes asked for, latest first. -/
structure Memory where
  perm : ℕ → Prot
  mprotects : List MprotectCall

def mprotect (k : Kernel) (ok : Bool) (m : Memory) (start length : ℕ) (prot : Prot) : Memory :=
  ⟨fun page => if ok ∧ Meets k.pageBits start length page then prot else m.perm page,
    ⟨start, length, prot⟩ :: m.mprotects⟩

/-- The alias shares the pages of the source and takes over their protections. -/
def vmRemap (k : Kernel) (m : Memory) (mirror base size : ℕ) : Memory :=
  { m with perm := fun page =>
      if Meets k.pageBits mirror size page then
        m.perm (base / 2 ^ k.pageBits + (page - mirror / 2 ^ k.pageBits))
      else m.perm page }

def vmDeallocate (k : Kernel) (m : Memory) (base size : ℕ) : Memory :=
  { m with perm := fun page => if Meets k.pageBits base size page then .other else m.perm page }

structure WasmMirror where
  base : ℕ
  size : ℕ
  offset : ℤ
  mirrorBase : ℕ
deriving DecidableEq

def WasmMirror.unused : WasmMirror := ⟨0, 0, 0, 0⟩

def kMaxWasmMirrors : ℕ := 8

/-- The file's global variables. A zero offset selects the mprotect fallback. -/
structure State where
  codeRangeBase : ℕ
  codeRangeSize : ℕ
  wxDepth : ℕ
  wholeRangeWritable : Bool
  wxTransitions : ℕ
  wxFailures : ℕ
  mirrorOffset : ℤ
  mirrorBase : ℕ
  mirrorSize : ℕ
  wasmMirrors : List WasmMirror
  writableSpans : List (ℕ × ℕ)
  memory : Memory

def unregistered (perm : ℕ → Prot) : State :=
  ⟨0, 0, 0, false, 0, 0, 0, 0, 0, List.replicate kMaxWasmMirrors .unused, [], ⟨perm, []⟩⟩

def protect (k : Kernel) (s : State) (addr size : ℕ) (writable : Bool) : State :=
  if addr = 0 ∨ size = 0 then s
  else
    let span := rounded k.pageBits addr size
    let prot := if writable then Prot.readWrite else Prot.readExecute
    let ok := k.flipOk s.memory.mprotects.length
    { s with
      memory := mprotect k ok s.memory span.1 span.2 prot
      wxFailures := if ok then s.wxFailures else s.wxFailures + 1
      wxTransitions := s.wxTransitions + 1 }

/-- Writes to off-heap buffers go through the same scopes and are not protected. -/
def clampToCodeRange (s : State) (addr size : ℕ) : Option (ℕ × ℕ) :=
  if s.codeRangeBase = 0 ∨ s.codeRangeSize = 0 then none
  else
    let rangeEnd := wrap (s.codeRangeBase + s.codeRangeSize)
    if wrap (addr + size) ≤ s.codeRangeBase ∨ rangeEnd ≤ addr then none
    else
      let start := max addr s.codeRangeBase
      let clamped := wordSub (min (wrap (addr + size)) rangeEnd) start
      if 0 < clamped then some (start, clamped) else none

def restoreAllLocked (k : Kernel) (s : State) : State :=
  let s := if s.wholeRangeWritable then
      { protect k s s.codeRangeBase s.codeRangeSize false with wholeRangeWritable := false }
    else s
  { s.writableSpans.foldl (fun s span => protect k s span.1 span.2 false) s with
    writableSpans := [] }

def releaseMirror (k : Kernel) (s : State) : State :=
  { s with
    memory := if s.mirrorBase ≠ 0 ∧ s.mirrorSize ≠ 0 then
        vmDeallocate k s.memory s.mirrorBase s.mirrorSize
      else s.memory
    mirrorOffset := 0
    mirrorBase := 0
    mirrorSize := 0 }

/-- A mirror that cannot be made writable is left behind unused. -/
def registerCodeRange (k : Kernel) (remap : Remap) (s : State) (base size : ℕ) : State :=
  let s := releaseMirror k { s with
    codeRangeBase := base
    codeRangeSize := size
    wxDepth := 0
    wholeRangeWritable := false
    writableSpans := [] }
  if base = 0 ∨ size = 0 then s
  else match remap.mirror with
    | none => s
    | some mirror =>
      let memory := mprotect k remap.mirrorOk (vmRemap k s.memory mirror base size)
        mirror size .readWrite
      if remap.mirrorOk then
        { s with
          mirrorBase := mirror
          mirrorSize := size
          mirrorOffset := (mirror : ℤ) - base
          memory := mprotect k remap.sourceOk memory base size .readExecute }
      else { s with memory := memory }

/-- How a wasm registration ends; only `mirrored` returns true. -/
inductive WasmRegistration where
  | rejected
  | noFreeSlot
  | mirrorFailed
  | executeFailed
  | mirrored
deriving DecidableEq

def WasmRegistration.returned (outcome : WasmRegistration) : Bool := outcome == .mirrored

def registerWasmCodeRange (k : Kernel) (remap : Remap) (s : State) (base size : ℕ) :
    State × WasmRegistration :=
  if base = 0 ∨ size = 0 then (s, .rejected)
  else match s.wasmMirrors.findIdx? (fun slot => slot.offset = 0) with
    | none => (s, .noFreeSlot)
    | some slot =>
      match remap.mirror with
      | none => (s, .mirrorFailed)
      | some mirror =>
        let memory := mprotect k remap.mirrorOk (vmRemap k s.memory mirror base size)
          mirror size .readWrite
        if remap.mirrorOk then
          let memory := mprotect k remap.sourceOk memory base size .readExecute
          if remap.sourceOk then
            ({ s with
              wasmMirrors := s.wasmMirrors.set slot ⟨base, size, (mirror : ℤ) - base, mirror⟩
              memory := memory }, .mirrored)
          else ({ s with memory := vmDeallocate k memory mirror size }, .executeFailed)
        else ({ s with memory := vmDeallocate k memory mirror size }, .mirrorFailed)

def unregisterWasmCodeRange (k : Kernel) (s : State) (base : ℕ) : State :=
  match s.wasmMirrors.findIdx? (fun slot => slot.offset ≠ 0 ∧ slot.base = base) with
  | none => s
  | some i =>
    let slot := s.wasmMirrors.getD i .unused
    { s with
      wasmMirrors := s.wasmMirrors.set i .unused
      memory := if slot.mirrorBase ≠ 0 then
          vmDeallocate k s.memory slot.mirrorBase slot.size
        else s.memory }

def hasMirror (s : State) : Bool := s.mirrorOffset ≠ 0

/-- An address moved by a signed offset, as a 64-bit word. -/
def moved (addr : ℕ) (offset : ℤ) : ℕ := (((addr : ℤ) + offset) % 2 ^ 64).toNat

def mirrorWriteAddress (s : State) (addr : ℕ) : ℕ :=
  if s.mirrorOffset ≠ 0 ∧ s.codeRangeBase ≤ addr ∧
      addr < wrap (s.codeRangeBase + s.codeRangeSize) then
    moved addr s.mirrorOffset
  else
    match s.wasmMirrors.find? (fun slot =>
      slot.offset ≠ 0 ∧ slot.base ≤ addr ∧ addr < wrap (slot.base + slot.size)) with
    | some slot => moved addr slot.offset
    | none => addr

def setWritable (k : Kernel) (s : State) : State :=
  if s.mirrorOffset ≠ 0 then s
  else
    let s := { s with wxDepth := s.wxDepth + 1 }
    if s.wholeRangeWritable then s
    else { protect k s s.codeRangeBase s.codeRangeSize true with wholeRangeWritable := true }

def setWritableRange (k : Kernel) (s : State) (addr size : ℕ) : State :=
  if s.mirrorOffset ≠ 0 then s
  else
    let s := { s with wxDepth := s.wxDepth + 1 }
    if s.wholeRangeWritable then s
    else match clampToCodeRange s addr size with
      | none => s
      | some span =>
        let s := protect k s span.1 span.2 true
        { s with writableSpans := s.writableSpans ++ [span] }

def setExecutable (k : Kernel) (s : State) : State :=
  if s.mirrorOffset ≠ 0 then s
  else if 0 < s.wxDepth then
    let s := { s with wxDepth := s.wxDepth - 1 }
    if s.wxDepth = 0 then restoreAllLocked k s else s
  else s

end BlinkerFluid.CodeRangeProtect
