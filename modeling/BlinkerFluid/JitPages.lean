import BlinkerFluid.PageSpan
import BlinkerFluid.SpanMap

/-! The record of executable memory that code writes are validated against. Registered
memory is kept in pages that may be merged and split under the hood, and each page
keeps the allocations that start in it. A failed CHECK ends the process. -/

namespace BlinkerFluid.JitPages
open OrderedMap PageSpan SpanMap

inductive JitAllocationType where
  | kInstructionStream
  | kWasmCode
  | kWasmJumpTable
  | kWasmFarJumpTable
  | kWasmLazyCompileTable
deriving DecidableEq

structure JitAllocation where
  size : ℕ
  type : JitAllocationType
deriving DecidableEq

structure JitPage where
  size : ℕ
  allocations : KeyMap ℕ JitAllocation
deriving DecidableEq

abbrev JitPageMap := KeyMap ℕ JitPage

/-! Operations on a page at an address. -/

def check (condition : Prop) [Decidable condition] : Option Unit :=
  if condition then some () else none

def checkForRegionOverlap {ν : Type*} (getSize : ν → ℕ) (m : KeyMap ℕ ν) (addr size : ℕ) :
    Option Unit := do
  check (addr ≤ wrap (addr + size))
  match m.first? fun key => addr < key with
  | some next => check (size ≤ next.1 - addr)
  | none => pure ()
  match m.last? fun key => key ≤ addr with
  | some prev => check (getSize prev.2 ≤ addr - prev.1)
  | none => pure ()

/-- What is left of a page, and the page that takes the last `tail` bytes. -/
def shrink (page : JitPage) (address tail : ℕ) : JitPage × JitPage :=
  let size := page.size - tail
  (⟨size, page.allocations.keep fun key => key < address + size⟩,
    ⟨tail, page.allocations.keep fun key => address + size ≤ key⟩)

def JitPage.merge (page next : JitPage) : JitPage :=
  ⟨page.size + next.size, page.allocations.merge next.allocations⟩

def registerAllocation (page : JitPage) (address addr size : ℕ) (type : JitAllocationType) :
    Option JitPage := do
  check (address ≤ addr)
  let offset := addr - address
  let endOffset := wrap (offset + size)
  check (offset < endOffset)
  check (offset < page.size)
  check (endOffset ≤ page.size)
  checkForRegionOverlap JitAllocation.size page.allocations addr size
  pure { page with allocations := page.allocations.emplace addr ⟨size, type⟩ }

def lookupAllocation (page : JitPage) (addr size : ℕ) (type : JitAllocationType) :
    Option Unit := do
  let found ← page.allocations.get? addr
  check (found.size = size)
  check (found.type = type)

def JitPage.contains (page : JitPage) (addr size : ℕ) (type : JitAllocationType) : Bool :=
  page.allocations.get? addr = some ⟨size, type⟩

def unregisterAllocation (page : JitPage) (addr : ℕ) : Option JitPage := do
  check ((page.allocations.get? addr).isSome)
  pure { page with allocations := page.allocations.erase addr }

/-- The allocations from the start of the range on, up to the first one behind it. -/
def unregisterUpTo (rangeEnd : ℕ) : KeyMap ℕ JitAllocation → List (ℕ × JitAllocation) →
    Option (KeyMap ℕ JitAllocation)
  | allocations, [] => some allocations
  | allocations, (key, allocation) :: later =>
    if rangeEnd ≤ key then some allocations
    else do
      check (wrap (key + allocation.size) ≤ rangeEnd)
      unregisterUpTo rangeEnd (allocations.erase key) later

def unregisterRange (page : JitPage) (start size : ℕ) : Option JitPage := do
  let later := (page.allocations.keep fun key => start ≤ key).entries
  let allocations ← unregisterUpTo (wrap (start + size)) page.allocations later
  pure { page with allocations := allocations }

def allocationContaining (page : JitPage) (innerPointer : ℕ) : Option (ℕ × JitAllocation) := do
  let found ← page.allocations.last? fun key => key ≤ innerPointer
  check (innerPointer - found.1 < found.2.size)
  pure found

/-! Operations on the map of pages. -/

/-- The page at `address` takes over its successors until it reaches `stop`. -/
def mergeUpTo (address stop : ℕ) : JitPageMap → JitPage → List (ℕ × JitPage) →
    Option (JitPageMap × JitPage)
  | pages, page, [] => some (pages, page)
  | pages, page, (nextAddress, next) :: later =>
    if address + page.size < stop then do
      check (nextAddress = address + page.size)
      mergeUpTo address stop ((pages.erase nextAddress).set address (page.merge next))
        (page.merge next) later
    else some (pages, page)

/-- The address of the page that spans a range, if there is one. -/
def tryLookupJitPage (pages : JitPageMap) (addr size : ℕ) : Option (JitPageMap × Option ℕ) := do
  let stop := wrap (addr + size)
  check (addr < stop)
  match pages.last? fun key => key ≤ addr with
  | none => pure (pages, none)
  | some (address, page) =>
    if address + page.size ≤ addr then pure (pages, none)
    else if stop ≤ address + page.size then pure (pages, some address)
    else
      let (pages, page) ←
        mergeUpTo address stop pages page (pages.keep fun key => addr < key).entries
      if address + page.size < stop then pure (pages, none) else pure (pages, some address)

def lookupJitPage (pages : JitPageMap) (addr size : ℕ) : Option (JitPageMap × ℕ × JitPage) := do
  let (pages, found) ← tryLookupJitPage pages addr size
  let address ← found
  let page ← pages.get? address
  pure (pages, address, page)

def registerJitPage (pages : JitPageMap) (address size : ℕ) : Option JitPageMap := do
  checkForRegionOverlap JitPage.size pages address size
  pure (pages.emplace address ⟨size, .empty⟩)

/-- The page at `address` ends at `stop`, and what lies behind becomes a page. -/
def cutTail (pages : JitPageMap) (address : ℕ) (page : JitPage) (stop : ℕ) : JitPageMap :=
  let parts := shrink page address (address + page.size - stop)
  (pages.set address parts.1).emplace stop parts.2

def unregisterJitPage (pages : JitPageMap) (address size : ℕ) : Option JitPageMap := do
  let (pages, pageAddress, page) ← lookupJitPage pages address size
  let toFreeEnd := address + size
  let pages :=
    if toFreeEnd < pageAddress + page.size then cutTail pages pageAddress page toFreeEnd else pages
  let page ← pages.get? pageAddress
  if address = pageAddress then pure (pages.erase address)
  else pure (pages.set pageAddress (shrink page pageAddress size).1)

/-- The page is split into up to three pages, one of which is the range. -/
def splitJitPage (pages : JitPageMap) (addr size : ℕ) : Option (JitPageMap × ℕ × JitPage) := do
  let (pages, address, page) ← lookupJitPage pages addr size
  let headSize := addr - address
  let tailSize := page.size - size - headSize
  let pages := if 0 < tailSize then cutTail pages address page (addr + size) else pages
  let page ← pages.get? address
  let pages := if 0 < headSize then cutTail pages address page addr else pages
  let page ← pages.get? addr
  pure (pages, addr, page)

def splitJitPagesInOrder (pages : JitPageMap) (addr₁ size₁ addr₂ size₂ : ℕ) :
    Option JitPageMap := do
  check (wrap (addr₁ + size₁) ≤ addr₂)
  let (pages, _) ← splitJitPage pages addr₁ size₁
  let (pages, _) ← splitJitPage pages addr₂ size₂
  pure pages

def splitJitPages (pages : JitPageMap) (addr₁ size₁ addr₂ size₂ : ℕ) : Option JitPageMap :=
  if addr₂ < addr₁ then splitJitPagesInOrder pages addr₂ size₂ addr₁ size₁
  else splitJitPagesInOrder pages addr₁ size₁ addr₂ size₂

def registerJitAllocation (pages : JitPageMap) (addr size : ℕ) (type : JitAllocationType) :
    Option JitPageMap := do
  let (pages, address, page) ← lookupJitPage pages addr size
  let page ← registerAllocation page address addr size type
  pure (pages.set address page)

def lookupJitAllocation (pages : JitPageMap) (addr size : ℕ) (type : JitAllocationType) :
    Option JitPageMap := do
  let (pages, _, page) ← lookupJitPage pages addr size
  lookupAllocation page addr size type
  pure pages

def registerEach (address : ℕ) (type : JitAllocationType) :
    JitPage → ℕ → List ℕ → Option JitPage
  | page, _, [] => some page
  | page, start, size :: sizes => do
    let page ← registerAllocation page address start size type
    registerEach address type page (start + size) sizes

def kSplitThreshold : ℕ := 0x40000

def registerJitAllocations (pages : JitPageMap) (start : ℕ) (sizes : List ℕ)
    (type : JitAllocationType) : Option JitPageMap := do
  let totalSize := wrap sizes.sum
  let (pages, address, page) ←
    if kSplitThreshold ≤ totalSize then splitJitPage pages start totalSize
    else lookupJitPage pages start totalSize
  let page ← registerEach address type page start sizes
  pure (pages.set address page)

def unregisterWasmAllocation (pages : JitPageMap) (addr size : ℕ) : Option JitPageMap := do
  let (pages, address, page) ← lookupJitPage pages addr size
  let page ← unregisterAllocation page addr
  pure (pages.set address page)

/-- A range is freed through a page that was looked up for another range. -/
def freeRange (pages : JitPageMap) (pageAddr pageSize addr size : ℕ) : Option JitPageMap := do
  let (pages, address, page) ← lookupJitPage pages pageAddr pageSize
  let page ← unregisterRange page addr size
  pure (pages.set address page)

def lookupJumpTableAllocations (pages : JitPageMap) (jumpTable jumpTableSize farJumpTable
    farJumpTableSize : ℕ) : Option JitPageMap := do
  let pages ← splitJitPages pages farJumpTable farJumpTableSize jumpTable jumpTableSize
  let page ← pages.get? jumpTable
  check (page.contains jumpTable jumpTableSize .kWasmJumpTable)
  let page ← pages.get? farJumpTable
  check (page.contains farJumpTable farJumpTableSize .kWasmFarJumpTable)
  pure pages

def startOfJitAllocationAt (pages : JitPageMap) (innerPointer : ℕ) :
    Option (JitPageMap × Option ℕ) := do
  let (pages, found) ← tryLookupJitPage pages innerPointer 1
  match found with
  | none => pure (pages, none)
  | some address =>
    let page ← pages.get? address
    let allocation ← allocationContaining page innerPointer
    pure (pages, some allocation.1)

end BlinkerFluid.JitPages
