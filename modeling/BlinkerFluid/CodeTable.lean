import BlinkerFluid.CodeAllocator

/-! The published code of a wasm module. Every function has a slot in the code table and in
each jump table. Code is published, replaced, removed and installed again while calls go
through the jump tables. -/

namespace BlinkerFluid.CodeTable
open AllocationPool CodeAllocator OrderedMap StepRun

inductive ExecutionTier
  | kNone
  | kLiftoff
  | kTurbofan
deriving DecidableEq

def ExecutionTier.rank : ExecutionTier → ℕ
  | .kNone => 0
  | .kLiftoff => 1
  | .kTurbofan => 2

inductive ForDebugging
  | kNotForDebugging
  | kForDebugging
  | kWithBreakpoints
  | kForStepping
deriving DecidableEq

def ForDebugging.rank : ForDebugging → ℕ
  | .kNotForDebugging => 0
  | .kForDebugging => 1
  | .kWithBreakpoints => 2
  | .kForStepping => 3

/-- A code object with the assumptions on imports it was compiled under. -/
structure WasmCode (σ : Type) where
  index : Option ℕ
  instructions : AddressRegion
  tier : ExecutionTier
  forDebugging : ForDebugging
  deoptData : Bool
  signatureHash : ℕ
  assumptions : List (ℕ × σ)
deriving DecidableEq

inductive RemoveFilter
  | kRemoveDebugCode
  | kRemoveNonDebugCode
  | kRemoveLiftoffCode
  | kRemoveTurbofanCode
deriving DecidableEq

/-- A module, the layout of its tables, and the list of import statuses. -/
structure Environment (σ : Type) where
  numImportedFunctions : ℕ
  numDeclaredFunctions : ℕ
  jumpSlotIndexToOffset : ℕ → ℕ
  lazyCompileSlotIndexToOffset : ℕ → ℕ
  jumpTableSize : ℕ
  lazyCompileTableSize : ℕ
  signatureHash : ℕ → ℕ
  wasmOrigin : Bool
  wasmDeopt : Bool
  update : (ℕ → σ) → List σ → (ℕ → σ) × Bool
  assumable : σ → Prop
  slot_lt : ∀ slot < numDeclaredFunctions, jumpSlotIndexToOffset slot < jumpTableSize
  slot_injective : ∀ slot < numDeclaredFunctions, ∀ slot' < numDeclaredFunctions,
    jumpSlotIndexToOffset slot = jumpSlotIndexToOffset slot' → slot = slot'
  lazySlot_lt : ∀ slot < numDeclaredFunctions,
    lazyCompileSlotIndexToOffset slot < lazyCompileTableSize
  compatible : ∀ statuses entries, (update statuses entries).2 = false →
    ∀ i, assumable (statuses i) → (update statuses entries).1 i = statuses i

/-- The jump slots are memory: an address and where the jump there goes. -/
structure NativeModule (σ : Type) where
  codeTable : ℕ → Option (WasmCode σ)
  newOwnedCode : List (WasmCode σ)
  ownedCode : KeyMap ℕ (WasmCode σ)
  codeSpaceData : List (Option ℕ)
  mainJumpTable : ℕ
  lazyCompileTable : ℕ
  jumps : ℕ → Option ℕ
  codePointers : ℕ → ℕ × ℕ
  debugging : Bool
  wellKnownImports : ℕ → σ

variable {σ : Type} (e : Environment σ)

def patchJumpTableLocked (jumps : ℕ → Option ℕ) (jumpTable slot target : ℕ) : ℕ → Option ℕ :=
  Function.update jumps (jumpTable + e.jumpSlotIndexToOffset slot) (some target)

/-- A code space that uses the jump table of another one is left out. -/
def patchJumpTablesLocked (m : NativeModule σ) (slot target codePointerTarget hash : ℕ) :
    NativeModule σ :=
  { m with
    codePointers := Function.update m.codePointers slot (codePointerTarget, hash)
    jumps := (m.codeSpaceData.filterMap id).foldl
      (fun jumps jumpTable => patchJumpTableLocked e jumps jumpTable slot target) m.jumps }

def shouldUpdateCodeTable (m : NativeModule σ) (newCode : WasmCode σ)
    (priorCode : Option (WasmCode σ)) : Bool :=
  if newCode.forDebugging = .kForStepping then false
  else if m.debugging ∧ newCode.forDebugging = .kNotForDebugging then false
  else
    match priorCode with
    | none => true
    | some prior =>
      if m.debugging ∧ newCode.forDebugging.rank < prior.forDebugging.rank then false
      else if prior.forDebugging = .kNotForDebugging ∧ newCode.tier.rank < prior.tier.rank ∧
          (¬e.wasmDeopt ∨ ¬prior.deoptData) then false
      else true

def declaredFunctionIndex (code : WasmCode σ) : Option ℕ :=
  code.index.bind fun index =>
    if index < e.numImportedFunctions then none else some (index - e.numImportedFunctions)

def NativeModule.setEntry (m : NativeModule σ) (slot : ℕ) (entry : Option (WasmCode σ)) :
    NativeModule σ :=
  { m with codeTable := Function.update m.codeTable slot entry }

def installCode (m : NativeModule σ) (slot : ℕ) (code : WasmCode σ) : NativeModule σ :=
  patchJumpTablesLocked e (m.setEntry slot (some code)) slot code.instructions.start
    code.instructions.start code.signatureHash

def publishCodeLocked [DecidableEq σ] (m : NativeModule σ) (code : WasmCode σ) :
    NativeModule σ × Option (WasmCode σ) :=
  if ∃ assumption ∈ code.assumptions, m.wellKnownImports assumption.1 ≠ assumption.2 then (m, none)
  else
    let m := { m with newOwnedCode := m.newOwnedCode ++ [code] }
    match declaredFunctionIndex e code with
    | none => (m, some code)
    | some slot =>
      if shouldUpdateCodeTable e m code (m.codeTable slot) then
        (installCode e m slot code, some code)
      else (m, some code)

def tableCode (region : AddressRegion) : WasmCode σ :=
  ⟨none, region, .kNone, .kNotForDebugging, false, 0, []⟩

def createEmptyJumpTable [DecidableEq σ] (m : NativeModule σ) (region : AddressRegion) :
    NativeModule σ := (publishCodeLocked e m (tableCode region)).1

def initializeJumpTableForLazyCompilation [DecidableEq σ] (m : NativeModule σ)
    (lazyRegion : AddressRegion) : NativeModule σ :=
  let m := createEmptyJumpTable e { m with lazyCompileTable := lazyRegion.start } lazyRegion
  { m with
    jumps := (List.range e.numDeclaredFunctions).foldl
      (fun jumps slot => patchJumpTableLocked e jumps m.mainJumpTable slot
        (lazyRegion.start + e.lazyCompileSlotIndexToOffset slot)) m.jumps
    codePointers := (List.range e.numDeclaredFunctions).foldl
      (fun codePointers slot => Function.update codePointers slot
        (m.mainJumpTable + e.jumpSlotIndexToOffset slot,
          e.signatureHash (e.numImportedFunctions + slot))) m.codePointers }

/-- The jump table and the far jump table, for a region that is too far from the others. -/
abbrev Tables := AddressRegion × AddressRegion

def publishTables [DecidableEq σ] (m : NativeModule σ) (tables : Tables) : NativeModule σ :=
  createEmptyJumpTable e (createEmptyJumpTable e m tables.1) tables.2

def addFirstCodeSpace [DecidableEq σ] (m : NativeModule σ) (tables : Tables)
    (lazyRegion : AddressRegion) : NativeModule σ :=
  let m := publishTables e m tables
  initializeJumpTableForLazyCompilation e
    { m with mainJumpTable := tables.1.start, codeSpaceData := [some tables.1.start] } lazyRegion

/-- A slot without code leads to the slot of the first jump table. -/
def patchNewJumpTable (m : NativeModule σ) (jumpTable : ℕ) : ℕ → Option ℕ :=
  (List.range e.numDeclaredFunctions).foldl
    (fun jumps slot => patchJumpTableLocked e jumps jumpTable slot
      (match m.codeTable slot with
        | some code => code.instructions.start
        | none => m.mainJumpTable + e.jumpSlotIndexToOffset slot)) m.jumps

def addCodeSpaceLocked [DecidableEq σ] (m : NativeModule σ) : Option Tables → NativeModule σ
  | none => { m with codeSpaceData := m.codeSpaceData ++ [none] }
  | some tables =>
    let m := publishTables e m tables
    { m with
      codeSpaceData := m.codeSpaceData ++ [some tables.1.start]
      jumps := patchNewJumpTable e m tables.1.start }

def useLazyStubLocked (m : NativeModule σ) (slot : ℕ) : NativeModule σ :=
  patchJumpTablesLocked e m slot (m.lazyCompileTable + e.lazyCompileSlotIndexToOffset slot)
    (m.mainJumpTable + e.jumpSlotIndexToOffset slot)
    (e.signatureHash (e.numImportedFunctions + slot))

def shouldRemoveCode (code : WasmCode σ) : RemoveFilter → Bool
  | .kRemoveDebugCode => code.forDebugging ≠ .kNotForDebugging
  | .kRemoveNonDebugCode => code.forDebugging = .kNotForDebugging
  | .kRemoveLiftoffCode => code.tier = .kLiftoff
  | .kRemoveTurbofanCode => code.tier = .kTurbofan

def removeSlot (filter : RemoveFilter) (m : NativeModule σ) (slot : ℕ) : NativeModule σ :=
  match m.codeTable slot with
  | none => m
  | some code =>
    if shouldRemoveCode code filter then useLazyStubLocked e (m.setEntry slot none) slot else m

def removeCompiledCode (m : NativeModule σ) (filter : RemoveFilter) : NativeModule σ :=
  (List.range e.numDeclaredFunctions).foldl (removeSlot e filter) m

def updateWellKnownImports (m : NativeModule σ) (entries : List σ) : NativeModule σ :=
  let (statuses, foundIncompatibility) := e.update m.wellKnownImports entries
  let m := { m with wellKnownImports := statuses }
  if foundIncompatibility then removeCompiledCode e m .kRemoveTurbofanCode else m

def reinstallDebugCode (m : NativeModule σ) (code : WasmCode σ) : NativeModule σ :=
  if m.debugging then
    match declaredFunctionIndex e code with
    | none => m
    | some slot => installCode e m slot code
  else m

def setDebugState (m : NativeModule σ) (debugging : Bool) : NativeModule σ :=
  if e.wasmOrigin then { m with debugging := debugging } else m

def transferNewOwnedCodeLocked (m : NativeModule σ) : NativeModule σ :=
  { m with
    newOwnedCode := []
    ownedCode := (m.newOwnedCode.mergeSort fun a b =>
        decide (b.instructions.start ≤ a.instructions.start)).foldl
      (fun owned code => owned.emplace code.instructions.start code) m.ownedCode }

def lookup (m : NativeModule σ) (pc : ℕ) : NativeModule σ × Option (WasmCode σ) :=
  let m := transferNewOwnedCodeLocked m
  (m, (m.ownedCode.last? fun start => start ≤ pc).bind fun entry =>
    if entry.2.instructions.start ≤ pc ∧ pc < entry.2.instructions.stop then some entry.2 else none)

def freeCode (m : NativeModule σ) (codes : List (WasmCode σ)) : NativeModule σ :=
  let m := transferNewOwnedCodeLocked m
  { m with
    ownedCode := codes.foldl (fun owned code => owned.erase code.instructions.start) m.ownedCode }

/-! What holds of a module. -/

def NativeModule.allCode (m : NativeModule σ) : List (WasmCode σ) :=
  m.newOwnedCode ++ m.ownedCode.entries.map Prod.snd

/-- A call at the first address ends up at the second one. -/
inductive Reaches (jumps : ℕ → Option ℕ) : ℕ → ℕ → Prop
  | here {address : ℕ} : jumps address = none → Reaches jumps address address
  | jump {address next target : ℕ} :
    jumps address = some next → Reaches jumps next target → Reaches jumps address target

/-- The code of a function, or the stub that compiles it. -/
def destination (m : NativeModule σ) (slot : ℕ) : ℕ :=
  match m.codeTable slot with
  | some code => code.instructions.start
  | none => m.lazyCompileTable + e.lazyCompileSlotIndexToOffset slot

def pointer (m : NativeModule σ) (slot : ℕ) : ℕ × ℕ :=
  match m.codeTable slot with
  | some code => (code.instructions.start, code.signatureHash)
  | none => (m.mainJumpTable + e.jumpSlotIndexToOffset slot,
      e.signatureHash (e.numImportedFunctions + slot))

def Assuming (code : WasmCode σ) : Prop :=
  code.assumptions ≠ [] → code.tier = .kTurbofan ∧ code.forDebugging = .kNotForDebugging ∧
    ∀ assumption ∈ code.assumptions, e.assumable assumption.2

structure Sound (m : NativeModule σ) : Prop where
  keyed : ∀ start code, m.ownedCode.get? start = some code → code.instructions.start = start
  nonempty : ∀ code ∈ m.allCode, 0 < code.instructions.size
  apart : m.allCode.Pairwise fun code code' => Apart code.instructions code'.instructions
  table : ∀ slot code, m.codeTable slot = some code → slot < e.numDeclaredFunctions ∧
    declaredFunctionIndex e code = some slot ∧ code ∈ m.allCode ∧ code.forDebugging ≠ .kForStepping
  main : some m.mainJumpTable ∈ m.codeSpaceData
  jumpTables : ∀ jumpTable, some jumpTable ∈ m.codeSpaceData → ∃ code ∈ m.allCode,
    code.index = none ∧ code.instructions.start = jumpTable ∧
      e.jumpTableSize ≤ code.instructions.size
  lazyTable : ∃ code ∈ m.allCode, code.index = none ∧
    code.instructions.start = m.lazyCompileTable ∧
      e.lazyCompileTableSize ≤ code.instructions.size ∧
      ∀ jumpTable, some jumpTable ∈ m.codeSpaceData → jumpTable ≠ m.lazyCompileTable
  slots : ∀ address, m.jumps address ≠ none → ∃ jumpTable slot, some jumpTable ∈ m.codeSpaceData ∧
    slot < e.numDeclaredFunctions ∧ address = jumpTable + e.jumpSlotIndexToOffset slot
  leads : ∀ jumpTable, some jumpTable ∈ m.codeSpaceData → ∀ slot < e.numDeclaredFunctions,
    m.jumps (jumpTable + e.jumpSlotIndexToOffset slot) = some (destination e m slot) ∨
      m.codeTable slot = none ∧ jumpTable ≠ m.mainJumpTable ∧
        m.jumps (jumpTable + e.jumpSlotIndexToOffset slot) =
          some (m.mainJumpTable + e.jumpSlotIndexToOffset slot)
  pointers : ∀ slot < e.numDeclaredFunctions, m.codePointers slot = pointer e m slot
  assuming : ∀ code ∈ m.allCode, Assuming e code

/-- The assumptions of the code in use hold. -/
def Current (m : NativeModule σ) : Prop :=
  ∀ slot code, m.codeTable slot = some code →
    ∀ assumption ∈ code.assumptions, m.wellKnownImports assumption.1 = assumption.2

variable {e} {m : NativeModule σ}

theorem Sound.same_code (sound : Sound e m) {code code' : WasmCode σ} (mem : code ∈ m.allCode)
    (mem' : code' ∈ m.allCode) {x : ℕ} (inside : code.instructions.Has x)
    (inside' : code'.instructions.Has x) : code = code' := by
  by_contra other
  have symm : Std.Symm fun code code' : WasmCode σ =>
      Apart code.instructions code'.instructions := ⟨fun _ _ => Or.symm⟩
  have away := sound.apart.forall mem mem' other
  obtain ⟨lower, upper⟩ := inside
  obtain ⟨lower', upper'⟩ := inside'
  rw [Apart] at away
  omega

theorem Sound.slot_inside (sound : Sound e m) {jumpTable slot : ℕ}
    (space : some jumpTable ∈ m.codeSpaceData) (declared : slot < e.numDeclaredFunctions) :
    ∃ code ∈ m.allCode, code.index = none ∧ code.instructions.start = jumpTable ∧
      code.instructions.Has (jumpTable + e.jumpSlotIndexToOffset slot) := by
  obtain ⟨code, mem, anonymous, start, size⟩ := sound.jumpTables jumpTable space
  have inside := e.slot_lt slot declared
  refine ⟨code, mem, anonymous, start, by omega, ?_⟩
  rw [AddressRegion.stop]
  omega

theorem Sound.slot_unique (sound : Sound e m) {jumpTable jumpTable' slot slot' : ℕ}
    (space : some jumpTable ∈ m.codeSpaceData) (space' : some jumpTable' ∈ m.codeSpaceData)
    (declared : slot < e.numDeclaredFunctions) (declared' : slot' < e.numDeclaredFunctions)
    (same : jumpTable + e.jumpSlotIndexToOffset slot =
      jumpTable' + e.jumpSlotIndexToOffset slot') : jumpTable = jumpTable' ∧ slot = slot' := by
  obtain ⟨code, mem, -, start, inside⟩ := sound.slot_inside space declared
  obtain ⟨code', mem', -, start', inside'⟩ := sound.slot_inside space' declared'
  rw [← same] at inside'
  have equal := sound.same_code mem mem' inside inside'
  subst equal
  have tables : jumpTable = jumpTable' := start.symm.trans start'
  exact ⟨tables, e.slot_injective _ declared _ declared' (by omega)⟩

theorem Sound.no_slot (sound : Sound e m) {code : WasmCode σ} (mem : code ∈ m.allCode)
    (other : some code.instructions.start ∉ m.codeSpaceData) {x : ℕ}
    (inside : code.instructions.Has x) : m.jumps x = none := by
  by_contra jump
  obtain ⟨jumpTable, slot, space, declared, rfl⟩ := sound.slots x jump
  obtain ⟨code', mem', -, start, inside'⟩ := sound.slot_inside space declared
  have same := sound.same_code mem mem' inside inside'
  subst same
  rw [start] at other
  exact other space

theorem Sound.not_table (sound : Sound e m) {code : WasmCode σ} (mem : code ∈ m.allCode)
    (named : code.index ≠ none) : some code.instructions.start ∉ m.codeSpaceData := by
  intro space
  obtain ⟨code', mem', anonymous, start, -⟩ := sound.jumpTables _ space
  have first : code.instructions.Has code.instructions.start := by
    have := sound.nonempty code mem
    exact ⟨le_rfl, by rw [AddressRegion.stop]; omega⟩
  have first' : code'.instructions.Has code.instructions.start := by
    have := sound.nonempty code' mem'
    exact ⟨start.le, by rw [AddressRegion.stop]; omega⟩
  rw [sound.same_code mem mem' first first'] at named
  exact named anonymous

theorem index_of_declared {code : WasmCode σ} {slot : ℕ}
    (declared : declaredFunctionIndex e code = some slot) : code.index ≠ none := by
  rintro anonymous
  rw [declaredFunctionIndex, anonymous] at declared
  cases declared

theorem Sound.destination_none (sound : Sound e m) {slot : ℕ}
    (declared : slot < e.numDeclaredFunctions) : m.jumps (destination e m slot) = none := by
  unfold destination
  cases stored : m.codeTable slot with
  | some code =>
    obtain ⟨-, index, mem, -⟩ := sound.table slot code stored
    have size := sound.nonempty code mem
    have first : code.instructions.Has code.instructions.start :=
      ⟨le_rfl, by rw [AddressRegion.stop]; omega⟩
    exact sound.no_slot mem (sound.not_table mem (index_of_declared index)) first
  | none =>
    obtain ⟨code, mem, -, start, size, other⟩ := sound.lazyTable
    have inside := e.lazySlot_lt slot declared
    have within : code.instructions.Has
        (m.lazyCompileTable + e.lazyCompileSlotIndexToOffset slot) :=
      ⟨by omega, by rw [AddressRegion.stop]; omega⟩
    exact sound.no_slot mem (fun space => other _ space start) within

/-- Every way to call a function ends in its code or in the stub that compiles it. -/
theorem Sound.reaches (sound : Sound e m) {slot : ℕ} (declared : slot < e.numDeclaredFunctions) :
    (∀ jumpTable, some jumpTable ∈ m.codeSpaceData →
      Reaches m.jumps (jumpTable + e.jumpSlotIndexToOffset slot) (destination e m slot)) ∧
    Reaches m.jumps (m.codePointers slot).1 (destination e m slot) := by
  have stops := Reaches.here (sound.destination_none declared)
  have main : Reaches m.jumps (m.mainJumpTable + e.jumpSlotIndexToOffset slot)
      (destination e m slot) := by
    rcases sound.leads _ sound.main slot declared with direct | ⟨-, other, -⟩
    · exact .jump direct stops
    · exact absurd rfl other
  constructor
  · intro jumpTable space
    rcases sound.leads jumpTable space slot declared with direct | ⟨-, -, indirect⟩
    · exact .jump direct stops
    · exact .jump indirect main
  · rw [sound.pointers slot declared, pointer]
    cases stored : m.codeTable slot with
    | some code =>
      rw [destination, stored] at stops
      rw [destination, stored]
      exact stops
    | none => exact main

/-! Patching. -/

theorem jumps_foldl_patch (jumps : ℕ → Option ℕ) (tables : List ℕ) (slot target : ℕ) :
    let after := tables.foldl
      (fun jumps jumpTable => patchJumpTableLocked e jumps jumpTable slot target) jumps
    (∀ jumpTable ∈ tables, after (jumpTable + e.jumpSlotIndexToOffset slot) = some target) ∧
      ∀ address, (∀ jumpTable ∈ tables, address ≠ jumpTable + e.jumpSlotIndexToOffset slot) →
        after address = jumps address := by
  induction tables generalizing jumps with
  | nil => exact ⟨by rintro _ ⟨⟩, fun _ _ => rfl⟩
  | cons jumpTable tables ih =>
    obtain ⟨patched, others⟩ := ih (patchJumpTableLocked e jumps jumpTable slot target)
    refine ⟨fun table mem => ?_, fun address away => ?_⟩
    · by_cases later : table ∈ tables
      · exact patched table later
      · have here := (List.mem_cons.mp mem).resolve_right later
        subst here
        by_cases again : ∃ other ∈ tables,
            table + e.jumpSlotIndexToOffset slot = other + e.jumpSlotIndexToOffset slot
        · obtain ⟨other, memOther, same⟩ := again
          rw [same]
          exact patched other memOther
        · rw [List.foldl_cons, others _ fun other memOther same => again ⟨other, memOther, same⟩,
            patchJumpTableLocked, Function.update_self]
    · rw [List.foldl_cons, others _ fun other mem => away other (List.mem_cons_of_mem _ mem),
        patchJumpTableLocked, Function.update_of_ne (away jumpTable List.mem_cons_self)]

theorem jumps_patchJumpTablesLocked (m : NativeModule σ) (slot target pointer hash : ℕ) :
    let after := patchJumpTablesLocked e m slot target pointer hash
    (∀ jumpTable, some jumpTable ∈ m.codeSpaceData →
      after.jumps (jumpTable + e.jumpSlotIndexToOffset slot) = some target) ∧
    ∀ address, (∀ jumpTable, some jumpTable ∈ m.codeSpaceData →
      address ≠ jumpTable + e.jumpSlotIndexToOffset slot) →
      after.jumps address = m.jumps address := by
  obtain ⟨patched, others⟩ :=
    jumps_foldl_patch (e := e) m.jumps (m.codeSpaceData.filterMap id) slot target
  have mem : ∀ jumpTable, jumpTable ∈ m.codeSpaceData.filterMap id ↔
      some jumpTable ∈ m.codeSpaceData := by simp
  exact ⟨fun jumpTable space => patched jumpTable ((mem _).mpr space),
    fun address away => others address fun jumpTable space => away jumpTable ((mem _).mp space)⟩

/-- The slot of a function is sent to other code, or to the stub, in all tables at once. -/
theorem sound_repoint (sound : Sound e m) {slot : ℕ} (declared : slot < e.numDeclaredFunctions)
    (entry : Option (WasmCode σ)) (fits : ∀ code ∈ entry, declaredFunctionIndex e code = some slot ∧
      code ∈ m.allCode ∧ code.forDebugging ≠ .kForStepping) {target codePointer hash : ℕ}
    (leads : target = destination e (m.setEntry slot entry) slot)
    (points : (codePointer, hash) = pointer e (m.setEntry slot entry) slot) :
    Sound e (patchJumpTablesLocked e (m.setEntry slot entry) slot target codePointer hash) := by
  obtain ⟨patched, unpatched⟩ := jumps_patchJumpTablesLocked (e := e) (m.setEntry slot entry) slot
    target codePointer hash
  have others : ∀ other, other ≠ slot →
      (m.setEntry slot entry).codeTable other = m.codeTable other :=
    fun other apart => Function.update_of_ne apart _ _
  refine ⟨sound.keyed, sound.nonempty, sound.apart, fun other code stored => ?_, sound.main,
    sound.jumpTables, sound.lazyTable, fun address jump => ?_,
    fun jumpTable space other inTable => ?_, fun other inTable => ?_, sound.assuming⟩
  · change Function.update m.codeTable slot entry other = some code at stored
    rw [Function.update_apply] at stored
    split_ifs at stored with here
    · rw [here]
      exact ⟨declared, fits code stored⟩
    · exact sound.table other code stored
  · by_cases hit : ∃ jumpTable, some jumpTable ∈ m.codeSpaceData ∧
        address = jumpTable + e.jumpSlotIndexToOffset slot
    · obtain ⟨jumpTable, space, rfl⟩ := hit
      exact ⟨jumpTable, slot, space, declared, rfl⟩
    · rw [unpatched address fun jumpTable space same => hit ⟨jumpTable, space, same⟩] at jump
      exact sound.slots address jump
  · by_cases here : other = slot
    · subst here
      exact .inl ((patched jumpTable space).trans (congrArg some leads))
    · have away : ∀ jumpTable', some jumpTable' ∈ m.codeSpaceData →
          jumpTable + e.jumpSlotIndexToOffset other ≠
            jumpTable' + e.jumpSlotIndexToOffset slot :=
        fun jumpTable' space' same =>
          here (sound.slot_unique space space' inTable declared same).2
      have kept := unpatched _ away
      have before := sound.leads jumpTable space other inTable
      have stays : destination e (patchJumpTablesLocked e (m.setEntry slot entry) slot target
          codePointer hash) other = destination e m other := by
        unfold destination
        rw [show (patchJumpTablesLocked e (m.setEntry slot entry) slot target codePointer
          hash).codeTable other = m.codeTable other from others other here]
        rfl
      rw [kept, stays]
      exact before.imp_right fun indirect => ⟨(others other here).trans indirect.1, indirect.2⟩
  · change Function.update m.codePointers slot (codePointer, hash) other = _
    rw [Function.update_apply]
    split_ifs with here
    · rw [here, points]
      rfl
    · rw [sound.pointers other inTable]
      unfold pointer
      rw [show (patchJumpTablesLocked e (m.setEntry slot entry) slot target codePointer
        hash).codeTable other = m.codeTable other from others other here]
      rfl

theorem sound_installCode (sound : Sound e m) {slot : ℕ} (declared : slot < e.numDeclaredFunctions)
    {code : WasmCode σ} (index : declaredFunctionIndex e code = some slot) (mem : code ∈ m.allCode)
    (installable : code.forDebugging ≠ .kForStepping) : Sound e (installCode e m slot code) := by
  refine sound_repoint sound declared (some code) (fun c same => ?_) ?_ ?_
  · cases same
    exact ⟨index, mem, installable⟩
  · simp [destination, NativeModule.setEntry]
  · simp [pointer, NativeModule.setEntry]

theorem sound_useLazyStubLocked (sound : Sound e m) {slot : ℕ}
    (declared : slot < e.numDeclaredFunctions) :
    Sound e (useLazyStubLocked e (m.setEntry slot none) slot) := by
  refine sound_repoint sound declared none (by rintro _ ⟨⟩) ?_ ?_
  · simp [destination, NativeModule.setEntry]
  · simp [pointer, NativeModule.setEntry]

theorem current_installCode (current : Current m) (slot : ℕ) {code : WasmCode σ}
    (holds : ∀ assumption ∈ code.assumptions, m.wellKnownImports assumption.1 = assumption.2) :
    Current (installCode e m slot code) := by
  intro other code' stored assumption mem
  change Function.update m.codeTable slot (some code) other = some code' at stored
  rw [Function.update_apply] at stored
  split_ifs at stored with here
  · cases stored
    exact holds assumption mem
  · exact current other code' stored assumption mem

/-! Removing. -/

theorem sound_removeSlot (sound : Sound e m) (filter : RemoveFilter) {slot : ℕ}
    (declared : slot < e.numDeclaredFunctions) : Sound e (removeSlot e filter m slot) := by
  unfold removeSlot
  split
  · exact sound
  · split_ifs
    · exact sound_useLazyStubLocked sound declared
    · exact sound

theorem codeTable_removeSlot (filter : RemoveFilter) (slot other : ℕ) (code : WasmCode σ) :
    (removeSlot e filter m slot).codeTable other = some code ↔
      m.codeTable other = some code ∧ (other = slot → shouldRemoveCode code filter = false) := by
  unfold removeSlot
  split
  · rename_i absent
    refine ⟨fun stored => ⟨stored, ?_⟩, fun both => both.1⟩
    rintro rfl
    rw [absent] at stored
    cases stored
  · rename_i prior stored
    by_cases removed : shouldRemoveCode prior filter
    · rw [if_pos removed]
      change Function.update m.codeTable slot none other = some code ↔ _
      rw [Function.update_apply]
      split_ifs with here
      · rw [here, stored]
        constructor
        · rintro ⟨⟩
        · rintro ⟨same, kept⟩
          cases same
          rw [kept rfl] at removed
          cases removed
      · exact ⟨fun held => ⟨held, fun same => absurd same here⟩, fun both => both.1⟩
    · rw [if_neg removed]
      refine ⟨fun held => ⟨held, ?_⟩, fun both => both.1⟩
      rintro rfl
      rw [stored] at held
      cases held
      exact Bool.not_eq_true _ ▸ removed

theorem removeSlot_frame (filter : RemoveFilter) (slot : ℕ) :
    (removeSlot e filter m slot).wellKnownImports = m.wellKnownImports ∧
      (removeSlot e filter m slot).allCode = m.allCode ∧
      (removeSlot e filter m slot).debugging = m.debugging := by
  unfold removeSlot
  split
  · exact ⟨rfl, rfl, rfl⟩
  · split_ifs <;> exact ⟨rfl, rfl, rfl⟩

theorem foldl_removeSlot (sound : Sound e m) (filter : RemoveFilter) {slots : List ℕ}
    (declared : ∀ slot ∈ slots, slot < e.numDeclaredFunctions) :
    let after := slots.foldl (removeSlot e filter) m
    Sound e after ∧ after.wellKnownImports = m.wellKnownImports ∧ after.allCode = m.allCode ∧
      after.debugging = m.debugging ∧
      ∀ other code, after.codeTable other = some code ↔
        m.codeTable other = some code ∧ (other ∈ slots → shouldRemoveCode code filter = false) := by
  induction slots generalizing m with
  | nil => exact ⟨sound, rfl, rfl, rfl, by simp⟩
  | cons slot slots ih =>
    obtain ⟨statuses, allCode, debugging⟩ := removeSlot_frame (e := e) (m := m) filter slot
    obtain ⟨sound', statuses', allCode', debugging', codeTable⟩ :=
      ih (sound_removeSlot sound filter (declared slot List.mem_cons_self))
        fun other mem => declared other (List.mem_cons_of_mem _ mem)
    refine ⟨sound', statuses'.trans statuses, allCode'.trans allCode, debugging'.trans debugging,
      fun other code => ?_⟩
    rw [List.foldl_cons, codeTable, codeTable_removeSlot, List.mem_cons, or_imp, and_assoc]

/-! Code that is added. -/

def Fresh (m : NativeModule σ) (region : AddressRegion) : Prop :=
  0 < region.size ∧ ∀ code ∈ m.allCode, Apart code.instructions region

def NativeModule.append (m : NativeModule σ) (code : WasmCode σ) : NativeModule σ :=
  { m with newOwnedCode := m.newOwnedCode ++ [code] }

theorem mem_append (code other : WasmCode σ) :
    other ∈ (m.append code).allCode ↔ other ∈ m.allCode ∨ other = code := by
  simp only [NativeModule.append, NativeModule.allCode, List.mem_append, List.mem_singleton]
  tauto

theorem apart_append {code : WasmCode σ}
    (apart : m.allCode.Pairwise fun code code' => Apart code.instructions code'.instructions)
    (fresh : Fresh m code.instructions) : (m.append code).allCode.Pairwise
      fun code code' => Apart code.instructions code'.instructions := by
  have perm : (m.append code).allCode.Perm (code :: m.allCode) := by
    simp only [NativeModule.append, NativeModule.allCode, List.append_assoc, List.singleton_append]
    exact List.perm_middle
  refine (perm.pairwise_iff fun {a b} => Or.symm).mpr (List.pairwise_cons.mpr ⟨?_, apart⟩)
  exact fun other mem => (fresh.2 other mem).symm

theorem sound_append (sound : Sound e m) {code : WasmCode σ} (fresh : Fresh m code.instructions)
    (assuming : Assuming e code) : Sound e (m.append code) := by
  have kept : ∀ other ∈ m.allCode, other ∈ (m.append code).allCode :=
    fun other mem => (mem_append code other).mpr (.inl mem)
  refine ⟨sound.keyed, fun other mem => ?_, apart_append sound.apart fresh,
    fun slot other stored => ?_, sound.main, fun jumpTable space => ?_, ?_, sound.slots,
    sound.leads, sound.pointers, fun other mem => ?_⟩
  · rcases (mem_append code other).mp mem with old | rfl
    · exact sound.nonempty other old
    · exact fresh.1
  · obtain ⟨declared, index, mem, installable⟩ := sound.table slot other stored
    exact ⟨declared, index, kept other mem, installable⟩
  · obtain ⟨other, mem, rest⟩ := sound.jumpTables jumpTable space
    exact ⟨other, kept other mem, rest⟩
  · obtain ⟨other, mem, rest⟩ := sound.lazyTable
    exact ⟨other, kept other mem, rest⟩
  · rcases (mem_append code other).mp mem with old | rfl
    · exact sound.assuming other old
    · exact assuming

theorem declared_lt {code : WasmCode σ} {slot : ℕ}
    (index : declaredFunctionIndex e code = some slot) (inModule : ∀ i ∈ code.index,
      i < e.numImportedFunctions + e.numDeclaredFunctions) : slot < e.numDeclaredFunctions := by
  unfold declaredFunctionIndex at index
  cases named : code.index with
  | none =>
    rw [named] at index
    cases index
  | some i =>
    have := inModule i named
    rw [named, Option.bind_some] at index
    split_ifs at index
    cases index
    omega

theorem installable_of_update {code : WasmCode σ} {prior : Option (WasmCode σ)}
    (update : shouldUpdateCodeTable e m code prior = true) : code.forDebugging ≠ .kForStepping := by
  intro stepping
  simp [shouldUpdateCodeTable, stepping] at update

theorem assuming_tableCode (region : AddressRegion) :
    Assuming e (tableCode region : WasmCode σ) := fun some => absurd rfl some

section Publish

variable [DecidableEq σ]

theorem publishCodeLocked_cases (m : NativeModule σ) (code : WasmCode σ) :
    ((∃ assumption ∈ code.assumptions, m.wellKnownImports assumption.1 ≠ assumption.2) ∧
      publishCodeLocked e m code = (m, none)) ∨
    ((∀ assumption ∈ code.assumptions, m.wellKnownImports assumption.1 = assumption.2) ∧
      (publishCodeLocked e m code = (m.append code, some code) ∨
        ∃ slot, declaredFunctionIndex e code = some slot ∧
          shouldUpdateCodeTable e m code (m.codeTable slot) = true ∧
          publishCodeLocked e m code = (installCode e (m.append code) slot code, some code))) := by
  by_cases outdated : ∃ assumption ∈ code.assumptions,
      m.wellKnownImports assumption.1 ≠ assumption.2
  · exact .inl ⟨outdated, if_pos outdated⟩
  · refine .inr ⟨fun assumption mem => ?_, ?_⟩
    · by_contra differs
      exact outdated ⟨assumption, mem, differs⟩
    · rw [publishCodeLocked, if_neg outdated]
      cases index : declaredFunctionIndex e code with
      | none => exact .inl rfl
      | some slot =>
        by_cases update : shouldUpdateCodeTable e m code (m.codeTable slot) = true
        · exact .inr ⟨slot, rfl, update, if_pos update⟩
        · exact .inl (if_neg update)

theorem sound_publishCodeLocked (sound : Sound e m) (current : Current m) {code : WasmCode σ}
    (fresh : Fresh m code.instructions) (assuming : Assuming e code)
    (inModule : ∀ i ∈ code.index, i < e.numImportedFunctions + e.numDeclaredFunctions) :
    Sound e (publishCodeLocked e m code).1 ∧ Current (publishCodeLocked e m code).1 := by
  rcases publishCodeLocked_cases (e := e) m code with
    ⟨-, dropped⟩ | ⟨holds, aside | ⟨slot, index, update, installed⟩⟩
  · rw [dropped]
    exact ⟨sound, current⟩
  · rw [aside]
    exact ⟨sound_append sound fresh assuming, current⟩
  · have current' : Current (m.append code) := current
    rw [installed]
    exact ⟨sound_installCode (sound_append sound fresh assuming) (declared_lt index inModule) index
      ((mem_append code code).mpr (.inr rfl)) (installable_of_update update),
      current_installCode current' slot holds⟩

theorem createEmptyJumpTable_eq (m : NativeModule σ) (region : AddressRegion) :
    createEmptyJumpTable e m region = m.append (tableCode region) := by
  rw [createEmptyJumpTable, publishCodeLocked, if_neg]
  · rfl
  · rintro ⟨_, ⟨⟩, -⟩

theorem publishTables_eq (m : NativeModule σ) (tables : Tables) :
    publishTables e m tables = (m.append (tableCode tables.1)).append (tableCode tables.2) := by
  rw [publishTables, createEmptyJumpTable_eq, createEmptyJumpTable_eq]

end Publish

/-! A jump table that is filled slot by slot. -/

theorem jumps_fill (jumps : ℕ → Option ℕ) (jumpTable : ℕ) (target : ℕ → ℕ) (slots : ℕ)
    (injective : ∀ slot < slots, ∀ slot' < slots,
      e.jumpSlotIndexToOffset slot = e.jumpSlotIndexToOffset slot' → slot = slot') :
    let after := (List.range slots).foldl
      (fun jumps slot => patchJumpTableLocked e jumps jumpTable slot (target slot)) jumps
    (∀ slot < slots, after (jumpTable + e.jumpSlotIndexToOffset slot) = some (target slot)) ∧
      ∀ address, (∀ slot < slots, address ≠ jumpTable + e.jumpSlotIndexToOffset slot) →
        after address = jumps address := by
  induction slots with
  | zero => exact ⟨fun slot less => absurd less (Nat.not_lt_zero slot), fun _ _ => rfl⟩
  | succ slots ih =>
    obtain ⟨filled, others⟩ := ih fun slot less slot' less' =>
      injective slot (Nat.lt_succ_of_lt less) slot' (Nat.lt_succ_of_lt less')
    rw [List.range_succ, List.foldl_append, List.foldl_cons, List.foldl_nil, patchJumpTableLocked]
    refine ⟨fun slot less => ?_, fun address away => ?_⟩
    · by_cases last : slot = slots
      · rw [last, Function.update_self]
      · have before : slot < slots := by omega
        rw [Function.update_of_ne, filled slot before]
        intro same
        exact last (injective slot less slots (Nat.lt_succ_self _) (Nat.add_left_cancel same))
    · rw [Function.update_of_ne (away slots (Nat.lt_succ_self _)),
        others address fun slot less => away slot (Nat.lt_succ_of_lt less)]

theorem codePointers_fill (codePointers : ℕ → ℕ × ℕ) (value : ℕ → ℕ × ℕ) (slots : ℕ) :
    ∀ slot < slots, (List.range slots).foldl
      (fun codePointers slot => Function.update codePointers slot (value slot)) codePointers slot =
        value slot := by
  induction slots with
  | zero => exact fun slot less => absurd less (Nat.not_lt_zero slot)
  | succ slots ih =>
    intro slot less
    rw [List.range_succ, List.foldl_append, List.foldl_cons, List.foldl_nil, Function.update_apply]
    split_ifs with last
    · rw [last]
    · exact ih slot (by omega)

/-! Code spaces. -/

theorem Fresh.not_has {region : AddressRegion} (fresh : Fresh m region) {code : WasmCode σ}
    (mem : code ∈ m.allCode) {x : ℕ} (inside : code.instructions.Has x) : ¬region.Has x := by
  have away := fresh.2 code mem
  obtain ⟨lower, upper⟩ := inside
  rintro ⟨lower', upper'⟩
  rw [Apart] at away
  omega

theorem fresh_append {region region' : AddressRegion} (fresh : Fresh m region')
    (away : Apart region region') : Fresh (m.append (tableCode region)) region' := by
  refine ⟨fresh.1, fun code mem => ?_⟩
  rcases (mem_append _ code).mp mem with old | rfl
  · exact fresh.2 code old
  · exact away

structure Placed (e : Environment σ) (m : NativeModule σ) (tables : Tables) : Prop where
  near : Fresh m tables.1
  far : Fresh m tables.2
  apart : Apart tables.1 tables.2
  size : e.jumpTableSize ≤ tables.1.size

theorem Placed.slot_inside {tables : Tables} (placed : Placed e m tables) {slot : ℕ}
    (declared : slot < e.numDeclaredFunctions) :
    tables.1.Has (tables.1.start + e.jumpSlotIndexToOffset slot) := by
  have := placed.size
  have := e.slot_lt slot declared
  exact ⟨by omega, by rw [AddressRegion.stop]; omega⟩

theorem sound_addNone (sound : Sound e m) :
    Sound e { m with codeSpaceData := m.codeSpaceData ++ [none] } := by
  have mem : ∀ {jumpTable}, some jumpTable ∈ m.codeSpaceData ++ [none] ↔
      some jumpTable ∈ m.codeSpaceData := by simp
  refine ⟨sound.keyed, sound.nonempty, sound.apart, sound.table, mem.mpr sound.main,
    fun jumpTable space => sound.jumpTables jumpTable (mem.mp space), ?_, fun address jump => ?_,
    fun jumpTable space => sound.leads jumpTable (mem.mp space), sound.pointers, sound.assuming⟩
  · obtain ⟨code, memCode, anonymous, start, size, other⟩ := sound.lazyTable
    exact ⟨code, memCode, anonymous, start, size, fun jumpTable space =>
      other jumpTable (mem.mp space)⟩
  · obtain ⟨jumpTable, slot, space, rest⟩ := sound.slots address jump
    exact ⟨jumpTable, slot, mem.mpr space, rest⟩

theorem sound_addTables (sound : Sound e m) {tables : Tables} (placed : Placed e m tables) :
    Sound e { (m.append (tableCode tables.1)).append (tableCode tables.2) with
      codeSpaceData := m.codeSpaceData ++ [some tables.1.start]
      jumps := patchNewJumpTable e m tables.1.start } := by
  have first : Sound e (m.append (tableCode tables.1)) :=
    sound_append sound placed.near (assuming_tableCode _)
  have sound' : Sound e ((m.append (tableCode tables.1)).append (tableCode tables.2)) :=
    sound_append first (fresh_append placed.far placed.apart) (assuming_tableCode _)
  have mem : ∀ {jumpTable}, some jumpTable ∈ m.codeSpaceData ++ [some tables.1.start] ↔
      some jumpTable ∈ m.codeSpaceData ∨ jumpTable = tables.1.start := by simp
  obtain ⟨filled, others⟩ := jumps_fill (e := e) m.jumps tables.1.start
    (fun slot => match m.codeTable slot with
      | some code => code.instructions.start
      | none => m.mainJumpTable + e.jumpSlotIndexToOffset slot)
    e.numDeclaredFunctions e.slot_injective
  -- The slots of the old tables are not in the new one.
  have old : ∀ jumpTable, some jumpTable ∈ m.codeSpaceData → ∀ slot < e.numDeclaredFunctions,
      patchNewJumpTable e m tables.1.start (jumpTable + e.jumpSlotIndexToOffset slot) =
        m.jumps (jumpTable + e.jumpSlotIndexToOffset slot) := by
    intro jumpTable space slot declared
    obtain ⟨code, memCode, -, -, inside⟩ := sound.slot_inside space declared
    refine others _ fun slot' declared' same => placed.near.not_has memCode inside ?_
    rw [same]
    exact placed.slot_inside declared'
  have newTable : ∀ code ∈ m.allCode, code.instructions.start ≠ tables.1.start := by
    intro code memCode same
    have size := sound.nonempty code memCode
    have size' := placed.near.1
    refine placed.near.not_has memCode (x := code.instructions.start)
      ⟨le_rfl, by rw [AddressRegion.stop]; omega⟩ ⟨same.ge, ?_⟩
    rw [AddressRegion.stop]
    omega
  refine ⟨sound'.keyed, sound'.nonempty, sound'.apart, sound'.table, mem.mpr (.inl sound.main),
    fun jumpTable space => ?_, ?_, fun address jump => ?_, fun jumpTable space slot declared => ?_,
    sound'.pointers, sound'.assuming⟩
  · rcases mem.mp space with before | rfl
    · exact sound'.jumpTables jumpTable before
    · refine ⟨tableCode tables.1, ?_, rfl, rfl, placed.size⟩
      exact (mem_append _ _).mpr (.inl ((mem_append _ _).mpr (.inr rfl)))
  · obtain ⟨code, memCode, anonymous, start, size, other⟩ := sound.lazyTable
    refine ⟨code, (mem_append _ _).mpr (.inl ((mem_append _ _).mpr (.inl memCode))), anonymous,
      start, size, fun jumpTable space => ?_⟩
    rcases mem.mp space with before | rfl
    · exact other jumpTable before
    · exact fun same => newTable code memCode (start.trans same.symm)
  · by_cases new : ∃ slot < e.numDeclaredFunctions,
        address = tables.1.start + e.jumpSlotIndexToOffset slot
    · obtain ⟨slot, declared, rfl⟩ := new
      exact ⟨_, slot, mem.mpr (.inr rfl), declared, rfl⟩
    · have kept := others address fun slot declared same => new ⟨slot, declared, same⟩
      obtain ⟨jumpTable, slot, space, rest⟩ := sound.slots address (kept ▸ jump)
      exact ⟨jumpTable, slot, mem.mpr (.inl space), rest⟩
  · rcases mem.mp space with before | rfl
    · change patchNewJumpTable e m tables.1.start _ = _ ∨ _ ∧ _ ∧
        patchNewJumpTable e m tables.1.start _ = _
      rw [old jumpTable before slot declared]
      exact sound.leads jumpTable before slot declared
    · have here := filled slot declared
      cases stored : m.codeTable slot with
      | some code =>
        rw [stored] at here
        refine .inl (here.trans ?_)
        unfold destination
        rw [show ({ (m.append (tableCode tables.1)).append (tableCode tables.2) with
          codeSpaceData := m.codeSpaceData ++ [some tables.1.start]
          jumps := patchNewJumpTable e m tables.1.start } : NativeModule σ).codeTable slot =
            some code from stored]
      | none =>
        rw [stored] at here
        refine .inr ⟨stored, ?_, here⟩
        obtain ⟨code, memCode, -, start, -⟩ := sound.jumpTables _ sound.main
        exact fun same => newTable code memCode (start.trans same.symm)

def blank (statuses : ℕ → σ) : NativeModule σ where
  codeTable := fun _ => none
  newOwnedCode := []
  ownedCode := .empty
  codeSpaceData := []
  mainJumpTable := 0
  lazyCompileTable := 0
  jumps := fun _ => none
  codePointers := fun _ => (0, 0)
  debugging := false
  wellKnownImports := statuses

/-- The place of the tables in the first code space. -/
structure Founded (e : Environment σ) (tables : Tables) (lazyRegion : AddressRegion) : Prop where
  nonempty : 0 < tables.1.size ∧ 0 < tables.2.size ∧ 0 < lazyRegion.size
  apart : [tables.1, tables.2, lazyRegion].Pairwise Apart
  size : e.jumpTableSize ≤ tables.1.size
  lazySize : e.lazyCompileTableSize ≤ lazyRegion.size

theorem sound_addFirstCodeSpace [DecidableEq σ] {tables : Tables} {lazyRegion : AddressRegion}
    (founded : Founded e tables lazyRegion) (statuses : ℕ → σ) :
    Sound e (addFirstCodeSpace e (blank statuses) tables lazyRegion) := by
  obtain ⟨filled, others⟩ := jumps_fill (e := e) (fun _ => none) tables.1.start
    (fun slot => lazyRegion.start + e.lazyCompileSlotIndexToOffset slot) e.numDeclaredFunctions
    e.slot_injective
  have pointers := codePointers_fill (fun _ => (0, 0)) (fun slot =>
    (tables.1.start + e.jumpSlotIndexToOffset slot,
      e.signatureHash (e.numImportedFunctions + slot))) e.numDeclaredFunctions
  have built : addFirstCodeSpace e (blank statuses) tables lazyRegion =
      { blank statuses with
        newOwnedCode := [tableCode tables.1, tableCode tables.2, tableCode lazyRegion]
        codeSpaceData := [some tables.1.start]
        mainJumpTable := tables.1.start
        lazyCompileTable := lazyRegion.start
        jumps := (List.range e.numDeclaredFunctions).foldl
          (fun jumps slot => patchJumpTableLocked e jumps tables.1.start slot
            (lazyRegion.start + e.lazyCompileSlotIndexToOffset slot)) fun _ => none
        codePointers := (List.range e.numDeclaredFunctions).foldl
          (fun codePointers slot => Function.update codePointers slot
            (tables.1.start + e.jumpSlotIndexToOffset slot,
              e.signatureHash (e.numImportedFunctions + slot))) fun _ => (0, 0) } := by
    rw [addFirstCodeSpace, initializeJumpTableForLazyCompilation]
    simp only [publishTables_eq, createEmptyJumpTable_eq]
    rfl
  obtain ⟨near, far, lazyNonempty⟩ := founded.nonempty
  have codes : ∀ code : WasmCode σ, code ∈ (addFirstCodeSpace e (blank statuses) tables
      lazyRegion).allCode ↔
      code = tableCode tables.1 ∨ code = tableCode tables.2 ∨ code = tableCode lazyRegion := by
    intro code
    rw [built]
    simp [NativeModule.allCode, blank, KeyMap.empty]
  have spaces : ∀ jumpTable, some jumpTable ∈ (addFirstCodeSpace e (blank statuses) tables
      lazyRegion).codeSpaceData ↔ jumpTable = tables.1.start := by
    intro jumpTable
    rw [built]
    simp
  refine ⟨?_, fun code mem => ?_, ?_, ?_, (spaces _).mpr (by rw [built]), fun jumpTable space => ?_,
    ?_, fun address jump => ?_, fun jumpTable space slot declared => .inl ?_,
    fun slot declared => ?_, fun code mem => ?_⟩
  · rw [built]
    rintro _ _ ⟨⟩
  · rcases (codes code).mp mem with rfl | rfl | rfl
    · exact near
    · exact far
    · exact lazyNonempty
  · rw [built]
    have apart := founded.apart
    simpa [NativeModule.allCode, blank, KeyMap.empty, tableCode] using apart
  · rw [built]
    rintro _ _ ⟨⟩
  · exact ⟨tableCode tables.1, (codes _).mpr (.inl rfl), rfl, ((spaces _).mp space).symm,
      founded.size⟩
  · refine ⟨tableCode lazyRegion, (codes _).mpr (.inr (.inr rfl)), rfl, by rw [built]; rfl,
      founded.lazySize, fun jumpTable space => ?_⟩
    rw [(spaces jumpTable).mp space, built]
    have away : Apart tables.1 lazyRegion := by
      have := founded.apart
      simp only [List.pairwise_cons, List.mem_cons] at this
      exact this.1 lazyRegion (.inr (.inl rfl))
    rw [Apart, AddressRegion.stop, AddressRegion.stop] at away
    simp only
    omega
  · rw [built] at jump
    by_cases slot : ∃ slot < e.numDeclaredFunctions,
        address = tables.1.start + e.jumpSlotIndexToOffset slot
    · obtain ⟨slot, declared, rfl⟩ := slot
      exact ⟨_, slot, (spaces _).mpr rfl, declared, rfl⟩
    · exact absurd (others address fun index declared same => slot ⟨index, declared, same⟩) jump
  · rw [(spaces jumpTable).mp space, built]
    exact filled slot declared
  · rw [built]
    exact pointers slot declared
  · rcases (codes code).mp mem with rfl | rfl | rfl <;> exact assuming_tableCode _

/-! Code that is looked up and freed. -/

theorem keyed_mem {owned : KeyMap ℕ (WasmCode σ)}
    (keyed : ∀ start code, owned.get? start = some code → code.instructions.start = start)
    (code : WasmCode σ) : code ∈ owned.entries.map Prod.snd ↔
      owned.get? code.instructions.start = some code := by
  rw [KeyMap.get?_eq_some_iff, List.mem_map]
  constructor
  · rintro ⟨⟨start, code'⟩, mem, rfl⟩
    have start' := keyed start code' ((KeyMap.get?_eq_some_iff _ _ _).mpr mem)
    exact start' ▸ mem
  · exact fun mem => ⟨_, mem, rfl⟩

/-- Codes that share no byte are put into the map one after another, in any order. -/
theorem transfer_codes {codes : List (WasmCode σ)} {owned : KeyMap ℕ (WasmCode σ)}
    (keyed : ∀ start code, owned.get? start = some code → code.instructions.start = start)
    (nonempty : ∀ code ∈ codes ++ owned.entries.map Prod.snd, 0 < code.instructions.size)
    (apart : (codes ++ owned.entries.map Prod.snd).Pairwise
      fun code code' => Apart code.instructions code'.instructions) :
    let after := codes.foldl (fun owned code => owned.emplace code.instructions.start code) owned
    (∀ start code, after.get? start = some code → code.instructions.start = start) ∧
      (after.entries.map Prod.snd).Perm (codes ++ owned.entries.map Prod.snd) := by
  induction codes generalizing owned with
  | nil => exact ⟨keyed, .refl _⟩
  | cons code codes ih =>
    obtain ⟨first, rest⟩ := List.pairwise_cons.mp apart
    have absent : owned.get? code.instructions.start = none := by
      cases found : owned.get? code.instructions.start with
      | none => rfl
      | some other =>
        have start := keyed _ other found
        have mem : other ∈ codes ++ owned.entries.map Prod.snd :=
          List.mem_append_right _ ((keyed_mem keyed other).mpr (start ▸ found))
        have away := first other mem
        have size := nonempty code List.mem_cons_self
        have size' := nonempty other (List.mem_cons_of_mem _ mem)
        rw [Apart, AddressRegion.stop, AddressRegion.stop] at away
        omega
    have set : owned.emplace code.instructions.start code =
        owned.set code.instructions.start code := by
      apply KeyMap.ext_get?
      intro start
      rw [KeyMap.get?_emplace, KeyMap.get?_set, absent, Option.getD_none]
    have perm : ((owned.emplace code.instructions.start code).entries.map Prod.snd).Perm
        (code :: owned.entries.map Prod.snd) := by
      rw [set]
      refine ((KeyMap.perm_set owned _ code).map Prod.snd).trans ?_
      have same : owned.erase code.instructions.start = owned := by
        refine KeyMap.keep_eq_self fun start other stored here => ?_
        rw [here, absent] at stored
        cases stored
      rw [same]
      exact .refl _
    have keyed' : ∀ start other,
        (owned.emplace code.instructions.start code).get? start = some other →
          other.instructions.start = start := by
      intro start other stored
      rw [set, KeyMap.get?_set] at stored
      split_ifs at stored with here
      · cases stored
        exact here.symm
      · exact keyed start other stored
    have moved : (codes ++ (owned.emplace code.instructions.start code).entries.map Prod.snd).Perm
        (code :: (codes ++ owned.entries.map Prod.snd)) :=
      (perm.append_left codes).trans List.perm_middle
    obtain ⟨keyed'', perm'⟩ := ih keyed'
      (fun other mem => nonempty other (moved.mem_iff.mp mem))
      ((moved.pairwise_iff fun {a b} => Or.symm).mpr apart)
    exact ⟨keyed'', perm'.trans moved⟩

theorem sound_transfer (sound : Sound e m) : Sound e (transferNewOwnedCodeLocked m) ∧
    (transferNewOwnedCodeLocked m).allCode.Perm m.allCode ∧
    (transferNewOwnedCodeLocked m).newOwnedCode = [] := by
  have sorted := List.mergeSort_perm m.newOwnedCode fun a b =>
    decide (b.instructions.start ≤ a.instructions.start)
  have moved := sorted.append_right (m.ownedCode.entries.map Prod.snd)
  obtain ⟨keyed, perm⟩ := transfer_codes sound.keyed
    (fun code mem => sound.nonempty code (moved.mem_iff.mp mem))
    ((moved.pairwise_iff fun {a b} => Or.symm).mpr sound.apart)
  have all : (transferNewOwnedCodeLocked m).allCode.Perm m.allCode := perm.trans moved
  refine ⟨⟨keyed, fun code mem => sound.nonempty code (all.mem_iff.mp mem),
    (all.pairwise_iff fun {a b} => Or.symm).mpr sound.apart, fun slot code stored => ?_, sound.main,
    fun jumpTable space => ?_, ?_, sound.slots, sound.leads, sound.pointers,
    fun code mem => sound.assuming code (all.mem_iff.mp mem)⟩, all, rfl⟩
  · obtain ⟨declared, index, mem, installable⟩ := sound.table slot code stored
    exact ⟨declared, index, all.mem_iff.mpr mem, installable⟩
  · obtain ⟨code, mem, rest⟩ := sound.jumpTables jumpTable space
    exact ⟨code, all.mem_iff.mpr mem, rest⟩
  · obtain ⟨code, mem, rest⟩ := sound.lazyTable
    exact ⟨code, all.mem_iff.mpr mem, rest⟩

theorem lookup_iff (sound : Sound e m) (pc : ℕ) (code : WasmCode σ) :
    (lookup m pc).2 = some code ↔ code ∈ m.allCode ∧ code.instructions.Has pc := by
  obtain ⟨sound', all, empty⟩ := sound_transfer sound
  have owned : ∀ code, code ∈ m.allCode ↔
      (transferNewOwnedCodeLocked m).ownedCode.get? code.instructions.start = some code := by
    intro code
    rw [← all.mem_iff, NativeModule.allCode, empty, List.nil_append, keyed_mem sound'.keyed]
  rw [owned]
  simp only [lookup]
  constructor
  · intro found
    obtain ⟨⟨start, candidate⟩, last, inside⟩ := Option.bind_eq_some_iff.mp found
    obtain ⟨stored, -, -⟩ := (KeyMap.last?_eq_some_iff _ _ _ _).mp last
    split_ifs at inside with within
    cases inside
    exact ⟨sound'.keyed start _ stored ▸ stored, within⟩
  · rintro ⟨stored, inside⟩
    have last : ((transferNewOwnedCodeLocked m).ownedCode.last? fun start => start ≤ pc) =
        some (code.instructions.start, code) := by
      refine (KeyMap.last?_eq_some_iff _ _ _ _).mpr ⟨stored, inside.1, fun start later before => ?_⟩
      cases found : (transferNewOwnedCodeLocked m).ownedCode.get? start with
      | none => rfl
      | some other =>
        -- The first byte of the other code would be a byte of this one.
        have start' := sound'.keyed start other found
        have mem := (owned other).mpr (start' ▸ found)
        have size := sound.nonempty other mem
        have first : other.instructions.Has start :=
          ⟨start'.le, by rw [AddressRegion.stop]; omega⟩
        have within : code.instructions.Has start := ⟨later.le, lt_of_le_of_lt before inside.2⟩
        have same := sound.same_code mem ((owned code).mpr stored) first within
        rw [same] at start'
        omega
    rw [last, Option.bind_some]
    exact if_pos inside

theorem get?_eraseAll (owned : KeyMap ℕ (WasmCode σ)) (codes : List (WasmCode σ)) (start : ℕ)
    (code : WasmCode σ) :
    (codes.foldl (fun owned code => owned.erase code.instructions.start) owned).get? start =
        some code ↔
      owned.get? start = some code ∧ ∀ gone ∈ codes, start ≠ gone.instructions.start := by
  induction codes generalizing owned with
  | nil => simp
  | cons gone codes ih =>
    rw [List.foldl_cons, ih, KeyMap.get?_erase, List.forall_mem_cons]
    by_cases here : start = gone.instructions.start <;> simp [here]

theorem eraseAll_sublist (owned : KeyMap ℕ (WasmCode σ)) (codes : List (WasmCode σ)) :
    (codes.foldl (fun owned code => owned.erase code.instructions.start)
      owned).entries.Sublist owned.entries := by
  induction codes generalizing owned with
  | nil => exact .refl _
  | cons gone codes ih => exact (ih _).trans List.filter_sublist

theorem sound_freeCode (sound : Sound e m) {codes : List (WasmCode σ)}
    (unused : ∀ code ∈ codes, code ∈ m.allCode ∧ code.index ≠ none ∧
      ∀ slot, m.codeTable slot ≠ some code) :
    Sound e (freeCode m codes) ∧
      ∀ code, code ∈ (freeCode m codes).allCode ↔ code ∈ m.allCode ∧ code ∉ codes := by
  obtain ⟨sound', all, empty⟩ := sound_transfer sound
  have keyed : ∀ start code, (freeCode m codes).ownedCode.get? start = some code →
      code.instructions.start = start :=
    fun start code stored =>
      sound'.keyed start code ((get?_eraseAll _ codes start code).mp stored).1
  have listed : (freeCode m codes).allCode = (freeCode m codes).ownedCode.entries.map Prod.snd :=
    rfl
  have mem_iff : ∀ code, code ∈ (freeCode m codes).allCode ↔
      code ∈ m.allCode ∧ code ∉ codes := by
    intro code
    have before : code ∈ m.allCode ↔
        (transferNewOwnedCodeLocked m).ownedCode.get? code.instructions.start = some code := by
      rw [← all.mem_iff, NativeModule.allCode, empty, List.nil_append, keyed_mem sound'.keyed]
    rw [listed, keyed_mem keyed, freeCode, get?_eraseAll, before]
    refine and_congr_right fun stored => ⟨fun away gone => away code gone rfl, ?_⟩
    intro kept gone memGone same
    have size := sound.nonempty gone (unused gone memGone).1
    have first : gone.instructions.Has gone.instructions.start :=
      ⟨le_rfl, by rw [AddressRegion.stop]; omega⟩
    have size' := sound.nonempty code (before.mpr stored)
    have first' : code.instructions.Has gone.instructions.start :=
      ⟨same.le, by rw [AddressRegion.stop]; omega⟩
    have equal := sound.same_code (unused gone memGone).1 (before.mpr stored) first first'
    exact kept (equal ▸ memGone)
  have apart : (freeCode m codes).allCode.Pairwise
      fun code code' => Apart code.instructions code'.instructions := by
    have before := sound'.apart
    rw [NativeModule.allCode, empty, List.nil_append] at before
    rw [listed]
    exact before.sublist ((eraseAll_sublist _ codes).map Prod.snd)
  refine ⟨⟨keyed, fun code mem => sound.nonempty code ((mem_iff code).mp mem).1, apart,
    fun slot code stored => ?_, sound.main, fun jumpTable space => ?_, ?_, sound.slots, sound.leads,
    sound.pointers, fun code mem => sound.assuming code ((mem_iff code).mp mem).1⟩, mem_iff⟩
  · obtain ⟨declared, index, mem, installable⟩ := sound.table slot code stored
    exact ⟨declared, index, (mem_iff code).mpr
      ⟨mem, fun gone => (unused code gone).2.2 slot stored⟩, installable⟩
  · obtain ⟨code, mem, anonymous, rest⟩ := sound.jumpTables jumpTable space
    exact ⟨code, (mem_iff code).mpr ⟨mem, fun gone => (unused code gone).2.1 anonymous⟩, anonymous,
      rest⟩
  · obtain ⟨code, mem, anonymous, rest⟩ := sound.lazyTable
    exact ⟨code, (mem_iff code).mpr ⟨mem, fun gone => (unused code gone).2.1 anonymous⟩, anonymous,
      rest⟩

/-! What goes on in a running module. -/

theorem removeCompiledCode_cases (sound : Sound e m) (filter : RemoveFilter) :
    Sound e (removeCompiledCode e m filter) ∧
      (removeCompiledCode e m filter).wellKnownImports = m.wellKnownImports ∧
      (removeCompiledCode e m filter).allCode = m.allCode ∧
      (removeCompiledCode e m filter).debugging = m.debugging ∧
      ∀ slot code, (removeCompiledCode e m filter).codeTable slot = some code ↔
        m.codeTable slot = some code ∧ shouldRemoveCode code filter = false := by
  obtain ⟨sound', statuses, allCode, debugging, codeTable⟩ :=
    foldl_removeSlot sound filter fun slot mem => List.mem_range.mp mem
  refine ⟨sound', statuses, allCode, debugging, fun slot code => ?_⟩
  rw [removeCompiledCode, codeTable]
  refine and_congr_right fun stored => ⟨fun kept => kept ?_, fun kept _ => kept⟩
  exact List.mem_range.mpr (sound.table slot code stored).1

theorem sound_statuses (sound : Sound e m) (statuses : ℕ → σ) :
    Sound e { m with wellKnownImports := statuses } :=
  ⟨sound.keyed, sound.nonempty, sound.apart, sound.table, sound.main, sound.jumpTables,
    sound.lazyTable, sound.slots, sound.leads, sound.pointers, sound.assuming⟩

theorem updateWellKnownImports_cases (sound : Sound e m) (current : Current m) (entries : List σ) :
    Sound e (updateWellKnownImports e m entries) ∧
      Current (updateWellKnownImports e m entries) := by
  unfold updateWellKnownImports
  have changed := sound_statuses sound (e.update m.wellKnownImports entries).1
  simp only
  split_ifs with found
  · obtain ⟨sound', -, allCode, -, codeTable⟩ :=
      removeCompiledCode_cases changed .kRemoveTurbofanCode
    refine ⟨sound', fun slot code stored assumption mem => ?_⟩
    obtain ⟨before, kept⟩ := (codeTable slot code).mp stored
    have assuming := sound.assuming code (sound.table slot code before).2.2.1
    exact absurd (assuming (List.ne_nil_of_mem mem)).1 (of_decide_eq_false kept)
  · refine ⟨changed, fun slot code stored assumption mem => ?_⟩
    have assuming := sound.assuming code (sound.table slot code stored).2.2.1
    have holds := current slot code stored assumption mem
    have assumable := (assuming (List.ne_nil_of_mem mem)).2.2 assumption mem
    have kept := e.compatible m.wellKnownImports entries (Bool.not_eq_true _ ▸ found) assumption.1
      (holds ▸ assumable)
    exact kept.trans holds

theorem reinstallDebugCode_cases (sound : Sound e m) (current : Current m) {code : WasmCode σ}
    (mem : code ∈ m.allCode) (breakpoints : code.forDebugging = .kWithBreakpoints)
    (inModule : ∀ i ∈ code.index, i < e.numImportedFunctions + e.numDeclaredFunctions) :
    Sound e (reinstallDebugCode e m code) ∧ Current (reinstallDebugCode e m code) := by
  unfold reinstallDebugCode
  split_ifs
  · split
    · exact ⟨sound, current⟩
    · rename_i slot index
      refine ⟨sound_installCode sound (declared_lt index inModule) index mem ?_,
        current_installCode current slot fun assumption among => ?_⟩
      · rw [breakpoints]
        decide
      · have plain := (sound.assuming code mem (List.ne_nil_of_mem among)).2.1
        rw [breakpoints] at plain
        cases plain
  · exact ⟨sound, current⟩

/-! Runs of a module. -/

inductive Event (σ : Type)
  | addsCodeSpace (tables : Option Tables)
  | publishes (code : WasmCode σ)
  | updatesImports (entries : List σ)
  | removes (filter : RemoveFilter)
  | reinstalls (code : WasmCode σ)
  | setsDebugState (debugging : Bool)
  | looksUp (pc : ℕ)
  | frees (codes : List (WasmCode σ))

variable [DecidableEq σ] (e)

def step (m : NativeModule σ) : Event σ → NativeModule σ
  | .addsCodeSpace tables => addCodeSpaceLocked e m tables
  | .publishes code => (publishCodeLocked e m code).1
  | .updatesImports entries => updateWellKnownImports e m entries
  | .removes filter => removeCompiledCode e m filter
  | .reinstalls code => reinstallDebugCode e m code
  | .setsDebugState debugging => setDebugState e m debugging
  | .looksUp pc => (lookup m pc).1
  | .frees codes => freeCode m codes

/-- What is left to the callers: code lies where nothing else is, and goes when it is in no
table. -/
def Proper (m : NativeModule σ) : Event σ → Prop
  | .addsCodeSpace tables => ∀ pair ∈ tables, Placed e m pair
  | .publishes code => Fresh m code.instructions ∧ Assuming e code ∧
      ∀ i ∈ code.index, i < e.numImportedFunctions + e.numDeclaredFunctions
  | .reinstalls code => code ∈ m.allCode ∧ code.forDebugging = .kWithBreakpoints ∧
      ∀ i ∈ code.index, i < e.numImportedFunctions + e.numDeclaredFunctions
  | .frees codes => ∀ code ∈ codes, code ∈ m.allCode ∧ code.index ≠ none ∧
      ∀ slot, m.codeTable slot ≠ some code
  | .updatesImports _ | .removes _ | .setsDebugState _ | .looksUp _ => True

variable {e}

theorem sound_step (sound : Sound e m) (current : Current m) {event : Event σ}
    (proper : Proper e m event) : Sound e (step e m event) ∧ Current (step e m event) := by
  cases event with
  | addsCodeSpace tables =>
    cases tables with
    | none => exact ⟨sound_addNone sound, current⟩
    | some pair =>
      have added := sound_addTables sound (proper pair rfl)
      rw [step, addCodeSpaceLocked, publishTables_eq]
      exact ⟨added, current⟩
  | publishes code => exact sound_publishCodeLocked sound current proper.1 proper.2.1 proper.2.2
  | updatesImports entries => exact updateWellKnownImports_cases sound current entries
  | removes filter =>
    obtain ⟨sound', statuses, -, -, codeTable⟩ := removeCompiledCode_cases sound filter
    refine ⟨sound', fun slot code stored assumption mem => ?_⟩
    rw [step, statuses]
    exact current slot code ((codeTable slot code).mp stored).1 assumption mem
  | reinstalls code => exact reinstallDebugCode_cases sound current proper.1 proper.2.1 proper.2.2
  | setsDebugState debugging =>
    rw [step, setDebugState]
    split_ifs
    · exact ⟨⟨sound.keyed, sound.nonempty, sound.apart, sound.table, sound.main, sound.jumpTables,
        sound.lazyTable, sound.slots, sound.leads, sound.pointers, sound.assuming⟩, current⟩
    · exact ⟨sound, current⟩
  | looksUp pc => exact ⟨(sound_transfer sound).1, current⟩
  | frees codes => exact ⟨(sound_freeCode sound proper).1, current⟩

theorem sound_run (sound : Sound e m) (current : Current m) {events : List (Event σ)}
    (proper : Permitted (Proper e) (step e) m events) :
    Sound e (events.foldl (step e) m) ∧ Current (events.foldl (step e) m) := by
  induction events generalizing m with
  | nil => exact ⟨sound, current⟩
  | cons event events ih =>
    obtain ⟨sound', current'⟩ := sound_step sound current proper.1
    exact ih sound' current' proper.2

def create (e : Environment σ) (tables : Tables) (lazyRegion : AddressRegion) (statuses : ℕ → σ) :
    NativeModule σ := addFirstCodeSpace e (blank statuses) tables lazyRegion

theorem create_codeTable (e : Environment σ) (tables : Tables) (lazyRegion : AddressRegion)
    (statuses : ℕ → σ) (slot : ℕ) :
    (create e tables lazyRegion statuses).codeTable slot = none := by
  rw [create, addFirstCodeSpace, initializeJumpTableForLazyCompilation]
  simp only [publishTables_eq, createEmptyJumpTable_eq]
  rfl

theorem sound_create {tables : Tables} {lazyRegion : AddressRegion}
    (founded : Founded e tables lazyRegion) (statuses : ℕ → σ) :
    Sound e (create e tables lazyRegion statuses) ∧ Current (create e tables lazyRegion statuses) :=
  ⟨sound_addFirstCodeSpace founded statuses, fun slot code stored => by
    rw [create_codeTable] at stored
    cases stored⟩

/-- Whichever way a function is called, through the jump table of any code space or through a
function pointer, the call ends in the code of the code table or in the stub that compiles the
function, and a lookup of any address in that code finds it. -/
theorem calls_reach_code (e : Environment σ) {tables : Tables} {lazyRegion : AddressRegion}
    (founded : Founded e tables lazyRegion) (statuses : ℕ → σ) (events : List (Event σ))
    (proper : Permitted (Proper e) (step e) (create e tables lazyRegion statuses) events) :
    let m := events.foldl (step e) (create e tables lazyRegion statuses)
    ∀ slot < e.numDeclaredFunctions,
      (∀ jumpTable, some jumpTable ∈ m.codeSpaceData →
        Reaches m.jumps (jumpTable + e.jumpSlotIndexToOffset slot) (destination e m slot)) ∧
      Reaches m.jumps (m.codePointers slot).1 (destination e m slot) ∧
      ∀ code, m.codeTable slot = some code →
        ∀ pc, code.instructions.Has pc → (lookup m pc).2 = some code := by
  obtain ⟨sound, current⟩ := sound_create (e := e) founded statuses
  obtain ⟨sound', -⟩ := sound_run sound current proper
  intro m slot declared
  obtain ⟨tables', pointers⟩ := sound'.reaches declared
  refine ⟨tables', pointers, fun code stored pc inside => ?_⟩
  exact (lookup_iff sound' pc code).mpr ⟨(sound'.table slot code stored).2.2.1, inside⟩

/-- Code in use was compiled for its function, under assumptions that still hold. -/
theorem assumptions_hold (e : Environment σ) {tables : Tables} {lazyRegion : AddressRegion}
    (founded : Founded e tables lazyRegion) (statuses : ℕ → σ) (events : List (Event σ))
    (proper : Permitted (Proper e) (step e) (create e tables lazyRegion statuses) events) :
    let m := events.foldl (step e) (create e tables lazyRegion statuses)
    ∀ slot code, m.codeTable slot = some code →
      code.index = some (e.numImportedFunctions + slot) ∧ code.forDebugging ≠ .kForStepping ∧
      ∀ assumption ∈ code.assumptions, m.wellKnownImports assumption.1 = assumption.2 := by
  obtain ⟨sound, current⟩ := sound_create (e := e) founded statuses
  obtain ⟨sound', current'⟩ := sound_run sound current proper
  intro m slot code stored
  obtain ⟨-, index, -, installable⟩ := sound'.table slot code stored
  refine ⟨?_, installable, current' slot code stored⟩
  unfold declaredFunctionIndex at index
  cases named : code.index with
  | none =>
    rw [named] at index
    cases index
  | some i =>
    rw [named, Option.bind_some] at index
    split_ifs at index
    cases index
    congr 1
    omega

/-! Debugging. -/

def DebugOnly (m : NativeModule σ) : Prop :=
  m.debugging = true ∧ ∀ slot code, m.codeTable slot = some code →
    code.forDebugging ≠ .kNotForDebugging

omit [DecidableEq σ] in
theorem debugOnly_installCode (only : DebugOnly m) (slot : ℕ) {code : WasmCode σ}
    (debug : code.forDebugging ≠ .kNotForDebugging) : DebugOnly (installCode e m slot code) := by
  refine ⟨only.1, fun other code' stored => ?_⟩
  change Function.update m.codeTable slot (some code) other = some code' at stored
  rw [Function.update_apply] at stored
  split_ifs at stored
  · cases stored
    exact debug
  · exact only.2 other code' stored

theorem debugOnly_step (sound : Sound e m) (only : DebugOnly m) {event : Event σ}
    (proper : Proper e m event) (stays : ∀ debugging, event ≠ .setsDebugState debugging) :
    DebugOnly (step e m event) := by
  have removed : ∀ (m : NativeModule σ) (filter : RemoveFilter), Sound e m → DebugOnly m →
      DebugOnly (removeCompiledCode e m filter) := by
    intro m filter sound only
    obtain ⟨-, -, -, debugging, codeTable⟩ := removeCompiledCode_cases sound filter
    exact ⟨debugging.trans only.1, fun slot code stored =>
      only.2 slot code ((codeTable slot code).mp stored).1⟩
  cases event with
  | addsCodeSpace tables =>
    cases tables with
    | none => exact only
    | some pair =>
      rw [step, addCodeSpaceLocked, publishTables_eq]
      exact only
  | publishes code =>
    rcases publishCodeLocked_cases (e := e) m code with
      ⟨-, dropped⟩ | ⟨-, aside | ⟨slot, -, update, installed⟩⟩
    · rw [step, dropped]
      exact only
    · rw [step, aside]
      exact only
    · have only' : DebugOnly (m.append code) := only
      rw [step, installed]
      refine debugOnly_installCode only' slot fun plain => ?_
      simp [shouldUpdateCodeTable, plain, only.1] at update
  | updatesImports entries =>
    rw [step, updateWellKnownImports]
    simp only
    split_ifs
    · exact removed _ _ (sound_statuses sound _) only
    · exact only
  | removes filter => exact removed m filter sound only
  | reinstalls code =>
    rw [step, reinstallDebugCode, if_pos only.1]
    split
    · exact only
    · refine debugOnly_installCode only _ ?_
      rw [proper.2.1]
      decide
  | setsDebugState debugging => exact absurd rfl (stays debugging)
  | looksUp pc => exact only
  | frees codes => exact only

theorem debugOnly_run (sound : Sound e m) (current : Current m) (only : DebugOnly m)
    {events : List (Event σ)} (proper : Permitted (Proper e) (step e) m events)
    (stays : ∀ event ∈ events, ∀ debugging, event ≠ .setsDebugState debugging) :
    DebugOnly (events.foldl (step e) m) := by
  induction events generalizing m with
  | nil => exact only
  | cons event events ih =>
    obtain ⟨sound', current'⟩ := sound_step sound current proper.1
    have first := debugOnly_step sound only proper.1 (stays event List.mem_cons_self)
    exact ih sound' current' first proper.2 fun other mem =>
      stays other (List.mem_cons_of_mem _ mem)

/-- Once a module is debugged and its other code is removed, no event but the end of debugging
brings other code back into use. -/
theorem debugging_stays (e : Environment σ) {tables : Tables} {lazyRegion : AddressRegion}
    (founded : Founded e tables lazyRegion) (statuses : ℕ → σ) (past later : List (Event σ))
    (origin : e.wasmOrigin = true) (proper : Permitted (Proper e) (step e)
      (create e tables lazyRegion statuses)
      (past ++ (.setsDebugState true :: .removes .kRemoveNonDebugCode :: later)))
    (stays : ∀ event ∈ later, ∀ debugging, event ≠ .setsDebugState debugging) :
    let m := (past ++ (.setsDebugState true :: .removes .kRemoveNonDebugCode :: later)).foldl
      (step e) (create e tables lazyRegion statuses)
    ∀ slot code, m.codeTable slot = some code → code.forDebugging ≠ .kNotForDebugging := by
  obtain ⟨sound, current⟩ := sound_create (e := e) founded statuses
  rw [permitted_append] at proper
  obtain ⟨before, first, second, rest⟩ := proper
  obtain ⟨sound₁, current₁⟩ := sound_run sound current before
  obtain ⟨sound₂, current₂⟩ := sound_step sound₁ current₁ first
  obtain ⟨sound₃, current₃⟩ := sound_step sound₂ current₂ second
  have only : DebugOnly (step e (step e (past.foldl (step e)
      (create e tables lazyRegion statuses)) (.setsDebugState true))
      (.removes .kRemoveNonDebugCode)) := by
    obtain ⟨-, -, -, debugging, codeTable⟩ := removeCompiledCode_cases sound₂ .kRemoveNonDebugCode
    refine ⟨debugging.trans ?_, fun slot code stored => ?_⟩
    · rw [step, setDebugState, if_pos origin]
    · exact of_decide_eq_false ((codeTable slot code).mp stored).2
  intro m
  have after := debugOnly_run sound₃ current₃ only rest stays
  simp only [m, List.foldl_append, List.foldl_cons]
  exact after.2

/-! A module with two functions, and one import. -/

def updateStatuses (statuses : ℕ → ℕ) (entries : List ℕ) : (ℕ → ℕ) × Bool :=
  if ∃ i < entries.length, 2 ≤ statuses i ∧ entries[i]? ≠ some (statuses i) then
    (fun _ => 1, true)
  else (fun i => if statuses i = 0 then entries.getD i 0 else statuses i, false)

theorem updateStatuses_compatible (statuses : ℕ → ℕ) (entries : List ℕ)
    (compatible : (updateStatuses statuses entries).2 = false) (i : ℕ) (known : 2 ≤ statuses i) :
    (updateStatuses statuses entries).1 i = statuses i := by
  unfold updateStatuses at compatible ⊢
  split_ifs at compatible ⊢ with found
  exact if_neg (by omega)

def twoFunctions : Environment ℕ where
  numImportedFunctions := 1
  numDeclaredFunctions := 2
  jumpSlotIndexToOffset := fun slot => 8 * slot
  lazyCompileSlotIndexToOffset := fun slot => 12 * slot
  jumpTableSize := 16
  lazyCompileTableSize := 24
  signatureHash := id
  wasmOrigin := true
  wasmDeopt := false
  update := updateStatuses
  assumable := fun status => 2 ≤ status
  slot_lt := fun slot declared => by omega
  slot_injective := fun slot _ slot' _ same => by omega
  lazySlot_lt := fun slot declared => by omega
  compatible := updateStatuses_compatible

def firstTables : Tables := (⟨0, 64⟩, ⟨64, 64⟩)

def secondTables : Tables := (⟨1024, 64⟩, ⟨1088, 64⟩)

def liftoffCode : WasmCode ℕ := ⟨some 1, ⟨192, 64⟩, .kLiftoff, .kNotForDebugging, false, 7, []⟩

def turbofanCode : WasmCode ℕ :=
  ⟨some 1, ⟨256, 64⟩, .kTurbofan, .kNotForDebugging, false, 7, [(0, 5)]⟩

def debugCode : WasmCode ℕ := ⟨some 2, ⟨320, 64⟩, .kLiftoff, .kForDebugging, false, 7, []⟩

theorem twoFunctions_founded : Founded twoFunctions firstTables ⟨128, 64⟩ where
  nonempty := by decide
  apart := by simp [Apart, AddressRegion.stop, firstTables]
  size := by decide
  lazySize := by decide

theorem fresh_of_forall {m : NativeModule ℕ} {region : AddressRegion} (nonempty : 0 < region.size)
    (away : ∀ code ∈ m.allCode, code.instructions.stop ≤ region.start ∨
      region.stop ≤ code.instructions.start) : Fresh m region := ⟨nonempty, away⟩

/-- Optimized code is used until an import turns out to be another one. -/
def optimizesAndGoesBack : List (Event ℕ) :=
  [.publishes liftoffCode, .updatesImports [5], .publishes turbofanCode,
    .addsCodeSpace (some secondTables), .looksUp 260, .updatesImports [6]]

theorem optimizesAndGoesBack_proper : Permitted (Proper twoFunctions) (step twoFunctions)
    (create twoFunctions firstTables ⟨128, 64⟩ fun _ => 0) optimizesAndGoesBack := by
  have plain : Assuming twoFunctions liftoffCode := fun some => absurd rfl some
  have assumes : Assuming twoFunctions turbofanCode := fun _ =>
    ⟨rfl, rfl, fun assumption mem => by
      rw [List.mem_singleton.mp mem]
      exact (by decide : 2 ≤ 5)⟩
  refine ⟨⟨fresh_of_forall (by decide) (by decide +kernel), plain, by decide⟩, trivial,
    ⟨fresh_of_forall (by decide) (by decide +kernel), assumes, by decide⟩, ?_, trivial, trivial,
    trivial⟩
  rintro pair ⟨⟩
  exact ⟨fresh_of_forall (by decide) (by decide +kernel),
    fresh_of_forall (by decide) (by decide +kernel), .inl (by decide), by decide⟩

theorem calls_reach_code_optimized :
    let m := (optimizesAndGoesBack.take 5).foldl (step twoFunctions)
      (create twoFunctions firstTables ⟨128, 64⟩ fun _ => 0)
    m.codeTable 0 = some turbofanCode ∧ Reaches m.jumps 1024 256 ∧ Reaches m.jumps 1032 140 := by
  have proper := permitted_past optimizesAndGoesBack_proper (List.take_prefix 5 _)
  have reaches := calls_reach_code twoFunctions twoFunctions_founded (fun _ => 0)
    (optimizesAndGoesBack.take 5) proper
  have space : some 1024 ∈ ((optimizesAndGoesBack.take 5).foldl (step twoFunctions)
      (create twoFunctions firstTables ⟨128, 64⟩ fun _ => 0)).codeSpaceData := by decide +kernel
  exact ⟨by decide +kernel, (reaches 0 (by decide)).1 1024 space,
    (reaches 1 (by decide)).1 1024 space⟩

theorem assumptions_hold_goesBack :
    let m := optimizesAndGoesBack.foldl (step twoFunctions)
      (create twoFunctions firstTables ⟨128, 64⟩ fun _ => 0)
    m.codeTable 0 = none ∧ m.wellKnownImports 0 = 1 ∧ ∀ slot code, m.codeTable slot = some code →
      ∀ assumption ∈ code.assumptions, m.wellKnownImports assumption.1 = assumption.2 := by
  have holds := assumptions_hold twoFunctions twoFunctions_founded (fun _ => 0) optimizesAndGoesBack
    optimizesAndGoesBack_proper
  exact ⟨by decide +kernel, by decide +kernel, fun slot code stored => (holds slot code stored).2.2⟩

/-- Code that was optimized before is out of use. -/
theorem debugging_stays_past :
    let m := (optimizesAndGoesBack.take 3 ++ (Event.setsDebugState true ::
      Event.removes .kRemoveNonDebugCode :: [Event.publishes debugCode])).foldl (step twoFunctions)
        (create twoFunctions firstTables ⟨128, 64⟩ fun _ => 0)
    m.codeTable 0 = none ∧ m.codeTable 1 = some debugCode ∧
      ∀ slot code, m.codeTable slot = some code → code.forDebugging ≠ .kNotForDebugging := by
  have past := permitted_past optimizesAndGoesBack_proper (List.take_prefix 3 _)
  have plain : Assuming twoFunctions debugCode := fun some => absurd rfl some
  have proper : Permitted (Proper twoFunctions) (step twoFunctions)
      (create twoFunctions firstTables ⟨128, 64⟩ fun _ => 0) (optimizesAndGoesBack.take 3 ++
        (Event.setsDebugState true :: Event.removes .kRemoveNonDebugCode ::
          [Event.publishes debugCode])) := by
    rw [permitted_append]
    exact ⟨past, trivial, trivial,
      ⟨fresh_of_forall (by decide) (by decide +kernel), plain, by decide⟩, trivial⟩
  have stays := debugging_stays twoFunctions twoFunctions_founded (fun _ => 0)
    (optimizesAndGoesBack.take 3) [Event.publishes debugCode] rfl proper
    (fun event mem debugging => by rw [List.mem_singleton.mp mem]; simp)
  exact ⟨by decide +kernel, by decide +kernel, stays⟩

end BlinkerFluid.CodeTable
