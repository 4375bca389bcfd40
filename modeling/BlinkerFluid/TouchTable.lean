import BlinkerFluid.StepRun
import Mathlib.Data.List.Nodup
import Mathlib.Data.List.ReduceOption

/-! The table of active touches. A touch is known by the slot that it took when it began;
the events of a page list the touch that changed and then the table. Touches are left behind
when the end of one does not arrive, so that the table can be full while few are down. -/

namespace BlinkerFluid.TouchTable
open StepRun

variable {τ : Type*} {cap : ℕ}

def OnceEach (slots : List (Option τ)) : Prop :=
  ∀ (i j : ℕ) touch, slots[i]? = some (some touch) → slots[j]? = some (some touch) → i = j

/-- `g_active_touches`, with `MAX_POINTERS` slots. -/
structure ActiveTouches (τ : Type*) (cap : ℕ) where
  slots : List (Option τ)
  length : slots.length = cap
  once : OnceEach slots

theorem once_set {slots : List (Option τ)} {entry : Option τ} (once : OnceEach slots)
    (new : ∀ touch, entry = some touch → some touch ∉ slots) (k : ℕ) :
    OnceEach (slots.set k entry) := by
  intro i j touch first second
  have either (i : ℕ) (here : (slots.set k entry)[i]? = some (some touch)) :
      (k = i ∧ entry = some touch) ∨ slots[i]? = some (some touch) := by
    rw [List.getElem?_set] at here
    split_ifs at here with same
    · exact .inl ⟨same, Option.some.inj here⟩
    · exact .inr here
  rcases either i first with ⟨rfl, put⟩ | found
  · rcases either j second with ⟨rfl, -⟩ | found
    · rfl
    · exact absurd (List.mem_of_getElem? found) (new touch put)
  · rcases either j second with ⟨rfl, put⟩ | found'
    · exact absurd (List.mem_of_getElem? found) (new touch put)
    · exact once i j touch found found'

theorem getElem?_set_iff {slots : List (Option τ)} {entry old : Option τ} {other : τ} {k i : ℕ}
    (before : slots[k]? = some old) (new : entry ≠ some other) (gone : old ≠ some other) :
    (slots.set k entry)[i]? = some (some other) ↔ slots[i]? = some (some other) := by
  by_cases same : k = i
  · subst same
    rw [List.getElem?_set_self (List.getElem?_eq_some_iff.mp before).1, before, Option.some.injEq,
      Option.some.injEq]
    exact iff_of_false new gone
  · rw [List.getElem?_set_ne same]

namespace ActiveTouches

variable [DecidableEq τ]

def empty (τ : Type*) (cap : ℕ) : ActiveTouches τ cap where
  slots := List.replicate cap none
  length := List.length_replicate
  once _ _ _ found _ := by cases List.eq_of_mem_replicate (List.mem_of_getElem? found)

def getTouchPointerId (table : ActiveTouches τ cap) (touch : τ) : ℕ :=
  match table.slots.findIdx? (· = some touch) with
  | some i => i + 1
  | none => 0

theorem getTouchPointerId_eq_zero_iff {table : ActiveTouches τ cap} {touch : τ} :
    table.getTouchPointerId touch = 0 ↔ some touch ∉ table.slots := by
  unfold getTouchPointerId
  cases found : table.slots.findIdx? (· = some touch) with
  | none =>
    rw [List.findIdx?_eq_none_iff] at found
    refine iff_of_true rfl fun mem => ?_
    have other := found _ mem
    simp at other
  | some i =>
    obtain ⟨bound, here, -⟩ := List.findIdx?_eq_some_iff_getElem.mp found
    rw [decide_eq_true_eq] at here
    exact iff_of_false i.succ_ne_zero fun absent => absent (here ▸ List.getElem_mem bound)

theorem getTouchPointerId_eq_succ_iff {table : ActiveTouches τ cap} {touch : τ} {i : ℕ} :
    table.getTouchPointerId touch = i + 1 ↔ table.slots[i]? = some (some touch) := by
  unfold getTouchPointerId
  cases found : table.slots.findIdx? (· = some touch) with
  | none =>
    rw [List.findIdx?_eq_none_iff] at found
    refine iff_of_false nofun fun here => ?_
    have other := found _ (List.mem_of_getElem? here)
    simp at other
  | some j =>
    obtain ⟨bound, here, -⟩ := List.findIdx?_eq_some_iff_getElem.mp found
    rw [decide_eq_true_eq] at here
    have slot : table.slots[j]? = some (some touch) := by rw [List.getElem?_eq_getElem bound, here]
    constructor
    · intro same
      obtain rfl := Nat.succ.inj same
      exact slot
    · intro there
      rw [table.once j i touch slot there]

/-- The loop over the table for an empty slot and a new touch. -/
def put (table : ActiveTouches τ cap) (i : ℕ) (touch : τ) (new : some touch ∉ table.slots) :
    ActiveTouches τ cap where
  slots := table.slots.set i (some touch)
  length := by rw [List.length_set, table.length]
  once := once_set table.once (fun _ same => Option.some.inj same ▸ new) i

def dropAll (cap : ℕ) (touch : τ) : ActiveTouches τ cap :=
  (empty τ cap).put 0 touch fun mem => by cases List.eq_of_mem_replicate mem

def addUITouch (table : ActiveTouches τ cap) (touch : τ) : ActiveTouches τ cap × ℕ :=
  let existing := table.getTouchPointerId touch
  if known : existing ≠ 0 then (table, existing)
  else
    match table.slots.findIdx? (· = none) with
    | some i =>
      (table.put i touch (getTouchPointerId_eq_zero_iff.mp (not_not.mp known)), i + 1)
    | none => (dropAll cap touch, 1)

def removeUITouch (table : ActiveTouches τ cap) (touch : τ) : ActiveTouches τ cap :=
  match table.slots.findIdx? (· = some touch) with
  | some i =>
    { slots := table.slots.set i none
      length := by rw [List.length_set, table.length]
      once := once_set table.once (fun _ same => by cases same) i }
  | none => table

/-- The touches of the table, in the order of their slots. -/
def active (table : ActiveTouches τ cap) : List τ := table.slots.reduceOption

end ActiveTouches

inductive UITouchPhase where
  | began
  | moved
  | stationary
  | ended
  | cancelled
  | regionEntered
  | regionMoved
  | regionExited
deriving DecidableEq

inductive TouchPointState where
  | kStatePressed
  | kStateMoved
  | kStateReleased
  | kStateCancelled
  | kStateStationary
deriving DecidableEq

/-- The state of a changed touch by its phase; the others are stationary. -/
def toWebTouchPointState : Option UITouchPhase → TouchPointState
  | none => .kStateStationary
  | some .began | some .regionEntered => .kStatePressed
  | some .moved | some .regionMoved => .kStateMoved
  | some .ended | some .regionExited => .kStateReleased
  | some .cancelled => .kStateCancelled
  | some .stationary => .kStateStationary

structure WebTouchPoint (τ : Type*) where
  touch : τ
  id : ℕ
  state : TouchPointState
deriving DecidableEq

inductive TouchEventType where
  | kTouchStart
  | kTouchMove
  | kTouchEnd
  | kTouchCancel
deriving DecidableEq

inductive DispatchType where
  | kBlocking
  | kEventNonBlocking
deriving DecidableEq

structure WebTouchEvent (τ : Type*) where
  type : TouchEventType
  dispatchType : DispatchType
  hovering : Bool
  touches : List (WebTouchPoint τ)
deriving DecidableEq

section Build

variable [DecidableEq τ]

/-- `changed` is the phase of a touch that was changed. -/
def createWebTouchPoint (table : ActiveTouches τ cap) (touch : τ) (changed : Option UITouchPhase) :
    WebTouchPoint τ :=
  ⟨touch, table.getTouchPointerId touch, toWebTouchPointState changed⟩

def registerTouch (type : TouchEventType) (touch : τ) (table : ActiveTouches τ cap) :
    ActiveTouches τ cap :=
  if type = .kTouchStart then (table.addUITouch touch).1 else table

def unregisterTouch (type : TouchEventType) (touch : τ) (table : ActiveTouches τ cap) :
    ActiveTouches τ cap :=
  if type = .kTouchCancel || type = .kTouchEnd then table.removeUITouch touch else table

def build (type : TouchEventType) (touch : τ) (phase : UITouchPhase)
    (table : ActiveTouches τ cap) : ActiveTouches τ cap × WebTouchEvent τ :=
  let table := registerTouch type touch table
  let first := createWebTouchPoint table touch (some phase)
  let table := unregisterTouch type touch table
  (table,
    { type := type
      dispatchType := if type = .kTouchCancel then .kEventNonBlocking else .kBlocking
      hovering := type = .kTouchEnd
      touches :=
        first :: (table.active.filter (· ≠ touch)).map (createWebTouchPoint table · none) })

end Build

namespace ActiveTouches

variable {table : ActiveTouches τ cap} {touch other : τ}

theorem active_nodup (table : ActiveTouches τ cap) : table.active.Nodup := by
  refine List.pairwise_filterMap.mpr (List.pairwise_iff_getElem.mpr ?_)
  rintro i j first second before a held b held' rfl
  have here : table.slots[i]? = some (some a) := by
    rw [List.getElem?_eq_getElem first]
    exact congrArg some held
  have there : table.slots[j]? = some (some a) := by
    rw [List.getElem?_eq_getElem second]
    exact congrArg some held'
  exact (Nat.ne_of_lt before) (table.once i j a here there)

theorem active_length_le (table : ActiveTouches τ cap) : table.active.length ≤ cap := by
  have shorter := List.reduceOption_length_le table.slots
  rwa [table.length] at shorter

theorem active_length_lt_iff : table.active.length < cap ↔ none ∈ table.slots := by
  have shorter := List.reduceOption_length_lt_iff (l := table.slots)
  rwa [table.length] at shorter

variable [DecidableEq τ]

theorem mem_active : touch ∈ table.active ↔ table.getTouchPointerId touch ≠ 0 := by
  rw [active, List.reduceOption_mem_iff, ne_eq, getTouchPointerId_eq_zero_iff, not_not]

theorem id_injective (same : table.getTouchPointerId touch = table.getTouchPointerId other)
    (registered : table.getTouchPointerId other ≠ 0) : touch = other := by
  obtain ⟨i, number⟩ := Nat.exists_eq_succ_of_ne_zero registered
  have first := getTouchPointerId_eq_succ_iff.mp (same.trans number)
  have second := getTouchPointerId_eq_succ_iff.mp number
  exact Option.some.inj (Option.some.inj (first.symm.trans second))

theorem id_congr {table' : ActiveTouches τ cap}
    (same : ∀ i : ℕ, table'.slots[i]? = some (some touch) ↔ table.slots[i]? = some (some touch)) :
    table'.getTouchPointerId touch = table.getTouchPointerId touch := by
  cases number : table.getTouchPointerId touch with
  | zero =>
    rw [getTouchPointerId_eq_zero_iff] at number ⊢
    intro mem
    obtain ⟨i, here⟩ := List.mem_iff_getElem?.mp mem
    exact number (List.mem_of_getElem? ((same i).mp here))
  | succ i =>
    rw [getTouchPointerId_eq_succ_iff] at number ⊢
    exact (same i).mpr number

theorem addUITouch_known (known : table.getTouchPointerId touch ≠ 0) :
    table.addUITouch touch = (table, table.getTouchPointerId touch) := dif_pos known

/-- The first free slot is taken; without one the table is dropped. -/
theorem addUITouch_absent (absent : table.getTouchPointerId touch = 0) :
    (∃ i new, table.slots[i]? = some none ∧
      table.addUITouch touch = (table.put i touch new, i + 1)) ∨
    (none ∉ table.slots ∧ table.addUITouch touch = (dropAll cap touch, 1)) := by
  rw [addUITouch, dif_neg (not_not.mpr absent)]
  cases found : table.slots.findIdx? (· = none) with
  | some i =>
    obtain ⟨bound, here, -⟩ := List.findIdx?_eq_some_iff_getElem.mp found
    rw [decide_eq_true_eq] at here
    refine .inl ⟨i, getTouchPointerId_eq_zero_iff.mp absent, ?_, rfl⟩
    rw [List.getElem?_eq_getElem bound, here]
  | none =>
    rw [List.findIdx?_eq_none_iff] at found
    exact .inr ⟨fun mem => by simpa using found none mem, rfl⟩

theorem put_id {i : ℕ} (new : some touch ∉ table.slots) (bound : i < table.slots.length) :
    (table.put i touch new).getTouchPointerId touch = i + 1 :=
  getTouchPointerId_eq_succ_iff.mpr (List.getElem?_set_self bound)

theorem addUITouch_own (positive : 0 < cap) (table : ActiveTouches τ cap) (touch : τ) :
    (table.addUITouch touch).1.getTouchPointerId touch = (table.addUITouch touch).2 ∧
      (table.addUITouch touch).2 ≠ 0 := by
  by_cases absent : table.getTouchPointerId touch = 0
  · obtain ⟨i, new, free, added⟩ | ⟨-, dropped⟩ := addUITouch_absent absent
    · have bound := (List.getElem?_eq_some_iff.mp free).1
      rw [added]
      exact ⟨put_id new bound, i.succ_ne_zero⟩
    · rw [dropped]
      have slot : 0 < (List.replicate cap (none : Option τ)).length := by
        rwa [List.length_replicate]
      exact ⟨getTouchPointerId_eq_succ_iff.mpr (List.getElem?_set_self slot), Nat.one_ne_zero⟩
  · rw [addUITouch_known absent]
    exact ⟨rfl, absent⟩

theorem addUITouch_other (room : table.getTouchPointerId touch ≠ 0 ∨ none ∈ table.slots)
    (apart : other ≠ touch) :
    (table.addUITouch touch).1.getTouchPointerId other = table.getTouchPointerId other := by
  by_cases absent : table.getTouchPointerId touch = 0
  · obtain ⟨i, new, free, added⟩ | ⟨full, -⟩ := addUITouch_absent absent
    · rw [added]
      refine id_congr fun j => getElem?_set_iff free ?_ nofun
      exact fun same => apart (Option.some.inj same).symm
    · exact absurd (room.resolve_left (not_not.mpr absent)) full
  · rw [addUITouch_known absent]

theorem dropAll_other (apart : other ≠ touch) :
    (dropAll cap touch).getTouchPointerId other = 0 := by
  rw [getTouchPointerId_eq_zero_iff]
  intro mem
  rcases List.mem_or_eq_of_mem_set mem with mem | same
  · cases List.eq_of_mem_replicate mem
  · exact apart (Option.some.inj same)

theorem removeUITouch_other (apart : other ≠ touch) :
    (table.removeUITouch touch).getTouchPointerId other = table.getTouchPointerId other := by
  unfold removeUITouch
  split
  · rename_i i found
    obtain ⟨bound, here, -⟩ := List.findIdx?_eq_some_iff_getElem.mp found
    rw [decide_eq_true_eq] at here
    have slot : table.slots[i]? = some (some touch) := by rw [List.getElem?_eq_getElem bound, here]
    refine id_congr fun j => getElem?_set_iff slot nofun ?_
    exact fun same => apart (Option.some.inj same).symm
  · rfl

theorem removeUITouch_active (table : ActiveTouches τ cap) (touch : τ) :
    (table.removeUITouch touch).active.filter (· ≠ touch) =
      table.active.filter (· ≠ touch) := by
  unfold removeUITouch
  split
  · rename_i i found
    obtain ⟨bound, here, -⟩ := List.findIdx?_eq_some_iff_getElem.mp found
    rw [decide_eq_true_eq] at here
    have split : table.slots = table.slots.take i ++ some touch :: table.slots.drop (i + 1) := by
      rw [← here, List.getElem_cons_drop, List.take_append_drop]
    change (table.slots.set i none).reduceOption.filter _ = table.slots.reduceOption.filter _
    rw [List.set_eq_take_append_cons_drop, if_pos bound, List.reduceOption_append,
      List.reduceOption_cons_of_none, ← List.reduceOption_append]
    conv_rhs => rw [split, List.reduceOption_append, List.reduceOption_cons_of_some]
    simp [List.reduceOption_append]
  · rfl

end ActiveTouches

section Events

variable [DecidableEq τ] {table : ActiveTouches τ cap} {touch : τ}

/-- The table of a whole event can be taken to be the one of its changed touch. -/
theorem build_touches (type : TouchEventType) (touch : τ) (phase : UITouchPhase)
    (table : ActiveTouches τ cap) : (build type touch phase table).2.touches =
      createWebTouchPoint (registerTouch type touch table) touch (some phase) ::
        ((registerTouch type touch table).active.filter (· ≠ touch)).map
          (createWebTouchPoint (registerTouch type touch table) · none) := by
  simp only [build, unregisterTouch]
  split
  · rw [ActiveTouches.removeUITouch_active]
    refine congrArg _ (List.map_congr_left fun other mem => ?_)
    have apart := of_decide_eq_true (List.mem_filter.mp mem).2
    rw [createWebTouchPoint, ActiveTouches.removeUITouch_other apart]
    rfl
  · rfl

theorem mem_build_touches {type : TouchEventType} {phase : UITouchPhase} {point : WebTouchPoint τ} :
    point ∈ (build type touch phase table).2.touches →
      point.id = (registerTouch type touch table).getTouchPointerId point.touch ∧
        (point.touch = touch ∨ point.touch ∈ (registerTouch type touch table).active) := by
  rw [build_touches, List.mem_cons, List.mem_map]
  rintro (rfl | ⟨other, mem, rfl⟩)
  · exact ⟨rfl, .inl rfl⟩
  · exact ⟨rfl, .inr (List.mem_filter.mp mem).1⟩

theorem build_ids_nodup (type : TouchEventType) (touch : τ) (phase : UITouchPhase)
    (table : ActiveTouches τ cap) :
    ((build type touch phase table).2.touches.map (·.id)).Nodup := by
  rw [build_touches, List.map_cons, List.map_map, List.nodup_cons]
  constructor
  · intro mem
    obtain ⟨other, mem, same⟩ := List.mem_map.mp mem
    obtain ⟨mem, apart⟩ := List.mem_filter.mp mem
    have number := ActiveTouches.mem_active.mp mem
    exact of_decide_eq_true apart (ActiveTouches.id_injective same.symm number).symm
  · refine ((ActiveTouches.active_nodup _).filter _).map_on fun first _ second mem same => ?_
    have number := ActiveTouches.mem_active.mp (List.mem_filter.mp mem).1
    exact ActiveTouches.id_injective same number

theorem build_length (type : TouchEventType) (touch : τ) (phase : UITouchPhase)
    (table : ActiveTouches τ cap) : (build type touch phase table).2.touches.length =
      ((registerTouch type touch table).active.filter (· ≠ touch)).length + 1 := by
  rw [build_touches, List.length_cons, List.length_map]

end Events

section Sequences

variable [DecidableEq τ]

/-- The table, the touches that are really down, and of those whose beginning arrived the
numbers that they got. -/
structure World (τ : Type*) (cap : ℕ) where
  table : ActiveTouches τ cap
  down : List τ
  registered : List (τ × ℕ)

inductive Event (τ : Type*) where
  | builds (type : TouchEventType) (touch : τ) (phase : UITouchPhase)
  | losesBegan (touch : τ)
  | losesEnd (touch : τ)
deriving DecidableEq

def atRest (τ : Type*) (cap : ℕ) : World τ cap := ⟨.empty τ cap, [], []⟩

/-- The numbers of the touches when an event is built, the new one among them. -/
def registeredAt (w : World τ cap) (type : TouchEventType) (touch : τ) : List (τ × ℕ) :=
  if type = .kTouchStart then (touch, (w.table.addUITouch touch).2) :: w.registered
  else w.registered

def step (w : World τ cap) : Event τ → World τ cap
  | .builds type touch phase =>
    let registered := registeredAt w type touch
    let left := type = .kTouchCancel ∨ type = .kTouchEnd
    { table := (build type touch phase w.table).1
      down :=
        if type = .kTouchStart then touch :: w.down
        else if left then w.down.filter (· ≠ touch) else w.down
      registered := if left then registered.filter (·.1 ≠ touch) else registered }
  | .losesBegan touch => { w with down := touch :: w.down }
  | .losesEnd touch =>
    { w with
      down := w.down.filter (· ≠ touch)
      registered := w.registered.filter (·.1 ≠ touch) }

/-- Touches begin while there is room for one more, and move and end while they are down. -/
def Happens (w : World τ cap) : Event τ → Prop
  | .builds .kTouchStart touch _ | .losesBegan touch => touch ∉ w.down ∧ w.down.length < cap
  | .builds _ touch _ | .losesEnd touch => touch ∈ w.down

instance (w : World τ cap) : (event : Event τ) → Decidable (Happens w event)
  | .builds .kTouchStart touch _ | .losesBegan touch =>
    inferInstanceAs (Decidable (touch ∉ w.down ∧ w.down.length < cap))
  | .builds .kTouchMove touch _ | .builds .kTouchEnd touch _ | .builds .kTouchCancel touch _
  | .losesEnd touch => inferInstanceAs (Decidable (touch ∈ w.down))

/-- The event fits and tells its touches apart, and lists each touch that is down and was
registered under the number that it got. -/
structure SoundEvent (w : World τ cap) (type : TouchEventType) (touch : τ)
    (event : WebTouchEvent τ) : Prop where
  within : event.touches.length ≤ cap
  distinct : (event.touches.map (·.id)).Nodup
  keeps : ∀ known ∈ registeredAt w type touch, known.2 ≠ 0 ∧
    (∃ point ∈ event.touches, point.touch = known.1) ∧
    ∀ point ∈ event.touches, point.touch = known.1 → point.id = known.2

def Sound (w : World τ cap) : Event τ → Prop
  | .builds type touch phase => SoundEvent w type touch (build type touch phase w.table).2
  | .losesBegan _ | .losesEnd _ => True

/-- The touch is in the table or a slot is free; or a touch begins while none that is down was
registered. -/
def HasSlot (w : World τ cap) : Event τ → Prop
  | .builds type touch _ => w.table.getTouchPointerId touch ≠ 0 ∨ none ∈ w.table.slots ∨
    type = .kTouchStart ∧ w.registered = []
  | .losesBegan _ | .losesEnd _ => True

def Kept (w : World τ cap) : Prop :=
  ∀ known ∈ w.registered, known.2 ≠ 0 ∧ w.table.getTouchPointerId known.1 = known.2

variable {w : World τ cap} {type : TouchEventType} {touch : τ} {phase : UITouchPhase}

theorem registeredAt_kept (positive : 0 < cap) (kept : Kept w)
    (slot : HasSlot w (.builds type touch phase)) :
    ∀ known ∈ registeredAt w type touch, known.2 ≠ 0 ∧
      (registerTouch type touch w.table).getTouchPointerId known.1 = known.2 := by
  intro known mem
  unfold registeredAt at mem
  unfold registerTouch
  split_ifs at mem ⊢ with starts
  · have own := ActiveTouches.addUITouch_own positive w.table touch
    rcases List.mem_cons.mp mem with rfl | mem
    · exact ⟨own.2, own.1⟩
    · obtain ⟨number, same⟩ := kept known mem
      refine ⟨number, ?_⟩
      by_cases here : known.1 = touch
      · rw [ActiveTouches.addUITouch_known (here ▸ same ▸ number)]
        exact same
      · have room : w.table.getTouchPointerId touch ≠ 0 ∨ none ∈ w.table.slots := by
          rcases slot with known | free | ⟨-, none⟩
          · exact .inl known
          · exact .inr free
          · rw [none] at mem
            cases mem
        rw [ActiveTouches.addUITouch_other room here, same]
  · exact kept known mem

theorem kept_step (positive : 0 < cap) (event : Event τ) (kept : Kept w) (slot : HasSlot w event) :
    Kept (step w event) := by
  cases event with
  | builds type touch phase =>
    have before := registeredAt_kept positive kept slot
    intro known mem
    simp only [step, build, unregisterTouch, Bool.or_eq_true, decide_eq_true_eq] at mem ⊢
    split_ifs at mem ⊢ with left
    · obtain ⟨mem, apart⟩ := List.mem_filter.mp mem
      rw [ActiveTouches.removeUITouch_other (of_decide_eq_true apart)]
      exact before known mem
    · exact before known mem
  | losesBegan touch => exact kept
  | losesEnd touch => exact fun known mem => kept known (List.mem_filter.mp mem).1

/-- A touch that begins without a slot makes the table drop one that is down. -/
theorem not_sound_of_dropped (kept : Kept w) (starts : type = .kTouchStart)
    (absent : w.table.getTouchPointerId touch = 0) (full : none ∉ w.table.slots)
    (live : w.registered ≠ []) : ¬ Sound w (.builds type touch phase) := by
  intro sound
  obtain ⟨known, mem⟩ := List.exists_mem_of_ne_nil _ live
  obtain ⟨number, same⟩ := kept known mem
  have apart : known.1 ≠ touch := fun here => number (same ▸ here ▸ absent)
  have listed : known ∈ registeredAt w type touch := by
    rw [registeredAt, if_pos starts]
    exact List.mem_cons_of_mem _ mem
  obtain ⟨point, mem, here⟩ := (sound.keeps known listed).2.1
  obtain ⟨-, changed | active⟩ := mem_build_touches mem
  · exact apart (here ▸ changed)
  · obtain ⟨i, new, free, -⟩ | ⟨-, dropped⟩ := ActiveTouches.addUITouch_absent absent
    · exact full (List.mem_of_getElem? free)
    · rw [registerTouch, if_pos starts, dropped, ActiveTouches.mem_active, here] at active
      exact active (ActiveTouches.dropAll_other apart)

theorem not_sound_of_overflow (later : type ≠ .kTouchStart)
    (absent : w.table.getTouchPointerId touch = 0) (full : none ∉ w.table.slots) :
    ¬ Sound w (.builds type touch phase) := by
  intro sound
  have within := sound.within
  have others : w.table.active.filter (· ≠ touch) = w.table.active := by
    refine List.filter_eq_self.mpr fun other mem => decide_eq_true ?_
    rintro rfl
    exact ActiveTouches.mem_active.mp mem absent
  have shorter := mt ActiveTouches.active_length_lt_iff.mp full
  rw [build_length, registerTouch, if_neg later, others] at within
  omega

theorem slot_of_sound (kept : Kept w) (sound : Sound w (.builds type touch phase)) :
    HasSlot w (.builds type touch phase) := by
  by_contra full
  simp only [HasSlot, not_or, not_not, not_and] at full
  obtain ⟨absent, full, live⟩ := full
  by_cases starts : type = .kTouchStart
  · exact not_sound_of_dropped kept starts absent full (live starts) sound
  · exact not_sound_of_overflow starts absent full sound

theorem build_within (positive : 0 < cap) (slot : HasSlot w (.builds type touch phase)) :
    (build type touch phase w.table).2.touches.length ≤ cap := by
  rw [build_length]
  have bound := (registerTouch type touch w.table).active_length_le
  by_cases mem : touch ∈ (registerTouch type touch w.table).active
  · have fewer : ((registerTouch type touch w.table).active.filter (· ≠ touch)).length <
        (registerTouch type touch w.table).active.length :=
      List.length_filter_lt_length_iff_exists.mpr ⟨touch, mem, by simp⟩
    omega
  · have absent := not_not.mp (mt ActiveTouches.mem_active.mpr mem)
    have later : type ≠ .kTouchStart := by
      intro starts
      rw [registerTouch, if_pos starts] at absent
      have own := ActiveTouches.addUITouch_own positive w.table touch
      exact own.2 (own.1 ▸ absent)
    have unchanged : registerTouch type touch w.table = w.table := if_neg later
    rw [unchanged] at absent bound ⊢
    have free : none ∈ w.table.slots := by
      rcases slot with known | free | ⟨starts, -⟩
      · exact absurd absent known
      · exact free
      · exact absurd starts later
    have shorter := ActiveTouches.active_length_lt_iff.mpr free
    have fewer := List.length_filter_le (· ≠ touch) w.table.active
    omega

theorem sound_of_slot (positive : 0 < cap) (kept : Kept w)
    (slot : HasSlot w (.builds type touch phase)) : Sound w (.builds type touch phase) where
  within := build_within positive slot
  distinct := build_ids_nodup type touch phase w.table
  keeps known mem := by
    obtain ⟨number, same⟩ := registeredAt_kept positive kept slot known mem
    refine ⟨number, ?_, fun point listed here => ?_⟩
    · by_cases here : known.1 = touch
      · rw [build_touches]
        exact ⟨_, List.mem_cons_self, here.symm⟩
      · have active := ActiveTouches.mem_active.mpr (same.trans_ne number)
        rw [build_touches]
        exact ⟨_, List.mem_cons_of_mem _ (List.mem_map_of_mem
          (List.mem_filter.mpr ⟨active, decide_eq_true here⟩)), rfl⟩
    · rw [(mem_build_touches listed).1, here, same]

theorem sound_iff (positive : 0 < cap) (kept : Kept w) (event : Event τ) :
    Sound w event ↔ HasSlot w event := by
  cases event with
  | builds type touch phase =>
    exact ⟨slot_of_sound kept, sound_of_slot positive kept⟩
  | losesBegan touch | losesEnd touch => rfl

/-- Over any sequence of events, whichever of them get lost, every event is sound exactly if
the touch of each has a slot. -/
theorem touches_sound_iff (positive : 0 < cap) (events : List (Event τ)) :
    Permitted Sound step (atRest τ cap) events ↔ Permitted HasSlot step (atRest τ cap) events :=
  permitted_congr_while (fun _ event kept slot => kept_step positive event kept slot)
    (fun _ event kept => sound_iff positive kept event) _ events nofun

/-- A touch that moves behind one whose end was lost. -/
theorem touches_sound_iff_secondTouch :
    Permitted Sound step (atRest ℕ 16) [.builds .kTouchStart 0 .began, .losesEnd 0,
        .builds .kTouchStart 1 .began, .builds .kTouchMove 1 .moved] ↔
      Permitted HasSlot step (atRest ℕ 16) [.builds .kTouchStart 0 .began, .losesEnd 0,
        .builds .kTouchStart 1 .began, .builds .kTouchMove 1 .moved] :=
  touches_sound_iff (by decide) _

/-- Of sixteen touches the ends are lost, and of the next one the beginning. -/
def strandedTouches : List (Event ℕ) :=
  (List.range 16).flatMap (fun touch => [.builds .kTouchStart touch .began, .losesEnd touch]) ++
    [.losesBegan 16, .builds .kTouchMove 16 .moved]

theorem strandedTouches_overflow : ¬ ∀ cap > 0, ∀ events : List (Event ℕ),
    Permitted Happens step (atRest ℕ cap) events →
    Permitted Sound step (atRest ℕ cap) events := by
  intro sound
  have last := (permitted_iff_each _ _).mp (sound 16 (by decide) strandedTouches
    (by decide +kernel)) (strandedTouches.dropLast) (.builds .kTouchMove 16 .moved)
    (by decide +kernel)
  have within := SoundEvent.within last
  revert within
  decide +kernel

end Sequences

end BlinkerFluid.TouchTable
