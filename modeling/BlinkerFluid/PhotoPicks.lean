import BlinkerFluid.StepRun
import Mathlib.Data.List.Sort
import Mathlib.Data.List.Range

/-! `picker:didFinishPicking:`: every picked item is loaded by itself, the copies are collected
in the order in which the loads complete, and the dialog is finished from the main queue once
all loads have left the group. -/

namespace BlinkerFluid.PhotoPicks
open StepRun

/-- A file in a temporary directory. A directory is named by a new UUID, here by its number. -/
structure FileURL where
  directory : ℕ
  name : String
deriving DecidableEq

structure PHPickerResult where
  registeredTypeIdentifiers : List String

/-- What the completion handler of an item meets: the file it is given, if any, and whether the
directory can be made and the file copied. -/
structure Load where
  url : Option String
  createsDirectory : Bool
  copies : Bool

def temporaryURLForFilename (directory : ℕ) (filename : String) (created : Bool) :
    Option FileURL :=
  let safeName := if filename.isEmpty then "upload" else filename
  if created then some ⟨directory, safeName⟩ else none

structure State where
  /-- The results that the loop has been through. -/
  turn : ℕ
  /-- The items in the dispatch group. -/
  loading : List ℕ
  uuids : ℕ
  copiedURLs : List FileURL
  /-- `dispatch_group_notify` has been called. -/
  registered : Bool
  /-- Its block is in the main queue. -/
  queued : Bool
  /-- The arguments of the calls of `finishWithURLs:cancelled:`. -/
  finished : List (List FileURL × Bool)
  /-- A record of the copies with their items; nothing reads it. -/
  copied : List (ℕ × FileURL)
deriving DecidableEq

inductive Event where
  | iterate
  | complete (item : ℕ) (load : Load)
  | runMain

def start (results : List PHPickerResult) : State :=
  if results.isEmpty then ⟨0, [], 0, [], true, false, [([], true)], []⟩
  else ⟨0, [], 0, [], false, false, [], []⟩

/-- A turn of the loop over the results, and `dispatch_group_notify` behind the last one. -/
def iterate (results : List PHPickerResult) (s : State) : State :=
  if s.registered then s
  else
    match results[s.turn]? with
    | some result =>
      match result.registeredTypeIdentifiers.head? with
      | none => { s with turn := s.turn + 1 }
      | some _ => { s with turn := s.turn + 1, loading := s.loading ++ [s.turn] }
    | none => { s with registered := true, queued := s.loading.isEmpty }

/-- The handler up to `dispatch_group_leave`. -/
def handle (item : ℕ) (load : Load) (s : State) : State :=
  match load.url with
  | none => s
  | some filename =>
    match temporaryURLForFilename s.uuids filename load.createsDirectory with
    | none => { s with uuids := s.uuids + 1 }
    | some destination =>
      if load.copies then
        { s with
          uuids := s.uuids + 1
          copiedURLs := s.copiedURLs ++ [destination]
          copied := s.copied ++ [(item, destination)] }
      else { s with uuids := s.uuids + 1 }

def leave (item : ℕ) (s : State) : State :=
  { s with
    loading := s.loading.erase item
    queued := s.queued || s.registered && (s.loading.erase item).isEmpty }

def runMain (s : State) : State :=
  if s.queued then
    { s with queued := false, finished := s.finished ++ [(s.copiedURLs, s.copiedURLs.length == 0)] }
  else s

/-- A handler copies its file by itself and appends the copy under the lock: its completion
is the append, and what it did before no other handler sees. -/
def step (results : List PHPickerResult) (s : State) : Event → State
  | .iterate => iterate results s
  | .complete item load => leave item (handle item load s)
  | .runMain => runMain s

def UnderWay (s : State) : Event → Prop
  | .complete item _ => item ∈ s.loading
  | _ => True

instance (s : State) : (event : Event) → Decidable (UnderWay s event)
  | .iterate => isTrue trivial
  | .complete item _ => inferInstanceAs (Decidable (item ∈ s.loading))
  | .runMain => isTrue trivial

structure Settled (s : State) : Prop where
  registered : s.registered = true
  loaded : s.loading = []
  ran : s.queued = false

def Load.succeeds (load : Load) : Bool := load.url.isSome && load.createsDirectory && load.copies

/-- The items that are copied, in the order of their completions. -/
def successes (events : List Event) : List ℕ :=
  events.filterMap fun
    | .complete item load => if load.succeeds then some item else none
    | _ => none

def picked (results : List PHPickerResult) (s : State) : List (ℕ × FileURL) :=
  (List.range results.length).filterMap fun item => s.copied.find? (·.1 = item)

/-- The dialog is finished once, with the copies in the order of the picker's results, and as
cancelled if there is none. -/
def Faithful (results : List PHPickerResult) (s : State) : Prop :=
  s.finished = [((picked results s).map Prod.snd, decide (picked results s = []))]

instance (results : List PHPickerResult) (s : State) : Decidable (Faithful results s) :=
  inferInstanceAs (Decidable (_ = _))

section Collect

theorem handle_cases (item : ℕ) (load : Load) (s : State) :
    (load.succeeds = true ∧ ∃ destination : FileURL, destination.directory = s.uuids ∧
      handle item load s =
        { s with
          uuids := s.uuids + 1
          copiedURLs := s.copiedURLs ++ [destination]
          copied := s.copied ++ [(item, destination)] }) ∨
    (load.succeeds = false ∧ ∃ uuids, s.uuids ≤ uuids ∧ handle item load s = { s with uuids }) := by
  obtain ⟨url, created, copies⟩ := load
  cases url with
  | none => exact .inr ⟨rfl, s.uuids, Nat.le_refl _, rfl⟩
  | some filename =>
    cases created with
    | false => exact .inr ⟨rfl, s.uuids + 1, Nat.le_succ _, rfl⟩
    | true =>
      cases copies with
      | false => exact .inr ⟨rfl, s.uuids + 1, Nat.le_succ _, rfl⟩
      | true =>
        let safeName := if filename.isEmpty then "upload" else filename
        exact .inl ⟨rfl, ⟨s.uuids, safeName⟩, rfl, rfl⟩

/-- Each copy has its own item and its own directory. -/
structure Collected (results : List PHPickerResult) (s : State) : Prop where
  urls : s.copiedURLs = s.copied.map Prod.snd
  fresh : ∀ copy ∈ s.copied, copy.2.directory < s.uuids
  distinct : (s.copied.map Prod.snd).Nodup
  copiedOnce : (s.copied.map Prod.fst).Nodup
  left : ∀ copy ∈ s.copied, copy.1 ∉ s.loading
  copiedBelow : ∀ copy ∈ s.copied, copy.1 < s.turn
  loadingBelow : ∀ item ∈ s.loading, item < s.turn
  loadingOnce : s.loading.Nodup
  within : s.turn ≤ results.length

variable {results : List PHPickerResult} {s : State}

theorem collected_start : Collected results (start results) := by
  unfold start
  split_ifs <;>
  · constructor <;> simp

theorem iterate_cases (results : List PHPickerResult) (s : State) :
    iterate results s = s ∨
      (s.registered = false ∧
        ((s.turn < results.length ∧
          (iterate results s = { s with turn := s.turn + 1 } ∨
            iterate results s =
              { s with turn := s.turn + 1, loading := s.loading ++ [s.turn] })) ∨
          iterate results s = { s with registered := true, queued := s.loading.isEmpty })) := by
  unfold iterate
  split_ifs with registered
  · exact .inl rfl
  refine .inr ⟨Bool.eq_false_iff.mpr registered, ?_⟩
  cases here : results[s.turn]? with
  | none => exact .inr rfl
  | some result =>
    refine .inl ⟨(List.getElem?_eq_some_iff.mp here).1, ?_⟩
    cases type : result.registeredTypeIdentifiers.head? with
    | none => exact .inl (by simp only [type])
    | some _ => exact .inr (by simp only [type])

theorem collected_iterate (collected : Collected results s) :
    Collected results (iterate results s) := by
  obtain same | ⟨-, ⟨more, same | same⟩ | same⟩ := iterate_cases results s
  · rw [same]
    exact collected
  · rw [same]
    exact ⟨collected.urls, collected.fresh, collected.distinct, collected.copiedOnce,
      collected.left, fun copy mem => Nat.lt_succ_of_lt (collected.copiedBelow copy mem),
      fun item mem => Nat.lt_succ_of_lt (collected.loadingBelow item mem), collected.loadingOnce,
      more⟩
  · rw [same]
    refine ⟨collected.urls, collected.fresh, collected.distinct, collected.copiedOnce, ?_,
      fun copy mem => Nat.lt_succ_of_lt (collected.copiedBelow copy mem), ?_, ?_, more⟩
    · intro copy mem
      rw [List.mem_append, List.mem_singleton, not_or]
      exact ⟨collected.left copy mem, Nat.ne_of_lt (collected.copiedBelow copy mem)⟩
    · simp only [List.forall_mem_append, List.forall_mem_singleton]
      exact ⟨fun item mem => Nat.lt_succ_of_lt (collected.loadingBelow item mem),
        Nat.lt_succ_self _⟩
    · refine List.nodup_append.mpr ⟨collected.loadingOnce, List.nodup_singleton _, ?_⟩
      rintro item mem _ single rfl
      rw [List.mem_singleton] at single
      exact Nat.ne_of_lt (collected.loadingBelow item mem) single
  · rw [same]
    exact ⟨collected.urls, collected.fresh, collected.distinct, collected.copiedOnce,
      collected.left, collected.copiedBelow, collected.loadingBelow, collected.loadingOnce,
      collected.within⟩

theorem collected_complete (collected : Collected results s) {item : ℕ} (load : Load)
    (underWay : item ∈ s.loading) : Collected results (leave item (handle item load s)) := by
  have erased : ∀ other ∈ s.loading.erase item, other ∈ s.loading :=
    fun other mem => List.mem_of_mem_erase mem
  have gone : item ∉ s.loading.erase item := collected.loadingOnce.not_mem_erase
  obtain ⟨-, destination, new, same⟩ | ⟨-, uuids, later, same⟩ := handle_cases item load s
  · rw [same]
    have other : ∀ copy ∈ s.copied, copy.2 ≠ destination := by
      rintro copy mem rfl
      exact Nat.ne_of_lt (collected.fresh copy mem) new
    have otherItem : ∀ copy ∈ s.copied, copy.1 ≠ item := by
      rintro copy mem rfl
      exact collected.left copy mem underWay
    refine ⟨?_, ?_, ?_, ?_, ?_, ?_, ?_, collected.loadingOnce.erase item, collected.within⟩
    · simp only [leave, collected.urls, List.map_append, List.map_cons, List.map_nil]
    · simp only [leave, List.forall_mem_append, List.forall_mem_singleton, new]
      exact ⟨fun copy mem => Nat.lt_succ_of_lt (collected.fresh copy mem), Nat.lt_succ_self _⟩
    · simp only [leave, List.map_append, List.map_cons, List.map_nil]
      refine List.nodup_append.mpr ⟨collected.distinct, List.nodup_singleton _, ?_⟩
      rintro _ mapped _ single rfl
      obtain ⟨copy, mem, rfl⟩ := List.mem_map.mp mapped
      exact other copy mem (List.mem_singleton.mp single)
    · simp only [leave, List.map_append, List.map_cons, List.map_nil]
      refine List.nodup_append.mpr ⟨collected.copiedOnce, List.nodup_singleton _, ?_⟩
      rintro _ mapped _ single rfl
      obtain ⟨copy, mem, rfl⟩ := List.mem_map.mp mapped
      exact otherItem copy mem (List.mem_singleton.mp single)
    · simp only [leave, List.forall_mem_append, List.forall_mem_singleton]
      exact ⟨fun copy mem still => collected.left copy mem (erased _ still), gone⟩
    · simp only [leave, List.forall_mem_append, List.forall_mem_singleton]
      exact ⟨collected.copiedBelow, collected.loadingBelow item underWay⟩
    · exact fun other mem => collected.loadingBelow other (erased other mem)
  · rw [same]
    exact ⟨collected.urls, fun copy mem => Nat.lt_of_lt_of_le (collected.fresh copy mem) later,
      collected.distinct, collected.copiedOnce,
      fun copy mem still => collected.left copy mem (erased _ still), collected.copiedBelow,
      fun other mem => collected.loadingBelow other (erased other mem),
      collected.loadingOnce.erase item, collected.within⟩

theorem collected_step (collected : Collected results s) :
    (event : Event) → UnderWay s event → Collected results (step results s event)
  | .iterate, _ => collected_iterate collected
  | .complete _ load, underWay => collected_complete collected load underWay
  | .runMain, _ => by
    unfold step runMain
    split_ifs
    · exact ⟨collected.urls, collected.fresh, collected.distinct, collected.copiedOnce,
        collected.left, collected.copiedBelow, collected.loadingBelow, collected.loadingOnce,
        collected.within⟩
    · exact collected

end Collect

section Finish

/-- The block is queued when the last load has left the group, and it runs once. -/
structure Grouped (s : State) : Prop where
  early : s.registered = false ∨ s.loading ≠ [] → s.queued = false ∧ s.finished = []
  late : s.registered = true → s.loading = [] →
    s.queued = true ∧ s.finished = [] ∨
      s.queued = false ∧ s.finished = [(s.copiedURLs, s.copiedURLs.length == 0)]

variable {results : List PHPickerResult} {s : State}

theorem grouped_start : Grouped (start results) := by
  unfold start
  split_ifs <;>
  · constructor <;> simp

theorem grouped_iterate (grouped : Grouped s) : Grouped (iterate results s) := by
  obtain same | ⟨open_group, ⟨-, same | same⟩ | same⟩ := iterate_cases results s
  · rw [same]
    exact grouped
  · rw [same]
    exact ⟨grouped.early, grouped.late⟩
  · rw [same]
    refine ⟨fun _ => grouped.early (.inl open_group), fun registered => ?_⟩
    rw [open_group] at registered
    cases registered
  · obtain ⟨-, unfinished⟩ := grouped.early (.inl open_group)
    rw [same]
    refine ⟨?_, fun _ none => .inl ⟨by simpa using none, unfinished⟩⟩
    rintro (registered | some_loading)
    · cases registered
    · exact ⟨by simpa using some_loading, unfinished⟩

theorem grouped_leave (idle : s.queued = false) (unfinished : s.finished = []) (item : ℕ) :
    Grouped (leave item s) := by
  refine ⟨?_, fun registered none => .inl ⟨?_, unfinished⟩⟩
  · rintro (registered | some_loading)
    · have open_group : s.registered = false := registered
      rw [leave]
      exact ⟨by simp only [idle, open_group, Bool.false_and, Bool.or_self], unfinished⟩
    · rw [leave] at some_loading ⊢
      have filled : (s.loading.erase item).isEmpty = false := by simpa using some_loading
      exact ⟨by simp only [idle, filled, Bool.and_false, Bool.or_self], unfinished⟩
  · rw [leave] at registered none ⊢
    simp only at registered none
    simp only [registered, none, List.isEmpty_nil, Bool.and_self, Bool.or_true]

theorem grouped_complete (grouped : Grouped s) {item : ℕ} (load : Load)
    (underWay : item ∈ s.loading) : Grouped (leave item (handle item load s)) := by
  obtain ⟨idle, unfinished⟩ := grouped.early (.inr (List.ne_nil_of_mem underWay))
  obtain ⟨-, destination, -, same⟩ | ⟨-, uuids, -, same⟩ := handle_cases item load s <;>
  · rw [same]
    exact grouped_leave (by exact idle) (by exact unfinished) item

theorem grouped_runMain (grouped : Grouped s) : Grouped (runMain s) := by
  unfold runMain
  split_ifs with queued
  · have late : s.registered = true ∧ s.loading = [] := by
      by_contra early
      have open_group : s.registered = false ∨ s.loading ≠ [] := by
        rwa [not_and_or, Bool.not_eq_true] at early
      rw [(grouped.early open_group).1] at queued
      cases queued
    obtain ⟨-, unfinished⟩ | ⟨idle, -⟩ := grouped.late late.1 late.2
    · refine ⟨fun early => ?_, fun _ _ => .inr ⟨rfl, by rw [unfinished, List.nil_append]⟩⟩
      rcases early with registered | some_loading
      · rw [late.1] at registered
        cases registered
      · exact absurd late.2 some_loading
    · rw [idle] at queued
      cases queued
  · exact grouped

theorem grouped_step (grouped : Grouped s) :
    (event : Event) → UnderWay s event → Grouped (step results s event)
  | .iterate, _ => grouped_iterate grouped
  | .complete _ load, underWay => grouped_complete grouped load underWay
  | .runMain, _ => grouped_runMain grouped

theorem copied_run (results : List PHPickerResult) (events : List Event) (s : State) :
    (events.foldl (step results) s).copied.map Prod.fst =
      s.copied.map Prod.fst ++ successes events := by
  induction events generalizing s with
  | nil => simp [successes]
  | cons event events ih =>
    rw [List.foldl_cons, ih]
    cases event with
    | iterate =>
      obtain same | ⟨-, ⟨-, same | same⟩ | same⟩ := iterate_cases results s <;>
        simp [step, same, successes]
    | complete item load =>
      obtain ⟨succeeds, destination, -, same⟩ | ⟨fails, uuids, -, same⟩ := handle_cases item load s
      · simp [step, leave, same, successes, succeeds]
      · simp [step, leave, same, successes, fails]
    | runMain =>
      simp only [step, runMain]
      split_ifs <;> simp [successes]

end Finish

section Order

variable {results : List PHPickerResult} {s : State}

theorem item_of_find {copies : List (ℕ × FileURL)} {item : ℕ} {copy : ℕ × FileURL}
    (found : copies.find? (·.1 = item) = some copy) : copy.1 = item := by
  simpa using List.find?_some found

theorem mem_picked (collected : Collected results s) (copy : ℕ × FileURL) :
    copy ∈ picked results s ↔ copy ∈ s.copied := by
  simp only [picked, List.mem_filterMap, List.mem_range]
  constructor
  · rintro ⟨item, -, found⟩
    exact List.mem_of_find?_eq_some found
  · intro mem
    refine ⟨copy.1, Nat.lt_of_lt_of_le (collected.copiedBelow copy mem) collected.within, ?_⟩
    cases found : s.copied.find? (·.1 = copy.1) with
    | none =>
      have absent := List.find?_eq_none.mp found copy mem
      exact absurd (decide_eq_true rfl) absent
    | some other =>
      have same := item_of_find found
      have inj := List.inj_on_of_nodup_map collected.copiedOnce
      rw [inj (List.mem_of_find?_eq_some found) mem same]

theorem picked_ordered (results : List PHPickerResult) (s : State) :
    (picked results s).Pairwise fun a b => a.1 < b.1 := by
  refine List.Pairwise.filterMap _ ?_ List.pairwise_lt_range
  intro item item' before copy found copy' found'
  rwa [item_of_find found, item_of_find found']

theorem nodup_of_ordered {copies : List (ℕ × FileURL)}
    (ordered : copies.Pairwise fun a b => a.1 < b.1) : copies.Nodup :=
  ordered.imp fun before same => Nat.ne_of_lt before (congrArg Prod.fst same)

theorem picked_perm (collected : Collected results s) : (picked results s).Perm s.copied :=
  (List.perm_ext_iff_of_nodup (nodup_of_ordered (picked_ordered results s))
    collected.distinct.of_map).mpr (mem_picked collected)

theorem eq_of_map_eq {α β : Type*} {f : α → β} {l m : List α}
    (inj : ∀ a ∈ l, ∀ b ∈ m, f a = f b → a = b) (same : l.map f = m.map f) : l = m := by
  induction l generalizing m with
  | nil => exact (List.map_eq_nil_iff.mp same.symm).symm
  | cons a l ih =>
    cases m with
    | nil => cases same
    | cons b m =>
      obtain ⟨head, tail⟩ := List.cons_eq_cons.mp same
      rw [inj a List.mem_cons_self b List.mem_cons_self head,
        ih (fun a mem b mem' => inj a (List.mem_cons_of_mem _ mem) b (List.mem_cons_of_mem _ mem'))
          tail]

theorem picked_urls_iff (collected : Collected results s) :
    s.copied.map Prod.snd = (picked results s).map Prod.snd ↔
      (s.copied.map Prod.fst).Pairwise (· < ·) := by
  rw [List.pairwise_map]
  constructor
  · intro same
    have inj := List.inj_on_of_nodup_map collected.distinct
    have copies : s.copied = picked results s := eq_of_map_eq
      (fun a mem b mem' => inj mem ((mem_picked collected b).mp mem')) same
    rw [copies]
    exact picked_ordered results s
  · intro ordered
    rw [(picked_perm collected).symm.eq_of_pairwise
      (fun a b _ _ before after => absurd after (Nat.lt_asymm before)) ordered
      (picked_ordered results s)]

end Order

/-- Once all loads are over, the dialog has been finished with the copies in the order of the
picker's results exactly if the loads that end with a copy completed in this order. -/
theorem picker_faithful_iff (results : List PHPickerResult) (events : List Event)
    (loads : Permitted UnderWay (step results) (start results) events)
    (settled : Settled (events.foldl (step results) (start results))) :
    Faithful results (events.foldl (step results) (start results)) ↔
      (successes events).Pairwise (· < ·) := by
  have keepsCollected : ∀ s event, Collected results s → UnderWay s event →
      Collected results (step results s event) := fun _ event held => collected_step held event
  have keepsGrouped : ∀ s event, Grouped s → UnderWay s event → Grouped (step results s event) :=
    fun _ event held => grouped_step held event
  have collected := invariant_run keepsCollected _ events collected_start loads
  have grouped := invariant_run keepsGrouped _ events grouped_start loads
  have recorded := copied_run results events (start results)
  generalize events.foldl (step results) (start results) = s at *
  have none : (start results).copied = [] := by
    unfold start
    split_ifs <;> rfl
  rw [none, List.map_nil, List.nil_append] at recorded
  obtain ⟨queued, -⟩ | ⟨-, once⟩ := grouped.late settled.registered settled.loaded
  · rw [settled.ran] at queued
    cases queued
  have empty : (s.copied.length == 0) = decide (picked results s = []) := by
    rw [Bool.eq_iff_iff, beq_iff_eq, decide_eq_true_iff, ← List.length_eq_zero_iff,
      (picked_perm collected).length_eq]
  rw [Faithful, once, collected.urls, List.length_map, empty, ← recorded,
    ← picked_urls_iff collected]
  simp

def exampleResults : List PHPickerResult := [⟨["public.jpeg"]⟩, ⟨[]⟩, ⟨["public.heic"]⟩]

/-- The loads of the two photos, complete in a given order. -/
def exampleEvents (first second : ℕ) : List Event :=
  [.iterate, .iterate, .iterate, .iterate,
    .complete first ⟨some "IMG.jpeg", true, true⟩, .complete second ⟨some "IMG.jpeg", true, true⟩,
    .runMain]

theorem picker_faithful_iff_example :
    Faithful exampleResults
      ((exampleEvents 0 2).foldl (step exampleResults) (start exampleResults)) :=
  (picker_faithful_iff exampleResults (exampleEvents 0 2) (by decide)
    ⟨by decide, by decide, by decide⟩).mpr (by decide)

/-- The second photo is copied before the first one. -/
theorem laterPhoto_first :
    ¬∀ results events, Permitted UnderWay (step results) (start results) events →
      Settled (events.foldl (step results) (start results)) →
      Faithful results (events.foldl (step results) (start results)) := by
  intro always
  have faithful := always exampleResults (exampleEvents 2 0) (by decide)
    ⟨by decide, by decide, by decide⟩
  revert faithful
  decide

end BlinkerFluid.PhotoPicks
