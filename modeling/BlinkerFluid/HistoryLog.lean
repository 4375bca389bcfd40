import BlinkerFluid.ByteString
import BlinkerFluid.StepRun
import Mathlib.Data.List.Sort

/-! The browsing history. Tabs report their URLs into the stored list, an open history list
deletes rows of its own copy and stores the whole copy, and Clear Browsing Data removes the
stored list. The log beside it is what these operations come to one after the other. -/

namespace BlinkerFluid.HistoryLog
open ByteString StepRun

/-- A stored URL. The number tells the visits of one URL apart; the code does not have it. -/
structure Visit where
  url : Bytes
  number : ℕ
deriving DecidableEq

structure State where
  blinkHistory : Option (List Visit)
  /-- The copies that open history lists hold. -/
  lists : List (List Visit)
  log : List Visit
  visits : ℕ
deriving DecidableEq

def numbered : List Bytes → List Visit
  | [] => []
  | url :: urls => ⟨url, urls.length⟩ :: numbered urls

def start (urls : List Bytes) : State := ⟨some (numbered urls), [], numbered urls, urls.length⟩

def isStartPage (url : Bytes) : Bool := url.isEmpty || url = "about:blank".toList

def isWebAddress (url : Bytes) : Bool :=
  "http://".toList.isPrefixOf url || "https://".toList.isPrefixOf url

def State.history (s : State) : List Visit := s.blinkHistory.getD []

/-- A visit at the front of a list that is cut to 250 entries. -/
def insertVisit (visit : Visit) (history : List Visit) : List Visit :=
  let history := visit :: history
  if 250 < history.length then history.take 250 else history

def setURL (isPrivate : Bool) (visit : Visit) (s : State) : State :=
  if !isPrivate && !isStartPage visit.url && isWebAddress visit.url then
    if s.history.head?.map Visit.url ≠ some visit.url then
      { s with blinkHistory := some (insertVisit visit s.history) }
    else s
  else s

/-- `onDelete` of an open list. -/
def deleteRow (list row : ℕ) (s : State) : State :=
  match s.lists[list]? with
  | none => s
  | some history =>
    if row < history.length then
      { s with
        blinkHistory := some (history.eraseIdx row)
        lists := s.lists.set list (history.eraseIdx row) }
    else s

def shownVisit (list row : ℕ) (s : State) : Option Visit :=
  s.lists[list]?.bind fun history : List Visit => history[row]?

inductive Event where
  | report (isPrivate : Bool) (url : Bytes)
  | showHistory
  | delete (list row : ℕ)
  | clear

def record (s : State) : Event → List Visit
  | .report isPrivate url =>
    if isPrivate = false ∧ isWebAddress url = true ∧ s.log.head?.map Visit.url ≠ some url then
      (⟨url, s.visits⟩ :: s.log).take 250
    else s.log
  | .showHistory => s.log
  | .delete list row => s.log.filter (some · ≠ shownVisit list row s)
  | .clear => []

def happen (s : State) : Event → State
  | .report isPrivate url => { setURL isPrivate ⟨url, s.visits⟩ s with visits := s.visits + 1 }
  | .showHistory => { s with lists := s.lists ++ [s.history] }
  | .delete list row => deleteRow list row s
  | .clear => { s with blinkHistory := none }

def step (s : State) (event : Event) : State := { happen s event with log := record s event }

def Faithful (s : State) : Prop := s.history = s.log

/-- Apart from the row that is deleted, the open list shows what is stored. -/
def UpToDate (s : State) : Event → Prop
  | .delete list row => ∀ history, s.lists[list]? = some history →
      ∀ shown, history[row]? = some shown →
        ∀ visit, visit ≠ shown → (visit ∈ history ↔ visit ∈ s.history)
  | _ => True

section Order

/-- The visits of a list are numbered downwards, from below a bound. -/
structure Ordered (bound : ℕ) (visits : List Visit) : Prop where
  downwards : visits.Pairwise fun a b => b.number < a.number
  below : ∀ visit ∈ visits, visit.number < bound

variable {bound : ℕ} {visits more : List Visit}

theorem Ordered.sublist (ordered : Ordered bound visits) (less : more.Sublist visits) :
    Ordered bound more :=
  ⟨ordered.downwards.sublist less, fun visit mem => ordered.below visit (less.subset mem)⟩

theorem Ordered.later (ordered : Ordered bound visits) : Ordered (bound + 1) visits :=
  ⟨ordered.downwards, fun visit mem => Nat.lt_succ_of_lt (ordered.below visit mem)⟩

theorem Ordered.cons (ordered : Ordered bound visits) (url : Bytes) :
    Ordered (bound + 1) (⟨url, bound⟩ :: visits) := by
  refine ⟨List.pairwise_cons.mpr ⟨ordered.below, ordered.downwards⟩, ?_⟩
  intro visit mem
  rcases List.mem_cons.mp mem with rfl | mem
  · exact Nat.lt_succ_self _
  · exact ordered.later.below visit mem

theorem Ordered.nodup (ordered : Ordered bound visits) : visits.Nodup :=
  ordered.downwards.imp fun before same => Nat.ne_of_gt before (congrArg Visit.number same)

theorem Ordered.eq_iff (ordered : Ordered bound visits) (ordered' : Ordered bound more) :
    visits = more ↔ ∀ visit, visit ∈ visits ↔ visit ∈ more := by
  refine ⟨fun same visit => by rw [same], fun same => ?_⟩
  have perm := (List.perm_ext_iff_of_nodup ordered.nodup ordered'.nodup).mpr same
  exact perm.eq_of_pairwise (fun a b _ _ before after => absurd after (Nat.lt_asymm before))
    ordered.downwards ordered'.downwards

theorem Ordered.mem_eraseIdx (ordered : Ordered bound visits) {row : ℕ} {shown visit : Visit}
    (here : visits[row]? = some shown) :
    visit ∈ visits.eraseIdx row ↔ visit ≠ shown ∧ visit ∈ visits := by
  rw [List.mem_eraseIdx_iff_getElem?]
  constructor
  · rintro ⟨row', other, there⟩
    refine ⟨?_, List.mem_of_getElem? there⟩
    rintro rfl
    have within := (List.getElem?_eq_some_iff.mp there).1
    exact other ((List.getElem?_inj within ordered.nodup).mp (there.trans here.symm))
  · rintro ⟨other, mem⟩
    obtain ⟨row', there⟩ := List.mem_iff_getElem?.mp mem
    refine ⟨row', ?_, there⟩
    rintro rfl
    exact other (Option.some.inj (there.symm.trans here))

theorem numbered_ordered (urls : List Bytes) : Ordered urls.length (numbered urls) := by
  induction urls with
  | nil => exact ⟨List.Pairwise.nil, fun visit mem => absurd mem List.not_mem_nil⟩
  | cons url urls ih => exact ih.cons url

end Order

section Steps

/-- The stored list and the copies of the open lists are ordered. -/
structure Numbered (s : State) : Prop where
  stored : Ordered s.visits s.history
  shown : ∀ history ∈ s.lists, Ordered s.visits history

variable {s : State}

theorem not_startPage {url : Bytes} (web : isWebAddress url = true) : isStartPage url = false := by
  rw [Bool.eq_false_iff]
  intro page
  rw [isStartPage, Bool.or_eq_true, List.isEmpty_iff, decide_eq_true_iff] at page
  rcases page with rfl | rfl <;>
  · revert web
    decide

/-- A tab of the open web reports a URL other than the newest one. -/
def Adds (isPrivate : Bool) (url : Bytes) (history : List Visit) : Prop :=
  isPrivate = false ∧ isWebAddress url = true ∧ history.head?.map Visit.url ≠ some url

instance (isPrivate : Bool) (url : Bytes) (history : List Visit) :
    Decidable (Adds isPrivate url history) := inferInstanceAs (Decidable (_ ∧ _))

theorem insertVisit_eq (visit : Visit) (history : List Visit) :
    insertVisit visit history = (visit :: history).take 250 := by
  simp only [insertVisit]
  split_ifs with long
  · rfl
  · exact (List.take_of_length_le (Nat.le_of_not_lt long)).symm

theorem setURL_history (isPrivate : Bool) (visit : Visit) (s : State) :
    (setURL isPrivate visit s).history =
      if Adds isPrivate visit.url s.history then (visit :: s.history).take 250
      else s.history := by
  by_cases adds : Adds isPrivate visit.url s.history
  · obtain ⟨normal, web, new⟩ := adds
    have recorded : (!isPrivate && !isStartPage visit.url && isWebAddress visit.url) = true := by
      rw [normal, not_startPage web, web]
      rfl
    rw [setURL, if_pos recorded, if_pos new, if_pos ⟨normal, web, new⟩, State.history,
      Option.getD_some, insertVisit_eq]
  · rw [if_neg adds, setURL]
    split_ifs with recorded new
    · simp only [Bool.and_eq_true, Bool.not_eq_true'] at recorded
      exact absurd ⟨recorded.1.1, recorded.2, new⟩ adds
    · rfl
    · rfl

theorem setURL_lists (isPrivate : Bool) (visit : Visit) (s : State) :
    (setURL isPrivate visit s).lists = s.lists := by
  unfold setURL
  split_ifs <;> rfl

theorem deleteRow_cases (list row : ℕ) (s : State) :
    (shownVisit list row s = none ∧ deleteRow list row s = s) ∨
      ∃ history shown, s.lists[list]? = some history ∧ history[row]? = some shown ∧
        shownVisit list row s = some shown ∧
        deleteRow list row s =
          { s with
            blinkHistory := some (history.eraseIdx row)
            lists := s.lists.set list (history.eraseIdx row) } := by
  unfold deleteRow shownVisit
  cases opened : s.lists[list]? with
  | none => exact .inl ⟨rfl, rfl⟩
  | some history =>
    by_cases within : row < history.length
    · refine .inr ⟨history, history[row], rfl, List.getElem?_eq_getElem within, ?_, if_pos within⟩
      exact List.getElem?_eq_getElem within
    · exact .inl ⟨List.getElem?_eq_none (Nat.le_of_not_lt within), if_neg within⟩

theorem numbered_start (urls : List Bytes) : Numbered (start urls) :=
  ⟨numbered_ordered urls, fun _ mem => absurd mem List.not_mem_nil⟩

theorem numbered_step (known : Numbered s) (event : Event) : Numbered (step s event) := by
  cases event with
  | report isPrivate url =>
    refine ⟨?_, fun history mem => ?_⟩
    · change Ordered (s.visits + 1) (setURL isPrivate ⟨url, s.visits⟩ s).history
      rw [setURL_history]
      split_ifs
      · exact (known.stored.cons url).sublist (List.take_sublist _ _)
      · exact known.stored.later
    · change history ∈ (setURL isPrivate ⟨url, s.visits⟩ s).lists at mem
      rw [setURL_lists] at mem
      exact (known.shown history mem).later
  | showHistory =>
    refine ⟨known.stored, List.forall_mem_append.mpr ⟨known.shown, ?_⟩⟩
    exact List.forall_mem_singleton.mpr known.stored
  | delete list row =>
    obtain ⟨-, same⟩ | ⟨history, shown, opened, -, -, same⟩ := deleteRow_cases list row s
    · rw [step, happen, same]
      exact ⟨known.stored, known.shown⟩
    · rw [step, happen, same]
      have fewer : Ordered s.visits (history.eraseIdx row) :=
        (known.shown history (List.mem_of_getElem? opened)).sublist (List.eraseIdx_sublist _ _)
      refine ⟨fewer, fun other mem => ?_⟩
      rcases List.mem_or_eq_of_mem_set mem with mem | rfl
      · exact known.shown other mem
      · exact fewer
  | clear => exact ⟨⟨List.Pairwise.nil, fun visit mem => absurd mem List.not_mem_nil⟩, known.shown⟩

/-- Where the stored list is the log, an event keeps it so exactly if no list deletes a row while
its other rows differ from what is stored. -/
theorem faithful_step_iff (known : Numbered s) (faithful : Faithful s) (event : Event) :
    Faithful (step s event) ↔ UpToDate s event := by
  cases event with
  | report isPrivate url =>
    refine iff_of_true ?_ trivial
    change (setURL isPrivate ⟨url, s.visits⟩ s).history = record s (.report isPrivate url)
    rw [setURL_history, record, ← faithful]
    rfl
  | showHistory => exact iff_of_true faithful trivial
  | delete list row =>
    obtain ⟨hidden, same⟩ | ⟨history, shown, opened, here, showing, same⟩ :=
      deleteRow_cases list row s
    · refine iff_of_true ?_ fun history opened shown here => ?_
      · rw [step, happen, same, record, hidden]
        simpa [Faithful, State.history] using faithful
      · rw [shownVisit, opened, Option.bind_some, here] at hidden
        cases hidden
    · have copy := known.shown history (List.mem_of_getElem? opened)
      have rest : Ordered s.visits (history.eraseIdx row) :=
        copy.sublist (List.eraseIdx_sublist _ _)
      have others : Ordered s.visits (s.history.filter (some · ≠ some shown)) :=
        known.stored.sublist List.filter_sublist
      rw [step, happen, same, record, showing, ← faithful]
      change history.eraseIdx row = s.history.filter (some · ≠ some shown) ↔ _
      rw [rest.eq_iff others]
      simp only [UpToDate, opened, Option.some.injEq, forall_eq', here, copy.mem_eraseIdx here,
        List.mem_filter, ne_eq, decide_eq_true_eq]
      refine forall_congr' fun visit => ?_
      tauto
  | clear => exact iff_of_true rfl trivial

end Steps

/-- The stored list is the log throughout a run exactly if, whenever an open list deletes a row,
its other rows are what is stored besides. -/
theorem history_faithful_iff (urls : List Bytes) (events : List Event) :
    (∀ past, past <+: events → Faithful (past.foldl step (start urls))) ↔
      Permitted UpToDate step (start urls) events := by
  have preserved (s : State) (event : Event) (known : Numbered s) (_ : Faithful s)
      (_ : UpToDate s event) : Numbered (step s event) := numbered_step known event
  have each (s : State) (event : Event) (known : Numbered s) (faithful : Faithful s) :=
    faithful_step_iff known faithful event
  exact kept_iff_permitted preserved each _ events (numbered_start urls) rfl

/-- A page that is reported while the history list is open is lost with the next deletion. -/
theorem report_lost :
    ¬∀ urls events past, past <+: events →
      (past.foldl step (start urls)).history.map Visit.url =
        (past.foldl step (start urls)).log.map Visit.url := by
  intro always
  have same := always ["http://a".toList]
    [.showHistory, .report false "http://b".toList, .delete 0 0] _ (List.prefix_refl _)
  revert same
  decide

end BlinkerFluid.HistoryLog
