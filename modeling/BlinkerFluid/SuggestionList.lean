import BlinkerFluid.StepRun
import BlinkerFluid.SuggestTerm

/-! The list of suggestions under the search field of the start page. A change of the text hides
the list or starts a task; the handler of a finished task queues a block on the main thread, and
the block shows its titles if no request was made since. -/

namespace BlinkerFluid.SuggestionList
open ByteString ProxyChoice SuggestTerm StepRun

inductive Json where
  | string (text : Text)
  | array (entries : List Json)
  | other

def Json.string? : Json → Option Text
  | .string text => some text
  | _ => none

/-- A request for suggestions. The code keeps its number; the text is in its URL only. -/
structure Request where
  generation : ℕ
  term : Text
deriving DecidableEq

/-- What the handler of a task queues on the main thread. -/
structure Block where
  request : Request
  titles : List Text

structure State where
  text : Text
  settings : SuggestSettings
  suggestionTitles : Option (List Text)
  hidden : Bool
  suggestionTask : Option Request
  suggestionGeneration : ℕ
  /-- The tasks that have neither finished nor been cancelled. -/
  running : List Request
  /-- The handlers of finished tasks, with the JSON that was received, if any. -/
  handlers : List (Request × Option Json)
  mainQueue : List Block
  /-- The text of the last change of the text, if it sent a request and nothing was hidden since.
  The code does not have it. -/
  asked : Option Text
  /-- The text that the titles were requested for. The code does not have it. -/
  shownFor : Option Text

def start (settings : SuggestSettings) : State :=
  ⟨[], settings, none, true, none, 0, [], [], [], none, none⟩

/-- `[_suggestionTask cancel]`, which is too late for a finished task. -/
def State.cancelled (s : State) : List Request := s.running.filter (some · ≠ s.suggestionTask)

def hideSuggestions (s : State) : State :=
  { s with
    suggestionTitles := none
    running := s.cancelled
    suggestionTask := none
    hidden := true
    asked := none }

def sendRequest (s : State) : State :=
  let request := ⟨s.suggestionGeneration + 1, s.text⟩
  { s with
    suggestionGeneration := s.suggestionGeneration + 1
    running := s.cancelled ++ [request]
    suggestionTask := some request
    asked := some s.text }

def searchTextChanged (urlWithString : Bytes → Bool) (s : State) : State :=
  match suggestionURL urlWithString s.settings s.text with
  | none => hideSuggestions s
  | some _ => sendRequest s

def titlesOf (entries : List Json) : List Text := (entries.filterMap Json.string?).take 6

def parsedTitles : Option Json → Option (List Text)
  | some (.array (_ :: .array entries :: _)) => some (titlesOf entries)
  | _ => none

def showSuggestions (block : Block) (s : State) : State :=
  { s with
    suggestionTitles := some block.titles
    hidden := block.titles.isEmpty
    shownFor := some block.request.term }

inductive Event where
  | edit (text : Text)
  | changeSettings (settings : SuggestSettings)
  | hide
  | enter
  | select (row : ℕ)
  | respond (task : ℕ) (json : Option Json)
  | handle (handler : ℕ)
  | runBlock

def respond (task : ℕ) (json : Option Json) (s : State) : State :=
  match s.running[task]? with
  | none => s
  | some request =>
    { s with running := s.running.eraseIdx task, handlers := s.handlers ++ [(request, json)] }

def handle (handler : ℕ) (s : State) : State :=
  match s.handlers[handler]? with
  | none => s
  | some (request, json) =>
    let s := { s with handlers := s.handlers.eraseIdx handler }
    match parsedTitles json with
    | none => s
    | some titles => { s with mainQueue := s.mainQueue ++ [⟨request, titles⟩] }

def runBlock (s : State) : State :=
  match s.mainQueue with
  | [] => s
  | block :: blocks =>
    let s := { s with mainQueue := blocks }
    if block.request.generation ≠ s.suggestionGeneration then s else showSuggestions block s

/-- A tap on a row, as far as the list is concerned. -/
def select (row : ℕ) (s : State) : State :=
  if row < (s.suggestionTitles.getD []).length then { hideSuggestions s with text := [] } else s

def step (urlWithString : Bytes → Bool) (s : State) : Event → State
  | .edit text => searchTextChanged urlWithString { s with text }
  | .changeSettings settings => { s with settings }
  | .hide => hideSuggestions s
  | .enter => hideSuggestions { s with text := [] }
  | .select row => select row s
  | .respond task json => respond task json s
  | .handle handler => handle handler s
  | .runBlock => runBlock s

def Shown (s : State) : Prop := s.hidden = false ∧ s.suggestionTitles.getD [] ≠ []

/-- What is shown was requested for the last change of the text, and nothing is shown if that
change or a later call has hidden the suggestions. -/
def Fresh (s : State) : Prop := Shown s → s.asked.isSome ∧ s.shownFor = s.asked

/-- A request is sent only while no suggestions for another text are shown, and the block of the
last request runs only while nothing has been hidden since. -/
def Timely (urlWithString : Bytes → Bool) (s : State) : Event → Prop
  | .edit text => (suggestionURL urlWithString s.settings text).isSome → Shown s →
      s.shownFor = some text
  | .runBlock => ∀ block, s.mainQueue.head? = some block →
      block.request.generation = s.suggestionGeneration → block.titles ≠ [] → s.asked.isSome
  | _ => True

instance (s : State) : Decidable (Shown s) := inferInstanceAs (Decidable (_ ∧ _))

instance (s : State) : Decidable (Fresh s) := inferInstanceAs (Decidable (_ → _))

section Requests

def State.pending (s : State) : List Request :=
  s.running ++ s.handlers.map Prod.fst ++ s.mainQueue.map Block.request

/-- No request is numbered beyond the last one, and the last one was for the text that was asked
for, unless the suggestions were hidden since. -/
def Known (s : State) : Prop :=
  ∀ request ∈ s.pending, request.generation ≤ s.suggestionGeneration ∧
    (request.generation = s.suggestionGeneration →
      ∀ text, s.asked = some text → request.term = text)

variable {urlWithString : Bytes → Bool} {s s' : State}

theorem known_start (settings : SuggestSettings) : Known (start settings) :=
  fun _ mem => absurd mem List.not_mem_nil

theorem Known.fewer (known : Known s) (less : s'.pending ⊆ s.pending)
    (generation : s'.suggestionGeneration = s.suggestionGeneration)
    (asked : s'.asked = s.asked ∨ s'.asked = none) : Known s' := by
  intro request mem
  obtain ⟨bound, last⟩ := known request (less mem)
  rw [generation]
  refine ⟨bound, fun same text found => ?_⟩
  rcases asked with kept | hidden
  · exact last same text (kept ▸ found)
  · rw [hidden] at found
    cases found

theorem cancelled_subset (s : State) : s.cancelled ⊆ s.running :=
  fun _ mem => (List.mem_filter.mp mem).1

theorem pending_subset (s : State) {running : List Request}
    {handlers : List (Request × Option Json)} {blocks : List Block} (tasks : running ⊆ s.running)
    (handled : handlers ⊆ s.handlers) (queued : blocks ⊆ s.mainQueue) :
    running ++ handlers.map Prod.fst ++ blocks.map Block.request ⊆ s.pending := by
  intro request mem
  simp only [State.pending, List.mem_append] at mem ⊢
  exact mem.imp (Or.imp (@tasks request) (@List.map_subset _ _ _ _ _ handled request))
    (@List.map_subset _ _ _ _ _ queued request)

theorem known_hideSuggestions (known : Known s) : Known (hideSuggestions s) :=
  known.fewer (pending_subset s (cancelled_subset s) (List.Subset.refl _) (List.Subset.refl _)) rfl
    (.inr rfl)

theorem known_sendRequest (known : Known s) : Known (sendRequest s) := by
  intro request mem
  have either : request = ⟨s.suggestionGeneration + 1, s.text⟩ ∨ request ∈ s.pending := by
    simp only [State.pending, sendRequest, List.mem_append, List.mem_singleton] at mem ⊢
    have running := @cancelled_subset s request
    tauto
  rcases either with rfl | old
  · exact ⟨Nat.le_refl _, fun _ text found => Option.some.inj found⟩
  · have bound := (known request old).1
    refine ⟨Nat.le_succ_of_le bound, fun same => ?_⟩
    change request.generation = s.suggestionGeneration + 1 at same
    omega

theorem known_searchTextChanged (known : Known s) :
    Known (searchTextChanged urlWithString s) := by
  unfold searchTextChanged
  split
  · exact known_hideSuggestions known
  · exact known_sendRequest known

theorem known_respond (known : Known s) (task : ℕ) (json : Option Json) :
    Known (respond task json s) := by
  unfold respond
  split
  · exact known
  · rename_i request found
    refine known.fewer (fun other mem => ?_) rfl (.inl rfl)
    have running : other ∈ s.running.eraseIdx task → other ∈ s.running := List.mem_of_mem_eraseIdx
    have finished : request ∈ s.running := List.mem_of_getElem? found
    simp only [State.pending, List.map_append, List.map_singleton, List.mem_append,
      List.mem_singleton] at mem ⊢
    rcases mem with (left | handling | rfl) | queued
    · exact .inl (.inl (running left))
    · exact .inl (.inr handling)
    · exact .inl (.inl finished)
    · exact .inr queued

theorem known_handle (known : Known s) (handler : ℕ) : Known (handle handler s) := by
  have others : s.handlers.eraseIdx handler ⊆ s.handlers := fun _ => List.mem_of_mem_eraseIdx
  unfold handle
  split
  · exact known
  · rename_i request json found
    have handled : request ∈ s.handlers.map Prod.fst :=
      List.mem_map.mpr ⟨_, List.mem_of_getElem? found, rfl⟩
    simp only
    split
    · exact known.fewer (pending_subset s (List.Subset.refl _) others (List.Subset.refl _)) rfl
        (.inl rfl)
    · refine known.fewer (fun other mem => ?_) rfl (.inl rfl)
      simp only [State.pending, List.map_append, List.map_singleton, List.mem_append,
        List.mem_singleton] at mem ⊢
      rcases mem with (running | handling) | queued | rfl
      · exact .inl (.inl running)
      · exact .inl (.inr (List.map_subset _ others handling))
      · exact .inr queued
      · exact .inl (.inr handled)

theorem runBlock_cases (s : State) :
    (s.mainQueue = [] ∧ runBlock s = s) ∨ ∃ block blocks, s.mainQueue = block :: blocks ∧
      ((block.request.generation ≠ s.suggestionGeneration ∧
          runBlock s = { s with mainQueue := blocks }) ∨
        (block.request.generation = s.suggestionGeneration ∧
          runBlock s = showSuggestions block { s with mainQueue := blocks })) := by
  unfold runBlock
  cases queue : s.mainQueue with
  | nil => exact .inl ⟨rfl, rfl⟩
  | cons block blocks =>
    refine .inr ⟨block, blocks, rfl, ?_⟩
    by_cases same : block.request.generation = s.suggestionGeneration
    · exact .inr ⟨same, if_neg fun other => other same⟩
    · exact .inl ⟨same, if_pos same⟩

theorem known_runBlock (known : Known s) : Known (runBlock s) := by
  obtain ⟨-, same⟩ | ⟨block, blocks, queue, one⟩ := runBlock_cases s
  · rwa [same]
  · have later : blocks ⊆ s.mainQueue := queue ▸ List.subset_cons_self _ _
    have less := pending_subset s (List.Subset.refl _) (List.Subset.refl _) later
    obtain ⟨-, same⟩ | ⟨-, same⟩ := one
    · rw [same]
      exact known.fewer less rfl (.inl rfl)
    · rw [same]
      exact known.fewer less rfl (.inl rfl)

theorem known_step (known : Known s) (event : Event) : Known (step urlWithString s event) := by
  cases event with
  | edit text => exact known_searchTextChanged known
  | changeSettings settings => exact known
  | hide => exact known_hideSuggestions known
  | enter => exact known_hideSuggestions (s := { s with text := [] }) known
  | select row =>
    change Known (select row s)
    unfold select
    split_ifs
    · exact known_hideSuggestions known
    · exact known
  | respond task json => exact known_respond known task json
  | handle handler => exact known_handle known handler
  | runBlock => exact known_runBlock known

end Requests

section Fresh

variable {urlWithString : Bytes → Bool} {s : State}

theorem fresh_of_hidden (hidden : s.hidden = true) : Fresh s := by
  rintro ⟨visible, -⟩
  rw [hidden] at visible
  cases visible

theorem fresh_searchTextChanged_iff :
    Fresh (searchTextChanged urlWithString s) ↔
      ((suggestionURL urlWithString s.settings s.text).isSome → Shown s →
        s.shownFor = some s.text) := by
  unfold searchTextChanged
  cases suggestionURL urlWithString s.settings s.text with
  | none => exact iff_of_true (fresh_of_hidden rfl) nofun
  | some url =>
    exact ⟨fun fresh _ shown => (fresh shown).2, fun same shown => ⟨rfl, same rfl shown⟩⟩

theorem fresh_runBlock_iff (known : Known s) (fresh : Fresh s) :
    Fresh (runBlock s) ↔ Timely urlWithString s .runBlock := by
  obtain ⟨empty, same⟩ | ⟨block, blocks, queue, one⟩ := runBlock_cases s
  · rw [same]
    refine iff_of_true fresh fun block first => ?_
    rw [empty] at first
    cases first
  · simp only [Timely, queue, List.head?_cons, Option.some.injEq, forall_eq']
    obtain ⟨other, same⟩ | ⟨last, same⟩ := one
    · rw [same]
      exact iff_of_true fresh fun last => absurd last other
    · have mem : block.request ∈ s.pending := by
        rw [State.pending, queue]
        simp
      have term := (known _ mem).2 last
      rw [same]
      constructor
      · intro fresh' _ titles
        exact (fresh' ⟨List.isEmpty_eq_false_iff.mpr titles, titles⟩).1
      · rintro asked ⟨-, titles⟩
        obtain ⟨text, found⟩ := Option.isSome_iff_exists.mp (asked last titles)
        refine ⟨asked last titles, ?_⟩
        change some block.request.term = s.asked
        rw [term text found, found]

theorem fresh_step_iff (known : Known s) (fresh : Fresh s) (event : Event) :
    Fresh (step urlWithString s event) ↔ Timely urlWithString s event := by
  cases event with
  | edit text => exact fresh_searchTextChanged_iff (s := { s with text })
  | changeSettings settings => exact iff_of_true fresh trivial
  | hide => exact iff_of_true (fresh_of_hidden rfl) trivial
  | enter => exact iff_of_true (fresh_of_hidden rfl) trivial
  | select row =>
    refine iff_of_true ?_ trivial
    change Fresh (select row s)
    unfold select
    split_ifs
    · exact fresh_of_hidden rfl
    · exact fresh
  | respond task json =>
    refine iff_of_true ?_ trivial
    change Fresh (respond task json s)
    unfold respond
    split <;> exact fresh
  | handle handler =>
    refine iff_of_true ?_ trivial
    change Fresh (handle handler s)
    unfold handle
    split
    · exact fresh
    · simp only
      split <;> exact fresh
  | runBlock => exact fresh_runBlock_iff known fresh

end Fresh

/-- No stale suggestions are shown throughout a run exactly if every request is sent while none are
shown for another text, and no block of the last request runs after something was hidden. -/
theorem suggestions_fresh_iff (urlWithString : Bytes → Bool) (settings : SuggestSettings)
    (events : List Event) :
    (∀ past, past <+: events → Fresh (past.foldl (step urlWithString) (start settings))) ↔
      Permitted (Timely urlWithString) (step urlWithString) (start settings) events := by
  have preserved (s : State) (event : Event) (known : Known s) (_ : Fresh s)
      (_ : Timely urlWithString s event) : Known (step urlWithString s event) :=
    known_step known event
  have each (s : State) (event : Event) (known : Known s) (fresh : Fresh s) :
      Fresh (step urlWithString s event) ↔ Timely urlWithString s event :=
    fresh_step_iff known fresh event
  exact kept_iff_permitted preserved each _ events (known_start settings) (fresh_of_hidden rfl)

/-- A response is shown although the suggestions were hidden before its block ran. -/
theorem hidden_shown :
    ¬∀ urlWithString settings events past, past <+: events →
      Fresh (past.foldl (step urlWithString) (start settings)) := by
  intro always
  have fresh := always (fun _ => true) exampleSuggestSettings
    [.edit "ab".toList, .respond 0 (some (.array [.string "ab".toList,
      .array [.string "abc".toList]])), .handle 0, .hide, .runBlock] _ (List.prefix_refl _)
  revert fresh
  decide

end BlinkerFluid.SuggestionList
