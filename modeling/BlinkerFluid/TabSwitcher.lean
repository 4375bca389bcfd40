import BlinkerFluid.TabWindows
import BlinkerFluid.ListMove

/-! The tab switcher. Its rows and the shell pointers behind them are a snapshot of the open
tabs, kept up by its own closes and moves only. A selection and the close of the current
tab go on in blocks that run after the switcher is gone. What the code does with shells
is recorded, so that a pointer to a closed shell is seen where it is used. -/

namespace BlinkerFluid.TabSwitcher
open WebAddress TabWindows ListMove

/-- `Shell::windows()`. A closed shell's name is not used again. -/
def openShells (s : Screen) : List ℕ := s.windows.map (·.shell)

/-- The shell that presents the switcher, the shells whose titles and previews the rows
show, and the pointers that the handlers index. -/
structure Switcher where
  presenter : ℕ
  rows : List ℕ
  shells : List ℕ
deriving DecidableEq

inductive Block where
  | onSelect (switcher : Switcher) (row : ℕ)
  | onAdd (presenter : ℕ)
  | handOff (replacement current : ℕ)
  | close (shell : ℕ)
deriving DecidableEq

/-- An action on a row and the shell it applies to, a use of a pointer, a shell closed with
the number of shells open before, and the rows after an action of the switcher. -/
inductive Deed where
  | acted (shown : Option ℕ) (applied : ℕ) (alive : Bool)
  | used (shell : ℕ) (alive : Bool)
  | closed (shell : ℕ) (before : ℕ)
  | ordered (rows windows : List ℕ)
deriving DecidableEq

structure State where
  screen : Screen
  switcher : Option Switcher
  blocks : List Block
  record : List Deed
deriving DecidableEq

def note (deeds : List Deed) (s : State) : State := { s with record := s.record ++ deeds }

def showTabSwitcher (presenter : ℕ) (s : State) : State :=
  { s with switcher := some ⟨presenter, openShells s.screen, openShells s.screen⟩ }

/-- The switcher goes, and the block runs when its view controller is dismissed. -/
def dismiss (block : Block) (s : State) : State :=
  { s with switcher := none, blocks := s.blocks ++ [block] }

def dropSwitcher (s : State) : State :=
  { s with switcher := s.switcher.filter fun switcher => isOpen s.screen switcher.presenter }

/-- `s->Close()`. -/
def closePointer (shell : ℕ) (s : State) : State :=
  s |> note [.used shell (isOpen s.screen shell), .closed shell s.screen.windows.length] |>
    (fun s => { s with screen := close shell s.screen }) |> dropSwitcher

def didSelectItem (switcher : Switcher) (row : ℕ) (s : State) : State :=
  if row < switcher.rows.length then dismiss (.onSelect switcher row) s else s

def add (switcher : Switcher) (s : State) : State := dismiss (.onAdd switcher.presenter) s

/-- The move of an entry of `Shell::windows()` and of the pointer beside it. -/
def onReorder (switcher : Switcher) (source target : ℕ) (s : State) : State :=
  if s.screen.windows.length ≤ source ∨ s.screen.windows.length ≤ target ∨
      switcher.shells.length ≤ source ∨ switcher.shells.length ≤ target then s
  else
    s |> note ((openShells s.screen)[source]?.toList.map fun moved =>
        .acted switcher.rows[source]? moved true) |>
      fun s => { s with
        screen := { s.screen with windows := moveEntry source target s.screen.windows }
        switcher := s.switcher.map fun switcher =>
          { switcher with shells := moveEntry source target switcher.shells } }

/-- The rows that an action of the switcher leaves, beside `Shell::windows()`. -/
def noteOrder (s : State) : State :=
  note (s.switcher.toList.map fun switcher => .ordered switcher.rows (openShells s.screen)) s

def moveItem (switcher : Switcher) (source target : ℕ) (s : State) : State :=
  if source = target ∨ switcher.rows.length ≤ source ∨ switcher.rows.length ≤ target then s
  else
    s |> onReorder switcher source target |>
      (fun s => { s with switcher := s.switcher.map fun switcher =>
        { switcher with rows := moveEntry source target switcher.rows } }) |> noteOrder

def closeCurrent (switcher : Switcher) (row : ℕ) (s : State) : State :=
  match otherShell s.screen switcher.presenter with
  | none => s
  | some replacement =>
    s |> note [.acted switcher.rows[row]? switcher.presenter
        (isOpen s.screen switcher.presenter)] |>
      dismiss (.handOff replacement switcher.presenter)

def Switcher.eraseRow (row : ℕ) (switcher : Switcher) : Switcher :=
  { switcher with
    rows := switcher.rows.eraseIdx row
    shells := switcher.shells.eraseIdx row }

/-- Another tab is closed at once, and its row goes. -/
def closeRow (switcher : Switcher) (row shell : ℕ) (s : State) : State :=
  s |> note [.acted switcher.rows[row]? shell (isOpen s.screen shell)] |>
    closePointer shell |>
    (fun s => { s with switcher := s.switcher.map (Switcher.eraseRow row) }) |> noteOrder

def closeTapped (switcher : Switcher) (row : ℕ) (s : State) : State :=
  match switcher.shells[row]? with
  | none => s
  | some shell =>
    if s.screen.windows.length ≤ 1 then noteOrder s
    else if shell = switcher.presenter then closeCurrent switcher row s
    else closeRow switcher row shell s

/-- The presenter may be gone when the handler runs; the selected shell is used all the
same. -/
def onSelect (guard : Footprint) (switcher : Switcher) (row : ℕ) (s : State) : State :=
  match switcher.shells[row]? with
  | none => s
  | some selected =>
    s |> note [.acted switcher.rows[row]? selected (isOpen s.screen selected),
        .used selected (isOpen s.screen selected)] |>
      fun s => if isOpen s.screen switcher.presenter then
        { s with screen := showTabWindow guard selected s.screen } else s

def onAdd (guard : Footprint) (presenter : ℕ) (homepage : GURL) (s : State) : State :=
  if isOpen s.screen presenter then
    { s with screen := openNewTab guard presenter homepage s.screen }
  else s

/-- The replacement is shown, and the current tab closed 0.15 seconds later. -/
def handOff (guard : Footprint) (replacement current : ℕ) (s : State) : State :=
  s |> note [.used replacement (isOpen s.screen replacement)] |>
    fun s => { s with
      screen := showTabWindow guard replacement s.screen
      blocks := s.blocks ++ [.close current] }

def run (guard : Footprint) (homepage : GURL) (s : State) : Block → State
  | .onSelect switcher row => onSelect guard switcher row s
  | .onAdd presenter => onAdd guard presenter homepage s
  | .handOff replacement current => handOff guard replacement current s
  | .close shell => closePointer shell s

def closeContents (shell : ℕ) (s : State) : State :=
  if isOpen s.screen shell then
    s |> note [.closed shell s.screen.windows.length] |>
      (fun s => { s with screen := TabWindows.closeContents shell s.screen }) |> dropSwitcher
  else s

inductive Event where
  | showTabSwitcher (presenter : ℕ)
  | didSelectItem (row : ℕ)
  | moveItem (source target : ℕ)
  | closeTapped (row : ℕ)
  | add
  | done
  | run (index : ℕ) (guard : Footprint) (homepage : GURL)
  | addNewContents (guard : Footprint) (source : ℕ) (contents : NewContents)
  | closeContents (shell : ℕ)
deriving DecidableEq

def inSwitcher (action : Switcher → State → State) (s : State) : State :=
  match s.switcher with
  | none => s
  | some switcher => action switcher s

def step (s : State) : Event → State
  | .showTabSwitcher presenter =>
    if s.switcher = none ∧ isOpen s.screen presenter then showTabSwitcher presenter s else s
  | .didSelectItem row => inSwitcher (fun switcher => didSelectItem switcher row) s
  | .moveItem source target => inSwitcher (fun switcher => moveItem switcher source target) s
  | .closeTapped row => inSwitcher (fun switcher => closeTapped switcher row) s
  | .add => inSwitcher add s
  | .done => { s with switcher := none }
  | .run index guard homepage =>
    match s.blocks[index]? with
    | none => s
    | some block => run guard homepage { s with blocks := s.blocks.eraseIdx index } block
  | .addNewContents guard source contents =>
    if isOpen s.screen source then
      { s with screen := addNewContents guard source contents s.screen }
    else s
  | .closeContents shell => closeContents shell s

def start (screen : Screen) : State := ⟨screen, none, [], []⟩

end BlinkerFluid.TabSwitcher
