import BlinkerFluid.FolderTree
import BlinkerFluid.StepRun
import Mathlib.Data.List.InsertIdx

/-! The bookmark lists. Each list reads a copy of the whole tree when it is opened, edits its own
folder in the copy and stores the whole copy. A folder's list is pushed on top of the list it is
opened from, and only the list on top can be used. The tree edited at each list's folder is kept
beside the stored one. -/

namespace BlinkerFluid.BookmarkViews
open FolderTree StepRun

/-- The entries of a bookmark's dictionary besides its children. -/
structure Fields where
  title : Option String
  url : Option String
deriving DecidableEq

abbrev Bookmark := Node Fields

/-- A list, by the path of its folder and the copy of the tree whose rows it shows. -/
structure View where
  path : List ℕ
  root : List Bookmark

/-- The stored `BlinkBookmarks`, the lists with the top one first, and the tree with every edit
made in it. -/
structure State where
  blinkBookmarks : Option (List Bookmark)
  stack : List View
  edited : List Bookmark

def start (bookmarks : List Bookmark) : State := ⟨some bookmarks, [], bookmarks⟩

def State.bookmarks (s : State) : List Bookmark := s.blinkBookmarks.getD []

/-- The rows at a path, beside the tree in which a page on the path has been given an empty array
of children. -/
def bookmarkItemsInRoot :
    (path : List ℕ) → (root : List Bookmark) → Option (List Bookmark × List Bookmark)
  | [], items => some (items, items)
  | index :: path, items =>
    match items[index]? with
    | none => none
    | some folder =>
      let (fields, children) : Fields × List Bookmark := match folder with
        | .page fields => (fields, [])
        | .folder fields children => (fields, children)
      (bookmarkItemsInRoot path children).map fun (children, found) =>
        (items.set index (.folder fields children), found)

def showBookmarksAtPath (path : List ℕ) (s : State) : State :=
  match bookmarkItemsInRoot path s.bookmarks with
  | none => s
  | some (root, _) => { s with stack := ⟨path, root⟩ :: s.stack }

def View.bms (view : View) : List Bookmark := (itemsAt view.path view.root).getD []

/-- A row for `onAdd`: a folder without children or a page. -/
def newItem (folder : Bool) (name url : String) : Bookmark :=
  if folder then .folder ⟨some name, none⟩ [] else .page ⟨some name, some url⟩

inductive Edit where
  | remove (row : ℕ)
  | add (folder : Bool) (name url : String)

def Edit.apply : Edit → List Bookmark → List Bookmark
  | .remove row, items => items.eraseIdx row
  | .add folder name url, items => items ++ [newItem folder name url]

def Edit.fits : Edit → List Bookmark → Bool
  | .remove row, items => row < items.length
  | .add _ _ _, _ => true

inductive Event where
  | showBookmarks
  | select (row : ℕ)
  | back
  | edit (edit : Edit)

/-- `onSelect`: a folder opens its list, a page is loaded and the lists are dismissed. -/
def onSelect (row : ℕ) (s : State) : State :=
  match s.stack with
  | [] => s
  | view :: _ =>
    match view.bms[row]? with
    | none => s
    | some (.folder _ _) => showBookmarksAtPath (view.path ++ [row]) s
    | some (.page _) => { s with stack := [] }

/-- `onDelete` and the end of `onAdd`, with `saveBookmarks:`. -/
def onEdit (edit : Edit) (s : State) : State :=
  match s.stack with
  | [] => s
  | view :: below =>
    if edit.fits view.bms then
      let root := editAt view.path edit.apply view.root
      { blinkBookmarks := some root
        stack := { view with root } :: below
        edited := editAt view.path edit.apply s.edited }
    else s

def step (s : State) : Event → State
  | .showBookmarks => showBookmarksAtPath [] { s with stack := [] }
  | .select row => onSelect row s
  | .back => { s with stack := s.stack.tail }
  | .edit edit => onEdit edit s

/-- No edit is lost: the stored tree is the edited one. -/
def Faithful (s : State) : Prop := s.bookmarks = s.edited

/-- The list on top has the rows of its folder in the stored tree, up to a row it removes. -/
def UpToDate (s : State) : Event → Prop
  | .edit edit => ∀ view ∈ s.stack.head?, edit.fits view.bms = true →
      ∀ row : ℕ, edit ≠ .remove row →
        view.bms[row]? = ((itemsAt view.path s.bookmarks).getD [])[row]?
  | _ => True

section Views

/-- The tree differs from a list's copy in the rows of the list's folder only, and there pages
are pages and folders are folders. -/
def Tracks (stored : List Bookmark) (view : View) : Prop :=
  ∃ shown current, itemsAt view.path view.root = some shown ∧
    stored = editAt view.path (fun _ => current) view.root ∧
    current.map Node.isFolder = shown.map Node.isFolder

variable {path : List ℕ} {root stored found : List Bookmark} {view : View}

theorem bookmarkItemsInRoot_eq (leads : itemsAt path root = some found) :
    bookmarkItemsInRoot path root = some (root, found) := by
  induction path generalizing root with
  | nil =>
    rw [itemsAt, Option.some.injEq] at leads
    rw [bookmarkItemsInRoot, leads]
  | cons index path ih =>
    obtain ⟨fields, children, here, leads⟩ := itemsAt_cons leads
    obtain ⟨within, same⟩ := List.getElem?_eq_some_iff.mp here
    simp only [bookmarkItemsInRoot, here, ih leads, Option.map_some]
    rw [← same, List.set_getElem_self]

theorem tracks_self (leads : itemsAt path root = some found) : Tracks root ⟨path, root⟩ := by
  refine ⟨found, found, leads, ?_, rfl⟩
  calc root = editAt path id root := (editAt_id path root).symm
    _ = editAt path (fun _ => found) root := (editAt_eq_iff leads).mpr rfl

theorem tracks_deeper (tracks : Tracks stored view) (row : ℕ) (rest : List ℕ)
    (edit : List Bookmark → List Bookmark) :
    Tracks (editAt (view.path ++ row :: rest) edit stored) view := by
  obtain ⟨shown, current, leads, rfl, kinds⟩ := tracks
  refine ⟨shown, editAt (row :: rest) edit current, leads, ?_, ?_⟩
  · rw [editAt_append, editAt_editAt]
    rfl
  · rw [editAt_kinds, kinds]

theorem editAt_root (tracks : Tracks stored view) (edit : List Bookmark → List Bookmark) :
    ∃ rows, editAt view.path edit view.root = editAt view.path (fun _ => rows) stored := by
  obtain ⟨shown, current, leads, rfl, -⟩ := tracks
  refine ⟨edit shown, ?_⟩
  rw [editAt_editAt]
  exact (editAt_eq_iff leads).mpr rfl

theorem itemsAt_shown (tracks : Tracks stored view) {row : ℕ} {fields : Fields}
    {children : List Bookmark} (here : view.bms[row]? = some (.folder fields children)) :
    ∃ found, itemsAt (view.path ++ [row]) stored = some found := by
  obtain ⟨shown, current, leads, rfl, kinds⟩ := tracks
  rw [View.bms, leads, Option.getD_some] at here
  have kind : (current.map Node.isFolder)[row]? = some true := by
    rw [kinds, List.getElem?_map, here]
    rfl
  rw [List.getElem?_map, Option.map_eq_some_iff] at kind
  obtain ⟨node, there, folder⟩ := kind
  rw [itemsAt_append, itemsAt_editAt leads, Option.bind_some]
  cases node with
  | page fields => cases folder
  | folder fields children => exact ⟨children, by simp [itemsAt, there]⟩

/-- An edit comes to the same on two lists of rows that differ at most in a row it removes. -/
theorem apply_eq_iff (edit : Edit) (shown current : List Bookmark) :
    edit.apply shown = edit.apply current ↔
      ∀ row : ℕ, edit ≠ .remove row → shown[row]? = current[row]? := by
  cases edit with
  | add folder name url =>
    rw [Edit.apply, Edit.apply, List.append_cancel_right_eq, List.ext_getElem?_iff]
    simp
  | remove removed =>
    rw [Edit.apply, Edit.apply, List.ext_getElem?_iff]
    simp only [ne_eq, Edit.remove.injEq, List.getElem?_eraseIdx]
    constructor
    · intro same row other
      rcases Nat.lt_or_gt_of_ne other with after | before
      · have here := same (row - 1)
        rw [if_neg (by omega), if_neg (by omega), Nat.sub_add_cancel (by omega)] at here
        exact here
      · have here := same row
        rwa [if_pos before, if_pos before] at here
    · intro same row
      split_ifs with before
      · exact same row (by omega)
      · exact same (row + 1) (by omega)

end Views

section Steps

def Above (upper lower : View) : Prop := ∃ row rest, upper.path = lower.path ++ row :: rest

structure Stacked (s : State) : Prop where
  tracks : ∀ view ∈ s.stack, Tracks s.bookmarks view
  above : s.stack.Pairwise Above

variable {s : State}

theorem stacked_push (stacked : Stacked s) {path : List ℕ} {found : List Bookmark}
    (leads : itemsAt path s.bookmarks = some found)
    (above : ∀ view ∈ s.stack, Above ⟨path, s.bookmarks⟩ view) :
    Stacked (showBookmarksAtPath path s) := by
  rw [showBookmarksAtPath, bookmarkItemsInRoot_eq leads]
  exact ⟨List.forall_mem_cons.mpr ⟨tracks_self leads, stacked.tracks⟩,
    List.pairwise_cons.mpr ⟨above, stacked.above⟩⟩

theorem showBookmarksAtPath_trees (path : List ℕ) (s : State) :
    (showBookmarksAtPath path s).bookmarks = s.bookmarks ∧
      (showBookmarksAtPath path s).edited = s.edited := by
  unfold showBookmarksAtPath
  cases bookmarkItemsInRoot path s.bookmarks <;> exact ⟨rfl, rfl⟩

theorem onSelect_cases (row : ℕ) (s : State) :
    onSelect row s = s ∨ onSelect row s = { s with stack := [] } ∨
      ∃ view below fields children, s.stack = view :: below ∧
        view.bms[row]? = some (.folder fields children) ∧
        onSelect row s = showBookmarksAtPath (view.path ++ [row]) s := by
  cases stack : s.stack with
  | nil => exact .inl (by simp only [onSelect, stack])
  | cons view below =>
    cases here : view.bms[row]? with
    | none => exact .inl (by simp only [onSelect, stack, here])
    | some node =>
      cases node with
      | page fields => exact .inr (.inl (by simp only [onSelect, stack, here]))
      | folder fields children =>
        exact .inr (.inr ⟨view, below, fields, children, rfl, here,
          by simp only [onSelect, stack, here]⟩)

theorem onSelect_trees (row : ℕ) (s : State) :
    (onSelect row s).bookmarks = s.bookmarks ∧ (onSelect row s).edited = s.edited := by
  obtain same | same | ⟨view, -, -, -, -, -, same⟩ := onSelect_cases row s
  · rw [same]
    exact ⟨rfl, rfl⟩
  · rw [same]
    exact ⟨rfl, rfl⟩
  · rw [same]
    exact showBookmarksAtPath_trees _ s

theorem stacked_dismissed (s : State) : Stacked { s with stack := [] } :=
  ⟨fun _ mem => absurd mem List.not_mem_nil, List.Pairwise.nil⟩

theorem stacked_onSelect (stacked : Stacked s) (row : ℕ) : Stacked (onSelect row s) := by
  obtain same | same | ⟨view, below, fields, children, stack, here, same⟩ := onSelect_cases row s
  · rw [same]
    exact stacked
  · rw [same]
    exact stacked_dismissed s
  · have top : view ∈ s.stack := by simp [stack]
    obtain ⟨found, leads⟩ := itemsAt_shown (stacked.tracks view top) here
    rw [same]
    refine stacked_push stacked leads fun lower mem => ?_
    rw [stack, List.mem_cons] at mem
    rcases mem with rfl | mem
    · exact ⟨row, [], rfl⟩
    · have order := stacked.above
      rw [stack] at order
      obtain ⟨row', rest, path⟩ := (List.pairwise_cons.mp order).1 lower mem
      exact ⟨row', rest ++ [row], by simp [path]⟩

theorem onEdit_cases (edit : Edit) (s : State) :
    onEdit edit s = s ∧ (∀ view ∈ s.stack.head?, edit.fits view.bms = false) ∨
      ∃ view below, s.stack = view :: below ∧ edit.fits view.bms = true ∧
        onEdit edit s =
          { blinkBookmarks := some (editAt view.path edit.apply view.root)
            stack := ⟨view.path, editAt view.path edit.apply view.root⟩ :: below
            edited := editAt view.path edit.apply s.edited } := by
  unfold onEdit
  cases stack : s.stack with
  | nil => exact .inl ⟨rfl, fun _ none => by cases none⟩
  | cons view below =>
    by_cases fits : edit.fits view.bms = true
    · exact .inr ⟨view, below, rfl, fits, if_pos fits⟩
    · refine .inl ⟨if_neg fits, fun view' top => ?_⟩
      rw [List.head?_cons, Option.mem_some_iff] at top
      rw [← top]
      exact Bool.eq_false_iff.mpr fits

theorem stacked_onEdit (stacked : Stacked s) (edit : Edit) : Stacked (onEdit edit s) := by
  obtain ⟨same, -⟩ | ⟨view, below, stack, -, same⟩ := onEdit_cases edit s
  · rw [same]
    exact stacked
  · have tracks := stacked.tracks
    have above := stacked.above
    rw [stack] at tracks above
    obtain ⟨upper, order⟩ := List.pairwise_cons.mp above
    obtain ⟨own, others⟩ := List.forall_mem_cons.mp tracks
    rw [same]
    refine ⟨List.forall_mem_cons.mpr ⟨?_, fun lower mem => ?_⟩,
      List.pairwise_cons.mpr ⟨upper, order⟩⟩
    · obtain ⟨shown, -, leads, -, -⟩ := own
      exact tracks_self (itemsAt_editAt leads edit.apply)
    · obtain ⟨rows, stored⟩ := editAt_root own edit.apply
      obtain ⟨row, rest, path⟩ := upper lower mem
      change Tracks (editAt view.path edit.apply view.root) lower
      rw [stored, path]
      exact tracks_deeper (others lower mem) row rest _

theorem stacked_step (stacked : Stacked s) (event : Event) : Stacked (step s event) := by
  cases event with
  | showBookmarks =>
    have leads : itemsAt [] ({ s with stack := [] } : State).bookmarks = some s.bookmarks := rfl
    exact stacked_push (stacked_dismissed s) leads fun _ mem => absurd mem List.not_mem_nil
  | select row => exact stacked_onSelect stacked row
  | back =>
    exact ⟨fun view mem => stacked.tracks view (List.mem_of_mem_tail mem), stacked.above.tail⟩
  | edit edit => exact stacked_onEdit stacked edit

/-- Where no edit has been lost, an event loses none exactly if the list on top is up to date. -/
theorem faithful_step_iff (stacked : Stacked s) (faithful : Faithful s) (event : Event) :
    Faithful (step s event) ↔ UpToDate s event := by
  cases event with
  | showBookmarks =>
    obtain ⟨stored, edited⟩ := showBookmarksAtPath_trees [] { s with stack := [] }
    exact iff_of_true (stored.trans (Eq.trans faithful edited.symm)) trivial
  | select row =>
    obtain ⟨stored, edited⟩ := onSelect_trees row s
    exact iff_of_true (stored.trans (Eq.trans faithful edited.symm)) trivial
  | back => exact iff_of_true faithful trivial
  | edit edit =>
    obtain ⟨same, unfit⟩ | ⟨view, below, stack, fits, same⟩ := onEdit_cases edit s
    · rw [step, same]
      refine iff_of_true faithful fun view top fits => ?_
      rw [unfit view top] at fits
      cases fits
    · obtain ⟨shown, current, leads, stored, -⟩ :=
        stacked.tracks view (by rw [stack]; exact List.mem_cons_self)
      have rows : itemsAt view.path s.bookmarks = some current := by
        rw [stored, itemsAt_editAt leads]
      have bms : view.bms = shown := by rw [View.bms, leads, Option.getD_some]
      rw [bms] at fits
      have agree : UpToDate s (.edit edit) ↔
          ∀ row : ℕ, edit ≠ .remove row → shown[row]? = current[row]? := by
        simp only [UpToDate, stack, List.head?_cons, Option.mem_some_iff, forall_eq', rows,
          Option.getD_some, bms, imp_iff_right fits]
      rw [step, same, agree, ← apply_eq_iff, Faithful, State.bookmarks, Option.getD_some,
        ← (show s.bookmarks = s.edited from faithful), stored, editAt_editAt]
      exact editAt_eq_iff leads

end Steps

/-- No edit is lost in a run exactly if every edit is made in a list whose rows, apart from one
that it removes, are those of its folder in the stored tree. -/
theorem bookmarks_faithful_iff (bookmarks : List Bookmark) (events : List Event) :
    (∀ past, past <+: events → Faithful (past.foldl step (start bookmarks))) ↔
      Permitted UpToDate step (start bookmarks) events := by
  have preserved (s : State) (event : Event) (stacked : Stacked s) (_ : Faithful s)
      (_ : UpToDate s event) : Stacked (step s event) := stacked_step stacked event
  have each (s : State) (event : Event) (stacked : Stacked s) (faithful : Faithful s) :=
    faithful_step_iff stacked faithful event
  exact kept_iff_permitted preserved each _ events (stacked_dismissed (start bookmarks)) rfl

/-- A page added in a folder is lost when a page is added in the list the folder was opened from. -/
theorem childEdit_lost :
    ¬∀ bookmarks events past, past <+: events →
      Faithful (past.foldl step (start bookmarks)) := by
  intro always
  have faithful := always [.folder ⟨some "Work", none⟩ []]
    [.showBookmarks, .select 0, .edit (.add false "a" "https://a"), .back,
      .edit (.add false "b" "https://b")] _ (List.prefix_refl _)
  have counts := congrArg (fun tree => (itemsAt [0] tree).map List.length) faithful
  revert counts
  decide

end BlinkerFluid.BookmarkViews
