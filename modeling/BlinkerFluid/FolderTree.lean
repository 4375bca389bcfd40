import Mathlib.Data.List.Forall2

/-! Ordered trees of pages and folders. A folder is reached by a path of row numbers; an edit
replaces the rows of one folder. -/

namespace BlinkerFluid.FolderTree

inductive Node (α : Type*) where
  | page (fields : α)
  | folder (fields : α) (children : List (Node α))

variable {α : Type*}

def Node.isFolder : Node α → Bool
  | .page _ => false
  | .folder _ _ => true

def itemsAt : List ℕ → List (Node α) → Option (List (Node α))
  | [], items => some items
  | row :: path, items =>
    match items[row]? with
    | some (.folder _ children) => itemsAt path children
    | _ => none

def editAt : List ℕ → (List (Node α) → List (Node α)) → List (Node α) → List (Node α)
  | [], edit, items => edit items
  | row :: path, edit, items =>
    match items[row]? with
    | some (.folder fields children) => items.set row (.folder fields (editAt path edit children))
    | _ => items

variable {path deeper : List ℕ} {edit edit' : List (Node α) → List (Node α)}
  {items found : List (Node α)}

theorem itemsAt_cons {row : ℕ} (leads : itemsAt (row :: path) items = some found) :
    ∃ fields children, items[row]? = some (.folder fields children) ∧
      itemsAt path children = some found := by
  cases here : items[row]? with
  | none => simp [itemsAt, here] at leads
  | some node =>
    cases node with
    | page fields => simp [itemsAt, here] at leads
    | folder fields children => exact ⟨fields, children, rfl, by simpa [itemsAt, here] using leads⟩

theorem editAt_cons {row : ℕ} {fields : α} {children : List (Node α)}
    (here : items[row]? = some (.folder fields children)) (path : List ℕ)
    (edit : List (Node α) → List (Node α)) :
    editAt (row :: path) edit items =
      items.set row (.folder fields (editAt path edit children)) := by
  simp [editAt, here]

theorem itemsAt_append (path deeper : List ℕ) (items : List (Node α)) :
    itemsAt (path ++ deeper) items = (itemsAt path items).bind (itemsAt deeper) := by
  induction path generalizing items with
  | nil => rfl
  | cons row path ih =>
    simp only [List.cons_append, itemsAt]
    cases items[row]? with
    | none => rfl
    | some node =>
      cases node with
      | page fields => rfl
      | folder fields children => exact ih children

theorem editAt_append (path deeper : List ℕ) (edit : List (Node α) → List (Node α))
    (items : List (Node α)) :
    editAt (path ++ deeper) edit items = editAt path (editAt deeper edit) items := by
  induction path generalizing items with
  | nil => rfl
  | cons row path ih =>
    simp only [List.cons_append, editAt]
    cases items[row]? with
    | none => rfl
    | some node =>
      cases node with
      | page fields => rfl
      | folder fields children => simp only [ih]

theorem itemsAt_editAt (leads : itemsAt path items = some found)
    (edit : List (Node α) → List (Node α)) :
    itemsAt path (editAt path edit items) = some (edit found) := by
  induction path generalizing items with
  | nil => exact congrArg (fun items => some (edit items)) (Option.some.inj leads)
  | cons row path ih =>
    obtain ⟨fields, children, here, leads⟩ := itemsAt_cons leads
    have within := (List.getElem?_eq_some_iff.mp here).1
    rw [editAt_cons here, itemsAt, List.getElem?_set_self within]
    exact ih leads

theorem editAt_editAt (path : List ℕ) (edit edit' : List (Node α) → List (Node α))
    (items : List (Node α)) :
    editAt path edit' (editAt path edit items) = editAt path (edit' ∘ edit) items := by
  induction path generalizing items with
  | nil => rfl
  | cons row path ih =>
    cases here : items[row]? with
    | none => simp [editAt, here]
    | some node =>
      cases node with
      | page fields => simp [editAt, here]
      | folder fields children =>
        have within := (List.getElem?_eq_some_iff.mp here).1
        rw [editAt_cons here, editAt_cons here, editAt_cons (List.getElem?_set_self within),
          List.set_set, ih]

/-- Two edits come to the same exactly if they do on the rows of the folder. -/
theorem editAt_eq_iff (leads : itemsAt path items = some found) :
    editAt path edit items = editAt path edit' items ↔ edit found = edit' found := by
  constructor
  · intro same
    have rows := congrArg (itemsAt path) same
    rw [itemsAt_editAt leads, itemsAt_editAt leads] at rows
    exact Option.some.inj rows
  · intro same
    induction path generalizing items with
    | nil =>
      rw [itemsAt, Option.some.injEq] at leads
      rw [editAt, editAt, leads, same]
    | cons row path ih =>
      obtain ⟨fields, children, here, leads⟩ := itemsAt_cons leads
      rw [editAt_cons here, editAt_cons here, ih leads]

theorem editAt_id (path : List ℕ) (items : List (Node α)) : editAt path id items = items := by
  induction path generalizing items with
  | nil => rfl
  | cons row path ih =>
    cases here : items[row]? with
    | none => simp [editAt, here]
    | some node =>
      cases node with
      | page fields => simp [editAt, here]
      | folder fields children =>
        obtain ⟨within, same⟩ := List.getElem?_eq_some_iff.mp here
        rw [editAt_cons here, ih, ← same, List.set_getElem_self]

theorem editAt_kinds (row : ℕ) (path : List ℕ) (edit : List (Node α) → List (Node α))
    (items : List (Node α)) :
    (editAt (row :: path) edit items).map Node.isFolder = items.map Node.isFolder := by
  cases here : items[row]? with
  | none => simp [editAt, here]
  | some node =>
    cases node with
    | page fields => simp [editAt, here]
    | folder fields children =>
      obtain ⟨within, same⟩ := List.getElem?_eq_some_iff.mp here
      have bound : row < (items.map Node.isFolder).length := by simpa using within
      have kind : (items.map Node.isFolder)[row] = true := by
        rw [List.getElem_map, same, Node.isFolder]
      calc (editAt (row :: path) edit items).map Node.isFolder
          = (items.map Node.isFolder).set row true := by
            rw [editAt_cons here, List.map_set, Node.isFolder]
        _ = items.map Node.isFolder := by
            rw [← kind, List.set_getElem_self]

end BlinkerFluid.FolderTree
