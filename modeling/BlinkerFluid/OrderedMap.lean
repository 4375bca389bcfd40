import Mathlib.Data.List.Basic
import Mathlib.Order.Lattice

/-! Finite maps over a linear order, with the bound queries of an ordered container.
A map is the list of its entries in the order of their keys. Every operation is
described by what a lookup finds afterwards, and two maps with the same lookups are
equal. -/

namespace BlinkerFluid.OrderedMap

structure KeyMap (κ ν : Type*) [LinearOrder κ] where
  entries : List (κ × ν)
  sorted : entries.Pairwise fun a b => a.1 < b.1
deriving DecidableEq

namespace KeyMap

variable {κ ν : Type*} [LinearOrder κ]

def empty : KeyMap κ ν := ⟨[], .nil⟩

def get? (m : KeyMap κ ν) (key : κ) : Option ν :=
  (m.entries.find? fun entry => entry.1 = key).map Prod.snd

theorem eq_of_mem (m : KeyMap κ ν) {key : κ} {v w : ν} (first : (key, v) ∈ m.entries)
    (second : (key, w) ∈ m.entries) : v = w := by
  have apart : m.entries.Pairwise fun a b => a.1 = b.1 → a = b :=
    m.sorted.imp fun less same => absurd same (ne_of_lt less)
  have same := apart.forall_of_forall_of_flip (fun _ _ _ => rfl)
    (apart.imp fun eq same => (eq same.symm).symm) first second rfl
  exact (Prod.mk.inj same).2

theorem get?_eq_some_iff (m : KeyMap κ ν) (key : κ) (v : ν) :
    m.get? key = some v ↔ (key, v) ∈ m.entries := by
  rw [get?, Option.map_eq_some_iff]
  constructor
  · rintro ⟨⟨k, w⟩, found, rfl⟩
    have here : k = key := by simpa using List.find?_some found
    exact here ▸ List.mem_of_find?_eq_some found
  · intro mem
    cases found : m.entries.find? fun entry => entry.1 = key with
    | none => exact absurd (decide_eq_true rfl) (List.find?_eq_none.mp found _ mem)
    | some entry =>
      have here : entry.1 = key := by simpa using List.find?_some found
      refine ⟨entry, rfl, m.eq_of_mem ?_ mem⟩
      rw [← here]
      exact List.mem_of_find?_eq_some found

theorem ext_get? {m m' : KeyMap κ ν} (same : ∀ key, m.get? key = m'.get? key) : m = m' := by
  obtain ⟨entries, sorted⟩ := m
  obtain ⟨entries', sorted'⟩ := m'
  have members : ∀ entry, entry ∈ entries ↔ entry ∈ entries' := by
    rintro ⟨key, v⟩
    rw [← get?_eq_some_iff ⟨entries, sorted⟩, ← get?_eq_some_iff ⟨entries', sorted'⟩, same]
  have nodup : entries.Nodup :=
    sorted.imp fun less eq => absurd (congrArg Prod.fst eq) (ne_of_lt less)
  have nodup' : entries'.Nodup :=
    sorted'.imp fun less eq => absurd (congrArg Prod.fst eq) (ne_of_lt less)
  have perm : entries.Perm entries' := (List.perm_ext_iff_of_nodup nodup nodup').mpr members
  have equal : entries = entries' :=
    perm.eq_of_pairwise (fun _ _ _ _ less more => absurd more (lt_asymm less)) sorted sorted'
  subst equal
  rfl

@[simp] theorem get?_empty (key : κ) : (empty : KeyMap κ ν).get? key = none := rfl

def keep (m : KeyMap κ ν) (p : κ → Prop) [DecidablePred p] : KeyMap κ ν :=
  ⟨m.entries.filter fun entry => p entry.1, m.sorted.filter _⟩

theorem get?_keep (m : KeyMap κ ν) (p : κ → Prop) [DecidablePred p] (key : κ) :
    (m.keep p).get? key = if p key then m.get? key else none := by
  apply Option.ext
  intro v
  split_ifs with holds <;> simp [get?_eq_some_iff, keep, holds]

theorem keep_eq_self {m : KeyMap κ ν} {p : κ → Prop} [DecidablePred p]
    (all : ∀ key v, m.get? key = some v → p key) : m.keep p = m := by
  apply ext_get?
  intro key
  rw [get?_keep]
  split_ifs with holds
  · rfl
  · cases found : m.get? key with
    | none => rfl
    | some v => exact absurd (all key v found) holds

def erase (m : KeyMap κ ν) (key : κ) : KeyMap κ ν := m.keep fun k => k ≠ key

@[simp] theorem get?_erase (m : KeyMap κ ν) (key k : κ) :
    (m.erase key).get? k = if k = key then none else m.get? k := by
  rw [erase, get?_keep]
  by_cases here : k = key <;> simp [here]

def set (m : KeyMap κ ν) (key : κ) (v : ν) : KeyMap κ ν where
  entries := (m.entries.filter fun entry => entry.1 < key) ++
    (key, v) :: m.entries.filter fun entry => key < entry.1
  sorted := by
    refine List.pairwise_append.mpr ⟨m.sorted.filter _, ?_, ?_⟩
    · refine List.pairwise_cons.mpr ⟨fun entry mem => ?_, m.sorted.filter _⟩
      simpa using (List.mem_filter.mp mem).2
    · intro a below b mem
      have less : a.1 < key := by simpa using (List.mem_filter.mp below).2
      rcases List.mem_cons.mp mem with rfl | above
      · exact less
      · have more : key < b.1 := by simpa using (List.mem_filter.mp above).2
        exact less.trans more

@[simp] theorem get?_set (m : KeyMap κ ν) (key k : κ) (v : ν) :
    (m.set key v).get? k = if k = key then some v else m.get? k := by
  apply Option.ext
  intro w
  rw [get?_eq_some_iff]
  split_ifs with here
  · subst here
    simp only [set, List.mem_append, List.mem_cons, List.mem_filter, decide_eq_true_eq,
      Prod.mk.injEq, lt_self_iff_false, and_false, or_false, false_or, true_and, Option.some.injEq]
    exact eq_comm
  · rw [get?_eq_some_iff]
    have apart : k < key ∨ key < k := lt_or_gt_of_ne here
    simp only [set, List.mem_append, List.mem_cons, List.mem_filter, decide_eq_true_eq,
      Prod.mk.injEq, here, false_and, false_or]
    tauto

def emplace (m : KeyMap κ ν) (key : κ) (v : ν) : KeyMap κ ν :=
  if (m.get? key).isSome then m else m.set key v

@[simp] theorem get?_emplace (m : KeyMap κ ν) (key k : κ) (v : ν) :
    (m.emplace key v).get? k = if k = key then some ((m.get? key).getD v) else m.get? k := by
  unfold emplace
  by_cases here : k = key
  · subst here
    cases found : m.get? k <;> simp [found]
  · split_ifs <;> simp [here]

def merge (m m' : KeyMap κ ν) : KeyMap κ ν :=
  m'.entries.foldl (fun sum entry => sum.emplace entry.1 entry.2) m

theorem get?_foldl_emplace (entries : List (κ × ν)) (m : KeyMap κ ν) (key : κ) :
    (entries.foldl (fun sum entry => sum.emplace entry.1 entry.2) m).get? key =
      (m.get? key).or ((entries.find? fun entry => entry.1 = key).map Prod.snd) := by
  induction entries generalizing m with
  | nil => simp
  | cons entry entries ih =>
    rw [List.foldl_cons, ih, get?_emplace]
    by_cases here : entry.1 = key
    · subst here
      cases m.get? entry.1 <;> simp
    · have other : key ≠ entry.1 := fun eq => here eq.symm
      simp [here, other]

@[simp] theorem get?_merge (m m' : KeyMap κ ν) (key : κ) :
    (m.merge m').get? key = (m.get? key).or (m'.get? key) :=
  get?_foldl_emplace m'.entries m key

def last? (m : KeyMap κ ν) (p : κ → Prop) [DecidablePred p] : Option (κ × ν) :=
  (m.keep p).entries.getLast?

def first? (m : KeyMap κ ν) (p : κ → Prop) [DecidablePred p] : Option (κ × ν) :=
  (m.keep p).entries.head?

theorem mem_keep (m : KeyMap κ ν) (p : κ → Prop) [DecidablePred p] (entry : κ × ν) :
    entry ∈ (m.keep p).entries ↔ m.get? entry.1 = some entry.2 ∧ p entry.1 := by
  rw [get?_eq_some_iff, keep, List.mem_filter, decide_eq_true_eq]

theorem last?_eq_none_iff (m : KeyMap κ ν) (p : κ → Prop) [DecidablePred p] :
    m.last? p = none ↔ ∀ key, p key → m.get? key = none := by
  rw [last?, List.getLast?_eq_none_iff, List.eq_nil_iff_forall_not_mem]
  constructor
  · intro absent key holds
    cases found : m.get? key with
    | none => rfl
    | some v => exact absurd ((m.mem_keep p (key, v)).mpr ⟨found, holds⟩) (absent _)
  · rintro absent ⟨key, v⟩ mem
    obtain ⟨found, holds⟩ := (m.mem_keep p _).mp mem
    rw [absent key holds] at found
    cases found

theorem first?_eq_none_iff (m : KeyMap κ ν) (p : κ → Prop) [DecidablePred p] :
    m.first? p = none ↔ ∀ key, p key → m.get? key = none := by
  rw [← last?_eq_none_iff, first?, last?, List.head?_eq_none_iff, List.getLast?_eq_none_iff]

theorem last?_eq_some_iff (m : KeyMap κ ν) (p : κ → Prop) [DecidablePred p] (key : κ)
    (v : ν) : m.last? p = some (key, v) ↔
      m.get? key = some v ∧ p key ∧ ∀ k, key < k → p k → m.get? k = none := by
  constructor
  · intro found
    have mem := List.mem_of_getLast? found
    obtain ⟨stored, holds⟩ := (m.mem_keep p _).mp mem
    obtain ⟨before, split⟩ := List.getLast?_eq_some_iff.mp found
    refine ⟨stored, holds, fun k after pk => ?_⟩
    cases hit : m.get? k with
    | none => rfl
    | some w =>
      have inside := (m.mem_keep p (k, w)).mpr ⟨hit, pk⟩
      have order := (m.keep p).sorted
      rw [split, List.mem_append, List.mem_singleton] at inside
      rw [split, List.pairwise_append] at order
      rcases inside with early | same
      · exact absurd (order.2.2 _ early _ (List.mem_singleton.mpr rfl)) (lt_asymm after)
      · exact absurd (congrArg Prod.fst same) (ne_of_gt after)
  · rintro ⟨stored, holds, final⟩
    cases found : m.last? p with
    | none =>
      rw [(m.last?_eq_none_iff p).mp found key holds] at stored
      cases stored
    | some entry =>
      have mem := (m.mem_keep p (key, v)).mpr ⟨stored, holds⟩
      obtain ⟨there, pe⟩ := (m.mem_keep p _).mp (List.mem_of_getLast? found)
      obtain ⟨before, split⟩ := List.getLast?_eq_some_iff.mp found
      have order := (m.keep p).sorted
      rw [split, List.mem_append, List.mem_singleton] at mem
      rw [split, List.pairwise_append] at order
      rcases mem with early | same
      · have later := order.2.2 _ early _ (List.mem_singleton.mpr rfl)
        rw [final _ later pe] at there
        cases there
      · rw [same]

theorem first?_eq_some_iff (m : KeyMap κ ν) (p : κ → Prop) [DecidablePred p] (key : κ)
    (v : ν) : m.first? p = some (key, v) ↔
      m.get? key = some v ∧ p key ∧ ∀ k, k < key → p k → m.get? k = none := by
  constructor
  · intro found
    obtain ⟨rest, split⟩ := List.head?_eq_some_iff.mp found
    have mem : (key, v) ∈ (m.keep p).entries := split ▸ List.mem_cons_self
    obtain ⟨stored, holds⟩ := (m.mem_keep p _).mp mem
    refine ⟨stored, holds, fun k before pk => ?_⟩
    cases hit : m.get? k with
    | none => rfl
    | some w =>
      have inside := (m.mem_keep p (k, w)).mpr ⟨hit, pk⟩
      have order := (m.keep p).sorted
      rw [split, List.mem_cons] at inside
      rw [split, List.pairwise_cons] at order
      rcases inside with same | late
      · exact absurd (congrArg Prod.fst same) (ne_of_lt before)
      · exact absurd (order.1 _ late) (lt_asymm before)
  · rintro ⟨stored, holds, initial⟩
    cases found : m.first? p with
    | none =>
      rw [(m.first?_eq_none_iff p).mp found key holds] at stored
      cases stored
    | some entry =>
      have mem := (m.mem_keep p (key, v)).mpr ⟨stored, holds⟩
      obtain ⟨rest, split⟩ := List.head?_eq_some_iff.mp found
      have here : entry ∈ (m.keep p).entries := split ▸ List.mem_cons_self
      obtain ⟨there, pe⟩ := (m.mem_keep p _).mp here
      have order := (m.keep p).sorted
      rw [split, List.mem_cons] at mem
      rw [split, List.pairwise_cons] at order
      rcases mem with same | late
      · rw [same]
      · rw [initial _ (order.1 _ late) pe] at there
        cases there

theorem nodup (m : KeyMap κ ν) : m.entries.Nodup :=
  m.sorted.imp fun less eq => absurd (congrArg Prod.fst eq) (ne_of_lt less)

theorem perm_erase (m : KeyMap κ ν) {key : κ} {v : ν} (stored : m.get? key = some v) :
    m.entries.Perm ((key, v) :: (m.erase key).entries) := by
  have absent : (key, v) ∉ (m.erase key).entries := by
    rw [← get?_eq_some_iff, get?_erase, if_pos rfl]
    exact Option.some_ne_none v ∘ Eq.symm
  refine (List.perm_ext_iff_of_nodup m.nodup (List.nodup_cons.mpr ⟨absent, nodup _⟩)).mpr ?_
  rintro ⟨k, w⟩
  rw [List.mem_cons, ← get?_eq_some_iff, ← get?_eq_some_iff, get?_erase]
  by_cases here : k = key
  · subst here
    simp [stored, eq_comm]
  · simp [here]

theorem perm_set (m : KeyMap κ ν) (key : κ) (v : ν) :
    (m.set key v).entries.Perm ((key, v) :: (m.erase key).entries) := by
  have stored : (m.set key v).get? key = some v := by simp
  have others : (m.set key v).erase key = m.erase key := by
    apply ext_get?
    intro k
    rw [get?_erase, get?_erase, get?_set]
    split_ifs <;> rfl
  exact others ▸ perm_erase _ stored

end KeyMap

end BlinkerFluid.OrderedMap
