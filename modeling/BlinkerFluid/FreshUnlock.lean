import BlinkerFluid.LockCover

/-! What is uncovered between a transition to the background and the first success of
an evaluation that started after it. The flag carries no number, so a late reply of an
earlier evaluation lifts the covers; and a cover is part of its tab's view, so a
controller presented above the view, or a view that is loaded later, has none. -/

namespace BlinkerFluid.FreshUnlock
open StepRun AppLock LockCover

variable {s : LockState}

/-- A transition with the lock on has not been answered by a fresh unlock yet. -/
def UnlockDue (s : LockState) : Prop := s.freshFrom.isSome = true

instance (s : LockState) : Decidable (UnlockDue s) := inferInstanceAs (Decidable (_ = true))

/-- While an unlock is due, every page has its cover and nothing is presented above it. -/
def Concealed (s : LockState) : Prop :=
  UnlockDue s → ∀ d ∈ s.delegates, d.privacyLockView = true ∧ d.presented = none

instance (s : LockState) : Decidable (Concealed s) := inferInstanceAs (Decidable (_ → _))

/-- The next block of the main queue lifts no cover. -/
def LiftsNoCover (s : LockState) : Prop :=
  match s.mainQueue with
  | [] => True
  | .updatePrivacyLock shell :: _ => s.blinkAppUnlocked = true → isOpen s shell = false
  | .reply (.unlockBlinker _) :: _ => s.delegates = []
  | .reply (.toggleAppLock _ settings currentlyEnabled) :: _ =>
    currentlyEnabled = false → isOpen s settings = false

instance (s : LockState) : Decidable (LiftsNoCover s) :=
  match queue : s.mainQueue with
  | [] => isTrue (by rw [LiftsNoCover, queue]; trivial)
  | .updatePrivacyLock shell :: _ =>
    decidable_of_iff (s.blinkAppUnlocked = true → isOpen s shell = false)
      (by rw [LiftsNoCover, queue])
  | .reply (.unlockBlinker _) :: _ =>
    decidable_of_iff (s.delegates = []) (by rw [LiftsNoCover, queue])
  | .reply (.toggleAppLock _ settings currentlyEnabled) :: _ =>
    decidable_of_iff (currentlyEnabled = false → isOpen s settings = false)
      (by rw [LiftsNoCover, queue])

/-- Nothing is presented when the app is locked; and while an unlock is due no view is
loaded, nothing is presented, and no block lifts a cover. -/
def KeepsConcealed (s : LockState) : Event → Prop
  | .didEnterBackground => s.blinkAppLock = true → ∀ d ∈ s.delegates, d.presented = none
  | .viewDidLoad => ¬UnlockDue s
  | .showMenu shell | .presentList shell | .showTabSwitcher shell =>
    UnlockDue s → isOpen s shell = false
  | .willEnterForeground => UnlockDue s → s.blinkAppUnlocked = true → s.delegates = []
  | .runMainQueue => UnlockDue s → LiftsNoCover s
  | .close _ | .unlockBlinker _ | .toggleAppLockFromSettings _ _ | .reply _ _ | .backTapped _
  | .dismiss _ => True

instance (s : LockState) : (event : Event) → Decidable (KeepsConcealed s event)
  | .didEnterBackground => inferInstanceAs (Decidable (_ → _))
  | .viewDidLoad => inferInstanceAs (Decidable (¬_))
  | .showMenu _ | .presentList _ | .showTabSwitcher _ => inferInstanceAs (Decidable (_ → _))
  | .willEnterForeground => inferInstanceAs (Decidable (_ → _ → _))
  | .runMainQueue => inferInstanceAs (Decidable (_ → _))
  | .close _ | .unlockBlinker _ | .toggleAppLockFromSettings _ _ | .reply _ _ | .backTapped _
  | .dismiss _ => isTrue trivial

/-- An unlock is due with the lock on only, and meanwhile all is concealed. -/
structure Demands (s : LockState) : Prop where
  lockOn : UnlockDue s → s.blinkAppLock = true
  concealed : Concealed s

section Frames

theorem unlockDue_of_forgetDemand {evaluation : Evaluation} {freshFrom : Option ℕ}
    (due : (forgetDemand evaluation freshFrom).isSome = true) : freshFrom.isSome = true := by
  cases evaluation with
  | unlockBlinker number =>
    obtain ⟨bound, kept⟩ := Option.isSome_iff_exists.mp due
    exact Option.isSome_iff_exists.mpr ⟨bound, (Option.filter_eq_some_iff.mp kept).1⟩
  | toggleAppLock => exact due

theorem demands_of_same {t : LockState} (demands : Demands s)
    (due : UnlockDue t → UnlockDue s) (lock : t.blinkAppLock = s.blinkAppLock)
    (delegates : ∀ d ∈ t.delegates, d ∈ s.delegates) : Demands t :=
  ⟨fun h => lock.trans (demands.lockOn (due h)),
    fun h d mem => demands.concealed (due h) d (delegates d mem)⟩

theorem demands_start (demands : Demands s) (evaluation : ℕ → Evaluation) (canEvaluate : Bool) :
    Demands (start evaluation canEvaluate s) := by
  unfold start
  split
  · exact demands
  · exact demands_of_same demands id rfl fun _ => id

theorem demands_close (demands : Demands s) (shell : ℕ) : Demands (close shell s) :=
  demands_of_same demands id rfl fun _ => List.mem_of_mem_filter

theorem demands_reply (demands : Demands s) (index : ℕ) (success : Bool) :
    Demands (reply index success s) := by
  unfold reply
  split
  · exact demands
  · dsimp only
    split
    · exact demands_of_same demands id rfl fun _ => id
    · exact demands_of_same demands unlockDue_of_forgetDemand rfl fun _ => id

theorem only_eq_of_closed {f : WindowDelegate → WindowDelegate} {shell : ℕ}
    (closed : isOpen s shell = false) {d : WindowDelegate} (mem : d ∈ s.delegates) :
    WindowDelegate.only shell f d = d := by
  have other : d.shell ≠ shell := by
    intro same
    have opened : isOpen s shell = true := List.any_eq_true.mpr ⟨d, mem, decide_eq_true same⟩
    exact absurd (opened.symm.trans closed) Bool.false_ne_true.symm
  exact if_neg other

theorem exists_of_isOpen {shell : ℕ} (opened : isOpen s shell ≠ false) :
    ∃ d ∈ s.delegates, d.shell = shell := by
  obtain ⟨d, mem, same⟩ := List.any_eq_true.mp (eq_true_of_ne_false opened)
  exact ⟨d, mem, of_decide_eq_true same⟩

/-- A change within the closed tab `shell` changes nothing, and while no unlock is due it
may change anything but the lock. -/
theorem demands_mapDelegates (demands : Demands s) {f : WindowDelegate → WindowDelegate}
    {shell : ℕ} (closed : UnlockDue s → isOpen s shell = false) :
    Demands (mapDelegates (WindowDelegate.only shell f) s) := by
  refine ⟨demands.lockOn, fun due d mem => ?_⟩
  obtain ⟨before, beforeMem, rfl⟩ := List.mem_map.mp mem
  rw [only_eq_of_closed (closed due) beforeMem]
  exact demands.concealed due before beforeMem

theorem demands_mapConcealed (demands : Demands s) {f : WindowDelegate → WindowDelegate}
    (shell : ℕ) (cover : ∀ d, (f d).privacyLockView = d.privacyLockView)
    (presented : ∀ d, d.presented = none → (f d).presented = none) :
    Demands (mapDelegates (WindowDelegate.only shell f) s) := by
  refine ⟨demands.lockOn, fun due d mem => ?_⟩
  obtain ⟨before, beforeMem, rfl⟩ := List.mem_map.mp mem
  have concealed := demands.concealed due before beforeMem
  unfold WindowDelegate.only
  split
  · exact ⟨(cover before).trans concealed.1, presented before concealed.2⟩
  · exact concealed

theorem demands_updateAll (demands : Demands s)
    (covers : UnlockDue s → s.delegates ≠ [] → coverDue s = true) : Demands (updateAll s) := by
  refine ⟨demands.lockOn, fun due d mem => ?_⟩
  obtain ⟨before, beforeMem, rfl⟩ := List.mem_map.mp mem
  exact ⟨covers due (List.ne_nil_of_mem beforeMem), (demands.concealed due before beforeMem).2⟩

end Frames

section Steps

theorem coverDue_of_locked (lockOn : s.blinkAppLock = true) (locked : s.blinkAppUnlocked = false) :
    coverDue s = true :=
  (coverDue_iff s).mpr ⟨lockOn, locked⟩

theorem didEnterBackground_of_lock (lockOn : s.blinkAppLock = true) :
    didEnterBackground s = updateAll { s with
      blinkAppUnlocked := s.blinkAppUnlocked && s.delegates.isEmpty
      freshFrom := some s.nextEvaluation } :=
  if_neg (by simp [lockOn])

theorem demands_didEnterBackground (demands : Demands s)
    (bare : s.blinkAppLock = true → ∀ d ∈ s.delegates, d.presented = none) :
    Demands (didEnterBackground s) := by
  by_cases lockOn : s.blinkAppLock = true
  · rw [didEnterBackground_of_lock lockOn]
    refine ⟨fun _ => lockOn, fun _ d mem => ?_⟩
    obtain ⟨before, beforeMem, rfl⟩ := List.mem_map.mp mem
    have someTab : s.delegates.isEmpty = false :=
      List.isEmpty_eq_false_iff.mpr (List.ne_nil_of_mem beforeMem)
    exact ⟨coverDue_of_locked lockOn (by simp [someTab]), bare lockOn before beforeMem⟩
  · rw [didEnterBackground, if_pos (by simpa using lockOn)]
    exact demands

theorem demands_willEnterForeground (demands : Demands s)
    (locked : UnlockDue s → s.blinkAppUnlocked = true → s.delegates = []) :
    Demands (updateAll s) := by
  refine demands_updateAll demands fun due someTab => ?_
  exact coverDue_of_locked (demands.lockOn due) (eq_false_of_ne_true (mt (locked due) someTab))

theorem demands_viewDidLoad (demands : Demands s) (undue : ¬UnlockDue s) :
    Demands (viewDidLoad s) :=
  ⟨demands.lockOn, fun due => absurd due undue⟩

theorem demands_updatePrivacyLock (demands : Demands s) (shell : ℕ)
    (lifts : UnlockDue s → s.blinkAppUnlocked = true → isOpen s shell = false) :
    Demands (updatePrivacyLock shell s) := by
  by_cases unlocked : s.blinkAppUnlocked = true
  · exact demands_mapDelegates demands fun due => lifts due unlocked
  · refine ⟨demands.lockOn, fun due d mem => ?_⟩
    obtain ⟨before, beforeMem, rfl⟩ := List.mem_map.mp mem
    have concealed := demands.concealed due before beforeMem
    have cover := coverDue_of_locked (demands.lockOn due) (eq_false_of_ne_true unlocked)
    unfold WindowDelegate.only
    split
    · exact ⟨cover, concealed.2⟩
    · exact concealed

theorem demands_runMainQueue (demands : Demands s) (lifts : UnlockDue s → LiftsNoCover s) :
    Demands (runMainQueue s) := by
  unfold LiftsNoCover at lifts
  unfold runMainQueue
  split at lifts <;> rename_i queue <;> rw [queue]
  · exact demands
  · rename_i shell rest
    have popped : Demands { s with mainQueue := rest } :=
      demands_of_same demands id rfl fun _ => id
    exact demands_updatePrivacyLock popped shell lifts
  · refine ⟨demands.lockOn, fun due d mem => ?_⟩
    obtain ⟨before, beforeMem, -⟩ := List.mem_map.mp mem
    rw [lifts due] at beforeMem
    exact absurd beforeMem List.not_mem_nil
  · rename_i number settings currentlyEnabled rest
    cases currentlyEnabled
    · refine ⟨fun _ => rfl, fun due d mem => ?_⟩
      obtain ⟨before, beforeMem, rfl⟩ := List.mem_map.mp mem
      rw [only_eq_of_closed (s := s) (lifts due rfl) beforeMem]
      exact demands.concealed due before beforeMem
    · exact ⟨fun due => absurd due Bool.false_ne_true, fun due => absurd due Bool.false_ne_true⟩

end Steps

theorem demands_step (s : LockState) (event : Event) (demands : Demands s)
    (keeps : KeepsConcealed s event) : Demands (step s event) := by
  cases event with
  | viewDidLoad => exact demands_viewDidLoad demands keeps
  | close shell => exact demands_close demands shell
  | didEnterBackground => exact demands_didEnterBackground demands keeps
  | willEnterForeground => exact demands_willEnterForeground demands keeps
  | unlockBlinker canEvaluate => exact demands_start demands _ canEvaluate
  | toggleAppLockFromSettings settings canEvaluate =>
    exact demands_start demands (.toggleAppLock · settings s.blinkAppLock) canEvaluate
  | reply index success => exact demands_reply demands index success
  | runMainQueue => exact demands_runMainQueue demands keeps
  | showMenu shell => exact demands_mapDelegates demands keeps
  | presentList shell => exact demands_mapDelegates demands keeps
  | showTabSwitcher shell => exact demands_mapDelegates demands keeps
  | backTapped shell =>
    exact demands_mapConcealed demands shell (fun d => (backTapped_same d).2)
      fun d bare => by simp [WindowDelegate.backTapped, bare]
  | dismiss shell =>
    exact demands_mapConcealed demands (f := WindowDelegate.dismiss) shell (fun _ => rfl)
      fun _ _ => rfl

section Seen

theorem not_concealed (due : UnlockDue s) {d : WindowDelegate} (mem : d ∈ s.delegates)
    (shown : d.privacyLockView = false ∨ d.presented ≠ none) : ¬Concealed s := by
  intro concealed
  obtain ⟨covered, bare⟩ := concealed due d mem
  rcases shown with uncovered | presents
  · exact absurd (covered.symm.trans uncovered) (by simp)
  · exact presents bare

theorem uncovers_updateAll (due : UnlockDue s) (lifted : coverDue s = false)
    (someTab : s.delegates ≠ []) : ¬Concealed (updateAll s) := by
  obtain ⟨d, mem⟩ := List.exists_mem_of_ne_nil _ someTab
  exact not_concealed (s := updateAll s) due (List.mem_map_of_mem mem) (.inl lifted)

theorem uncovers_updatePrivacyLock {shell : ℕ} (due : UnlockDue s) (lifted : coverDue s = false)
    (opened : isOpen s shell ≠ false) : ¬Concealed (updatePrivacyLock shell s) := by
  obtain ⟨d, mem, same⟩ := exists_of_isOpen opened
  refine not_concealed (s := updatePrivacyLock shell s) due (List.mem_map_of_mem mem) (.inl ?_)
  rw [WindowDelegate.only, if_pos same]
  exact lifted

theorem coverDue_of_unlocked (unlocked : s.blinkAppUnlocked = true) : coverDue s = false := by
  simp [coverDue, unlocked]

theorem shows_present (demands : Demands s) (due : UnlockDue s) {shell : ℕ}
    {f : WindowDelegate → WindowDelegate}
    (shows : ∀ d, d.presented = none → (f d).presented ≠ none)
    (opened : isOpen s shell ≠ false) :
    ¬Concealed (mapDelegates (WindowDelegate.only shell f) s) := by
  obtain ⟨d, mem, same⟩ := exists_of_isOpen opened
  refine not_concealed (s := mapDelegates _ s) due (List.mem_map_of_mem mem) (.inr ?_)
  rw [WindowDelegate.only, if_pos same]
  exact shows d (demands.concealed due d mem).2

theorem present_shows (controller : Presented) (d : WindowDelegate) (bare : d.presented = none) :
    (d.present controller).presented ≠ none := by
  simp [WindowDelegate.present, bare]

theorem presentList_shows (d : WindowDelegate) (bare : d.presented = none) :
    d.presentList.presented ≠ none := by
  rw [WindowDelegate.presentList, bare]
  exact present_shows .list d bare

theorem runMainQueue_uncovers (due : UnlockDue s) (lifts : ¬LiftsNoCover s) :
    ¬Concealed (runMainQueue s) := by
  unfold LiftsNoCover at lifts
  unfold runMainQueue
  split at lifts <;> rename_i queue <;> rw [queue]
  · exact absurd trivial lifts
  · obtain ⟨unlocked, opened⟩ := Classical.not_imp.mp lifts
    exact uncovers_updatePrivacyLock (s := { s with mainQueue := _ }) due
      (coverDue_of_unlocked unlocked) opened
  · exact uncovers_updateAll (s := { s with mainQueue := _, blinkAppUnlocked := true }) due
      (coverDue_of_unlocked rfl) lifts
  · obtain ⟨rfl, opened⟩ := Classical.not_imp.mp lifts
    exact uncovers_updatePrivacyLock (s := { s with
      mainQueue := _, blinkAppLock := true, blinkAppUnlocked := true, freshFrom := s.freshFrom })
      due (coverDue_of_unlocked rfl) opened

end Seen

theorem not_concealed_step (s : LockState) (event : Event) (demands : Demands s)
    (breaks : ¬KeepsConcealed s event) : ¬Concealed (step s event) := by
  cases event with
  | viewDidLoad =>
    have due : UnlockDue s := not_not.mp breaks
    exact not_concealed (s := viewDidLoad s) due
      (List.mem_append_right _ List.mem_cons_self) (.inl rfl)
  | didEnterBackground =>
    simp only [KeepsConcealed, not_forall] at breaks
    obtain ⟨lockOn, d, mem, presents⟩ := breaks
    rw [step, didEnterBackground_of_lock lockOn]
    exact not_concealed (s := updateAll _) rfl (List.mem_map_of_mem mem) (.inr presents)
  | willEnterForeground =>
    simp only [KeepsConcealed, not_forall] at breaks
    obtain ⟨due, unlocked, someTab⟩ := breaks
    exact uncovers_updateAll due (coverDue_of_unlocked unlocked) someTab
  | runMainQueue =>
    obtain ⟨due, lifts⟩ := Classical.not_imp.mp breaks
    exact runMainQueue_uncovers due lifts
  | showMenu shell =>
    obtain ⟨due, opened⟩ := Classical.not_imp.mp breaks
    exact shows_present demands due (present_shows (.menu 0)) opened
  | presentList shell =>
    obtain ⟨due, opened⟩ := Classical.not_imp.mp breaks
    exact shows_present demands due presentList_shows opened
  | showTabSwitcher shell =>
    obtain ⟨due, opened⟩ := Classical.not_imp.mp breaks
    exact shows_present demands due (present_shows .tabSwitcher) opened
  | close | unlockBlinker | toggleAppLockFromSettings | reply | backTapped | dismiss =>
    exact absurd trivial breaks

theorem demands_launch (blinkAppLock : Bool) : Demands (launch blinkAppLock) :=
  ⟨fun due => absurd due Bool.false_ne_true, fun due => absurd due Bool.false_ne_true⟩

/-- From every transition to the background with the lock on until a fresh unlock
everything stays concealed, exactly in the runs in which nothing is presented at such a
transition and, until the unlock, no view is loaded, nothing is presented and no late
reply or update lifts a cover. -/
theorem concealed_until_freshUnlock (blinkAppLock : Bool) (events : List Event) :
    (∀ past, past <+: events → Concealed (past.foldl step (launch blinkAppLock))) ↔
      Permitted KeepsConcealed step (launch blinkAppLock) events :=
  good_iff_permitted demands_step (fun _ demands => demands.concealed) not_concealed_step _ events
    (demands_launch blinkAppLock)

/-- The reply of an evaluation that started before the transition lifts the cover. -/
theorem lateUnlock_not_concealed :
    ¬∀ past, past <+: ([.viewDidLoad, .runMainQueue, .unlockBlinker true, .didEnterBackground,
        .reply 0 true, .willEnterForeground, .runMainQueue] : List Event) →
      Concealed (past.foldl step (launch true)) := by
  intro concealed
  exact absurd (concealed _ (List.prefix_refl _)) (by decide)

end BlinkerFluid.FreshUnlock
