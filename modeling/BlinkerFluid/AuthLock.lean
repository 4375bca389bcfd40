import BlinkerFluid.AuthFlow

/-! The authentication lock over the navigations of one tab. A redirect sets the
breaker and the fallback mark without taking the lock, and a finish returns early
without it: the flags follow the lock exactly in the runs that never do so. -/

namespace BlinkerFluid.AuthLock
open WebAddress StepRun AuthFlow

variable (stripMwebFallback : GURL → GURL)

/-- Behind every event the breaker implies the lock, and behind every finish
outside of authentication all flags are down. -/
def LockExact (events : List NavigationEvent) : Prop :=
  (∀ past, past <+: events →
    (past.foldl (flowStep stripMwebFallback) {}).chatgptAuthBreakerUsed = true →
    (past.foldl (flowStep stripMwebFallback) {}).inAuthFlow = true) ∧
  ∀ past navigation, past ++ [.didFinish navigation] <+: events → offAuth navigation = true →
    (past ++ [.didFinish navigation]).foldl (flowStep stripMwebFallback) {} =
      { inAuthFlow := false, chatgptAuthBreakerUsed := false, chatgptMwebLogged := false }

/-- The breaker meets the lock, and a finish outside of authentication that does not
hold it finds no fallback marked. -/
def LockCovers (flow : Flow) : NavigationEvent → Prop
  | .didStart _ => True
  | .didRedirect navigation => atBreaker navigation = true → flow.inAuthFlow = true
  | .didFinish navigation =>
    offAuth navigation = true → flow.chatgptMwebLogged = true → flow.inAuthFlow = true

instance (flow : Flow) : DecidablePred (LockCovers flow)
  | .didStart _ => isTrue trivial
  | .didRedirect navigation => inferInstanceAs (Decidable (atBreaker navigation = true → _))
  | .didFinish navigation => inferInstanceAs (Decidable (offAuth navigation = true → _ → _))

/-- A breaker that was used has marked the fallback. -/
def BreakerMarked (flow : Flow) : Prop :=
  flow.chatgptAuthBreakerUsed = true → flow.chatgptMwebLogged = true

def BreakerLocked (flow : Flow) : Prop :=
  flow.chatgptAuthBreakerUsed = true → flow.inAuthFlow = true

theorem toFallback_of_atBreaker {navigation : NavigationHandle}
    (breaker : atBreaker navigation = true) : toFallback navigation = true :=
  (Bool.and_eq_true _ _ ▸ breaker).1

theorem flowStep_breakerMarked (flow : Flow) (event : NavigationEvent)
    (marked : BreakerMarked flow) : BreakerMarked (flowStep stripMwebFallback flow event) := by
  unfold BreakerMarked at marked ⊢
  cases event with
  | didStart navigation =>
    simp only [flowStep, navigate, didStartNavigation_eq]
    exact marked
  | didRedirect navigation =>
    simp only [flowStep, navigate, didRedirectNavigation_eq, Bool.or_eq_true]
    exact Or.imp marked toFallback_of_atBreaker
  | didFinish navigation =>
    simp only [flowStep, navigate, didFinishNavigation_eq]
    split
    · exact fun used => used
    · exact marked

theorem flowStep_breakerLocked (flow : Flow) (event : NavigationEvent)
    (covers : LockCovers flow event) (locked : BreakerLocked flow) :
    BreakerLocked (flowStep stripMwebFallback flow event) := by
  unfold BreakerLocked at locked ⊢
  cases event with
  | didStart navigation =>
    simp only [flowStep, navigate, didStartNavigation_eq, Bool.or_eq_true]
    exact fun used => .inl (locked used)
  | didRedirect navigation =>
    simp only [flowStep, navigate, didRedirectNavigation_eq, Bool.or_eq_true]
    exact fun used => used.elim locked covers
  | didFinish navigation =>
    simp only [flowStep, navigate, didFinishNavigation_eq]
    split
    · exact fun used => used
    · exact locked

theorem run_breakerMarked (events : List NavigationEvent) :
    BreakerMarked (events.foldl (flowStep stripMwebFallback) {}) :=
  invariant_always (flowStep_breakerMarked stripMwebFallback) _ events fun used => used

theorem run_breakerLocked (events : List NavigationEvent)
    (covers : Permitted LockCovers (flowStep stripMwebFallback) {} events) :
    BreakerLocked (events.foldl (flowStep stripMwebFallback) {}) :=
  invariant_run (fun flow event locked covers =>
    flowStep_breakerLocked stripMwebFallback flow event covers locked) _ events
    (fun used => used) covers

theorem didFinish_released_iff (flow : Flow) (navigation : NavigationHandle)
    (off : offAuth navigation = true) :
    didFinishNavigation flow navigation = {} ↔ flow.inAuthFlow = true ∨ flow = {} := by
  rw [didFinishNavigation_eq, off, Bool.true_and]
  split
  · exact iff_of_true rfl (.inl ‹_›)
  · exact ⟨.inr, fun released => released.resolve_left ‹_›⟩

theorem lockExact_iff_lockCovers (events : List NavigationEvent) :
    LockExact stripMwebFallback events ↔
      Permitted LockCovers (flowStep stripMwebFallback) {} events := by
  constructor
  · rintro ⟨locked, released⟩
    rw [permitted_iff_each]
    intro past event ahead
    generalize atEvent : past.foldl (flowStep stripMwebFallback) {} = flow
    have after : (past ++ [event]).foldl (flowStep stripMwebFallback) {} =
        flowStep stripMwebFallback flow event := by rw [List.foldl_append, atEvent]; rfl
    cases event with
    | didStart navigation => trivial
    | didRedirect navigation =>
      intro breaker
      have kept := locked _ ahead
      rw [after] at kept
      simp only [flowStep, navigate, didRedirectNavigation_eq, breaker, Bool.or_true] at kept
      exact kept trivial
    | didFinish navigation =>
      intro off logged
      have down := released past navigation ahead off
      rw [after] at down
      rcases (didFinish_released_iff flow navigation off).mp down with held | rfl
      · exact held
      · exact logged
  · intro covers
    refine ⟨fun past before => ?_, fun past navigation ahead off => ?_⟩
    · exact run_breakerLocked stripMwebFallback past (permitted_past covers before)
    · have meets := (permitted_iff_each _ _).mp covers past _ ahead off
      have marked := run_breakerMarked stripMwebFallback past
      rw [List.foldl_append]
      generalize past.foldl (flowStep stripMwebFallback) {} = flow at meets marked ⊢
      refine (didFinish_released_iff flow navigation off).mpr ?_
      unfold BreakerMarked at marked
      rcases flow with ⟨inAuth, used, logged⟩
      cases inAuth
      · right
        cases logged
        · cases used
          · rfl
          · exact absurd (marked rfl) Bool.false_ne_true
        · exact absurd (meets rfl) Bool.false_ne_true
      · exact .inl rfl

/-- `https://chatgpt.com/`, outside of authentication. -/
def chatPage : GURL :=
  ⟨true, "https://chatgpt.com/".toList, "https".toList, "chatgpt.com".toList, "/".toList⟩

def mwebFallback : GURL :=
  ⟨true, "https://chatgpt.com/auth/login_with?mweb_fallback=1&connection=google-oauth2".toList,
    "https".toList, "chatgpt.com".toList, "/auth/login_with".toList⟩

/-- A navigation to the chat page that is redirected five times into the login, and back:
the flow never holds the lock, and its breaker outlives it. -/
def redirectedIn : List NavigationEvent :=
  let chain (hops : ℕ) := chatPage :: List.replicate hops mwebFallback
  .didStart { url := chatPage } ::
    [1, 2, 3, 4, 5].map (fun hops =>
      .didRedirect { url := mwebFallback, redirectChain := chain hops }) ++
  [.didRedirect { url := chatPage, redirectChain := chain 5 ++ [chatPage] },
    .didFinish { url := chatPage, redirectChain := chain 5 ++ [chatPage] }]

theorem lockExact_counterexample : ¬ LockExact id redirectedIn := by
  intro exact
  have locked := exact.1 (redirectedIn.take 6) (List.take_prefix 6 _) (by decide)
  exact absurd locked (by decide)

end BlinkerFluid.AuthLock
