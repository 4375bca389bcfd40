import BlinkerFluid.PrivateLog
import BlinkerFluid.RingBuffer

/-! The two rings behind the diagnostics of navigations: the last authentication URLs, in which
`RecordAuthUrlAndDetectLoop` looks for a redirect loop, and the last load starts. Each is a ring
buffer of its history. -/

namespace BlinkerFluid.NavigationRings
open ByteString WebAddress NavigationLog RingBuffer
open PrivateLog (noSite)

instance : NeZero kRecentAuthSlots := ⟨authSlots_pos.ne'⟩

section Auth

def noRecords : RecentAuth := { head := ⟨0, authSlots_pos⟩ }

def unrecorded (process : Process) : Process := { process with recent := noRecords }

/-- A call of `RecordAuthUrlAndDetectLoop` and the clock that it reads. -/
structure AuthCall where
  now : ℕ
  url : GURL

variable (settings : LogSettings)

def recordAuth (process : Process) (call : AuthCall) : Process :=
  recordAuthUrlAndDetectLoop settings call.now call.url process

def ringOf (recent : RecentAuth) : CircularBuffer (ℕ × Bytes) kRecentAuthSlots where
  slots i := (recent.times i).map fun time => (time, recent.urls i)
  head := recent.head

def Blank (recent : RecentAuth) : Prop := ∀ i, recent.times i = none → recent.urls i = []

theorem ringOf_record (recent : RecentAuth) (now : ℕ) (spec : Bytes) :
    ringOf (recent.record now spec) = (ringOf recent).push (now, spec) := by
  have slots : (ringOf (recent.record now spec)).slots =
      ((ringOf recent).push (now, spec)).slots := by
    funext i
    by_cases written : i = recent.head
    · subst written
      simp [ringOf, RecentAuth.record, CircularBuffer.push]
    · simp [ringOf, RecentAuth.record, CircularBuffer.push, Function.update_of_ne written]
  exact congrArg (CircularBuffer.mk · (recent.head + 1)) slots

theorem record_blank {recent : RecentAuth} (blank : Blank recent) (now : ℕ) (spec : Bytes) :
    Blank (recent.record now spec) := by
  intro i null
  by_cases written : i = recent.head
  · subst written
    simp [RecentAuth.record] at null
  · simp only [RecentAuth.record, Function.update_of_ne written] at null ⊢
    exact blank i null

structure Holds (recent : RecentAuth) (history : List (ℕ × Bytes)) : Prop where
  ring : ringOf recent = ofHistory kRecentAuthSlots history
  blank : Blank recent

theorem holds_empty : Holds noRecords [] := ⟨rfl, fun _ _ => rfl⟩

theorem holds_record {recent : RecentAuth} {history : List (ℕ × Bytes)}
    (holds : Holds recent history) (now : ℕ) (spec : Bytes) :
    Holds (recent.record now spec) (history ++ [(now, spec)]) where
  ring := by rw [ringOf_record, holds.ring, ofHistory, ofHistory, List.foldl_concat]
  blank := record_blank holds.blank now spec

def repeatsURL (now : ℕ) (spec : Bytes) (entry : ℕ × Bytes) : Bool :=
  now - entry.1 ≤ kLoopWindow && entry.2 = spec

theorem repeats_eq {recent : RecentAuth} {history : List (ℕ × Bytes)}
    (holds : Holds recent history) (now : ℕ) (spec : Bytes) :
    recent.repeats now spec = (history.rtake kRecentAuthSlots).countP (repeatsURL now spec) := by
  have slots : recent.repeats now spec = (List.finRange kRecentAuthSlots).countP fun i =>
      ((ringOf recent).slots i).any (repeatsURL now spec) := by
    refine congrArg (List.countP · _) (funext fun i => ?_)
    simp only [ringOf]
    cases recent.times i <;> rfl
  rw [slots, holds.ring, countP_ofHistory (Option.any (repeatsURL now spec)) history rfl]
  rfl

def dumpLine (i : ℕ) (url : Bytes) : Option Bytes :=
  if url.isEmpty then none else some ("AUTH_FLOW:   [".toList ++ number i ++ "]=".toList ++ url)

theorem dump_eq {recent : RecentAuth} {history : List (ℕ × Bytes)} (holds : Holds recent history) :
    recent.dump =
      ((history.rtake kRecentAuthSlots).zipIdx (kRecentAuthSlots - history.length)).filterMap
        fun entry => dumpLine entry.2 entry.1.2 := by
  have slots : recent.dump = (List.finRange kRecentAuthSlots).filterMap fun i : Fin _ =>
      ((ringOf recent).slots ((ringOf recent).head + i)).bind fun entry => dumpLine i entry.2 := by
    refine congrArg (List.filterMap · _) (funext fun i => ?_)
    simp only [ringOf]
    cases null : recent.times (recent.head + i) with
    | none => simp [holds.blank _ null]
    | some time => rfl
  rw [slots, holds.ring, filterMap_ofHistory
    (fun i slot => slot.bind fun entry => dumpLine i entry.2) history fun _ => rfl]
  rfl

section Calls

variable (process : Process)

def AuthCall.entry (call : AuthCall) : ℕ × Bytes := (call.now, call.url.spec)

@[simp] theorem recordAuth_recent (call : AuthCall) :
    (recordAuth settings process call).recent =
      process.recent.record call.now call.url.spec := by
  unfold recordAuth recordAuthUrlAndDetectLoop
  simp only
  split
  · exact diag_recent settings _ _ _
  · rfl

theorem recordAuth_log (call : AuthCall) :
    (recordAuth settings process call).log = process.log ++
      if settings.diagnostics = true ∧
          3 ≤ (process.recent.record call.now call.url.spec).repeats call.now call.url.spec then
        (loopTexts (process.recent.record call.now call.url.spec) call.url.spec).map (⟨true, ·⟩)
      else [] := by
  unfold recordAuth recordAuthUrlAndDetectLoop diag
  by_cases loop : 3 ≤ (process.recent.record call.now call.url.spec).repeats call.now call.url.spec
  · by_cases enabled : settings.diagnostics = true <;> simp [loop, enabled]
  · simp [loop]

theorem holds_calls (calls : List AuthCall) :
    Holds (calls.foldl (recordAuth settings) (unrecorded process)).recent
      (calls.map AuthCall.entry) := by
  induction calls using List.reverseRecOn with
  | nil => exact holds_empty
  | append_singleton calls call ih =>
    rw [List.foldl_concat, recordAuth_recent, List.map_append]
    exact holds_record ih call.now call.url.spec

end Calls

/-- At least three of the last calls had the URL of this call in the last five seconds. -/
def LoopAt (calls : List AuthCall) (call : AuthCall) : Prop :=
  3 ≤ (calls.rtake kRecentAuthSlots).countP fun record =>
    record.url.spec = call.url.spec && call.now ≤ record.now + kLoopWindow

instance (calls : List AuthCall) (call : AuthCall) : Decidable (LoopAt calls call) :=
  inferInstanceAs (Decidable (_ ≤ _))

def lastCalls (calls : List AuthCall) : List (AuthCall × ℕ) :=
  (calls.rtake kRecentAuthSlots).zipIdx (kRecentAuthSlots - calls.length)

def listing (records : List (AuthCall × ℕ)) : List Bytes :=
  records.map fun record =>
    "AUTH_FLOW:   [".toList ++ number record.2 ++ "]=".toList ++ record.1.url.spec

def loopReport (records : List (AuthCall × ℕ)) (call : AuthCall) : List Bytes :=
  ["AUTH_FLOW: redirect loop suspected".toList,
    "AUTH_FLOW: repeated url=".toList ++ call.url.spec,
    "AUTH_FLOW: last 10 redirects=".toList] ++ listing records

theorem loopAt_iff {recent : RecentAuth} {calls : List AuthCall}
    (holds : Holds recent (calls.map AuthCall.entry)) (call : AuthCall) :
    3 ≤ recent.repeats call.now call.url.spec ↔ LoopAt calls call := by
  rw [repeats_eq holds, LoopAt, rtake_map, List.countP_map]
  refine iff_of_eq (congrArg (3 ≤ List.countP · _) (funext fun record => ?_))
  simp only [Function.comp_apply, repeatsURL, AuthCall.entry, Nat.sub_le_iff_le_add,
    Nat.add_comm kLoopWindow]
  exact Bool.and_comm _ _

theorem listing_nonempty (records : List (AuthCall × ℕ)) :
    listing (records.filter fun record => !record.1.url.isEmpty) =
      records.filterMap fun record => dumpLine record.2 record.1.url.spec := by
  rw [listing, ← List.filterMap_eq_map, List.filterMap_filter]
  refine congrArg (List.filterMap · _) (funext fun record => ?_)
  simp only [dumpLine, GURL.isEmpty, Function.comp_apply]
  by_cases empty : record.1.url.spec.isEmpty = true <;> simp [empty]

theorem dump_eq_listing {recent : RecentAuth} {calls : List AuthCall}
    (holds : Holds recent (calls.map AuthCall.entry)) :
    recent.dump = listing ((lastCalls calls).filter fun record => !record.1.url.isEmpty) := by
  rw [dump_eq holds, listing_nonempty, rtake_map, List.length_map, List.zipIdx_map,
    List.filterMap_map]
  rfl

end Auth

section LoadStarts

def kRecentLoadStartSlots : ℕ := 16

def kLoadStartWindow : ℕ := 10000000

instance : NeZero kRecentLoadStartSlots := ⟨by decide⟩

/-- `g_recent_load_starts` and its head; `none` is a null time. -/
abbrev RecentLoadStarts := CircularBuffer ℕ kRecentLoadStartSlots

def recordLoadStart (recent : RecentLoadStarts) (now : ℕ) : RecentLoadStarts := recent.push now

def loadStartsInLast10s (recent : RecentLoadStarts) (now : ℕ) : ℕ :=
  (List.finRange kRecentLoadStartSlots).countP fun i =>
    (recent.slots i).any fun start => now - start ≤ kLoadStartWindow

theorem loadStarts_eq (starts : List ℕ) (now : ℕ) (sorted : starts.Pairwise (· ≤ ·)) :
    loadStartsInLast10s (starts.foldl recordLoadStart {}) now =
      min kRecentLoadStartSlots (starts.countP fun start => now ≤ start + kLoadStartWindow) := by
  let late : ℕ → Bool := fun start => now - start ≤ kLoadStartWindow
  have lasting : ∀ a b, a ≤ b → late a = true → late b = true := by
    intro a b older here
    simp only [late, decide_eq_true_eq] at here ⊢
    omega
  calc loadStartsInLast10s (starts.foldl recordLoadStart {}) now
      = (starts.rtake kRecentLoadStartSlots).countP late :=
        countP_ofHistory (Option.any late) starts rfl
    _ = min kRecentLoadStartSlots (starts.countP late) := countP_rtake late lasting starts sorted _
    _ = _ := by simp only [late, Nat.sub_le_iff_le_add, Nat.add_comm kLoadStartWindow]

end LoadStarts

section Report

variable (settings : LogSettings) (process : Process)

theorem logStep_recent (stripMwebFallback : GURL → GURL) (event : LogEvent) :
    (logStep settings stripMwebFallback process event).recent = process.recent ∨
      ∃ call : AuthCall, (logStep settings stripMwebFallback process event).recent =
        process.recent.record call.now call.url.spec := by
  cases event with
  | didStart now navigation =>
    simp only [logStep]
    split_ifs
    · exact .inl rfl
    · exact .inl rfl
    · refine .inr ⟨⟨now, navigation.url⟩, (recordAuth_recent settings _ ⟨now, _⟩).trans ?_⟩
      rw [diag_recent]
  | didRedirect now navigation =>
    simp only [logStep]
    split_ifs
    · exact .inl rfl
    · exact .inl rfl
    · refine .inr ⟨⟨now, navigation.url⟩, ?_⟩
      rw [diag_recent]
      refine (recordAuth_recent settings _ ⟨now, _⟩).trans ?_
      rw [diag_recent]
  | didFinish navigation =>
    refine .inl ?_
    simp only [logStep, applyCommit, updateKeyboardChatFallback]
    split_ifs <;> simp
  | cookiesFlushed => exact .inl (diag_recent settings _ _ _)
  | cookiesListed cookies => exact .inl (diag_recent settings _ _ _)

/-- Behind the calls `past` a call writes to the log exactly if it closes a loop, and then lists
those of the last calls that `listed` keeps. A build without diagnostics writes nothing. -/
def ReportsExactly (listed : AuthCall × ℕ → Bool) (past : List AuthCall) (call : AuthCall) : Prop :=
  let before := past.foldl (recordAuth settings) (unrecorded process)
  let calls := past ++ [call]
  (recordAuth settings before call).log = before.log ++
    if settings.diagnostics = true ∧ LoopAt calls call then
      (loopReport ((lastCalls calls).filter listed) call).map (⟨true, ·⟩)
    else []

theorem recordAuth_reports (past : List AuthCall) (call : AuthCall) :
    ReportsExactly settings process (fun record => !record.1.url.isEmpty) past call := by
  have holds : Holds (recordAuth settings
      (past.foldl (recordAuth settings) (unrecorded process)) call).recent
        ((past ++ [call]).map AuthCall.entry) := by
    simpa only [List.foldl_concat] using holds_calls settings process (past ++ [call])
  rw [recordAuth_recent] at holds
  rw [ReportsExactly, recordAuth_log]
  simp only [loopAt_iff holds, loopTexts, dump_eq_listing holds, loopReport]

theorem run_holds (stripMwebFallback : GURL → GURL) (events : List LogEvent) :
    ∃ calls : List AuthCall,
      Holds (events.foldl (logStep settings stripMwebFallback) (unrecorded process)).recent
        (calls.map AuthCall.entry) := by
  induction events using List.reverseRecOn with
  | nil => exact ⟨[], holds_empty⟩
  | append_singleton events event ih =>
    obtain ⟨calls, holds⟩ := ih
    rw [List.foldl_concat]
    generalize events.foldl (logStep settings stripMwebFallback) (unrecorded process) = before
      at holds ⊢
    obtain same | ⟨call, recorded⟩ := logStep_recent settings before stripMwebFallback event
    · exact ⟨calls, same ▸ holds⟩
    · refine ⟨calls ++ [call], ?_⟩
      rw [recorded, List.map_append]
      exact holds_record holds call.now call.url.spec

/-- Both rings count exactly; the dump leaves out the records of an empty URL. -/
theorem navigationRings_exact :
    (∀ past call,
      ReportsExactly settings process (fun record => !record.1.url.isEmpty) past call) ∧
    ∀ (starts : List ℕ) (now : ℕ), starts.Pairwise (· ≤ ·) →
      loadStartsInLast10s (starts.foldl recordLoadStart {}) now =
        min kRecentLoadStartSlots (starts.countP fun start => now ≤ start + kLoadStartWindow) :=
  ⟨recordAuth_reports settings process, loadStarts_eq⟩

end Report

def plainProcess : Process := { site := noSite, recent := noRecords }

def steadyStarts : List ℕ := (List.range 18).map (· * 500000)

theorem navigationRings_exact_example :
    loadStartsInLast10s (steadyStarts.foldl recordLoadStart {}) 9000000 = 16 := by
  rw [(navigationRings_exact ⟨true, false⟩ plainProcess).2 steadyStarts 9000000 (by decide)]
  decide

def loginPage : GURL :=
  ⟨true, "https://auth.openai.com/".toList, "https".toList, "auth.openai.com".toList, "/".toList⟩

/-- The empty URL is recorded and no line of the dump shows it. -/
theorem recordAuth_drops_emptyURL :
    ¬ ReportsExactly ⟨true, false⟩ plainProcess (fun _ => true)
      [⟨0, GURL.none⟩, ⟨1, loginPage⟩, ⟨2, loginPage⟩] ⟨3, loginPage⟩ := by
  unfold ReportsExactly
  decide +kernel

end BlinkerFluid.NavigationRings
