import BlinkerFluid.MediaScans
import BlinkerFluid.StepRun

/-! All lists together. Whatever is asked of the manager and in whatever order the sources answer,
a list that is watched comes to show the devices of the system. -/

namespace BlinkerFluid.MediaDevices
open StepRun

variable (p : Platform)

/-- What a call may do to the lists, who it may ask, and what it may answer. -/
def Moves (m m' : MediaDevicesManager) : Prop :=
  (∀ type, Steps p type (m.lists type) (m'.lists type)) ∧
    (∀ entry ∈ m'.asked, entry ∈ m.asked ∨ entry.2 = sourceOf p entry.1) ∧
    ∀ answer ∈ m'.answers, answer ∈ m.answers ∨
      ∀ type, sourceOf p type = .blocked → answer.2 type = []

/-- The lists are in order, and those that are watched show the devices. -/
structure Watching (w : World) : Prop where
  sound : ∀ type, Sound p type (w.manager.lists type)
  fresh : ∀ type, Fresh p type (w.devices type) (w.untold type) (w.manager.lists type)

variable {p} {m m' m'' : MediaDevicesManager} {w : World}

theorem Moves.sound (moves : Moves p m m') (type : MediaDeviceType) :
    Sound p type (m'.lists type) := (moves.1 type).sound

theorem Moves.refl (sound : ∀ type, Sound p type (m.lists type)) : Moves p m m :=
  ⟨fun type => .refl (sound type), fun _ => .inl, fun _ => .inl⟩

theorem Moves.trans (first : Moves p m m') (second : Moves p m' m'') : Moves p m m'' :=
  ⟨fun type => (first.1 type).trans (second.1 type),
    fun entry mem => (second.2.1 entry mem).elim (first.2.1 entry) .inr,
    fun answer mem => (second.2.2 answer mem).elim (first.2.2 answer) .inr⟩

theorem Moves.ite {c : Prop} [Decidable c] (sound : ∀ type, Sound p type (m.lists type))
    (moves : Moves p m m') : Moves p m (if c then m' else m) := by
  split_ifs
  · exact moves
  · exact .refl sound

theorem set_lists_self (type : MediaDeviceType) (d : DeviceList) :
    (m.set type d).lists type = d := Function.update_self ..

theorem set_lists_of_ne {type other : MediaDeviceType} (ne : other ≠ type) {d : DeviceList} :
    (m.set type d).lists other = m.lists other := Function.update_of_ne ne ..

theorem moves_set (sound : ∀ type, Sound p type (m.lists type)) {type : MediaDeviceType}
    {d : DeviceList} (steps : Steps p type (m.lists type) d) : Moves p m (m.set type d) := by
  refine ⟨fun other => ?_, fun _ => .inl, fun _ => .inl⟩
  by_cases same : other = type
  · subst same
    rwa [set_lists_self]
  · rw [set_lists_of_ne same]
    exact .refl (sound other)

theorem moves_change (sound : ∀ type, Sound p type (m.lists type)) {type : MediaDeviceType}
    {d : DeviceList} (steps : Steps p type (m.lists type) d) : Moves p m (m.change type d) := by
  refine ⟨(moves_set sound steps).1, fun entry mem => ?_, fun _ => .inl⟩
  refine (List.mem_append.mp mem).imp_right fun new => ?_
  obtain ⟨scan, begun, rfl⟩ := List.mem_map.mp new
  exact steps.sound.numbered.sources scan (List.mem_of_mem_drop begun)

theorem moves_enumerateSystemDevices (sound : ∀ type, Sound p type (m.lists type))
    (type : MediaDeviceType) : Moves p m (enumerateSystemDevices p m type) :=
  moves_change sound (steps_beginScan (sound type))

theorem moves_setCachePolicy (sound : ∀ type, Sound p type (m.lists type)) (type : MediaDeviceType)
    (policy : CachePolicy) : Moves p m (setCachePolicy p type policy m) :=
  moves_change sound (steps_setPolicy (sound type) policy)

theorem moves_handleDevicesChanged (sound : ∀ type, Sound p type (m.lists type)) (now : ℕ)
    (type : MediaDeviceType) : Moves p m (handleDevicesChanged p now m type) :=
  moves_change sound (steps_noteChange (sound type) now)

theorem moves_setAudioPolicy (sound : ∀ type, Sound p type (m.lists type)) (policy : CachePolicy) :
    Moves p m (setCachePolicy p .kMediaAudioOutput policy
      (setCachePolicy p .kMediaAudioInput policy m)) := by
  have inputs := moves_setCachePolicy sound .kMediaAudioInput policy
  exact inputs.trans (moves_setCachePolicy inputs.sound .kMediaAudioOutput policy)

theorem moves_startMonitoring (sound : ∀ type, Sound p type (m.lists type))
    (mode : MonitoringMode) : Moves p m (startMonitoringAndPopulateCache p mode m) := by
  unfold startMonitoringAndPopulateCache
  refine .ite sound ?_
  have cameras := Moves.ite
    (c := (p.kMediaDevicesSystemMonitorCache && mode.video && !m.monitoringStartedForVideo) = true)
    sound (moves_setCachePolicy sound .kMediaVideoInput .SYSTEM_MONITOR)
  exact cameras.trans (.ite cameras.sound (moves_setAudioPolicy cameras.sound .SYSTEM_MONITOR))

theorem moves_stopMonitoring (sound : ∀ type, Sound p type (m.lists type)) (mode : MonitoringMode) :
    Moves p m (stopMonitoring p mode m) := by
  have audio : Moves p m (if mode.audio && m.monitoringStartedForAudio then
      setCachePolicy p .kMediaAudioOutput .NO_CACHE (setCachePolicy p .kMediaAudioInput .NO_CACHE
        { m with monitoringStartedForAudio := false }) else m) :=
    .ite sound (moves_setAudioPolicy (m := { m with monitoringStartedForAudio := false }) sound
      .NO_CACHE)
  unfold stopMonitoring
  dsimp only
  generalize (if mode.audio && m.monitoringStartedForAudio then
      setCachePolicy p .kMediaAudioOutput .NO_CACHE (setCachePolicy p .kMediaAudioInput .NO_CACHE
        { m with monitoringStartedForAudio := false }) else m) = m' at audio ⊢
  have video : Moves p m' (if mode.video && m'.monitoringStartedForVideo then
      setCachePolicy p .kMediaVideoInput .NO_CACHE { m' with monitoringStartedForVideo := false }
      else m') :=
    .ite audio.sound (moves_setCachePolicy (m := { m' with monitoringStartedForVideo := false })
      audio.sound .kMediaVideoInput .NO_CACHE)
  generalize (if mode.video && m'.monitoringStartedForVideo then
      setCachePolicy p .kMediaVideoInput .NO_CACHE { m' with monitoringStartedForVideo := false }
      else m') = m'' at video ⊢
  refine audio.trans (video.trans ?_)
  split_ifs
  · exact .refl video.sound
  · exact Moves.refl video.sound

theorem moves_foldl {change : MediaDevicesManager → MediaDeviceType → MediaDevicesManager}
    (one : ∀ m, (∀ type, Sound p type (m.lists type)) → ∀ type, Moves p m (change m type))
    (types : List MediaDeviceType) (m : MediaDevicesManager)
    (sound : ∀ type, Sound p type (m.lists type)) : Moves p m (types.foldl change m) := by
  induction types generalizing m with
  | nil => exact .refl sound
  | cons type types ih =>
    have first := one m sound type
    exact first.trans (ih _ first.sound)

theorem moves_scanRequested (requested : MediaDeviceType → Bool)
    (sound : ∀ type, Sound p type (m.lists type)) (type : MediaDeviceType) :
    Moves p m (scanRequested p requested m type) := by
  have reset : Moves p m (resetForRequest p type m) :=
    .ite sound (moves_set sound (steps_resetSpurious (sound type)))
  exact reset.trans (.ite reset.sound (moves_enumerateSystemDevices reset.sound type))

theorem same_groupedVideoDevices (m : MediaDevicesManager) :
    Same (groupedVideoDevices m) (m.lists .kMediaVideoInput).currentSnapshot := by
  rw [Same, groupedVideoDevices, List.map_map]
  rfl

theorem moves_regroup (sound : ∀ type, Sound p type (m.lists type)) :
    Moves p m (if (m.lists .kMediaVideoInput).cacheIsPopulated then
      updateSnapshot p .kMediaVideoInput (groupedVideoDevices m) true m else m) := by
  split_ifs with populated
  · exact moves_set sound
      (steps_regroup (sound .kMediaVideoInput) (same_groupedVideoDevices m) populated)
  · exact .refl sound

theorem moves_processClientRequests (sound : ∀ type, Sound p type (m.lists type)) :
    Moves p m (processClientRequests p m) := by
  refine (moves_regroup sound).trans ⟨fun type => .refl ((moves_regroup sound).sound type),
    fun _ => .inl, fun answer mem => ?_⟩
  refine (List.mem_append.mp mem).imp_right fun new type blocked => ?_
  obtain ⟨request, -, rfl⟩ := List.mem_map.mp new
  exact ((moves_regroup sound).sound type).numbered.blocked blocked

theorem moves_enumerateDevices (sound : ∀ type, Sound p type (m.lists type))
    (requested : MediaDeviceType → Bool) : Moves p m (enumerateDevices p requested m) := by
  have started := moves_startMonitoring sound
    ⟨requested .kMediaAudioInput || requested .kMediaAudioOutput, requested .kMediaVideoInput⟩
  unfold enumerateDevices
  dsimp only
  generalize startMonitoringAndPopulateCache p _ m = m' at started ⊢
  have scanned := moves_foldl (fun _ sound => moves_scanRequested requested sound)
    mediaDeviceTypes
    { m' with
      clientRequests := m'.clientRequests ++ [⟨m'.requestCount, requested, fun _ => false⟩]
      requestCount := m'.requestCount + 1 } started.sound
  exact started.trans
    (scanned.trans (.ite scanned.sound (moves_processClientRequests scanned.sound)))

theorem moves_onDevicesChanged (sound : ∀ type, Sound p type (m.lists type)) (now : ℕ)
    (deviceType : DeviceType) : Moves p m (onDevicesChanged p now deviceType m) :=
  moves_foldl (fun _ sound => moves_handleDevicesChanged sound now) deviceType.types m sound

theorem recordEnumeration_lists (now : ℕ) (type : MediaDeviceType) (new : Devices)
    (m : MediaDevicesManager) : (recordEnumeration p now type new m).lists =
      (m.set type (completeScan p now new (m.lists type))).lists := by
  unfold recordEnumeration
  dsimp only
  split_ifs <;> rfl

theorem recordEnumeration_asked (now : ℕ) (type : MediaDeviceType) (new : Devices)
    (m : MediaDevicesManager) : (recordEnumeration p now type new m).asked = m.asked := by
  unfold recordEnumeration
  dsimp only
  split_ifs <;> rfl

theorem recordEnumeration_answers (now : ℕ) (type : MediaDeviceType) (new : Devices)
    (m : MediaDevicesManager) : (recordEnumeration p now type new m).answers = m.answers := by
  unfold recordEnumeration
  dsimp only
  split_ifs <;> rfl

theorem recordEnumeration_self (now : ℕ) (type : MediaDeviceType) (new : Devices)
    (m : MediaDevicesManager) : (recordEnumeration p now type new m).lists type =
      completeScan p now new (m.lists type) := by
  rw [recordEnumeration_lists, set_lists_self]

theorem exists_scan_of_answered {new : Devices} {type : MediaDeviceType}
    (answer : answered m type = some new) :
    ∃ scan rest, (m.lists type).scans = scan :: rest ∧ scan.result type = some new := by
  obtain ⟨scan, first, result⟩ := Option.bind_eq_some_iff.mp answer
  obtain ⟨rest, scans⟩ := List.head?_eq_some_iff.mp first
  exact ⟨scan, rest, scans, result⟩

theorem moves_recordEnumeration (sound : ∀ type, Sound p type (m.lists type)) {now : ℕ}
    {type : MediaDeviceType} {new : Devices} (answer : answered m type = some new)
    (valid : isLastUpdateValid p now
      ((recordEnumeration p now type new m).lists type).cacheInfo = true) :
    Moves p m (recordEnumeration p now type new m) := by
  obtain ⟨scan, rest, scans, result⟩ := exists_scan_of_answered answer
  rw [recordEnumeration_self] at valid
  rw [Moves, recordEnumeration_lists, recordEnumeration_asked, recordEnumeration_answers]
  exact moves_set sound (steps_completeScan (sound type) scans result valid)

theorem moves_devicesEnumerated (sound : ∀ type, Sound p type (m.lists type)) (now : ℕ)
    {type : MediaDeviceType} {new : Devices} (answer : answered m type = some new) :
    Moves p m (devicesEnumerated p now type new m) := by
  unfold devicesEnumerated
  dsimp only
  split_ifs with valid
  · have completed := moves_recordEnumeration sound answer valid
    exact completed.trans (moves_processClientRequests completed.sound)
  · obtain ⟨scan, rest, scans, result⟩ := exists_scan_of_answered answer
    rw [recordEnumeration_self, Bool.not_eq_true] at valid
    have again := moves_set sound (steps_overtaken (sound type) scans result valid)
    have lists : (enumerateSystemDevices p (recordEnumeration p now type new m) type).lists =
        (m.set type (beginScan p type (completeScan p now new (m.lists type)))).lists := by
      rw [enumerateSystemDevices, recordEnumeration_self]
      change Function.update (recordEnumeration p now type new m).lists type _ = _
      rw [recordEnumeration_lists]
      exact Function.update_idem ..
    refine ⟨lists ▸ again.1, fun entry mem => ?_, fun answer mem => .inl ?_⟩
    · rw [enumerateSystemDevices, MediaDevicesManager.change, recordEnumeration_self] at mem
      refine (List.mem_append.mp mem).imp (recordEnumeration_asked now type new m ▸ ·) fun new => ?_
      obtain ⟨scan', begun, rfl⟩ := List.mem_map.mp new
      have numbered := (again.sound type).numbered
      rw [set_lists_self] at numbered
      exact numbered.sources scan' (List.mem_of_mem_drop begun)
    · exact recordEnumeration_answers (p := p) now type new m ▸ mem

/-! Runs. -/

theorem World.runs_self (w : World) : w.runs w.manager = w := by
  simp [World.runs]

theorem step_cases (sound : ∀ type, Sound p type (w.manager.lists type)) (event : Event) :
    (∃ m, Moves p w.manager m ∧ step p w event = w.runs m) ∨
    (∃ type devices, (devices = w.devices type ∨ event = .fails type devices) ∧
      step p w event = { w with manager := sees type devices w.manager }) ∨
    ∃ type devices, step p w event =
      { w with
        devices := Function.update w.devices type devices
        untold := Function.update w.untold type true } := by
  cases event with
  | enumerates requested => exact .inl ⟨_, moves_enumerateDevices sound _, rfl⟩
  | startsMonitoring mode => exact .inl ⟨_, moves_startMonitoring sound _, rfl⟩
  | stopsMonitoring mode => exact .inl ⟨_, moves_stopMonitoring sound _, rfl⟩
  | devicesChange type devices => exact .inr (.inr ⟨type, devices, rfl⟩)
  | notified now deviceType =>
    left
    unfold step
    dsimp only
    split_ifs
    · exact ⟨_, moves_onDevicesChanged sound _ _, rfl⟩
    · exact ⟨_, .refl sound, w.runs_self.symm⟩
  | looks type => exact .inr (.inl ⟨type, _, .inl rfl, rfl⟩)
  | fails type devices => exact .inr (.inl ⟨type, devices, .inr rfl, rfl⟩)
  | answers now type =>
    left
    unfold step
    dsimp only
    split
    · exact ⟨_, .refl sound, w.runs_self.symm⟩
    · next answer => exact ⟨_, moves_devicesEnumerated sound _ answer, rfl⟩

theorem sound_sees (sound : ∀ type, Sound p type (m.lists type)) (type : MediaDeviceType)
    (devices : Devices) (other : MediaDeviceType) :
    Sound p other ((sees type devices m).lists other) := by
  rw [sees]
  by_cases same : other = type
  · subst same
    rw [set_lists_self]
    exact (sound other).looks _
  · rw [set_lists_of_ne same]
    exact sound other

theorem watching_step {event : Event} (watching : Watching p w)
    (succeeds : ∀ type seen, event ≠ .fails type seen) : Watching p (step p w event) := by
  obtain ⟨m, moves, call⟩ | ⟨type, devices, looks, call⟩ | ⟨type, devices, call⟩ :=
    step_cases watching.sound event
  · rw [call]
    exact ⟨moves.sound, fun type => (moves.1 type).fresh _ _ (watching.fresh type)⟩
  · obtain rfl := looks.resolve_right (succeeds type devices)
    rw [call]
    refine ⟨sound_sees watching.sound type _, fun other => ?_⟩
    by_cases same : other = type
    · subst same
      rw [sees, set_lists_self]
      exact (watching.fresh other).looks
    · rw [sees, set_lists_of_ne same]
      exact watching.fresh other
  · rw [call]
    refine ⟨watching.sound, fun other => ?_⟩
    by_cases same : other = type
    · subst same
      intro _ _ _ told
      simp only [Function.update_self, reduceCtorEq] at told
    · simp only [Function.update_of_ne same]
      exact watching.fresh other

theorem sound_start (devices : MediaDeviceType → Devices) (type : MediaDeviceType) :
    Sound p type ((start devices).manager.lists type) :=
  ⟨⟨rfl, le_rfl, le_rfl, by rintro _ ⟨⟩, fun _ => rfl, fun _ => rfl⟩, by rintro ⟨⟩, by rintro ⟨⟩⟩

def phone : Platform := ⟨true, true, false, true, true, 5, 60⟩

def speaker : WebMediaDeviceInfo := ⟨"s".toList, "Speaker".toList, [], 0, 0⟩

def headphones : WebMediaDeviceInfo := ⟨"h".toList, "Headphones".toList, [], 0, 0⟩

def pluggedRun : List Event :=
  [.enumerates fun type => type = .kMediaAudioOutput, .looks .kMediaAudioOutput,
    .devicesChange .kMediaAudioOutput [speaker, headphones], .notified 1 .devtypeAudio,
    .answers 2 .kMediaAudioOutput, .looks .kMediaAudioOutput, .answers 3 .kMediaAudioOutput]

/-- Whatever is asked, told and answered in whatever order, a list that is watched shows the
devices of the system, as soon as it was told of their last change and its scan is over. -/
theorem watched_devices_agree (devices : MediaDeviceType → Devices) (events : List Event)
    (succeed : ∀ type seen, .fails type seen ∉ events) (type : MediaDeviceType) :
    let w := events.foldl (step p) (start devices)
    (w.manager.lists type).cachePolicy = .SYSTEM_MONITOR →
      (w.manager.lists type).cacheInfo.isInRelaxedMode = false →
        (w.manager.lists type).cacheInfo.isUpdateOngoing = false → w.untold type = false →
          Same (w.manager.lists type).currentSnapshot (expected p type (w.devices type)) := by
  intro w policy strict over_ told
  have watching : Watching p w := by
    refine invariant_run (fun _ _ watching => watching_step watching) (start devices) events
      ⟨sound_start devices, fun _ => by rintro ⟨⟩⟩ ?_
    exact (permitted_iff_each _ _).mpr fun past event ahead type seen same =>
      succeed type seen (same ▸ ahead.subset (by simp))
  have valid := (watching.sound type).valid policy strict over_
  exact (watching.fresh type policy strict valid told).2 over_

theorem watched_devices_agree_plugged :
    Same ((pluggedRun.foldl (step phone) (start fun _ => [speaker])).manager.lists
      .kMediaAudioOutput).currentSnapshot (expected phone .kMediaAudioOutput
        ((pluggedRun.foldl (step phone) (start fun _ => [speaker])).devices .kMediaAudioOutput)) :=
  watched_devices_agree _ pluggedRun (by rintro type seen mem; simp [pluggedRun] at mem)
    .kMediaAudioOutput rfl rfl rfl rfl

/-! The guard of the phone. -/

/-- Nobody but the source of a list was asked, and a blocked list was never shown. -/
structure Guarded (p : Platform) (w : World) : Prop where
  sound : ∀ type, Sound p type (w.manager.lists type)
  asked : ∀ entry ∈ w.manager.asked, entry.2 = sourceOf p entry.1
  answers : ∀ answer ∈ w.manager.answers, ∀ type, sourceOf p type = .blocked → answer.2 type = []

theorem guarded_step (w : World) (event : Event) (guarded : Guarded p w) :
    Guarded p (step p w event) := by
  obtain ⟨m, moves, call⟩ | ⟨type, devices, -, call⟩ | ⟨type, devices, call⟩ :=
    step_cases guarded.sound event
  · rw [call]
    exact ⟨moves.sound, fun entry mem => (moves.2.1 entry mem).elim (guarded.asked entry) id,
      fun answer mem => (moves.2.2 answer mem).elim (guarded.answers answer) id⟩
  · rw [call]
    exact ⟨sound_sees guarded.sound type _, guarded.asked, guarded.answers⟩
  · rw [call]
    exact ⟨guarded.sound, guarded.asked, guarded.answers⟩

/-- On the phone a page never hears of a camera or a microphone, and the capture of videos is
never asked, whatever devices there are. -/
theorem inputs_stay_hidden (onPhone : p.isIOS = true) (devices : MediaDeviceType → Devices)
    (events : List Event) {type : MediaDeviceType} (input : type ≠ .kMediaAudioOutput) :
    let w := events.foldl (step p) (start devices)
    (w.manager.lists type).currentSnapshot = [] ∧
      (∀ answer ∈ w.manager.answers, answer.2 type = []) ∧
      ∀ entry ∈ w.manager.asked, entry.2 ≠ .videoCaptureManager ∧
        (entry.1 = type → entry.2 = .blocked) := by
  intro w
  have guarded : Guarded p w :=
    invariant_always guarded_step (start devices) events
      ⟨sound_start devices, by rintro _ ⟨⟩, by rintro _ ⟨⟩⟩
  have blocked {type : MediaDeviceType} (input : type ≠ .kMediaAudioOutput) :
      sourceOf p type = .blocked := if_pos ⟨onPhone, input⟩
  refine ⟨(guarded.sound type).numbered.blocked (blocked input),
    fun answer mem => guarded.answers answer mem type (blocked input), fun entry mem => ?_⟩
  rw [guarded.asked entry mem]
  refine ⟨?_, fun same => same ▸ blocked input⟩
  unfold sourceOf
  split_ifs with stopped camera fake
  · rintro ⟨⟩
  · exact absurd ⟨onPhone, by rw [camera]; rintro ⟨⟩⟩ stopped
  · rintro ⟨⟩
  · rintro ⟨⟩

theorem inputs_stay_hidden_asked :
    (([.enumerates fun _ => true, .answers 1 .kMediaVideoInput].foldl (step phone)
        (start fun _ => [speaker])).manager.lists .kMediaVideoInput).currentSnapshot = [] :=
  (inputs_stay_hidden (p := phone) rfl (fun _ => [speaker])
    [.enumerates fun _ => true, .answers 1 .kMediaVideoInput] (by rintro ⟨⟩)).1

end BlinkerFluid.MediaDevices
