import BlinkerFluid.MediaWatch

/-! The requests of the pages. A request waits for lists that are being scanned and for nothing
else, and it is answered once. -/

namespace BlinkerFluid.MediaDevices
open StepRun

variable {p : Platform} {type : MediaDeviceType} {d d' : DeviceList}
variable {m m' m'' : MediaDevicesManager} {w : World} {requested : MediaDeviceType → Bool}

/-- A list keeps its scan, and is not given up. -/
structure Goes (d d' : DeviceList) : Prop where
  ongoing : d.cacheInfo.isUpdateOngoing = true → d'.cacheInfo.isUpdateOngoing = true
  policy : d'.cachePolicy = .NO_CACHE → d.cachePolicy = .NO_CACHE

/-- The lists go on, and the requests stay. -/
def Keeps (m m' : MediaDevicesManager) : Prop :=
  (∀ type, Goes (m.lists type) (m'.lists type)) ∧ m'.clientRequests = m.clientRequests ∧
    m'.answers = m.answers ∧ m'.requestCount = m.requestCount

/-- What a request has not seen is being scanned. -/
def Expects (m : MediaDevicesManager) : Prop :=
  ∀ request ∈ m.clientRequests, ∀ type, request.requested type = true →
    (m.lists type).cachePolicy = .NO_CACHE → request.hasSeenResultForRequest type = false →
      (m.lists type).cacheInfo.isUpdateOngoing = true

/-- A request that waits has a scan to wait for. -/
def Attended (m : MediaDevicesManager) : Prop :=
  m.clientRequests ≠ [] → ∃ type, (m.lists type).cacheInfo.isUpdateOngoing = true

def Counted (m : MediaDevicesManager) : Prop :=
  (m.answers.map Prod.fst ++ m.clientRequests.map EnumerationRequest.id).Perm
    (List.range m.requestCount)

theorem Keeps.refl (m : MediaDevicesManager) : Keeps m m := ⟨fun _ => ⟨id, id⟩, rfl, rfl, rfl⟩

theorem Keeps.trans (first : Keeps m m') (second : Keeps m' m'') : Keeps m m'' :=
  ⟨fun type => ⟨fun before => (second.1 type).ongoing ((first.1 type).ongoing before),
    fun after => (first.1 type).policy ((second.1 type).policy after)⟩,
    second.2.1.trans first.2.1, second.2.2.1.trans first.2.2.1, second.2.2.2.trans first.2.2.2⟩

theorem Keeps.ite {c : Prop} [Decidable c] (keeps : Keeps m m') :
    Keeps m (if c then m' else m) := by
  split_ifs
  · exact keeps
  · exact .refl m

theorem Keeps.expects (keeps : Keeps m m') (expects : Expects m) : Expects m' := by
  intro request waits type requested policy unseen
  rw [keeps.2.1] at waits
  exact (keeps.1 type).ongoing
    (expects request waits type requested ((keeps.1 type).policy policy) unseen)

theorem Keeps.attended (keeps : Keeps m m') (attended : Attended m) : Attended m' := by
  intro waits
  rw [keeps.2.1] at waits
  obtain ⟨type, ongoing⟩ := attended waits
  exact ⟨type, (keeps.1 type).ongoing ongoing⟩

theorem Keeps.counted (keeps : Keeps m m') (counted : Counted m) : Counted m' := by
  rwa [Counted, keeps.2.1, keeps.2.2.1, keeps.2.2.2]

theorem keeps_set (goes : Goes (m.lists type) d) : Keeps m (m.set type d) := by
  refine ⟨fun other => ?_, rfl, rfl, rfl⟩
  by_cases same : other = type
  · subst same
    rwa [set_lists_self]
  · rw [set_lists_of_ne same]
    exact ⟨id, id⟩

theorem keeps_change (goes : Goes (m.lists type) d) : Keeps m (m.change type d) := keeps_set goes

theorem beginScan_cachePolicy (d : DeviceList) :
    (beginScan p type d).cachePolicy = d.cachePolicy := by
  unfold beginScan
  split_ifs <;> rfl

theorem goes_beginScan (d : DeviceList) : Goes d (beginScan p type d) :=
  ⟨fun _ => beginScan_ongoing d, (beginScan_cachePolicy d).symm.trans⟩

theorem goes_watch (d : DeviceList) : Goes d (setPolicy p type .SYSTEM_MONITOR d) := by
  unfold setPolicy
  rw [if_pos rfl]
  split_ifs with same
  · exact ⟨id, id⟩
  · refine ⟨fun _ => beginScan_ongoing _, fun forgets => ?_⟩
    rw [beginScan_cachePolicy] at forgets
    cases forgets

theorem goes_noteChange (now : ℕ) (d : DeviceList) : Goes d (noteChange p now type d) := by
  unfold noteChange
  dsimp only
  split_ifs
  · exact ⟨fun _ => beginScan_ongoing _,
      (beginScan_cachePolicy (d.cached invalidateCache)).symm.trans⟩
  · exact ⟨id, id⟩

theorem goes_regroup (new : Devices) (d : DeviceList) : Goes d (storeSnapshot p new true d) := by
  obtain ⟨spurious, relaxed, stored, -⟩ := storeSnapshot_cases (p := p) new true d
  rw [stored]
  exact ⟨id, id⟩

theorem keeps_watch (m : MediaDevicesManager) (type : MediaDeviceType) :
    Keeps m (setCachePolicy p type .SYSTEM_MONITOR m) := keeps_change (goes_watch _)

theorem keeps_startMonitoring (mode : MonitoringMode) (m : MediaDevicesManager) :
    Keeps m (startMonitoringAndPopulateCache p mode m) := by
  unfold startMonitoringAndPopulateCache
  refine .ite ?_
  have cameras : Keeps m
      (if (p.kMediaDevicesSystemMonitorCache && mode.video && !m.monitoringStartedForVideo) = true
        then setCachePolicy p .kMediaVideoInput .SYSTEM_MONITOR m else m) :=
    .ite (keeps_watch m _)
  exact cameras.trans (.ite ((keeps_watch _ _).trans (keeps_watch _ _)))

theorem keeps_foldl {change : MediaDevicesManager → MediaDeviceType → MediaDevicesManager}
    (one : ∀ m type, Keeps m (change m type)) (types : List MediaDeviceType)
    (m : MediaDevicesManager) : Keeps m (types.foldl change m) := by
  induction types generalizing m with
  | nil => exact .refl m
  | cons type types ih => exact (one m type).trans (ih _)

theorem keeps_onDevicesChanged (now : ℕ) (deviceType : DeviceType) (m : MediaDevicesManager) :
    Keeps m (onDevicesChanged p now deviceType m) :=
  keeps_foldl (fun _ _ => keeps_change (goes_noteChange now _)) _ m

theorem keeps_reset (m : MediaDevicesManager) (type : MediaDeviceType) :
    Keeps m (resetForRequest p type m) :=
  .ite (keeps_set ⟨id, id⟩)

theorem keeps_scanRequested (m : MediaDevicesManager) (type : MediaDeviceType) :
    Keeps m (scanRequested p requested m type) :=
  (keeps_reset m type).trans (.ite (keeps_change (goes_beginScan _)))

/-! A request is made. -/

theorem set_cachePolicy (same : d.cachePolicy = (m.lists type).cachePolicy)
    (other : MediaDeviceType) :
    ((m.set type d).lists other).cachePolicy = (m.lists other).cachePolicy := by
  by_cases equal : other = type
  · subst equal
    rw [set_lists_self, same]
  · rw [set_lists_of_ne equal]

theorem resetForRequest_cachePolicy (m : MediaDevicesManager) (type other : MediaDeviceType) :
    ((resetForRequest p type m).lists other).cachePolicy = (m.lists other).cachePolicy := by
  unfold resetForRequest
  split_ifs
  · exact set_cachePolicy (d := (m.lists type).cached resetSpuriousInvalidations) rfl other
  · rfl

theorem enumerateSystemDevices_self (m : MediaDevicesManager) (type : MediaDeviceType) :
    (enumerateSystemDevices p m type).lists type = beginScan p type (m.lists type) :=
  set_lists_self type _

theorem enumerateSystemDevices_ongoing (m : MediaDevicesManager) (type : MediaDeviceType) :
    ((enumerateSystemDevices p m type).lists type).cacheInfo.isUpdateOngoing = true := by
  rw [enumerateSystemDevices_self]
  exact beginScan_ongoing _

theorem scanRequested_cachePolicy (m : MediaDevicesManager) (type other : MediaDeviceType) :
    ((scanRequested p requested m type).lists other).cachePolicy = (m.lists other).cachePolicy := by
  unfold scanRequested
  dsimp only
  rw [← resetForRequest_cachePolicy (p := p) m type other]
  split_ifs
  · exact set_cachePolicy (beginScan_cachePolicy _) other
  · rfl

theorem scanRequested_ongoing (wanted : requested type = true)
    (policy : (m.lists type).cachePolicy = .NO_CACHE) :
    ((scanRequested p requested m type).lists type).cacheInfo.isUpdateOngoing = true := by
  unfold scanRequested
  dsimp only
  rw [wanted, resetForRequest_cachePolicy, policy]
  exact enumerateSystemDevices_ongoing _ type

theorem foldl_scanRequested_ongoing (wanted : requested type = true) (types : List MediaDeviceType)
    (m : MediaDevicesManager) (mem : type ∈ types)
    (policy : (m.lists type).cachePolicy = .NO_CACHE) :
    ((types.foldl (scanRequested p requested) m).lists type).cacheInfo.isUpdateOngoing = true := by
  induction types generalizing m with
  | nil => cases mem
  | cons first types ih =>
    rcases List.mem_cons.mp mem with rfl | mem
    · exact ((keeps_foldl keeps_scanRequested types _).1 type).ongoing
        (scanRequested_ongoing wanted policy)
    · exact ih _ mem ((scanRequested_cachePolicy m first type).trans policy)

/-! Requests are answered. -/

theorem ids_answerReady (m : MediaDevicesManager) (counted : Counted m) :
    Counted (answerReady m) := by
  refine .trans ?_ counted
  rw [answerReady, List.map_append, List.map_map, List.append_assoc]
  refine List.Perm.append_left _ ?_
  have apart := (List.filter_append_perm (isEnumerationRequestReady m.lists)
    m.clientRequests).map EnumerationRequest.id
  rw [List.map_append] at apart
  exact apart

theorem ongoing_of_not_ready (sound : ∀ type, Sound p type (m.lists type)) (expects : Expects m)
    {request : EnumerationRequest} (waits : request ∈ m.clientRequests)
    (unready : isEnumerationRequestReady m.lists request = false) :
    ∃ type, (m.lists type).cacheInfo.isUpdateOngoing = true := by
  obtain ⟨type, -, missing⟩ := List.all_eq_false.mp unready
  rw [Bool.not_eq_true, Bool.or_eq_false_iff, Bool.not_eq_false'] at missing
  obtain ⟨wanted, missing⟩ := missing
  refine ⟨type, ?_⟩
  cases policy : (m.lists type).cachePolicy with
  | NO_CACHE =>
    rw [policy] at missing
    exact expects request waits type wanted policy missing
  | SYSTEM_MONITOR =>
    rw [policy] at missing
    exact (sound type).populated policy missing

theorem keeps_regroup (m : MediaDevicesManager) :
    Keeps m (if (m.lists .kMediaVideoInput).cacheIsPopulated then
      updateSnapshot p .kMediaVideoInput (groupedVideoDevices m) true m else m) :=
  .ite (keeps_set (goes_regroup _ _))

structure Served (m : MediaDevicesManager) : Prop where
  expects : Expects m
  attended : Attended m
  counted : Counted m

theorem Keeps.served (keeps : Keeps m m') (served : Served m) : Served m' :=
  ⟨keeps.expects served.expects, keeps.attended served.attended, keeps.counted served.counted⟩

theorem served_processClientRequests (sound : ∀ type, Sound p type (m.lists type))
    (expects : Expects m) (counted : Counted m) : Served (processClientRequests p m) := by
  have moves := moves_regroup sound
  have keeps := keeps_regroup (p := p) m
  unfold processClientRequests
  generalize (if (m.lists .kMediaVideoInput).cacheIsPopulated then
    updateSnapshot p .kMediaVideoInput (groupedVideoDevices m) true m else m) = m' at moves keeps ⊢
  have expects' := keeps.expects expects
  refine ⟨fun request mem => expects' request (List.mem_filter.mp mem).1, fun waits => ?_,
    ids_answerReady m' (keeps.counted counted)⟩
  obtain ⟨request, mem⟩ := List.exists_mem_of_ne_nil _ waits
  obtain ⟨waits, unready⟩ := List.mem_filter.mp mem
  rw [Bool.not_eq_true'] at unready
  exact ongoing_of_not_ready (m := m') moves.sound expects' waits unready

theorem mem_mediaDeviceTypes (type : MediaDeviceType) : type ∈ mediaDeviceTypes := by
  cases type <;> decide

def noted (requested : MediaDeviceType → Bool) (m : MediaDevicesManager) : MediaDevicesManager :=
  { m with
    clientRequests := m.clientRequests ++ [⟨m.requestCount, requested, fun _ => false⟩]
    requestCount := m.requestCount + 1 }

theorem counted_noted (counted : Counted m) (requested : MediaDeviceType → Bool) :
    Counted (noted requested m) := by
  rw [Counted, noted, List.map_append, ← List.append_assoc, List.range_succ]
  exact List.Perm.append_right _ counted

theorem enumerateDevices_cases (sound : ∀ type, Sound p type (m.lists type))
    (requested : MediaDeviceType → Bool) :
    ∃ m' m'', Keeps m m' ∧ Keeps (noted requested m') m'' ∧
      (∀ type, Sound p type (m''.lists type)) ∧
      (∀ type, requested type = true → (m'.lists type).cachePolicy = .NO_CACHE →
        (m''.lists type).cacheInfo.isUpdateOngoing = true) ∧
      (enumerateDevices p requested m = processClientRequests p m'' ∨
        enumerateDevices p requested m = m'' ∧
          ∃ type, requested type = true ∧ (m'.lists type).cachePolicy = .NO_CACHE) := by
  have moves := moves_startMonitoring sound
    ⟨requested .kMediaAudioInput || requested .kMediaAudioOutput, requested .kMediaVideoInput⟩
  have keeps := keeps_startMonitoring (p := p)
    ⟨requested .kMediaAudioInput || requested .kMediaAudioOutput, requested .kMediaVideoInput⟩ m
  unfold enumerateDevices
  dsimp only
  generalize startMonitoringAndPopulateCache p _ m = m' at moves keeps ⊢
  refine ⟨m', mediaDeviceTypes.foldl (scanRequested p requested) (noted requested m'), keeps,
    keeps_foldl keeps_scanRequested mediaDeviceTypes _, ?_, fun type wanted policy => ?_, ?_⟩
  · exact (moves_foldl (fun _ sound => moves_scanRequested requested sound) mediaDeviceTypes
      (noted requested m') moves.sound).sound
  · exact foldl_scanRequested_ongoing wanted mediaDeviceTypes (noted requested m')
      (mem_mediaDeviceTypes type) policy
  · split_ifs with cached
    · exact .inl rfl
    · obtain ⟨type, -, missing⟩ := List.all_eq_false.mp (Bool.eq_false_iff.mpr cached)
      rw [Bool.not_eq_true, Bool.not_eq_false', Bool.and_eq_true, decide_eq_true_eq] at missing
      exact .inr ⟨rfl, type, missing⟩

theorem served_enumerateDevices (sound : ∀ type, Sound p type (m.lists type)) (served : Served m) :
    Served (enumerateDevices p requested m) := by
  obtain ⟨m', m'', keeps, scanned, sound', ongoing, answered⟩ :=
    enumerateDevices_cases sound requested
  have served' := keeps.served served
  have counted := scanned.counted (counted_noted served'.counted requested)
  have expects : Expects m'' := by
    intro request mem type wanted policy unseen
    have policy := (scanned.1 type).policy policy
    rw [scanned.2.1] at mem
    rcases List.mem_append.mp mem with old | new
    · exact (scanned.1 type).ongoing (served'.expects request old type wanted policy unseen)
    · obtain rfl := List.mem_singleton.mp new
      exact ongoing type wanted policy
  obtain call | ⟨call, type, wanted, policy⟩ := answered
  · rw [call]
    exact served_processClientRequests sound' expects counted
  · rw [call]
    exact ⟨expects, fun _ => ⟨type, ongoing type wanted policy⟩, counted⟩

theorem expects_recordEnumeration (expects : Expects m) (now : ℕ) (type : MediaDeviceType)
    (new : Devices) : Expects (recordEnumeration p now type new m) := by
  intro request waits other wanted policy unseen
  by_cases same : other = type
  · -- the requests have seen this list, unless it is watched
    subst same
    rw [recordEnumeration_self] at policy
    have seen : ∀ request ∈ (recordEnumeration p now other new m).clientRequests,
        request.hasSeenResultForRequest other = true := by
      unfold recordEnumeration
      dsimp only
      rw [set_lists_self, if_pos policy]
      intro request mem
      obtain ⟨before, -, rfl⟩ := List.mem_map.mp mem
      exact Function.update_self ..
    rw [seen request waits] at unseen
    cases unseen
  · have before : ∃ request' ∈ m.clientRequests, request'.requested = request.requested ∧
        request'.hasSeenResultForRequest other = request.hasSeenResultForRequest other := by
      unfold recordEnumeration at waits
      dsimp only at waits
      split_ifs at waits
      · obtain ⟨before, mem, rfl⟩ := List.mem_map.mp waits
        exact ⟨before, mem, rfl, (Function.update_of_ne same ..).symm⟩
      · exact ⟨request, waits, rfl, rfl⟩
    obtain ⟨before, waits, wanted', unseen'⟩ := before
    rw [recordEnumeration_lists, set_lists_of_ne same] at policy ⊢
    exact expects before waits other (wanted' ▸ wanted) policy (unseen'.trans unseen)

theorem counted_recordEnumeration (counted : Counted m) (now : ℕ) (type : MediaDeviceType)
    (new : Devices) : Counted (recordEnumeration p now type new m) := by
  unfold recordEnumeration
  dsimp only
  split_ifs
  · rw [Counted, List.map_map]
    exact counted
  · exact counted

theorem served_devicesEnumerated (sound : ∀ type, Sound p type (m.lists type)) (served : Served m)
    (now : ℕ) {new : Devices} (answer : answered m type = some new) :
    Served (devicesEnumerated p now type new m) := by
  have expects := expects_recordEnumeration (p := p) served.expects now type new
  have counted := counted_recordEnumeration (p := p) served.counted now type new
  unfold devicesEnumerated
  dsimp only
  split_ifs with valid
  · exact served_processClientRequests (moves_recordEnumeration sound answer valid).sound expects
      counted
  · have keeps : Keeps (recordEnumeration p now type new m)
        (enumerateSystemDevices p (recordEnumeration p now type new m) type) :=
      keeps_change (goes_beginScan _)
    exact ⟨keeps.expects expects, fun _ => ⟨type, enumerateSystemDevices_ongoing _ type⟩,
      keeps.counted counted⟩

theorem stopMonitoring_requests (mode : MonitoringMode) (m : MediaDevicesManager) :
    (stopMonitoring p mode m).clientRequests = m.clientRequests ∧
      (stopMonitoring p mode m).answers = m.answers ∧
        (stopMonitoring p mode m).requestCount = m.requestCount := by
  unfold stopMonitoring
  dsimp only
  split_ifs <;> exact ⟨rfl, rfl, rfl⟩

theorem served_stopMonitoring (mode : MonitoringMode) (nobody : m.clientRequests = [])
    (counted : Counted m) : Served (stopMonitoring p mode m) := by
  obtain ⟨requests, answers, count⟩ := stopMonitoring_requests (p := p) mode m
  refine ⟨fun request mem => ?_, fun waits => ?_, ?_⟩
  · rw [requests, nobody] at mem
    cases mem
  · rw [requests, nobody] at waits
    exact absurd rfl waits
  · rwa [Counted, requests, answers, count]

/-! Runs. -/

/-- Nobody stops the monitoring while a request waits. -/
def Patient (w : World) : Event → Prop
  | .stopsMonitoring _ => w.manager.clientRequests = []
  | _ => True

theorem sound_step (sound : ∀ type, Sound p type (w.manager.lists type)) (event : Event) :
    ∀ type, Sound p type ((step p w event).manager.lists type) := by
  obtain ⟨m, moves, call⟩ | ⟨type, devices, -, call⟩ | ⟨type, devices, call⟩ :=
    step_cases sound event
  · rw [call]
    exact moves.sound
  · rw [call]
    exact sound_sees sound type devices
  · rw [call]
    exact sound

theorem keeps_sees (type : MediaDeviceType) (devices : Devices) (m : MediaDevicesManager) :
    Keeps m (sees type devices m) := keeps_set ⟨id, id⟩

theorem served_step (sound : ∀ type, Sound p type (w.manager.lists type))
    (served : Served w.manager) {event : Event} (patient : Patient w event) :
    Served (step p w event).manager := by
  cases event with
  | enumerates requested => exact served_enumerateDevices sound served
  | startsMonitoring mode => exact (keeps_startMonitoring mode _).served served
  | stopsMonitoring mode => exact served_stopMonitoring mode patient served.counted
  | devicesChange type devices => exact served
  | notified now deviceType =>
    unfold step
    dsimp only
    split_ifs
    · exact (keeps_onDevicesChanged now deviceType _).served served
    · exact served
  | looks type => exact (keeps_sees type _ _).served served
  | fails type devices => exact (keeps_sees type devices _).served served
  | answers now type =>
    unfold step
    dsimp only
    split
    · exact served
    · next answer => exact served_devicesEnumerated sound served now answer

theorem served_run {devices : MediaDeviceType → Devices} {events : List Event}
    (patient : Permitted Patient (step p) (start devices) events) :
    let w := events.foldl (step p) (start devices)
    (∀ type, Sound p type (w.manager.lists type)) ∧ Served w.manager := by
  have each (w : World) (event : Event)
      (before : (∀ type, Sound p type (w.manager.lists type)) ∧ Served w.manager)
      (patient : Patient w event) :
      (∀ type, Sound p type ((step p w event).manager.lists type)) ∧
        Served (step p w event).manager :=
    ⟨sound_step before.1 event, served_step before.1 before.2 patient⟩
  refine invariant_run each (start devices) events ⟨sound_start devices, ?_, ?_, .refl _⟩ patient
  · rintro _ ⟨⟩
  · exact fun waits => absurd rfl waits

theorem nobody_waits (served : Served m)
    (idle : ∀ type, (m.lists type).cacheInfo.isUpdateOngoing = false) : m.clientRequests = [] := by
  by_contra waits
  obtain ⟨type, ongoing⟩ := served.attended waits
  rw [idle type] at ongoing
  cases ongoing

theorem pluggedRun_patient :
    Permitted Patient (step phone) (start fun _ => [speaker]) pluggedRun :=
  ⟨trivial, trivial, trivial, trivial, trivial, trivial, trivial, trivial⟩

/-- The list of microphones was scanned meanwhile, and became invalid. -/
def settledRun : List Event :=
  pluggedRun ++ [.answers 4 .kMediaAudioInput, .answers 5 .kMediaAudioInput]

theorem answered_of_idle {devices : MediaDeviceType → Devices} {events : List Event}
    (patient : Permitted Patient (step p) (start devices) events)
    (idle : ∀ type, ((events.foldl (step p) (start devices)).manager.lists
      type).cacheInfo.isUpdateOngoing = false) :
    let w := events.foldl (step p) (start devices)
    w.manager.clientRequests = [] ∧
      (w.manager.answers.map Prod.fst).Perm (List.range w.manager.requestCount) := by
  intro w
  have served : Served w.manager := (served_run patient).2
  have nobody : w.manager.clientRequests = [] := nobody_waits served idle
  have counted : Counted w.manager := served.counted
  rw [Counted, nobody, List.map_nil, List.append_nil] at counted
  exact ⟨nobody, counted⟩

/-- As soon as no list is being scanned, nobody waits: each request was answered, none twice. -/
theorem requests_answered_once {devices : MediaDeviceType → Devices} {events : List Event}
    (patient : Permitted Patient (step p) (start devices) events) :
    let w := events.foldl (step p) (start devices)
    (∀ type, (w.manager.lists type).cacheInfo.isUpdateOngoing = false) →
      w.manager.clientRequests = [] ∧
        (w.manager.answers.map Prod.fst).Perm (List.range w.manager.requestCount) :=
  answered_of_idle patient

theorem settledRun_patient :
    Permitted Patient (step phone) (start fun _ => [speaker]) settledRun :=
  (permitted_append _ _ _).mpr ⟨pluggedRun_patient, trivial, trivial, trivial⟩

theorem requests_answered_once_settled :
    ((settledRun.foldl (step phone) (start fun _ => [speaker])).manager.answers.map
      Prod.fst).Perm [0] :=
  (requests_answered_once settledRun_patient fun type => by cases type <;> rfl).2

/-- Who stops the monitoring too early strands a request that saw one of its lists in the cache. -/
example :
    let w := [.enumerates fun type => type = .kMediaAudioOutput, .looks .kMediaAudioOutput,
      .answers 1 .kMediaAudioOutput, .enumerates fun type => type ≠ .kMediaAudioInput,
      .stopsMonitoring ⟨true, true⟩, .answers 2 .kMediaVideoInput].foldl (step phone)
        (start fun _ => [speaker])
    w.manager.clientRequests.map EnumerationRequest.id = [1] ∧
      (w.manager.lists .kMediaAudioOutput).cacheInfo.isUpdateOngoing = false ∧
        (w.manager.lists .kMediaVideoInput).cacheInfo.isUpdateOngoing = false := by
  decide

/-! Scans come to an end. -/

theorem processClientRequests_cacheInfo (m : MediaDevicesManager) (type : MediaDeviceType) :
    ((processClientRequests p m).lists type).cacheInfo = (m.lists type).cacheInfo := by
  have grouped (d : DeviceList) (new : Devices) :
      (storeSnapshot p new true d).cacheInfo = d.cacheInfo := by
    unfold storeSnapshot
    rw [Bool.not_true, Bool.and_false]
    rfl
  unfold processClientRequests
  split_ifs
  · by_cases same : type = .kMediaVideoInput
    · subst same
      exact (congrArg DeviceList.cacheInfo (set_lists_self _ _)).trans (grouped _ _)
    · exact congrArg DeviceList.cacheInfo (set_lists_of_ne same)
  · rfl

/-- A source looks at the devices and answers. -/
def scanOnce (p : Platform) (now : ℕ) (w : World) (type : MediaDeviceType) : World :=
  step p (step p w (.looks type)) (.answers now type)

theorem sees_self (type : MediaDeviceType) (devices : Devices) (m : MediaDevicesManager) :
    (sees type devices m).lists type =
      { m.lists type with
        scans := (m.lists type).scans.map fun scan => { scan with seen := some devices } } :=
  set_lists_self ..

theorem scanOnce_of_ne {type other : MediaDeviceType} (ne : other ≠ type) (now : ℕ) (w : World) :
    ((scanOnce p now w type).manager.lists other).cacheInfo =
      (w.manager.lists other).cacheInfo := by
  have looked : (sees type (w.devices type) w.manager).lists other = w.manager.lists other :=
    set_lists_of_ne ne
  unfold scanOnce
  simp only [step]
  split
  · rw [looked]
  · change ((devicesEnumerated p now type _ _).lists other).cacheInfo = _
    unfold devicesEnumerated
    dsimp only
    split_ifs
    · rw [processClientRequests_cacheInfo, recordEnumeration_lists, set_lists_of_ne ne, looked]
    · rw [enumerateSystemDevices, MediaDevicesManager.change]
      refine congrArg DeviceList.cacheInfo ((set_lists_of_ne ne).trans ?_)
      rw [recordEnumeration_lists, set_lists_of_ne ne, looked]

theorem devicesEnumerated_valid {now : ℕ} {new : Devices}
    (valid : isLastUpdateValid p now (completeScan p now new (m.lists type)).cacheInfo = true) :
    ((devicesEnumerated p now type new m).lists type).cacheInfo =
      (completeScan p now new (m.lists type)).cacheInfo := by
  unfold devicesEnumerated
  dsimp only
  rw [recordEnumeration_self, if_pos valid, processClientRequests_cacheInfo, recordEnumeration_self]

theorem devicesEnumerated_invalid {now : ℕ} {new : Devices}
    (invalid : ¬isLastUpdateValid p now (completeScan p now new (m.lists type)).cacheInfo = true) :
    (devicesEnumerated p now type new m).lists type =
      beginScan p type (completeScan p now new (m.lists type)) := by
  unfold devicesEnumerated
  dsimp only
  rw [recordEnumeration_self, if_neg invalid, enumerateSystemDevices_self, recordEnumeration_self]

theorem result_of_seen (type : MediaDeviceType) (scan : Scan) (devices : Devices) :
    ∃ new, Scan.result type { scan with seen := some devices } = some new := by
  unfold Scan.result
  cases scan.source with
  | blocked => exact ⟨_, rfl⟩
  | fake => exact ⟨_, rfl⟩
  | audioSystem => exact ⟨_, rfl⟩
  | videoCaptureManager => exact ⟨_, rfl⟩

/-- The end of a scan that no invalidation has overtaken is the end of all scans of a list. -/
theorem devicesEnumerated_ends (numbered : Numbered p type (m.lists type)) (now : ℕ)
    (new : Devices) :
    let before := (m.lists type).cacheInfo
    let after := ((devicesEnumerated p now type new m).lists type).cacheInfo
    (after.isUpdateOngoing = false ∨ after.seqLastInvalidation < after.seqLastUpdate) ∧
      (before.seqLastInvalidation < before.seqLastUpdate → after.isUpdateOngoing = false) := by
  intro before after
  have completed := completeScan_completed (p := p) numbered now new
  by_cases valid : isLastUpdateValid p now (completeScan p now new (m.lists type)).cacheInfo = true
  · have over_ : after.isUpdateOngoing = false :=
      (congrArg CacheInfo.isUpdateOngoing (devicesEnumerated_valid valid)).trans completed.over_
    exact ⟨.inl over_, fun _ => over_⟩
  · have again : after = (beginScan p type (completeScan p now new (m.lists type))).cacheInfo :=
      congrArg DeviceList.cacheInfo (devicesEnumerated_invalid valid)
    refine ⟨.inr ?_, fun newer => absurd ?_ valid⟩
    · rw [again, beginScan, if_neg (by rw [completed.over_]; rintro ⟨⟩)]
      exact Nat.lt_succ_of_le completed.invalidated
    · have newer' := lt_of_lt_of_le newer completed.later
      rw [isLastUpdateValid, completed.over_, completed.invalidation, decide_eq_true newer']
      rfl

/-- A scan that begins behind the last invalidation is the last one. -/
theorem scanOnce_self (sound : ∀ type, Sound p type (w.manager.lists type)) (now : ℕ)
    (type : MediaDeviceType) :
    let before := (w.manager.lists type).cacheInfo
    let after := ((scanOnce p now w type).manager.lists type).cacheInfo
    (after.isUpdateOngoing = false ∨ after.seqLastInvalidation < after.seqLastUpdate) ∧
      (before.isUpdateOngoing = false ∨ before.seqLastInvalidation < before.seqLastUpdate →
        after.isUpdateOngoing = false) := by
  intro before after
  have looked := sees_self type (w.devices type) w.manager
  have numbered := (sound_sees sound type (w.devices type) type).numbered
  have scans := (sound type).numbered.scans
  by_cases ongoing : before.isUpdateOngoing = true
  · rw [if_pos ongoing] at scans
    obtain ⟨scan, scans⟩ := List.length_eq_one_iff.mp scans
    obtain ⟨new, result⟩ := result_of_seen type scan (w.devices type)
    have answer : answered (sees type (w.devices type) w.manager) type = some new := by
      rw [answered, looked, scans]
      exact result
    have call : (scanOnce p now w type).manager =
        devicesEnumerated p now type new (sees type (w.devices type) w.manager) := by
      simp only [scanOnce, step, answer]
      rfl
    have ends := devicesEnumerated_ends numbered now new
    rw [looked, ← call] at ends
    refine ⟨ends.1, fun newer => ends.2 (newer.resolve_left fun still => ?_)⟩
    rw [ongoing] at still
    cases still
  · rw [if_neg ongoing, List.length_eq_zero_iff] at scans
    have silent : answered (sees type (w.devices type) w.manager) type = none := by
      rw [answered, looked, scans]
      rfl
    have call : (scanOnce p now w type).manager = sees type (w.devices type) w.manager := by
      simp only [scanOnce, step, silent]
    have still : after.isUpdateOngoing = false := by
      have same : after = before := by
        change ((scanOnce p now w type).manager.lists type).cacheInfo = _
        rw [call, looked]
      rw [same]
      exact Bool.eq_false_iff.mpr ongoing
    exact ⟨.inl still, fun _ => still⟩

theorem sound_scanOnce (sound : ∀ type, Sound p type (w.manager.lists type)) (now : ℕ)
    (type : MediaDeviceType) :
    ∀ other, Sound p other ((scanOnce p now w type).manager.lists other) :=
  sound_step (sound_step sound _) _

/-- Scans of the named lists, one after the other, each at its own time. -/
def scansOf (scans : List (ℕ × MediaDeviceType)) : List Event :=
  scans.flatMap fun scan => [.looks scan.2, .answers scan.1 scan.2]

theorem scansOf_cons (scan : ℕ × MediaDeviceType) (scans : List (ℕ × MediaDeviceType))
    (w : World) :
    (scansOf (scan :: scans)).foldl (step p) w =
      (scansOf scans).foldl (step p) (scanOnce p scan.1 w scan.2) := by
  rw [scansOf, List.flatMap_cons, List.foldl_append]
  rfl

theorem patient_scansOf (scans : List (ℕ × MediaDeviceType)) (w : World) :
    Permitted Patient (step p) w (scansOf scans) := by
  induction scans generalizing w with
  | nil => trivial
  | cons scan scans ih =>
    rw [scansOf, List.flatMap_cons, permitted_append]
    exact ⟨⟨trivial, trivial, trivial⟩, ih _⟩

/-- How many more scans a list needs to rest: none when it does, one when no invalidation has
overtaken its latest update, two at most. -/
inductive Awaits (cacheInfo : CacheInfo) : ℕ → Prop
  | nothing (rests : cacheInfo.isUpdateOngoing = false) (scans : ℕ) : Awaits cacheInfo scans
  | update (current : cacheInfo.seqLastInvalidation < cacheInfo.seqLastUpdate) (scans : ℕ) :
      Awaits cacheInfo (scans + 1)
  | both (scans : ℕ) : Awaits cacheInfo (scans + 2)

theorem awaits_scanOnce (sound : ∀ type, Sound p type (w.manager.lists type)) (now : ℕ)
    (type : MediaDeviceType) {scans : ℕ}
    (awaits : Awaits (w.manager.lists type).cacheInfo (scans + 1)) :
    Awaits ((scanOnce p now w type).manager.lists type).cacheInfo scans := by
  obtain ⟨either, rests⟩ := scanOnce_self sound now type
  cases awaits with
  | nothing idle => exact .nothing (rests (.inl idle)) scans
  | update current => exact .nothing (rests (.inr current)) scans
  | both scans =>
    obtain idle | current := either
    · exact .nothing idle _
    · exact .update current scans

theorem scansOf_rest (scans : List (ℕ × MediaDeviceType)) (w : World)
    (sound : ∀ type, Sound p type (w.manager.lists type)) (type : MediaDeviceType)
    (awaits : Awaits (w.manager.lists type).cacheInfo ((scans.map Prod.snd).count type)) :
    (((scansOf scans).foldl (step p) w).manager.lists type).cacheInfo.isUpdateOngoing = false := by
  induction scans generalizing w with
  | nil =>
    cases awaits with
    | nothing rests => exact rests
  | cons scan scans ih =>
    rw [scansOf_cons]
    refine ih _ (sound_scanOnce sound scan.1 scan.2) ?_
    rw [List.map_cons] at awaits
    by_cases same : scan.2 = type
    · rw [← same, List.count_cons_self] at awaits
      rw [← same]
      exact awaits_scanOnce sound scan.1 scan.2 awaits
    · rw [List.count_cons_of_ne same] at awaits
      rwa [scanOnce_of_ne (Ne.symm same)]

/-- No request is stuck: scans that visit each list twice, in any order and at any times, answer
all of them. -/
theorem requests_can_be_answered {devices : MediaDeviceType → Devices} {events : List Event}
    (patient : Permitted Patient (step p) (start devices) events)
    (scans : List (ℕ × MediaDeviceType))
    (twice : ∀ type, 2 ≤ (scans.map Prod.snd).count type) :
    let w := (events ++ scansOf scans).foldl (step p) (start devices)
    w.manager.clientRequests = [] ∧
      (w.manager.answers.map Prod.fst).Perm (List.range w.manager.requestCount) := by
  intro w
  have patient' : Permitted Patient (step p) (start devices) (events ++ scansOf scans) :=
    (permitted_append _ _ _).mpr ⟨patient, patient_scansOf scans _⟩
  have idle (type : MediaDeviceType) :
      (w.manager.lists type).cacheInfo.isUpdateOngoing = false := by
    change ((List.foldl (step p) _ (events ++ scansOf scans)).manager.lists
      type).cacheInfo.isUpdateOngoing = false
    rw [List.foldl_append]
    refine scansOf_rest scans _ (served_run patient).1 type ?_
    obtain ⟨more, count⟩ := Nat.exists_eq_add_of_le' (twice type)
    rw [count]
    exact .both more
  exact answered_of_idle patient' idle

def roundTrip : List (ℕ × MediaDeviceType) :=
  (mediaDeviceTypes ++ mediaDeviceTypes.reverse).zipIdx.map fun scan => (scan.2, scan.1)

theorem requests_can_be_answered_plugged :
    ((pluggedRun ++ scansOf roundTrip).foldl (step phone)
      (start fun _ => [speaker])).manager.clientRequests = [] :=
  (requests_can_be_answered pluggedRun_patient roundTrip
    fun type => by cases type <;> decide).1

/-- One scan of each list is not enough: a change may have overtaken the one under way. -/
example :
    let overtaken : List Event := [.startsMonitoring ⟨true, true⟩, .enumerates fun _ => true,
      .looks .kMediaAudioInput, .notified 1 .devtypeAudio]
    let w := (overtaken ++ scansOf (mediaDeviceTypes.map fun type => (4, type))).foldl
      (step phone) (start fun _ => [speaker])
    w.manager.clientRequests.map EnumerationRequest.id = [0] := by
  decide

/-! Cameras and microphones. -/

/-- The cameras of an answer are grouped by its own microphones. -/
def Grouped (answer : ℕ × (MediaDeviceType → Devices)) : Prop :=
  ∀ info ∈ answer.2 .kMediaVideoInput,
    info.groupId = guessVideoGroupID (answer.2 .kMediaAudioInput) info

theorem storeSnapshot_regroup (new : Devices) (d : DeviceList) :
    (storeSnapshot p new true d).currentSnapshot = new := by
  obtain ⟨spurious, relaxed, stored, -⟩ := storeSnapshot_cases (p := p) new true d
  rw [stored]
  dsimp only
  split_ifs with equal
  · exact (eq_of_equalDevices equal).symm
  · rfl

theorem grouped_processClientRequests (sound : ∀ type, Sound p type (m.lists type))
    (grouped : ∀ answer ∈ m.answers, Grouped answer) :
    ∀ answer ∈ (processClientRequests p m).answers, Grouped answer := by
  unfold processClientRequests
  intro answer mem
  rcases List.mem_append.mp mem with old | new
  · rw [(keeps_regroup m).2.2.1] at old
    exact grouped answer old
  · obtain ⟨request, -, rfl⟩ := List.mem_map.mp new
    intro info shown
    dsimp only at shown ⊢
    split_ifs at shown ⊢ with populated
    · have cameras : (updateSnapshot p .kMediaVideoInput (groupedVideoDevices m) true m).lists
          .kMediaVideoInput = storeSnapshot p (groupedVideoDevices m) true
            (m.lists .kMediaVideoInput) := set_lists_self ..
      have microphones : (updateSnapshot p .kMediaVideoInput (groupedVideoDevices m) true m).lists
          .kMediaAudioInput = m.lists .kMediaAudioInput := set_lists_of_ne (by rintro ⟨⟩)
      rw [cameras, storeSnapshot_regroup] at shown
      rw [microphones]
      obtain ⟨camera, -, rfl⟩ := List.mem_map.mp shown
      rfl
    · rw [(sound .kMediaVideoInput).numbered.empty (Bool.eq_false_iff.mpr populated)] at shown
      cases shown

theorem grouped_enumerateDevices (sound : ∀ type, Sound p type (m.lists type))
    (grouped : ∀ answer ∈ m.answers, Grouped answer) :
    ∀ answer ∈ (enumerateDevices p requested m).answers, Grouped answer := by
  obtain ⟨m', m'', keeps, scanned, sound', -, answered⟩ := enumerateDevices_cases sound requested
  have before : ∀ answer ∈ m''.answers, Grouped answer := by
    rw [scanned.2.2.1]
    exact keeps.2.2.1 ▸ grouped
  obtain call | ⟨call, -⟩ := answered
  · rw [call]
    exact grouped_processClientRequests sound' before
  · rwa [call]

theorem grouped_step (sound : ∀ type, Sound p type (w.manager.lists type))
    (grouped : ∀ answer ∈ w.manager.answers, Grouped answer) (event : Event) :
    ∀ answer ∈ (step p w event).manager.answers, Grouped answer := by
  cases event with
  | enumerates requested => exact grouped_enumerateDevices sound grouped
  | startsMonitoring mode => exact (keeps_startMonitoring (p := p) mode w.manager).2.2.1 ▸ grouped
  | stopsMonitoring mode => exact (stopMonitoring_requests (p := p) mode w.manager).2.1 ▸ grouped
  | devicesChange type devices => exact grouped
  | notified now deviceType =>
    unfold step
    dsimp only
    split_ifs
    · exact (keeps_onDevicesChanged (p := p) now deviceType w.manager).2.2.1 ▸ grouped
    · exact grouped
  | looks type => exact grouped
  | fails type devices => exact grouped
  | answers now type =>
    unfold step
    dsimp only
    split
    · exact grouped
    · next devices answer =>
      change ∀ answer ∈ (devicesEnumerated p now type devices w.manager).answers, Grouped answer
      have recorded := recordEnumeration_answers (p := p) now type devices w.manager ▸ grouped
      unfold devicesEnumerated
      dsimp only
      split_ifs with valid
      · exact grouped_processClientRequests (moves_recordEnumeration sound answer valid).sound
          recorded
      · exact recorded

def laptop : Platform := ⟨false, true, false, true, true, 5, 60⟩

def webcam : WebMediaDeviceInfo := ⟨"c".toList, "Webcam".toList, [], 0, 0⟩

def microphone : WebMediaDeviceInfo := ⟨"m".toList, "Webcam Microphone".toList, ['g'], 0, 0⟩

def callRun : List Event :=
  [.enumerates fun type => type ≠ .kMediaAudioOutput, .looks .kMediaAudioInput,
    .answers 1 .kMediaAudioInput, .looks .kMediaVideoInput, .answers 2 .kMediaVideoInput]

def atDesk (type : MediaDeviceType) : Devices :=
  if type = .kMediaVideoInput then [webcam] else [microphone]

/-- A page sees a camera alone or together with a real microphone that it sees as well. -/
theorem cameras_join_microphones (devices : MediaDeviceType → Devices) (events : List Event) :
    let w := events.foldl (step p) (start devices)
    ∀ answer ∈ w.manager.answers, ∀ info ∈ answer.2 .kMediaVideoInput,
      info.groupId = guessVideoGroupID (answer.2 .kMediaAudioInput) info ∧
        (info.groupId = info.deviceId ∨ ∃ microphone ∈ answer.2 .kMediaAudioInput,
          isRealAudioDeviceID microphone.deviceId = true ∧
            microphone.groupId = info.groupId) := by
  intro w answer mem info shown
  have each (w : World) (event : Event)
      (before : (∀ type, Sound p type (w.manager.lists type)) ∧
        ∀ answer ∈ w.manager.answers, Grouped answer) :
      (∀ type, Sound p type ((step p w event).manager.lists type)) ∧
        ∀ answer ∈ (step p w event).manager.answers, Grouped answer :=
    ⟨sound_step before.1 event, grouped_step before.1 before.2 event⟩
  have grouped := (invariant_always each (start devices) events
    ⟨sound_start devices, by rintro _ ⟨⟩⟩).2 answer mem info shown
  refine ⟨grouped, ?_⟩
  rw [grouped]
  exact guessVideoGroupID_cases _ info

theorem cameras_join_microphones_call :
    ∃ answer ∈ (callRun.foldl (step laptop) (start atDesk)).manager.answers,
      ['g'] = guessVideoGroupID (answer.2 .kMediaAudioInput) { webcam with groupId := ['g'] } := by
  have answered : 0 < (callRun.foldl (step laptop) (start atDesk)).manager.answers.length := by
    decide
  have shown : { webcam with groupId := ['g'] } ∈
      ((callRun.foldl (step laptop) (start atDesk)).manager.answers.get
        ⟨0, by decide⟩).2 .kMediaVideoInput := by
    decide
  exact ⟨_, List.get_mem _ ⟨0, answered⟩,
    (cameras_join_microphones atDesk callRun _ (List.get_mem _ ⟨0, answered⟩) _ shown).1⟩

end BlinkerFluid.MediaDevices
