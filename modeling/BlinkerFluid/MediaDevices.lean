import BlinkerFluid.ByteString
import Mathlib.Logic.Function.Basic

/-! The list of cameras, microphones and speakers that pages ask for. A scan of the system fills a
snapshot, a notification of the system makes the snapshot invalid, and a request waits until the
scans that it needs are done. -/

namespace BlinkerFluid.MediaDevices
open ByteString

inductive MediaDeviceType
  | kMediaAudioInput
  | kMediaVideoInput
  | kMediaAudioOutput
deriving DecidableEq

def mediaDeviceTypes : List MediaDeviceType :=
  [.kMediaAudioInput, .kMediaVideoInput, .kMediaAudioOutput]

/-- Where a camera faces and whether it can be used are numbers of the interface. -/
structure WebMediaDeviceInfo where
  deviceId : Bytes
  label : Bytes
  groupId : Bytes
  videoFacing : ℕ
  availability : ℕ
deriving DecidableEq

abbrev Devices := List WebMediaDeviceInfo

inductive CachePolicy
  | NO_CACHE
  | SYSTEM_MONITOR
deriving DecidableEq

/-- How the program was built and started, and two constants of the cache. -/
structure Platform where
  isIOS : Bool
  systemMonitor : Bool
  useFakeDevices : Bool
  kEnumerateDevicesRelaxedCache : Bool
  kMediaDevicesSystemMonitorCache : Bool
  kMaxSpuriousInvalidations : ℕ
  kExpireTimeInRelaxedMode : ℕ

variable (p : Platform)

/-! The state of one list. -/

structure CacheInfo where
  currentEventSequence : ℕ
  seqLastUpdate : ℕ
  seqLastInvalidation : ℕ
  isUpdateOngoing : Bool
  numSpuriousInvalidations : ℕ
  allowRelaxedMode : Bool
  isInRelaxedMode : Bool
  timeLastUpdate : ℕ

def newCacheInfo (allowRelaxedMode : Bool) : CacheInfo :=
  ⟨0, 0, 0, false, 0, allowRelaxedMode, false, 0⟩

def invalidateCache (c : CacheInfo) : CacheInfo :=
  { c with
    currentEventSequence := c.currentEventSequence + 1
    seqLastInvalidation := c.currentEventSequence + 1 }

def isCacheExpired (now : ℕ) (c : CacheInfo) : Bool :=
  p.kExpireTimeInRelaxedMode ≤ now - c.timeLastUpdate

def isLastUpdateValid (now : ℕ) (c : CacheInfo) : Bool :=
  (c.seqLastInvalidation < c.seqLastUpdate && !c.isUpdateOngoing) ||
    (p.kEnumerateDevicesRelaxedCache && c.isInRelaxedMode && !isCacheExpired p now c)

def needsUpdateUponInvalidation (now : ℕ) (c : CacheInfo) : Bool :=
  if c.isInRelaxedMode then c.seqLastUpdate < c.seqLastInvalidation && isCacheExpired p now c
  else c.seqLastUpdate < c.seqLastInvalidation

def updateStarted (c : CacheInfo) : CacheInfo :=
  { c with
    currentEventSequence := c.currentEventSequence + 1
    seqLastUpdate := c.currentEventSequence + 1
    isUpdateOngoing := true }

def updateCompleted (now : ℕ) (c : CacheInfo) : CacheInfo :=
  let c := { c with isUpdateOngoing := false }
  if p.kEnumerateDevicesRelaxedCache && c.isInRelaxedMode then
    { c with
      currentEventSequence := c.currentEventSequence + 1
      seqLastUpdate := c.currentEventSequence + 1
      timeLastUpdate := now }
  else c

def resetSpuriousInvalidations (c : CacheInfo) : CacheInfo :=
  { c with numSpuriousInvalidations := 0 }

def recordSpuriousInvalidation (c : CacheInfo) : CacheInfo :=
  if c.isInRelaxedMode || !c.allowRelaxedMode then c
  else
    let c := { c with numSpuriousInvalidations := c.numSpuriousInvalidations + 1 }
    if p.kMaxSpuriousInvalidations ≤ c.numSpuriousInvalidations then
      resetSpuriousInvalidations { c with isInRelaxedMode := true }
    else c

/-! The group that a camera belongs to. -/

def rfind (needle s : Bytes) : Option ℕ :=
  ((List.range (s.length + 1)).filter fun i => needle <+: s.drop i).getLast?

/-- One character in front of the blank goes too, but for a label that begins with it. -/
def videoLabelWithoutModelID (label : Bytes) : Bytes :=
  if label ≠ [] ∧ label.getLast? ≠ some ')' then label
  else
    match rfind [' ', '('] label with
    | none => label
    | some idx => if idx = 0 then label else label.take (idx - 1)

def labelHasUSBModel (label : Bytes) : Bool :=
  11 ≤ label.length && label[label.length - 11]? = some '(' &&
    label[label.length - 6]? = some ':' && label[label.length - 1]? = some ')'

def getUSBModelFromLabel (label : Bytes) : Bytes := (label.drop (label.length - 10)).take 9

def kDefaultDeviceId : Bytes := "default".toList

def kCommunicationsDeviceId : Bytes := "communications".toList

def isRealAudioDeviceID (deviceId : Bytes) : Bool :=
  deviceId ≠ [] && deviceId ≠ kDefaultDeviceId && deviceId ≠ kCommunicationsDeviceId

/-- The group of the devices that match, if it is one. -/
def uniqueGroup (audioInfos : Devices) (isMatch : WebMediaDeviceInfo → Bool) : Option Bytes :=
  match audioInfos.filter fun info => isRealAudioDeviceID info.deviceId && isMatch info with
  | [] => none
  | first :: others =>
    if ∃ other ∈ others, other.groupId ≠ first.groupId then none else some first.groupId

def guessVideoGroupID (audioInfos : Devices) (videoInfo : WebMediaDeviceInfo) : Bytes :=
  let videoLabel := videoLabelWithoutModelID videoInfo.label
  if videoLabel.length ≤ 3 then videoInfo.deviceId
  else
    let labelIncluded := uniqueGroup audioInfos fun info => contains videoLabel info.label
    let modelMatches := uniqueGroup audioInfos fun info =>
      labelHasUSBModel videoInfo.label && labelHasUSBModel info.label &&
        getUSBModelFromLabel videoInfo.label = getUSBModelFromLabel info.label
    (labelIncluded.or modelMatches).getD videoInfo.deviceId

/-! One list of devices. -/

/-- Who answers a scan: nobody is asked for inputs on the phone, an empty list is posted. -/
inductive Source
  | blocked
  | fake
  | audioSystem
  | videoCaptureManager
deriving DecidableEq

/-- A scan that was begun, and what its source has seen so far. -/
structure Scan where
  source : Source
  seen : Option Devices

/-- What the arrays of the manager hold for one type. -/
structure DeviceList where
  cacheInfo : CacheInfo
  cachePolicy : CachePolicy
  cacheIsPopulated : Bool
  currentSnapshot : Devices
  scans : List Scan

def DeviceList.cached (d : DeviceList) (change : CacheInfo → CacheInfo) : DeviceList :=
  { d with cacheInfo := change d.cacheInfo }

def sourceOf (type : MediaDeviceType) : Source :=
  if p.isIOS = true ∧ type ≠ .kMediaAudioOutput then .blocked
  else if type = .kMediaVideoInput then .videoCaptureManager
  else if p.useFakeDevices then .fake
  else .audioSystem

def beginScan (type : MediaDeviceType) (d : DeviceList) : DeviceList :=
  if d.cacheInfo.isUpdateOngoing then d
  else
    { d.cached updateStarted with scans := d.scans ++ [⟨sourceOf p type, none⟩] }

def equalDeviceExcludingGroupID (lhs rhs : WebMediaDeviceInfo) : Bool :=
  lhs.deviceId = rhs.deviceId && lhs.label = rhs.label && lhs.videoFacing = rhs.videoFacing &&
    lhs.availability = rhs.availability

def equalDeviceIncludingGroupID (lhs rhs : WebMediaDeviceInfo) : Bool :=
  equalDeviceExcludingGroupID lhs rhs && lhs.groupId = rhs.groupId

def equalDevices (useGroupId : Bool) (new old : Devices) : Bool :=
  decide (List.Forall₂ (fun lhs rhs => (if useGroupId then equalDeviceIncludingGroupID lhs rhs
    else equalDeviceExcludingGroupID lhs rhs) = true) new old)

/-- A scan that changes nothing may have been set off by itself. -/
def storeSnapshot (new : Devices) (useGroupId : Bool) (d : DeviceList) : DeviceList :=
  let changed := !equalDevices useGroupId new d.currentSnapshot
  let d := if p.kEnumerateDevicesRelaxedCache && !useGroupId then
      d.cached (if changed then resetSpuriousInvalidations else recordSpuriousInvalidation p)
    else d
  { d with currentSnapshot := if changed then new else d.currentSnapshot }

def completeScan (now : ℕ) (new : Devices) (d : DeviceList) : DeviceList :=
  { (storeSnapshot p new false d).cached (updateCompleted p now) with
    cacheIsPopulated := true
    scans := d.scans.tail }

def setPolicy (type : MediaDeviceType) (policy : CachePolicy) (d : DeviceList) : DeviceList :=
  if d.cachePolicy = policy then d
  else if policy = .SYSTEM_MONITOR then
    beginScan p type ({ d with cachePolicy := policy }.cached invalidateCache)
  else { d with cachePolicy := policy }

def noteChange (now : ℕ) (type : MediaDeviceType) (d : DeviceList) : DeviceList :=
  let d := d.cached invalidateCache
  if !p.kEnumerateDevicesRelaxedCache || needsUpdateUponInvalidation p now d.cacheInfo then
    beginScan p type d
  else d

/-! The manager. -/

structure EnumerationRequest where
  id : ℕ
  requested : MediaDeviceType → Bool
  hasSeenResultForRequest : MediaDeviceType → Bool

/-- The lists, the requests that wait, and what was asked, answered and told so far. -/
structure MediaDevicesManager where
  lists : MediaDeviceType → DeviceList
  clientRequests : List EnumerationRequest
  requestCount : ℕ
  monitoringStartedForAudio : Bool
  monitoringStartedForVideo : Bool
  addedDeviceChangedObserver : Bool
  asked : List (MediaDeviceType × Source)
  answers : List (ℕ × (MediaDeviceType → Devices))
  uiChanges : List (MediaDeviceType × Devices)
  stopped : List (MediaDeviceType × WebMediaDeviceInfo)
  told : List (MediaDeviceType × Devices × Bool)

def newManager : MediaDevicesManager where
  lists := fun type =>
    ⟨newCacheInfo (type = .kMediaVideoInput), .NO_CACHE, false, [], []⟩
  clientRequests := []
  requestCount := 0
  monitoringStartedForAudio := false
  monitoringStartedForVideo := false
  addedDeviceChangedObserver := false
  asked := []
  answers := []
  uiChanges := []
  stopped := []
  told := []

def MediaDevicesManager.set (m : MediaDevicesManager) (type : MediaDeviceType) (d : DeviceList) :
    MediaDevicesManager :=
  { m with lists := Function.update m.lists type d }

def newlyAsked (type : MediaDeviceType) (before after : DeviceList) :
    List (MediaDeviceType × Source) :=
  (after.scans.drop before.scans.length).map fun scan => (type, scan.source)

/-- A list changes, and its new scans are sent out. -/
def MediaDevicesManager.change (m : MediaDevicesManager) (type : MediaDeviceType)
    (d : DeviceList) : MediaDevicesManager :=
  { m.set type d with asked := m.asked ++ newlyAsked type (m.lists type) d }

def enumerateSystemDevices (m : MediaDevicesManager) (type : MediaDeviceType) :
    MediaDevicesManager :=
  m.change type (beginScan p type (m.lists type))

/-- The inputs that are gone, and the virtual ones of the same group. -/
def maybeStopRemovedInputDevices (type : MediaDeviceType) (new old : Devices) :
    List (MediaDeviceType × WebMediaDeviceInfo) :=
  let removed := old.filter fun info =>
    !(new.map WebMediaDeviceInfo.deviceId).contains info.deviceId
  let virtual := if type = .kMediaAudioInput then
      removed.flatMap fun gone => old.filter fun info => gone.groupId = info.groupId &&
        (info.deviceId = kDefaultDeviceId || info.deviceId = kCommunicationsDeviceId)
    else []
  (removed ++ virtual).map fun info => (type, info)

def isVideoWithGoodGroupIds (type : MediaDeviceType) (new : Devices) : Bool :=
  type = .kMediaVideoInput &&
    match new with
    | [] => true
    | first :: _ => first.groupId ≠ []

/-- What the user interface, the open streams and the subscribers hear of a new list. -/
def announce (type : MediaDeviceType) (new : Devices) (useGroupId : Bool)
    (m : MediaDevicesManager) : MediaDevicesManager :=
  let old := (m.lists type).currentSnapshot
  let changed := !equalDevices useGroupId new old
  let goodGroupIds := isVideoWithGoodGroupIds type new
  let tellsSubscribers := changed && (m.lists type).cacheIsPopulated &&
    (old ≠ [] || new ≠ []) && (type ≠ .kMediaVideoInput || goodGroupIds)
  { m with
    stopped := if type = .kMediaAudioOutput then m.stopped
      else m.stopped ++ maybeStopRemovedInputDevices type new old
    uiChanges := if changed && (type = .kMediaAudioInput || goodGroupIds) then
        m.uiChanges ++ [(type, new)]
      else m.uiChanges
    told := m.told ++ [(type, new, tellsSubscribers)] }

def updateSnapshot (type : MediaDeviceType) (new : Devices) (useGroupId : Bool)
    (m : MediaDevicesManager) : MediaDevicesManager :=
  (announce type new useGroupId m).set type (storeSnapshot p new useGroupId (m.lists type))

def isEnumerationRequestReady (lists : MediaDeviceType → DeviceList)
    (request : EnumerationRequest) : Bool :=
  mediaDeviceTypes.all fun type =>
    !request.requested type ||
      match (lists type).cachePolicy with
      | .SYSTEM_MONITOR => (lists type).cacheIsPopulated
      | .NO_CACHE => request.hasSeenResultForRequest type

def groupedVideoDevices (m : MediaDevicesManager) : Devices :=
  (m.lists .kMediaVideoInput).currentSnapshot.map fun info =>
    { info with
      groupId := guessVideoGroupID (m.lists .kMediaAudioInput).currentSnapshot info }

def answerReady (m : MediaDevicesManager) : MediaDevicesManager :=
  { m with
    answers := m.answers ++ (m.clientRequests.filter (isEnumerationRequestReady m.lists)).map
      fun request => (request.id, fun type => (m.lists type).currentSnapshot)
    clientRequests := m.clientRequests.filter fun request =>
      !isEnumerationRequestReady m.lists request }

def processClientRequests (m : MediaDevicesManager) : MediaDevicesManager :=
  answerReady (if (m.lists .kMediaVideoInput).cacheIsPopulated then
    updateSnapshot p .kMediaVideoInput (groupedVideoDevices m) true m
  else m)

def EnumerationRequest.sees (request : EnumerationRequest) (type : MediaDeviceType) :
    EnumerationRequest :=
  { request with
    hasSeenResultForRequest := Function.update request.hasSeenResultForRequest type true }

/-- Requests that wait for a list that is not cached have seen it now. -/
def recordEnumeration (now : ℕ) (type : MediaDeviceType) (new : Devices)
    (m : MediaDevicesManager) : MediaDevicesManager :=
  let m := (announce type new false m).set type (completeScan p now new (m.lists type))
  if (m.lists type).cachePolicy = .NO_CACHE then
    { m with clientRequests := m.clientRequests.map fun request => request.sees type }
  else m

def devicesEnumerated (now : ℕ) (type : MediaDeviceType) (new : Devices)
    (m : MediaDevicesManager) : MediaDevicesManager :=
  let m := recordEnumeration p now type new m
  if isLastUpdateValid p now (m.lists type).cacheInfo then processClientRequests p m
  else enumerateSystemDevices p m type

def setCachePolicy (type : MediaDeviceType) (policy : CachePolicy) (m : MediaDevicesManager) :
    MediaDevicesManager :=
  m.change type (setPolicy p type policy (m.lists type))

/-- Whether audio devices are meant, and whether cameras are. -/
structure MonitoringMode where
  audio : Bool
  video : Bool
deriving DecidableEq

def startMonitoringAndPopulateCache (mode : MonitoringMode) (m : MediaDevicesManager) :
    MediaDevicesManager :=
  if p.systemMonitor then
    let startsVideo := p.kMediaDevicesSystemMonitorCache && mode.video &&
      !m.monitoringStartedForVideo
    let startsAudio := p.kMediaDevicesSystemMonitorCache && mode.audio &&
      !m.monitoringStartedForAudio
    let m := if startsVideo then setCachePolicy p .kMediaVideoInput .SYSTEM_MONITOR m else m
    let m := if startsAudio then
        setCachePolicy p .kMediaAudioOutput .SYSTEM_MONITOR
          (setCachePolicy p .kMediaAudioInput .SYSTEM_MONITOR m)
      else m
    { m with
      addedDeviceChangedObserver := true
      monitoringStartedForVideo := m.monitoringStartedForVideo || mode.video
      monitoringStartedForAudio := m.monitoringStartedForAudio || mode.audio }
  else m

def stopMonitoring (mode : MonitoringMode) (m : MediaDevicesManager) : MediaDevicesManager :=
  let m := if mode.audio && m.monitoringStartedForAudio then
      setCachePolicy p .kMediaAudioOutput .NO_CACHE (setCachePolicy p .kMediaAudioInput .NO_CACHE
        { m with monitoringStartedForAudio := false })
    else m
  let m := if mode.video && m.monitoringStartedForVideo then
      setCachePolicy p .kMediaVideoInput .NO_CACHE { m with monitoringStartedForVideo := false }
    else m
  if m.monitoringStartedForAudio || m.monitoringStartedForVideo then m
  else { m with addedDeviceChangedObserver := false }

def resetForRequest (type : MediaDeviceType) (m : MediaDevicesManager) : MediaDevicesManager :=
  if p.kEnumerateDevicesRelaxedCache then
    m.set type ((m.lists type).cached resetSpuriousInvalidations)
  else m

def scanRequested (requested : MediaDeviceType → Bool) (m : MediaDevicesManager)
    (type : MediaDeviceType) : MediaDevicesManager :=
  let m := resetForRequest p type m
  if requested type && (m.lists type).cachePolicy = .NO_CACHE then enumerateSystemDevices p m type
  else m

def enumerateDevices (requested : MediaDeviceType → Bool) (m : MediaDevicesManager) :
    MediaDevicesManager :=
  let m := startMonitoringAndPopulateCache p
    ⟨requested .kMediaAudioInput || requested .kMediaAudioOutput, requested .kMediaVideoInput⟩ m
  let m :=
    { m with
      clientRequests := m.clientRequests ++ [⟨m.requestCount, requested, fun _ => false⟩]
      requestCount := m.requestCount + 1 }
  let allResultsCached := mediaDeviceTypes.all fun type =>
    !(requested type && (m.lists type).cachePolicy = .NO_CACHE)
  let m := mediaDeviceTypes.foldl (scanRequested p requested) m
  if allResultsCached then processClientRequests p m else m

def handleDevicesChanged (now : ℕ) (m : MediaDevicesManager) (type : MediaDeviceType) :
    MediaDevicesManager :=
  m.change type (noteChange p now type (m.lists type))

inductive DeviceType
  | devtypeAudio
  | devtypeVideoCapture
  | other
deriving DecidableEq

def DeviceType.types : DeviceType → List MediaDeviceType
  | .devtypeAudio => [.kMediaAudioInput, .kMediaAudioOutput]
  | .devtypeVideoCapture => [.kMediaVideoInput]
  | .other => []

def onDevicesChanged (now : ℕ) (deviceType : DeviceType) (m : MediaDevicesManager) :
    MediaDevicesManager :=
  deviceType.types.foldl (handleDevicesChanged p now) m

def getFakeAudioDevices (isInput : Bool) : Devices :=
  let fake (id label group : String) : WebMediaDeviceInfo :=
    ⟨id.toList, label.toList, group.toList, 0, 0⟩
  if isInput then
    [fake "default" "Fake Default Audio Input" "fake_group_audio_input_default",
      fake "fake_audio_input_1" "Fake Audio Input 1" "fake_group_audio_input_1",
      fake "fake_audio_input_2" "Fake Audio Input 2" "fake_group_audio_input_2"]
  else
    [fake "default" "Fake Default Audio Output" "fake_group_audio_output_default",
      fake "fake_audio_output_1" "Fake Audio Output 1" "fake_group_audio_output_1",
      fake "fake_audio_output_2" "Fake Audio Output 2" "fake_group_audio_output_2"]

/-! The system around it. -/

/-- The devices as they are, and whether a list was told of their last change. -/
structure World where
  manager : MediaDevicesManager
  devices : MediaDeviceType → Devices
  untold : MediaDeviceType → Bool

def start (devices : MediaDeviceType → Devices) : World := ⟨newManager, devices, fun _ => false⟩

inductive Event
  | enumerates (requested : MediaDeviceType → Bool)
  | startsMonitoring (mode : MonitoringMode)
  | stopsMonitoring (mode : MonitoringMode)
  | devicesChange (type : MediaDeviceType) (devices : Devices)
  | notified (now : ℕ) (deviceType : DeviceType)
  | looks (type : MediaDeviceType)
  | fails (type : MediaDeviceType) (devices : Devices)
  | answers (now : ℕ) (type : MediaDeviceType)

def World.runs (w : World) (m : MediaDevicesManager) : World :=
  { w with
    manager := m
    untold := fun type => w.untold type &&
      (m.lists type).cacheInfo.seqLastInvalidation =
        (w.manager.lists type).cacheInfo.seqLastInvalidation }

def sees (type : MediaDeviceType) (devices : Devices) (m : MediaDevicesManager) :
    MediaDevicesManager :=
  m.set type
    { m.lists type with
      scans := (m.lists type).scans.map fun scan => { scan with seen := some devices } }

/-- What the source of a scan answers, once it can. -/
def Scan.result (type : MediaDeviceType) (scan : Scan) : Option Devices :=
  match scan.source with
  | .blocked => some []
  | .fake => some (getFakeAudioDevices (type = .kMediaAudioInput))
  | .audioSystem => scan.seen
  | .videoCaptureManager => scan.seen

def answered (m : MediaDevicesManager) (type : MediaDeviceType) : Option Devices :=
  (m.lists type).scans.head?.bind (Scan.result type)

def step (w : World) : Event → World
  | .enumerates requested => w.runs (enumerateDevices p requested w.manager)
  | .startsMonitoring mode => w.runs (startMonitoringAndPopulateCache p mode w.manager)
  | .stopsMonitoring mode => w.runs (stopMonitoring p mode w.manager)
  | .devicesChange type devices =>
    { w with
      devices := Function.update w.devices type devices
      untold := Function.update w.untold type true }
  | .notified now deviceType =>
    if w.manager.addedDeviceChangedObserver then
      w.runs (onDevicesChanged p now deviceType w.manager)
    else w
  | .looks type => { w with manager := sees type (w.devices type) w.manager }
  -- what is handed over with an error is shown as well
  | .fails type devices => { w with manager := sees type devices w.manager }
  | .answers now type =>
    match answered w.manager type with
    | none => w
    | some devices => w.runs (devicesEnumerated p now type devices w.manager)

end BlinkerFluid.MediaDevices
