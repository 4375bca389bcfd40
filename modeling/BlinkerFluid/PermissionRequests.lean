import BlinkerFluid.JoinBarrier
import Mathlib.Data.List.Perm.Basic
import Mathlib.Data.List.Range

/-! Requests of a page for several permissions at once. Where the microphone or the camera
has to be asked for, the answers are collected one by one behind a barrier; elsewhere a loop
builds all of them. The two build their entries with code of their own. -/

namespace BlinkerFluid.PermissionRequests
open JoinBarrier

inductive PermissionType where
  | geolocation | geolocationApproximate | sensors | paymentHandler | wakeLockScreen
  | backgroundSync | backgroundFetch | periodicBackgroundSync | idleDetection | nfc
  | midi | midiSysex | notifications | protectedMediaIdentifier | persistentStorage
  | audioCapture | videoCapture | clipboardReadWrite | clipboardSanitizedWrite | num
  | wakeLockSystem | handTracking | vr | ar | storageAccessGrant | cameraPanTiltZoom
  | windowManagement | localFonts | displayCapture | topLevelStorageAccess
  | capturedSurfaceControl | smartCard | webPrinting | speakerSelection | keyboardLock
  | pointerLock | automaticFullscreen | webAppInstallation | localNetworkAccess | localNetwork
  | loopbackNetwork
deriving DecidableEq

inductive CLAuthorizationStatus where
  | notDetermined
  | restricted
  | denied
  | authorizedAlways
  | authorizedWhenInUse
deriving DecidableEq

inductive AVAuthorizationStatus where
  | notDetermined
  | restricted
  | denied
  | authorized
deriving DecidableEq

structure SystemState where
  location : CLAuthorizationStatus
  microphone : AVAuthorizationStatus
  camera : AVAuthorizationStatus

/-- What the system is asked about; the source numbers them 0, 1 and 2. -/
inductive SystemPermission where
  | location
  | microphone
  | camera
deriving DecidableEq

def blinkIOSSystemPermissionStatus (s : SystemState) : SystemPermission → Bool
  | .location =>
    decide (s.location = .authorizedAlways) || decide (s.location = .authorizedWhenInUse)
  | .microphone => decide (s.microphone = .authorized)
  | .camera => decide (s.camera = .authorized)

/-- The features and the switches that the answers look at. -/
structure Flags where
  kApproximateGeolocationPermission : Bool
  kBlockMidiByDefault : Bool
  useFakeDeviceForMediaStream : Option String
  useFakeUIForMediaStream : Bool

inductive PermissionStatus where
  | granted
  | denied
deriving DecidableEq

inductive PermissionOption where
  | kAllowed
  | kDenied
  | kAsk
deriving DecidableEq

structure GeolocationSetting where
  approximate : PermissionOption
  precise : PermissionOption
deriving DecidableEq

structure PermissionResult where
  status : PermissionStatus
  setting : Option GeolocationSetting
deriving DecidableEq

def permissionStatus (granted : Bool) : PermissionStatus := if granted then .granted else .denied

def permissionResult (granted : Bool) : PermissionResult := ⟨permissionStatus granted, none⟩

section Answers

variable (f : Flags) (s : SystemState)

def isAllowlistedPermissionType : PermissionType → Bool
  | .geolocation | .geolocationApproximate => blinkIOSSystemPermissionStatus s .location
  | .sensors | .paymentHandler | .wakeLockScreen | .backgroundSync | .backgroundFetch
  | .periodicBackgroundSync | .idleDetection | .nfc => true
  | .midi => !f.kBlockMidiByDefault
  | .midiSysex | .notifications | .protectedMediaIdentifier | .persistentStorage
  | .audioCapture => blinkIOSSystemPermissionStatus s .microphone
  | .videoCapture => blinkIOSSystemPermissionStatus s .camera
  | .clipboardReadWrite | .clipboardSanitizedWrite | .num | .wakeLockSystem | .handTracking | .vr
  | .ar | .storageAccessGrant | .cameraPanTiltZoom | .windowManagement | .localFonts
  | .displayCapture | .topLevelStorageAccess | .capturedSurfaceControl | .smartCard
  | .webPrinting | .speakerSelection | .keyboardLock | .pointerLock | .automaticFullscreen
  | .webAppInstallation | .localNetworkAccess | .localNetwork | .loopbackNetwork => false

/-- The system permission behind a type that may have to be asked for. -/
def systemPermission : PermissionType → Option SystemPermission
  | .audioCapture => some .microphone
  | .videoCapture => some .camera
  | _ => none

def needsSystemPrompt (type : PermissionType) : Bool :=
  match systemPermission type with
  | none => false
  | some permission => !blinkIOSSystemPermissionStatus s permission

def plainResult (type : PermissionType) : PermissionResult :=
  if f.kApproximateGeolocationPermission && type = .geolocation &&
      isAllowlistedPermissionType f s type then
    ⟨.granted, some ⟨.kAllowed, .kAllowed⟩⟩
  else permissionResult (isAllowlistedPermissionType f s type)

/-- A turn of the loop with prompts. A prompt replies from the main queue, behind the loop. -/
def requestTurn {barrier : Barrier} (request : Join barrier PermissionResult)
    (entry : PermissionType × ℕ) : Join barrier PermissionResult :=
  if !needsSystemPrompt s entry.1 then
    request.answer (entry.2, permissionResult (isAllowlistedPermissionType f s entry.1))
  else request

/-- The reply of a prompt, with the place of its entry. -/
def promptReply {barrier : Barrier} (request : Join barrier PermissionResult)
    (reply : ℕ × Bool) : Join barrier PermissionResult :=
  request.answer (reply.1, permissionResult reply.2)

/-- What the callback of `RequestPermissionsFromCurrentDocument` has been run with once some
prompts have replied. -/
def callbackRuns (barrier : Barrier) (isNestedWithinFencedFrame : Bool)
    (types : List PermissionType) (replies : List (ℕ × Bool)) : List (List PermissionResult) :=
  if isNestedWithinFencedFrame then [List.replicate types.length (permissionResult false)]
  else if types.any (needsSystemPrompt s) then
    (replies.foldl promptReply (types.zipIdx.foldl (requestTurn f s)
      (Join.start barrier types.length (permissionResult false)))).handedOver
  else [types.map (plainResult f s)]

def prompted (isNestedWithinFencedFrame : Bool) (types : List PermissionType) : List ℕ :=
  if isNestedWithinFencedFrame then []
  else (types.zipIdx.filter fun entry => needsSystemPrompt s entry.1).map Prod.snd

def getPermissionStatus (type : PermissionType) : PermissionStatus :=
  if (type = .audioCapture || type = .videoCapture) && f.useFakeDeviceForMediaStream.isSome &&
      f.useFakeUIForMediaStream && f.useFakeDeviceForMediaStream ≠ some "deny" then .granted
  else permissionStatus (isAllowlistedPermissionType f s type)

end Answers

section Collected

variable {f : Flags} {s : SystemState} {types : List PermissionType} {replies : List (ℕ × Bool)}

def atOnce (f : Flags) (s : SystemState) (types : List PermissionType) :
    List (ℕ × PermissionResult) :=
  (types.zipIdx.filter fun entry => !needsSystemPrompt s entry.1).map fun entry =>
    (entry.2, permissionResult (isAllowlistedPermissionType f s entry.1))

def fromPrompts (replies : List (ℕ × Bool)) : List (ℕ × PermissionResult) :=
  replies.map fun reply => (reply.1, permissionResult reply.2)

def arrivals (f : Flags) (s : SystemState) (types : List PermissionType)
    (replies : List (ℕ × Bool)) : List (ℕ × PermissionResult) :=
  atOnce f s types ++ fromPrompts replies

def collected (f : Flags) (s : SystemState) (types : List PermissionType)
    (replies : List (ℕ × Bool)) : List PermissionResult :=
  fill (List.replicate types.length (permissionResult false)) (arrivals f s types replies)

theorem request_eq_answers (barrier : Barrier) :
    replies.foldl promptReply (types.zipIdx.foldl (requestTurn f s)
        (Join.start barrier types.length (permissionResult false))) =
      (arrivals f s types replies).foldl Join.answer
        (Join.start barrier types.length (permissionResult false)) := by
  rw [arrivals, List.foldl_append, atOnce, List.foldl_map, List.foldl_filter, fromPrompts,
    List.foldl_map]
  rfl

theorem places_perm (f : Flags) (s : SystemState) (types : List PermissionType) :
    ((atOnce f s types).map Prod.fst ++ prompted s false types).Perm
      (List.range types.length) := by
  have split := (List.filter_append_perm (fun entry : PermissionType × ℕ =>
    needsSystemPrompt s entry.1) types.zipIdx).map Prod.snd
  rw [List.map_append, List.zipIdx_map_snd, ← List.range_eq_range'] at split
  refine List.Perm.trans (.of_eq ?_) (List.perm_append_comm.trans split)
  rw [atOnce, List.map_map, prompted, if_neg Bool.false_ne_true]
  rfl

theorem arrivals_perm (each : (replies.map Prod.fst).Perm (prompted s false types)) :
    ((arrivals f s types replies).map Prod.fst).Perm (List.range types.length) := by
  have replied : (fromPrompts replies).map Prod.fst = replies.map Prod.fst := by
    rw [fromPrompts, List.map_map]
    rfl
  rw [arrivals, List.map_append, replied]
  exact (each.append_left _).trans (places_perm f s types)

theorem arrivals_length (f : Flags) (s : SystemState) (types : List PermissionType)
    (replies : List (ℕ × Bool)) : (arrivals f s types replies).length +
      (prompted s false types).length = types.length + replies.length := by
  have places := (places_perm f s types).length_eq
  simp only [List.length_append, List.length_map, List.length_range] at places
  simp only [arrivals, fromPrompts, List.length_append, List.length_map]
  omega

/-- The callback runs with the last reply and not before. -/
theorem callbackRuns_prompting (barrier : Barrier)
    (asks : types.any (needsSystemPrompt s) = true)
    (fewer : replies.length ≤ (prompted s false types).length) :
    callbackRuns f s barrier false types replies =
      if replies.length = (prompted s false types).length then [collected f s types replies]
      else [] := by
  have nonempty : 0 < types.length := by
    obtain ⟨type, mem, -⟩ := List.any_eq_true.mp asks
    exact List.length_pos_of_mem mem
  have lengths := arrivals_length f s types replies
  have last : (arrivals f s types replies).length = types.length ↔
      replies.length = (prompted s false types).length := by omega
  rw [callbackRuns, if_neg Bool.false_ne_true, if_pos asks, request_eq_answers,
    foldl_answer _ _ _ (by omega) nonempty]
  simp only [last]
  rfl

theorem collected_length : (collected f s types replies).length = types.length := by
  rw [collected, fill_length, List.length_replicate]

theorem collected_of_mem (each : (replies.map Prod.fst).Perm (prompted s false types)) {i : ℕ}
    {result : PermissionResult} (mem : (i, result) ∈ arrivals f s types replies) :
    (collected f s types replies)[i]? = some result := by
  have places := arrivals_perm (f := f) each
  refine fill_of_mem (places.nodup_iff.mpr List.nodup_range) mem ?_
  rw [List.length_replicate]
  exact List.mem_range.mp (places.mem_iff.mp (List.mem_map_of_mem mem))

theorem collected_prompted (each : (replies.map Prod.fst).Perm (prompted s false types))
    {reply : ℕ × Bool} (replied : reply ∈ replies) :
    (collected f s types replies)[reply.1]? = some (permissionResult reply.2) :=
  collected_of_mem each (List.mem_append_right _ (List.mem_map_of_mem replied))

theorem collected_atOnce (each : (replies.map Prod.fst).Perm (prompted s false types)) {i : ℕ}
    {type : PermissionType} (entry : types[i]? = some type)
    (silent : needsSystemPrompt s type = false) :
    (collected f s types replies)[i]? =
      some (permissionResult (isAllowlistedPermissionType f s type)) := by
  refine collected_of_mem each (List.mem_append_left _ (List.mem_map.mpr ⟨(type, i), ?_, rfl⟩))
  rw [List.mem_filter, List.mk_mem_zipIdx_iff_getElem?, silent]
  exact ⟨entry, rfl⟩

end Collected

section Agreement

variable {f : Flags} {s : SystemState} {types : List PermissionType} {replies : List (ℕ × Bool)}

/-- The callback runs once, behind the last reply, with an answer for each entry: the reply
where there is a prompt, what the loop without prompts builds elsewhere. A nested frame is
denied all entries. -/
structure Answered (f : Flags) (s : SystemState) (barrier : Barrier) (nested : Bool)
    (types : List PermissionType) (replies : List (ℕ × Bool)) : Prop where
  waits : ∀ past, past <+: replies → past ≠ replies →
    callbackRuns f s barrier nested types past = []
  answers : ∃ results, callbackRuns f s barrier nested types replies = [results] ∧
    results.length = types.length ∧
    (∀ reply ∈ replies, results[reply.1]? = some (permissionResult reply.2)) ∧
    ∀ i type, types[i]? = some type → i ∉ prompted s nested types →
      results[i]? = some (if nested then permissionResult false else plainResult f s type)

/-- The list asks for the microphone or the camera, and the system does not allow it (yet). -/
def Prompts (s : SystemState) (types : List PermissionType) : Prop :=
  .audioCapture ∈ types ∧ blinkIOSSystemPermissionStatus s .microphone = false ∨
    .videoCapture ∈ types ∧ blinkIOSSystemPermissionStatus s .camera = false

instance (s : SystemState) (types : List PermissionType) : Decidable (Prompts s types) := by
  unfold Prompts
  infer_instance

theorem any_needsSystemPrompt_iff :
    types.any (needsSystemPrompt s) = true ↔ Prompts s types := by
  rw [List.any_eq_true]
  constructor
  · rintro ⟨type, mem, asks⟩
    cases type with
    | audioCapture => exact .inl ⟨mem, by simpa [needsSystemPrompt, systemPermission] using asks⟩
    | videoCapture => exact .inr ⟨mem, by simpa [needsSystemPrompt, systemPermission] using asks⟩
    | _ => cases asks
  · rintro (⟨mem, refused⟩ | ⟨mem, refused⟩)
    · exact ⟨_, mem, by simp [needsSystemPrompt, systemPermission, refused]⟩
    · exact ⟨_, mem, by simp [needsSystemPrompt, systemPermission, refused]⟩

/-- The list asks for the location as well as for something that is prompted for. -/
def DropsSetting (f : Flags) (s : SystemState) (nested : Bool) (types : List PermissionType) :
    Prop :=
  nested = false ∧ Prompts s types ∧ f.kApproximateGeolocationPermission = true ∧
    .geolocation ∈ types ∧ blinkIOSSystemPermissionStatus s .location = true

instance (f : Flags) (s : SystemState) (nested : Bool) (types : List PermissionType) :
    Decidable (DropsSetting f s nested types) := by
  unfold DropsSetting
  infer_instance

/-- The two loops build the same entry unless it is the location with its setting. -/
theorem plainResult_eq_iff (f : Flags) (s : SystemState) (type : PermissionType) :
    plainResult f s type = permissionResult (isAllowlistedPermissionType f s type) ↔
      ¬ (f.kApproximateGeolocationPermission = true ∧ type = .geolocation ∧
        blinkIOSSystemPermissionStatus s .location = true) := by
  unfold plainResult
  split
  · rename_i attaches
    rw [Bool.and_eq_true, Bool.and_eq_true, decide_eq_true_eq] at attaches
    obtain ⟨⟨feature, rfl⟩, allowed⟩ := attaches
    exact iff_of_false (by simp [permissionResult]) fun loses => loses ⟨feature, rfl, allowed⟩
  · rename_i attaches
    refine iff_of_true rfl fun ⟨feature, location, allowed⟩ => attaches ?_
    subst location
    simp [feature, isAllowlistedPermissionType, allowed]

theorem mem_prompted {i : ℕ} {type : PermissionType} (entry : types[i]? = some type) :
    i ∈ prompted s false types ↔ needsSystemPrompt s type = true := by
  rw [prompted, if_neg Bool.false_ne_true, List.mem_map]
  constructor
  · rintro ⟨⟨other, j⟩, mem, rfl⟩
    obtain ⟨mem, asks⟩ := List.mem_filter.mp mem
    rw [List.mk_mem_zipIdx_iff_getElem?, entry] at mem
    rwa [Option.some.inj mem]
  · intro asks
    exact ⟨(type, i), List.mem_filter.mpr ⟨List.mk_mem_zipIdx_iff_getElem?.mpr entry, asks⟩, rfl⟩

theorem prompted_eq_nil (silent : ¬ types.any (needsSystemPrompt s) = true) :
    prompted s false types = [] := by
  rw [prompted, if_neg Bool.false_ne_true, List.map_eq_nil_iff, List.filter_eq_nil_iff]
  intro entry mem asks
  exact silent (List.any_eq_true.mpr ⟨entry.1, List.fst_mem_of_mem_zipIdx mem, asks⟩)

theorem answered_without_prompts {barrier : Barrier} {nested : Bool}
    (each : (replies.map Prod.fst).Perm (prompted s nested types))
    (silent : prompted s nested types = []) {results : List PermissionResult}
    (runs : callbackRuns f s barrier nested types [] = [results])
    (length : results.length = types.length)
    (plain : ∀ (i : ℕ) type, types[i]? = some type →
      results[i]? = some (if nested then permissionResult false else plainResult f s type)) :
    Answered f s barrier nested types replies := by
  rw [silent] at each
  obtain rfl := List.map_eq_nil_iff.mp each.eq_nil
  refine ⟨fun past before earlier => ?_, results, runs, length, nofun, fun i type entry _ =>
    plain i type entry⟩
  exact absurd (List.prefix_nil.mp before) earlier

theorem answered_prompting_iff {barrier : Barrier} (prompts : Prompts s types)
    (each : (replies.map Prod.fst).Perm (prompted s false types)) :
    Answered f s barrier false types replies ↔ ¬ DropsSetting f s false types := by
  have asks := any_needsSystemPrompt_iff.mpr prompts
  have all : replies.length = (prompted s false types).length := by
    rw [← each.length_eq, List.length_map]
  have runs : callbackRuns f s barrier false types replies = [collected f s types replies] := by
    rw [callbackRuns_prompting barrier asks all.le, if_pos all]
  constructor
  · rintro ⟨-, results, ran, -, -, plain⟩ ⟨-, -, feature, location, allowed⟩
    obtain rfl := List.singleton_injective (ran.symm.trans runs)
    obtain ⟨i, entry⟩ := List.mem_iff_getElem?.mp location
    have attached := plain i .geolocation entry fun mem =>
      Bool.false_ne_true ((mem_prompted entry).mp mem)
    rw [collected_atOnce each entry rfl] at attached
    exact (plainResult_eq_iff f s .geolocation).mp (Option.some.inj attached).symm
      ⟨feature, rfl, allowed⟩
  · intro keeps
    refine ⟨fun past before earlier => ?_, collected f s types replies, runs, collected_length,
      fun reply replied => collected_prompted each replied, fun i type entry unprompted => ?_⟩
    · have shorter : past.length < replies.length :=
        lt_of_le_of_ne before.length_le fun same => earlier (before.eq_of_length same)
      rw [callbackRuns_prompting barrier asks (by omega), if_neg (by omega)]
    · have silent : needsSystemPrompt s type = false :=
        Bool.eq_false_iff.mpr fun asked => unprompted ((mem_prompted entry).mpr asked)
      rw [collected_atOnce each entry silent, if_neg Bool.false_ne_true, Option.some.injEq,
        eq_comm, plainResult_eq_iff]
      rintro ⟨feature, rfl, allowed⟩
      exact keeps ⟨rfl, prompts, feature, List.mem_of_getElem? entry, allowed⟩

/-- For every list, every state of the system and every order of the replies, a request is
answered completely and as without prompts, exactly if it does not ask for the location
together with something that is prompted for. -/
theorem request_answered_iff (f : Flags) (s : SystemState) (barrier : Barrier) (nested : Bool)
    (types : List PermissionType) (replies : List (ℕ × Bool))
    (each : (replies.map Prod.fst).Perm (prompted s nested types)) :
    Answered f s barrier nested types replies ↔ ¬ DropsSetting f s nested types := by
  cases nested with
  | true =>
    refine iff_of_true ?_ fun drops => Bool.false_ne_true drops.1.symm
    refine answered_without_prompts each rfl rfl List.length_replicate fun i type entry => ?_
    rw [List.getElem?_replicate, if_pos (List.getElem?_eq_some_iff.mp entry).1]
    rfl
  | false =>
    by_cases prompts : Prompts s types
    · exact answered_prompting_iff prompts each
    · refine iff_of_true ?_ fun drops => prompts drops.2.1
      have asks := mt any_needsSystemPrompt_iff.mp prompts
      refine answered_without_prompts each (prompted_eq_nil asks)
        (by rw [callbackRuns, if_neg Bool.false_ne_true, if_neg asks]) (List.length_map _)
        fun i type entry => ?_
      rw [List.getElem?_map, entry]
      rfl

end Agreement

section LocationAndMicrophone

/-- The location is allowed and the microphone has not been asked for yet. -/
def firstUse : SystemState := ⟨.authorizedWhenInUse, .notDetermined, .notDetermined⟩

def approximateLocation : Flags := ⟨true, false, none, false⟩

/-- Two prompts that reply in the other order. -/
theorem request_answered_iff_bothMedia :
    Answered approximateLocation firstUse counter false
        [.audioCapture, .nfc, .videoCapture] [(2, true), (0, false)] ↔
      ¬ DropsSetting approximateLocation firstUse false [.audioCapture, .nfc, .videoCapture] :=
  request_answered_iff approximateLocation firstUse counter false
    [.audioCapture, .nfc, .videoCapture] [(2, true), (0, false)] (by decide)

theorem location_settingDropped : ¬ ∀ f s nested types (replies : List (ℕ × Bool)),
    (replies.map Prod.fst).Perm (prompted s nested types) →
    Answered f s counter nested types replies := by
  intro answered
  obtain ⟨-, results, ran, -, -, plain⟩ := answered approximateLocation firstUse false
    [.geolocation, .audioCapture] [(1, true)] (by decide)
  obtain rfl := List.singleton_injective ran
  exact absurd (plain 0 .geolocation rfl (by decide)) (by decide)

end LocationAndMicrophone

end BlinkerFluid.PermissionRequests
