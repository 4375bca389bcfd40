import BlinkerFluid.MediaDevices

/-! One list of devices and its scans. A scan that began behind the last invalidation sees the
devices as they are, or the list hears of another change and is scanned again. -/

namespace BlinkerFluid.MediaDevices
open ByteString

variable (p : Platform) (type : MediaDeviceType)

def ungrouped (info : WebMediaDeviceInfo) : WebMediaDeviceInfo := { info with groupId := [] }

def Same (devices devices' : Devices) : Prop := devices.map ungrouped = devices'.map ungrouped

def expected (devices : Devices) : Devices :=
  match sourceOf p type with
  | .blocked => []
  | .fake => getFakeAudioDevices (type = .kMediaAudioInput)
  | .audioSystem => devices
  | .videoCaptureManager => devices

/-- What holds of a list between any two lines of the manager. -/
structure Numbered (d : DeviceList) : Prop where
  scans : d.scans.length = if d.cacheInfo.isUpdateOngoing then 1 else 0
  updated : d.cacheInfo.seqLastUpdate ≤ d.cacheInfo.currentEventSequence
  invalidated : d.cacheInfo.seqLastInvalidation ≤ d.cacheInfo.currentEventSequence
  sources : ∀ scan ∈ d.scans, scan.source = sourceOf p type
  empty : d.cacheIsPopulated = false → d.currentSnapshot = []
  blocked : sourceOf p type = .blocked → d.currentSnapshot = []

/-- What holds between two calls: what is not up to date is being scanned. -/
structure Sound (d : DeviceList) : Prop where
  numbered : Numbered p type d
  populated : d.cachePolicy = .SYSTEM_MONITOR → d.cacheIsPopulated = false →
    d.cacheInfo.isUpdateOngoing = true
  valid : d.cachePolicy = .SYSTEM_MONITOR → d.cacheInfo.isInRelaxedMode = false →
    d.cacheInfo.isUpdateOngoing = false →
      d.cacheInfo.seqLastInvalidation < d.cacheInfo.seqLastUpdate

/-- A list that is watched sees the devices as they are, unless it was not told of a change. -/
def Fresh (devices : Devices) (untold : Bool) (d : DeviceList) : Prop :=
  d.cachePolicy = .SYSTEM_MONITOR → d.cacheInfo.isInRelaxedMode = false →
    d.cacheInfo.seqLastInvalidation < d.cacheInfo.seqLastUpdate → untold = false →
      (∀ scan ∈ d.scans, ∀ seen, scan.seen = some seen → Same seen devices) ∧
        (d.cacheInfo.isUpdateOngoing = false → Same d.currentSnapshot (expected p type devices))

def sameInvalidation (d d' : DeviceList) : Bool :=
  d'.cacheInfo.seqLastInvalidation = d.cacheInfo.seqLastInvalidation

structure Steps (d d' : DeviceList) : Prop where
  sound : Sound p type d'
  grows : d.cacheInfo.seqLastInvalidation ≤ d'.cacheInfo.seqLastInvalidation
  fresh : ∀ devices untold, Fresh p type devices untold d →
    Fresh p type devices (untold && sameInvalidation d d') d'

variable {p type} {d d' d'' : DeviceList}

theorem Same.symm {devices devices' : Devices} (same : Same devices devices') :
    Same devices' devices := Eq.symm same

theorem Same.trans {first second third : Devices} (same : Same first second)
    (same' : Same second third) : Same first third := Eq.trans same same'

theorem Same.nil {devices devices' : Devices} (same : Same devices devices') (nil : devices' = []) :
    devices = [] := by
  rw [Same, nil] at same
  exact List.map_eq_nil_iff.mp same

theorem same_of_equalDevices {new old : Devices} (equal : equalDevices false new old = true) :
    Same new old := by
  have each := of_decide_eq_true equal
  induction each with
  | nil => rfl
  | cons first _ ih =>
    simp only [Bool.false_eq_true, if_false, equalDeviceExcludingGroupID, Bool.and_eq_true,
      decide_eq_true_eq] at first
    obtain ⟨⟨⟨deviceId, label⟩, videoFacing⟩, availability⟩ := first
    rw [Same, List.map_cons, List.map_cons, ih (decide_eq_true ‹_›), ungrouped, ungrouped, deviceId,
      label, videoFacing, availability]

theorem eq_of_equalDevices {new old : Devices} (equal : equalDevices true new old = true) :
    new = old := by
  have each := of_decide_eq_true equal
  induction each with
  | nil => rfl
  | @cons info info' _ _ first _ ih =>
    simp only [if_true, equalDeviceIncludingGroupID, equalDeviceExcludingGroupID, Bool.and_eq_true,
      decide_eq_true_eq] at first
    obtain ⟨⟨⟨⟨deviceId, label⟩, videoFacing⟩, availability⟩, groupId⟩ := first
    have same : info = info' := by
      cases info
      cases info'
      subst deviceId label videoFacing availability groupId
      rfl
    rw [same, ih (decide_eq_true ‹_›)]

theorem Steps.refl (sound : Sound p type d) : Steps p type d d where
  sound := sound
  grows := le_rfl
  fresh := by
    intro devices untold fresh
    rwa [sameInvalidation, decide_eq_true rfl, Bool.and_true]

theorem Steps.trans (first : Steps p type d d') (second : Steps p type d' d'') :
    Steps p type d d'' where
  sound := second.sound
  grows := first.grows.trans second.grows
  fresh := by
    intro devices untold fresh
    have after := second.fresh devices _ (first.fresh devices untold fresh)
    have told : (untold && sameInvalidation d d'' : Bool) =
        (untold && sameInvalidation d d' && sameInvalidation d' d'') := by
      have := first.grows
      have := second.grows
      simp only [sameInvalidation, Bool.and_assoc, ← Bool.decide_and]
      exact congrArg _ (decide_eq_decide.mpr (by omega))
    rwa [told]

theorem Numbered.ongoing (numbered : Numbered p type d) {scan : Scan} {rest : List Scan}
    (first : d.scans = scan :: rest) : d.cacheInfo.isUpdateOngoing = true := by
  have scans := numbered.scans
  by_contra still
  rw [first, if_neg still] at scans
  cases scans

theorem Numbered.sound (numbered : Numbered p type d)
    (ongoing : d.cacheInfo.isUpdateOngoing = true) : Sound p type d where
  numbered := numbered
  populated := fun _ _ => ongoing
  valid := by
    intro _ _ still
    rw [ongoing] at still
    cases still

theorem beginScan_ongoing (d : DeviceList) :
    (beginScan p type d).cacheInfo.isUpdateOngoing = true := by
  unfold beginScan
  split_ifs with ongoing
  · exact ongoing
  · rfl

theorem Numbered.beginScan (numbered : Numbered p type d) :
    Numbered p type (beginScan p type d) := by
  unfold MediaDevices.beginScan
  split_ifs with ongoing
  · exact numbered
  · obtain ⟨scans, updated, invalidated, sources, empty, blocked⟩ := numbered
    rw [if_neg ongoing, List.length_eq_zero_iff] at scans
    refine ⟨?_, le_rfl, invalidated.trans (Nat.le_succ _), ?_, empty, blocked⟩
    · rw [scans]
      rfl
    · rw [scans]
      intro scan mem
      obtain rfl := List.mem_singleton.mp mem
      rfl

/-- A list that was made invalid is scanned again, now or when the scan is over. -/
theorem fresh_beginScan_invalidated (numbered : Numbered p type d)
    (invalid : d.cacheInfo.seqLastUpdate ≤ d.cacheInfo.seqLastInvalidation) (devices : Devices)
    (untold : Bool) : Fresh p type devices untold (beginScan p type d) := by
  unfold beginScan
  split_ifs with ongoing
  · intro _ _ valid
    omega
  · have scans := numbered.scans
    rw [if_neg ongoing, List.length_eq_zero_iff] at scans
    intro _ _ _ _
    refine ⟨fun scan mem => ?_, by rintro ⟨⟩⟩
    rw [scans] at mem
    obtain rfl := List.mem_singleton.mp mem
    rintro _ ⟨⟩

theorem Numbered.invalidate (numbered : Numbered p type d) :
    Numbered p type (d.cached invalidateCache) :=
  ⟨numbered.scans, numbered.updated.trans (Nat.le_succ _), le_rfl, numbered.sources,
    numbered.empty, numbered.blocked⟩

theorem beginScan_seqLastInvalidation (d : DeviceList) :
    (beginScan p type d).cacheInfo.seqLastInvalidation = d.cacheInfo.seqLastInvalidation := by
  unfold beginScan
  split_ifs <;> rfl

theorem steps_invalidated (policy : CachePolicy) (sound : Sound p type d) : Steps p type d
    (beginScan p type ({ d with cachePolicy := policy }.cached invalidateCache)) := by
  have numbered := sound.numbered
  have numbered' : Numbered p type { d with cachePolicy := policy } :=
    ⟨numbered.scans, numbered.updated, numbered.invalidated, numbered.sources, numbered.empty,
      numbered.blocked⟩
  refine ⟨numbered'.invalidate.beginScan.sound (beginScan_ongoing _), ?_,
    fun devices untold _ => ?_⟩
  · rw [beginScan_seqLastInvalidation]
    exact numbered.invalidated.trans (Nat.le_succ _)
  · exact fresh_beginScan_invalidated numbered'.invalidate
      (numbered.updated.trans (Nat.le_succ _)) devices _

theorem steps_beginScan (sound : Sound p type d) : Steps p type d (beginScan p type d) where
  sound := sound.numbered.beginScan.sound (beginScan_ongoing d)
  grows := (beginScan_seqLastInvalidation d).ge
  fresh := by
    intro devices untold fresh
    have told : sameInvalidation d (beginScan p type d) = true :=
      decide_eq_true (beginScan_seqLastInvalidation d)
    rw [told, Bool.and_true]
    unfold beginScan
    split_ifs with ongoing
    · exact fresh
    · have scans := sound.numbered.scans
      rw [if_neg ongoing, List.length_eq_zero_iff] at scans
      intro _ _ _ _
      refine ⟨fun scan mem => ?_, by rintro ⟨⟩⟩
      rw [scans] at mem
      obtain rfl := List.mem_singleton.mp mem
      rintro _ ⟨⟩

theorem steps_setPolicy (sound : Sound p type d) (policy : CachePolicy) :
    Steps p type d (setPolicy p type policy d) := by
  unfold setPolicy
  split_ifs with same monitors
  · exact .refl sound
  · exact steps_invalidated _ sound
  · have forgets : policy = .NO_CACHE := by
      cases policy with
      | NO_CACHE => rfl
      | SYSTEM_MONITOR => exact absurd rfl monitors
    subst forgets
    have numbered := sound.numbered
    exact ⟨⟨⟨numbered.scans, numbered.updated, numbered.invalidated, numbered.sources,
      numbered.empty, numbered.blocked⟩, by rintro ⟨⟩, by rintro ⟨⟩⟩, le_rfl,
      fun _ _ _ => by rintro ⟨⟩⟩

theorem steps_noteChange (sound : Sound p type d) (now : ℕ) :
    Steps p type d (noteChange p now type d) := by
  unfold noteChange
  dsimp only
  split_ifs with needed
  · exact steps_invalidated d.cachePolicy sound
  · have relaxed : d.cacheInfo.isInRelaxedMode = true := by
      by_contra strict
      have strict := Bool.eq_false_iff.mpr strict
      have later := Nat.lt_succ_of_le sound.numbered.updated
      rw [Bool.or_eq_true, not_or] at needed
      refine needed.2 ?_
      rw [needsUpdateUponInvalidation, DeviceList.cached, invalidateCache, strict]
      exact decide_eq_true later
    have numbered := sound.numbered.invalidate
    refine ⟨⟨numbered, sound.populated, fun _ strict => ?_⟩,
      sound.numbered.invalidated.trans (Nat.le_succ _), fun _ _ _ _ strict => ?_⟩
    all_goals
      change d.cacheInfo.isInRelaxedMode = false at strict
      rw [relaxed] at strict
      cases strict

theorem steps_resetSpurious (sound : Sound p type d) :
    Steps p type d (d.cached resetSpuriousInvalidations) where
  sound := by
    obtain ⟨numbered, populated, valid⟩ := sound
    exact ⟨⟨numbered.scans, numbered.updated, numbered.invalidated, numbered.sources,
      numbered.empty, numbered.blocked⟩, populated, valid⟩
  grows := le_rfl
  fresh := by
    intro devices untold fresh
    have told : sameInvalidation d (d.cached resetSpuriousInvalidations) = true :=
      decide_eq_true rfl
    rw [told, Bool.and_true]
    exact fresh

theorem Sound.looks (sound : Sound p type d) (seen : Option Devices) :
    Sound p type { d with scans := d.scans.map fun scan => { scan with seen := seen } } := by
  obtain ⟨⟨scans, updated, invalidated, sources, empty, blocked⟩, populated, valid⟩ := sound
  refine ⟨⟨List.length_map _ |>.trans scans, updated, invalidated, fun scan mem => ?_, empty,
    blocked⟩, populated, valid⟩
  obtain ⟨before, known, rfl⟩ := List.mem_map.mp mem
  exact sources before known

theorem Fresh.looks {devices : Devices} {untold : Bool} (fresh : Fresh p type devices untold d) :
    Fresh p type devices untold
      { d with scans := d.scans.map fun scan => { scan with seen := some devices } } := by
  intro policy strict valid told
  refine ⟨fun scan mem seen known => ?_, (fresh policy strict valid told).2⟩
  obtain ⟨before, -, rfl⟩ := List.mem_map.mp mem
  obtain rfl := Option.some.inj known
  rfl

/-! The group of a camera. -/

theorem uniqueGroup_eq_some {audioInfos : Devices} {isMatch : WebMediaDeviceInfo → Bool}
    {group : Bytes} (unique : uniqueGroup audioInfos isMatch = some group) :
    (∃ info ∈ audioInfos, isRealAudioDeviceID info.deviceId = true ∧ info.groupId = group) ∧
      ∀ info ∈ audioInfos, isRealAudioDeviceID info.deviceId = true → isMatch info = true →
        info.groupId = group := by
  unfold uniqueGroup at unique
  split at unique
  · cases unique
  · next first others found =>
    split_ifs at unique with differ
    obtain rfl := Option.some.inj unique
    have each (info : WebMediaDeviceInfo) : info ∈ first :: others ↔
        info ∈ audioInfos ∧ (isRealAudioDeviceID info.deviceId && isMatch info) = true := by
      rw [← found, List.mem_filter]
    refine ⟨?_, fun info mem isReal matched => ?_⟩
    · obtain ⟨mem, matched⟩ := (each first).mp List.mem_cons_self
      exact ⟨first, mem, (Bool.and_eq_true_iff.mp matched).1, rfl⟩
    · have mem := (each info).mpr ⟨mem, by rw [isReal, matched]; rfl⟩
      rcases List.mem_cons.mp mem with rfl | other
      · rfl
      · by_contra ne
        exact differ ⟨info, other, ne⟩

theorem guessVideoGroupID_cases (audioInfos : Devices) (videoInfo : WebMediaDeviceInfo) :
    guessVideoGroupID audioInfos videoInfo = videoInfo.deviceId ∨
      ∃ info ∈ audioInfos, isRealAudioDeviceID info.deviceId = true ∧
        info.groupId = guessVideoGroupID audioInfos videoInfo := by
  unfold guessVideoGroupID
  dsimp only
  split_ifs
  · exact .inl rfl
  · generalize labels : uniqueGroup audioInfos (fun info => _) = byLabel
    generalize models : uniqueGroup audioInfos (fun info => _) = byModel
    cases byLabel with
    | some group => exact .inr (uniqueGroup_eq_some labels).1
    | none =>
      cases byModel with
      | some group => exact .inr (uniqueGroup_eq_some models).1
      | none => exact .inl rfl

/-! A scan that is over. -/

/-- A new list changes the snapshot and the count of scans that changed nothing. -/
theorem storeSnapshot_cases (new : Devices) (useGroupId : Bool) (d : DeviceList) :
    ∃ spurious relaxed, storeSnapshot p new useGroupId d =
        { d with
          cacheInfo := { d.cacheInfo with
            numSpuriousInvalidations := spurious
            isInRelaxedMode := relaxed }
          currentSnapshot := if equalDevices useGroupId new d.currentSnapshot then d.currentSnapshot
            else new } ∧
      (relaxed = false → d.cacheInfo.isInRelaxedMode = false) ∧
      (useGroupId = true → relaxed = d.cacheInfo.isInRelaxedMode) := by
  unfold storeSnapshot
  dsimp only
  cases equal : equalDevices useGroupId new d.currentSnapshot with
  | false =>
    simp only [Bool.not_false, if_true, Bool.false_eq_true, if_false]
    split_ifs with counts
    · exact ⟨0, _, rfl, id, fun _ => rfl⟩
    · exact ⟨_, _, rfl, id, fun _ => rfl⟩
  | true =>
    simp only [Bool.not_true, Bool.false_eq_true, if_false, if_true]
    split_ifs with counts
    · unfold DeviceList.cached recordSpuriousInvalidation
      dsimp only
      split_ifs with known often
      · exact ⟨_, _, rfl, id, fun _ => rfl⟩
      · refine ⟨0, true, rfl, by rintro ⟨⟩, fun grouped => ?_⟩
        rw [grouped, Bool.not_true, Bool.and_false] at counts
        cases counts
      · exact ⟨_, _, rfl, id, fun _ => rfl⟩
    · exact ⟨_, _, rfl, id, fun _ => rfl⟩

theorem storeSnapshot_same (new : Devices) (d : DeviceList) :
    Same (storeSnapshot p new false d).currentSnapshot new := by
  obtain ⟨spurious, relaxed, stored, -⟩ := storeSnapshot_cases (p := p) new false d
  rw [stored]
  dsimp only
  split_ifs with equal
  · exact (same_of_equalDevices equal).symm
  · rfl

/-- What the end of a scan does to the numbers. -/
structure Completed (d : DeviceList) (c : CacheInfo) : Prop where
  over_ : c.isUpdateOngoing = false
  invalidation : c.seqLastInvalidation = d.cacheInfo.seqLastInvalidation
  strict : c.isInRelaxedMode = false →
    d.cacheInfo.isInRelaxedMode = false ∧ c.seqLastUpdate = d.cacheInfo.seqLastUpdate
  later : d.cacheInfo.seqLastUpdate ≤ c.seqLastUpdate
  updated : c.seqLastUpdate ≤ c.currentEventSequence
  invalidated : c.seqLastInvalidation ≤ c.currentEventSequence

theorem completeScan_completed (numbered : Numbered p type d) (now : ℕ) (new : Devices) :
    Completed d (completeScan p now new d).cacheInfo := by
  obtain ⟨spurious, relaxed, stored, strict, -⟩ := storeSnapshot_cases (p := p) new false d
  rw [completeScan, stored]
  dsimp only [DeviceList.cached]
  have updated := numbered.updated
  have invalidated := numbered.invalidated
  unfold updateCompleted
  dsimp only
  split_ifs with slow
  · refine ⟨rfl, rfl, fun still => ?_, updated.trans (Nat.le_succ _), le_rfl,
      invalidated.trans (Nat.le_succ _)⟩
    change relaxed = false at still
    rw [still, Bool.and_false] at slow
    cases slow
  · exact ⟨rfl, rfl, fun still => ⟨strict still, rfl⟩, le_rfl, updated, invalidated⟩

theorem completeScan_cachePolicy (now : ℕ) (new : Devices) (d : DeviceList) :
    (completeScan p now new d).cachePolicy = d.cachePolicy := by
  obtain ⟨spurious, relaxed, stored, -⟩ := storeSnapshot_cases (p := p) new false d
  rw [completeScan, stored]
  rfl

theorem Numbered.completeScan (numbered : Numbered p type d)
    (ongoing : d.cacheInfo.isUpdateOngoing = true) (now : ℕ) {new : Devices}
    (nothing : sourceOf p type = .blocked → new = []) :
    Numbered p type (completeScan p now new d) := by
  obtain ⟨over_, -, -, -, updated, invalidated⟩ := completeScan_completed numbered now new
  have scans := numbered.scans
  rw [if_pos ongoing] at scans
  refine ⟨?_, updated, invalidated, fun scan mem => ?_, by rintro ⟨⟩, fun blocked => ?_⟩
  · rw [over_, if_neg Bool.false_ne_true]
    exact (List.length_tail).trans (by rw [scans])
  · exact numbered.sources scan (List.mem_of_mem_tail mem)
  · exact (storeSnapshot_same new d).nil (nothing blocked)

theorem result_expected {scan : Scan} {new devices : Devices}
    (source : scan.source = sourceOf p type) (result : scan.result type = some new)
    (seen : ∀ ds, scan.seen = some ds → Same ds devices) : Same new (expected p type devices) := by
  unfold Scan.result at result
  unfold expected
  rw [← source]
  cases known : scan.source with
  | blocked =>
    rw [known] at result
    exact congrArg (List.map ungrouped) (Option.some.inj result).symm
  | fake =>
    rw [known] at result
    exact congrArg (List.map ungrouped) (Option.some.inj result).symm
  | audioSystem =>
    rw [known] at result
    exact seen new result
  | videoCaptureManager =>
    rw [known] at result
    exact seen new result

theorem result_blocked {scan : Scan} {new : Devices} (source : scan.source = .blocked)
    (result : scan.result type = some new) : new = [] := by
  rw [Scan.result, source] at result
  exact (Option.some.inj result).symm

theorem steps_completeScan (sound : Sound p type d) {scan : Scan} {rest : List Scan}
    (first : d.scans = scan :: rest) {new : Devices} (result : scan.result type = some new)
    {now : ℕ} (valid : isLastUpdateValid p now (completeScan p now new d).cacheInfo = true) :
    Steps p type d (completeScan p now new d) := by
  have numbered := sound.numbered
  have source := numbered.sources scan (first ▸ List.mem_cons_self)
  have numbered' := numbered.completeScan (numbered.ongoing first) now
    fun blocked => result_blocked (source.trans blocked) result
  have completed := completeScan_completed numbered now new
  have inOrder : (completeScan p now new d).cacheInfo.isInRelaxedMode = false →
      (completeScan p now new d).cacheInfo.seqLastInvalidation <
        (completeScan p now new d).cacheInfo.seqLastUpdate := by
    intro strict
    rw [isLastUpdateValid, strict, Bool.and_false, Bool.false_and, Bool.or_false,
      Bool.and_eq_true] at valid
    exact of_decide_eq_true valid.1
  refine ⟨⟨numbered', by rintro - ⟨⟩, fun _ strict _ => inOrder strict⟩,
    completed.invalidation.ge, fun devices untold fresh policy strict _ told => ?_⟩
  rw [completeScan_cachePolicy] at policy
  obtain ⟨strict', update⟩ := completed.strict strict
  have same : sameInvalidation d (completeScan p now new d) = true :=
    decide_eq_true completed.invalidation
  rw [same, Bool.and_true] at told
  have before := inOrder strict
  rw [completed.invalidation, update] at before
  obtain ⟨seen, -⟩ := fresh policy strict' before told
  have answer := result_expected source result
    (seen scan (first ▸ List.mem_cons_self))
  have scans := numbered'.scans
  rw [completed.over_, if_neg Bool.false_ne_true, List.length_eq_zero_iff] at scans
  rw [scans]
  exact ⟨by rintro _ ⟨⟩, fun _ => (storeSnapshot_same new d).trans answer⟩

/-- A scan that a change has overtaken is followed by another one. -/
theorem steps_overtaken (sound : Sound p type d) {scan : Scan} {rest : List Scan}
    (first : d.scans = scan :: rest) {new : Devices} (result : scan.result type = some new)
    {now : ℕ}
    (invalid : isLastUpdateValid p now (completeScan p now new d).cacheInfo = false) :
    Steps p type d (beginScan p type (completeScan p now new d)) := by
  have completed := completeScan_completed sound.numbered now new
  have source := sound.numbered.sources scan (first ▸ List.mem_cons_self)
  have numbered := sound.numbered.completeScan (sound.numbered.ongoing first) now
    fun blocked => result_blocked (source.trans blocked) result
  have late : (completeScan p now new d).cacheInfo.seqLastUpdate ≤
      (completeScan p now new d).cacheInfo.seqLastInvalidation := by
    rw [isLastUpdateValid, completed.over_, Bool.or_eq_false_iff, Bool.not_false, Bool.and_true]
      at invalid
    exact not_lt.mp (of_decide_eq_false invalid.1)
  refine ⟨numbered.beginScan.sound (beginScan_ongoing _), ?_, fun devices _ _ =>
    fresh_beginScan_invalidated numbered late devices _⟩
  rw [beginScan_seqLastInvalidation, completed.invalidation]

theorem steps_regroup (sound : Sound p type d) {new : Devices} (same : Same new d.currentSnapshot)
    (populated : d.cacheIsPopulated = true) : Steps p type d (storeSnapshot p new true d) := by
  obtain ⟨spurious, relaxed, stored, -, still⟩ := storeSnapshot_cases (p := p) new true d
  have snapshot : Same (storeSnapshot p new true d).currentSnapshot d.currentSnapshot := by
    rw [stored]
    dsimp only
    split_ifs
    · rfl
    · exact same
  rw [stored, still rfl] at snapshot ⊢
  obtain ⟨numbered, unpopulated, valid⟩ := sound
  refine ⟨⟨⟨numbered.scans, numbered.updated, numbered.invalidated, numbered.sources,
    fun none => ?_, fun blocked => snapshot.nil (numbered.blocked blocked)⟩, unpopulated, valid⟩,
    le_rfl, fun devices untold fresh policy strict new told => ?_⟩
  · rw [populated] at none
    cases none
  · rw [sameInvalidation, decide_eq_true rfl, Bool.and_true] at told
    obtain ⟨seen, current⟩ := fresh policy strict new told
    exact ⟨seen, fun over_ => snapshot.trans (current over_)⟩

end BlinkerFluid.MediaDevices
