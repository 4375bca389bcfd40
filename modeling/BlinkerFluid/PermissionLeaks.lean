import BlinkerFluid.PermissionRequests

/-! One authorization of the system and the answers about other permissions. Two states that
differ in the microphone alone are compared over every list, and so for the camera and the
location. An answer looks at the system through its own case and, in a request, through the
question whether any entry has to be prompted for. -/

namespace BlinkerFluid.PermissionLeaks
open JoinBarrier PermissionRequests

def governed : SystemPermission → PermissionType → Bool
  | .location, .geolocation | .location, .geolocationApproximate => true
  | .microphone, .audioCapture => true
  | .camera, .videoCapture => true
  | _, _ => false

/-- The states agree in the other two authorizations. -/
def DifferOnlyIn (p : SystemPermission) (s t : SystemState) : Prop :=
  match p with
  | .location => s.microphone = t.microphone ∧ s.camera = t.camera
  | .microphone => s.location = t.location ∧ s.camera = t.camera
  | .camera => s.location = t.location ∧ s.microphone = t.microphone

/-- The runs of the callback once all prompts have replied, in some order. -/
def requestAnswers (f : Flags) (s : SystemState) (barrier : Barrier) (nested : Bool)
    (types : List PermissionType) (reply : ℕ → Bool) (order : List ℕ) :
    List (List PermissionResult) :=
  callbackRuns f s barrier nested types (order.map fun i => (i, reply i))

/-- Whoever asks gets the same answers in both states, but for the types that the
authorization is about; the prompts that reply in both have the same reply. -/
structure NoLeak (p : SystemPermission) (f : Flags) (s t : SystemState) (barrier : Barrier)
    (nested : Bool) (types : List PermissionType) (reply : ℕ → Bool) : Prop where
  request : ∀ order order', order.Perm (prompted s nested types) →
    order'.Perm (prompted t nested types) → ∀ (i : ℕ) type, types[i]? = some type →
      governed p type = false →
      (requestAnswers f s barrier nested types reply order).map (·[i]?) =
        (requestAnswers f t barrier nested types reply order').map (·[i]?)
  status : ∀ type ∈ types, governed p type = false →
    getPermissionStatus f s type = getPermissionStatus f t type

def sharesMicrophone : PermissionType → Bool
  | .midiSysex | .notifications | .protectedMediaIdentifier | .persistentStorage => true
  | _ => false

/-- The list asks for the location, and whether it is prompted for depends on the
authorization. -/
def ShowsInSetting (p : SystemPermission) (f : Flags) (s : SystemState) (nested : Bool)
    (types : List PermissionType) : Prop :=
  nested = false ∧ f.kApproximateGeolocationPermission = true ∧ .geolocation ∈ types ∧
    blinkIOSSystemPermissionStatus s .location = true ∧
    match p with
    | .location => False
    | .microphone => .audioCapture ∈ types ∧
      (.videoCapture ∈ types → blinkIOSSystemPermissionStatus s .camera = true)
    | .camera => .videoCapture ∈ types ∧
      (.audioCapture ∈ types → blinkIOSSystemPermissionStatus s .microphone = true)

/-- Exactly one of the states has the authorization, and the list asks for a type that shares
the case of the microphone or shows the difference in the setting of the location. -/
def Leaks (p : SystemPermission) (f : Flags) (s t : SystemState) (nested : Bool)
    (types : List PermissionType) : Prop :=
  blinkIOSSystemPermissionStatus s p ≠ blinkIOSSystemPermissionStatus t p ∧
    ((p = .microphone ∧ ∃ type ∈ types, sharesMicrophone type = true) ∨
      ShowsInSetting p f s nested types)

section Entries

variable {f : Flags} {s : SystemState} {barrier : Barrier} {types : List PermissionType}
  {reply : ℕ → Bool}

/-- The answer for one entry, whatever the order of the replies. -/
def entryAnswer (f : Flags) (s : SystemState) (nested : Bool) (types : List PermissionType)
    (reply : ℕ → Bool) (i : ℕ) (type : PermissionType) : PermissionResult :=
  if nested then permissionResult false
  else if needsSystemPrompt s type then permissionResult (reply i)
  else if Prompts s types then permissionResult (isAllowlistedPermissionType f s type)
  else plainResult f s type

theorem order_replies (order : List ℕ) :
    (order.map fun i => (i, reply i)).map Prod.fst = order := by
  simp [Function.comp_def]

theorem requestAnswers_entry {nested : Bool} {order : List ℕ}
    (each : order.Perm (prompted s nested types)) {i : ℕ} {type : PermissionType}
    (entry : types[i]? = some type) :
    (requestAnswers f s barrier nested types reply order).map (·[i]?) =
      [some (entryAnswer f s nested types reply i type)] := by
  cases nested with
  | true =>
    change [(List.replicate _ _)[i]?] = _
    rw [List.getElem?_replicate, if_pos (List.getElem?_eq_some_iff.mp entry).1]
    rfl
  | false =>
    by_cases prompts : Prompts s types
    · have replied : ((order.map fun i => (i, reply i)).map Prod.fst).Perm
          (prompted s false types) := (order_replies order).symm ▸ each
      have asks := any_needsSystemPrompt_iff.mpr prompts
      have all : (order.map fun i => (i, reply i)).length = (prompted s false types).length := by
        rw [List.length_map, each.length_eq]
      rw [requestAnswers, callbackRuns_prompting barrier asks all.le, if_pos all,
        List.map_singleton, entryAnswer, if_neg Bool.false_ne_true, if_pos prompts]
      cases needs : needsSystemPrompt s type with
      | true =>
        have mem := each.mem_iff.mpr ((mem_prompted entry).mpr needs)
        rw [collected_prompted replied (List.mem_map_of_mem mem)]
        rfl
      | false =>
        rw [collected_atOnce replied entry needs]
        rfl
    · have asks := mt any_needsSystemPrompt_iff.mp prompts
      have silent : needsSystemPrompt s type = false := Bool.eq_false_iff.mpr fun needs =>
        asks (List.any_eq_true.mpr ⟨type, List.mem_of_getElem? entry, needs⟩)
      rw [requestAnswers, callbackRuns, if_neg Bool.false_ne_true, if_neg asks,
        List.map_singleton, List.getElem?_map, entry, entryAnswer, if_neg Bool.false_ne_true,
        silent, if_neg Bool.false_ne_true, if_neg prompts]
      rfl

theorem noLeak_iff {p : SystemPermission} {t : SystemState} {nested : Bool} :
    NoLeak p f s t barrier nested types reply ↔
      ∀ (i : ℕ) type, types[i]? = some type → governed p type = false →
        entryAnswer f s nested types reply i type = entryAnswer f t nested types reply i type ∧
          getPermissionStatus f s type = getPermissionStatus f t type := by
  constructor
  · intro safe i type entry other
    have same := safe.request _ _ (.refl _) (.refl _) i type entry other
    rw [requestAnswers_entry (.refl _) entry, requestAnswers_entry (.refl _) entry] at same
    exact ⟨Option.some.inj (List.singleton_injective same),
      safe.status type (List.mem_of_getElem? entry) other⟩
  · intro each
    constructor
    · intro order order' first second i type entry other
      rw [requestAnswers_entry first entry, requestAnswers_entry second entry,
        (each i type entry other).1]
    · intro type mem other
      obtain ⟨i, entry⟩ := List.mem_iff_getElem?.mp mem
      exact (each i type entry other).2

end Entries

section Cases

variable {p : SystemPermission} {f : Flags} {s t : SystemState} {types : List PermissionType}

theorem DifferOnlyIn.agree (differ : DifferOnlyIn p s t) {q : SystemPermission} (other : q ≠ p) :
    blinkIOSSystemPermissionStatus s q = blinkIOSSystemPermissionStatus t q := by
  cases p <;> cases q <;> simp_all [DifferOnlyIn, blinkIOSSystemPermissionStatus]

/-- A type that is not governed has the same case in both states, unless it shares the one of
the microphone. -/
theorem isAllowlisted_congr (differ : DifferOnlyIn p s t) {type : PermissionType}
    (other : governed p type = false)
    (apart : p = .microphone → sharesMicrophone type = false) :
    isAllowlistedPermissionType f s type = isAllowlistedPermissionType f t type := by
  have agree (q : SystemPermission) := differ.agree (q := q)
  cases type with
  | geolocation | geolocationApproximate => exact agree .location (by rintro rfl; cases other)
  | midiSysex | notifications | protectedMediaIdentifier | persistentStorage =>
    exact agree .microphone fun here => Bool.false_ne_true (apart here.symm).symm
  | audioCapture => exact agree .microphone (by rintro rfl; cases other)
  | videoCapture => exact agree .camera (by rintro rfl; cases other)
  | _ => rfl

theorem needsSystemPrompt_congr (differ : DifferOnlyIn p s t) {type : PermissionType}
    (other : governed p type = false) : needsSystemPrompt s type = needsSystemPrompt t type := by
  have agree (q : SystemPermission) := differ.agree (q := q)
  cases type with
  | audioCapture =>
    have same := agree .microphone (by rintro rfl; cases other)
    simp [needsSystemPrompt, systemPermission, same]
  | videoCapture =>
    have same := agree .camera (by rintro rfl; cases other)
    simp [needsSystemPrompt, systemPermission, same]
  | _ => rfl

theorem ShowsInSetting.prompts_iff {nested : Bool} (shows : ShowsInSetting p f s nested types) :
    Prompts s types ↔ blinkIOSSystemPermissionStatus s p = false := by
  obtain ⟨-, -, -, -, asked⟩ := shows
  cases p with
  | location => exact asked.elim
  | microphone =>
    obtain ⟨audio, video⟩ := asked
    constructor
    · rintro (⟨-, refused⟩ | ⟨mem, refused⟩)
      · exact refused
      · rw [video mem] at refused
        cases refused
    · exact fun refused => .inl ⟨audio, refused⟩
  | camera =>
    obtain ⟨video, audio⟩ := asked
    constructor
    · rintro (⟨mem, refused⟩ | ⟨-, refused⟩)
      · rw [audio mem] at refused
        cases refused
      · exact refused
    · exact fun refused => .inr ⟨video, refused⟩

theorem ShowsInSetting.congr {nested : Bool} (differ : DifferOnlyIn p s t)
    (shows : ShowsInSetting p f s nested types) : ShowsInSetting p f t nested types := by
  have agree (q : SystemPermission) := differ.agree (q := q)
  cases p with
  | location => exact shows.2.2.2.2.elim
  | microphone =>
    rwa [ShowsInSetting, ← agree .location (by decide), ← agree .camera (by decide)]
  | camera =>
    rwa [ShowsInSetting, ← agree .location (by decide), ← agree .microphone (by decide)]

theorem showsInSetting_of_prompts (differ : DifferOnlyIn p s t)
    (prompts : ¬ (Prompts s types ↔ Prompts t types)) (other : governed p .geolocation = false)
    (feature : f.kApproximateGeolocationPermission = true) (location : .geolocation ∈ types)
    (allowed : blinkIOSSystemPermissionStatus s .location = true) :
    ShowsInSetting p f s false types := by
  have agree (q : SystemPermission) := differ.agree (q := q)
  refine ⟨rfl, feature, location, allowed, ?_⟩
  cases p with
  | location => cases other
  | microphone =>
    have camera := agree .camera (by decide)
    constructor
    · by_contra absent
      exact prompts (by simp [Prompts, absent, camera])
    · intro video
      by_contra refused
      rw [Bool.not_eq_true] at refused
      exact prompts (by simp [Prompts, video, refused, camera.symm.trans refused])
  | camera =>
    have microphone := agree .microphone (by decide)
    constructor
    · by_contra absent
      exact prompts (by simp [Prompts, absent, microphone])
    · intro audio
      by_contra refused
      rw [Bool.not_eq_true] at refused
      exact prompts (by simp [Prompts, audio, refused, microphone.symm.trans refused])

theorem entryAnswer_location (reply : ℕ → Bool) (i : ℕ)
    (feature : f.kApproximateGeolocationPermission = true)
    (allowed : blinkIOSSystemPermissionStatus s .location = true) :
    entryAnswer f s false types reply i .geolocation =
      if Prompts s types then permissionResult true
      else ⟨.granted, some ⟨.kAllowed, .kAllowed⟩⟩ := by
  simp [entryAnswer, needsSystemPrompt, systemPermission, plainResult, feature,
    isAllowlistedPermissionType, allowed]

theorem isAllowlisted_of_agree
    (agree : ∀ q, blinkIOSSystemPermissionStatus s q = blinkIOSSystemPermissionStatus t q)
    (type : PermissionType) :
    isAllowlistedPermissionType f s type = isAllowlistedPermissionType f t type := by
  cases type with
  | geolocation | geolocationApproximate => exact agree .location
  | midiSysex | notifications | protectedMediaIdentifier | persistentStorage | audioCapture =>
    exact agree .microphone
  | videoCapture => exact agree .camera
  | _ => rfl

theorem permissionStatus_injective : Function.Injective permissionStatus := by
  unfold Function.Injective
  decide

theorem getPermissionStatus_shared {type : PermissionType} (shares : sharesMicrophone type = true) :
    getPermissionStatus f s type =
      permissionStatus (blinkIOSSystemPermissionStatus s .microphone) := by
  cases type with
  | midiSysex | notifications | protectedMediaIdentifier | persistentStorage => rfl
  | _ => cases shares

theorem entryAnswer_congr (nested : Bool) (reply : ℕ → Bool) (i : ℕ) {type : PermissionType}
    (allowlisted : isAllowlistedPermissionType f s type = isAllowlistedPermissionType f t type)
    (needs : needsSystemPrompt s type = needsSystemPrompt t type)
    (prompts : nested = false → ¬ (Prompts s types ↔ Prompts t types) →
      plainResult f s type = permissionResult (isAllowlistedPermissionType f s type)) :
    entryAnswer f s nested types reply i type = entryAnswer f t nested types reply i type := by
  have plain : plainResult f s type = plainResult f t type := by
    rw [plainResult, plainResult, allowlisted]
  cases nested with
  | true => rfl
  | false =>
    rw [entryAnswer, entryAnswer, ← needs, ← allowlisted, ← plain]
    by_cases same : Prompts s types ↔ Prompts t types
    · simp only [same]
    · simp only [prompts rfl same, ite_self]

end Cases

section Comparison

variable {p : SystemPermission} {f : Flags} {s t : SystemState} {barrier : Barrier}
  {nested : Bool} {types : List PermissionType} {reply : ℕ → Bool}

theorem microphone_of_noLeak (safe : NoLeak .microphone f s t barrier nested types reply)
    {type : PermissionType} (mem : type ∈ types) (shares : sharesMicrophone type = true) :
    blinkIOSSystemPermissionStatus s .microphone =
      blinkIOSSystemPermissionStatus t .microphone := by
  have other : governed .microphone type = false := by
    cases type with
    | audioCapture => cases shares
    | _ => rfl
  have same := safe.status type mem other
  rw [getPermissionStatus_shared shares, getPermissionStatus_shared shares] at same
  exact permissionStatus_injective same

theorem authorization_of_noLeak (differ : DifferOnlyIn p s t)
    (safe : NoLeak p f s t barrier nested types reply)
    (shows : ShowsInSetting p f s nested types) :
    blinkIOSSystemPermissionStatus s p = blinkIOSSystemPermissionStatus t p := by
  have shows' := shows.congr differ
  obtain ⟨rfl, feature, location, allowed, -⟩ := id shows
  obtain ⟨i, entry⟩ := List.mem_iff_getElem?.mp location
  have other : governed p .geolocation = false := by
    cases p with
    | location => exact shows.2.2.2.2.elim
    | microphone | camera => rfl
  have same := (noLeak_iff.mp safe i _ entry other).1
  rw [entryAnswer_location reply i feature allowed,
    entryAnswer_location reply i feature shows'.2.2.2.1] at same
  have prompts : Prompts s types ↔ Prompts t types := by
    by_cases first : Prompts s types <;> by_cases second : Prompts t types <;>
      simp [first, second, permissionResult] at same ⊢
  rw [shows.prompts_iff, shows'.prompts_iff] at prompts
  exact Bool.eq_iff_iff.mpr (by simpa using not_congr prompts)

theorem noLeak_of_agree (differ : DifferOnlyIn p s t)
    (same : blinkIOSSystemPermissionStatus s p = blinkIOSSystemPermissionStatus t p) :
    NoLeak p f s t barrier nested types reply := by
  have agree (q : SystemPermission) :
      blinkIOSSystemPermissionStatus s q = blinkIOSSystemPermissionStatus t q := by
    by_cases here : q = p
    · exact here ▸ same
    · exact differ.agree here
  refine noLeak_iff.mpr fun i type entry other => ?_
  have allowlisted := isAllowlisted_of_agree (f := f) agree type
  refine ⟨entryAnswer_congr nested reply i allowlisted (needsSystemPrompt_congr differ other)
    fun _ prompts => absurd (by simp [Prompts, agree]) prompts, ?_⟩
  rw [getPermissionStatus, getPermissionStatus, allowlisted]

theorem noLeak_of_apart (differ : DifferOnlyIn p s t)
    (unshared : p = .microphone → ∀ type ∈ types, sharesMicrophone type = false)
    (hidden : ¬ ShowsInSetting p f s nested types) :
    NoLeak p f s t barrier nested types reply := by
  refine noLeak_iff.mpr fun i type entry other => ?_
  have mem := List.mem_of_getElem? entry
  have allowlisted := isAllowlisted_congr (f := f) differ other fun microphone =>
    unshared microphone type mem
  refine ⟨entryAnswer_congr nested reply i allowlisted (needsSystemPrompt_congr differ other)
    fun free prompts => ?_, ?_⟩
  · rw [plainResult_eq_iff]
    rintro ⟨feature, rfl, allowed⟩
    subst free
    exact hidden (showsInSetting_of_prompts differ prompts other feature mem allowed)
  · rw [getPermissionStatus, getPermissionStatus, allowlisted]

/-- Whatever two states differ in one authorization alone, every entry of every list that the
authorization is not about is answered alike, exactly if the list does not leak it. -/
theorem authorization_unleaked_iff (p : SystemPermission) (f : Flags) (s t : SystemState)
    (differ : DifferOnlyIn p s t) (barrier : Barrier) (nested : Bool)
    (types : List PermissionType) (reply : ℕ → Bool) :
    NoLeak p f s t barrier nested types reply ↔ ¬ Leaks p f s t nested types := by
  constructor
  · rintro safe ⟨apart, ⟨rfl, type, mem, shares⟩ | shows⟩
    · exact apart (microphone_of_noLeak safe mem shares)
    · exact apart (authorization_of_noLeak differ safe shows)
  · intro unleaked
    by_cases same : blinkIOSSystemPermissionStatus s p = blinkIOSSystemPermissionStatus t p
    · exact noLeak_of_agree differ same
    · refine noLeak_of_apart differ (fun microphone type mem => ?_) fun shows =>
        unleaked ⟨same, .inr shows⟩
      exact Bool.eq_false_iff.mpr fun shares =>
        unleaked ⟨same, .inl ⟨microphone, type, mem, shares⟩⟩

end Comparison

section Microphone

def microphoneAllowed : SystemState := ⟨.denied, .authorized, .denied⟩

def microphoneDenied : SystemState := ⟨.denied, .denied, .denied⟩

theorem authorization_unleaked_iff_microphone :
    NoLeak .microphone approximateLocation microphoneAllowed microphoneDenied counter false
        [.videoCapture, .audioCapture, .geolocation] (fun _ => false) ↔
      ¬ Leaks .microphone approximateLocation microphoneAllowed microphoneDenied false
        [.videoCapture, .audioCapture, .geolocation] :=
  authorization_unleaked_iff .microphone approximateLocation microphoneAllowed microphoneDenied
    ⟨rfl, rfl⟩ counter false [.videoCapture, .audioCapture, .geolocation] fun _ => false

/-- A page that may notify is told that the microphone is allowed. -/
theorem notifications_leak : ¬ ∀ p f s t, DifferOnlyIn p s t → ∀ nested types reply,
    NoLeak p f s t counter nested types reply := by
  intro safe
  have alike := (safe .microphone approximateLocation microphoneAllowed microphoneDenied
    ⟨rfl, rfl⟩ false [.notifications] fun _ => false).status .notifications (by decide) rfl
  revert alike
  decide

end Microphone

end BlinkerFluid.PermissionLeaks
