import BlinkerFluid.PageUnits

/-! Messages between two processes as Mach messages. The data travel in the message or out of
line, the handles travel as port descriptors, and the receiver checks what it takes apart. -/

namespace BlinkerFluid.MachFrame
open PageUnits

inductive HandleType
  | kNone
  | kFd
  | kMachSend
  | kMachReceive
deriving DecidableEq

structure PlatformHandle where
  type : HandleType
  name : ℕ
deriving DecidableEq

structure Message where
  data : List UInt8
  handles : List PlatformHandle
deriving DecidableEq

inductive Disposition
  | moveSend
  | moveReceive
  | other
deriving DecidableEq

inductive Descriptor
  | port (name : ℕ) (disposition : Disposition)
  | outOfLine (data : List UInt8)
  | other
deriving DecidableEq

inductive MessageId
  | kChannelMacInlineMsgId
  | kChannelMacOOLMsgId
  | other
deriving DecidableEq

/-- The inline data are what is read behind the descriptors. -/
structure Frame where
  id : MessageId
  size : ℕ
  complex : Bool
  descriptorCount : ℕ
  descriptors : List Descriptor
  inlineData : List UInt8
deriving DecidableEq

/-- The types of the handles, as the data of a message list them. -/
structure MachPortsExtraHeader where
  numPorts : ℕ
  entries : List HandleType
deriving DecidableEq

def roundMsg (size : ℕ) : ℕ := roundUp 4 size

/-- The parts of a Mach message in memory. The data of a message tell whether handles come with
it, and then list them. -/
structure Layout where
  header : ℕ
  body : ℕ
  portDescriptor : ℕ
  outOfLineDescriptor : ℕ
  trailer : ℕ
  bufferSize : ℕ
  maxAttachedHandles : ℕ
  extraHeader : List UInt8 → Option (Option MachPortsExtraHeader)
  trailer_dvd : 4 ∣ trailer
  attached : roundMsg (header + body + maxAttachedHandles * portDescriptor + outOfLineDescriptor) +
    trailer ≤ bufferSize

variable (l : Layout)

/-! The sender. -/

def portDescriptor (handle : PlatformHandle) : Descriptor :=
  .port handle.name (if handle.type = .kMachReceive then .moveReceive else .moveSend)

def machHeaderSize (m : Message) : ℕ :=
  l.header + l.body + m.handles.length * l.portDescriptor

def transferMessageOOL (m : Message) : Prop :=
  l.bufferSize ≤ roundMsg (machHeaderSize l m + 8 + m.data.length + l.trailer)

instance (m : Message) : Decidable (transferMessageOOL l m) := by
  unfold transferMessageOOL
  infer_instance

def serialize (m : Message) : Frame :=
  if transferMessageOOL l m then
    { id := .kChannelMacOOLMsgId
      size := roundMsg (machHeaderSize l m + l.outOfLineDescriptor)
      complex := true
      descriptorCount := m.handles.length + 1
      descriptors := m.handles.map portDescriptor ++ [.outOfLine m.data]
      inlineData := [] }
  else
    { id := .kChannelMacInlineMsgId
      size := roundMsg (machHeaderSize l m + 8 + m.data.length)
      complex := m.handles ≠ []
      descriptorCount := m.handles.length
      descriptors := m.handles.map portDescriptor
      inlineData := m.data }

/-! The receiver. -/

def acceptDescriptor : Descriptor → Option PlatformHandle
  | .port name .moveSend => some ⟨.kMachSend, name⟩
  | .port name .moveReceive => some ⟨.kMachReceive, name⟩
  | _ => none

/-- There is no span where there are not enough descriptors. -/
def descriptorSpan (f : Frame) (count : ℕ) : List Descriptor :=
  if f.descriptors.length < count then [] else f.descriptors.take count

def withData (data : List UInt8) (handles : List PlatformHandle) :
    Option (List UInt8 × List PlatformHandle) :=
  if data = [] then none else some (data, handles)

def readOutOfLine (f : Frame) : Option (List UInt8 × List PlatformHandle) :=
  if f.descriptorCount < 1 then none
  else
    match (descriptorSpan f (f.descriptorCount - 1)).mapM acceptDescriptor with
    | none => none
    | some handles =>
      match f.descriptors[f.descriptorCount - 1]? with
      | some (.outOfLine data) => withData data handles
      | _ => none

def readInline (f : Frame) : Option (List UInt8 × List PlatformHandle) :=
  match (descriptorSpan f f.descriptorCount).mapM acceptDescriptor with
  | none => none
  | some handles => withData f.inlineData handles

def readFrame (f : Frame) : Option (List UInt8 × List PlatformHandle) :=
  if f.complex ≠ decide (0 < f.descriptorCount) then none
  else
    match f.id with
    | .kChannelMacOOLMsgId => readOutOfLine f
    | .kChannelMacInlineMsgId => readInline f
    | .other => none

def readHandle (opens : Bool) (type : HandleType) (handle : PlatformHandle) :
    Option PlatformHandle :=
  if type = .kNone then none
  else if type = .kFd ∧ handle.type = .kMachSend then
    if opens then some ⟨.kFd, handle.name⟩ else none
  else if type ≠ handle.type then none
  else some handle

def getReadPlatformHandles (opens : Bool) (extraHeader : MachPortsExtraHeader)
    (incomingHandles : List PlatformHandle) : Option (List PlatformHandle) :=
  if extraHeader.entries.length < incomingHandles.length then none
  else if extraHeader.numPorts ≠ incomingHandles.length then none
  else
    ((extraHeader.entries.take extraHeader.numPorts).zip incomingHandles).mapM
      fun pair => readHandle opens pair.1 pair.2

def tryDispatchMessage (opens : Bool) (data : List UInt8) (incomingHandles : List PlatformHandle) :
    Option Message :=
  match l.extraHeader data with
  | none => none
  | some none => some ⟨data, []⟩
  | some (some extraHeader) =>
    (getReadPlatformHandles opens extraHeader incomingHandles).map fun handles => ⟨data, handles⟩

/-! What is sent is received. -/

structure WellFormed (m : Message) : Prop where
  data : m.data ≠ []
  handles : ∀ handle ∈ m.handles, handle.type ≠ .kNone
  count : m.handles.length ≤ l.maxAttachedHandles
  listed : l.extraHeader m.data = some none ∧ m.handles = [] ∨
    ∃ entries, l.extraHeader m.data = some (some ⟨m.handles.length, entries⟩) ∧
      m.handles.map PlatformHandle.type <+: entries

variable {l}

def inTransit (handle : PlatformHandle) : PlatformHandle :=
  ⟨if handle.type = .kMachReceive then .kMachReceive else .kMachSend, handle.name⟩

theorem acceptDescriptor_portDescriptor (handle : PlatformHandle) :
    acceptDescriptor (portDescriptor handle) = some (inTransit handle) := by
  unfold portDescriptor inTransit
  split_ifs <;> rfl

theorem mapM_acceptDescriptor (handles : List PlatformHandle) :
    (handles.map portDescriptor).mapM acceptDescriptor = some (handles.map inTransit) := by
  induction handles with
  | nil => rfl
  | cons handle handles ih =>
    rw [List.map_cons, List.mapM_cons, ih, acceptDescriptor_portDescriptor]
    rfl

theorem descriptorSpan_front {f : Frame} {front rest : List Descriptor}
    (descriptors : f.descriptors = front ++ rest) : descriptorSpan f front.length = front := by
  rw [descriptorSpan, descriptors, List.length_append,
    if_neg (not_lt.mpr (Nat.le_add_right _ _)), List.take_left]

theorem mapM_descriptorSpan {f : Frame} {handles : List PlatformHandle} {rest : List Descriptor}
    (descriptors : f.descriptors = handles.map portDescriptor ++ rest) :
    (descriptorSpan f handles.length).mapM acceptDescriptor = some (handles.map inTransit) := by
  have span := descriptorSpan_front descriptors
  rw [List.length_map] at span
  rw [span, mapM_acceptDescriptor]

theorem readOutOfLine_eq {f : Frame} {handles : List PlatformHandle} {data : List UInt8}
    (count : f.descriptorCount = handles.length + 1)
    (descriptors : f.descriptors = handles.map portDescriptor ++ [.outOfLine data])
    (some : data ≠ []) : readOutOfLine f = .some (data, handles.map inTransit) := by
  have last : f.descriptors[handles.length]? = .some (.outOfLine data) := by
    rw [descriptors, List.getElem?_append_right (List.length_map _).le, List.length_map,
      Nat.sub_self]
    rfl
  rw [readOutOfLine, count, if_neg (by omega), Nat.add_sub_cancel, mapM_descriptorSpan descriptors,
    last]
  exact if_neg some

theorem readInline_eq {f : Frame} {handles : List PlatformHandle}
    (count : f.descriptorCount = handles.length)
    (descriptors : f.descriptors = handles.map portDescriptor) (some : f.inlineData ≠ []) :
    readInline f = .some (f.inlineData, handles.map inTransit) := by
  rw [readInline, count, mapM_descriptorSpan (descriptors.trans (List.append_nil _).symm)]
  exact if_neg some

theorem readFrame_serialize {m : Message} (data : m.data ≠ []) :
    readFrame (serialize l m) = some (m.data, m.handles.map inTransit) := by
  unfold serialize
  split_ifs with large
  · rw [readFrame, if_neg (by simp)]
    exact readOutOfLine_eq rfl rfl data
  · have complex : decide (m.handles ≠ []) = decide (0 < m.handles.length) :=
      decide_eq_decide.mpr List.length_pos_iff.symm
    rw [readFrame, if_neg (not_not.mpr complex)]
    exact readInline_eq rfl rfl data

theorem readHandle_inTransit {handle : PlatformHandle} (some : handle.type ≠ .kNone) :
    readHandle true handle.type (inTransit handle) = .some handle := by
  obtain ⟨type, name⟩ := handle
  cases type with
  | kNone => exact absurd rfl some
  | kFd => rfl
  | kMachSend => rfl
  | kMachReceive => rfl

theorem mapM_readHandle {handles : List PlatformHandle}
    (some : ∀ handle ∈ handles, handle.type ≠ .kNone) :
    ((handles.map PlatformHandle.type).zip (handles.map inTransit)).mapM
      (fun pair => readHandle true pair.1 pair.2) = .some handles := by
  induction handles with
  | nil => rfl
  | cons handle handles ih =>
    rw [List.map_cons, List.map_cons, List.zip_cons_cons, List.mapM_cons,
      ih fun other mem => some other (List.mem_cons_of_mem _ mem),
      readHandle_inTransit (some handle List.mem_cons_self)]
    rfl

theorem tryDispatchMessage_inTransit {m : Message} (wellFormed : WellFormed l m) :
    tryDispatchMessage l true m.data (m.handles.map inTransit) = some m := by
  obtain ⟨data, handles⟩ := m
  obtain ⟨listed, without⟩ | ⟨entries, listed, rest, rfl⟩ := wellFormed.listed
  · simp only at listed without
    rw [tryDispatchMessage, listed, without]
  have taken : (handles.map PlatformHandle.type ++ rest).take handles.length =
      handles.map PlatformHandle.type := List.take_left' (List.length_map _)
  have enough : ¬(handles.map PlatformHandle.type ++ rest).length <
      (handles.map inTransit).length := by
    simp
  simp only at listed
  rw [tryDispatchMessage, listed]
  simp only
  rw [getReadPlatformHandles, if_neg enough, if_neg (by simp), taken,
    mapM_readHandle wellFormed.handles]
  rfl

theorem readHandle_opens {opens : Bool} {type : HandleType} {handle read : PlatformHandle}
    (done : readHandle opens type handle = some read) :
    readHandle true type handle = some read := by
  cases opens with
  | true => exact done
  | false =>
    unfold readHandle at done ⊢
    simp only [Bool.false_eq_true, if_false] at done
    split_ifs at done
    rwa [if_neg ‹_›, if_neg ‹_›, if_neg ‹_›]

theorem mapM_readHandle_opens {opens : Bool} {pairs : List (HandleType × PlatformHandle)}
    {handles : List PlatformHandle}
    (done : pairs.mapM (fun pair => readHandle opens pair.1 pair.2) = some handles) :
    pairs.mapM (fun pair => readHandle true pair.1 pair.2) = some handles := by
  induction pairs generalizing handles with
  | nil => exact done
  | cons pair pairs ih =>
    rw [List.mapM_cons] at done ⊢
    obtain ⟨first, read, done⟩ := Option.bind_eq_some_iff.mp done
    obtain ⟨rest, reads, whole⟩ := Option.bind_eq_some_iff.mp done
    rw [readHandle_opens read, ih reads]
    exact whole

theorem tryDispatchMessage_opens {opens : Bool} {data : List UInt8} {handles : List PlatformHandle}
    {m : Message} (done : tryDispatchMessage l opens data handles = some m) :
    tryDispatchMessage l true data handles = some m := by
  unfold tryDispatchMessage at done ⊢
  cases header : l.extraHeader data with
  | none =>
    rw [header] at done
    cases done
  | some listed =>
    rw [header] at done
    cases listed with
    | none => exact done
    | some extraHeader =>
      simp only [getReadPlatformHandles] at done ⊢
      obtain ⟨read, checked, rfl⟩ := Option.map_eq_some_iff.mp done
      split_ifs at checked ⊢
      rw [mapM_readHandle_opens checked]
      rfl

/-- Every frame fits the buffer of the receiver together with its trailer. -/
theorem serialize_fits {m : Message} (wellFormed : WellFormed l m) :
    l.header + l.body ≤ (serialize l m).size ∧ (serialize l m).size + l.trailer ≤ l.bufferSize := by
  have least : ∀ n, n ≤ roundMsg n := le_roundUp (by decide)
  unfold serialize
  split_ifs with large
  · have few : machHeaderSize l m ≤
        l.header + l.body + l.maxAttachedHandles * l.portDescriptor :=
      Nat.add_le_add_left (Nat.mul_le_mul_right _ wellFormed.count) _
    have mono : roundMsg (machHeaderSize l m + l.outOfLineDescriptor) ≤
        roundMsg (l.header + l.body + l.maxAttachedHandles * l.portDescriptor +
          l.outOfLineDescriptor) :=
      (roundUp_le_iff (by decide) (dvd_roundUp 4 _)).mpr
        ((Nat.add_le_add_right few _).trans (least _))
    have attached := l.attached
    refine ⟨?_, by simp only; omega⟩
    refine le_trans ?_ (least _)
    rw [machHeaderSize]
    omega
  · rw [transferMessageOOL, not_le] at large
    have whole : roundMsg (machHeaderSize l m + 8 + m.data.length) + l.trailer ≤
        roundMsg (machHeaderSize l m + 8 + m.data.length + l.trailer) := by
      obtain ⟨words, size⟩ := l.trailer_dvd
      have := least (machHeaderSize l m + 8 + m.data.length + l.trailer)
      unfold roundMsg roundUp at this ⊢
      omega
    refine ⟨?_, by simp only; omega⟩
    refine le_trans ?_ (least _)
    rw [machHeaderSize]
    omega

end BlinkerFluid.MachFrame
