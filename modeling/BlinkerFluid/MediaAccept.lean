import BlinkerFluid.AddressBar

/-! The accept list of a file input on its way to the media pickers. Which of photos and videos
a picker offers is read off the MIME types of the list; the types of its file extensions count
only where no MIME type names a medium, and where nothing does, both media are offered. A token
is the list of its characters. -/

namespace BlinkerFluid.MediaAccept
open ByteString AddressBar

inductive MediaKind where
  | image
  | video
deriving DecidableEq

def MediaKind.mimeStart : MediaKind → Bytes
  | .image => "image/".toList
  | .video => "video/".toList

def MediaKind.other : MediaKind → MediaKind
  | .image => .video
  | .video => .image

/-- The uniform types of the system: the type of a file extension, if it is known, and whether a
type conforms to `UTTypeImage` and to `UTTypeMovie`. -/
structure UniformTypes (τ : Type*) where
  typeWithFilenameExtension : Bytes → Option τ
  conformsToType : τ → MediaKind → Bool

structure FileTypeInfo where
  extensions : List (List Bytes)
  acceptTypes : List Bytes
  includeAllFiles : Bool

/-- What `NativeFileDialog` is given of a request. -/
structure MediaRequest (τ : Type*) where
  fileUTTypeLists : List τ
  allowsOtherFileTypes : Bool
  mediaOnly : Bool
  acceptsImages : Bool
  acceptsVideos : Bool

section Files

variable (getExtensionsForMimeType : Bytes → List Bytes)

def acceptedExtensions (acceptType : Bytes) : List Bytes :=
  if acceptType.head? = some '.' then [acceptType.drop 1]
  else if !acceptType.all fun c => decide (c.toNat < 128) then []
  else getExtensionsForMimeType acceptType

def getFileTypesFromAcceptType (acceptTypes : List Bytes) : FileTypeInfo :=
  let validTypeCount :=
    acceptTypes.countP fun acceptType => !(acceptedExtensions getExtensionsForMimeType
      acceptType).isEmpty
  ⟨if validTypeCount = 0 then []
    else [acceptTypes.flatMap (acceptedExtensions getExtensionsForMimeType)], acceptTypes, false⟩

end Files

section Dialog

variable {τ : Type*} [DecidableEq τ] (types : UniformTypes τ)

def addUTType (fileUTTypeLists : List τ) (ext : Bytes) : List τ :=
  match types.typeWithFilenameExtension ext with
  | none => fileUTTypeLists
  | some uttype =>
    if fileUTTypeLists.contains uttype then fileUTTypeLists else fileUTTypeLists ++ [uttype]

def hasMimeStart (kind : MediaKind) (token : Bytes) : Bool :=
  startsWithInsensitive token kind.mimeStart

/-- A token that does not speak against a media picker. -/
def keepsMediaOnly (token : Bytes) : Bool :=
  hasMimeStart .image token || hasMimeStart .video token ||
    (!token.isEmpty && token.head? = some '.')

def isMedia (uttype : τ) : Bool :=
  types.conformsToType uttype .image || types.conformsToType uttype .video

/-- A turn of the loop over the accept types, with the flags for images and videos. -/
def addMimeType (accepts : Bool × Bool) (token : Bytes) : Bool × Bool :=
  if hasMimeStart .image token then (true, accepts.2)
  else if hasMimeStart .video token then (accepts.1, true)
  else accepts

def addConformance (accepts : Bool × Bool) (uttype : τ) : Bool × Bool :=
  (accepts.1 || types.conformsToType uttype .image, accepts.2 || types.conformsToType uttype .video)

/-- The part of `SelectFileImpl` that works out what a dialog is asked for. -/
def selectFileImpl (fileTypes : FileTypeInfo) : MediaRequest τ :=
  let fileUTTypeLists := fileTypes.extensions.flatten.foldl (addUTType types) []
  let mediaOnly := !fileTypes.acceptTypes.isEmpty && fileTypes.acceptTypes.all keepsMediaOnly &&
    !fileUTTypeLists.isEmpty && fileUTTypeLists.all (isMedia types)
  let accepts := fileTypes.acceptTypes.foldl addMimeType (false, false)
  let accepts :=
    if mediaOnly && !accepts.1 && !accepts.2 then
      fileUTTypeLists.foldl (addConformance types) accepts
    else accepts
  ⟨fileUTTypeLists, fileTypes.includeAllFiles || fileTypes.extensions.isEmpty, mediaOnly,
    accepts.1, accepts.2⟩

/-- The initializer of `NativeFileDialog`. -/
def initWithDialog (request : MediaRequest τ) : MediaRequest τ :=
  { request with
    acceptsImages := request.acceptsImages || (!request.acceptsImages && !request.acceptsVideos)
    acceptsVideos := request.acceptsVideos || (!request.acceptsImages && !request.acceptsVideos) }

def MediaRequest.accepts (request : MediaRequest τ) : MediaKind → Bool
  | .image => request.acceptsImages
  | .video => request.acceptsVideos

def dialogFor (getExtensionsForMimeType : Bytes → List Bytes) (acceptTypes : List Bytes) :
    MediaRequest τ :=
  initWithDialog (selectFileImpl types
    (getFileTypesFromAcceptType getExtensionsForMimeType acceptTypes))

end Dialog

section Tokens

variable {τ : Type*} (types : UniformTypes τ)

/-- A file extension whose type is of a medium. -/
def ExtensionOf (kind : MediaKind) (token : Bytes) : Prop :=
  token.head? = some '.' ∧ ∃ uttype, types.typeWithFilenameExtension (token.drop 1) = some uttype ∧
    types.conformsToType uttype kind = true

def Admits (kind : MediaKind) (token : Bytes) : Prop :=
  hasMimeStart kind token = true ∨ ExtensionOf types kind token

/-- A page is offered every medium its accept list admits, and both if it admits none. -/
structure Honoured [DecidableEq τ] (getExtensionsForMimeType : Bytes → List Bytes)
    (acceptTypes : List Bytes) : Prop where
  offered : ∀ kind, (∃ token ∈ acceptTypes, Admits types kind token) →
    (dialogFor types getExtensionsForMimeType acceptTypes).accepts kind = true
  unconstrained : (∀ token ∈ acceptTypes, ∀ kind, ¬Admits types kind token) →
    ∀ kind, (dialogFor types getExtensionsForMimeType acceptTypes).accepts kind = true

/-- A medium that the list admits by extensions only, next to a MIME type of the other one. -/
structure OnlyByExtension (acceptTypes : List Bytes) (kind : MediaKind) : Prop where
  otherNamed : ∃ token ∈ acceptTypes, hasMimeStart kind.other token = true
  unnamed : ∀ token ∈ acceptTypes, hasMimeStart kind token = false
  extension : ∃ token ∈ acceptTypes, ExtensionOf types kind token

end Tokens

section Flags

variable {τ : Type*} (types : UniformTypes τ)

theorem eq_or_eq_other (kind kind' : MediaKind) : kind' = kind ∨ kind' = kind.other := by
  cases kind <;> cases kind' <;> decide

theorem mimeStart_length (kind : MediaKind) : kind.mimeStart.length = 6 := by cases kind <;> rfl

theorem mimeStart_other (kind : MediaKind) : kind.mimeStart ≠ kind.other.mimeStart := by
  cases kind <;> decide

theorem hasMimeStart_iff (kind : MediaKind) (token : Bytes) :
    hasMimeStart kind token = true ↔ toLowerASCII (token.take 6) = kind.mimeStart := by
  rw [hasMimeStart, startsWithInsensitive, mimeStart_length, decide_eq_true_iff]

theorem hasMimeStart_other {kind : MediaKind} {token : Bytes}
    (starts : hasMimeStart kind token = true) : hasMimeStart kind.other token = false := by
  by_contra both
  rw [Bool.not_eq_false, hasMimeStart_iff] at both
  rw [hasMimeStart_iff] at starts
  exact mimeStart_other kind (starts.symm.trans both)

theorem foldl_addMimeType (tokens : List Bytes) (accepts : Bool × Bool) :
    tokens.foldl addMimeType accepts =
      (accepts.1 || tokens.any (hasMimeStart .image),
        accepts.2 || tokens.any (hasMimeStart .video)) := by
  induction tokens generalizing accepts with
  | nil => simp
  | cons token tokens ih =>
    rw [List.foldl_cons, ih, List.any_cons, List.any_cons]
    by_cases image : hasMimeStart .image token = true
    · have notVideo : hasMimeStart .video token = false := hasMimeStart_other image
      simp [addMimeType, image, notVideo]
    · by_cases video : hasMimeStart .video token = true <;> simp [addMimeType, image, video]

theorem foldl_addConformance (uttypes : List τ) (accepts : Bool × Bool) :
    uttypes.foldl (addConformance types) accepts =
      (accepts.1 || uttypes.any (types.conformsToType · .image),
        accepts.2 || uttypes.any (types.conformsToType · .video)) := by
  induction uttypes generalizing accepts with
  | nil => simp
  | cons uttype uttypes ih => simp [ih, addConformance, Bool.or_assoc]

theorem initWithDialog_accepts (request : MediaRequest τ) (kind : MediaKind) :
    (initWithDialog request).accepts kind =
      (request.accepts kind || !request.accepts kind.other) := by
  cases kind <;> cases images : request.acceptsImages <;> cases videos : request.acceptsVideos <;>
    simp [initWithDialog, MediaRequest.accepts, MediaKind.other, images, videos]

variable [DecidableEq τ]

theorem mem_foldl_addUTType (exts : List Bytes) (found : List τ) (uttype : τ) :
    uttype ∈ exts.foldl (addUTType types) found ↔
      uttype ∈ found ∨ ∃ ext ∈ exts, types.typeWithFilenameExtension ext = some uttype := by
  induction exts generalizing found with
  | nil => simp
  | cons ext exts ih =>
    rw [List.foldl_cons, ih]
    have added : uttype ∈ addUTType types found ext ↔
        uttype ∈ found ∨ types.typeWithFilenameExtension ext = some uttype := by
      unfold addUTType
      cases types.typeWithFilenameExtension ext with
      | none => simp
      | some type =>
        by_cases known : type ∈ found
        · simp only [List.contains_iff_mem, known, if_true, Option.some.injEq, iff_self_or]
          rintro rfl
          exact known
        · simp [known, eq_comm]
    rw [added, List.exists_mem_cons_iff, or_assoc]

variable (getExtensionsForMimeType : Bytes → List Bytes)

theorem mem_extensions (acceptTypes : List Bytes) (ext : Bytes) :
    ext ∈ (getFileTypesFromAcceptType getExtensionsForMimeType acceptTypes).extensions.flatten ↔
      ∃ token ∈ acceptTypes, ext ∈ acceptedExtensions getExtensionsForMimeType token := by
  simp only [getFileTypesFromAcceptType]
  split_ifs with none
  · rw [List.countP_eq_zero] at none
    simp only [List.flatten_nil, List.not_mem_nil, false_iff, not_exists, not_and]
    intro token listed mem
    have silent : acceptedExtensions getExtensionsForMimeType token = [] := by
      simpa using none token listed
    rw [silent] at mem
    exact List.not_mem_nil mem
  · simp [List.mem_flatMap]

theorem selectFileImpl_accepts (fileTypes : FileTypeInfo) (kind : MediaKind) :
    (selectFileImpl types fileTypes).accepts kind =
      (fileTypes.acceptTypes.any (hasMimeStart kind) ||
        ((selectFileImpl types fileTypes).mediaOnly &&
          !fileTypes.acceptTypes.any (hasMimeStart .image) &&
          !fileTypes.acceptTypes.any (hasMimeStart .video) &&
          (selectFileImpl types fileTypes).fileUTTypeLists.any (types.conformsToType · kind))) := by
  simp only [selectFileImpl, foldl_addMimeType, foldl_addConformance, Bool.false_or]
  cases kind <;>
  · simp only [MediaRequest.accepts]
    split_ifs with asked
    · simp only [asked, Bool.true_and]
    · rw [Bool.not_eq_true] at asked
      simp only [asked, Bool.false_and, Bool.or_false]

end Flags

section Offers

variable {τ : Type*} [DecidableEq τ] (types : UniformTypes τ)
  (getExtensionsForMimeType : Bytes → List Bytes) {acceptTypes : List Bytes} {kind : MediaKind}

def requestFor (acceptTypes : List Bytes) : MediaRequest τ :=
  selectFileImpl types (getFileTypesFromAcceptType getExtensionsForMimeType acceptTypes)

theorem dialogFor_accepts (acceptTypes : List Bytes) (kind : MediaKind) :
    (dialogFor types getExtensionsForMimeType acceptTypes).accepts kind =
      ((requestFor types getExtensionsForMimeType acceptTypes).accepts kind ||
        !(requestFor types getExtensionsForMimeType acceptTypes).accepts kind.other) :=
  initWithDialog_accepts _ kind

theorem named_iff :
    acceptTypes.any (hasMimeStart kind) = true ↔
      ∃ token ∈ acceptTypes, hasMimeStart kind token = true := List.any_eq_true

theorem unnamed_iff :
    acceptTypes.any (hasMimeStart kind) = false ↔
      ∀ token ∈ acceptTypes, hasMimeStart kind token = false := by
  simp [List.any_eq_false]

theorem requestFor_named (named : acceptTypes.any (hasMimeStart kind) = true) :
    (requestFor types getExtensionsForMimeType acceptTypes).accepts kind = true := by
  rw [requestFor, selectFileImpl_accepts]
  simp only [getFileTypesFromAcceptType, named, Bool.true_or]

theorem requestFor_otherNamed (unnamed : acceptTypes.any (hasMimeStart kind) = false)
    (named : acceptTypes.any (hasMimeStart kind.other) = true) :
    (requestFor types getExtensionsForMimeType acceptTypes).accepts kind = false := by
  rw [requestFor, selectFileImpl_accepts]
  cases kind <;>
  · rw [MediaKind.other] at named
    simp only [getFileTypesFromAcceptType, unnamed, named, Bool.not_true, Bool.and_false,
      Bool.false_and, Bool.or_false]

theorem requestFor_unnamed (unnamed : ∀ kind, acceptTypes.any (hasMimeStart kind) = false) :
    (requestFor types getExtensionsForMimeType acceptTypes).accepts kind =
      ((requestFor types getExtensionsForMimeType acceptTypes).mediaOnly &&
        (requestFor types getExtensionsForMimeType acceptTypes).fileUTTypeLists.any
          (types.conformsToType · kind)) := by
  rw [requestFor, selectFileImpl_accepts]
  simp only [getFileTypesFromAcceptType, unnamed, Bool.not_false, Bool.and_true, Bool.false_or]

theorem resolved_of_extensionOf {token : Bytes} (listed : token ∈ acceptTypes)
    (extension : ExtensionOf types kind token) :
    (requestFor types getExtensionsForMimeType acceptTypes).fileUTTypeLists.any
      (types.conformsToType · kind) = true := by
  obtain ⟨dot, uttype, known, conforms⟩ := extension
  refine List.any_eq_true.mpr ⟨uttype, ?_, conforms⟩
  refine (mem_foldl_addUTType types _ [] uttype).mpr (.inr ⟨token.drop 1, ?_, known⟩)
  refine (mem_extensions getExtensionsForMimeType acceptTypes _).mpr ⟨token, listed, ?_⟩
  rw [acceptedExtensions, if_pos dot]
  exact List.mem_singleton_self _

/-- A list of media only that names none admits one by an extension. -/
theorem admits_of_mediaOnly (unnamed : ∀ kind, acceptTypes.any (hasMimeStart kind) = false)
    (mediaOnly : (requestFor types getExtensionsForMimeType acceptTypes).mediaOnly = true) :
    ∃ token ∈ acceptTypes, ∃ kind, Admits types kind token := by
  simp only [requestFor, selectFileImpl, Bool.and_eq_true, List.all_eq_true] at mediaOnly
  obtain ⟨⟨⟨-, dots⟩, resolved⟩, media⟩ := mediaOnly
  obtain ⟨uttype, mem⟩ := List.exists_mem_of_ne_nil _ (by simpa using resolved)
  obtain silent | ⟨ext, mem', known⟩ := (mem_foldl_addUTType types _ [] uttype).mp mem
  · exact absurd silent List.not_mem_nil
  obtain ⟨token, listed, adds⟩ := (mem_extensions getExtensionsForMimeType acceptTypes ext).mp mem'
  have dot : token.head? = some '.' := by
    have keeps := dots token listed
    simp only [keepsMediaOnly, unnamed_iff.mp (unnamed .image) token listed,
      unnamed_iff.mp (unnamed .video) token listed, Bool.false_or, Bool.and_eq_true,
      decide_eq_true_eq] at keeps
    exact keeps.2
  rw [acceptedExtensions, if_pos dot, List.mem_singleton] at adds
  subst adds
  have conforms := media uttype mem
  rw [isMedia, Bool.or_eq_true] at conforms
  rcases conforms with image | video
  · exact ⟨token, listed, .image, .inr ⟨dot, uttype, known, image⟩⟩
  · exact ⟨token, listed, .video, .inr ⟨dot, uttype, known, video⟩⟩

theorem dialogFor_unnamed (unnamed : ∀ kind, acceptTypes.any (hasMimeStart kind) = false)
    (admitted : (requestFor types getExtensionsForMimeType acceptTypes).mediaOnly = true →
      (requestFor types getExtensionsForMimeType acceptTypes).fileUTTypeLists.any
        (types.conformsToType · kind) = true) :
    (dialogFor types getExtensionsForMimeType acceptTypes).accepts kind = true := by
  rw [dialogFor_accepts, requestFor_unnamed types getExtensionsForMimeType unnamed,
    requestFor_unnamed types getExtensionsForMimeType unnamed]
  cases mediaOnly : (requestFor types getExtensionsForMimeType acceptTypes).mediaOnly with
  | false => rfl
  | true => rw [admitted mediaOnly, Bool.and_self, Bool.true_or]

end Offers

/-- An accept list is honoured exactly if it admits no medium by extensions only while a MIME
type of it names the other medium. -/
theorem dialogFor_honoured_iff {τ : Type*} [DecidableEq τ] (types : UniformTypes τ)
    (getExtensionsForMimeType : Bytes → List Bytes) (acceptTypes : List Bytes) :
    Honoured types getExtensionsForMimeType acceptTypes ↔
      ∀ kind, ¬OnlyByExtension types acceptTypes kind := by
  constructor
  · rintro honoured kind ⟨named, unnamed, token, listed, extension⟩
    have offered := honoured.offered kind ⟨token, listed, .inr extension⟩
    have named := named_iff.mpr named
    have unnamed := unnamed_iff.mpr unnamed
    rw [dialogFor_accepts, requestFor_named types getExtensionsForMimeType named,
      requestFor_otherNamed types getExtensionsForMimeType unnamed named] at offered
    cases offered
  · intro none
    refine ⟨?_, ?_⟩
    · rintro kind ⟨token, listed, admits⟩
      cases named : acceptTypes.any (hasMimeStart kind) with
      | true =>
        rw [dialogFor_accepts, requestFor_named types getExtensionsForMimeType named, Bool.true_or]
      | false =>
        have extension : ExtensionOf types kind token := by
          refine admits.resolve_left fun mime => ?_
          rw [unnamed_iff.mp named token listed] at mime
          cases mime
        have otherUnnamed : acceptTypes.any (hasMimeStart kind.other) = false := by
          refine Bool.eq_false_iff.mpr fun otherNamed => none kind ?_
          exact ⟨named_iff.mp otherNamed, unnamed_iff.mp named, token, listed, extension⟩
        refine dialogFor_unnamed types getExtensionsForMimeType ?_ fun _ =>
          resolved_of_extensionOf types getExtensionsForMimeType listed extension
        intro kind'
        rcases eq_or_eq_other kind kind' with rfl | rfl
        · exact named
        · exact otherUnnamed
    · intro silent kind
      have unnamed (kind : MediaKind) : acceptTypes.any (hasMimeStart kind) = false := by
        refine unnamed_iff.mpr fun token listed => ?_
        exact Bool.eq_false_iff.mpr fun mime => silent token listed kind (.inl mime)
      refine dialogFor_unnamed types getExtensionsForMimeType unnamed fun mediaOnly => ?_
      obtain ⟨token, listed, kind', admits⟩ :=
        admits_of_mediaOnly types getExtensionsForMimeType unnamed mediaOnly
      exact absurd admits (silent token listed kind')

def exampleTypes : UniformTypes ℕ where
  typeWithFilenameExtension ext :=
    if ext = "png".toList then some 0 else if ext = "mp4".toList then some 1 else none
  conformsToType uttype kind :=
    match kind with
    | .image => uttype = 0
    | .video => uttype = 1

/-- The list `image/*,.mp4` admits videos, and none are offered. -/
theorem mixedList_hidden :
    ¬∀ (types : UniformTypes ℕ) getExtensionsForMimeType acceptTypes,
      Honoured types getExtensionsForMimeType acceptTypes := by
  intro always
  have offered := (always exampleTypes (fun _ => ["png".toList])
    ["image/*".toList, ".mp4".toList]).offered .video
    ⟨".mp4".toList, by decide, .inr ⟨by decide, 1, by decide, by decide⟩⟩
  revert offered
  decide

end BlinkerFluid.MediaAccept
