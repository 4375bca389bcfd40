import BlinkerFluid.ProxyChoice
import BlinkerFluid.StepRun
import Mathlib.Logic.Function.Basic

/-! The cached avatars of the Google accounts, for normal and for private sessions: a primary and a
secondary image, each beside the URL it comes from. What is observed of the stored URLs when a tab
reports an avatar is applied when its image has been fetched. `NSURL` and the decoding of images
are parameters. -/

namespace BlinkerFluid.AvatarCache
open ByteString ProxyChoice StepRun

abbrev Data := List UInt8

def blinkGoogleAvatarIdentity (value : Text) : Text :=
  if '=' ∈ value then (value.rdropWhile (· ≠ '=')).dropLast else value

/-- `isEqualToString:` on the identities of two URLs, either of which may be missing. -/
def sameIdentity : Option Text → Option Text → Bool
  | some a, some b => blinkGoogleAvatarIdentity a = blinkGoogleAvatarIdentity b
  | _, _ => false

/-- A stored image. The code does not have the URL it was fetched from. -/
structure Image where
  source : Text
  data : Data
deriving DecidableEq

structure Slot where
  image : Option Image
  url : Option Text
deriving DecidableEq

/-- What is stored for the normal or for the private sessions. The code does not count the
sign-outs. -/
structure Session where
  primary : Slot
  secondary : Slot
  signOuts : ℕ

/-- What the completion handler of a fetch has captured, and the sign-outs before. -/
structure Fetch where
  privateSession : Bool
  storeSecondary : Bool
  avatarURL : Text
  primaryURL : Option Text
  signOuts : ℕ

structure Response where
  error : Bool
  statusCode : Option ℕ
  data : Data

/-- A block of the main thread that stores an image. -/
structure Block where
  fetch : Fetch
  data : Data

structure State where
  sessions : Bool → Session
  fetches : List Fetch
  mainQueue : List Block
  /-- An image was stored that was observed before a sign-out. The code does not have it. -/
  wroteLate : Bool

structure Page where
  privateSession : Bool
  host : Text
  path : Text

inductive Event where
  | observe (page : Page) (avatarURL : Text)
  | complete (fetch : ℕ) (response : Response)
  | runBlock
  | signOut (privateSession : Bool)
  | showSecondary (privateSession : Bool)

def isChooser (page : Page) : Bool :=
  page.host = "accounts.google.com".toList && contains "AccountChooser".toList page.path

def observe (urlWithString : Text → Bool) (page : Page) (avatarURL : Text) (s : State) : State :=
  if avatarURL.isEmpty then s
  else
    let session := s.sessions page.privateSession
    let primaryURL := session.primary.url
    let secondaryURL := session.secondary.url
    let storeSecondary := isChooser page &&
      (primaryURL.map blinkGoogleAvatarIdentity).any (!·.isEmpty) &&
      !sameIdentity primaryURL (some avatarURL)
    if (storeSecondary && sameIdentity secondaryURL (some avatarURL)) ||
        (!storeSecondary && sameIdentity primaryURL (some avatarURL)) then s
    else if !urlWithString avatarURL then s
    else
      { s with
        fetches := s.fetches ++
          [⟨page.privateSession, storeSecondary, avatarURL, primaryURL, session.signOuts⟩] }

def isAvatar (imageWithData : Data → Option (ℕ × ℕ)) (response : Response) : Bool :=
  let statusCode := response.statusCode.getD 0
  if response.error || statusCode < 200 || 300 ≤ statusCode || response.data.length = 0 ||
      2 * 1024 * 1024 < response.data.length then false
  else (imageWithData response.data).any fun size => !(size.1 < 24 || size.2 < 24)

def complete (imageWithData : Data → Option (ℕ × ℕ)) (fetch : ℕ) (response : Response)
    (s : State) : State :=
  match s.fetches[fetch]? with
  | none => s
  | some done =>
    let s := { s with fetches := s.fetches.eraseIdx fetch }
    if isAvatar imageWithData response then
      { s with mainQueue := s.mainQueue ++ [⟨done, response.data⟩] }
    else s

def Fetch.replaces (fetch : Fetch) : Bool :=
  fetch.primaryURL.any fun url => !url.isEmpty && url ≠ fetch.avatarURL

def storePrivate (fetch : Fetch) (image : Image) (session : Session) : Session :=
  if fetch.storeSecondary then { session with secondary := ⟨some image, some fetch.avatarURL⟩ }
  else
    let session :=
      if session.primary.image.isSome && fetch.replaces then
        { session with secondary := ⟨session.primary.image, fetch.primaryURL⟩ }
      else session
    { session with primary := ⟨some image, some fetch.avatarURL⟩ }

def storeNormal (fetch : Fetch) (image : Image) (session : Session) : Session :=
  if fetch.storeSecondary then { session with secondary := ⟨some image, some fetch.avatarURL⟩ }
  else
    let session :=
      if fetch.replaces then
        let copied := session.primary.image.orElse fun _ => session.secondary.image
        { session with secondary := ⟨copied, fetch.primaryURL⟩ }
      else session
    { session with primary := ⟨some image, some fetch.avatarURL⟩ }

def storeAvatar (block : Block) (session : Session) : Session :=
  let image := ⟨block.fetch.avatarURL, block.data⟩
  if block.fetch.privateSession then storePrivate block.fetch image session
  else storeNormal block.fetch image session

def runBlock (s : State) : State :=
  match s.mainQueue with
  | [] => s
  | block :: blocks =>
    let session := s.sessions block.fetch.privateSession
    { s with
      sessions := Function.update s.sessions block.fetch.privateSession (storeAvatar block session)
      mainQueue := blocks
      wroteLate := s.wroteLate || block.fetch.signOuts < session.signOuts }

def signOut (privateSession : Bool) (s : State) : State :=
  let session := ⟨⟨none, none⟩, ⟨none, none⟩, (s.sessions privateSession).signOuts + 1⟩
  { s with sessions := Function.update s.sessions privateSession session }

/-- `googleSecondaryProfileImage`, which removes a second image of the primary account. -/
def showSecondary (privateSession : Bool) (s : State) : State :=
  let session := s.sessions privateSession
  if !privateSession && sameIdentity session.primary.url session.secondary.url then
    { s with
      sessions := Function.update s.sessions privateSession
        { session with secondary := ⟨none, none⟩ } }
  else s

section Step

variable (urlWithString : Text → Bool) (imageWithData : Data → Option (ℕ × ℕ))

def step (s : State) : Event → State
  | .observe page avatarURL => observe urlWithString page avatarURL s
  | .complete fetch response => complete imageWithData fetch response s
  | .runBlock => runBlock s
  | .signOut privateSession => signOut privateSession s
  | .showSecondary privateSession => showSecondary privateSession s

end Step

/-- Every image comes from the URL beside it, and the URLs are of two accounts. -/
structure Consistent (session : Session) : Prop where
  primary : ∀ image, session.primary.image = some image →
    session.primary.url = some image.source
  secondary : ∀ image, session.secondary.image = some image →
    session.secondary.url = some image.source
  accounts : sameIdentity session.primary.url session.secondary.url = false

/-- The cache is consistent, and nothing observed before a sign-out was written after it. -/
def Good (s : State) : Prop :=
  (∀ privateSession, Consistent (s.sessions privateSession)) ∧ s.wroteLate = false

/-- The stored URLs are still such that the image belongs where the observation puts it. -/
def StillFits (fetch : Fetch) (session : Session) : Prop :=
  if fetch.storeSecondary then sameIdentity session.primary.url (some fetch.avatarURL) = false
  else if fetch.replaces then session.primary.url = fetch.primaryURL
  else sameIdentity session.secondary.url (some fetch.avatarURL) = false

/-- An image is stored as it was observed to belong, with no sign-out in between. -/
def UpToDate (s : State) : Event → Prop
  | .runBlock => ∀ block, s.mainQueue.head? = some block →
      let session := s.sessions block.fetch.privateSession
      block.fetch.signOuts = session.signOuts ∧ StillFits block.fetch session
  | _ => True

section Store

/-- A slot is empty, or has an image and the URL it comes from. -/
structure Whole (session : Session) : Prop where
  primary : session.primary.url = session.primary.image.map Image.source
  secondary : session.secondary.url = session.secondary.image.map Image.source
  accounts : sameIdentity session.primary.url session.secondary.url = false

variable {session : Session} {block : Block}

theorem Whole.consistent (whole : Whole session) : Consistent session := by
  refine ⟨fun image stored => ?_, fun image stored => ?_, whole.accounts⟩
  · rw [whole.primary, stored]
    rfl
  · rw [whole.secondary, stored]
    rfl

theorem sameIdentity_comm (a b : Option Text) : sameIdentity a b = sameIdentity b a := by
  cases a <;> cases b <;> simp [sameIdentity, eq_comm]

theorem isSome_of_replaces {fetch : Fetch} (replaces : fetch.replaces = true) :
    fetch.primaryURL.isSome = true := by
  unfold Fetch.replaces at replaces
  cases found : fetch.primaryURL with
  | none =>
    rw [found] at replaces
    cases replaces
  | some url => rfl

/-- Where there is an image for a captured URL, private and normal sessions store alike. -/
theorem storeAvatar_eq
    (occupied : block.fetch.primaryURL.isSome = true → session.primary.image.isSome = true) :
    storeAvatar block session =
      let image : Slot :=
        ⟨some ⟨block.fetch.avatarURL, block.data⟩, some block.fetch.avatarURL⟩
      if block.fetch.storeSecondary then { session with secondary := image }
      else if block.fetch.replaces then
        { session with
          primary := image, secondary := ⟨session.primary.image, block.fetch.primaryURL⟩ }
      else { session with primary := image } := by
  cases second : block.fetch.storeSecondary with
  | true => simp only [storeAvatar, storePrivate, storeNormal, second, if_true, ite_self]
  | false =>
    cases replaces : block.fetch.replaces with
    | false => simp [storeAvatar, storePrivate, storeNormal, second, replaces]
    | true =>
      obtain ⟨image, stored⟩ :=
        Option.isSome_iff_exists.mp (occupied (isSome_of_replaces replaces))
      simp [storeAvatar, storePrivate, storeNormal, second, replaces, stored]

theorem storeAvatar_signOuts
    (occupied : block.fetch.primaryURL.isSome = true → session.primary.image.isSome = true) :
    (storeAvatar block session).signOuts = session.signOuts := by
  rw [storeAvatar_eq occupied]
  simp only
  split_ifs <;> rfl

theorem storeAvatar_occupied
    (occupied : block.fetch.primaryURL.isSome = true → session.primary.image.isSome = true)
    (stored : session.primary.image.isSome = true) :
    (storeAvatar block session).primary.image.isSome = true := by
  rw [storeAvatar_eq occupied]
  simp only
  split_ifs
  · exact stored
  · rfl
  · rfl

variable (whole : Whole session)
  (occupied : block.fetch.primaryURL.isSome = true → session.primary.image.isSome = true)
  (other : block.fetch.storeSecondary = false →
    sameIdentity block.fetch.primaryURL (some block.fetch.avatarURL) = false)

include whole occupied

theorem stillFits_of_consistent (consistent : Consistent (storeAvatar block session)) :
    StillFits block.fetch session := by
  rw [storeAvatar_eq occupied] at consistent
  unfold StillFits
  split_ifs with second replaces
  · rw [if_pos second] at consistent
    exact consistent.accounts
  · rw [if_neg second, if_pos replaces] at consistent
    obtain ⟨image, stored⟩ := Option.isSome_iff_exists.mp (occupied (isSome_of_replaces replaces))
    have moved : block.fetch.primaryURL = some image.source := consistent.secondary image stored
    rw [moved, whole.primary, stored]
    rfl
  · rw [if_neg second, if_neg replaces] at consistent
    rw [sameIdentity_comm]
    exact consistent.accounts

include other

theorem whole_storeAvatar (fits : StillFits block.fetch session) :
    Whole (storeAvatar block session) := by
  rw [storeAvatar_eq occupied]
  unfold StillFits at fits
  simp only
  split_ifs at fits ⊢ with second replaces
  · exact ⟨whole.primary, rfl, fits⟩
  · refine ⟨rfl, ?_, ?_⟩
    · change block.fetch.primaryURL = session.primary.image.map Image.source
      rw [← fits, whole.primary]
    · change sameIdentity (some block.fetch.avatarURL) block.fetch.primaryURL = false
      rw [sameIdentity_comm]
      exact other (Bool.eq_false_iff.mpr second)
  · refine ⟨rfl, whole.secondary, ?_⟩
    change sameIdentity (some block.fetch.avatarURL) session.secondary.url = false
    rw [sameIdentity_comm]
    exact fits

end Store

section Pending

def State.pending (s : State) : List Fetch := s.fetches ++ s.mainQueue.map Block.fetch

/-- A fetch was observed before some of the sign-outs, or a primary image it has seen is there. -/
structure Observed (sessions : Bool → Session) (fetch : Fetch) : Prop where
  before : fetch.signOuts ≤ (sessions fetch.privateSession).signOuts
  occupied : fetch.signOuts = (sessions fetch.privateSession).signOuts →
    fetch.primaryURL.isSome = true →
    (sessions fetch.privateSession).primary.image.isSome = true
  other : fetch.storeSecondary = false →
    sameIdentity fetch.primaryURL (some fetch.avatarURL) = false

structure Known (s : State) : Prop where
  whole : ∀ privateSession, Whole (s.sessions privateSession)
  pending : ∀ fetch ∈ s.pending, Observed s.sessions fetch
  onTime : s.wroteLate = false

variable {urlWithString : Text → Bool} {imageWithData : Data → Option (ℕ × ℕ)} {s : State}

theorem Known.good (known : Known s) : Good s :=
  ⟨fun privateSession => (known.whole privateSession).consistent, known.onTime⟩

theorem Observed.update {sessions : Bool → Session} {fetch : Fetch}
    (observed : Observed sessions fetch) {privateSession : Bool} {session : Session}
    (later : ((sessions privateSession).signOuts = session.signOuts ∧
        ((sessions privateSession).primary.image.isSome = true →
          session.primary.image.isSome = true)) ∨
      (sessions privateSession).signOuts < session.signOuts) :
    Observed (Function.update sessions privateSession session) fetch := by
  by_cases same : fetch.privateSession = privateSession
  · subst same
    obtain ⟨before, occupied, other⟩ := observed
    refine ⟨?_, ?_, other⟩ <;> rw [Function.update_self]
    · rcases later with ⟨counted, -⟩ | later <;> omega
    · intro current seen
      rcases later with ⟨counted, stored⟩ | later
      · exact stored (occupied (current.trans counted.symm) seen)
      · omega
  · obtain ⟨before, occupied, other⟩ := observed
    refine ⟨?_, ?_, other⟩ <;> rw [Function.update_of_ne same]
    · exact before
    · exact occupied

theorem whole_update {sessions : Bool → Session} (whole : ∀ b, Whole (sessions b))
    {privateSession : Bool} {session : Session} (new : Whole session) (b : Bool) :
    Whole (Function.update sessions privateSession session b) := by
  rw [Function.update_apply]
  split_ifs
  · exact new
  · exact whole b

theorem observe_cases (urlWithString : Text → Bool) (page : Page) (avatarURL : Text) (s : State) :
    observe urlWithString page avatarURL s = s ∨ ∃ fetch,
      observe urlWithString page avatarURL s = { s with fetches := s.fetches ++ [fetch] } ∧
        fetch.primaryURL = (s.sessions fetch.privateSession).primary.url ∧
        fetch.signOuts = (s.sessions fetch.privateSession).signOuts ∧
        (fetch.storeSecondary = false →
          sameIdentity fetch.primaryURL (some fetch.avatarURL) = false) := by
  simp only [observe]
  split_ifs with empty known invalid
  · exact .inl rfl
  · exact .inl rfl
  · exact .inl rfl
  · refine .inr ⟨_, rfl, rfl, rfl, fun first => ?_⟩
    rw [Bool.or_eq_true, not_or] at known
    have unknown := known.2
    rw [Bool.and_eq_true, not_and] at unknown
    exact Bool.eq_false_iff.mpr (unknown (by rw [Bool.not_eq_true']; exact first))

theorem known_observe (known : Known s) (page : Page) (avatarURL : Text) :
    Known (observe urlWithString page avatarURL s) := by
  obtain same | ⟨fetch, same, primary, signOuts, other⟩ :=
    observe_cases urlWithString page avatarURL s
  · rwa [same]
  · rw [same]
    refine ⟨known.whole, fun pending mem => ?_, known.onTime⟩
    have either : pending = fetch ∨ pending ∈ s.pending := by
      simp only [State.pending, List.mem_append, List.mem_singleton] at mem ⊢
      tauto
    rcases either with rfl | old
    · refine ⟨signOuts.le, fun _ seen => ?_, other⟩
      rw [primary, (known.whole _).primary, Option.isSome_map] at seen
      exact seen
    · exact known.pending pending old

theorem known_complete (known : Known s) (fetch : ℕ) (response : Response) :
    Known (complete imageWithData fetch response s) := by
  have others : s.fetches.eraseIdx fetch ⊆ s.fetches := fun _ => List.mem_of_mem_eraseIdx
  unfold complete
  split
  · exact known
  · rename_i done found
    simp only
    split_ifs
    · refine ⟨known.whole, fun pending mem => known.pending pending ?_, known.onTime⟩
      simp only [State.pending, List.map_append, List.map_singleton, List.mem_append,
        List.mem_singleton] at mem ⊢
      rcases mem with fetching | queued | rfl
      · exact .inl (others fetching)
      · exact .inr queued
      · exact .inl (List.mem_of_getElem? found)
    · refine ⟨known.whole, fun pending mem => known.pending pending ?_, known.onTime⟩
      exact (List.mem_append.mp mem).elim (fun mem => List.mem_append_left _ (others mem))
        (List.mem_append_right _)

theorem known_signOut (known : Known s) (privateSession : Bool) :
    Known (signOut privateSession s) :=
  ⟨whole_update known.whole ⟨rfl, rfl, rfl⟩,
    fun fetch mem => (known.pending fetch mem).update (.inr (Nat.lt_succ_self _)), known.onTime⟩

theorem showSecondary_eq (known : Known s) (privateSession : Bool) :
    showSecondary privateSession s = s := by
  simp only [showSecondary]
  rw [(known.whole privateSession).accounts, Bool.and_false]
  rfl

theorem runBlock_cons {block : Block} {blocks : List Block}
    (queue : s.mainQueue = block :: blocks) :
    runBlock s =
      { s with
        sessions := Function.update s.sessions block.fetch.privateSession
          (storeAvatar block (s.sessions block.fetch.privateSession))
        mainQueue := blocks
        wroteLate := s.wroteLate ||
          block.fetch.signOuts < (s.sessions block.fetch.privateSession).signOuts } := by
  rw [runBlock, queue]

theorem observed_first (known : Known s) {block : Block} {blocks : List Block}
    (queue : s.mainQueue = block :: blocks) : Observed s.sessions block.fetch := by
  refine known.pending _ ?_
  rw [State.pending, queue]
  simp

theorem known_runBlock (known : Known s) (upToDate : UpToDate s .runBlock) :
    Known (runBlock s) := by
  cases queue : s.mainQueue with
  | nil => rwa [runBlock, queue]
  | cons block blocks =>
    obtain ⟨counted, fits⟩ := upToDate block (by rw [queue]; rfl)
    have observed := observed_first known queue
    have occupied := observed.occupied counted
    rw [runBlock_cons queue]
    refine ⟨whole_update known.whole
      (whole_storeAvatar (known.whole _) occupied observed.other fits), fun fetch mem => ?_, ?_⟩
    · have old : fetch ∈ s.pending := by
        simp only [State.pending, queue, List.map_cons, List.mem_append, List.mem_cons] at mem ⊢
        tauto
      refine (known.pending fetch old).update (.inl ⟨(storeAvatar_signOuts occupied).symm, ?_⟩)
      exact storeAvatar_occupied occupied
    · change (s.wroteLate || decide (block.fetch.signOuts < _)) = false
      rw [known.onTime, counted]
      simp

theorem known_step (known : Known s) (event : Event) (upToDate : UpToDate s event) :
    Known (step urlWithString imageWithData s event) := by
  cases event with
  | observe page avatarURL => exact known_observe known page avatarURL
  | complete fetch response => exact known_complete known fetch response
  | runBlock => exact known_runBlock known upToDate
  | signOut privateSession => exact known_signOut known privateSession
  | showSecondary privateSession =>
    change Known (showSecondary privateSession s)
    rwa [showSecondary_eq known]

/-- An image that does not belong any more where it is stored is seen there. -/
theorem upToDate_of_good (known : Known s) (good : Good (runBlock s)) : UpToDate s .runBlock := by
  intro block first
  obtain ⟨blocks, queue⟩ := List.head?_eq_some_iff.mp first
  have observed := observed_first known queue
  rw [runBlock_cons queue] at good
  obtain ⟨consistent, onTime⟩ := good
  have counted : block.fetch.signOuts = (s.sessions block.fetch.privateSession).signOuts := by
    have notLate := (Bool.or_eq_false_iff.mp onTime).2
    have before := observed.before
    have between := of_decide_eq_false notLate
    omega
  refine ⟨counted, stillFits_of_consistent (known.whole _) (observed.occupied counted) ?_⟩
  have own : Consistent (Function.update s.sessions block.fetch.privateSession
      (storeAvatar block (s.sessions block.fetch.privateSession)) block.fetch.privateSession) :=
    consistent _
  rwa [Function.update_self] at own

end Pending

/-- The cache as an earlier launch has left it: the private sessions have none. -/
def start (saved : { session : Session // Whole session }) : State :=
  ⟨fun privateSession =>
    if privateSession then ⟨⟨none, none⟩, ⟨none, none⟩, 0⟩ else saved.val, [], [], false⟩

theorem known_start (saved : { session : Session // Whole session }) : Known (start saved) := by
  refine ⟨fun privateSession => ?_, fun _ mem => absurd mem List.not_mem_nil, rfl⟩
  cases privateSession with
  | false => exact saved.property
  | true => exact ⟨rfl, rfl, rfl⟩

/-- The cache is consistent throughout a run, and nothing is written late, exactly if each image
is stored while the stored URLs still put it where they did when it was observed. -/
theorem avatars_consistent_iff (urlWithString : Text → Bool)
    (imageWithData : Data → Option (ℕ × ℕ)) (saved : { session : Session // Whole session })
    (events : List Event) :
    (∀ past, past <+: events →
        Good (past.foldl (step urlWithString imageWithData) (start saved))) ↔
      Permitted UpToDate (step urlWithString imageWithData) (start saved) events := by
  have kept : ∀ s event, Known s → UpToDate s event →
      Known (step urlWithString imageWithData s event) :=
    fun s event known upToDate => known_step known event upToDate
  refine good_iff_permitted kept (fun s known => known.good) ?_ _ events (known_start saved)
  intro s event known late good
  cases event with
  | runBlock => exact late (upToDate_of_good known good)
  | _ => exact late trivial

/-- Of two avatars that are fetched at once, the first one is kept under the URL from before. -/
theorem concurrent_mixed :
    ¬∀ urlWithString imageWithData (saved : { session : Session // Whole session }) events past,
      past <+: events →
        Good (past.foldl (step urlWithString imageWithData) (start saved)) := by
  intro always
  let page : Page := ⟨false, "myaccount.google.com".toList, "/".toList⟩
  have good := always (fun _ => true) (fun _ => some (96, 96))
    ⟨⟨⟨some ⟨"https://p".toList, [0]⟩, some "https://p".toList⟩, ⟨none, none⟩, 0⟩, rfl, rfl, rfl⟩
    [.observe page "https://a".toList, .observe page "https://b".toList,
      .complete 0 ⟨false, some 200, [1]⟩, .runBlock,
      .complete 0 ⟨false, some 200, [2]⟩, .runBlock] _ (List.prefix_refl _)
  have stored := (good.1 false).secondary ⟨"https://a".toList, [1]⟩ (by decide)
  revert stored
  decide

end BlinkerFluid.AvatarCache
