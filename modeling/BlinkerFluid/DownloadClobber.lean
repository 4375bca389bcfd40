import BlinkerFluid.DownloadPaths

/-! Files that downloads clobber. A path is chosen because no file stands there, but it is
not taken up before the download completes: two downloads in progress may have one path,
and without a unique path the suggestion is used though a file stands there. -/

namespace BlinkerFluid.DownloadClobber
open ByteString WebAddress StepRun DownloadPaths

/-- Downloads in progress have paths of their own, and no completion replaced a file that
was found when its path was chosen, or that another download produced. -/
structure NoClobber (s : Downloads) : Prop where
  apart : ∀ a ∈ s.downloads, ∀ b ∈ s.downloads, a.id ≠ b.id →
    ∀ handed ∈ a.handed, ∀ handed' ∈ b.handed,
      handed.1.targetPath ≠ handed'.1.targetPath ∧
        handed.1.intermediatePath ≠ handed'.1.intermediatePath
  kept : ∀ r ∈ s.replacements, r.found ≠ some r.replaced ∧
    ∀ other, r.replaced = .downloaded other → other = r.download

/-- A download in progress was handed this path. -/
def InUse (s : Downloads) (path : Bytes) : Prop :=
  ∃ d ∈ s.downloads, ∃ handed ∈ d.handed, handed.1.targetPath = path

/-- What `GetUniquePath` finds for a download that is waiting for a path is not in use, nor
is its suggestion where nothing is found; and a download that completes was handed a path
at which no file stood. -/
def PathIsFree (library : Library) (s : Downloads) : Event → Prop
  | .chooseDownloadPath id => ∀ d ∈ s.downloads, d.id = id → d.inProgress = true →
      ∀ suggestedPath, d.phase = .generated suggestedPath →
        match library.getUniquePath (pathExists s) suggestedPath with
        | some unique => ¬InUse s unique
        | none => ¬InUse s suggestedPath
  | .complete id => ∀ d ∈ s.downloads, d.id = id → ∀ handed ∈ d.handed, handed.2 = none
  | _ => True

/-- The path that would be chosen for a download, if it is waiting for one. -/
def wantedPath (library : Library) (s : Downloads) (d : Download) : Option Bytes :=
  match d.phase with
  | .generated suggestedPath =>
    if d.inProgress then some (resultPath library s suggestedPath) else none
  | _ => none

def HandedOut (s : Downloads) (id : ℕ) (handed : DownloadTargetInfo × Option File) : Prop :=
  ∃ d ∈ s.downloads, d.id = id ∧ handed ∈ d.handed

/-- Downloads are told apart by their ids, which are all below the next one. -/
structure Numbered (s : Downloads) : Prop where
  named : ∀ a ∈ s.downloads, ∀ b ∈ s.downloads, a.id = b.id → a = b
  below : ∀ d ∈ s.downloads, d.id < s.nextId

/-- What permitted runs keep: paths in use are apart, and free as long as they are in use. -/
structure Reserved (s : Downloads) : Prop extends Numbered s where
  derived : ∀ id handed, HandedOut s id handed → handed.1 = targetInfo handed.1.targetPath
  apart : ∀ id id' handed handed', HandedOut s id handed → HandedOut s id' handed' → id ≠ id' →
    handed.1.targetPath ≠ handed'.1.targetPath
  unchanged : ∀ id handed, HandedOut s id handed → s.files handed.1.targetPath = handed.2
  unreplaced : s.replacements = []

variable {library : Library} {s : Downloads}

theorem mem_wantedPath {d : Download} {path : Bytes} :
    path ∈ wantedPath library s d ↔ d.inProgress = true ∧ ∃ suggestedPath,
      d.phase = .generated suggestedPath ∧ resultPath library s suggestedPath = path := by
  unfold wantedPath
  split
  · rename_i suggestedPath phase
    simp [phase]
  · rename_i other
    refine iff_of_false (Option.not_mem_none _) ?_
    rintro ⟨-, suggestedPath, phase, -⟩
    exact other suggestedPath phase

theorem pathIsFree_choose_iff {id : ℕ} : PathIsFree library s (.chooseDownloadPath id) ↔
    ∀ d ∈ s.downloads, d.id = id → ∀ path ∈ wantedPath library s d, ¬InUse s path := by
  refine forall₃_congr fun d _ _ => ?_
  constructor
  · intro free path wanted
    obtain ⟨inProgress, suggestedPath, phase, rfl⟩ := mem_wantedPath.mp wanted
    have unused := free inProgress suggestedPath phase
    unfold resultPath
    cases unique : library.getUniquePath (pathExists s) suggestedPath <;>
      simpa only [unique, Option.getD_none, Option.getD_some] using unused
  · intro free inProgress suggestedPath phase
    have unused := free _ (mem_wantedPath.mpr ⟨inProgress, suggestedPath, phase, rfl⟩)
    unfold resultPath at unused
    cases unique : library.getUniquePath (pathExists s) suggestedPath <;>
      simpa only [unique, Option.getD_none, Option.getD_some] using unused

theorem addExtension_inj {path path' extension : Bytes}
    (same : addExtension path extension = addExtension path' extension) : path = path' :=
  List.append_cancel_right same

theorem noClobber_of_reserved (reserved : Reserved s) : NoClobber s := by
  refine ⟨fun a aMem b bMem other handed mem handed' mem' => ?_, fun r rMem => ?_⟩
  · have out : HandedOut s a.id handed := ⟨a, aMem, rfl, mem⟩
    have out' : HandedOut s b.id handed' := ⟨b, bMem, rfl, mem'⟩
    have target := reserved.apart _ _ _ _ out out' other
    refine ⟨target, fun same => target ?_⟩
    rw [reserved.derived _ _ out, reserved.derived _ _ out'] at same
    exact addExtension_inj same
  · rw [reserved.unreplaced] at rMem
    exact absurd rMem List.not_mem_nil

section Actions

theorem only_id {f : Download → Download} (same : ∀ d, (f d).id = d.id) (id : ℕ) (d : Download) :
    (Download.only id f d).id = d.id := by
  unfold Download.only
  split
  · exact same d
  · rfl

theorem generateFilename_id (library : Library) (d : Download) :
    (Download.generateFilename library d).id = d.id := by
  unfold Download.generateFilename
  split <;> rfl

theorem choosePath_id (library : Library) (s : Downloads) (d : Download) :
    (Download.choosePath library s d).id = d.id := by
  unfold Download.choosePath
  split
  · split <;> rfl
  · rfl

theorem finish_id (d : Download) : d.finish.id = d.id := rfl

theorem numbered_mapDownload (numbered : Numbered s) {f : Download → Download}
    (same : ∀ d, (f d).id = d.id) (id : ℕ) : Numbered (mapDownload id f s) := by
  constructor
  · intro a aMem b bMem ids
    obtain ⟨a', aMem', rfl⟩ := List.mem_map.mp aMem
    obtain ⟨b', bMem', rfl⟩ := List.mem_map.mp bMem
    rw [only_id same, only_id same] at ids
    rw [numbered.named a' aMem' b' bMem' ids]
  · intro d mem
    obtain ⟨d', mem', rfl⟩ := List.mem_map.mp mem
    rw [only_id same]
    exact numbered.below d' mem'

theorem numbered_determineDownloadTarget (numbered : Numbered s) (request : Request) :
    Numbered (determineDownloadTarget request s) := by
  have fresh : ∀ d ∈ s.downloads, d.id ≠ s.nextId := fun d mem => (numbered.below d mem).ne
  constructor
  · intro a aMem b bMem ids
    rcases List.mem_append.mp aMem with aOld | aNew <;>
      rcases List.mem_append.mp bMem with bOld | bNew
    · exact numbered.named a aOld b bOld ids
    · rw [List.mem_singleton.mp bNew] at ids
      exact absurd ids (fresh a aOld)
    · rw [List.mem_singleton.mp aNew] at ids
      exact absurd ids.symm (fresh b bOld)
    · rw [List.mem_singleton.mp aNew, List.mem_singleton.mp bNew]
  · intro d mem
    rcases List.mem_append.mp mem with old | new
    · exact Nat.lt_succ_of_lt (numbered.below d old)
    · rw [List.mem_singleton.mp new]
      exact Nat.lt_succ_self _

theorem handedOut_mapDownload {f : Download → Download} (same : ∀ d, (f d).id = d.id) {id id' : ℕ}
    {handed : DownloadTargetInfo × Option File} (out : HandedOut (mapDownload id f s) id' handed) :
    id' ≠ id ∧ HandedOut s id' handed ∨
      id' = id ∧ ∃ d ∈ s.downloads, d.id = id ∧ handed ∈ (f d).handed := by
  obtain ⟨d, mem, rfl, has⟩ := out
  obtain ⟨d', mem', rfl⟩ := List.mem_map.mp mem
  rw [only_id same]
  unfold Download.only at has
  split at has
  · rename_i chosen
    exact .inr ⟨chosen, d', mem', chosen, has⟩
  · rename_i other
    exact .inl ⟨other, d', mem', rfl, has⟩

theorem reserved_of_handedOut {s' : Downloads} (reserved : Reserved s) (numbered : Numbered s')
    (before : ∀ id handed, HandedOut s' id handed → HandedOut s id handed)
    (files : s'.files = s.files) (replacements : s'.replacements = s.replacements) :
    Reserved s' where
  toNumbered := numbered
  derived := fun id handed out => reserved.derived id handed (before id handed out)
  apart := fun id id' handed handed' out out' =>
    reserved.apart id id' handed handed' (before _ _ out) (before _ _ out')
  unchanged := fun id handed out => by
    rw [files]
    exact reserved.unchanged id handed (before id handed out)
  unreplaced := replacements.trans reserved.unreplaced

theorem reserved_mapDownload (reserved : Reserved s) {f : Download → Download}
    (same : ∀ d, (f d).id = d.id) (kept : ∀ d, ∀ handed ∈ (f d).handed, handed ∈ d.handed)
    (id : ℕ) : Reserved (mapDownload id f s) := by
  refine reserved_of_handedOut reserved (numbered_mapDownload reserved.toNumbered same id) ?_ rfl rfl
  intro id' handed out
  rcases handedOut_mapDownload same out with ⟨-, out⟩ | ⟨rfl, d, mem, ids, has⟩
  · exact out
  · exact ⟨d, mem, ids, kept d handed has⟩

theorem reserved_determineDownloadTarget (reserved : Reserved s) (request : Request) :
    Reserved (determineDownloadTarget request s) := by
  refine reserved_of_handedOut reserved
    (numbered_determineDownloadTarget reserved.toNumbered request) ?_ rfl rfl
  rintro id handed ⟨d, mem, ids, has⟩
  rcases List.mem_append.mp mem with old | new
  · exact ⟨d, old, ids, has⟩
  · rw [List.mem_singleton.mp new] at has
    cases has

theorem handed_generateFilename (library : Library) (d : Download) :
    ∀ handed ∈ (d.generateFilename library).handed, handed ∈ d.handed := by
  intro handed has
  unfold Download.generateFilename at has
  split at has
  · cases has
  · exact has

theorem handed_finish (d : Download) : d.finish.handed = none := by
  unfold Download.handed
  split <;> rfl

theorem handed_choosePath {d : Download} {handed : DownloadTargetInfo × Option File}
    (has : handed ∈ (d.choosePath library s).handed) :
    handed ∈ d.handed ∨
      ∃ path ∈ wantedPath library s d, handed = (targetInfo path, s.files path) := by
  unfold Download.choosePath at has
  split at has
  · rename_i suggestedPath phase
    split at has
    · exact .inl has
    · rename_i inProgress
      rw [Bool.not_eq_true', Bool.not_eq_false] at inProgress
      refine .inr ⟨resultPath library s suggestedPath, ?_, ?_⟩
      · simp only [wantedPath, phase, inProgress, if_true, Option.mem_def]
      · simpa [Download.handed, inProgress, eq_comm] using has
  · exact .inl has

theorem reserved_chooseDownloadPath {id : ℕ} (reserved : Reserved s)
    (ok : PathIsFree library s (.chooseDownloadPath id)) :
    Reserved (chooseDownloadPath library id s) := by
  have free := pathIsFree_choose_iff.mp ok
  have cases : ∀ id' handed, HandedOut (chooseDownloadPath library id s) id' handed →
      HandedOut s id' handed ∨
        id' = id ∧ ∃ path, handed = (targetInfo path, s.files path) ∧ ¬InUse s path := by
    intro id' handed out
    rcases handedOut_mapDownload (choosePath_id library s) out with ⟨-, out⟩ | ⟨rfl, d, mem, ids, has⟩
    · exact .inl out
    · rcases handed_choosePath has with has | ⟨path, wanted, rfl⟩
      · exact .inl ⟨d, mem, ids, has⟩
      · exact .inr ⟨rfl, path, rfl, free d mem ids path wanted⟩
  refine { numbered_mapDownload reserved.toNumbered (choosePath_id library s) id with
    derived := ?_, apart := ?_, unchanged := ?_, unreplaced := reserved.unreplaced }
  · intro id' handed out
    rcases cases id' handed out with out | ⟨-, path, rfl, -⟩
    · exact reserved.derived id' handed out
    · rfl
  · intro id₁ id₂ handed₁ handed₂ out₁ out₂ other
    rcases cases id₁ handed₁ out₁ with old₁ | ⟨rfl, path₁, rfl, free₁⟩ <;>
      rcases cases id₂ handed₂ out₂ with old₂ | ⟨rfl, path₂, rfl, free₂⟩
    · exact reserved.apart id₁ id₂ handed₁ handed₂ old₁ old₂ other
    · obtain ⟨d, mem, -, has⟩ := old₁
      exact fun same => free₂ ⟨d, mem, handed₁, has, same⟩
    · obtain ⟨d, mem, -, has⟩ := old₂
      exact fun same => free₁ ⟨d, mem, handed₂, has, same.symm⟩
    · exact absurd rfl other
  · intro id' handed out
    rcases cases id' handed out with out | ⟨-, path, rfl, -⟩
    · exact reserved.unchanged id' handed out
    · rfl

theorem findDownload_some {id : ℕ} {d : Download} (found : findDownload s id = some d) :
    d ∈ s.downloads ∧ d.id = id := by
  have ids := List.find?_some found
  exact ⟨List.mem_of_find?_eq_some found, of_decide_eq_true ids⟩

theorem findDownload_eq (numbered : Numbered s) {d : Download} (mem : d ∈ s.downloads) :
    findDownload s d.id = some d := by
  cases found : findDownload s d.id with
  | none => exact absurd (List.find?_eq_none.mp found d mem) (by simp)
  | some d' =>
    obtain ⟨mem', ids⟩ := findDownload_some found
    rw [numbered.named d' mem' d mem ids]

theorem complete_handed (numbered : Numbered s) {d : Download} (mem : d ∈ s.downloads)
    {handed : DownloadTargetInfo × Option File} (has : handed ∈ d.handed) :
    complete d.id s = { mapDownload d.id Download.finish s with
      files := Function.update s.files handed.1.targetPath (some (.downloaded d.id))
      replacements := s.replacements ++
        ((s.files handed.1.targetPath).map fun replaced => ⟨d.id, handed.2, replaced⟩).toList } := by
  have found : (findDownload s d.id).bind Download.handed = some handed := by
    rw [findDownload_eq numbered mem]
    exact has
  rw [complete, found]

theorem complete_unhanded {id : ℕ} (unhanded : ∀ d ∈ s.downloads, d.id = id → d.handed = none) :
    complete id s = s := by
  have found : (findDownload s id).bind Download.handed = none := by
    cases found : findDownload s id with
    | none => rfl
    | some d =>
      obtain ⟨mem, ids⟩ := findDownload_some found
      exact unhanded d mem ids
  rw [complete, found]

theorem reserved_complete {id : ℕ} (reserved : Reserved s)
    (ok : PathIsFree library s (.complete id)) : Reserved (complete id s) := by
  by_cases unhanded : ∀ d ∈ s.downloads, d.id = id → d.handed = none
  · rwa [complete_unhanded unhanded]
  push Not at unhanded
  obtain ⟨d, mem, rfl, has⟩ := unhanded
  obtain ⟨handed, has⟩ := Option.ne_none_iff_exists'.mp has
  have out : HandedOut s d.id handed := ⟨d, mem, rfl, has⟩
  have free : s.files handed.1.targetPath = none :=
    (reserved.unchanged _ _ out).trans (ok d mem rfl handed has)
  rw [complete_handed reserved.toNumbered mem has]
  have others : ∀ id' handed', HandedOut (mapDownload d.id Download.finish s) id' handed' →
      id' ≠ d.id ∧ HandedOut s id' handed' := by
    intro id' handed' out'
    rcases handedOut_mapDownload finish_id out' with other | ⟨rfl, d', -, -, has'⟩
    · exact other
    · rw [handed_finish] at has'
      cases has'
  refine { numbered_mapDownload reserved.toNumbered finish_id d.id with
    derived := fun id' handed' out' => reserved.derived id' handed' (others _ _ out').2
    apart := fun _ _ _ _ out₁ out₂ =>
      reserved.apart _ _ _ _ (others _ _ out₁).2 (others _ _ out₂).2
    unchanged := ?_
    unreplaced := ?_ }
  · intro id' handed' out'
    obtain ⟨other, out'⟩ := others id' handed' out'
    have target := reserved.apart _ _ _ _ out' out other
    exact (Function.update_of_ne target _ _).trans (reserved.unchanged _ _ out')
  · change s.replacements ++ _ = []
    rw [free, reserved.unreplaced]
    rfl

end Actions

theorem reserved_step (s : Downloads) (event : Event) (reserved : Reserved s)
    (ok : PathIsFree library s event) : Reserved (step library s event) := by
  cases event with
  | determineDownloadTarget request => exact reserved_determineDownloadTarget reserved request
  | generateFilename id =>
    exact reserved_mapDownload reserved (generateFilename_id library)
      (handed_generateFilename library) id
  | chooseDownloadPath id => exact reserved_chooseDownloadPath reserved ok
  | interrupt id =>
    refine reserved_mapDownload reserved finish_id (fun d handed has => ?_) id
    rw [handed_finish] at has
    cases has
  | complete id => exact reserved_complete reserved ok

theorem reserved_start (files : Bytes → Option File) : Reserved (start files) where
  named := fun _ mem => absurd mem List.not_mem_nil
  below := fun _ mem => absurd mem List.not_mem_nil
  derived := fun _ _ ⟨_, mem, _⟩ => absurd mem List.not_mem_nil
  apart := fun _ _ _ _ ⟨_, mem, _⟩ => absurd mem List.not_mem_nil
  unchanged := fun _ _ ⟨_, mem, _⟩ => absurd mem List.not_mem_nil
  unreplaced := rfl

section Refused

theorem handed_of_wantedPath {d : Download} {path : Bytes} (wanted : path ∈ wantedPath library s d) :
    d.handed = none ∧
      (d.choosePath library s).handed = some (targetInfo path, s.files path) := by
  obtain ⟨inProgress, suggestedPath, phase, rfl⟩ := mem_wantedPath.mp wanted
  simp [Download.handed, Download.choosePath, phase, inProgress]

theorem not_noClobber_choose {id : ℕ} (numbered : Numbered s)
    (refused : ¬PathIsFree library s (.chooseDownloadPath id)) :
    ¬NoClobber (step library s (.chooseDownloadPath id)) := by
  simp only [pathIsFree_choose_iff, not_forall, not_not] at refused
  obtain ⟨d, mem, rfl, path, wanted, other, otherMem, handed, has, taken⟩ := refused
  obtain ⟨unhanded, chosen⟩ := handed_of_wantedPath wanted
  have differ : other.id ≠ d.id := by
    intro ids
    rw [numbered.named other otherMem d mem ids, unhanded] at has
    cases has
  have stays : other ∈ (chooseDownloadPath library d.id s).downloads :=
    List.mem_map.mpr ⟨other, otherMem, if_neg differ⟩
  have becomes : d.choosePath library s ∈ (chooseDownloadPath library d.id s).downloads :=
    List.mem_map.mpr ⟨d, mem, if_pos rfl⟩
  intro noClobber
  refine (noClobber.apart other stays _ becomes ?_ handed has _ chosen).1 taken
  rwa [choosePath_id]

theorem not_noClobber_complete {id : ℕ} (reserved : Reserved s)
    (refused : ¬PathIsFree library s (.complete id)) :
    ¬NoClobber (step library s (.complete id)) := by
  simp only [PathIsFree, not_forall] at refused
  obtain ⟨d, mem, rfl, handed, has, found⟩ := refused
  obtain ⟨file, found⟩ := Option.ne_none_iff_exists'.mp found
  have stands : s.files handed.1.targetPath = some file :=
    (reserved.unchanged _ _ ⟨d, mem, rfl, has⟩).trans found
  intro noClobber
  refine (noClobber.kept ⟨d.id, handed.2, file⟩ ?_).1 found
  rw [step, complete_handed reserved.toNumbered mem has, stands]
  exact List.mem_append_right _ List.mem_cons_self

theorem not_noClobber_of_refused (s : Downloads) (event : Event) (reserved : Reserved s)
    (refused : ¬PathIsFree library s event) : ¬NoClobber (step library s event) := by
  cases event with
  | chooseDownloadPath id => exact not_noClobber_choose reserved.toNumbered refused
  | complete id => exact not_noClobber_complete reserved refused
  | _ => exact absurd trivial refused

end Refused

/-- In a run, downloads in progress have paths of their own and no completion clobbers a
file if and only if no path is chosen that is in use and no download completes onto a path
at which a file had been found. -/
theorem noClobber_iff_pathIsFree (library : Library) (files : Bytes → Option File)
    (events : List Event) :
    (∀ past, past <+: events → NoClobber (past.foldl (step library) (start files))) ↔
      Permitted (PathIsFree library) (step library) (start files) events :=
  good_iff_permitted reserved_step (fun _ => noClobber_of_reserved) not_noClobber_of_refused
    (start files) events (reserved_start files)

/-- `base::GetUniquePath` answers a path at which no file exists, or none. -/
def AnswersFree (library : Library) : Prop :=
  ∀ taken suggestedPath path, library.getUniquePath taken suggestedPath = some path →
    taken path = false

/-- The first of a path and its numbered variants at which no file exists. The path has
no extension. -/
def firstFree (taken : Bytes → Bool) (path : Bytes) : Option Bytes :=
  (path :: (List.range 100).map fun count =>
    path ++ " (".toList ++ Nat.toDigits 10 (count + 1) ++ [')']).find? fun candidate =>
      !taken candidate

def documents : Library :=
  ⟨Request.suggestedFilename, firstFree, "/Documents/MyFiles/Downloads".toList⟩

def report : Request := ⟨GURL.none, [], "report".toList, []⟩

/-- Two downloads of one name, the second chosen before the first completes. -/
def sameName : List Event :=
  [.determineDownloadTarget report, .generateFilename 0, .determineDownloadTarget report,
    .generateFilename 1, .chooseDownloadPath 0, .chooseDownloadPath 1]

def reportPath : Bytes := "/Documents/MyFiles/Downloads/report".toList

theorem answersFree_documents : AnswersFree documents := by
  intro taken suggestedPath path found
  simpa using List.find?_some found

/-- Both are handed the same path, and the second one then replaces the first one's file. -/
theorem sameName_clobbers :
    AnswersFree documents ∧
      ¬NoClobber (sameName.foldl (step documents) (start fun _ => none)) ∧
      ¬NoClobber ((sameName ++ [Event.complete 0, Event.complete 1]).foldl (step documents)
        (start fun _ => none)) := by
  refine ⟨answersFree_documents, fun noClobber => ?_, fun noClobber => ?_⟩
  · have chosen : (sameName.foldl (step documents) (start fun _ => none)).downloads =
        [⟨0, .chosen (targetInfo reportPath) none, true⟩,
          ⟨1, .chosen (targetInfo reportPath) none, true⟩] := by
      decide +kernel
    have apart := noClobber.apart
    rw [chosen] at apart
    exact (apart _ List.mem_cons_self _ (List.mem_cons_of_mem _ List.mem_cons_self)
      Nat.zero_ne_one _ rfl _ rfl).1 rfl
  · have replaced : ((sameName ++ [Event.complete 0, Event.complete 1]).foldl (step documents)
        (start fun _ => none)).replacements = [⟨1, none, .downloaded 0⟩] := by
      decide +kernel
    have kept := noClobber.kept
    rw [replaced] at kept
    exact absurd ((kept _ List.mem_cons_self).2 0 rfl) Nat.zero_ne_one

end BlinkerFluid.DownloadClobber
