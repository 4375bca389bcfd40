import BlinkerFluid.StepRun
import BlinkerFluid.WebAddress

/-! `ShellDownloadManagerDelegate`: how a download without a forced path gets the path
it is saved to. The name is made in a background task, the path is chosen when its
reply runs, and the file appears there when the download completes. Making a name and
looking for a path at which no file exists are parameters. -/

namespace BlinkerFluid.DownloadPaths
open ByteString WebAddress StepRun

structure Request where
  url : GURL
  contentDisposition : Bytes
  suggestedFilename : Bytes
  mimeType : Bytes
deriving DecidableEq

/-- `net::GenerateFileName` and `base::GetUniquePath`, with the directory of the
downloads. An empty path is no path. -/
structure Library where
  generateFileName : Request → Bytes
  getUniquePath : (Bytes → Bool) → Bytes → Option Bytes
  defaultDownloadPath : Bytes

inductive File where
  | existing
  | downloaded (download : ℕ)
deriving DecidableEq

inductive TargetDisposition where
  | overwrite
  | prompt
deriving DecidableEq

structure DownloadTargetInfo where
  targetPath : Bytes
  intermediatePath : Bytes
  targetDisposition : TargetDisposition
deriving DecidableEq

/-- What stood at the target path when it was chosen is kept for the statements. -/
inductive Phase where
  | determining (request : Request)
  | generated (suggestedPath : Bytes)
  | chosen (info : DownloadTargetInfo) (found : Option File)
deriving DecidableEq

structure Download where
  id : ℕ
  phase : Phase
  inProgress : Bool
deriving DecidableEq

/-- A file that a completed download replaced, beside what had been found. -/
structure Replacement where
  download : ℕ
  found : Option File
  replaced : File
deriving DecidableEq

structure Downloads where
  files : Bytes → Option File
  downloads : List Download
  nextId : ℕ
  replacements : List Replacement

def pathExists (s : Downloads) (path : Bytes) : Bool := (s.files path).isSome

def append (directory name : Bytes) : Bytes := directory ++ '/' :: name

def addExtension (path extension : Bytes) : Bytes := path ++ extension

def Download.only (id : ℕ) (f : Download → Download) (d : Download) : Download :=
  if d.id = id then f d else d

def mapDownload (id : ℕ) (f : Download → Download) (s : Downloads) : Downloads :=
  { s with downloads := s.downloads.map (Download.only id f) }

def determineDownloadTarget (request : Request) (s : Downloads) : Downloads :=
  { s with
    downloads := s.downloads ++ [⟨s.nextId, .determining request, true⟩]
    nextId := s.nextId + 1 }

def Download.generateFilename (library : Library) (d : Download) : Download :=
  match d.phase with
  | .determining request =>
    let generatedName := library.generateFileName request
    { d with phase := .generated (append library.defaultDownloadPath generatedName) }
  | _ => d

/-- The path that is chosen for a suggestion: without a unique one, the suggestion itself. -/
def resultPath (library : Library) (s : Downloads) (suggestedPath : Bytes) : Bytes :=
  (library.getUniquePath (pathExists s) suggestedPath).getD suggestedPath

def targetInfo (result : Bytes) : DownloadTargetInfo :=
  ⟨result, addExtension result ".crdownload".toList, .overwrite⟩

/-- A download that is not in progress any more is left without a path. -/
def Download.choosePath (library : Library) (s : Downloads) (d : Download) : Download :=
  match d.phase with
  | .generated suggestedPath =>
    if !d.inProgress then d
    else
      let result := resultPath library s suggestedPath
      { d with phase := .chosen (targetInfo result) (s.files result) }
  | _ => d

def chooseDownloadPath (library : Library) (id : ℕ) (s : Downloads) : Downloads :=
  mapDownload id (Download.choosePath library s) s

def Download.finish (d : Download) : Download := { d with inProgress := false }

/-- The info that a download in progress was handed, with what was found. -/
def Download.handed (d : Download) : Option (DownloadTargetInfo × Option File) :=
  match d.phase with
  | .chosen info found => if d.inProgress then some (info, found) else none
  | _ => none

def findDownload (s : Downloads) (id : ℕ) : Option Download := s.downloads.find? (·.id = id)

/-- The file is moved to the target path and replaces whatever is there. -/
def complete (id : ℕ) (s : Downloads) : Downloads :=
  match (findDownload s id).bind Download.handed with
  | none => s
  | some (info, found) =>
    let replacement := (s.files info.targetPath).map fun replaced => ⟨id, found, replaced⟩
    { mapDownload id Download.finish s with
      files := Function.update s.files info.targetPath (some (.downloaded id))
      replacements := s.replacements ++ replacement.toList }

inductive Event where
  | determineDownloadTarget (request : Request)
  | generateFilename (id : ℕ)
  | chooseDownloadPath (id : ℕ)
  | interrupt (id : ℕ)
  | complete (id : ℕ)
deriving DecidableEq

def step (library : Library) (s : Downloads) : Event → Downloads
  | .determineDownloadTarget request => determineDownloadTarget request s
  | .generateFilename id => mapDownload id (Download.generateFilename library) s
  | .chooseDownloadPath id => chooseDownloadPath library id s
  | .interrupt id => mapDownload id Download.finish s
  | .complete id => complete id s

def start (files : Bytes → Option File) : Downloads := ⟨files, [], 0, []⟩

end BlinkerFluid.DownloadPaths
