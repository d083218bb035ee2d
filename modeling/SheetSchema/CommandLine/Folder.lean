import SheetSchema.CommandLine.Path
import SheetSchema.Text.Quoted

/-!
Folders: which files and directories there are, as far as it is known. A path is followed from
one name to the next, and each has to be there; to write a file, the directories on its way are
made first, from the outermost one that is not there.
-/
namespace SheetSchema.CommandLine

/-- Why a path does not lead to what is wanted. -/
inductive PathError
  | nothingThere
  | alreadyThere
  | notDirectory
  | isDirectory
  | nameTooLong
  /-- The path holds the character that ends all paths. -/
  | nullCharacter
  deriving DecidableEq, Repr

/-- A path with an error on it. -/
structure PathFault where
  path : String
  error : PathError
  deriving DecidableEq, Repr

/-- The number and the text that errors are known by. -/
def PathError.code : PathError → Nat × String
  | nothingThere => (2, "No such file or directory")
  | alreadyThere => (17, "File exists")
  | notDirectory => (20, "Not a directory")
  | isDirectory => (21, "Is a directory")
  | nameTooLong => (36, "File name too long")
  | nullCharacter => (0, "embedded null byte")

def PathFault.message (fault : PathFault) : String :=
  let (number, text) := fault.error.code
  if fault.error = .nullCharacter then text
  else
    "[Errno " ++ toString number ++ "] " ++ text ++ ": " ++
      String.ofList (Text.quote fault.path.toList)

/-- Files and directories. A directory also is where something else is below. -/
structure Folder where
  files : List Place := []
  directories : List Place := []
  deriving DecidableEq, Repr

namespace Folder

def isDirectory (folder : Folder) (place : Place) : Bool :=
  place.isAround ||
    folder.directories.any (place.isPrefixOf ·) ||
    folder.files.any fun file => place.isPrefixOf file && place != file

def contains (folder : Folder) (place : Place) : Bool :=
  folder.isDirectory place || folder.files.contains place

/-- How many bytes a name may have. -/
def maxNameSize : Nat := 255

/-- How many bytes a path may have. -/
def maxPathSize : Nat := 4095

/-- Follow names from a place. -/
def follow (folder : Folder) : Place → List String → Except PathError Place
  | place, [] => .ok place
  | place, name :: rest =>
    if !folder.isDirectory place then .error .notDirectory
    else if maxNameSize < name.utf8ByteSize then .error .nameTooLong
    else if folder.contains (place.step name) then folder.follow (place.step name) rest
    else .error .nothingThere

/-- Refuse a text that names no place anywhere. -/
def checkPath (path : String) : Except PathError Unit :=
  if path.contains '\x00' then .error .nullCharacter
  else if path = "" then .error .nothingThere
  else if maxPathSize < path.utf8ByteSize then .error .nameTooLong
  else .ok ()

/-- The place that a path leads to, which has to be there. -/
def find (folder : Folder) (path : String) : Except PathError Place := do
  checkPath path
  folder.follow (Path.start path) (Path.names path)

/-- Whether a path leads to something that is there. -/
def reaches (folder : Folder) (path : String) : Bool := (folder.find path).isOk

/-- Make the directory of a path in one that is there. A single dot and two dots always name
something that is there. -/
def makeNew (folder : Folder) (path : String) : Except PathError Folder := do
  checkPath path
  let names := Path.names path
  let parent ← folder.follow (Path.start path) names.dropLast
  let name := names.getLastD ""
  if !folder.isDirectory parent then throw .notDirectory
  if maxNameSize < name.utf8ByteSize then throw .nameTooLong
  if name = "." ∨ name = ".." ∨ folder.contains (parent.step name) then throw .alreadyThere
  return { folder with directories := folder.directories ++ [parent.step name] }

/-- What is made on the way to a failure stays. -/
abbrev FolderM := ExceptT PathFault (StateM Folder)

/-- Make the directory of a path unless it is there. -/
def makeDirectory (path : String) : FolderM Unit := do
  let folder ← get
  match folder.makeNew path with
  | .ok folder => set folder
  | .error error =>
    if !((folder.find path).map folder.isDirectory).toOption.getD false then throw { path, error }

/-- Make the first of some directories, each of which is in the one after it. If that one is not
there, it is made before, and it does not matter then if it is no directory; nor does a single dot
in it need to be made. -/
def makeDirectories : List String → FolderM Unit
  | [] => pure ()
  | path :: outer => do
    if !(outer.head?.all (← get).reaches) then
      tryCatch (makeDirectories outer) fun fault => do
        if fault.error ≠ .alreadyThere then throw fault
      if (Path.names path).getLastD "" = "." then return
    makeDirectory path

/-- Write a file to a path, over another file if there is one. The directories on its way are made
first. -/
def writeFile (path : String) : FolderM Unit := do
  makeDirectories (Path.directories path)
  let folder ← get
  match folder.find path with
  | .ok place => if folder.isDirectory place then throw { path, error := .isDirectory }
  | .error .nothingThere =>
    if path = "" then throw { path, error := .nothingThere }
    set { folder with files := folder.files ++ [Path.place path] }
  | .error error => throw { path, error }

/-- The folder once a file was written to a path. -/
def write (folder : Folder) (path : String) : Except PathFault Folder :=
  let (outcome, folder) := (writeFile path).run folder
  outcome.map fun _ => folder

end Folder

end SheetSchema.CommandLine
