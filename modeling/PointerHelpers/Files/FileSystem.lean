import PointerHelpers.Files.Path
import PointerHelpers.Text.Utf8

namespace PointerHelpers.Files

open Text

inductive SystemError where
  | noEntry
  | notDirectory
  | isDirectory
  | noSpace
  | nameTooLong
  | nulInName
  deriving DecidableEq

def SystemError.message : SystemError → String
  | .noEntry => "No such file or directory (os error 2)"
  | .notDirectory => "Not a directory (os error 20)"
  | .isDirectory => "Is a directory (os error 21)"
  | .noSpace => "No space left on device (os error 28)"
  | .nameTooLong => "File name too long (os error 36)"
  | .nulInName => "file name contained an unexpected NUL byte"

/-- A null device takes all that is written and keeps nothing; a full device takes nothing. -/
inductive Device where
  | null
  | full
  deriving DecidableEq

structure Content where
  bytes : ByteArray

namespace Content

instance : DecidableEq Content
  | ⟨bytes⟩, ⟨other⟩ =>
    match ByteArray.instDecidableEq bytes other with
    | .isTrue h => .isTrue (congrArg mk h)
    | .isFalse h => .isFalse fun he => h (mk.inj he)

def empty : Content := ⟨.empty⟩

def append (content : Content) (text : String) : Content := ⟨content.bytes ++ text.toUTF8⟩

def text (content : Content) : String := Utf8.decode content.bytes.toList

instance : Coe Content String := ⟨text⟩

end Content

inductive Entry where
  | directory
  | file (content : Content)
  | device (kind : Device)
  deriving DecidableEq

abbrev Location := List String

structure FileSystem where
  entries : List (Location × Entry)
  current : Location
  deriving DecidableEq

namespace FileSystem

def get? (system : FileSystem) (location : Location) : Option Entry :=
  system.entries.lookup location

def replace (location : Location) (entry : Entry) :
    List (Location × Entry) → List (Location × Entry)
  | [] => [(location, entry)]
  | (other, old) :: rest =>
    if other = location then (other, entry) :: rest else (other, old) :: replace location entry rest

def put (system : FileSystem) (location : Location) (entry : Entry) : FileSystem :=
  { system with entries := replace location entry system.entries }

def maxNameBytes : Nat := 255

def maxPathBytes : Nat := 4095

def step (system : FileSystem) (location : Location) (segment : String) :
    Except SystemError Location :=
  if segment = "." then .ok location
  else if segment = ".." then .ok location.dropLast
  else if maxNameBytes < segment.utf8ByteSize then .error .nameTooLong
  else
    match system.get? (location ++ [segment]) with
    | none => .error .noEntry
    | some .directory => .ok (location ++ [segment])
    | some _ => .error .notDirectory

def walk (system : FileSystem) (location : Location) : List String → Except SystemError Location
  | [] => .ok location
  | segment :: rest =>
    match system.step location segment with
    | .error error => .error error
    | .ok location => system.walk location rest

def startOf (system : FileSystem) (path : Path) : Location :=
  if path.isAbsolute then [] else system.current

/-- Where the file of a path is or would be. The directories on the way have to exist, and what the
path names must not be a directory by its form. -/
def locate (system : FileSystem) (path : Path) : Except SystemError Location :=
  if path.text.toList.contains '\x00' then .error .nulInName
  else if path.text = "" then .error .noEntry
  else if maxPathBytes < path.text.utf8ByteSize then .error .nameTooLong
  else
    match path.segments.getLast? with
    | none => .error .isDirectory
    | some name =>
      match system.walk (system.startOf path) path.segments.dropLast with
      | .error error => .error error
      | .ok directory =>
        if name = "." || name = ".." || path.text.toList.getLast? == some '/' then
          .error .isDirectory
        else if maxNameBytes < name.utf8ByteSize then .error .nameTooLong
        else .ok (directory ++ [name])

/-- Open a file for writing, empty. A device stays what it is. -/
def create (system : FileSystem) (path : Path) : Except SystemError (Location × FileSystem) :=
  match system.locate path with
  | .error error => .error error
  | .ok location =>
    match system.get? location with
    | some .directory => .error .isDirectory
    | some (.device _) => .ok (location, system)
    | some (.file _) | none => .ok (location, system.put location (.file .empty))

def append (system : FileSystem) (location : Location) (text : String) :
    Except SystemError FileSystem :=
  match system.get? location with
  | none => .error .noEntry
  | some .directory => .error .isDirectory
  | some (.device .null) => .ok system
  | some (.device .full) => if text = "" then .ok system else .error .noSpace
  | some (.file content) => .ok (system.put location (.file (content.append text)))

/-- Make the directories of a path that do not exist, as far as that is possible. -/
def makeDirectories (system : FileSystem) (path : Path) : FileSystem :=
  (path.segments.foldl
    (fun (system, location) segment =>
      match system.step location segment with
      | .ok location => (system, location)
      | .error .noEntry =>
        (system.put (location ++ [segment]) .directory, location ++ [segment])
      | .error _ => (system, location))
    (system, system.startOf path)).1

def writeFile (system : FileSystem) (path : Path) (content : String) : FileSystem :=
  match system.create path with
  | .error _ => system
  | .ok (location, created) =>
    match created.append location content with
    | .error _ => created
    | .ok written => written

def fresh : FileSystem :=
  { entries :=
      [([], .directory), (["dev"], .directory), (["dev", "null"], .device .null),
        (["dev", "full"], .device .full), (["tmp"], .directory), (["tmp", "work"], .directory)]
    current := ["tmp", "work"] }

def isBelow (location directory : Location) : Bool :=
  directory.isPrefixOf location && directory.length < location.length

def listing (system : FileSystem) : List (String × Entry) :=
  ((system.entries.filter (isBelow ·.1 system.current)).map fun (location, entry) =>
    ("/".intercalate (location.drop system.current.length), entry)).mergeSort (·.1 ≤ ·.1)

end FileSystem

end PointerHelpers.Files
