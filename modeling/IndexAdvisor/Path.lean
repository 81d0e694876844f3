import IndexAdvisor.Entries

/-! # Paths and folders

Paths in their normal form, and the files in reach of a working folder by the places of their
paths. Above the working folder nothing is known but that there are folders.
-/

namespace IndexAdvisor

/-- A path: whether it starts at the root, and the names on it. -/
structure Path where
  root : String
  parts : List String
  deriving DecidableEq, Repr, Inhabited

namespace Path

/-- How a path starts: at the root with one or with exactly two bars, or anywhere else. -/
def rootOf : List Char → String
  | '/' :: '/' :: '/' :: _ => "/"
  | '/' :: '/' :: _ => "//"
  | '/' :: _ => "/"
  | _ => ""

/-- The path a text writes. Empty names and names of a place itself are left out. -/
def ofText (text : String) : Path :=
  ⟨rootOf text.toList, (text.splitOn "/").filter fun part => part ≠ "" ∧ part ≠ "."⟩

def text (path : Path) : String :=
  if path.root.isEmpty ∧ path.parts.isEmpty then "." else path.root ++ "/".intercalate path.parts

/-- The path of the folder that holds a path's place. -/
def parent (path : Path) : Path := { path with parts := path.parts.dropLast }

def child (path : Path) (name : String) : Path :=
  { path with parts := path.parts ++ [name] }

def longestName : Nat := 255

def longestPath : Nat := 4095

/-- The paths of the names on a path, each with the path of the place before it. -/
def steps (path : Path) : List (Path × String) :=
  (path.parts.zipIdx).map fun (name, n) => (⟨path.root, path.parts.take n⟩, name)

/-- Where the names on a path lead from a place, the latest name first. The root has nothing above
    it; above the working folder lies no place. -/
def walk (rooted : Bool) : List String → List String → Option (List String)
  | place, [] => some place
  | _ :: place, ".." :: rest => walk rooted place rest
  | [], ".." :: rest => if rooted then walk rooted [] rest else none
  | place, name :: rest => walk rooted (name :: place) rest

/-- The place that a path leads to, by its names from the working folder or from the root on; a
    place from the root starts with a bar. -/
def place? (path : Path) : Option (List String) :=
  if path.root.isEmpty then (walk false [] path.parts).map List.reverse
  else (walk true [] path.parts).map fun place => "/" :: place.reverse

end Path

/-- The files of a working folder by their places, and the folders inside it. -/
structure Folder where
  files : Entries String
  folders : List String
  deriving Repr, Inhabited

inductive Folder.Item where
  | file (content : String)
  | folder
  deriving DecidableEq, Repr

/-- Why a folder cannot be made or a file not be written. -/
inductive Folder.Error where
  /-- A file has the name of the folder. -/
  | occupied
  /-- A file has the name of a folder above. -/
  | noFolder
  /-- A folder has the name of the file. -/
  | folder
  /-- The path or a name on it is too long. -/
  | tooLong
  /-- A name holds the character that ends names. -/
  | cutName
  deriving DecidableEq, Repr

namespace Folder

def placeText (place : List String) : String := "/".intercalate place

/-- The folders above a place, the widest first. -/
def above (place : List String) : List (List String) :=
  (List.range place.length).map fun n => place.take n

def ofFiles (files : Entries String) : Folder :=
  ⟨files, (files.names.flatMap fun name => (above (name.splitOn "/")).map placeText).eraseDups⟩

/-- What a path leads to. Paths out of the working folder lead to folders if they only go up. -/
def find? (folder : Folder) (path : Path) : Option Item :=
  match path.place? with
  | none => if path.parts.all (· = "..") then some .folder else none
  | some place =>
    match folder.files.find? (placeText place) with
    | some content => some (.file content)
    | none =>
      if place.isEmpty || place = ["/"] || folder.folders.contains (placeText place) then
        some .folder
      else none

/-- Whether a path cannot be followed because of its length, or because it comes to a name that is
    too long. -/
def isTooLong (folder : Folder) (path : Path) : Bool :=
  Path.longestPath < path.text.utf8ByteSize || path.steps.any fun (before, name) =>
    Path.longestName < name.utf8ByteSize && folder.find? before = some .folder

/-- What is wrong with the names on a path. -/
def check (folder : Folder) (path : Path) : Except Error Unit :=
  if path.text.contains (Char.ofNat 0) then .error .cutName
  else if folder.isTooLong path then .error .tooLong
  else .ok ()

/-- Whether a file has the name of a folder above a place. -/
def isBlocked (folder : Folder) (place : List String) : Bool :=
  (above place).any fun place => folder.files.has (placeText place)

/-- Makes a folder and all above it, unless they are there. -/
def make (folder : Folder) (path : Path) : Except Error Folder :=
  match path.place? with
  | none => .ok folder
  | some place =>
    if folder.files.has (placeText place) then .error .occupied
    else if folder.isBlocked place then .error .noFolder
    else do
      let folders := (folder.folders ++ (above place ++ [place]).map placeText).eraseDups
      let made : Folder := { folder with folders }
      made.check path
      return made

/-- Writes a file; one that is there is replaced. What is written above the working folder is
    lost. -/
def write (folder : Folder) (path : Path) (content : String) : Except Error Folder := do
  folder.check path
  match folder.find? path, path.place? with
  | some .folder, _ => .error .folder
  | _, none => .ok folder
  | _, some place =>
    if folder.isBlocked place then .error .noFolder
    else .ok { folder with files := folder.files.put (placeText place) content }

/-- Writes on at the end of a file, which is made if it is not there. -/
def append (folder : Folder) (path : Path) (content : String) : Except Error Folder :=
  match folder.find? path with
  | some (.file before) => folder.write path (before ++ content)
  | _ => folder.write path content

end Folder

end IndexAdvisor
