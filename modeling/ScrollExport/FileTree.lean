import ScrollExport.Keyed
import ScrollExport.Text.Bytes
import ScrollExport.Text.Split

/-!
# File trees

Folders and files below a root, and a working folder at which relative paths start. A path is
walked name by name: each name before the last must be a folder.
-/

namespace ScrollExport

/-- The names that lead from the root to a file or folder. -/
abbrev Place := List String

inductive FileEntry where
  | folder
  | file (bytes : List UInt8)
deriving DecidableEq, Repr

structure FileTree where
  entries : List (Place × FileEntry)
  workingFolder : Place

/-- Why a file cannot be opened. -/
inductive FileError where
  | notFound
  | notFolder
  | isFolder
  | nameTooLong
  | nul
deriving DecidableEq, Repr

def FileError.message : FileError → String
  | .notFound => "No such file or directory (os error 2)"
  | .notFolder => "Not a directory (os error 20)"
  | .isFolder => "Is a directory (os error 21)"
  | .nameTooLong => "File name too long (os error 36)"
  | .nul => "file name contained an unexpected NUL byte"

/-! ### Names of a path -/

namespace Path

def isAbsolute (path : String) : Bool :=
  path.toList.head? = some '/'

/-- The pieces of a path that are not empty. -/
def pieces (path : String) : List String :=
  (Text.split '/' path).filter (· ≠ "")

/-- The names of a path: its pieces without the dots that stay in a folder. -/
def names (path : String) : List String :=
  (pieces path).filter (· ≠ ".")

/-- The longest name, in bytes. -/
def nameLimit : Nat := 255

/-- The longest path, in bytes. -/
def pathLimit : Nat := 4095

/-- One path after another; an absolute one stands alone. -/
def join (folder path : String) : String :=
  if isAbsolute path || folder = "" then path
  else if folder.toList.getLast? = some '/' then folder ++ path
  else folder ++ "/" ++ path

end Path

namespace FileTree

/-! ### Looking -/

def entry? (t : FileTree) (place : Place) : Option FileEntry :=
  if place = [] then some .folder else Keyed.get? t.entries place

/-- The place above; the root is above itself. -/
def above (place : Place) : Place :=
  place.dropLast

/-- Walk names that must all be folders, each from inside the one before. -/
def walk (t : FileTree) (here : Place) : List String → Except FileError Place
  | [] => .ok here
  | ".." :: rest => t.walk (above here) rest
  | name :: rest =>
    if Path.nameLimit < name.utf8ByteSize then .error .nameTooLong
    else
      match t.entry? (here ++ [name]) with
      | none => .error .notFound
      | some (.file _) => .error .notFolder
      | some .folder => t.walk (here ++ [name]) rest

/-- Where a path starts. -/
def origin (t : FileTree) (path : String) : Place :=
  if Path.isAbsolute path then [] else t.workingFolder

/-- The file or folder at a path. -/
def find (t : FileTree) (path : String) : Except FileError FileEntry := do
  if path.toList.contains '\x00' then throw .nul
  if path = "" then throw .notFound
  if Path.pathLimit < path.utf8ByteSize then throw .nameTooLong
  let names := Path.names path
  let folder ← t.walk (t.origin path) names.dropLast
  match names.getLast? with
  | none => pure .folder
  | some ".." => pure .folder
  | some name =>
    if Path.nameLimit < name.utf8ByteSize then throw .nameTooLong
    match t.entry? (folder ++ [name]) with
    | none => throw .notFound
    | some (.file bytes) =>
      if path.toList.getLast? = some '/' then throw .notFolder else pure (.file bytes)
    | some .folder => pure .folder

/-- The bytes of the file at a path. -/
def read? (t : FileTree) (path : String) : Option (List UInt8) :=
  match t.find path with
  | .ok (.file bytes) => some bytes
  | _ => none

def isFolder (t : FileTree) (path : String) : Bool :=
  t.find path matches .ok .folder

/-! ### Writing -/

/-- The place of a file that can be created, or replaced, at a path. -/
def target (t : FileTree) (path : String) : Except FileError Place := do
  if path.toList.contains '\x00' then throw .nul
  if path = "" then throw .notFound
  if Path.pathLimit < path.utf8ByteSize then throw .nameTooLong
  match (Path.pieces path).getLast? with
  | none => throw .isFolder
  | some last =>
    let folder ← t.walk (t.origin path) ((Path.pieces path).dropLast.filter (· ≠ "."))
    if path.toList.getLast? = some '/' || last = "." || last = ".." then throw .isFolder
    if Path.nameLimit < last.utf8ByteSize then throw .nameTooLong
    match t.entry? (folder ++ [last]) with
    | some .folder => throw .isFolder
    | _ => pure (folder ++ [last])

/-- Give a place its entry. -/
def put (t : FileTree) (place : Place) (e : FileEntry) : FileTree :=
  { t with entries := Keyed.put t.entries place e }

/-- Write the file at a path, whatever it held before. -/
def write (t : FileTree) (path : String) (bytes : List UInt8) : Except FileError FileTree :=
  (t.target path).map fun place => t.put place (.file bytes)

/-- Make the file at a path, unless it is there. -/
def touch (t : FileTree) (path : String) : Except FileError FileTree :=
  (t.target path).map fun place =>
    if (t.entry? place).isSome then t else t.put place (.file [])

/-! ### Building -/

/-- The tree with nothing but the folders down to the working folder. -/
def empty (workingFolder : Place) : FileTree :=
  ⟨((List.range workingFolder.length).map fun n => (workingFolder.take (n + 1), .folder)),
    workingFolder⟩

/-- Make a folder and all folders above it, below the working folder. -/
def makeFolders (t : FileTree) (names : List String) : FileTree :=
  (List.range names.length).foldl
    (fun t n =>
      let place := t.workingFolder ++ names.take (n + 1)
      if (t.entry? place).isSome then t else t.put place .folder)
    t

/-- Make a file below the working folder, and the folders above it. -/
def makeFile (t : FileTree) (path : String) (bytes : List UInt8) : FileTree :=
  let names := Path.names path
  (t.makeFolders names.dropLast).put (t.workingFolder ++ names) (.file bytes)

/-- The files below the working folder, with their names from there. -/
def files (t : FileTree) : List (List String × List UInt8) :=
  t.entries.filterMap fun (place, e) =>
    match e with
    | .file bytes =>
      if t.workingFolder.isPrefixOf place then some (place.drop t.workingFolder.length, bytes)
      else none
    | .folder => none

end FileTree

end ScrollExport
