/-!
# File trees

A small store of files and directories. Paths are resolved component by component from the
root or, if they do not start with a slash, from the working directory; every component
before the last must be a directory, and `..` leads from a directory to its parent.
-/

namespace Coedit

inductive FileError where
  | notFound
  | notDirectory
  | isDirectory
  | nameTooLong
  | nulByte
  | invalidUtf8
  | other (text : String)
  deriving DecidableEq, Repr

def FileError.message : FileError → String
  | .notFound => "No such file or directory (os error 2)"
  | .notDirectory => "Not a directory (os error 20)"
  | .isDirectory => "Is a directory (os error 21)"
  | .nameTooLong => "File name too long (os error 36)"
  | .nulByte => "file name contained an unexpected NUL byte"
  | .invalidUtf8 => "stream did not contain valid UTF-8"
  | .other text => text

inductive FileEntry where
  | file (bytes : List UInt8)
  /-- A file that is there but cannot be read. -/
  | unreadable (cause : FileError)
  | directory
  deriving DecidableEq, Repr

/-- A place in the tree: the names on the way from the root. -/
abbrev Location := List String

structure FileTree where
  workingDirectory : Location := []
  entries : List (Location × FileEntry) := []

namespace FileTree

def entry? (t : FileTree) (l : Location) : Option FileEntry :=
  if l = [] then some .directory else t.entries.lookup l

def set (t : FileTree) (l : Location) (e : FileEntry) : FileTree :=
  { t with entries := (l, e) :: t.entries.filter fun x => x.1 != l }

/-- The directories above a location, outermost first, and the location itself. -/
def ancestry (l : Location) : List Location :=
  (List.range l.length).map fun n => l.take (n + 1)

/-- Makes a directory and those above it, unless something is there already. -/
def addDirectory (t : FileTree) (l : Location) : FileTree :=
  (ancestry l).foldl (fun t l => if (t.entry? l).isSome then t else t.set l .directory) t

def addFile (t : FileTree) (l : Location) (bytes : List UInt8) : FileTree :=
  (t.addDirectory l.dropLast).set l (.file bytes)

def components (path : String) : List String := (path.toList.splitOn '/').map String.ofList

def start (t : FileTree) (path : String) : Location :=
  if path.startsWith "/" then [] else t.workingDirectory

/-- One step of a path from `here`, which must be a directory. -/
def step (t : FileTree) (here : Location) (name : String) : Except FileError Location :=
  match t.entry? here with
  | none => .error .notFound
  | some (.file _) | some (.unreadable _) => .error .notDirectory
  | some .directory =>
    if name = "" || name = "." then .ok here
    else if name = ".." then .ok here.dropLast
    else if 255 < name.utf8ByteSize then .error .nameTooLong
    else if (t.entry? (here ++ [name])).isSome then .ok (here ++ [name])
    else .error .notFound

def checkPath (path : String) : Except FileError Unit :=
  if path = "" then .error .notFound
  else if path.toList.contains (Char.ofNat 0) then .error .nulByte
  else if 4096 ≤ path.utf8ByteSize then .error .nameTooLong
  else .ok ()

def walk (t : FileTree) : Location → List String → Except FileError Location
  | here, [] => .ok here
  | here, name :: rest =>
    match t.step here name with
    | .ok next => t.walk next rest
    | .error e => .error e

def resolve (t : FileTree) (path : String) : Except FileError Location :=
  match checkPath path with
  | .error e => .error e
  | .ok () => t.walk (t.start path) (components path)

def has (t : FileTree) (path : String) : Bool :=
  match t.resolve path with
  | .ok _ => true
  | .error _ => false

def bytes (t : FileTree) (path : String) : Except FileError (List UInt8) :=
  match t.resolve path with
  | .error e => .error e
  | .ok l =>
    match t.entry? l with
    | some (.file bytes) => .ok bytes
    | some (.unreadable cause) => .error cause
    | some .directory => .error .isDirectory
    | none => .error .notFound

def isFile (t : FileTree) (path : String) : Bool :=
  match t.resolve path with
  | .error _ => false
  | .ok l =>
    match t.entry? l with
    | some (.file _) | some (.unreadable _) => true
    | _ => false

def text (t : FileTree) (path : String) : Except FileError String :=
  match t.bytes path with
  | .error e => .error e
  | .ok bytes =>
    match String.fromUTF8? ⟨bytes.toArray⟩ with
    | some text => .ok text
    | none => .error .invalidUtf8

/-- Puts an entry where a path leads from `here`; all that the path passes become
directories. -/
def placeFrom (t : FileTree) (here : Location) (entry : FileEntry) : List String → FileTree
  | [] => if t.entry? here = some .directory then t else t.set here entry
  | name :: rest =>
    let t := t.addDirectory here
    if name = "" || name = "." then t.placeFrom here entry rest
    else if name = ".." then t.placeFrom here.dropLast entry rest
    else t.placeFrom (here ++ [name]) entry rest

def place (t : FileTree) (path : String) (entry : FileEntry) : FileTree :=
  t.placeFrom (t.start path) entry (components path)

def makeDirectories (t : FileTree) : Location → List String → Except FileError (FileTree × Location)
  | here, [] =>
    match t.entry? here with
    | some .directory => .ok (t, here)
    | _ => .error .notDirectory
  | here, name :: rest =>
    match t.step here name with
    | .ok next => t.makeDirectories next rest
    | .error .notFound =>
      let next := here ++ [name]
      (t.set next .directory).makeDirectories next rest
    | .error e => .error e
  termination_by _ names => names.length

/-- Writes a file; missing directories above it are made, and an older file is replaced. -/
def write (t : FileTree) (path : String) (bytes : List UInt8) : Except FileError FileTree :=
  match checkPath path with
  | .error e => .error e
  | .ok () =>
    let names := components path
    match t.makeDirectories (t.start path) names.dropLast with
    | .error e => .error e
    | .ok (t, here) =>
      let name := names.getLastD ""
      if name = "" || name = "." || name = ".." then .error .isDirectory
      else if 255 < name.utf8ByteSize then .error .nameTooLong
      else match t.entry? (here ++ [name]) with
        | some .directory => .error .isDirectory
        | _ => .ok (t.set (here ++ [name]) (.file bytes))

end FileTree

end Coedit
