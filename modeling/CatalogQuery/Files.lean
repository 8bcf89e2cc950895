/-! # Text files

The files that a program reads, as a function from paths to texts, and the reasons why a file cannot
be read. A directory tree that is given as a whole is such a function as well.

Main definitions: `Files`, `ReadError` and `FileTree.files`.
-/

namespace CatalogQuery

/-! ## Files -/

/-- Why a file cannot be read. -/
inductive ReadError where
  | notFound
  /-- The path leads through a file. -/
  | notADirectory
  | isADirectory
  /-- The bytes of the file are not UTF-8. -/
  | notText
  /-- The path is longer than paths can be, or a name in it is longer than names can be. -/
  | nameTooLong
  /-- The null character stands in the path. -/
  | nullInPath
  | other (reason : String)
  deriving DecidableEq, Repr

def ReadError.message : ReadError → String
  | .notFound => "No such file or directory (os error 2)"
  | .notADirectory => "Not a directory (os error 20)"
  | .isADirectory => "Is a directory (os error 21)"
  | .notText => "stream did not contain valid UTF-8"
  | .nameTooLong => "File name too long (os error 36)"
  | .nullInPath => "file name contained an unexpected NUL byte"
  | .other reason => reason

/-- What reading the file at each path gives. -/
abbrev Files := String → Except ReadError String

/-- There is a file or a directory at the path. -/
def Files.has (files : Files) (path : String) : Bool :=
  match files path with
  | .error .notFound | .error .notADirectory | .error .nameTooLong | .error .nullInPath => false
  | _ => true

def textOfBytes (bytes : ByteArray) : Except ReadError String :=
  match String.fromUTF8? bytes with
  | some text => .ok text
  | none => .error .notText

/-! ## Directory trees -/

/-- A file, or a directory with named files and directories in it. -/
inductive FileTree where
  | file (bytes : ByteArray)
  | directory (entries : List (String × FileTree))

namespace FileTree

def child? (name : String) : List (String × FileTree) → Option FileTree
  | [] => none
  | (other, tree) :: entries => if name = other then some tree else child? name entries

/-- Puts a file or a directory at a path, in the directories on the way there. A directory that is
there already stays as it is. -/
def put (new : FileTree) : List String → FileTree → FileTree
  | [], old => match new, old with
    | .directory [], .directory entries => .directory entries
    | _, _ => new
  | name :: path, old =>
    let entries := match old with
      | .directory entries => entries
      | .file _ => []
    let inside := put new path ((child? name entries).getD (.directory []))
    .directory ((name, inside) :: entries.filter fun (other, _) => other != name)

/-- The greatest length of a name, in bytes. -/
def nameLimit : Nat := 255

/-- The greatest length of a path, in bytes. -/
def pathLimit : Nat := 4095

/-- Follows a path from a directory, which stands in the directories `above`. The parts `""` and `.`
stay where they are, and `..` goes up. Nothing is known of what stands above the tree. -/
def follow (above : List FileTree) (tree : FileTree) : List String → Except ReadError FileTree
  | [] => .ok tree
  | part :: path => match tree with
    | .file _ => .error .notADirectory
    | .directory entries =>
      if part = "" ∨ part = "." then follow above tree path
      else if part = ".." then match above with
        | [] => follow [] (.directory []) path
        | parent :: above => follow above parent path
      else if nameLimit < part.utf8ByteSize then .error .nameTooLong
      else match child? part entries with
        | some inside => follow (tree :: above) inside path
        | none => .error .notFound

/-- What is at the root of every file system. One file there is always empty. -/
def systemRoot : FileTree :=
  .directory
    [("dev", .directory [("null", .file ByteArray.empty)]), ("etc", .directory []),
      ("tmp", .directory [])]

/-- The files of a tree. A path starts at its root, or else, behind a slash, at the root of the file
system. -/
def files (tree : FileTree) : Files := fun path =>
  if path.toList.contains '\x00' then .error .nullInPath
  else if pathLimit < path.utf8ByteSize then .error .nameTooLong
  else do
    match ← follow [] (if path.startsWith "/" then systemRoot else tree) (path.splitOn "/") with
    | .file bytes => textOfBytes bytes
    | .directory _ => throw .isADirectory

end FileTree

end CatalogQuery
