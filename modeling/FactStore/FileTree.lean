import FactStore.AccessError

/-
  This file defines the files below a working directory as a
  value: which files and directories there are, how a path
  is followed to one of them, and how files are created,
  read and written.

  Key definitions include:
    * `FilePath`
    * `FilePath.placeOf`
    * `FileTree`
    * `FileTree.follow`
    * `FileTree.read`
    * `FileTree.write`
    * `FileTree.addFile`
    * `FilePath.join`
-/

namespace FactStore

------------------------------------------------------------
-- Paths
------------------------------------------------------------

/- The names on the way from the working directory to a file. -/
abbrev FilePath := List String

namespace FilePath

/- The parts of a path's text between its slashes. -/
def parts (path : String) : List String :=
  (path.toList.splitOnP (· = '/')).map String.ofList

/- Whether a path's text starts from the root of all paths. -/
def isAbsolute (path : String) : Bool :=
  path.toList.head? = some '/'

/-
  The path of a file in a directory: a slash stands between
  them unless the directory is empty or ends in one.  A file
  named from the root of all paths is in no other directory.
-/
def join (directory file : String) : String :=
  if isAbsolute file then file
  else if directory.toList.getLast?.getD '/' = '/' then
    directory ++ file
  else
    directory ++ "/" ++ file

/- Whether a part of a path stays where it is. -/
def staysInPlace (part : String) : Bool :=
  part = "" || part = "."

/- The longest name that a directory can hold, in bytes. -/
def nameLimit : Nat := 255

/- The longest text of a path, in bytes. -/
def pathLimit : Nat := 4095

/-
  A path's text without the parts that stay where they are.
-/
def shorten (path : String) : String :=
  let kept := (parts path).filter fun part => !staysInPlace part
  let text := "/".intercalate kept
  if isAbsolute path then "/" ++ text else text

/-
  Whether a place is above every entry of a tree: the root of
  all paths, the working directory, or one that contains it.
-/
def isTop (place : FilePath) : Bool :=
  place = ["/"] || place.all (· = "..")

/- The place of the directory that contains a place. -/
def above (place : FilePath) : FilePath :=
  if place = ["/"] then place
  else if place.all (· = "..") then place ++ [".."]
  else place.dropLast

/- The place that a part of a path leads to. -/
def step
    (place : FilePath)
    (part : String) : FilePath :=
  if staysInPlace part then place
  else if part = ".." then above place
  else place ++ [part]

/-
  The parts of a path's text that can name a place: it is
  neither empty nor too long, and holds no null character.
-/
def checkedParts (path : String) : Except IoFault (List String) :=
  if '\x00' ∈ path.toList then .error .nulInPath
  else if path = "" then .error .notFound
  else if path.utf8ByteSize > pathLimit then .error .nameTooLong
  else .ok (parts path)

/- The parts before the last one that is a name. -/
def partsAbove (names : List String) : List String :=
  ((names.reverse.dropWhile (· = "")).drop 1).reverse

/- The path of the directory that a path's last name is in. -/
def directoryOf (path : String) : String :=
  "/".intercalate (partsAbove (parts path))

/-
  The place where the parts of a path's text start: a directory
  unless they start from the root of all paths.
-/
def originIn
    (directory : FilePath)
    (path : String) : FilePath :=
  if isAbsolute path then ["/"] else directory

/- The place where the parts start from the working directory. -/
def origin (path : String) : FilePath :=
  originIn [] path

/- The directory so many steps above the working directory. -/
def ancestor (up : Nat) : FilePath :=
  List.replicate up ".."

/- The place of a path's text, whether or not it is there. -/
def placeOf (path : String) : FilePath :=
  (parts path).foldl step (origin path)

/- The path's text of a place. -/
def textOf : FilePath → String
| "/" :: names => "/" ++ "/".intercalate names
| [] => "."
| names => "/".intercalate names

end FilePath

------------------------------------------------------------
-- File Trees
------------------------------------------------------------

/-
  The files with their contents, and the directories.  Those
  above all entries, such as the working directory, need none
  themselves.
-/
structure FileTree where
  files : List (FilePath × ByteArray)
  directories : List FilePath

/- What a path leads to. -/
inductive FileNode where
| file (content : ByteArray)
| directory
| missing

namespace FileTree

/- The tree without files and directories. -/
def empty : FileTree :=
  ⟨[], []⟩

instance : Inhabited FileTree := ⟨empty⟩

/- What stands at a place of the tree. -/
def node
    (tree : FileTree)
    (place : FilePath) : FileNode :=
  match tree.files.lookup place with
  | some content => .file content
  | none =>
      if FilePath.isTop place ∨ place ∈ tree.directories then
        .directory
      else .missing

/-
  Follow the parts of a path from a directory.  Every part
  but the last must lead to a directory; the answer is the
  place that the last one names.
-/
def follow
    (tree : FileTree)
    (place : FilePath) :
    List String → Except IoFault FilePath
| [] => .ok place
| part :: rest =>
    match tree.node place with
    | .file _ => .error .notDirectory
    | .missing => .error .notFound
    | .directory =>
        if part.utf8ByteSize > FilePath.nameLimit then
          .error .nameTooLong
        else
          follow tree (FilePath.step place part) rest

------------------------------------------------------------
-- Reading
------------------------------------------------------------

/- The content of the file that a path names from a directory. -/
def readFrom
    (tree : FileTree)
    (directory : FilePath)
    (path : String) : Except IoFault ByteArray := do
  let parts ← FilePath.checkedParts path
  let place ←
    tree.follow (FilePath.originIn directory path) parts
  match tree.node place with
  | .file content => return content
  | .directory => throw .isDirectory
  | .missing => throw .notFound

/- The content of the file that a path names. -/
def read
    (tree : FileTree)
    (path : String) : Except IoFault ByteArray :=
  tree.readFrom [] path

------------------------------------------------------------
-- Writing
------------------------------------------------------------

/- Put a file at a place, instead of one that is there. -/
def put
    (tree : FileTree)
    (place : FilePath)
    (content : ByteArray) : FileTree :=
  { tree with
    files :=
      (place, content) ::
        tree.files.filter fun file => file.1 ≠ place }

/-
  The place at which a file can be created: the parts before
  the last one lead to a directory, and the last one neither
  names a directory nor ends in a slash.  A slash is seen
  before the last part is looked up.
-/
def creatable
    (tree : FileTree)
    (path : String) : Except IoFault FilePath := do
  let parts ← FilePath.checkedParts path
  let origin := FilePath.origin path
  if path.toList.getLast? = some '/' then
    let _ ← tree.follow origin (FilePath.partsAbove parts ++ ["."])
    throw .isDirectory
  let place ← tree.follow origin parts
  match tree.node place with
  | .directory => throw .isDirectory
  | _ => return place

/- Create a file, or replace its content. -/
def write
    (tree : FileTree)
    (path : String)
    (content : ByteArray) : Except IoFault FileTree :=
  (tree.creatable path).map fun place => tree.put place content

/-
  Add directories: every place that the parts of a path lead
  through on the way from a directory, also one that later
  parts leave again.
-/
def addDirectories
    (tree : FileTree)
    (place : FilePath) : List String → FileTree
| [] => tree
| part :: rest =>
    let next := FilePath.step place part
    let known := tree.directories
    let directories :=
      if next ∈ known then known else known ++ [next]
    addDirectories ⟨tree.files, directories⟩ next rest

/- Add the directory that a path names and those before it. -/
def addDirectory
    (tree : FileTree)
    (path : String) : FileTree :=
  tree.addDirectories (FilePath.origin path) (FilePath.parts path)

/- Add a file and the directories on the way to it. -/
def addFile
    (tree : FileTree)
    (path : String)
    (content : ByteArray) : FileTree :=
  let above := FilePath.partsAbove (FilePath.parts path)
  (tree.addDirectories (FilePath.origin path) above).put
    (FilePath.placeOf path) content

end FileTree

end FactStore
