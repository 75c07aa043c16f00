import SqlWorkload.Files.WorkloadFiles
import SqlWorkload.Text.Pieces
/-!
# File trees

Directories and files below a working directory, as far as a program that reads and creates files
by path can see them. A path is followed name by name from the working directory, or from the root
of the system if it begins with a slash. Above the working directory there are directories too, but
of the system only what every system has is there, and none of that can be written.
-/

namespace SqlWorkload

structure FileTree where
  /-- Each file by the names on the way to it. -/
  files : List (List String × ByteArray) := []
  directories : List (List String) := []

inductive ReadFailure where
  | notFound
  | notDirectory
  | isDirectory
  | nameTooLong
  | notText
deriving DecidableEq, Repr

/-- A failure that an operating system tells of by a number and in words. -/
def systemDetail (code kind message : String) : String :=
  "Os \x7b code: " ++ code ++ ", kind: " ++ kind ++ ", message: \"" ++ message ++ "\" \x7d"

def ReadFailure.detail : ReadFailure → String
  | notFound => systemDetail "2" "NotFound" "No such file or directory"
  | notDirectory => systemDetail "20" "NotADirectory" "Not a directory"
  | isDirectory => systemDetail "21" "IsADirectory" "Is a directory"
  | nameTooLong => systemDetail "36" "InvalidFilename" "File name too long"
  | notText => "Error \x7b kind: InvalidData, message: \"stream did not contain valid UTF-8\" \x7d"

/-- The text that the bytes of a file stand for. -/
def fileText (bytes : ByteArray) : Except ReadFailure String :=
  match String.fromUTF8? bytes with
  | some s => .ok s
  | none => .error .notText

namespace Path

/-- The path of a file in a directory; an absolute path stands for itself. -/
def join (directory name : String) : String :=
  if name.toList.head? = some '/' ∨ directory = "" then name
  else if directory.toList.getLast? = some '/' then directory ++ name
  else directory ++ "/" ++ name

end Path

namespace FileTree

/-- The greatest size of a name, in bytes. -/
def longestName : Nat := 255

/-- The greatest size of a path, in bytes. -/
def longestPath : Nat := 4095

def hasDirectory (t : FileTree) (names : List String) : Bool :=
  names = [] || t.directories.contains names ||
    t.files.any fun (file, _) => names.isPrefixOf file && names.length < file.length

def file? (t : FileTree) (names : List String) : Option ByteArray := t.files.lookup names

/-- A place on the way along a path. -/
inductive Place where
  /-- By the names that lead there from the working directory. -/
  | inside (names : List String)
  /-- A directory above the working directory. -/
  | above
  /-- By the names that lead there from the root of the system. -/
  | system (names : List String)
deriving DecidableEq, Repr

/-- The directories that every system has. -/
def systemDirectories : List (List String) :=
  [[], ["bin"], ["dev"], ["etc"], ["lib"], ["tmp"], ["usr"], ["var"]]

def isDirectory (t : FileTree) : Place → Bool
  | .inside names => t.hasDirectory names
  | .above => true
  | .system names => systemDirectories.contains names

/-- What the file at a place holds; the null device is an empty file. -/
def bytes? (t : FileTree) : Place → Option ByteArray
  | .inside names => t.file? names
  | .above => none
  | .system names => if names = ["dev", "null"] then some .empty else none

/-- The place of the directory that a place is in. The root is in itself. -/
def Place.parent : Place → Place
  | .inside [] => .above
  | .inside names => .inside names.dropLast
  | .above => .above
  | .system names => .system names.dropLast

/-- The place that one more name leads to from `here`, which has to be a directory. -/
def step (t : FileTree) (here : Place) (name : List Char) : Except ReadFailure Place :=
  let name := String.ofList name
  if !t.isDirectory here then
    .error (if (t.bytes? here).isSome then .notDirectory else .notFound)
  else if name = "" ∨ name = "." then .ok here
  else if name = ".." then .ok here.parent
  else if longestName < name.utf8ByteSize then .error .nameTooLong
  else
    match here with
    | .inside names => .ok (.inside (names ++ [name]))
    | .above => .error .notFound
    | .system names => .ok (.system (names ++ [name]))

/-- The place of a path, whose last name need not be there. -/
def place (t : FileTree) (path : String) : Except ReadFailure Place :=
  if longestPath < path.utf8ByteSize then .error .nameTooLong
  else if path = "" ∨ path.toList.contains '\x00' then .error .notFound
  else
    let start := if path.toList.head? = some '/' then Place.system [] else .inside []
    (Text.pieces (· == '/') path.toList).foldlM t.step start

/-- The bytes of the file at a path. -/
def readBytes (t : FileTree) (path : String) : Except ReadFailure ByteArray := do
  let here ← t.place path
  match t.bytes? here with
  | some bytes => return bytes
  | none => throw (if t.isDirectory here then .isDirectory else .notFound)

/-- The text of the file at a path. -/
def readText (t : FileTree) (path : String) : Except ReadFailure String := do
  fileText (← t.readBytes path)

/-- Whether a file can be created at a path, in place of an earlier one. -/
def canCreate (t : FileTree) (path : String) : Bool :=
  match t.place path with
  | .ok (.inside names) => !t.hasDirectory names && t.hasDirectory names.dropLast
  | _ => false

end FileTree

/-- The files of a workload of that name in a directory, if they can be created. -/
def WorkloadFiles.create? (t : FileTree) (directory name : String) : Option WorkloadFiles :=
  let sqlPath := Path.join directory (name ++ ".sql")
  let csvPath := Path.join directory (name ++ ".csv")
  if t.canCreate sqlPath && t.canCreate csvPath then some { sqlPath, csvPath } else none

end SqlWorkload
