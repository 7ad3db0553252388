/-
# RecordQuery.Command.Files -- files by their paths, and why one cannot be read

A path is walked from left to right through a tree of directories.  `FileTree.open?`
gives the content of the file at the end of it, or the first failure on the way.
Content is bytes; text has to be UTF-8.
-/

namespace RecordQuery

set_option autoImplicit false

/-- Why input could not be read.  The other failures are told by the system. -/
inductive ReadFailure where
  | notFound
  | notDirectory
  | isDirectory
  | nameTooLong
  | notUtf8
  | other (message : String)
deriving DecidableEq

namespace ReadFailure

/-- The message in the words of the system. -/
def message : ReadFailure → String
  | .notFound => "No such file or directory (os error 2)"
  | .notDirectory => "Not a directory (os error 20)"
  | .isDirectory => "Is a directory (os error 21)"
  | .nameTooLong => "File name too long (os error 36)"
  | .notUtf8 => "stream did not contain valid UTF-8"
  | .other message => message

end ReadFailure

/-- The text of input. -/
def decodeInput (bytes : ByteArray) : Except ReadFailure String :=
  match String.fromUTF8? bytes with
  | some text => .ok text
  | none => .error .notUtf8

/-- A file, or a directory with the names in it. -/
inductive FileTree where
  | file (content : ByteArray)
  | directory (entries : List (String × FileTree))

namespace FileTree

/-- The most bytes that a path may have, its end mark included. -/
def pathLimit : Nat := 4096

/-- The most bytes that a name may have. -/
def nameLimit : Nat := 255

/-- The directory or file of this name. -/
def child? (name : String) : FileTree → Except ReadFailure FileTree
  | .file _ => .error .notDirectory
  | .directory entries =>
    if nameLimit < name.utf8ByteSize then .error .nameTooLong
    else
      match entries.lookup name with
      | some t => .ok t
      | none => .error .notFound

/-- Walks on from the first of the trees, the others being the directories around it, the
innermost first.  An empty name stands between slashes that follow one another. -/
def walk : List FileTree → List String → Except ReadFailure FileTree
  | [], _ => .error .notFound
  | here :: _, [] => .ok here
  | .file _ :: _, _ :: _ => .error .notDirectory
  | .directory entries :: around, name :: rest =>
    if name = "" ∨ name = "." then walk (.directory entries :: around) rest
    else if name = ".." then
      match around with
      | [] => walk [.directory entries] rest
      | outer => walk outer rest
    else
      match child? name (.directory entries) with
      | .ok t => walk (t :: .directory entries :: around) rest
      | .error failure => .error failure

/-- The names of a path.  One that begins with a slash has an empty name in front. -/
def names (path : String) : List String :=
  (path.toList.splitOn '/').map String.ofList

/-- The tree at the end of a path; `around` are the directories from the working directory outwards
and `root` is the outermost. -/
def find? (root : FileTree) (around : List FileTree) (path : String) :
    Except ReadFailure FileTree :=
  if pathLimit ≤ path.utf8ByteSize then .error .nameTooLong
  else
    match names path with
    | "" :: rest => walk [root] rest
    | relative => walk around relative

/-- The content of the file at the end of a path. -/
def open? (root : FileTree) (around : List FileTree) (path : String) :
    Except ReadFailure ByteArray :=
  match find? root around path with
  | .ok (.file content) => .ok content
  | .ok (.directory _) => .error .isDirectory
  | .error failure => .error failure

end FileTree

end RecordQuery
