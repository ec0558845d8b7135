/-!
# Files

What a run can look at: the files it names and the standard input. A `FileTree` is a directory held
as data, in which paths are followed one segment after the other.
-/

namespace Clausal

/-- Why a file cannot be read as text. -/
inductive FileFault where
  | notFound
  | notDirectory
  | isDirectory
  | nameTooLong
  | nulInName
  | notText
  | other (message : String)
  deriving DecidableEq, Repr

namespace FileFault

def message : FileFault → String
  | notFound => "No such file or directory (os error 2)"
  | notDirectory => "Not a directory (os error 20)"
  | isDirectory => "Is a directory (os error 21)"
  | nameTooLong => "File name too long (os error 36)"
  | nulInName => "file name contained an unexpected NUL byte"
  | notText => "stream did not contain valid UTF-8"
  | other message => message

end FileFault

abbrev FileRead := Except FileFault String

/-- The surroundings of a run. What is at a path need not be a file that can be read. -/
structure World where
  isThere : String → Bool
  file : String → FileRead
  stdin : FileRead

/-- The text of bytes in UTF-8. -/
def decodeText (bytes : ByteArray) : FileRead :=
  match String.fromUTF8? bytes with
  | some text => .ok text
  | none => .error .notText

/-! ## Directories as data -/

/-- What stands at the paths of a directory; `none` marks a directory. A path is given by its
segments, and the directories above a file are there with it. -/
structure FileTree where
  entries : List (List String × Option ByteArray)

namespace FileTree

def segments (path : String) : List String :=
  path.splitOn "/"

/-- The tree of entries with paths as texts. -/
def ofPaths (entries : List (String × Option ByteArray)) : FileTree :=
  ⟨entries.map fun entry => ((segments entry.1).filter fun s => s != "" && s != ".", entry.2)⟩

def contents? (t : FileTree) (place : List String) : Option ByteArray :=
  t.entries.findSome? fun entry => if entry.1 = place then entry.2 else none

def hasDirectory (t : FileTree) (place : List String) : Bool :=
  t.entries.any fun entry =>
    (entry.1 == place && entry.2.isNone) || (place.isPrefixOf entry.1 && entry.1 != place)

/-- The longest segment of a path, in bytes. -/
def segmentLimit : Nat := 255

/-- The longest path, in bytes. -/
def pathLimit : Nat := 4095

/-- Follow segments from a directory of the tree to what is there. Going up from its root leaves the
tree; nothing but directories is found there. -/
def follow (t : FileTree) :
    Option (List String) → List String → Except FileFault (Option ByteArray)
  | _, [] => .ok none
  | place, segment :: rest =>
    if segment = "" ∨ segment = "." then t.follow place rest
    else
      match place with
      -- Above the root of the tree.
      | none => if segment = ".." then t.follow none rest else .error .notFound
      | some place =>
        if segment = ".." then
          t.follow (if place.isEmpty then none else some place.dropLast) rest
        else if segmentLimit < segment.utf8ByteSize then .error .nameTooLong
        else
          match t.contents? (place ++ [segment]) with
          | some bytes => if rest.isEmpty then .ok (some bytes) else .error .notDirectory
          | none =>
            if t.hasDirectory (place ++ [segment]) then t.follow (some (place ++ [segment])) rest
            else .error .notFound

/-- What is at a path. -/
def locate (t : FileTree) (path : String) : Except FileFault (Option ByteArray) :=
  if path = "" then .error .notFound
  else if path.toList.contains '\x00' then .error .nulInName
  else if pathLimit < path.utf8ByteSize then .error .nameTooLong
  else
    match segments path with
    | "" :: rest => t.follow none rest
    | rest => t.follow (some []) rest

def isThere (t : FileTree) (path : String) : Bool :=
  (t.locate path).isOk

/-- The text of the file at a path. -/
def read (t : FileTree) (path : String) : FileRead :=
  match t.locate path with
  | .ok (some bytes) => decodeText bytes
  | .ok none => .error .isDirectory
  | .error fault => .error fault

end FileTree

end Clausal
