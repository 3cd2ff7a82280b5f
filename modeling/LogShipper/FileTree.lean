import LogShipper.Text.Quoted
import LogShipper.Text.Utf8

/-!
# Files

Files are opened by their paths.  A tree holds the files of one directory and those below it, and
paths start there.  Of what lies outside of it only the directories are known that every system has
at its root, and the null device, which is an empty file.  Every path is either that of a file or
the answer says why not.
-/

namespace LogShipper

/-- Why a path is not that of a file. -/
inductive OpenFault where
  | missing (path : Text)
  | notDirectory (path : Text)
  | isDirectory (path : Text)
  | nameTooLong (path : Text)
  | denied (path : Text)
  | hasNul
  | unencodable (fault : Utf8.EncodeFault)
  deriving DecidableEq, Repr

namespace OpenFault

/-- The text of a fault with its number. -/
def numbered (number : Nat) (reason : String) (path : Text) : Text :=
  "[Errno " ++ Integer.toText number ++ "] " ++ Text.ofString reason ++ ": " ++ Text.quoted path

def message : OpenFault → Text
  | .missing path => numbered 2 "No such file or directory" path
  | .denied path => numbered 13 "Permission denied" path
  | .notDirectory path => numbered 20 "Not a directory" path
  | .isDirectory path => numbered 21 "Is a directory" path
  | .nameTooLong path => numbered 36 "File name too long" path
  | .hasNul => "embedded null byte"
  | .unencodable fault => fault.message

end OpenFault

/-! ## 1. Bytes of paths -/

namespace Path

/-- A surrogate that stands for a byte past ASCII. -/
def isByte (c : CodePoint) : Bool :=
  0xDC80 ≤ c.value && c.value ≤ 0xDCFF

/-- The bytes of a code point in a path. -/
def bytesOf : CodePoint → Bytes
  | .char c => Utf8.encodeChar c
  | .surrogate s => [(s.val - 0x400).toUInt8]

def byteLength (t : Text) : Nat :=
  (t.flatMap bytesOf).length

/-- The first surrogates that stand for no byte. -/
def fault? (t : Text) : Option Utf8.EncodeFault :=
  match t.span fun c => !c.isSurrogate || isByte c with
  | (before, .surrogate s :: rest) =>
    some ⟨before.length, s, (rest.takeWhile CodePoint.isSurrogate).length + 1⟩
  | _ => none

/-- The most bytes that a name, and a path with its end, may have. -/
def maxNameLength : Nat := 255

def maxLength : Nat := 4095

/-- Why a path is none at all, whatever files there are. -/
def refuse? (path : Text) : Option OpenFault :=
  match fault? path with
  | some fault => some (.unencodable fault)
  | none =>
    if path.contains (.ofNat 0) then some .hasNul
    else if maxLength < byteLength path then some (.nameTooLong path)
    else none

/-- The part of a path behind its last slash. -/
def baseName (path : Text) : Text :=
  (path.reverse.takeWhile (· ≠ .char '/')).reverse

/-- A name without its extension: the last point and what follows, if more than points stand before
it. -/
def stem (name : Text) : Text :=
  match Text.cutAt? '.' name.reverse with
  | some (_, before) =>
    if before.all (· = .char '.') then name else before.reverse
  | none => name

end Path

/-! ## 2. Trees -/

structure FileTree where
  files : List (Text × Bytes) := []
  deriving DecidableEq, Repr

/-- Where a path leads: to the names on the way from the top of the tree, or from the root of the
system, or to some directory above the top of the tree. -/
inductive Place where
  | inside (names : List Text)
  | system (names : List Text)
  | above
  deriving DecidableEq, Repr

/-- The directories at the root of every system. -/
def systemDirectories : List Text := [
  "bin", "boot", "dev", "etc", "home", "lib", "media", "mnt", "opt", "proc", "root", "run", "sbin",
  "srv", "sys", "tmp", "usr", "var"]

/-- The names on the way to the null device. -/
def nullDevice : List Text := ["dev", "null"]

namespace FileTree

/-- Whether a name leads to the directory that it is used in. -/
def isHere (name : Text) : Bool :=
  name = Text.ofString "" || name = Text.ofString "."

/-- Whether a name leads to the directory above the one that it is used in. -/
def isParent (name : Text) : Bool :=
  name = Text.ofString ".."

/-- The names in a path. -/
def namesOf (path : Text) : List Text :=
  Text.splitOn '/' path

/-- The names on the way to a file of the tree. -/
def wayTo (path : Text) : List Text :=
  (namesOf path).filter fun name => !isHere name

/-- The bytes of the file at a place. -/
def bytesAt? (tree : FileTree) (names : List Text) : Option Bytes :=
  (tree.files.find? fun (path, _) => wayTo path = names).map Prod.snd

/-- Whether a place is the top of the tree or a directory on the way to some file. -/
def isDirectory (tree : FileTree) (names : List Text) : Bool :=
  names.isEmpty || tree.files.any fun (path, _) =>
    names.isPrefixOf (wayTo path) && names.length < (wayTo path).length

/-- Whether there is something at a place in the tree. -/
def holds (tree : FileTree) (names : List Text) : Bool :=
  (tree.bytesAt? names).isSome || tree.isDirectory names

/-- Goes on from a place in the tree by one name.  Nothing lies behind a file, not even an empty
name after a slash. -/
def enterInside (tree : FileTree) (path : Text) (names : List Text) (name : Text) :
    Except OpenFault Place :=
  if (tree.bytesAt? names).isSome then .error (.notDirectory path)
  else if isHere name then .ok (.inside names)
  else if isParent name then .ok (if names.isEmpty then .above else .inside names.dropLast)
  else if Path.maxNameLength < Path.byteLength name then .error (.nameTooLong path)
  else if tree.holds (names ++ [name]) then .ok (.inside (names ++ [name]))
  else .error (.missing path)

/-- Goes on from a place in the system by one name. -/
def enterSystem (path : Text) (names : List Text) (name : Text) : Except OpenFault Place :=
  if names = nullDevice then .error (.notDirectory path)
  else if isHere name then .ok (.system names)
  else if isParent name then .ok (.system names.dropLast)
  else if Path.maxNameLength < Path.byteLength name then .error (.nameTooLong path)
  else if names ++ [name] = nullDevice ∨ (names = [] ∧ name ∈ systemDirectories) then
    .ok (.system (names ++ [name]))
  else .error (.missing path)

/-- Goes on from a directory above the tree by one name. -/
def enterAbove (path name : Text) : Except OpenFault Place :=
  if isHere name || isParent name then .ok .above
  else if Path.maxNameLength < Path.byteLength name then .error (.nameTooLong path)
  else .error (.missing path)

/-- Goes on from a place by one name. -/
def enter (tree : FileTree) (path : Text) (place : Place) (name : Text) :
    Except OpenFault Place :=
  match place with
  | .inside names => tree.enterInside path names name
  | .system names => enterSystem path names name
  | .above => enterAbove path name

/-- Where a path leads. -/
def follow (tree : FileTree) (path : Text) : Except OpenFault Place :=
  let start : Place := if path.head? = some (.char '/') then .system [] else .inside []
  (namesOf path).foldlM (tree.enter path) start

/-- The bytes of the file of a path. -/
def read (tree : FileTree) (path : Text) : Except OpenFault Bytes :=
  match Path.refuse? path with
  | some fault => .error fault
  | none =>
    match tree.follow path with
    | .error fault => .error fault
    | .ok .above => .error (.isDirectory path)
    | .ok (.system names) => if names = nullDevice then .ok [] else .error (.isDirectory path)
    | .ok (.inside names) => ((tree.bytesAt? names).map .ok).getD (.error (.isDirectory path))

end FileTree

end LogShipper
