import Chip8.Error
import Chip8.File.Path

/-!
# File trees

A file tree is a directory with files and directories below it.  A path is
followed part by part from there.  What lies outside of the tree is not known,
and so no name is found there; a name that is too long is refused everywhere.
-/

namespace Chip8

/-- What a path can lead to. -/
inductive FileNode where
  /-- A file and its bytes. -/
  | file (contents : List UInt8)
  /-- A directory. -/
  | directory
  deriving DecidableEq

/-- Files and directories, each by the names that lead to it. -/
structure FileTree where
  /-- The entries, a later one taking the place of an earlier one. -/
  entries : List (List FileName × FileNode)
  deriving DecidableEq

namespace FileTree

/-- The longest name that a directory holds, in bytes. -/
def nameLimit : Nat := 255

/-- The length from which on a path is too long, in bytes. -/
def pathLimit : Nat := 4096

/-- Where one step of a path leads from a place below the top, if not above. -/
def descend? (names : List FileName) (step : FileName) :
    Option (List FileName) :=
  if step == Path.upward then
    match names with
    | [] => none
    | _ :: above => some above
  else some (step :: names)

/--
The entries that come with a node at the end of some steps: each place on the
way is a directory, also one that the path leaves again.  The names of a place
are given with the last one first.
-/
def entriesAlong (node : FileNode) (names : List FileName) :
    List FileName → List (List FileName × FileNode)
  | [] => []
  | step :: rest =>
      match descend? names step with
      | none => []
      | some next =>
          (next.reverse, if rest.isEmpty then node else .directory) ::
            entriesAlong node next rest

/--
The tree with one more entry; the directories on its way come with it.  What
would stand above the tree is left out.
-/
def add (tree : FileTree) (path : Path) (node : FileNode) : FileTree :=
  if path.isAbsolute then tree
  else ⟨tree.entries ++ entriesAlong node [] path.steps⟩

/-- What some names lead to from the top of the tree. -/
def node? (tree : FileTree) (names : List FileName) : Option FileNode :=
  if names.isEmpty then some .directory
  else tree.entries.reverse.lookup names

/-- A place that was reached on the way along a path. -/
inductive Place where
  /-- The names that lead to the place, the last one first. -/
  | inside (names : List FileName)
  /-- Some place above the tree. -/
  | outside
  deriving DecidableEq

/-- Follow one part of a path from a place that has to be a directory. -/
def enter (tree : FileTree) (place : Place) (part : FileName) :
    Except IoError Place :=
  match place with
  | .outside =>
      if part.isEmpty || part == [Path.dot] || part == Path.upward then
        .ok .outside
      else if nameLimit < part.length then .error .nameTooLong
      else .error .notFound
  | .inside names =>
      match tree.node? names.reverse with
      | none => .error .notFound
      | some (.file _) => .error .notDirectory
      | some .directory =>
          if part.isEmpty || part == [Path.dot] then .ok place
          else if part == Path.upward then
            match names with
            | [] => .ok .outside
            | _ :: above => .ok (.inside above)
          else if nameLimit < part.length then .error .nameTooLong
          else if (tree.node? (part :: names).reverse).isNone then
            .error .notFound
          else .ok (.inside (part :: names))

/-- Follow the parts of a path one after another. -/
def follow (tree : FileTree) (place : Place) :
    List FileName → Except IoError Place
  | [] => .ok place
  | part :: rest =>
      match tree.enter place part with
      | .ok next => tree.follow next rest
      | .error error => .error error

/-- Where a path starts: a leading slash leads above the tree. -/
def origin (path : Path) : Place :=
  if path.isAbsolute then .outside else .inside []

/-- The bytes of the file that a path leads to. -/
def read (tree : FileTree) (path : Path) : Except IoError (List UInt8) :=
  if path.bytes.contains 0 then .error .nulInName
  else if pathLimit ≤ path.bytes.length then .error .nameTooLong
  else if path.bytes.isEmpty then .error .notFound
  else
    match tree.follow (origin path) path.parts with
    | .error error => .error error
    | .ok .outside => .error .isDirectory
    | .ok (.inside names) =>
        match tree.node? names.reverse with
        | none => .error .notFound
        | some .directory => .error .isDirectory
        | some (.file contents) => .ok contents

end FileTree

end Chip8
