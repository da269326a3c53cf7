/-
# ProgramSearch.FileTree -- directories in memory

A directory tree given by its contents, as an operating system would answer reads of it. The
directory stands somewhere below the root of a file system that holds nothing else. Names are
separated by slashes, the directories on the way to a file are there with it, a dot stands for the
directory itself and two dots for the one above. Nothing is known of the place where paths begin
that do not begin at the root.
-/

import ProgramSearch.Error

namespace ProgramSearch

/-- The names that a path leads through; a dot leads nowhere. -/
def Path.names (path : String) : List String :=
  (path.splitOn "/").filter fun name => name ≠ "" && name ≠ "."

/-- What is at a path: a directory, or a file with the bytes it holds. -/
inductive FileTree.Node where
  | directory
  | file (bytes : ByteArray)

/-- A directory with everything below it. -/
structure FileTree where
  /-- The names on the way from the root to the directory. -/
  location : List String
  /-- What is below the directory, by the names on the way to it. -/
  entries : List (List String × FileTree.Node)

namespace FileTree

/-- The most bytes that a name can have. -/
def longestName : Nat := 255

/-- The most bytes that a path can have: with the zero at its end it takes up to 4096. -/
def longestPath : Nat := 4095

/-- What is at a place below the directory. -/
def nodeBelow? (tree : FileTree) (below : List String) : Option Node :=
  match tree.entries.find? (·.1 = below) with
  | some (_, node) => some node
  | none =>
    if tree.entries.any fun (name, _) => below.isPrefixOf name then some .directory else none

/-- What is at the place that names lead to from the root. -/
def node? (tree : FileTree) (place : List String) : Option Node :=
  if place.isPrefixOf tree.location then some .directory
  else if tree.location.isPrefixOf place then tree.nodeBelow? (place.drop tree.location.length)
  else none

/-- Goes down by names from a place that is a directory; `none` is a place of which nothing is
known. -/
def resolve (tree : FileTree) (place : Option (List String)) :
    List String → Except FileFault Node
  | [] => return .directory
  | ".." :: rest => tree.resolve (place.map List.dropLast) rest
  | name :: rest =>
    let place := place.map (· ++ [name])
    if name.utf8ByteSize > longestName then throw .nameTooLong
    else match place.bind tree.node? with
      | none => throw .notFound
      | some .directory => tree.resolve place rest
      | some (.file bytes) => if rest.isEmpty then return .file bytes else throw .notDirectory

/-- The text of the file at a path. A path that is too long is refused as written, whatever its
names lead to. -/
def read (tree : FileTree) (path : String) : Except FileFault String := do
  if path.contains '\x00' then throw .zeroInName
  if path.isEmpty then throw .notFound
  if path.utf8ByteSize > longestPath then throw .nameTooLong
  let start := if path.startsWith "/" then some [] else none
  match ← tree.resolve start (Path.names path) with
  | .directory => throw .isDirectory
  | .file bytes =>
    if path.endsWith "/" || path.endsWith "/." then throw .notDirectory
    match String.fromUTF8? bytes with
    | some text => return text
    | none => throw .notText

end FileTree

end ProgramSearch
