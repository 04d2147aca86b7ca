import Countinghouse.Configuration.Basic

/-!
# Simulated files

A `FileTree` holds the files under one directory, the one the program was started in. A
directory is there when it was made or when something is in it.
-/

namespace Countinghouse

/-- The names that lead to a file or a directory. -/
abbrev FilePlace := List String

/-- The names in a path. A single dot stays where it is. -/
def FilePlace.ofText (path : String) : FilePlace :=
  ((path.toList.splitOn '/').map String.ofList).filter fun name => name != "" && name != "."

/-- The files under a directory. -/
structure FileTree where
  directories : List FilePlace
  files : List (FilePlace × String)

namespace FileTree

/-- Whether something is a directory. -/
def isDirectory (tree : FileTree) (path : FilePlace) : Bool :=
  path.isEmpty || tree.directories.any path.isPrefixOf
    || tree.files.any fun file => file.1 != path && path.isPrefixOf file.1

/-- The longest name, in bytes. -/
def longestName : Nat := 255

/-- Where a path leads to. Two dots lead back, out of a directory. -/
def resolve (tree : FileTree) : FilePlace → FilePlace → Except FileFault FilePlace
  | place, [] => .ok place
  | place, name :: rest =>
    if !tree.isDirectory place then
      .error (if (tree.files.lookup place).isSome then .underFile else .missing)
    else if name == ".." then tree.resolve place.dropLast rest
    else if longestName < name.utf8ByteSize then .error .nameTooLong
    else tree.resolve (place ++ [name]) rest

/-- The text of a file. -/
def read (tree : FileTree) (path : String) : Except FileFault String := do
  let place ← tree.resolve [] (.ofText path)
  match tree.files.lookup place with
  | some text => return text
  | none => throw (if tree.isDirectory place then .directory else .missing)

/-- The tree with more text at the end of a file, which is made where it is missing. -/
def append (tree : FileTree) (path text : String) : FileTree :=
  let place := FilePlace.ofText path
  let before := (tree.files.lookup place).getD ""
  { tree with files := tree.files.filter (·.1 != place) ++ [(place, before ++ text)] }

/-- The files right in a directory, by name. -/
def filesIn (tree : FileTree) (path : String) : List (String × String) :=
  let place := FilePlace.ofText path
  tree.files.filterMap fun (file, text) =>
    if file.dropLast = place then file.getLast?.map fun name => (name, text) else none

end FileTree

end Countinghouse
