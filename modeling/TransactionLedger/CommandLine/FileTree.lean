import TransactionLedger.Config.Search

/-!
# A directory of files

A working directory given by its files, each with a relative path and a text. It tells what can be
read there, and whether a database can be opened.
-/

namespace TransactionLedger.CommandLine

/-- The files of a working directory. -/
structure FileTree where
  files : List (String × String)
  deriving Repr

namespace FileTree

/-- The parts of a path between slashes, without those that stay in place. -/
def parts (path : String) : List String :=
  (path.splitOn "/").filter fun part => part != "" && part != "."

/-- The text of the file with these parts. -/
def file? (tree : FileTree) (path : List String) : Option String :=
  (tree.files.find? fun file => parts file.1 == path).map Prod.snd

/-- Some file lies below the path. -/
def isDirectory (tree : FileTree) (path : List String) : Bool :=
  path.isEmpty || tree.files.any fun file =>
    path.length < (parts file.1).length && (parts file.1).take path.length == path

/-- A file stands where the path needs a directory. -/
def isBlocked (tree : FileTree) (path : List String) : Bool :=
  (List.range path.length).any fun length => (tree.file? (path.take length)).isSome

/-- The text behind a path, or why there is none. The directory knows nothing of absolute paths. -/
def read (tree : FileTree) : Config.Files := fun path =>
  if path.startsWith "/" then .error Config.noSuchFile
  else if tree.isBlocked (parts path) then .error "Not a directory (os error 20)"
  else if path.isEmpty then .error Config.noSuchFile
  else
    match tree.file? (parts path) with
    | some text => .ok text
    | none =>
      .error (if tree.isDirectory (parts path) then "Is a directory (os error 21)"
        else Config.noSuchFile)

/-- A database can be opened at a path: no file stands in the way, and what stands there itself is
neither a directory nor a file with something else in it. -/
def reaches (tree : FileTree) (path : String) : Bool :=
  if path.startsWith "/" then true
  else if tree.isBlocked (parts path) || tree.isDirectory (parts path) then false
  else
    match tree.file? (parts path) with
    | some text => text.isEmpty
    | none => true

end FileTree

end TransactionLedger.CommandLine
