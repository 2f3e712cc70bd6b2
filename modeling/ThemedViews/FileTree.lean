import ThemedViews.Path

/-!
# A tree of files

All files and directories are known by the names that lead to them from the root. An absolute path begins at the
root, any other one at the working directory. A path is walked component by component: all but the last must name
directories, and two dots lead to the directory above, which for the root is the root itself.
-/

namespace ThemedViews

/-- Why a file cannot be read. -/
inductive IoCause where
  | notFound
  | notADirectory
  | isADirectory
  | nameTooLong
  | nulByte
  | notUtf8
  | other (message : String)
  deriving Repr, DecidableEq

def IoCause.message : IoCause → String
  | notFound => "No such file or directory (os error 2)"
  | notADirectory => "Not a directory (os error 20)"
  | isADirectory => "Is a directory (os error 21)"
  | nameTooLong => "File name too long (os error 36)"
  | nulByte => "file name contained an unexpected NUL byte"
  | notUtf8 => "stream did not contain valid UTF-8"
  | other message => message

/-- A directory, or a file with its bytes. -/
inductive FileNode where
  | directory
  | file (bytes : ByteArray)

/-- All files and directories, by the names that lead to them, and those that lead to the working directory. -/
structure FileTree where
  current : List Text
  nodes : List (List Text × FileNode)

namespace FileTree

inductive Place where
  | inside (names : List Text)
  | file (bytes : ByteArray)

/-- The most bytes that a name may have. -/
def longestName : Nat :=
  255

/-- The number of bytes that a path stays below. -/
def longestPath : Nat :=
  4096

def step (tree : FileTree) (place : Place) (name : Text) : Except IoCause Place :=
  match place with
  | .file _ => throw .notADirectory
  | .inside names =>
      if name = [] || name = ['.'] then pure (.inside names)
      else if name = ['.', '.'] then pure (.inside names.dropLast)
      else if longestName < name.byteSize then throw .nameTooLong
      else
        match tree.nodes.lookup (names ++ [name]) with
        | some .directory => pure (.inside (names ++ [name]))
        | some (.file bytes) => pure (.file bytes)
        | none => throw .notFound

/-- The names that lead to where a path begins. -/
def base (tree : FileTree) (path : Path) : List Text :=
  if path.isAbsolute then [] else tree.current

/-- Where a path leads. -/
def find (tree : FileTree) (path : Path) : Except IoCause Place := do
  let text : Text := path.text.toList
  if '\x00' ∈ text then throw .nulByte
  else if text.isEmpty then throw .notFound
  else if longestPath ≤ text.byteSize then throw .nameTooLong
  else (text.splitOn '/').foldlM tree.step (.inside (tree.base path))

/-- Whether there is anything at a path. -/
def exists? (tree : FileTree) (path : Path) : Bool :=
  (tree.find path).toBool

def isFile (tree : FileTree) (path : Path) : Bool :=
  match tree.find path with
  | .ok (.file _) => true
  | _ => false

/-- The text of a file. -/
def read (tree : FileTree) (path : Path) : Except IoCause String :=
  match tree.find path with
  | .ok (.file bytes) =>
      match String.fromUTF8? bytes with
      | some content => pure content
      | none => throw .notUtf8
  | .ok _ => throw .isADirectory
  | .error cause => throw cause

/-- The names that lead to a path, dots resolved. -/
def namesOf (tree : FileTree) (path : Path) : List Text :=
  path.components.foldl
    (fun names component =>
      match component with
      | .normal name => names ++ [name]
      | .parent => names.dropLast
      | _ => names)
    (tree.base path)

/-- A new node, or another one in the place of an old one. -/
def put (names : List Text) (node : FileNode) (tree : FileTree) : FileTree :=
  { tree with nodes := (names, node) :: tree.nodes.filter fun entry => entry.1 ≠ names }

/-- The directories that names lead to from the directory `above`, all the way down. -/
def makeDirectoriesIn (above : List Text) : List Text → FileTree → FileTree
  | [], tree => tree
  | name :: rest, tree =>
      let names := above ++ [name]
      let made := if (tree.nodes.lookup names).isSome then tree else tree.put names .directory
      makeDirectoriesIn names rest made

/-- A directory, and all directories above it. -/
def makeDirectories (names : List Text) (tree : FileTree) : FileTree :=
  makeDirectoriesIn [] names tree

/-- No files, in a working directory that names lead to from the root. -/
def under (names : List Text) : FileTree :=
  makeDirectories names ⟨names, []⟩

/-- No files, in the root. -/
def empty : FileTree :=
  under []

/-- A directory at a path. -/
def makeDirectory (path : Path) (tree : FileTree) : FileTree :=
  tree.makeDirectories (tree.namesOf path)

/-- A file at a path; the directories above it are made. -/
def write (path : Path) (bytes : ByteArray) (tree : FileTree) : FileTree :=
  let names := tree.namesOf path
  (tree.makeDirectories names.dropLast).put names (.file bytes)

/-- No file at a path. -/
def remove (path : Path) (tree : FileTree) : FileTree :=
  let names := tree.namesOf path
  match tree.nodes.lookup names with
  | some (.file _) => { tree with nodes := tree.nodes.filter fun entry => entry.1 ≠ names }
  | _ => tree

end FileTree

end ThemedViews
