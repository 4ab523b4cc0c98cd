import EvmLocator.Files.Basic
import EvmLocator.Table
import EvmLocator.Text.Split

/-!
# Files in memory

A tree of files is kept flat: a table of contents by place, and the places of the directories.  A
place is the list of names that lead to it from the working directory, which has the empty list.

A path is followed name by name from the working directory.  An empty name and a point stay where
they are, two points go up, and each needs a directory to start from, so a path that leads through
a file or through nothing fails before its end is reached.  The end itself may name nothing.  A
path that leaves the working directory leads nowhere.
-/

namespace EvmLocator

/-- The names that lead to a file or directory. -/
abbrev Place : Type := List String

/-- Files and directories in memory. -/
structure FileTree where
  files : Table Place (List UInt8) := []
  directories : List Place := []

namespace FileTree

/-- What a place holds. -/
inductive Kind where
  | file (content : List UInt8)
  | directory
  | nothing

/-- What a place holds. -/
def kindAt (t : FileTree) (p : Place) : Kind :=
  match t.files.get? p with
  | some content => .file content
  | none => if p.isEmpty || t.directories.contains p then .directory else .nothing

/-- Whether names can be looked up at a place. -/
def enter (t : FileTree) (p : Place) : Except FileFault Unit :=
  match t.kindAt p with
  | .file _ => .error .notDirectory
  | .directory => .ok ()
  | .nothing => .error .missing

/-- The place that one name leads to. -/
def next (p : Place) (name : String) : Except FileFault Place :=
  if name.isEmpty || name = "." then .ok p
  else if name = ".." then
    if p.isEmpty then .error .missing else .ok p.dropLast
  else .ok (p ++ [name])

/-- The place that names lead to. -/
def follow (t : FileTree) (p : Place) : List String → Except FileFault Place
  | [] => .ok p
  | name :: rest => do
    t.enter p
    let q ← next p name
    t.follow q rest

/-- The names of a path. -/
def names (path : String) : List String :=
  (Text.split '/' path.toList).map String.ofList

/-- The place that a path leads to. -/
def resolve (t : FileTree) (path : String) : Except FileFault Place :=
  if path.isEmpty || "/".toList.isPrefixOf path.toList then .error .missing
  else t.follow [] (names path)

/-- The content of a file. -/
def read (t : FileTree) (path : String) : Except FileFault (List UInt8) := do
  let p ← t.resolve path
  match t.kindAt p with
  | .file content => .ok content
  | .directory => .error .isDirectory
  | .nothing => .error .missing

/-- Whether a path names a file. -/
def isFile (t : FileTree) (path : String) : Bool :=
  match t.read path with
  | .ok _ => true
  | .error _ => false

/-- Gives a file a content, whatever it held before. -/
def write (t : FileTree) (path : String) (content : List UInt8) : Except FileFault FileTree := do
  let p ← t.resolve path
  match t.kindAt p with
  | .directory => .error .isDirectory
  | _ => .ok { t with files := t.files.put p content }

/-- Adds to the content of a file, which need not exist yet. -/
def append (t : FileTree) (path : String) (content : List UInt8) : Except FileFault FileTree := do
  let p ← t.resolve path
  match t.kindAt p with
  | .directory => .error .isDirectory
  | .file old => .ok { t with files := t.files.put p (old ++ content) }
  | .nothing => .ok { t with files := t.files.put p content }

/-- Makes the directories that names lead through, as far as they are missing.  A file at the end
of the names occupies the place of the last directory. -/
def ensure (t : FileTree) (p : Place) : List String → Except FileFault FileTree
  | [] => .ok t
  | name :: rest => do
    t.enter p
    let q ← next p name
    match t.kindAt q with
    | .directory => t.ensure q rest
    | .nothing => ensure { t with directories := t.directories ++ [q] } q rest
    | .file _ => if rest.isEmpty then .error .occupied else t.ensure q rest

/-- Makes a directory and those above it, as far as they are missing. -/
def makeDirectories (t : FileTree) (path : String) : Except FileFault FileTree :=
  if path.isEmpty || "/".toList.isPrefixOf path.toList then .error .missing
  else t.ensure [] ((names path).reverse.dropWhile String.isEmpty).reverse

/-- The tree with a file and the directories above it. -/
def add (t : FileTree) (path : String) (content : List UInt8) : Except FileFault FileTree := do
  let parent := (names path).dropLast
  let t ← t.ensure [] parent
  t.write path content

/-- Carries out a change of the tree, and leaves the tree alone if it cannot be done. -/
def attempt {m : Type → Type} [Monad m] [MonadStateOf FileTree m]
    (change : FileTree → Except FileFault FileTree) : m (Except FileFault Unit) := do
  match change (← get) with
  | .ok t =>
    set t
    pure (.ok ())
  | .error f => pure (.error f)

/-- The files of a tree that a run carries along. -/
def asFiles : Files (StateM FileTree) where
  read path := do pure ((← get).read path)
  isFile path := do pure ((← get).isFile path)
  makeDirectories path := attempt fun t => t.makeDirectories path
  write path content := attempt fun t => t.write path content
  append path content := attempt fun t => t.append path content

end FileTree

end EvmLocator
