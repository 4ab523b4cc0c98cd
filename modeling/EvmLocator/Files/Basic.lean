/-!
# Files

What a program needs of files, over any monad: so a run can be carried out on the files of a
machine or on files in memory, and what is said of the second says what the first does.
-/

namespace EvmLocator

/-- Why a path does not serve its purpose. -/
inductive FileFault where
  | missing
  | occupied
  | isDirectory
  | notDirectory
  | denied
  deriving DecidableEq

/-- The fault as a message shows it. -/
def FileFault.message : FileFault → String
  | missing => "no such file or directory"
  | occupied => "file exists"
  | isDirectory => "is a directory"
  | notDirectory => "not a directory"
  | denied => "permission denied"

/-- The files that a run works with. -/
structure Files (m : Type → Type) where
  /-- The content of a file. -/
  read : String → m (Except FileFault (List UInt8))
  /-- Whether a path names a file. -/
  isFile : String → m Bool
  /-- Makes a directory and those above it, as far as they are missing. -/
  makeDirectories : String → m (Except FileFault Unit)
  /-- Gives a file a content, whatever it held before. -/
  write : String → List UInt8 → m (Except FileFault Unit)
  /-- Adds to the content of a file, which need not exist yet. -/
  append : String → List UInt8 → m (Except FileFault Unit)

namespace Files

/-- The path of a name in a directory: an absolute name stands alone, and an empty directory adds
nothing. -/
def join (directory name : String) : String :=
  if "/".toList.isPrefixOf name.toList then name
  else if directory.isEmpty || directory.toList.getLast? = some '/' then directory ++ name
  else directory ++ "/" ++ name

end Files

end EvmLocator
