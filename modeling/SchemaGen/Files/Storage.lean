import SchemaGen.Path

namespace SchemaGen

/-- Why something cannot be done with a file. A failure to make a new file can tell at which path. -/
inductive FileError where
  | notFound
  | isDirectory
  | notDirectory
  | alreadyExists
  | denied
  | notText
  | emptyPath
  | other (text : String)
  | atPath (cause : FileError) (path : String)
  deriving DecidableEq, Inhabited

def FileError.kind : FileError → String
  | notFound => "NotFound"
  | isDirectory => "IsADirectory"
  | notDirectory => "NotADirectory"
  | alreadyExists => "AlreadyExists"
  | denied => "PermissionDenied"
  | notText => "InvalidData"
  | emptyPath => "InvalidInput"
  | other _ => "Other"
  | atPath cause _ => cause.kind

def FileError.message : FileError → String
  | notFound => "No such file or directory (os error 2)"
  | isDirectory => "Is a directory (os error 21)"
  | notDirectory => "Not a directory (os error 20)"
  | alreadyExists => "File exists (os error 17)"
  | denied => "Permission denied (os error 13)"
  | notText => "stream did not contain valid UTF-8"
  | emptyPath => "cannot make an empty path absolute"
  | other text => text
  | atPath cause path => cause.message ++ " at path \"" ++ path ++ "\""

/-- What a program can do with files: it reads whole files, asks for what there is, makes temporary
files with new names, fills them, makes sure that they are kept, moves them to another name and removes
them. -/
structure Storage (m : Type → Type) where
  read : Path → m (Except FileError ByteArray)
  isFile : Path → m Bool
  createTemporary : Path → m (Except FileError Path)
  write : Path → ByteArray → m (Except FileError Unit)
  sync : Path → m (Except FileError Unit)
  rename : Path → Path → m (Except FileError Unit)
  remove : Path → m Unit

namespace Storage

variable {m : Type → Type} [Monad m]

def readText (s : Storage m) (path : Path) : m (Except FileError String) := do
  match ← s.read path with
  | .error e => return .error e
  | .ok bytes =>
    match String.fromUTF8? bytes with
    | some text => return .ok text
    | none => return .error .notText

def fillAndMove (s : Storage m) (temporary path : Path) (text : String) :
    ExceptT FileError m Unit := do
  ExceptT.mk (s.write temporary text.toUTF8)
  ExceptT.mk (s.sync temporary)
  ExceptT.mk (s.rename temporary path)

/-- Write a text through a temporary file in the same directory, so that nobody sees a part of it. -/
def writeAtomic (s : Storage m) (path : Path) (text : String) : m (Except FileError Unit) := do
  match ← s.createTemporary path.directory with
  | .error e => return .error e
  | .ok temporary =>
    match ← (s.fillAndMove temporary path text).run with
    | .ok () => return .ok ()
    | .error e =>
      s.remove temporary
      return .error e

end Storage

end SchemaGen
