import SchemaGen.Files.Storage

namespace SchemaGen

inductive FileSystem.Entry where
  | file (contents : ByteArray)
  | directory
  deriving Inhabited

/-- The names from the root to a file or a directory. -/
abbrev FileSystem.Location := List FileName

structure FileSystem where
  working : FileSystem.Location
  entries : List (FileSystem.Location × FileSystem.Entry)
  deriving Inhabited

/-- The actions that can fail for reasons outside the file system. -/
inductive FileSystem.Action where
  | read
  | create
  | write
  | sync
  | rename
  deriving DecidableEq, Inhabited

namespace FileSystem

/-- What there is at a place. The root is a directory. -/
def entryAt? (fs : FileSystem) (l : Location) : Option Entry :=
  if l.isEmpty then some .directory else fs.entries.lookup l

/-- Where steps lead from a place. Every step starts from a directory. -/
def walk (fs : FileSystem) (l : Location) : List Path.Step → Except FileError Location
  | [] => .ok l
  | s :: ss =>
    match fs.entryAt? l with
    | none => .error .notFound
    | some (.file _) => .error .notDirectory
    | some .directory =>
      fs.walk (match s with
        | .here => l
        | .up => l.dropLast
        | .down name => l ++ [name]) ss

/-- Where a path leads. The empty path leads nowhere. -/
def locate (fs : FileSystem) (p : Path) : Except FileError Location :=
  if p.rooted then fs.walk [] p.steps
  else if p.steps.isEmpty then .error .notFound
  else fs.walk fs.working p.steps

def set (fs : FileSystem) (l : Location) (e : Entry) : FileSystem :=
  { fs with entries := fs.entries.filter (·.1 ≠ l) ++ [(l, e)] }

def erase (fs : FileSystem) (l : Location) : FileSystem :=
  { fs with entries := fs.entries.filter (·.1 ≠ l) }

def read (fs : FileSystem) (p : Path) : Except FileError ByteArray := do
  match fs.entryAt? (← fs.locate p) with
  | none => throw .notFound
  | some .directory => throw .isDirectory
  | some (.file contents) => return contents

def isFile (fs : FileSystem) (p : Path) : Bool :=
  match fs.read p with
  | .ok _ => true
  | .error _ => false

def write (fs : FileSystem) (p : Path) (contents : ByteArray) : Except FileError FileSystem := do
  let l ← fs.locate p
  match fs.entryAt? l with
  | some .directory => throw .isDirectory
  | _ => return fs.set l (.file contents)

def rename (fs : FileSystem) (source target : Path) : Except FileError FileSystem := do
  let s ← fs.locate source
  let contents ← fs.read source
  let t ← fs.locate target
  match fs.entryAt? t with
  | some .directory => throw .isDirectory
  | _ => return (fs.erase s).set t (.file contents)

def remove (fs : FileSystem) (p : Path) : Except FileError FileSystem := do
  let l ← fs.locate p
  match fs.entryAt? l with
  | none => throw .notFound
  | some .directory => throw .isDirectory
  | some (.file _) => return fs.erase l

def temporaryName (n : Nat) : FileName :=
  .ofString (".tmp" ++ String.ofList (List.replicate (6 + n) 'X'))

def temporaryPath (fs : FileSystem) (directory : Path) (l : Location) : Path :=
  let n := ((List.range (fs.entries.length + 1)).find? fun n =>
    (fs.entryAt? (l ++ [temporaryName n])).isNone).getD 0
  directory.join ⟨false, [.down (temporaryName n)]⟩

def createTemporary (fs : FileSystem) (directory : Path) : Except FileError (Path × FileSystem) :=
  match fs.locate directory with
  | .error e => .error (e.atPath (directory.join ⟨false, [.down (temporaryName 0)]⟩).text)
  | .ok l =>
    let path := fs.temporaryPath directory l
    match fs.write path .empty with
    | .ok fs => .ok (path, fs)
    | .error e => .error (e.atPath path.text)

def act (failure : Option FileError) (change : FileSystem → Except FileError FileSystem) :
    StateM FileSystem (Except FileError Unit) := fun fs =>
  match failure with
  | some e => (.error e, fs)
  | none =>
    match change fs with
    | .ok changed => (.ok (), changed)
    | .error e => (.error e, fs)

/-- Files in a file system, where actions can fail for reasons of their own. -/
def storage (fails : Action → Option FileError) : Storage (StateM FileSystem) where
  read p := fun fs =>
    ((fails .read).elim (fs.read p) .error, fs)
  isFile p := fun fs => (fs.isFile p, fs)
  createTemporary directory := fun fs =>
    match fails .create with
    | some e => (.error e, fs)
    | none =>
      match fs.createTemporary directory with
      | .ok (path, changed) => (.ok path, changed)
      | .error e => (.error e, fs)
  write p contents := act (fails .write) (·.write p contents)
  sync _ := act (fails .sync) .ok
  rename source target := act (fails .rename) (·.rename source target)
  remove p := fun fs => ((), (fs.remove p).toOption.getD fs)

end FileSystem

end SchemaGen
