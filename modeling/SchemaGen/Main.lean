import SchemaGen.CommandLine.Run

namespace SchemaGen.Main

/-- What a failure of the machine is called. -/
def failureOf : IO.Error → FileError
  | .noFileOrDirectory _ _ _ => .notFound
  | .permissionDenied _ _ _ => .denied
  | .alreadyExists _ code _ => if code = 21 then .isDirectory else .alreadyExists
  | .inappropriateType _ code _ => if code = 20 then .notDirectory else .isDirectory
  | e => .other (toString e)

def attempt {α : Type} (action : IO α) : IO (Except FileError α) := do
  try return .ok (← action)
  catch e => return .error (failureOf e)

/-- Six characters for the name of a temporary file. -/
def randomName : IO String := do
  let letters := "abcdefghijklmnopqrstuvwxyzABCDEFGHIJKLMNOPQRSTUVWXYZ0123456789".toList.toArray
  let mut name := ".tmp"
  for _ in [0:6] do
    name := name.push (letters.getD (← IO.rand 0 61) 'x')
  return name

def createTemporary (directory : Path) : Nat → IO (Except FileError Path)
  | 0 => return .error .alreadyExists
  | n + 1 => do
    let path := directory.join ⟨false, [.down (.ofString (← randomName))]⟩
    match ← attempt (do let _ ← IO.FS.Handle.mk path.text .writeNew) with
    | .ok () => return .ok path
    | .error .alreadyExists => createTemporary directory n
    | .error e => return .error (.atPath e path.text)

/-- Whether a file could be read but for permissions. -/
def isFile (path : Path) : IO Bool := do
  match ← attempt (IO.FS.readBinFile path.text) with
  | .ok _ | .error .denied => return true
  | .error _ => return false

def storage : Storage IO where
  read path := attempt (IO.FS.readBinFile path.text)
  isFile := isFile
  createTemporary directory := createTemporary directory 100
  write path contents := attempt (IO.FS.writeBinFile path.text contents)
  sync path := attempt do
    let handle ← IO.FS.Handle.mk path.text .append
    handle.flush
  rename source target := attempt (IO.FS.rename source.text target.text)
  remove path := do
    let _ ← attempt (IO.FS.removeFile path.text)

/-- No program is run on the machine, and so a command for formatting is not found. -/
def commands : Format.Commands := fun _ _ _ => .error .notFound

end SchemaGen.Main

open SchemaGen in
def main (args : List String) : IO UInt32 := do
  let working := Path.ofString (← IO.currentDir).toString
  let answer ← CommandLine.run Main.storage Main.commands working args
  IO.print answer.output
  IO.eprint answer.errors
  return UInt32.ofNat answer.code
