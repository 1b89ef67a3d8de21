import UsageGrid.Calendar.Instant
import UsageGrid.Command.Perform
import Std.Time.DateTime.Timestamp

/-!
# The command

The surroundings of the program when it runs as a command: the files of the machine, its clock and
its console. Whether the log is muted is the one thing kept during a run. No transport is linked
into the command, so that no post gets an answer.
-/

namespace UsageGrid.Main

/-- A run of the command. -/
abbrev Run := StateT Bool IO

/-! ## 1. Files -/

/-- The number and the text that the system reports with an error. -/
def reported : IO.Error → UInt32 × String
  | .alreadyExists _ code text | .noFileOrDirectory _ code text | .invalidArgument _ code text
  | .permissionDenied _ code text | .resourceExhausted _ code text
  | .inappropriateType _ code text | .noSuchThing _ code text | .interrupted _ code text
  | .otherError code text | .resourceBusy code text | .resourceVanished code text
  | .unsupportedOperation code text | .hardwareFault code text
  | .unsatisfiedConstraints code text | .illegalOperation code text | .protocolError code text
  | .timeExpired code text => (code, text)
  | .unexpectedEof => (0, "unexpected end of file")
  | .userError text => (0, text)

/-- Some numbers are reported below zero, in 32 bits. -/
def numberOf (code : UInt32) : Nat := min code.toNat (-code).toNat

def causeOf (e : IO.Error) : Directory.Cause :=
  let (code, text) := reported e
  match numberOf code with
  | 2 => .notFound
  | 17 => .exists
  | 20 => .notDirectory
  | 21 => .isDirectory
  | 36 => .nameTooLong
  | 39 => .notEmpty
  | n => .other text.capitalize n

/-- What comes of an action on files. -/
def attempt {α : Type} (act : IO α) : Run (Except Directory.Cause α) := do
  match ← act.toBaseIO with
  | .ok a => pure (.ok a)
  | .error e => pure (.error (causeOf e))

/-- The names in a folder, in order. -/
def namesIn (path : String) : IO (List String) := do
  let entries ← (← IO.FS.realPath path).readDir
  pure ((entries.toList.map (·.fileName)).mergeSort fun a b => !(b < a))

/-- Something can be read about what is at a path. -/
def isAt (path : String) : IO Bool := do
  match ← (IO.FS.realPath path).toBaseIO with
  | .ok real => real.pathExists
  | .error _ => pure false

instance : Host.Files Run where
  read path := attempt (IO.FS.readBinFile path)
  write path content := attempt (IO.FS.writeBinFile path content)
  makeFolders path := attempt (if path = "" then pure () else IO.FS.createDirAll path)
  names path := attempt (namesIn path)
  remove path := attempt (IO.FS.removeFile path)
  isThere path := isAt path

/-! ## 2. Log and console -/

/-- Writes a text and lets it show at once. -/
def putText (stream : IO.FS.Stream) (text : String) : IO Unit := do
  stream.putStr text
  stream.flush

instance : Host.Journal Run where
  add e := do
    if !(← get) then putText (← IO.getStderr) e.line
  mute := set true

instance : Host.Console Run where
  out text := do putText (← IO.getStdout) text
  err text := do putText (← IO.getStderr) text
  setting name := IO.getEnv name

/-! ## 3. Clock -/

def now : IO Calendar.Instant := do
  pure ⟨(← Std.Time.Timestamp.now).toNanosecondsSinceUnixEpoch.val.toNat⟩

/-- An id of random bits, marked as such: the version is 4, and the variant begins with the bits
    1 and 0. -/
def randomId : IO Dataflow.SessionId := do
  let bytes ← IO.getRandomBytes 16
  let marked := bytes.toList.zipIdx.map fun (b, i) =>
    if i = 6 then 0x40 + b.toNat % 16 else if i = 8 then 0x80 + b.toNat % 64 else b.toNat
  pure ⟨marked.foldl (fun n b => 256 * n + b) 0⟩

instance : Host.Clock Run where
  time := do pure (← now).text
  stamp := do pure (toString (← now).milliseconds)
  freshId := randomId

/-! ## 4. Endpoint -/

instance : Host.Endpoint Run where
  post p := pure (.error p.unanswered)
  pause milliseconds := IO.sleep milliseconds.toUInt32

end UsageGrid.Main

/-- Does what the arguments ask for. -/
def main (arguments : List String) : IO UInt32 := do
  let (code, _) ← (UsageGrid.Command.performArguments arguments : UsageGrid.Main.Run Nat).run false
  pure code.toUInt32
