import UsageGrid.Dataflow.SessionId
import UsageGrid.Directory.Basic
import UsageGrid.Log

/-!
# What the program asks of its surroundings

The program runs in any monad that offers what it needs: files, a log, a clock, a console, and an
endpoint to post to. Each is a class of its own, so that a part of the program says by its type what
it can touch. What a monad offers, it also offers under a state or an exception.
-/

namespace UsageGrid.Host

/-! ## 1. What is offered -/

/-- Files and folders, by their paths. -/
class Files (m : Type → Type) where
  read : String → m (Except Directory.Cause ByteArray)
  write : String → ByteArray → m (Except Directory.Cause Unit)
  makeFolders : String → m (Except Directory.Cause Unit)
  names : String → m (Except Directory.Cause (List String))
  remove : String → m (Except Directory.Cause Unit)
  isThere : String → m Bool

/-- The log. Once it is muted, entries no longer show on the console. -/
class Journal (m : Type → Type) where
  add : Log.Entry → m Unit
  mute : m Unit

/-- The present time as text, the milliseconds of it as digits, and numbers not used before. -/
class Clock (m : Type → Type) where
  time : m String
  stamp : m String
  freshId : m Dataflow.SessionId

/-- The two outputs, and the variables of the environment. -/
class Console (m : Type → Type) where
  out : String → m Unit
  err : String → m Unit
  setting : String → m (Option String)

/-- What is posted to an endpoint. -/
structure Post where
  url : String
  token : Option String
  body : String
deriving Repr, DecidableEq

/-- What is told of a post without an answer: nothing answers at its address, or it has none. -/
def Post.unanswered (p : Post) : String :=
  if p.url.startsWith "http://" || p.url.startsWith "https://" then
    "error sending request for url (" ++ p.url ++ ")"
  else "builder error"

/-- What an endpoint answers. -/
structure Reply where
  status : Nat
  body : String
deriving Repr, DecidableEq

/-- An endpoint answers, or the reason is told why there is no answer. -/
class Endpoint (m : Type → Type) where
  post : Post → m (Except String Reply)
  pause : (milliseconds : Nat) → m Unit

/-! ## 2. Under a state or an exception -/

section

variable {m n : Type → Type} [MonadLift m n]

instance [Files m] : Files n where
  read path := liftM (Files.read path : m _)
  write path content := liftM (Files.write path content : m _)
  makeFolders path := liftM (Files.makeFolders path : m _)
  names path := liftM (Files.names path : m _)
  remove path := liftM (Files.remove path : m _)
  isThere path := liftM (Files.isThere path : m _)

instance [Journal m] : Journal n where
  add e := liftM (Journal.add e : m _)
  mute := liftM (Journal.mute : m _)

instance [Clock m] : Clock n where
  time := liftM (Clock.time : m _)
  stamp := liftM (Clock.stamp : m _)
  freshId := liftM (Clock.freshId : m _)

instance [Console m] : Console n where
  out text := liftM (Console.out text : m _)
  err text := liftM (Console.err text : m _)
  setting name := liftM (Console.setting name : m _)

instance [Endpoint m] : Endpoint n where
  post p := liftM (Endpoint.post p : m _)
  pause k := liftM (Endpoint.pause k : m _)

end

/-! ## 3. Short forms -/

section

variable {m : Type → Type} [Journal m]

def info (message : String) : m Unit := Journal.add (.info message)
def success (message : String) : m Unit := Journal.add (.success message)
def warning (message : String) : m Unit := Journal.add (.warning message)
def error (message : String) : m Unit := Journal.add (.error message)
def detail (message : String) : m Unit := Journal.add (.detail message)

end

/-- The text of a file, which has to be UTF-8. -/
def readText {m : Type → Type} [Monad m] [Files m] (path : String) :
    m (Except Directory.Cause String) := do
  match ← Files.read path with
  | .error cause => pure (.error cause)
  | .ok content =>
    match String.fromUTF8? content with
    | some text => pure (.ok text)
    | none => pure (.error .notUtf8)

def writeText {m : Type → Type} [Files m] (path text : String) :
    m (Except Directory.Cause Unit) :=
  Files.write path text.toUTF8

end UsageGrid.Host
