import ResolverGrader.Host.FileSystem
import ResolverGrader.Host.Network

/-!
# Hosts and what is done on them

A host decides how the world outside of the grader behaves: what the network
does, what a launched process does, what the DNS server answers, and which
numbers are drawn at random.  An action runs on a world, which remembers
everything that was done, and may end early with an error; what was done before
stays done.
-/

namespace ResolverGrader.Host

/-!
## Child processes

What a process does from its launch to its end, as far as the grader can see
it.
-/

/-- A launched process. -/
structure Child where
  /-- What it sends to the listener, in the order of arrival. -/
  datagrams : List Datagram
  /-- Its standard output, which may depend on the replies that it receives. -/
  stdout : List Octets → Octets
  /-- Its standard error output. -/
  stderr : Octets
  /-- Whether it runs longer than any deadline. -/
  outlasts : Bool
  /-- The wait status it ends with, or why that cannot be learned. -/
  status : Except IoError UInt32
  /-- What it changes in the files. -/
  changes : FileSystem → FileSystem

end ResolverGrader.Host

namespace ResolverGrader

open ResolverGrader.Host ResolverGrader.Net

/-! ## Hosts and worlds -/

/-- The behaviour of everything outside of the grader. -/
structure Host where
  network : Network
  /-- The numbers that are drawn at random, in order. -/
  random : Nat → Nat
  /-- What an argument list starts, given the files there are. -/
  launch : FileSystem → List String → Except IoError Child
  /--
  What arrives after a query is sent to the DNS server, given the number of
  earlier queries.
  -/
  serverReceipts : Nat → Octets → List Receipt

/-- Something that is done and can be seen from outside. -/
inductive Effect where
  | printed (text : String)
  | removed (path : String)
  | wrote (path : String) (contents : Octets)
  | bound (address : SocketAddress)
  | started (arguments : List String)
  | asked (server : SocketAddress) (query : Octets)
  deriving DecidableEq, Repr

/-- The state of the world. -/
structure World where
  files : FileSystem
  /-- How many random numbers have been drawn. -/
  draws : Nat
  /-- What has been done, the oldest first. -/
  effects : List Effect

namespace World

/-- The world before anything is done. -/
def initial (files : FileSystem) : World := ⟨files, 0, []⟩

/-- The world after one more effect. -/
def after (world : World) (effect : Effect) : World :=
  { world with effects := world.effects ++ [effect] }

/-- The printed part of an effect. -/
def printedText : Effect → String
  | .printed text => text
  | _ => ""

/-- All that has been printed. -/
def stdout (world : World) : String :=
  String.join (world.effects.map printedText)

/-- The query that an effect sends. -/
def sentQuery? : Effect → Option Octets
  | .asked _ query => some query
  | _ => none

/-- The queries that have been sent to the DNS server. -/
def queries (world : World) : List Octets :=
  world.effects.filterMap sentQuery?

end World

/--
Something that changes the world and yields a value or ends early with an
error.
-/
abbrev Action (ε α : Type) := ExceptT ε (StateM World) α

namespace Action

variable {ε : Type}

/-- Does something that leaves the files as they are. -/
def perform (effect : Effect) : Action ε Unit :=
  modify (·.after effect)

/-- Prints a text. -/
def print (text : String) : Action ε Unit :=
  perform (.printed text)

/-- Draws a random number. -/
def draw (host : Host) : Action ε Nat := do
  let world ← get
  set { world with draws := world.draws + 1 }
  return host.random world.draws

/-- Removes a file; nothing is done if that fails. -/
def removeFile (path : String) : Action ε (Except IoError Unit) := do
  let world ← get
  match world.files.remove path with
  | .error error => return .error error
  | .ok files =>
    set { world with files }
    perform (.removed path)
    return .ok ()

/-- Writes a file; nothing is done if that fails. -/
def writeFile (path : String) (contents : Octets) :
    Action ε (Except IoError Unit) := do
  let world ← get
  match world.files.write path contents with
  | .error error => return .error error
  | .ok files =>
    set { world with files }
    perform (.wrote path contents)
    return .ok ()

/-- Binds a socket and yields the address it got. -/
def bindSocket (host : Host) (wanted : SocketAddress) :
    Action ε (Except IoError SocketAddress) := do
  match host.network.bind wanted with
  | .error error => return .error error
  | .ok address =>
    perform (.bound address)
    return .ok address

/-- Starts a process and lets it change the files. -/
def start (host : Host) (arguments : List String) :
    Action ε (Except IoError Child) := do
  let world ← get
  match host.launch world.files arguments with
  | .error error => return .error error
  | .ok child =>
    perform (.started arguments)
    modify fun world => { world with files := child.changes world.files }
    return .ok child

/--
Sends a query to the DNS server and yields what arrives after it; nothing does
if the query is lost.
-/
def ask (host : Host) (server : SocketAddress) (query : Octets) :
    Action ε (Except IoError (List Receipt)) := do
  match host.network.passage server query with
  | .refused error => return .error error
  | .lost =>
    perform (.asked server query)
    return .ok []
  | .delivered =>
    let world ← get
    perform (.asked server query)
    return .ok (host.serverReceipts world.queries.length query)

/-- Lets an action end with an error of another type. -/
def mapError {ε' α : Type} (convert : ε → ε') (action : Action ε α) :
    Action ε' α :=
  action.adapt convert

/-- Runs an action on a world. -/
def runOn {α : Type} (action : Action ε α) (world : World) :
    Except ε α × World :=
  action.run.run world

section

variable {α β : Type}

@[simp]
theorem runOn_pure (value : α) (world : World) :
    (pure value : Action ε α).runOn world = (.ok value, world) := rfl

@[simp]
theorem runOn_throw (error : ε) (world : World) :
    (throw error : Action ε α).runOn world = (.error error, world) := rfl

/--
One action after another: the second runs where the first ended, unless that
failed.
-/
theorem runOn_bind
    (first : Action ε α)
    (next : α → Action ε β)
    (world : World) :
    (first >>= next).runOn world =
      match first.runOn world with
      | (.ok value, after) => (next value).runOn after
      | (.error error, after) => (.error error, after) := by
  simp only [runOn, ExceptT.run_bind, StateT.run_bind]
  cases StateT.run first.run world with
  | mk outcome after => cases outcome <;> rfl

@[simp]
theorem runOn_perform (effect : Effect) (world : World) :
    (perform effect : Action ε Unit).runOn world =
      (.ok (), world.after effect) := rfl

/-- Another type of errors changes nothing in the world. -/
theorem runOn_mapError
    {ε' : Type}
    (convert : ε → ε')
    (action : Action ε α)
    (world : World) :
    (action.mapError convert).runOn world =
      ((action.runOn world).1.mapError convert, (action.runOn world).2) := by
  show (Except.mapError convert <$> action.run).run world = _
  rw [StateT.run_map]
  rfl

end

end Action

end ResolverGrader
