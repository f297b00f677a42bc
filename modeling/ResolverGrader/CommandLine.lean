import ResolverGrader.Text.Digits

/-!
# The command line

The switches that the program knows, and how a list of arguments is read.
-/

namespace ResolverGrader.CommandLine

/-!
## Switches

Every argument of the command line is a switch or the value of one.  A switch
has a long name, and some have a letter as well.
-/

/-- A switch. -/
inductive Switch where
  | port
  | proxyIp
  | timeout
  | runTimeout
  | dnsServer
  | domain
  | domainFile
  | source
  | binary
  | cc
  | noCompile
  | strace
  | valgrind
  | verbose
  | output
  | logLevel
  | help
  deriving DecidableEq, Repr

namespace Switch

/-- Every switch. -/
def all : List Switch :=
  [.port, .proxyIp, .timeout, .runTimeout, .dnsServer, .domain, .domainFile,
    .source, .binary, .cc, .noCompile, .strace, .valgrind, .verbose, .output,
    .logLevel, .help]

/-- The name after two hyphens. -/
def longName : Switch → String
  | .port => "port"
  | .proxyIp => "proxy-ip"
  | .timeout => "timeout"
  | .runTimeout => "run-timeout"
  | .dnsServer => "dns-server"
  | .domain => "domain"
  | .domainFile => "domain-file"
  | .source => "source"
  | .binary => "binary"
  | .cc => "cc"
  | .noCompile => "no-compile"
  | .strace => "strace"
  | .valgrind => "valgrind"
  | .verbose => "verbose"
  | .output => "output"
  | .logLevel => "log-level"
  | .help => "help"

/-- The letter after one hyphen. -/
def letter? : Switch → Option Char
  | .port => some 'p'
  | .timeout => some 't'
  | .dnsServer => some 's'
  | .domain => some 'd'
  | .verbose => some 'v'
  | .output => some 'o'
  | .help => some 'h'
  | _ => none

/-- Whether a switch stands alone; every other one takes a value. -/
def isFlag : Switch → Bool
  | .noCompile | .verbose | .help => true
  | _ => false

/-- Whether a switch may be given more than once. -/
def repeats (switch : Switch) : Bool :=
  switch = .domain

/-- The switch with a long name. -/
def ofLongName? (name : String) : Option Switch :=
  all.find? fun switch => switch.longName = name

/-- The switch with a letter. -/
def ofLetter? (letter : Char) : Option Switch :=
  all.find? fun switch => switch.letter? = some letter

end Switch

open ResolverGrader.Text

/-!
## Arguments

Arguments are read from left to right.  A value may be attached to its switch,
after an equals sign or directly after a letter, or be the next argument.  A
value that is the next argument is settled only when another switch is
recognised or the arguments end; an argument that nobody knows is reported
before a value that still waits to be settled.  Letters of flags can be joined.

Nothing may stand by itself, and only the query names may be given more than
once.
-/

/-- Everything the command line says. -/
structure Arguments where
  port : Option UInt16
  proxyIp : String
  timeout : UInt64
  runTimeout : UInt64
  dnsServer : String
  domains : List String
  domainFile : Option String
  source : String
  binary : String
  cc : String
  noCompile : Bool
  strace : String
  valgrind : String
  verbose : Bool
  output : Option String
  logLevel : Option String
  deriving DecidableEq, Repr

/-- What holds where the command line says nothing. -/
def Arguments.standard : Arguments where
  port := none
  proxyIp := "127.0.0.1"
  timeout := 2
  runTimeout := 30
  dnsServer := "8.8.8.8"
  domains := []
  domainFile := none
  source := "resolver.c"
  binary := "./resolver"
  cc := "gcc"
  noCompile := false
  strace := "strace"
  valgrind := "valgrind"
  verbose := false
  output := none
  logLevel := none

/-- Why a command line is not carried out. -/
inductive UsageError where
  /-- The switch needs a value and has none. -/
  | missingValue
  /-- The value is no number of the right size. -/
  | badValue
  /-- Nothing is known by this name, or the argument stands by itself. -/
  | unknownArgument
  /-- The switch was given before. -/
  | repeatedSwitch
  /-- The flag takes no value and has one. -/
  | superfluousValue
  /-- Help was asked for, which is not an error but ends the program too. -/
  | helpRequested
  deriving DecidableEq, Repr

/-- The code that the program ends with. -/
def UsageError.exitCode : UsageError → Nat
  | .helpRequested => 0
  | _ => 2

/-- The value of a nonempty run of decimal digits. -/
def decimalValue? (text : List Char) : Option Nat :=
  if text ≠ [] && text.all isDecimal then some (digitsValue 10 text) else none

/-- A number without a minus sign that is less than a bound. -/
def unsigned? (bound : Nat) (text : List Char) : Option Nat :=
  let digits := match text with
    | '+' :: rest => rest
    | _ => text
  (decimalValue? digits).filter (· < bound)

/-- A number that is less than a bound; zero may have a minus sign. -/
def signed? (bound : Nat) (text : List Char) : Option Nat :=
  match text with
  | '-' :: rest => (decimalValue? rest).filter (· = 0)
  | _ => unsigned? bound text

/-- The arguments with the value of a switch. -/
def Arguments.assign
    (arguments : Arguments)
    (switch : Switch)
    (value : String) :
    Except UsageError Arguments :=
  let seconds : Except UsageError UInt64 :=
    match unsigned? (Nat.pow 2 64) value.toList with
    | some number => .ok (UInt64.ofNat number)
    | none => .error .badValue
  match switch with
  | .port =>
    match signed? (Nat.pow 2 16) value.toList with
    | some number => .ok { arguments with port := some (UInt16.ofNat number) }
    | none => .error .badValue
  | .proxyIp => .ok { arguments with proxyIp := value }
  | .timeout => seconds.map fun number => { arguments with timeout := number }
  | .runTimeout =>
    seconds.map fun number => { arguments with runTimeout := number }
  | .dnsServer => .ok { arguments with dnsServer := value }
  | .domain => .ok { arguments with domains := arguments.domains ++ [value] }
  | .domainFile => .ok { arguments with domainFile := some value }
  | .source => .ok { arguments with source := value }
  | .binary => .ok { arguments with binary := value }
  | .cc => .ok { arguments with cc := value }
  | .strace => .ok { arguments with strace := value }
  | .valgrind => .ok { arguments with valgrind := value }
  | .output => .ok { arguments with output := some value }
  | .logLevel => .ok { arguments with logLevel := some value }
  | .noCompile => .ok { arguments with noCompile := true }
  | .verbose => .ok { arguments with verbose := true }
  | .help => .error .helpRequested

/-- How far the command line has been read. -/
structure Progress where
  arguments : Arguments
  /-- Switches that have taken effect. -/
  given : List Switch
  /--
  A switch that takes the next argument as its value, or has taken it but not
  settled it.
  -/
  waiting : Option (Switch × Option String)

namespace Progress

/-- Before the first argument. -/
def start : Progress := ⟨.standard, [], none⟩

/-- Lets a switch take effect. -/
def apply (progress : Progress) (switch : Switch) (value : String) :
    Except UsageError Progress :=
  if switch ∈ progress.given ∧ !switch.repeats then .error .repeatedSwitch
  else do
    let arguments ← progress.arguments.assign switch value
    return { progress with arguments, given := switch :: progress.given }

/-- Settles the switch that waits, if there is one. -/
def settle (progress : Progress) : Except UsageError Progress :=
  match progress.waiting with
  | none => .ok progress
  | some (_, none) => .error .missingValue
  | some (switch, some value) =>
    { progress with waiting := none }.apply switch value

/-- Recognises a switch, with the value attached to it if there is one. -/
def recognise
    (progress : Progress)
    (switch : Switch)
    (attached : Option String) :
    Except UsageError Progress :=
  match switch.isFlag, attached with
  | true, some _ => .error .superfluousValue
  | true, none => do (← progress.settle).apply switch ""
  | false, some value => do (← progress.settle).apply switch value
  | false, none => do
    return { ← progress.settle with waiting := some (switch, none) }

/-- Reads an argument that begins with two hyphens, given without them. -/
def readLong (progress : Progress) (body : List Char) :
    Except UsageError Progress :=
  let name := body.takeWhile (· ≠ '=')
  let attached := match body.dropWhile (· ≠ '=') with
    | [] => none
    | _ :: value => some (String.ofList value)
  match Switch.ofLongName? (String.ofList name) with
  | some switch => progress.recognise switch attached
  | none => .error .unknownArgument

/-- Reads the letters after a single hyphen. -/
def readLetters (progress : Progress) : List Char → Except UsageError Progress
  | [] => .ok progress
  | letter :: rest =>
    match Switch.ofLetter? letter with
    | none => .error .unknownArgument
    | some switch =>
      if switch.isFlag then do
        let next ← progress.recognise switch none
        next.readLetters rest
      else match rest with
        | [] => progress.recognise switch none
        | '=' :: value =>
          progress.recognise switch (some (String.ofList value))
        | value => progress.recognise switch (some (String.ofList value))

/--
Reads an argument that is no switch: the value of the switch that waits for
one.
-/
def readValue (progress : Progress) (value : String) :
    Except UsageError Progress :=
  match progress.waiting with
  | some (switch, none) =>
    .ok { progress with waiting := some (switch, some value) }
  | _ => .error .unknownArgument

/--
Reads the remaining arguments.  Two hyphens alone end the switches, so nothing
may follow.
-/
def readAll (progress : Progress) : List String → Except UsageError Progress
  | [] => progress.settle
  | argument :: rest =>
    match argument.toList with
    | ['-', '-'] =>
      if rest = [] then progress.settle else .error .unknownArgument
    | '-' :: '-' :: body => do (← progress.readLong body).readAll rest
    | '-' :: letter :: letters => do
      (← progress.readLetters (letter :: letters)).readAll rest
    | _ => do (← progress.readValue argument).readAll rest

end Progress

/-- What a command line says. -/
def parse (arguments : List String) : Except UsageError Arguments :=
  (Progress.start.readAll arguments).map Progress.arguments

end ResolverGrader.CommandLine
