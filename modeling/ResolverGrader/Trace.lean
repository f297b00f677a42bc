import ResolverGrader.Text.Digits
import ResolverGrader.Text.Split

/-!
# Reading a system call trace

A trace has one system call a line.  The grader looks for a socket that was
opened and, on a later line, a call that reads from the descriptor the socket
got.  It matches text and nothing more.
-/

namespace ResolverGrader.Trace

open ResolverGrader.Text

/-- The calls that read from a socket. -/
def readCalls : List String := ["read", "recvfrom", "recv", "recvmsg"]

/--
The descriptor that a line reports for a socket it opened: the first word after
the last equals sign, if it is a number.
-/
def socketDescriptor? (line : List Char) : Option (List Char) :=
  if "socket(".toList.isPrefixOf line then
    match afterLast? ['=', ' '] line with
    | some result =>
      let word := firstWord result
      if word ≠ [] && word.all isDecimal then some word else none
    | none => none
  else none

/-- Whether a line is a call that reads from a descriptor. -/
def readsFrom (descriptor line : List Char) : Bool :=
  readCalls.any fun call =>
    (call.toList ++ '(' :: descriptor ++ [',']).isPrefixOf line

/--
Whether some line reads from one of the descriptors or from one that is opened
before it.
-/
def readsAfter (descriptors : List (List Char)) : List (List Char) → Bool
  | [] => false
  | line :: rest =>
    match socketDescriptor? line with
    | some descriptor => readsAfter (descriptor :: descriptors) rest
    | none => descriptors.any (readsFrom · line) || readsAfter descriptors rest

/-- Whether a trace shows a socket being opened and read from afterwards. -/
def showsSocketThenRead (trace : List Char) : Bool :=
  readsAfter [] (lines trace)

end ResolverGrader.Trace
