import ResolverGrader.IoError
import ResolverGrader.Net.Address
import ResolverGrader.Text.Quoted

/-!
# Failures of the environment

A failure ends the whole grading run.  Nothing that the submission does wrong
is a failure; that is what checks are for.
-/

namespace ResolverGrader

open ResolverGrader.Net ResolverGrader.Text

/-- Why grading had to stop. -/
inductive Failure where
  | bind (ip : IpAddress) (attempts : Nat) (source : IoError)
  | invalidName (queryName detail : String)
  | server (queryName : String) (address : SocketAddress) (detail : String)
  | compile (path stderr : String)
  | removeBinary (path : String) (source : IoError)
  | spawn (tool : String) (source : IoError)
  deriving DecidableEq, Repr

namespace Failure

/-- A path in quotation marks. -/
def quotedPath (path : String) : String :=
  String.ofList (Quoted.quote path.toList)

/-- The error of the operating system behind a failure, if there is one. -/
def source? : Failure → Option IoError
  | .bind _ _ source | .removeBinary _ source | .spawn _ source => some source
  | .invalidName .. | .server .. | .compile .. => none

/-- The message of a failure. -/
def message : Failure → String
  | .bind ip attempts source =>
    "could not bind a UDP port on " ++ ip.text ++ " after " ++
      toString attempts ++
      " attempt(s): " ++ source.message
  | .invalidName queryName detail =>
    "invalid query name '" ++ queryName ++ "': " ++ detail
  | .server queryName address detail =>
    "upstream resolver " ++ address.text ++ " failed for '" ++ queryName ++
      "': " ++ detail
  | .compile path stderr =>
    "unable to compile " ++ quotedPath path ++
      ", run the compiler manually to see the issue\n" ++ stderr
  | .removeBinary path source =>
    "could not remove old resolver executable " ++ quotedPath path ++ ": " ++
      source.message
  | .spawn tool source =>
    "failed to launch '" ++ tool ++ "': " ++ source.message

end Failure

end ResolverGrader
