import ResolverGrader.Host.FileSystem
import ResolverGrader.Text.Split

/-!
# The names to grade

Query names come from the command line and from a file with one name a line;
where neither gives any, a standard list covers every category.
-/

namespace ResolverGrader.QueryNames

open ResolverGrader.Host ResolverGrader.Text

/--
Names that cover plain answers, aliases, a name that does not resolve, the
root, and the longest label there may be.
-/
def standard : List String :=
  ["byu.edu",
    "www.byu.edu",
    ".",
    "casey.byu.edu",
    "www.abcdefghijklmnopqrstuvwxyzabcdefghijklmnopqrstuvwxyzabcdefghijk.com",
    "sandia.gov",
    "www.sandia.gov",
    "foobarbaz-not-exist.byu.edu",
    "www.intel.com"]

/-- Whether a trimmed line holds a name: it is not empty and no comment. -/
def isName (line : List Char) : Bool :=
  line ≠ [] && line.head? ≠ some '#'

/--
The names that a text lists: its lines, trimmed, without blank lines and
comments.
-/
def ofText (text : String) : List String :=
  (((lines text.toList).map trim).filter isName).map String.ofList

/-- A file of names that could not be read. -/
structure FileError where
  path : String
  source : IoError
  deriving DecidableEq, Repr

/-- The message of a file error. -/
def FileError.message (error : FileError) : String :=
  "failed to read domain file '" ++ error.path ++ "': " ++ error.source.message

/-- The names that a file lists. -/
def ofFile (files : FileSystem) (path : String) :
    Except FileError (List String) :=
  match files.readText path with
  | .ok text => .ok (ofText text)
  | .error source => .error ⟨path, source⟩

/--
The names that are graded: those of the command line, then those of the file,
or the standard ones where there are none.
-/
def choose (given fromFile : List String) : List String :=
  if given ++ fromFile = [] then standard else given ++ fromFile

theorem choose_ne_nil (given fromFile : List String) :
    choose given fromFile ≠ [] := by
  unfold choose
  split
  · simp [standard]
  · assumption

end ResolverGrader.QueryNames
