import ResolverGrader.Dns.Name.Parser
import ResolverGrader.Dns.Record.Wire
import ResolverGrader.Text.Lowercase
import ResolverGrader.Text.Sorted

/-!
# DNS messages

A message is a header, then questions, then three sections of records whose
sizes the header announces.  All of them must be readable; what follows the
last record is ignored.  The only message that is written is a query of one
question.

The answers expected of a submission are the texts of the records in the answer
section, in order of their code points, one for each record.
-/

namespace ResolverGrader.Dns

open ResolverGrader.Text

/-!
## The canonical query

The query that a correct stub resolver sends for a name: one question for the
addresses of the name in lower case, recursion desired, and no records.
-/

/--
What stands between the identifier and the name: recursion desired, one
question, no records.
-/
def queryHeader : Octets := [1, 0, 0, 1, 0, 0, 0, 0, 0, 0]

/-- What follows the name: the type and class of addresses in the internet. -/
def queryTrailer : Octets := [0, 1, 0, 1]

/-- The wire form of the query for a name. -/
def queryWire (id : UInt16) (name : Name) : Octets :=
  Octets.ofWord id ++ queryHeader ++ name.wire ++ queryTrailer

/-- The name that is asked for when a query name is given. -/
def queriedName (queryName : String) : Except NameError Name :=
  Name.parse (lowercase queryName.toList)

/-- The wire form of the canonical query for a query name. -/
def canonicalQuery (queryName : String) (id : UInt16) :
    Except NameError Octets :=
  (queriedName queryName).map (queryWire id)

/-! ## Reading a message -/

/-- A question: the name, the type of data and the class asked for. -/
structure Question where
  name : Name
  code : UInt16
  group : UInt16
  deriving DecidableEq, Repr

/-- A message. -/
structure Message where
  id : UInt16
  flags : UInt16
  questions : List Question
  answers : List Record
  authorities : List Record
  additionals : List Record
  deriving DecidableEq, Repr

/-- Whether a message answers a query. -/
def Message.isResponse (message : Message) : Bool :=
  32768 ≤ message.flags

/-- Whether a record describes the transport. -/
def Record.isTransport (record : Record) : Bool :=
  RecordType.ofCode record.code = .opt

/-- Reads a question. -/
def Cursor.readQuestion? (message : Octets) (cursor : Cursor) :
    Option (Question × Cursor) := do
  let (name, cursor) ← cursor.readName? message
  let (code, cursor) ← cursor.readWord?
  let (group, cursor) ← cursor.readWord?
  return (⟨name, code, group⟩, cursor)

/-- Reads a given number of items. -/
def readMany? {α : Type} (read : Cursor → Option (α × Cursor)) :
    Nat → Cursor → Option (List α × Cursor)
  | 0, cursor => some ([], cursor)
  | count + 1, cursor => do
    let (item, cursor) ← read cursor
    let (items, cursor) ← readMany? read count cursor
    return (item :: items, cursor)

/--
The message that octets hold.  At most one of the additional records describes
the transport.
-/
def Message.decode? (octets : Octets) (library : Library := .plain) :
    Option Message := do
  let cursor := Cursor.at octets 0
  let (id, cursor) ← cursor.readWord?
  let (flags, cursor) ← cursor.readWord?
  let (questionCount, cursor) ← cursor.readWord?
  let (answerCount, cursor) ← cursor.readWord?
  let (authorityCount, cursor) ← cursor.readWord?
  let (additionalCount, cursor) ← cursor.readWord?
  let (questions, cursor) ←
    readMany? (·.readQuestion? octets) questionCount.toNat cursor
  let (answers, cursor) ←
    readMany? (·.readRecord? octets library) answerCount.toNat cursor
  let (authorities, cursor) ←
    readMany? (·.readRecord? octets library) authorityCount.toNat cursor
  let (additionals, _) ←
    readMany? (·.readRecord? octets library) additionalCount.toNat cursor
  if 1 < additionals.countP Record.isTransport then none
  return ⟨id, flags, questions, answers, authorities, additionals⟩

/-- The text of a record, if its data has one. -/
def Record.text? (record : Record) (library : Library := .plain) :
    Option String :=
  (record.data.characters? library).map String.ofList

/--
The texts of the answer records in order of code points, if all of them have
one.
-/
def Message.answerTexts? (message : Message) (library : Library := .plain) :
    Option (List String) :=
  (message.answers.mapM (Record.text? · library)).map Text.sorted

end ResolverGrader.Dns
