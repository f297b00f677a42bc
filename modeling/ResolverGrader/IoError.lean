/-!
# Errors of the operating system

Operations on files, sockets and processes fail with a numbered error, or
before they reach the operating system because a text cannot be handed to it.
-/

namespace ResolverGrader

/-- The descriptions of the numbered errors, beginning with number zero. -/
def osErrorTexts : List String := [
  "Success", "Operation not permitted", "No such file or directory",
  "No such process", "Interrupted system call", "Input/output error",
  "No such device or address", "Argument list too long", "Exec format error",
  "Bad file descriptor", "No child processes",
  "Resource temporarily unavailable", "Cannot allocate memory",
  "Permission denied", "Bad address", "Block device required",
  "Device or resource busy", "File exists", "Invalid cross-device link",
  "No such device", "Not a directory", "Is a directory", "Invalid argument",
  "Too many open files in system", "Too many open files",
  "Inappropriate ioctl for device", "Text file busy", "File too large",
  "No space left on device", "Illegal seek", "Read-only file system",
  "Too many links", "Broken pipe", "Numerical argument out of domain",
  "Numerical result out of range", "Resource deadlock avoided",
  "File name too long", "No locks available", "Function not implemented",
  "Directory not empty", "Too many levels of symbolic links",
  "Unknown error 41", "No message of desired type", "Identifier removed",
  "Channel number out of range", "Level 2 not synchronized", "Level 3 halted",
  "Level 3 reset", "Link number out of range", "Protocol driver not attached",
  "No CSI structure available", "Level 2 halted", "Invalid exchange",
  "Invalid request descriptor", "Exchange full", "No anode",
  "Invalid request code", "Invalid slot", "Unknown error 58",
  "Bad font file format", "Device not a stream", "No data available",
  "Timer expired", "Out of streams resources", "Machine is not on the network",
  "Package not installed", "Object is remote", "Link has been severed",
  "Advertise error", "Srmount error", "Communication error on send",
  "Protocol error", "Multihop attempted", "RFS specific error", "Bad message",
  "Value too large for defined data type", "Name not unique on network",
  "File descriptor in bad state", "Remote address changed",
  "Can not access a needed shared library",
  "Accessing a corrupted shared library", ".lib section in a.out corrupted",
  "Attempting to link in too many shared libraries",
  "Cannot exec a shared library directly",
  "Invalid or incomplete multibyte or wide character",
  "Interrupted system call should be restarted", "Streams pipe error",
  "Too many users", "Socket operation on non-socket",
  "Destination address required", "Message too long",
  "Protocol wrong type for socket", "Protocol not available",
  "Protocol not supported", "Socket type not supported",
  "Operation not supported", "Protocol family not supported",
  "Address family not supported by protocol", "Address already in use",
  "Cannot assign requested address", "Network is down",
  "Network is unreachable", "Network dropped connection on reset",
  "Software caused connection abort", "Connection reset by peer",
  "No buffer space available", "Transport endpoint is already connected",
  "Transport endpoint is not connected",
  "Cannot send after transport endpoint shutdown",
  "Too many references: cannot splice", "Connection timed out",
  "Connection refused", "Host is down", "No route to host",
  "Operation already in progress", "Operation now in progress",
  "Stale file handle", "Structure needs cleaning",
  "Not a XENIX named type file", "No XENIX semaphores available",
  "Is a named type file", "Remote I/O error", "Disk quota exceeded",
  "No medium found", "Wrong medium type", "Operation canceled",
  "Required key not available", "Key has expired", "Key has been revoked",
  "Key was rejected by service", "Owner died", "State not recoverable",
  "Operation not possible due to RF-kill", "Memory page has hardware error"]

/-- Why an operation failed. -/
inductive IoError where
  /-- An error with a number. -/
  | os (code : Int32)
  /-- A path with a zero octet. -/
  | nulInPath
  /-- An argument of a process with a zero octet. -/
  | nulInArgument
  /-- File contents that are not text. -/
  | notText
  deriving DecidableEq, Repr

namespace IoError

/-- Nothing stands at the path. -/
def notFound : IoError := .os 2

/-- The arguments of a process are too long. -/
def argumentsTooLong : IoError := .os 7

/-- More is to be read than there is memory for. -/
def outOfMemory : IoError := .os 12

/-- The operation is not allowed. -/
def permissionDenied : IoError := .os 13

/-- Something other than a directory stands where the path goes on. -/
def notADirectory : IoError := .os 20

/-- A directory stands at the path. -/
def isADirectory : IoError := .os 21

/-- Nothing more can be written. -/
def noSpace : IoError := .os 28

/-- The path, or a part of it, is too long. -/
def nameTooLong : IoError := .os 36

/-- The operation does not exist on this host. -/
def notImplemented : IoError := .os 38

/-- A datagram does not fit into a packet. -/
def messageTooLong : IoError := .os 90

/-- The address is bound already. -/
def addressInUse : IoError := .os 98

/-- The address is none of the host's. -/
def addressNotAvailable : IoError := .os 99

/-- No route leads to the address. -/
def networkUnreachable : IoError := .os 101

/-- The description of a numbered error. -/
def osText (code : Int32) : String :=
  match if 0 ≤ code.toInt then osErrorTexts[code.toInt.toNat]? else none with
  | some text => text
  | none => "Unknown error " ++ toString code.toInt

/-- The message of an error. -/
def message : IoError → String
  | .os code => osText code ++ " (os error " ++ toString code.toInt ++ ")"
  | .nulInPath => "file name contained an unexpected NUL byte"
  | .nulInArgument => "nul byte found in provided data"
  | .notText => "stream did not contain valid UTF-8"

end IoError

end ResolverGrader
