import HostStatus.Text.Utf8

/-!
# Why no snapshot could be taken

Each error names the probe that failed, the path it was asked about, and what the operating system
said. Paths are bytes; they are shown as text, with a mark for what is not text.
-/

namespace HostStatus

/-- Failures without a number of the operating system. -/
inductive IoErrorKind where
  | notFound
  | permissionDenied
  | invalidInput
  | timedOut
  | other
  deriving DecidableEq

inductive IoError where
  | os (code : Int)
  | custom (text : String)
  | kind (kind : IoErrorKind)
  deriving DecidableEq

namespace IoError

def noSuchFile : IoError := os 2

def notADirectory : IoError := os 20

def nameTooLong : IoError := os 36

def tooManyLinks : IoError := os 40

def nulInName : IoError := custom "file name contained an unexpected NUL byte"

/-- What the system says of its errors, in the order of their numbers, two of which are not
in use. -/
def osTexts : List String :=
  ["Success", "Operation not permitted", "No such file or directory", "No such process",
    "Interrupted system call", "Input/output error", "No such device or address",
    "Argument list too long", "Exec format error", "Bad file descriptor", "No child processes",
    "Resource temporarily unavailable", "Cannot allocate memory", "Permission denied",
    "Bad address", "Block device required", "Device or resource busy", "File exists",
    "Invalid cross-device link", "No such device", "Not a directory", "Is a directory",
    "Invalid argument", "Too many open files in system", "Too many open files",
    "Inappropriate ioctl for device", "Text file busy", "File too large",
    "No space left on device", "Illegal seek", "Read-only file system", "Too many links",
    "Broken pipe", "Numerical argument out of domain", "Numerical result out of range",
    "Resource deadlock avoided", "File name too long", "No locks available",
    "Function not implemented", "Directory not empty", "Too many levels of symbolic links", "",
    "No message of desired type", "Identifier removed", "Channel number out of range",
    "Level 2 not synchronized", "Level 3 halted", "Level 3 reset", "Link number out of range",
    "Protocol driver not attached", "No CSI structure available", "Level 2 halted",
    "Invalid exchange", "Invalid request descriptor", "Exchange full", "No anode",
    "Invalid request code", "Invalid slot", "", "Bad font file format", "Device not a stream",
    "No data available", "Timer expired", "Out of streams resources",
    "Machine is not on the network", "Package not installed", "Object is remote",
    "Link has been severed", "Advertise error", "Srmount error", "Communication error on send",
    "Protocol error", "Multihop attempted", "RFS specific error", "Bad message",
    "Value too large for defined data type", "Name not unique on network",
    "File descriptor in bad state", "Remote address changed",
    "Can not access a needed shared library", "Accessing a corrupted shared library",
    ".lib section in a.out corrupted", "Attempting to link in too many shared libraries",
    "Cannot exec a shared library directly", "Invalid or incomplete multibyte or wide character",
    "Interrupted system call should be restarted", "Streams pipe error", "Too many users",
    "Socket operation on non-socket", "Destination address required", "Message too long",
    "Protocol wrong type for socket", "Protocol not available", "Protocol not supported",
    "Socket type not supported", "Operation not supported", "Protocol family not supported",
    "Address family not supported by protocol", "Address already in use",
    "Cannot assign requested address", "Network is down", "Network is unreachable",
    "Network dropped connection on reset", "Software caused connection abort",
    "Connection reset by peer", "No buffer space available",
    "Transport endpoint is already connected", "Transport endpoint is not connected",
    "Cannot send after transport endpoint shutdown", "Too many references: cannot splice",
    "Connection timed out", "Connection refused", "Host is down", "No route to host",
    "Operation already in progress", "Operation now in progress", "Stale file handle",
    "Structure needs cleaning", "Not a XENIX named type file", "No XENIX semaphores available",
    "Is a named type file", "Remote I/O error", "Disk quota exceeded", "No medium found",
    "Wrong medium type", "Operation canceled", "Required key not available", "Key has expired",
    "Key has been revoked", "Key was rejected by service", "Owner died", "State not recoverable",
    "Operation not possible due to RF-kill", "Memory page has hardware error"]

def osText (code : Int) : String :=
  let known := if 0 ≤ code then osTexts[code.toNat]?.filter (· ≠ "") else none
  known.getD ("Unknown error " ++ toString code)

def message : IoError → String
  | os code => osText code ++ " (os error " ++ toString code ++ ")"
  | custom text => text
  | kind .notFound => "entity not found"
  | kind .permissionDenied => "permission denied"
  | kind .invalidInput => "invalid input parameter"
  | kind .timedOut => "timed out"
  | kind .other => "other error"

end IoError

inductive CollectError where
  | unresolvedPath (path : Text.Bytes) (cause : IoError)
  | unreadableVolume (path : Text.Bytes) (cause : IoError)
  | noVolume (path : Text.Bytes)
  | emptyVolume (path : Text.Bytes)
  | noMemory
  | noProcessors
  deriving DecidableEq

namespace CollectError

def cause? : CollectError → Option IoError
  | unresolvedPath _ cause | unreadableVolume _ cause => some cause
  | _ => none

def message : CollectError → String
  | unresolvedPath path cause =>
    "cannot resolve disk path " ++ Text.ofUtf8Lossy path ++ ": " ++ cause.message
  | unreadableVolume path cause =>
    "statvfs failed for " ++ Text.ofUtf8Lossy path ++ ": " ++ cause.message
  | noVolume path => "no mounted filesystem covers " ++ Text.ofUtf8Lossy path
  | emptyVolume path => "filesystem at " ++ Text.ofUtf8Lossy path ++ " reports zero capacity"
  | noMemory => "memory totals unavailable"
  | noProcessors => "no CPUs reported by the OS"

end CollectError

end HostStatus
