/-!
# Numbers of system errors

A system call that fails says why by a number. Each number has a name, a description by the kernel
and a description by the C library, which is the same for most of them. The numbers are those of
Linux.
-/

namespace CommandShell

/-- The reason that a failed system call gives. -/
structure Errno where
  /-- The number of the reason. -/
  number : Int
deriving DecidableEq, Repr

namespace Errno

/-- What is known of an error number. -/
structure Entry where
  /-- The number. -/
  number : Int
  /-- The name of the number. -/
  name : String
  /-- The description by the kernel. -/
  kernelText : String
  /-- The description by the C library, where it is another one. -/
  libraryText : Option String

/-- The numbers in use. -/
def entries : List Entry := [
  ⟨1, "EPERM", "Operation not permitted", none⟩,
  ⟨2, "ENOENT", "No such file or directory", none⟩,
  ⟨3, "ESRCH", "No such process", none⟩,
  ⟨4, "EINTR", "Interrupted system call", none⟩,
  ⟨5, "EIO", "I/O error",
    some "Input/output error"⟩,
  ⟨6, "ENXIO", "No such device or address", none⟩,
  ⟨7, "E2BIG", "Argument list too long", none⟩,
  ⟨8, "ENOEXEC", "Exec format error", none⟩,
  ⟨9, "EBADF", "Bad file number",
    some "Bad file descriptor"⟩,
  ⟨10, "ECHILD", "No child processes", none⟩,
  ⟨11, "EAGAIN", "Try again",
    some "Resource temporarily unavailable"⟩,
  ⟨12, "ENOMEM", "Out of memory",
    some "Cannot allocate memory"⟩,
  ⟨13, "EACCES", "Permission denied", none⟩,
  ⟨14, "EFAULT", "Bad address", none⟩,
  ⟨15, "ENOTBLK", "Block device required", none⟩,
  ⟨16, "EBUSY", "Device or resource busy", none⟩,
  ⟨17, "EEXIST", "File exists", none⟩,
  ⟨18, "EXDEV", "Cross-device link",
    some "Invalid cross-device link"⟩,
  ⟨19, "ENODEV", "No such device", none⟩,
  ⟨20, "ENOTDIR", "Not a directory", none⟩,
  ⟨21, "EISDIR", "Is a directory", none⟩,
  ⟨22, "EINVAL", "Invalid argument", none⟩,
  ⟨23, "ENFILE", "File table overflow",
    some "Too many open files in system"⟩,
  ⟨24, "EMFILE", "Too many open files", none⟩,
  ⟨25, "ENOTTY", "Not a typewriter",
    some "Inappropriate ioctl for device"⟩,
  ⟨26, "ETXTBSY", "Text file busy", none⟩,
  ⟨27, "EFBIG", "File too large", none⟩,
  ⟨28, "ENOSPC", "No space left on device", none⟩,
  ⟨29, "ESPIPE", "Illegal seek", none⟩,
  ⟨30, "EROFS", "Read-only file system", none⟩,
  ⟨31, "EMLINK", "Too many links", none⟩,
  ⟨32, "EPIPE", "Broken pipe", none⟩,
  ⟨33, "EDOM", "Math argument out of domain of func",
    some "Numerical argument out of domain"⟩,
  ⟨34, "ERANGE", "Math result not representable",
    some "Numerical result out of range"⟩,
  ⟨35, "EDEADLK", "Resource deadlock would occur",
    some "Resource deadlock avoided"⟩,
  ⟨36, "ENAMETOOLONG", "File name too long", none⟩,
  ⟨37, "ENOLCK", "No record locks available",
    some "No locks available"⟩,
  ⟨38, "ENOSYS", "Function not implemented", none⟩,
  ⟨39, "ENOTEMPTY", "Directory not empty", none⟩,
  ⟨40, "ELOOP", "Too many symbolic links encountered",
    some "Too many levels of symbolic links"⟩,
  ⟨42, "ENOMSG", "No message of desired type", none⟩,
  ⟨43, "EIDRM", "Identifier removed", none⟩,
  ⟨44, "ECHRNG", "Channel number out of range", none⟩,
  ⟨45, "EL2NSYNC", "Level 2 not synchronized", none⟩,
  ⟨46, "EL3HLT", "Level 3 halted", none⟩,
  ⟨47, "EL3RST", "Level 3 reset", none⟩,
  ⟨48, "ELNRNG", "Link number out of range", none⟩,
  ⟨49, "EUNATCH", "Protocol driver not attached", none⟩,
  ⟨50, "ENOCSI", "No CSI structure available", none⟩,
  ⟨51, "EL2HLT", "Level 2 halted", none⟩,
  ⟨52, "EBADE", "Invalid exchange", none⟩,
  ⟨53, "EBADR", "Invalid request descriptor", none⟩,
  ⟨54, "EXFULL", "Exchange full", none⟩,
  ⟨55, "ENOANO", "No anode", none⟩,
  ⟨56, "EBADRQC", "Invalid request code", none⟩,
  ⟨57, "EBADSLT", "Invalid slot", none⟩,
  ⟨59, "EBFONT", "Bad font file format", none⟩,
  ⟨60, "ENOSTR", "Device not a stream", none⟩,
  ⟨61, "ENODATA", "No data available", none⟩,
  ⟨62, "ETIME", "Timer expired", none⟩,
  ⟨63, "ENOSR", "Out of streams resources", none⟩,
  ⟨64, "ENONET", "Machine is not on the network", none⟩,
  ⟨65, "ENOPKG", "Package not installed", none⟩,
  ⟨66, "EREMOTE", "Object is remote", none⟩,
  ⟨67, "ENOLINK", "Link has been severed", none⟩,
  ⟨68, "EADV", "Advertise error", none⟩,
  ⟨69, "ESRMNT", "Srmount error", none⟩,
  ⟨70, "ECOMM", "Communication error on send", none⟩,
  ⟨71, "EPROTO", "Protocol error", none⟩,
  ⟨72, "EMULTIHOP", "Multihop attempted", none⟩,
  ⟨73, "EDOTDOT", "RFS specific error", none⟩,
  ⟨74, "EBADMSG", "Not a data message",
    some "Bad message"⟩,
  ⟨75, "EOVERFLOW", "Value too large for defined data type", none⟩,
  ⟨76, "ENOTUNIQ", "Name not unique on network", none⟩,
  ⟨77, "EBADFD", "File descriptor in bad state", none⟩,
  ⟨78, "EREMCHG", "Remote address changed", none⟩,
  ⟨79, "ELIBACC", "Can not access a needed shared library", none⟩,
  ⟨80, "ELIBBAD", "Accessing a corrupted shared library", none⟩,
  ⟨81, "ELIBSCN", ".lib section in a.out corrupted", none⟩,
  ⟨82, "ELIBMAX", "Attempting to link in too many shared libraries", none⟩,
  ⟨83, "ELIBEXEC", "Cannot exec a shared library directly", none⟩,
  ⟨84, "EILSEQ", "Illegal byte sequence",
    some "Invalid or incomplete multibyte or wide character"⟩,
  ⟨85, "ERESTART", "Interrupted system call should be restarted", none⟩,
  ⟨86, "ESTRPIPE", "Streams pipe error", none⟩,
  ⟨87, "EUSERS", "Too many users", none⟩,
  ⟨88, "ENOTSOCK", "Socket operation on non-socket", none⟩,
  ⟨89, "EDESTADDRREQ", "Destination address required", none⟩,
  ⟨90, "EMSGSIZE", "Message too long", none⟩,
  ⟨91, "EPROTOTYPE", "Protocol wrong type for socket", none⟩,
  ⟨92, "ENOPROTOOPT", "Protocol not available", none⟩,
  ⟨93, "EPROTONOSUPPORT", "Protocol not supported", none⟩,
  ⟨94, "ESOCKTNOSUPPORT", "Socket type not supported", none⟩,
  ⟨95, "EOPNOTSUPP", "Operation not supported on transport endpoint",
    some "Operation not supported"⟩,
  ⟨96, "EPFNOSUPPORT", "Protocol family not supported", none⟩,
  ⟨97, "EAFNOSUPPORT", "Address family not supported by protocol", none⟩,
  ⟨98, "EADDRINUSE", "Address already in use", none⟩,
  ⟨99, "EADDRNOTAVAIL", "Cannot assign requested address", none⟩,
  ⟨100, "ENETDOWN", "Network is down", none⟩,
  ⟨101, "ENETUNREACH", "Network is unreachable", none⟩,
  ⟨102, "ENETRESET", "Network dropped connection because of reset",
    some "Network dropped connection on reset"⟩,
  ⟨103, "ECONNABORTED", "Software caused connection abort", none⟩,
  ⟨104, "ECONNRESET", "Connection reset by peer", none⟩,
  ⟨105, "ENOBUFS", "No buffer space available", none⟩,
  ⟨106, "EISCONN", "Transport endpoint is already connected", none⟩,
  ⟨107, "ENOTCONN", "Transport endpoint is not connected", none⟩,
  ⟨108, "ESHUTDOWN", "Cannot send after transport endpoint shutdown", none⟩,
  ⟨109, "ETOOMANYREFS", "Too many references: cannot splice", none⟩,
  ⟨110, "ETIMEDOUT", "Connection timed out", none⟩,
  ⟨111, "ECONNREFUSED", "Connection refused", none⟩,
  ⟨112, "EHOSTDOWN", "Host is down", none⟩,
  ⟨113, "EHOSTUNREACH", "No route to host", none⟩,
  ⟨114, "EALREADY", "Operation already in progress", none⟩,
  ⟨115, "EINPROGRESS", "Operation now in progress", none⟩,
  ⟨116, "ESTALE", "Stale file handle", none⟩,
  ⟨117, "EUCLEAN", "Structure needs cleaning", none⟩,
  ⟨118, "ENOTNAM", "Not a XENIX named type file", none⟩,
  ⟨119, "ENAVAIL", "No XENIX semaphores available", none⟩,
  ⟨120, "EISNAM", "Is a named type file", none⟩,
  ⟨121, "EREMOTEIO", "Remote I/O error", none⟩,
  ⟨122, "EDQUOT", "Quota exceeded",
    some "Disk quota exceeded"⟩,
  ⟨123, "ENOMEDIUM", "No medium found", none⟩,
  ⟨124, "EMEDIUMTYPE", "Wrong medium type", none⟩,
  ⟨125, "ECANCELED", "Operation canceled", none⟩,
  ⟨126, "ENOKEY", "Required key not available", none⟩,
  ⟨127, "EKEYEXPIRED", "Key has expired", none⟩,
  ⟨128, "EKEYREVOKED", "Key has been revoked", none⟩,
  ⟨129, "EKEYREJECTED", "Key was rejected by service", none⟩,
  ⟨130, "EOWNERDEAD", "Owner died", none⟩,
  ⟨131, "ENOTRECOVERABLE", "State not recoverable", none⟩,
  ⟨132, "ERFKILL", "Operation not possible due to RF-kill", none⟩,
  ⟨133, "EHWPOISON", "Memory page has hardware error", none⟩]

/-- The entry of a number that is in use. -/
def entry? (e : Errno) : Option Entry :=
  entries.find? (·.number = e.number)

/-- The name of an error number. -/
def name (e : Errno) : String :=
  match e.entry? with
  | some entry => entry.name
  | none => "UnknownErrno"

/-- The description by the kernel. -/
def kernelText (e : Errno) : String :=
  match e.entry? with
  | some entry => entry.kernelText
  | none => "Unknown errno"

/-- The description by the C library, which knows of the number zero as well. -/
def libraryText (e : Errno) : String :=
  match e.entry? with
  | some entry => entry.libraryText.getD entry.kernelText
  | none => if e.number = 0 then "Success" else "Unknown error " ++ toString e.number

/-- Name and kernel description. -/
def message (e : Errno) : String :=
  e.name ++ ": " ++ e.kernelText

/-- The call is not permitted. -/
def notPermitted : Errno := ⟨1⟩

/-- There is no entry of that name. -/
def noEntry : Errno := ⟨2⟩

/-- There is no process of that number. -/
def noProcess : Errno := ⟨3⟩

/-- The call was interrupted. -/
def interrupted : Errno := ⟨4⟩

/-- There is no such device, or none at its address. -/
def noDevice : Errno := ⟨6⟩

/-- The arguments of a program are too long. -/
def argumentsTooLong : Errno := ⟨7⟩

/-- The file is executable in no known format. -/
def execFormat : Errno := ⟨8⟩

/-- No open file has the number of the descriptor. -/
def badDescriptor : Errno := ⟨9⟩

/-- There is no child process to wait for. -/
def noChild : Errno := ⟨10⟩

/-- Permission is denied. -/
def permissionDenied : Errno := ⟨13⟩

/-- What the call is about is in use. -/
def busy : Errno := ⟨16⟩

/-- There is an entry of that name already. -/
def alreadyExists : Errno := ⟨17⟩

/-- A directory was asked for. -/
def notDirectory : Errno := ⟨20⟩

/-- A directory was found. -/
def isDirectory : Errno := ⟨21⟩

/-- An argument is invalid. -/
def invalidArgument : Errno := ⟨22⟩

/-- The process has no number left for an open file. -/
def tooManyOpen : Errno := ⟨24⟩

/-- What was asked for is no terminal. -/
def notTerminal : Errno := ⟨25⟩

/-- The file is being executed, or is to be executed while it is written to. -/
def textBusy : Errno := ⟨26⟩

/-- The file would become too large. -/
def fileTooLarge : Errno := ⟨27⟩

/-- The device has no room left. -/
def noSpace : Errno := ⟨28⟩

/-- What was asked for would have to be waited for. -/
def tryAgain : Errno := ⟨11⟩

/-- The file has no position that could be set. -/
def notSeekable : Errno := ⟨29⟩

/-- Nobody reads the other end of the pipe. -/
def brokenPipe : Errno := ⟨32⟩

/-- A number is outside of the range of numbers. -/
def outOfRange : Errno := ⟨34⟩

/-- A name or a path is too long. -/
def nameTooLong : Errno := ⟨36⟩

/-- The directory has entries. -/
def notEmpty : Errno := ⟨39⟩

/-- Too many symbolic links lead on. -/
def tooManyLinks : Errno := ⟨40⟩

/-- The error of a number for which there is no room. -/
def valueTooLarge : Errno := ⟨75⟩

end Errno

end CommandShell
