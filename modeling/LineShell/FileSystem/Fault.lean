import LineShell.Text.Quoted

/-!
# Faults

Why an operation on files, or on the output, fails. A fault has a kind, by which callers decide,
and a message, which is shown.
-/

namespace LineShell

/-- The kinds of faults. -/
inductive Fault.Kind
  /-- There is no such entry. -/
  | notFound
  /-- The entry is there already. -/
  | alreadyExists
  /-- Something other than a directory stands where a directory is needed. -/
  | notADirectory
  /-- A directory stands where a file is needed. -/
  | isADirectory
  /-- A directory that is to be removed has entries. -/
  | directoryNotEmpty
  /-- The user may not do what is asked for. -/
  | permissionDenied
  /-- A name or a path is longer than allowed. -/
  | nameTooLong
  /-- A lookup meets more links than allowed. -/
  | tooManyLinks
  /-- The entry is in use. -/
  | busy
  /-- A request that no file could satisfy. -/
  | invalidInput
  /-- Contents that are not of the form asked for. -/
  | invalidData
  /-- Any other reason. -/
  | other
  deriving DecidableEq, Repr

/-- Why an operation fails. -/
inductive Fault
  /-- The file system refuses, for a reason that it has a number for. -/
  | refused (kind : Fault.Kind)
  /-- The operation fails for a reason that it words itself. -/
  | described (kind : Fault.Kind) (text : String)
  deriving DecidableEq, Repr

namespace Fault

/-- The kind of a fault. -/
def kind : Fault → Kind
  | refused kind => kind
  | described kind _ => kind

/-- The name of a kind of fault. -/
def Kind.name : Kind → String
  | .notFound => "NotFound"
  | .alreadyExists => "AlreadyExists"
  | .notADirectory => "NotADirectory"
  | .isADirectory => "IsADirectory"
  | .directoryNotEmpty => "DirectoryNotEmpty"
  | .permissionDenied => "PermissionDenied"
  | .nameTooLong => "InvalidFilename"
  | .tooManyLinks => "FilesystemLoop"
  | .busy => "ResourceBusy"
  | .invalidInput => "InvalidInput"
  | .invalidData => "InvalidData"
  | .other => "Other"

/-- The text of the file system for a kind of fault. -/
def Kind.text : Kind → String
  | .notFound => "No such file or directory"
  | .alreadyExists => "File exists"
  | .notADirectory => "Not a directory"
  | .isADirectory => "Is a directory"
  | .directoryNotEmpty => "Directory not empty"
  | .permissionDenied => "Permission denied"
  | .nameTooLong => "File name too long"
  | .tooManyLinks => "Too many levels of symbolic links"
  | .busy => "Device or resource busy"
  | .invalidInput => "Invalid argument"
  | .invalidData => "Invalid or incomplete multibyte or wide character"
  | .other => "Input/output error"

/-- The number of the file system for a kind of fault. -/
def Kind.number : Kind → Nat
  | .notFound => 2
  | .alreadyExists => 17
  | .notADirectory => 20
  | .isADirectory => 21
  | .directoryNotEmpty => 39
  | .permissionDenied => 13
  | .nameTooLong => 36
  | .tooManyLinks => 40
  | .busy => 16
  | .invalidInput => 22
  | .invalidData => 84
  | .other => 5

/-- How a fault is shown. -/
def message : Fault → String
  | refused kind => s!"{kind.text} (os error {kind.number})"
  | described _ text => text

/-- A fault with all that is known of it. -/
def detailed : Fault → String
  | refused kind =>
    s!"Os \x7b code: {kind.number}, kind: {kind.name}, message: {Text.quote kind.text} \x7d"
  | described kind text => s!"Error \x7b kind: {kind.name}, message: {Text.quote text} \x7d"

/-- A path holds the byte zero. -/
def zeroByte : Fault :=
  .described .invalidInput "file name contained an unexpected NUL byte"

/-- What is to be copied is not a file. -/
def notAFile : Fault :=
  .described .invalidInput
    "the source path is neither a regular file nor a symlink to a regular file"

/-- What is to be read as text is not. -/
def notText : Fault :=
  .described .invalidData "stream did not contain valid UTF-8"

end Fault

end LineShell
