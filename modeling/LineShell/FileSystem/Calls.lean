import LineShell.FileSystem.Operations

/-!
# Calls one after the other

One call of the file system is carried out as a whole or refused, and a call that is refused has
changed nothing. This does not carry over to several calls: if one of them is refused, what those
before it have changed stays changed. `Calls` are programs of this kind. They end with a result or
with a fault, and either way with the files as they are by then.

A file is copied by such a program. It opens the source, then the destination, which drops the
contents of a file there or makes an empty one, and only then moves the bytes.
-/

namespace LineShell

/-- What calls find and what they leave. -/
structure Disk where
  /-- The files. -/
  files : FileSystem
  /-- Whether a call has been carried out that can change files. -/
  touched : Bool

/-- Calls one after the other, up to the first one that is refused. -/
abbrev Calls := EStateM Fault Disk

namespace Calls

/-- A call that only looks at the files. -/
def look {α : Type} (ask : FileSystem → Except Fault α) : Calls α := fun disk =>
  match ask disk.files with
  | .ok answer => .ok answer disk
  | .error fault => .error fault disk

/-- A call that can change the files. -/
def change {α : Type} (request : FileSystem → Except Fault (FileSystem × α)) : Calls α :=
  fun disk =>
    match request disk.files with
    | .ok (later, answer) => .ok answer ⟨later, true⟩
    | .error fault => .error fault disk

/-- A call that can change the files and has no answer. -/
def update (request : FileSystem → Except Fault FileSystem) : Calls Unit :=
  change fun fs => (request fs).map (·, ())

/-- What has been opened to be written. -/
inductive Handle
  /-- A file. -/
  | file (id : FileId)
  /-- The device that drops what is written to it. -/
  | nullDevice
  deriving DecidableEq, Repr

/-- The file of the given number, if there is one. -/
def opened (fs : FileSystem) (id : FileId) : Except Fault File :=
  match fs.files[id]? with
  | some file => .ok file
  | none => .error (.refused .other)

/-- Opens a file to be copied, and tells whether its owner may run it. Nothing else is copied. -/
def openSource (path : Path) : Calls (FileId × Bool) :=
  look fun fs => do
    match ← fs.find path .follow with
    | (_, .file id) => .ok (id, (← opened fs id).executable)
    | _ => .error .notAFile

/-- Opens what is to be written. The contents of a file are dropped; where nothing stands, a file
without contents is made. -/
def openDestination (path : Path) (executable : Bool) : Calls Handle :=
  change fun fs => do
    let loc ← fs.locate path .write
    match loc, fs.entry? loc with
    -- Only a file that is made here takes the permission; one that is there keeps its own so far.
    | name :: parent, none =>
      .ok (fs.addFile parent name ⟨[], executable⟩, .file fs.files.size)
    | _, some (.file id) => .ok (fs.setFile id { ← opened fs id with data := [] }, .file id)
    | _, some .nullDevice => .ok (fs, .nullDevice)
    | _, _ => .error (.refused .isADirectory)

/-- Sets whether the owner of a file that has been opened may run it. -/
def setExecutable (executable : Bool) : Handle → Calls Unit
  | .nullDevice => pure ()
  | .file id => update fun fs => do
    .ok (fs.setFile id { ← opened fs id with executable })

/-- Moves the contents that a file now has to the start of what has been opened, and counts the
bytes. -/
def transfer (source : FileId) (destination : Handle) : Calls Nat :=
  change fun fs => do
    -- What the source holds by now, which is nothing if it is the destination.
    let data := (← opened fs source).data
    match destination with
    | .nullDevice => .ok (fs, data.length)
    | .file id =>
      let old ← opened fs id
      .ok (fs.setFile id { old with data := data ++ old.data.drop data.length }, data.length)

/-- Copies a file, contents and permission, and counts the bytes. What the destination leads to is
overwritten; where nothing stands a file is made. A file that is copied to itself ends up empty, for
its contents are dropped before they are moved. -/
def copyFile (source destination : Path) : Calls Nat := do
  let (file, executable) ← openSource source
  let handle ← openDestination destination executable
  setExecutable executable handle
  transfer file handle

end Calls

end LineShell
