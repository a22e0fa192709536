import QueryGate.Text.Utf8

/-!
# The audit directory

Records are kept in files of one directory.  The directory is made when it is first needed, and
may be one that can never be made.  An entry of the directory is a file of bytes or a folder.
Appending is the only change to a file.

The directory may run out of room.  What is appended then is cut off where the room ends, and from
there on nothing more comes into its files.
-/

namespace QueryGate.Audit

open Text

/-- An entry of the directory. -/
inductive File where
  | folder
  | content (bytes : List UInt8)
  deriving DecidableEq, Repr

/-- The state of the directory. -/
inductive Directory where
  /-- It does not exist and cannot be made. -/
  | unavailable
  /-- It does not exist yet. -/
  | absent
  /-- Its entries, by name. -/
  | present (files : List (Text × File))
  /-- Its entries, where there is room for so many more bytes only. -/
  | scarce (files : List (Text × File)) (room : Nat)
  deriving DecidableEq, Repr

namespace Directory

/-- The entries of the directory; one that does not exist has none. -/
def files : Directory → List (Text × File)
  | present files | scarce files _ => files
  | unavailable | absent => []

/-- The directory, made if need be. -/
def ensure : Directory → Directory
  | absent => present []
  | d => d

/-- Whether files can be made in the directory. -/
def isWritable : Directory → Bool
  | unavailable => false
  | _ => true

/-- The entries with bytes added to a file, made if need be; a folder takes no bytes. -/
def appendTo (name : Text) (bytes : List UInt8) :
    List (Text × File) → Option (List (Text × File))
  | [] => some [(name, .content bytes)]
  | (n, f) :: rest =>
    if n = name then
      match f with
      | .content old => some ((n, .content (old ++ bytes)) :: rest)
      | .folder => none
    else (appendTo name bytes rest).map ((n, f) :: ·)

/-- The directory with bytes added to a file, if there is room for all of them. -/
def append? (name : Text) (bytes : List UInt8) : Directory → Option Directory
  | unavailable => none
  | absent => (appendTo name bytes []).map present
  | present files => (appendTo name bytes files).map present
  | scarce files room =>
    if bytes.length ≤ room then
      (appendTo name bytes files).map (scarce · (room - bytes.length))
    else none

/-- What an attempt to add bytes to a file leaves if it fails: the bytes for which there was room,
and otherwise the directory alone. -/
def leftBy (name : Text) (bytes : List UInt8) : Directory → Directory
  | scarce files room =>
    match appendTo name (bytes.take room) files with
    | some files => scarce files 0
    | none => scarce files room
  | d => d.ensure

/-- The entries with a folder of a name, unless there is an entry of that name. -/
def withFolder (name : Text) (files : List (Text × File)) : List (Text × File) :=
  if files.any (·.1 == name) then files else files ++ [(name, .folder)]

/-- The directory with a folder of a name. -/
def addFolder (name : Text) : Directory → Directory
  | unavailable => unavailable
  | absent => present (withFolder name [])
  | present files => present (withFolder name files)
  | scarce files room => scarce (withFolder name files) room

/-- The entries sorted by name. -/
def sorted (d : Directory) : List (Text × File) := d.files.mergeSort fun a b => Text.le a.1 b.1

end Directory

end QueryGate.Audit
