import Downlink.Error

/-!
# Files

What a path leads to, before and after an operation. Reading text needs a file that holds text;
writing replaces the bytes of a file, or makes one where the directory exists.
-/

namespace Downlink

/-- What a path leads to. -/
inductive Entry where
  /-- Nothing, in a directory that exists. -/
  | absent
  /-- Nothing, and no place to put a file: the faults of reading there and of writing there. -/
  | unreachable (reading writing : SystemFault)
  | directory
  | file (bytes : ByteArray)
  /-- A device that reads as an empty file and takes whatever is written. -/
  | nullDevice
  /-- A device that has no room for anything. -/
  | fullDevice

namespace Entry

/-- A file that holds a text. -/
def ofText (text : String) : Entry := .file text.toUTF8

/-- Whether there is anything at the path. -/
def occupied : Entry → Bool
  | absent => false
  | unreachable _ _ => false
  | directory => true
  | file _ => true
  | nullDevice => true
  | fullDevice => true

/-- The bytes of a file. -/
def read : Entry → Except Error ByteArray
  | absent => .error (.storage .notFound)
  | unreachable fault _ => .error (.storage fault)
  | directory => .error (.storage .isDirectory)
  | file bytes => .ok bytes
  | nullDevice => .ok .empty
  | fullDevice => .ok .empty

/-- The text of a file. -/
def readText (e : Entry) : Except Error String := do
  match String.fromUTF8? (← e.read) with
  | some text => return text
  | none => throw (.storage .notText)

/-- The bytes put at the path, and what the path leads to then. -/
def write (e : Entry) (bytes : ByteArray) : Except Error Unit × Entry :=
  match e with
  | absent => (.ok (), .file bytes)
  | unreachable _ fault => (.error (.storage fault), e)
  | directory => (.error (.storage .isDirectory), e)
  | file _ => (.ok (), .file bytes)
  | nullDevice => (.ok (), e)
  | fullDevice => (if bytes.isEmpty then .ok () else .error (.storage .noRoom), e)

/-- A text put at the path, and what the path leads to then. -/
def writeText (e : Entry) (text : String) : Except Error Unit × Entry := e.write text.toUTF8

end Entry

end Downlink
