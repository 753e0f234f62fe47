import Downlink.Storage
import Downlink.Storage.Place

/-!
# A tree of files

The files that a program sees are listed by place. What is not listed is absent. A path is followed
component by component: each one before the last has to be a directory, and the first that is not
one is the fault.
-/

namespace Downlink

/-- What is known to exist, the latest first. A listed place lies in directories that exist. -/
structure Files where
  listed : List (Place × Entry)

namespace Files

/-- Nothing but the root and the working directory. -/
def empty : Files := ⟨[]⟩

/-- Whether a place is a directory. -/
def isDirectory (f : Files) (p : Place) : Bool :=
  p.names.isEmpty ||
    match f.listed.lookup p with
    | some .directory => true
    | some _ => false
    | none => f.listed.any fun other => other.1.isBelow p

/-- The longest name in a directory, in bytes. -/
def longestName : Nat := 255

/-- The longest path, in bytes. -/
def longestPath : Nat := 4095

/-- One component of a path that goes on behind it. -/
def enter (f : Files) (p : Place) (component : String) : Except SystemFault Place :=
  let next := p.step component
  if longestName < component.utf8ByteSize then .error .longName
  else if component = "." ∨ component = ".." ∨ f.isDirectory next then .ok next
  else
    match f.listed.lookup next with
    | some (.unreachable fault _) => .error fault
    | some e => .error (if e.occupied then .notDirectory else .notFound)
    | none => .error .notFound

/-- What a name in a directory leads to; a slash behind it asks for a directory. -/
def named (f : Files) (p : Place) (name : String) (slash : Bool) : Entry :=
  if longestName < name.utf8ByteSize then
    .unreachable .longName (if slash then .isDirectory else .longName)
  else if f.isDirectory (p.down name) then .directory
  else
    match (f.listed.lookup (p.down name)).getD .absent, slash with
    | .absent, true => .unreachable .notFound .isDirectory
    | .file _, true => .unreachable .notDirectory .isDirectory
    | .nullDevice, true => .unreachable .notDirectory .isDirectory
    | .fullDevice, true => .unreachable .notDirectory .isDirectory
    | e, _ => e

/-- What the components of a path lead to. -/
def follow (f : Files) (p : Place) (slash : Bool) : List String → Entry
  | [] => .directory
  | [last] => if last = "." ∨ last = ".." then .directory else f.named p last slash
  | component :: rest =>
    match f.enter p component with
    | .ok next => f.follow next slash rest
    | .error fault => .unreachable fault fault

/-- What a path leads to. -/
def entry (f : Files) (path : String) : Entry :=
  if path.toList.contains '\x00' then .unreachable .nulInName .nulInName
  else if path.isEmpty then .unreachable .notFound .notFound
  else if longestPath < path.utf8ByteSize then .unreachable .longName .longName
  else f.follow (Place.origin path) (Place.endsInSlash path) (Place.components path)

/-- Changes what a path leads to. -/
def put (f : Files) (path : String) (e : Entry) : Files :=
  ⟨(Place.ofPath path, e) :: f.listed.filter fun listed => listed.1 != Place.ofPath path⟩

/-- Removes what a path leads to. -/
def remove (f : Files) (path : String) : Files :=
  ⟨f.listed.filter fun listed => listed.1 != Place.ofPath path⟩

/-- The bytes of a file, if a path leads to one. -/
def bytes? (f : Files) (path : String) : Option ByteArray :=
  match f.entry path with
  | .file bytes => some bytes
  | _ => none

/-- The text of a file, if a path leads to one that holds text. -/
def text? (f : Files) (path : String) : Option String := (f.bytes? path).bind String.fromUTF8?

/-- Applies an operation that may make or replace a file to what a path leads to. -/
def update {α : Type} (f : Files) (path : String) (operation : Entry → α × Entry) : α × Files :=
  match operation (f.entry path) with
  | (answer, .file bytes) => (answer, f.put path (.file bytes))
  | (answer, _) => (answer, f)

/-- The names of the programs that every system has. -/
def programs : List String := ["dash", "echo", "false", "printf", "sh", "true"]

/-- How the file of a program starts, which is no text. -/
def programStart : ByteArray := ⟨#[0x7F, 0x45, 0x4C, 0x46, 2, 1, 1, 0, 0xB8]⟩

/-- The directories, devices and programs that every system has. -/
def ofSystem : Files :=
  ["/bin", "/dev", "/etc", "/home", "/proc", "/root", "/sys", "/tmp", "/usr", "/usr/bin", "/var"]
    |>.foldl (fun f path => f.put path .directory)
      ((["/bin/", "/usr/bin/"].flatMap fun d => programs.map (d ++ ·)).foldl
        (fun f path => f.put path (.file programStart))
        ((empty.put "/dev/null" .nullDevice).put "/dev/full" .fullDevice))

/-- The starts of a path that end with a component, the whole path last. -/
def starts (path : String) : List String :=
  let components := Place.components path
  let front := if path.toList.head? = some '/' then "/" else ""
  (List.range components.length).map fun n =>
    front ++ "/".intercalate (components.take (n + 1))

end Files

end Downlink
