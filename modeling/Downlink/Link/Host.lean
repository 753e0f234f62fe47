import Downlink.Power
import Downlink.Text.Raw

/-!
# Hosts

A host is a number or a name. A number of 32 bits is written in one to four parts, a number of 128
bits in groups of four digits, where a double colon stands for groups of zero. What is neither is a
name, which may still be no name that anything can have.
-/

namespace Downlink

/-- What the text of a host stands for. -/
inductive Host where
  /-- A number of 32 bits. -/
  | short (number : Nat)
  /-- A number of 128 bits and the network, by its number, in which it is looked for. -/
  | long (number zone : Nat)
  | name (text : Raw)
  deriving DecidableEq, Repr

namespace Host

/-! ### Short numbers -/

/-- The number of a part: hexadecimal behind `0x`, octal behind another zero, otherwise decimal. -/
def part? (text : Raw) : Option Nat :=
  let (base, digits) := match text with
    | '0' :: c :: rest => if c = 'x' ∨ c = 'X' then (16, rest) else (8, c :: rest)
    | text => (10, text)
  if digits.isEmpty || !digits.all (Raw.isDigitOf base) then none else some (Raw.value base digits)

/-- A short number in parts: each part but the last is a byte, and the last one fills the rest. -/
def short? (text : Raw) : Option Nat := do
  let parts ← (Raw.pieces '.' text).mapM part?
  let (bytes, last) := (parts.dropLast, parts.getLastD 0)
  if 3 < bytes.length ∨ bytes.any (255 < ·) then none
  else
    let room := Nat.pow 256 (4 - bytes.length)
    if room ≤ last then none else some (bytes.foldl (fun n b => n * 256 + b) 0 * room + last)

/-! ### Long numbers -/

/-- The number of a group. -/
def group? (text : Raw) : Option Nat :=
  if text.isEmpty || 4 < text.length || !text.all (Raw.isDigitOf 16) then none
  else some (Raw.value 16 text)

/-- A byte in decimal without needless zeros. -/
def byte? (text : Raw) : Option Nat :=
  if text.isEmpty || !text.all Char.isDigit || (1 < text.length && text.head? == some '0') then none
  else some (Raw.value 10 text) |>.filter (· < 256)

/-- Two groups that are written as four bytes. -/
def fourBytes? (text : Raw) : Option (List Nat) := do
  match ← (Raw.pieces '.' text).mapM byte? with
  | [a, b, c, d] => some [a * 256 + b, c * 256 + d]
  | _ => none

/-- The numbers of groups, of which the last two may be written as four bytes. -/
def groups? : List Raw → Option (List Nat)
  | [] => some []
  | [last] => if last.contains '.' then fourBytes? last else (group? last).map fun n => [n]
  | first :: rest => do return (← group? first) :: (← groups? rest)

/-- The groups on one side of a double colon. -/
def side? (text : Raw) : Option (List Nat) :=
  if text.isEmpty then some [] else groups? (Raw.pieces ':' text)

/-- The texts in front of and behind the first double colon. -/
def splitDouble? : Raw → Option (Raw × Raw)
  | ':' :: ':' :: rest => some ([], rest)
  | c :: rest => (splitDouble? rest).map fun sides => (c :: sides.1, sides.2)
  | [] => none

/-- A long number. A double colon stands for at least one group. -/
def long? (text : Raw) : Option Nat := do
  let groups ← match splitDouble? text with
    | none => (groups? (Raw.pieces ':' text)).filter fun groups => groups.length == 8
    | some (front, back) => do
      let front ← if front.contains '.' then none else side? front
      let back ← side? back
      if 7 < front.length + back.length then none
      else some (front ++ List.replicate (8 - front.length - back.length) 0 ++ back)
  return groups.foldl (fun n g => n * 65536 + g) 0

/-- Whether a long number stands for several hosts. -/
def isMulticast (number : Nat) : Bool := number / twoTo 120 == 0xFF

/-- Whether a long number has a meaning in one network alone and stands for one host. -/
def isLinkLocal (number : Nat) : Bool := number / twoTo 118 == 0x3FA

/-- Whether a long number holds a short one. -/
def isMapped (number : Nat) : Bool := number / twoTo 32 == 0xFFFF

/-! ### Zones -/

/-- The number of a network by its digits. -/
def zoneNumber? (digits : Raw) : Option Nat :=
  if digits.isEmpty || !digits.all Char.isDigit then none
  else some (Raw.value 10 digits) |>.filter (· < twoTo 32)

/-- The network behind a long number. The one inside the machine is known by name too, to numbers
that have a meaning in one network alone. -/
def zone? (number : Nat) (text : Raw) : Option Nat :=
  let isLocal := isLinkLocal number || isMulticast number && number / twoTo 112 % 16 == 2
  if isLocal ∧ text = "lo".toList then some 1 else zoneNumber? text

/-- A long number and, behind a percent sign, its zone, which `readZone` reads. -/
def zoned? (readZone : Nat → Raw → Option Nat) (text : Raw) : Option Host := do
  let front := text.takeWhile (· != '%')
  let number ← long? front
  match text.drop front.length with
  | [] => return .long number 0
  | _ :: zone => return .long number (← readZone number zone)

/-! ### Names -/

/-- The name of the machine itself. -/
def self : Raw := "localhost".toList

/-- The number of the machine itself. -/
def selfNumber : Nat := 0x7F000001

/-- What a text stands for. -/
def ofRaw (text : Raw) : Host :=
  if text.map Char.toLower = self then .short selfNumber
  else
    match short? text, zoned? zone? text with
    | some number, _ => .short number
    | none, some host => host
    | none, none => .name text

/-- Whether a part of a name is well formed. -/
def isLabel (text : Raw) : Bool :=
  !text.isEmpty && text.length ≤ 63 &&
    text.all fun c => c.isAlphanum || c == '-' || c == '_'

/-- Whether a host can have a name. A point behind it does not matter. -/
def isName (text : Raw) : Bool :=
  let labels := Raw.pieces '.' text
  let labels := if labels.getLast? = some [] then labels.dropLast else labels
  text == ['.'] || (!labels.isEmpty && labels.all isLabel && text.head? != some '-' &&
    (['.'].intercalate labels).length ≤ 253)

example : ofRaw "127.1".toList = .short 0x7F000001 := by decide +kernel
example : ofRaw "1.2.3.08".toList = .name "1.2.3.08".toList := by decide +kernel
example : ofRaw "::1.2.3.4".toList = .long 0x01020304 0 := by decide +kernel

end Host

end Downlink
