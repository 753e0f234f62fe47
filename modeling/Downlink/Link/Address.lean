import Downlink.Decimal.Reading
import Downlink.Error
import Downlink.Link.Host

/-!
# Addresses

An address is a host and, behind the last colon, a port. A long number may stand in brackets, so
that its own colons do not run into the port.
-/

namespace Downlink

/-- Where a receiver listens. -/
structure Address where
  host : Raw
  port : Nat
  deriving DecidableEq, Repr

namespace Address

/-- The texts in front of and behind the last colon. -/
def split? (text : Raw) : Option (Raw × Raw) :=
  let port := (text.reverse.takeWhile (· != ':')).reverse
  if port.length = text.length then none
  else some (text.take (text.length - port.length - 1), port)

/-- A host without the brackets around a long number. Other brackets belong to the host. -/
def unbracketed (text : Raw) : Raw :=
  match text with
  | '[' :: rest =>
    let inside := rest.dropLast
    let long := Host.zoned? (fun _ => Host.zoneNumber?) inside
    if rest.getLast? = some ']' ∧ long.isSome then inside else text
  | text => text

/-- Reads an address. The port is looked at first; brackets are meant for a port in digits alone. -/
def ofText (text : String) : Except LinkFault Address :=
  match split? text.toList with
  | none => .error (.noPort text)
  | some (host, port) =>
    match Decimal.unsigned? 65536 (String.ofList port) with
    | none => .error (.badPort text)
    | some number =>
      if host.contains '\x00' then .error (.connect text .nulInName)
      else .ok ⟨if port.all Char.isDigit then unbracketed host else host, number⟩

/-- The fault of reaching an address from a machine all of whose networks are down. No short number
is reachable then, long ones lack an address to start from, and no name can be looked up. -/
def faultOffline (a : Address) : SystemFault :=
  match Host.ofRaw a.host with
  | .short _ => .noNetwork
  | .long number zone =>
    if Host.isMulticast number || Host.isMapped number then .noNetwork
    else if Host.isLinkLocal number && zone == 0 then .badArgument
    else .noOwnAddress
  | .name text => if Host.isName text then .unresolvedName else .unknownName

example : (ofText "[::1]:9").toOption = some ⟨"::1".toList, 9⟩ := by decide +kernel
example : (ofText "[::1]:+9").toOption = some ⟨"[::1]".toList, 9⟩ := by decide +kernel

end Address

end Downlink
