import LadoFlow.Framework.Codec
import LadoFlow.Framework.Decimal
import LadoFlow.Host.TetherDiscovery

/-!
# The endpoint that the user enters

Numeric addresses as the standard library of the host reads them, and the endpoints that a pairing accepts. A
reader gives back what it leaves of the text.
-/

namespace LadoFlow.Host

open Framework

section Readers

def readGivenChar (given : Char) : List Char → Option (List Char)
  | [] => none
  | first :: rest => if first = given then some rest else none

/-- `read_number` in base ten; the number has to stay below a limit. -/
def readNumber (maxDigits : Option Nat) (allowZeroPrefix : Bool) (limit : Nat) (text : List Char) :
    Option (Nat × List Char) :=
  let digits := text.takeWhile Char.isDigit
  if maxDigits.any (· < digits.length) then none
  else if digits = [] then none
  else if !allowZeroPrefix && digits.head? = some '0' && 1 < digits.length then none
  else
    let number := Nat.ofDigitChars 10 digits 0
    if number < limit then some (number, text.dropWhile Char.isDigit) else none

def readOctet (text : List Char) : Option (UInt8 × List Char) :=
  (readNumber (some 3) false 256 text).map fun read => (.ofNat read.1, read.2)

def readIpv4Addr (text : List Char) : Option (Ipv4Addr × List Char) := do
  let (first, text) ← readOctet text
  let text ← readGivenChar '.' text
  let (second, text) ← readOctet text
  let text ← readGivenChar '.' text
  let (third, text) ← readOctet text
  let text ← readGivenChar '.' text
  let (fourth, text) ← readOctet text
  some (⟨first, second, third, fourth⟩, text)

def readPort (text : List Char) : Option (UInt16 × List Char) := do
  let text ← readGivenChar ':' text
  (readNumber none true 65536 text).map fun read => (.ofNat read.1, read.2)

def readSocketAddrV4 (text : List Char) : Option ((Ipv4Addr × UInt16) × List Char) := do
  let (address, text) ← readIpv4Addr text
  let (port, text) ← readPort text
  some ((address, port), text)

def isHexDigit (character : Char) : Bool :=
  character.isDigit || ('a' ≤ character && character ≤ 'f') || ('A' ≤ character && character ≤ 'F')

/-- A group of an IPv6 address; its value does not matter here. -/
def skipGroup (text : List Char) : Option (List Char) :=
  let digits := text.takeWhile isHexDigit
  if digits = [] ∨ 4 < digits.length then none else some (text.dropWhile isHexDigit)

/-- The reader behind the separator that every group but the first has. -/
def behindSeparator {α : Type} (index : Nat) (inner : List Char → Option α) (text : List Char) : Option α :=
  if index = 0 then inner text else (readGivenChar ':' text).bind inner

/-- `read_groups`: how many groups there are, and whether an IPv4 address ended them. -/
def skipGroups : Nat → Nat → List Char → Nat × Bool × List Char
  | 0, index, text => (index, false, text)
  | left + 1, index, text =>
    match if 0 < left then behindSeparator index readIpv4Addr text else none with
    | some (_, rest) => (index + 2, true, rest)
    | none =>
      match behindSeparator index skipGroup text with
      | some rest => skipGroups left (index + 1) rest
      | none => (index, false, text)

def skipIpv6Addr (text : List Char) : Option (List Char) :=
  let (headSize, headIpv4, rest) := skipGroups 8 0 text
  if headSize = 8 then some rest
  else if headIpv4 then none
  else do
    let rest ← readGivenChar ':' rest
    let rest ← readGivenChar ':' rest
    some (skipGroups (8 - (headSize + 1)) 0 rest).2.2

def skipScopeId (text : List Char) : List Char :=
  match (readGivenChar '%' text).bind (readNumber none true (2 ^ 32)) with
  | some (_, rest) => rest
  | none => text

def readSocketAddrV6 (text : List Char) : Option (List Char) := do
  let text ← readGivenChar '[' text
  let text ← skipIpv6Addr text
  let text ← readGivenChar ']' (skipScopeId text)
  let (_, text) ← readPort text
  some text

inductive SocketAddr where
  | v4 (address : Ipv4Addr) (port : UInt16)
  | v6
  deriving DecidableEq

/-- `str::parse::<SocketAddr>` -/
def parseSocketAddr (text : List Char) : Option SocketAddr :=
  match readSocketAddrV4 text with
  | some ((address, port), rest) => if rest = [] then some (.v4 address port) else none
  | none => if readSocketAddrV6 text = some [] then some .v6 else none

/-- `str::parse::<Ipv4Addr>` -/
def parseIpv4Addr (text : List Char) : Option Ipv4Addr :=
  if 15 < text.length then none
  else
    match readIpv4Addr text with
    | some (address, rest) => if rest = [] then some address else none
    | none => none

end Readers

def parseTetherEndpoint (value : String) : Except String (Ipv4Addr × UInt16) :=
  let normalized := trim value.toList
  if normalized = [] then .error "enter the Android USB-tether IPv4 address"
  else
    match (parseSocketAddr normalized).or
        ((parseIpv4Addr normalized).map (.v4 · (.ofNat defaultTetherPort))) with
    | none =>
      .error ("USB-tether endpoint must be a numeric IPv4 address with an optional port, for example " ++
        s!"192.168.42.129:{defaultTetherPort}")
    | some .v6 => .error "USB-tether IPv6 endpoints are not supported in this build"
    | some (.v4 address port) =>
      if port = 0 then .error "USB-tether endpoint port must be between 1 and 65535"
      else if !isLocalTetherAddress address then
        .error (s!"refusing non-local address {address.text}; USB-tether mode only accepts private, " ++
          "carrier-grade NAT, link-local, or loopback IPv4 addresses")
      else .ok (address, port)

end LadoFlow.Host
