import Mathlib.Data.List.Destutter
import Mathlib.Tactic.Common

/-!
# Discovery of USB-tether gateways

Active adapters with a USB ancestor and their private gateways become endpoint candidates, which are
sorted for the user, freed of repetitions and cut to a small number.
-/

namespace LadoFlow.Host

structure Ipv4Addr where
  first : UInt8
  second : UInt8
  third : UInt8
  fourth : UInt8
  deriving DecidableEq, Repr

namespace Ipv4Addr

variable (address : Ipv4Addr)

def isPrivate : Bool :=
  address.first == 10 || (address.first == 172 && (16 ≤ address.second && address.second ≤ 31)) ||
    (address.first == 192 && address.second == 168)

def isLoopback : Bool := address.first == 127

def isLinkLocal : Bool := address.first == 169 && address.second == 254

def isUnspecified : Bool := address == ⟨0, 0, 0, 0⟩

def isBroadcast : Bool := address == ⟨255, 255, 255, 255⟩

def isMulticast : Bool := 224 ≤ address.first && address.first ≤ 239

/-- The four octets in decimal. -/
def text : String :=
  toString address.first.toNat ++ "." ++ toString address.second.toNat ++ "." ++
    toString address.third.toNat ++ "." ++ toString address.fourth.toNat

end Ipv4Addr

def defaultTetherPort : Nat := 49231

def isLocalTetherAddress (address : Ipv4Addr) : Bool :=
  let sharedCarrierNat := address.first == 100 && (64 ≤ address.second && address.second ≤ 127)
  (address.isPrivate || address.isLinkLocal || address.isLoopback || sharedCarrierNat) &&
    !address.isUnspecified && !address.isBroadcast && !address.isMulticast

structure TetherEndpointCandidate where
  endpoint : String
  adapterName : String
  gateway : String
  evidence : String
  deriving DecidableEq, Repr

structure TetherDiscoveryReport where
  candidates : List TetherEndpointCandidate
  detail : String
  deriving DecidableEq, Repr

def initialAdapterBufferBytes : Nat := 15 * 1024
def maxAdapterBufferBytes : Nat := 1024 * 1024
def maxAdapters : Nat := 256
def maxGatewaysPerAdapter : Nat := 8
def maxCandidates : Nat := 16

def afInet : UInt16 := 2
def sizeOfSockaddrIn : Int := 16

/-- A socket address of any family; the octets are those that an IPv4 address has. -/
structure Sockaddr where
  saFamily : UInt16
  sinAddr : Ipv4Addr
  deriving DecidableEq, Repr

structure SocketAddress where
  lpSockaddr : Option Sockaddr
  iSockaddrLength : Int32
  deriving DecidableEq, Repr

/-- An adapter of the list that Windows returns, with its texts as they are read. -/
structure IpAdapter where
  operStatusUp : Bool
  adapterName : String
  friendlyName : String
  description : String
  gateways : List SocketAddress
  deriving DecidableEq, Repr

/-- Unicode white space -/
def isWhiteSpace (character : Char) : Bool :=
  let code := character.toNat
  (9 ≤ code && code ≤ 13) || code == 0x20 || code == 0x85 || code == 0xA0 || code == 0x1680 ||
    (0x2000 ≤ code && code ≤ 0x200A) || code == 0x2028 || code == 0x2029 || code == 0x202F ||
    code == 0x205F || code == 0x3000

def trimEndMatches (pattern : Char → Bool) (text : List Char) : List Char :=
  (text.reverse.dropWhile pattern).reverse

/-- `str::trim` -/
def trim (text : List Char) : List Char :=
  trimEndMatches isWhiteSpace (text.dropWhile isWhiteSpace)

def openBrace : Char := Char.ofNat 123
def closeBrace : Char := Char.ofNat 125

def normalizeAdapterGuid (value : String) : String :=
  let trimmed := trimEndMatches isWhiteSpace (value.toList.dropWhile isWhiteSpace)
  let bare := trimEndMatches (· == closeBrace) (trimmed.dropWhile (· == openBrace))
  String.ofList (bare.map Char.toLower)

/-- Whether the adapter is up and its device has a USB ancestor. -/
def usbBacked (usbNetworkGuids : List String) (adapter : IpAdapter) : Bool :=
  adapter.operStatusUp && usbNetworkGuids.contains (normalizeAdapterGuid adapter.adapterName)

def displayName (adapter : IpAdapter) : String :=
  if adapter.friendlyName = "" then
    if adapter.description = "" then "USB network adapter" else adapter.description
  else adapter.friendlyName

/-- The address of a gateway that may become a candidate. -/
def eligibleGateway (gateway : SocketAddress) : Option Ipv4Addr :=
  match gateway.lpSockaddr with
  | none => none
  | some sockaddr =>
    if sizeOfSockaddrIn ≤ gateway.iSockaddrLength.toInt ∧ sockaddr.saFamily = afInet then
      let address := sockaddr.sinAddr
      if isLocalTetherAddress address && !address.isLoopback then some address else none
    else none

/-- `SocketAddrV4::new(address, DEFAULT_TETHER_PORT).to_string()` -/
def endpointText (gateway : String) : String := gateway ++ ":" ++ toString defaultTetherPort

def candidate (adapterName : String) (address : Ipv4Addr) : TetherEndpointCandidate where
  endpoint := endpointText address.text
  adapterName
  gateway := address.text
  evidence := "USB device-tree parent and active private IPv4 gateway"

def collectAdapterGateways (gateways : List SocketAddress) (adapterName : String) :
    List TetherEndpointCandidate :=
  (gateways.take maxGatewaysPerAdapter).filterMap fun gateway =>
    (eligibleGateway gateway).map (candidate adapterName)

def collectGatewayCandidates (adapters : List IpAdapter) (usbNetworkGuids : List String) :
    List TetherEndpointCandidate :=
  (adapters.take maxAdapters).flatMap fun current =>
    if usbBacked usbNetworkGuids current then
      collectAdapterGateways current.gateways (displayName current)
    else []

inductive AdaptersReply where
  | bufferOverflow (availableBytes : UInt32)
  | failed (error : UInt32)
  | success (adapters : List IpAdapter)
  deriving DecidableEq

/-- Ask for the adapters again while they do not fit into the buffer. -/
def queryAdapters : List AdaptersReply → Nat → Except String (List IpAdapter)
  | [], _ => .error "Windows adapter addresses changed repeatedly during discovery; try again"
  | reply :: replies, requestedBytes =>
    if requestedBytes > maxAdapterBufferBytes then
      .error ("Windows requested an unexpectedly large adapter buffer (" ++ toString requestedBytes ++
        " bytes)")
    else
    match reply with
    | .bufferOverflow availableBytes => queryAdapters replies availableBytes.toNat
    | .failed error =>
      .error ("GetAdaptersAddresses failed with Windows error " ++ toString error.toNat)
    | .success adapters => .ok adapters

/-- What Windows answers: the adapters of USB devices, and each of three queries of the addresses. -/
structure DiscoveryAnswers where
  usbNetworkGuids : Except String (List String)
  firstReply : AdaptersReply
  secondReply : AdaptersReply
  thirdReply : AdaptersReply

def DiscoveryAnswers.adapters (answers : DiscoveryAnswers) : Except String (List IpAdapter) :=
  queryAdapters [answers.firstReply, answers.secondReply, answers.thirdReply]
    initialAdapterBufferBytes

/-- The order by adapter name, then gateway. -/
def notAfter (left right : TetherEndpointCandidate) : Bool :=
  ((compare left.adapterName right.adapterName).then (compare left.gateway right.gateway)).isLE

def discoveryDetail (count : Nat) : String :=
  match count with
  | 0 => "No active private IPv4 gateway was found on a network adapter whose Plug and Play ancestry is USB. Enable Android USB tethering or enter the address manually."
  | 1 => "Found one active private gateway on a USB-backed Windows network adapter. Confirm it matches the address shown by Android before pairing."
  | count => "Found " ++ toString count ++ " active private gateways on USB-backed Windows network adapters. Select the one that matches Android."

def listedCandidates (candidates : List TetherEndpointCandidate) : List TetherEndpointCandidate :=
  ((candidates.mergeSort notAfter).destutter fun left right => left.endpoint ≠ right.endpoint).take
    maxCandidates

def discoverTetherEndpoints (answers : DiscoveryAnswers) : Except String TetherDiscoveryReport := do
  let usbNetworkGuids ← answers.usbNetworkGuids
  let adapters ← answers.adapters
  let candidates := listedCandidates (collectGatewayCandidates adapters usbNetworkGuids)
  .ok ⟨candidates, discoveryDetail candidates.length⟩

end LadoFlow.Host
