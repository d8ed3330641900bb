import LadoFlow.Framework.Machine
import LadoFlow.Android.TetherPairing

/-!
# The pairing listener of the display

`TetherPairingServer.serve` as a machine over the clock readings of its thread, the peers that
connect, the bytes they send and a concurrent `close`. Every step carries the reading at which it
ends; a blocking call carries the reading at which it began as well.
-/

namespace LadoFlow.Android

open Framework
open LadoFlow.Transport

structure TetherListenerEndpoint where
  address : String
  port : Int32
  deriving DecidableEq, Repr

inductive TetherPairingServerEvent where
  | listening (endpoint : TetherListenerEndpoint) (code : String) (failedHandshakes : Int32)
  | authenticating (endpoint : TetherListenerEndpoint) (code hostAddress : String)
    (failedHandshakes : Int32)
  | rejected (endpoint : TetherListenerEndpoint) (failedHandshakes : Int32) (reason : String)
  deriving DecidableEq, Repr

inductive TetherPairingServerResult where
  | authenticated (endpoint : TetherListenerEndpoint) (hostAddress : String)
  | expired (endpoint : TetherListenerEndpoint)
  | lockedOut (endpoint : TetherListenerEndpoint)
  | closed
  | failed (reason : String)
  deriving DecidableEq, Repr

/-- The arguments of `TetherPairingServer.open`, with the checks it makes. -/
structure TetherPairingServer where
  endpoint : TetherListenerEndpoint
  token : TetherPairingToken
  displayCode : String
  lifetimeMillis : Int64
  handshakeTimeoutMillis : Int32
  maximumFailedHandshakes : Int32
  lifetimeMillis_pos : 0 < lifetimeMillis
  handshakeTimeoutMillis_pos : 0 < handshakeTimeoutMillis
  maximumFailedHandshakes_pos : 0 < maximumFailedHandshakes

def nanosPerMillisecond : Int64 := 1000000
def acceptPollMillis : Int64 := 1000

namespace TetherPairingServer

section Clock

variable (server : TetherPairingServer)

def lifetimeNanos : Int64 := server.lifetimeMillis * nanosPerMillisecond

def deadline (startedAt : Int64) : Int64 :=
  if 9223372036854775807 - startedAt < server.lifetimeNanos then 9223372036854775807
  else startedAt + server.lifetimeNanos

def remainingMillis (deadlineNanos now : Int64) : Int64 :=
  let remainingNanos := deadlineNanos - now
  if remainingNanos ≤ 0 then 0
  else (remainingNanos + nanosPerMillisecond - 1) / nanosPerMillisecond

def acceptTimeout (remainingMillis : Int64) : Int32 :=
  (max (min acceptPollMillis remainingMillis) 1).toInt32

def handshakeTimeout (remainingMillis : Int64) : Int32 :=
  max (min server.handshakeTimeoutMillis (min remainingMillis 2147483647).toInt32) 1

/-- The end of the advertised lifetime, without overflow. -/
def windowEnd (startedAt : Int64) : Int :=
  startedAt.toInt + server.lifetimeMillis.toInt * 1000000

end Clock

section Handshake

variable (hmacSha256 : TetherPairingToken → Bytes → PairingTag) (token : TetherPairingToken)

/-- `TetherPairingToken.computeTag`. -/
def computeTag (valid : Bool) (kind : PairingRecordKind) (hostNonce displayNonce : SignedBytes) :
    Except String SignedBytes :=
  if valid then computePairingTag hmacSha256 token kind hostNonce displayNonce
  else .error "USB tether pairing token is no longer valid"

/-- Both nonces and the record that answers the hello of the host. -/
def answerHello (valid : Bool) (displayNonceSource : Except String SignedBytes)
    (encoded : SignedBytes) : Except String ((SignedBytes × SignedBytes) × SignedBytes) := do
  let hostHello ← readPairingRecord encoded .hostHello
  let displayNonce ← displayNonceSource
  if displayNonce.length ≠ 16 ∨ displayNonce.all (· = 0) then
    .error "Display nonce must contain 16 bytes and must not be zero"
  else do
  let displayHelloTag ← computeTag hmacSha256 token valid .displayHello hostHello.nonce
    displayNonce
  let written ← encodePairingRecord ⟨.displayHello, displayNonce, displayHelloTag⟩
  .ok ((hostHello.nonce, displayNonce), written)

def answerFinished (valid : Bool) (hostNonce displayNonce encoded : SignedBytes) :
    Except String SignedBytes := do
  let hostFinished ← readPairingRecord encoded .hostFinished
  let expectedHostTag ← computeTag hmacSha256 token valid .hostFinished hostNonce displayNonce
  if expectedHostTag ≠ hostFinished.tag then
    .error "HostFinished authentication tag did not match"
  else do
  let displayFinishedTag ← computeTag hmacSha256 token valid .displayFinished hostNonce
    displayNonce
  encodePairingRecord ⟨.displayFinished, List.replicate 16 0, displayFinishedTag⟩

variable {hmacSha256} {token}

/-- With a valid token the answers are those of the handshake that pairs the two devices. -/
theorem answerHello_valid (displayNonce encoded : SignedBytes) :
    answerHello hmacSha256 token true (.ok displayNonce) encoded =
      (performDisplayHello hmacSha256 token displayNonce encoded).map
        fun (hostNonce, written) => ((hostNonce, displayNonce), written) := by
  simp only [answerHello, performDisplayHello, computeTag, if_true]
  cases readPairingRecord encoded .hostHello with
  | error message => rfl
  | ok hostHello =>
    by_cases hnonce : displayNonce.length ≠ 16 ∨ displayNonce.all (· = 0)
    · simp only [bind, Except.bind, if_pos hnonce, Except.map]
    · simp only [bind, Except.bind, if_neg hnonce]
      cases computePairingTag hmacSha256 token .displayHello hostHello.nonce displayNonce with
      | error message => rfl
      | ok tag =>
        simp only
        cases encodePairingRecord ⟨.displayHello, displayNonce, tag⟩ <;> rfl

theorem answerFinished_valid (hostNonce displayNonce encoded : SignedBytes) :
    answerFinished hmacSha256 token true hostNonce displayNonce encoded =
      performDisplayFinished hmacSha256 token hostNonce displayNonce encoded := by
  simp only [answerFinished, performDisplayFinished, computeTag, if_true]

end Handshake

inductive HandshakeStage where
  | hello
  | finished (hostNonce displayNonce : SignedBytes)
  deriving DecidableEq, Repr

/-- The accepted socket; `soTimeout` is set once for all reads of its handshake. -/
structure TetherSocket where
  hostAddress : String
  soTimeout : Int32
  isOpen : Bool
  deriving DecidableEq, Repr

/-- Where the serving thread stands. -/
inductive ServePoint where
  | polling
  | polled (remainingMillis : Int64)
  | accepting (soTimeout : Int32)
  | connected
  | registered
  | reading (stage : HandshakeStage) (buffer : SignedBytes)
  | answering (stage : HandshakeStage) (encoded : SignedBytes)
  | writing (record : SignedBytes) (next : Option HandshakeStage)
  | failed (message : Option String)
  | returned (result : TetherPairingServerResult) (at_ : Int64)
  | threw (message : String)
  deriving DecidableEq, Repr

inductive ServeAction where
  | poll
  | arm
  | accepted (began : Int64) (hostAddress : Option String)
  | acceptTimesOut (began : Int64)
  | acceptFails (isSocketException : Bool) (message : Option String)
  | register
  | prepare
  | received (began : Int64) (chunk : SignedBytes)
  | ended
  | answer (displayNonceSource : Except String SignedBytes)
  | written
  | fails (message : Option String)
  | settle
  | close

structure ServeTurn where
  now : Int64
  action : ServeAction

structure Serving where
  clock : Int64
  failedHandshakes : Int32
  closed : Bool
  tokenValid : Bool
  socket : Option TetherSocket
  pending : Bool
  point : ServePoint
  events : List TetherPairingServerEvent
  /-- How many handshakes ended without success, also those that the code does not count. -/
  unsuccessful : Nat
  deriving DecidableEq, Repr

namespace Serving

/-- `pendingSocket.getAndSet(null)`, and the socket that was there is closed. -/
def closePending (s : Serving) : Serving :=
  { s with
    socket := if s.pending then s.socket.map fun socket => { socket with isOpen := false }
      else s.socket
    pending := false }

/-- The `finally` block. -/
def leave (s : Serving) (point : ServePoint) : Serving :=
  { s.closePending with tokenValid := false, point }

def return_ (s : Serving) (result : TetherPairingServerResult) : Serving :=
  s.leave (.returned result s.clock)

/-- The body of `runCatching` ends with an exception. -/
def fail (s : Serving) (message : Option String) : Serving :=
  { s with point := .failed message, unsuccessful := s.unsuccessful + 1 }

/-- `TetherPairingServer.close` on another thread. -/
def close (s : Serving) : Serving :=
  if s.closed then s else { s.closePending with closed := true, tokenValid := false }

def socketIsOpen (s : Serving) : Bool := s.socket.any (·.isOpen)

section Steps

variable (hmacSha256 : TetherPairingToken → Bytes → PairingTag) (server : TetherPairingServer)
  (startedAt : Int64) (s : Serving)

/-- The head of the loop. -/
def poll : Option Serving :=
  match s.point with
  | .polling =>
    if s.closed then some (s.return_ .closed)
    else
    let remaining := remainingMillis (server.deadline startedAt) s.clock
    if remaining ≤ 0 then some (s.return_ (.expired server.endpoint))
    else some { s with point := .polled remaining }
  | _ => none

/-- Setting the timeout of a listener that was closed since the check throws. -/
def arm : Option Serving :=
  match s.point with
  | .polled remaining =>
    if s.closed then some (s.leave (.threw "Socket is closed"))
    else some { s with point := .accepting (acceptTimeout remaining) }
  | _ => none

/-- A blocking call that began after the previous step ends within its timeout. -/
def Within (before began now : Int64) (soTimeout : Int32) : Prop :=
  before ≤ began ∧ began ≤ now ∧ now.toInt - began.toInt ≤ soTimeout.toInt * 1000000

def Elapsed (before began now : Int64) (soTimeout : Int32) : Prop :=
  before ≤ began ∧ began ≤ now ∧ soTimeout.toInt * 1000000 ≤ now.toInt - began.toInt

instance (before began now : Int64) (soTimeout : Int32) :
    Decidable (Within before began now soTimeout) :=
  inferInstanceAs (Decidable (_ ∧ _ ∧ _))

instance (before began now : Int64) (soTimeout : Int32) :
    Decidable (Elapsed before began now soTimeout) :=
  inferInstanceAs (Decidable (_ ∧ _ ∧ _))

def accepted (before began : Int64) (hostAddress : Option String) : Option Serving :=
  match s.point with
  | .accepting soTimeout =>
    if ¬s.closed ∧ Within before began s.clock soTimeout then
      some { s with
        socket := some ⟨hostAddress.getD "USB tether host", 0, true⟩
        point := .connected }
    else none
  | _ => none

def acceptTimesOut (before began : Int64) : Option Serving :=
  match s.point with
  | .accepting soTimeout =>
    if Elapsed before began s.clock soTimeout then some { s with point := .polling } else none
  | _ => none

def acceptFails (isSocketException : Bool) (message : Option String) : Option Serving :=
  match s.point with
  | .accepting _ =>
    if isSocketException then
      if s.closed then some (s.return_ .closed)
      else some (s.return_ (.failed "USB tether listener socket closed"))
    else some (s.return_ (.failed (message.getD "USB tether listener failed")))
  | _ => none

def register : Option Serving :=
  match s.point with
  | .connected => some { s with pending := true, point := .registered }
  | _ => none

/-- Set the options of the socket and announce its handshake. -/
def prepare : Option Serving :=
  match s.point, s.socket with
  | .registered, some socket =>
    if socket.isOpen then
      let remaining := remainingMillis (server.deadline startedAt) s.clock
      some { s with
        socket := some { socket with soTimeout := server.handshakeTimeout remaining }
        events := s.events ++ [.authenticating server.endpoint server.displayCode
          socket.hostAddress s.failedHandshakes]
        point := .reading .hello [] }
    else none
  | _, _ => none

/-- One read of `readExactly`. -/
def received (before began : Int64) (chunk : SignedBytes) : Option Serving :=
  match s.point, s.socket with
  | .reading stage buffer, some socket =>
    if socket.isOpen ∧ Within before began s.clock socket.soTimeout ∧
        buffer.length + chunk.length ≤ 56 then
      if chunk = [] then some (s.fail (some "USB tether pairing read made no progress"))
      else if (buffer ++ chunk).length < 56 then
        some { s with point := .reading stage (buffer ++ chunk) }
      else some { s with point := .answering stage (buffer ++ chunk) }
    else none
  | _, _ => none

def ended : Option Serving :=
  match s.point with
  | .reading _ buffer =>
    some (s.fail (some s!"USB tether pairing stream ended after {buffer.length} of 56 bytes"))
  | _ => none

def answer (displayNonceSource : Except String SignedBytes) : Option Serving :=
  match s.point with
  | .answering .hello encoded =>
    match answerHello hmacSha256 server.token s.tokenValid displayNonceSource encoded with
    | .ok ((hostNonce, displayNonce), record) =>
      some { s with point := .writing record (some (.finished hostNonce displayNonce)) }
    | .error message => some (s.fail (some message))
  | .answering (.finished hostNonce displayNonce) encoded =>
    match answerFinished hmacSha256 server.token s.tokenValid hostNonce displayNonce encoded with
    | .ok record => some { s with point := .writing record none }
    | .error message => some (s.fail (some message))
  | _ => none

/-- The write of a record completes; after the last one `serve` returns. -/
def written : Option Serving :=
  match s.point, s.socket with
  | .writing _ next, some socket =>
    if socket.isOpen then
      match next with
      | some stage => some { s with point := .reading stage [] }
      | none =>
        some ({ s with socket := some { socket with soTimeout := 0 }, pending := false }.return_
          (.authenticated server.endpoint socket.hostAddress))
    else none
  | _, _ => none

/-- A socket option, the callback, a read or a write of the handshake throws. -/
def fails (message : Option String) : Option Serving :=
  match s.point with
  | .registered => some (s.fail message)
  | .reading _ _ => some (s.fail message)
  | .writing _ _ => some (s.fail message)
  | _ => none

/-- The bookkeeping after a handshake without success. -/
def settle : Option Serving :=
  match s.point with
  | .failed message =>
    if remainingMillis (server.deadline startedAt) s.clock ≤ 0 then
      some ({ s with socket := none, pending := false }.return_ (.expired server.endpoint))
    else
    let failedHandshakes := s.failedHandshakes + 1
    let rejected : Serving := { s with
      socket := none
      pending := false
      failedHandshakes
      events := s.events ++ [.rejected server.endpoint failedHandshakes
        (message.getD "USB tether pairing failed")] }
    if server.maximumFailedHandshakes ≤ failedHandshakes then
      some (rejected.return_ (.lockedOut server.endpoint))
    else
      some { rejected with
        events := rejected.events ++ [.listening server.endpoint server.displayCode
          failedHandshakes]
        point := .polling }
  | _ => none

end Steps

end Serving

section Machine

variable (hmacSha256 : TetherPairingToken → Bytes → PairingTag) (server : TetherPairingServer)
  (startedAt : Int64)

def act (before : Int64) (s : Serving) : ServeAction → Option Serving
  | .poll => s.poll server startedAt
  | .arm => s.arm
  | .accepted began hostAddress => s.accepted before began hostAddress
  | .acceptTimesOut began => s.acceptTimesOut before began
  | .acceptFails isSocketException message => s.acceptFails isSocketException message
  | .register => s.register
  | .prepare => s.prepare server startedAt
  | .received began chunk => s.received before began chunk
  | .ended => s.ended
  | .answer displayNonceSource => s.answer hmacSha256 server displayNonceSource
  | .written => s.written server
  | .fails message => s.fails message
  | .settle => s.settle server startedAt
  | .close => some s.close

/-- The clock does not go backwards. -/
def step (s : Serving) (turn : ServeTurn) : Option Serving :=
  if turn.now < s.clock then none
  else act hmacSha256 server startedAt s.clock { s with clock := turn.now } turn.action

def machine : Machine Serving ServeTurn := ⟨step hmacSha256 server startedAt⟩

/-- `serve` has read the clock and announced the listener. -/
def start : Serving where
  clock := startedAt
  failedHandshakes := 0
  closed := false
  tokenValid := true
  socket := none
  pending := false
  point := .polling
  events := [.listening server.endpoint server.displayCode 0]
  unsuccessful := 0

end Machine

end TetherPairingServer

end LadoFlow.Android
