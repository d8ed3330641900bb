import LadoFlow.Framework.Doubling
import LadoFlow.Framework.Spacing
import LadoFlow.Host.DesktopRuntime
import LadoFlow.Transport.TcpStream

/-!
# Recovery of a lost accessory link

`run_usb_control_session`, with a step wherever it waits or calls the transport. The control sessions and the
reconnections run as long as they like and end as they like; the user cancels at any time.
-/

namespace LadoFlow.Host

open LadoFlow.Transport Framework

/-- Nanoseconds. -/
def millis (count : Nat) : Nat := count * 1000000

def usbReconnectWindow : Nat := millis 60000
def usbReconnectInitialDelay : Nat := millis 250
def usbReconnectMaxDelay : Nat := millis 2000

def usbReconnectDelay (attempt : UInt32) : Nat :=
  doubledUpTo usbReconnectMaxDelay usbReconnectInitialDelay (min (attempt.toNat - 1) 3)

/-- How the worker of a session came to its end. -/
inductive RecoveryEnd where
  | completed
  | cancelled
  | broken (error : String)
  | expired (lastError : String)
  deriving DecidableEq

inductive RecoveryPoint where
  | session
  | lost (error : String)
  | retrying (lastError : String)
  | planned (lastError : String) (delay : Nat)
  | waiting (lastError : String) (deadline : Nat)
  | waited (lastError : String)
  | reconnecting (lastError : String)
  | ended (reason : RecoveryEnd)
  deriving DecidableEq

/-- `losses` are the times at which the worker turned to recovery, with whether the session had streamed, and
`starts` the times of the reconnections since the deadline was set. -/
structure UsbRecovery where
  config : LoopbackConfig
  shared : SharedState
  cancel : Bool
  now : Nat
  reconnectDeadline : Option Nat
  reconnectAttempt : UInt32
  point : RecoveryPoint
  losses : List (Nat × Bool)
  starts : List Nat

inductive RecoveryStep where
  | cancel
  | tick (elapsed : Nat)
  | write (update : WorkerUpdate)
  | sessionEnds (result : Except String Unit)
  | examine (connection : ConnectionState)
  | retry
  | beginWait
  | poll
  | recheck
  | reconnected (result : Except String Unit)

/-- What a control session writes. -/
def WorkerUpdate.ofSession : WorkerUpdate → Bool
  | .establish .. | .sentVideo .. | .telemetry .. | .control .. => true
  | _ => false

namespace UsbRecovery

def start (config : LoopbackConfig) (now : Nat) (startedAt : Core.Duration) : UsbRecovery where
  config := config
  shared := .resetForAndroidNegotiation config usbTransportName startedAt
  cancel := false
  now := now
  reconnectDeadline := none
  reconnectAttempt := 1
  point := .session
  losses := []
  starts := []

section Steps

variable (s : UsbRecovery)

def expiredText (lastError : String) : String :=
  s!"Android USB did not recover within {usbReconnectWindow / 1000000000} seconds: {lastError}"

def finish (reason : RecoveryEnd) : UsbRecovery := { s with point := .ended reason }

def fail (error : String) (reason : RecoveryEnd) : UsbRecovery :=
  { s with shared := s.shared.failAndroidSession (.text error), point := .ended reason }

def expire (lastError : String) : UsbRecovery :=
  s.fail (expiredText lastError) (.expired lastError)

/-- The loss of the link, behind the checks; it opens a new window if the session had streamed. -/
def lose (error : String) : UsbRecovery :=
  let hadStreamed : Bool := s.shared.phase = .streaming
  let recovering := { s with losses := s.losses ++ [(s.now, hadStreamed)], point := .retrying error }
  if hadStreamed || s.reconnectDeadline.isNone then
    { recovering with
      reconnectDeadline := some (s.now + usbReconnectWindow)
      reconnectAttempt := 1
      starts := [] }
  else recovering

def examine (error : String) (connection : ConnectionState) : UsbRecovery :=
  if s.cancel then s.finish .cancelled
  else if connection ≠ .disconnected then s.fail error (.broken error)
  else s.lose error

def retry (lastError : String) (deadline : Nat) : UsbRecovery :=
  if deadline ≤ s.now then s.expire lastError
  else
    let delay := min (usbReconnectDelay s.reconnectAttempt) (deadline - s.now)
    { s with
      shared := s.shared.beginUsbRecovery lastError s.reconnectAttempt (delay / 1000000)
      point := .planned lastError delay }

def poll (lastError : String) (deadline : Nat) : UsbRecovery :=
  if s.cancel then s.finish .cancelled
  else if deadline ≤ s.now then { s with point := .waited lastError }
  else s

def recheck (lastError : String) (deadline : Nat) : UsbRecovery :=
  if deadline ≤ s.now then s.expire lastError
  else { s with starts := s.starts ++ [s.now], point := .reconnecting lastError }

/-- `u32::saturating_add` of one -/
def nextAttempt (attempt : UInt32) : UInt32 := if attempt = 4294967295 then attempt else attempt + 1

def reconnected : Except String Unit → UsbRecovery
  | .ok () => { s with shared := s.shared.beginUsbRenegotiation s.config, point := .session }
  | .error error =>
    if s.cancel then s.finish .cancelled
    else { s with reconnectAttempt := nextAttempt s.reconnectAttempt, point := .retrying error }

def next (step : RecoveryStep) : Option UsbRecovery :=
  match step, s.point, s.reconnectDeadline with
  | .cancel, _, _ => some { s with cancel := true }
  | .tick elapsed, _, _ => some { s with now := s.now + elapsed }
  | .write update, .session, _ =>
    if update.ofSession then some { s with shared := update.apply s.shared } else none
  | .sessionEnds (.ok ()), .session, _ => some (s.finish .completed)
  | .sessionEnds (.error error), .session, _ => some { s with point := .lost error }
  | .examine connection, .lost error, _ => some (s.examine error connection)
  | .retry, .retrying lastError, some deadline => some (s.retry lastError deadline)
  | .beginWait, .planned lastError delay, _ =>
    some { s with point := .waiting lastError (s.now + delay) }
  | .poll, .waiting lastError deadline, _ => some (s.poll lastError deadline)
  | .recheck, .waited lastError, some deadline => some (s.recheck lastError deadline)
  | .reconnected result, .reconnecting _, _ => some (s.reconnected result)
  | _, _, _ => none

end Steps

def machine : Machine UsbRecovery RecoveryStep where
  step s step := s.next step

end UsbRecovery

end LadoFlow.Host
