import LadoFlow.Host.TetherDiscovery
import LadoFlow.Transport.Aoa

/-!
# Discovery of the accessory

`open_android_accessory` from what the USB devices answer. A flag of the caller may cancel it at every place
where it looks at the flag.
-/

namespace LadoFlow.Host

open Framework Transport

/-- `rusb::Error` with its text; a stalled endpoint is the answer of a device without the protocol. -/
inductive RusbError where
  | pipe
  | other (text : String)
  deriving DecidableEq, Repr

def RusbError.text : RusbError → String
  | pipe => "Pipe error"
  | other text => text

structure DeviceDescriptor where
  vendorId : UInt16
  productId : UInt16
  classCode : UInt8
  deriving DecidableEq, Repr

structure UsbEndpoint where
  address : UInt8
  isBulk : Bool
  isInput : Bool
  maxPacketSize : UInt16
  deriving DecidableEq, Repr

structure InterfaceDescriptor where
  interfaceNumber : UInt8
  endpoints : List UsbEndpoint
  deriving DecidableEq, Repr

/-- The descriptors of all interfaces in the order of the configuration. -/
structure ConfigDescriptor where
  number : UInt8
  descriptors : List InterfaceDescriptor
  deriving DecidableEq, Repr

structure BulkEndpoints where
  interface : UInt8
  input : UInt8
  output : UInt8
  maxPacketSize : UInt16
  deriving DecidableEq, Repr

/-- What a device answers to the calls of the host; a handle is the backend of its endpoint zero. -/
structure UsbDevice (σ : Type) where
  busNumber : UInt8
  address : UInt8
  descriptor : Except String DeviceDescriptor
  handle : Except String σ
  io : AccessoryControlIo σ RusbError
  activeConfig : Except String ConfigDescriptor
  firstConfig : Except String ConfigDescriptor
  activeConfiguration : Except String UInt8
  setActiveConfiguration : Except String Unit
  claimInterface : Except String Unit

/-- `{:04x}` -/
def hexWord (value : UInt16) : String :=
  let digits := Nat.toDigits 16 value.toNat
  String.ofList (List.replicate (4 - digits.length) '0' ++ digits)

def DeviceDescriptor.ids (descriptor : DeviceDescriptor) : String :=
  s!"{hexWord descriptor.vendorId}:{hexWord descriptor.productId}"

def isAndroidProbeCandidate (vendorId productId : UInt16) (classCode : UInt8) : Bool :=
  vendorId ≠ 0 && vendorId ≠ 0xffff && !isAoaAppAccessory vendorId productId &&
    classCode ∈ [0x00, 0xef, 0xff]

def DeviceDescriptor.isCandidate (descriptor : DeviceDescriptor) : Bool :=
  isAndroidProbeCandidate descriptor.vendorId descriptor.productId descriptor.classCode

def DeviceDescriptor.isAccessory (descriptor : DeviceDescriptor) : Bool :=
  isAoaAppAccessory descriptor.vendorId descriptor.productId

/-- The endpoints of one interface descriptor. -/
def InterfaceDescriptor.bulkEndpoints (descriptor : InterfaceDescriptor) : Option BulkEndpoints :=
  let bulk := descriptor.endpoints.filter (·.isBulk)
  match bulk.find? (·.isInput), bulk.find? (!·.isInput) with
  | some input, some output =>
    some
      { interface := descriptor.interfaceNumber
        input := input.address
        output := output.address
        maxPacketSize := bulk.foldl (fun size endpoint => max size endpoint.maxPacketSize) 0 }
  | _, _ => none

def findBulkEndpoints (configuration : ConfigDescriptor) : Option BulkEndpoints :=
  configuration.descriptors.findSome? InterfaceDescriptor.bulkEndpoints

def hostDescription (computerName : Option String) : String :=
  match computerName.filter fun name => !name.toList.all isWhiteSpace with
  | none => "LadoFlow Windows host"
  | some name => s!"LadoFlow on {name}"

def reenumerationTimeoutSecs : Nat := 8
def reconnectCancelledDetail : String := "Android USB reconnection was cancelled"

section Opening

variable {σ : Type}

/-- `find_accessory_devices` -/
def findAccessoryDevices (devices : Except String (List (UsbDevice σ))) :
    Except String (List (UsbDevice σ)) :=
  match devices with
  | .error error => .error s!"failed to list USB devices: {error}"
  | .ok devices => go devices
where
  go : List (UsbDevice σ) → Except String (List (UsbDevice σ))
    | [] => .ok []
    | device :: rest =>
      match device.descriptor with
      | .error error => .error s!"failed to read USB device descriptor: {error}"
      | .ok descriptor => do
        let accessories ← go rest
        .ok (if descriptor.isAccessory then device :: accessories else accessories)

structure OpenedAccessory (σ : Type) where
  device : UsbDevice σ
  descriptor : DeviceDescriptor
  protocolVersion : Option UInt16
  endpoints : BulkEndpoints

def openAccessory (device : UsbDevice σ) (protocolVersion : Option UInt16) :
    Except String (OpenedAccessory σ) :=
  match device.descriptor with
  | .error error => .error s!"failed to read AOA descriptor: {error}"
  | .ok descriptor =>
    match device.activeConfig.orElseLazy fun _ => device.firstConfig with
    | .error error => .error s!"failed to read AOA configuration: {error}"
    | .ok configuration =>
      match findBulkEndpoints configuration with
      | none => .error "AOA configuration has no interface with bulk IN and OUT endpoints"
      | some endpoints =>
        match device.handle with
        | .error error =>
          .error (s!"AOA device {descriptor.ids} is visible but cannot be opened ({error}). Windows " ++
            "needs a signed WinUSB-compatible driver for this interface")
        | .ok _ =>
          match device.activeConfiguration with
          | .error error => .error s!"failed to query active AOA configuration: {error}"
          | .ok active =>
            match if active = configuration.number then .ok () else device.setActiveConfiguration with
            | .error error => .error s!"failed to activate AOA configuration: {error}"
            | .ok () =>
              match device.claimInterface with
              | .error error =>
                .error (s!"AOA device is visible but interface {endpoints.interface} cannot be claimed " ++
                  s!"({error}). Another application or an incompatible Windows driver owns it")
              | .ok () => .ok ⟨device, descriptor, protocolVersion, endpoints⟩

end Opening

/-- A turn of the loop over the devices, with the flag as the turn reads it before and after it opens the
device. -/
structure DeviceVisit (σ : Type) where
  cancelledBefore : Bool
  device : UsbDevice σ
  cancelledOpened : Bool

/-- A turn of the wait for the accessory that begins in time. -/
structure EnumerationPoll (σ : Type) where
  cancelledBefore : Bool
  devices : Except String (List (UsbDevice σ))
  cancelledFound : Bool
  cancelledWaiting : Bool

structure DiscoveryEnvironment (σ : Type) where
  cancelledFirst : Bool
  context : Except String Unit
  cancelledContext : Bool
  listed : Except String (List (UsbDevice σ))
  cancelledListed : Bool
  computerName : Option String
  packageVersion : String
  devices : Except String (List (DeviceVisit σ))
  cancelledAccepted : Bool
  polls : List (EnumerationPoll σ)

/-- The vendor requests that one device received. -/
structure DeviceProbe (σ : Type) where
  device : UsbDevice σ
  requests : List ControlRequest
  accepted : Option AoaProtocolVersion

/-- The variables of the loop over the devices. -/
structure DeviceScan (σ : Type) where
  attempted : Nat
  inaccessible : Nat
  failures : List String
  probes : List (DeviceProbe σ)

inductive ScanEnd where
  | exhausted
  | cancelled
  | accepted (protocol : AoaProtocolVersion)
  deriving DecidableEq

section Discovery

variable {σ : Type}

def DeviceScan.start : DeviceScan σ := ⟨0, 0, [], []⟩

def DeviceScan.fail (scan : DeviceScan σ) (failure : String) : DeviceScan σ :=
  { scan with failures := scan.failures ++ [failure] }

def UsbDevice.place (device : UsbDevice σ) (descriptor : DeviceDescriptor) : String :=
  s!"bus {device.busNumber} device {device.address} {descriptor.ids}"

/-- The negotiation with one device. -/
def DeviceScan.probe (scan : DeviceScan σ) (identity : AccessoryIdentity) (device : UsbDevice σ)
    (handle : σ) : DeviceScan σ :=
  let negotiation := negotiateAccessoryMode device.io identity handle
  { scan with
    probes := scan.probes ++ [⟨device, negotiation.requests, negotiation.result.toOption⟩] }

def scanDevices (identity : AccessoryIdentity) :
    List (DeviceVisit σ) → DeviceScan σ → ScanEnd × DeviceScan σ
  | [], scan => (.exhausted, scan)
  | visit :: rest, scan =>
    if visit.cancelledBefore then (.cancelled, scan)
    else
      match visit.device.descriptor with
      | .error error => scanDevices identity rest (scan.fail s!"descriptor: {error}")
      | .ok descriptor =>
        if !descriptor.isCandidate then scanDevices identity rest scan
        else
          match visit.device.handle with
          | .error error =>
            scanDevices identity rest
              ({ scan with inaccessible := scan.inaccessible + 1 }.fail
                s!"{visit.device.place descriptor} could not open: {error}")
          | .ok handle =>
            let attempted := { scan with attempted := scan.attempted + 1 }
            if visit.cancelledOpened then (.cancelled, attempted)
            else
              match (negotiateAccessoryMode visit.device.io identity handle).result with
              | .ok protocol => (.accepted protocol, attempted.probe identity visit.device handle)
              | .error (.control _ .pipe) =>
                scanDevices identity rest (attempted.probe identity visit.device handle)
              | .error error =>
                scanDevices identity rest
                  ((attempted.probe identity visit.device handle).fail
                    s!"{visit.device.place descriptor}: {error.text RusbError.text}")

def DeviceScan.noneText (scan : DeviceScan σ) : String :=
  let evidence := "; ".intercalate (scan.failures.take 3)
  let separator := if evidence = "" then "" else ": "
  s!"no connected USB device completed the AOA protocol query (attempted {scan.attempted}, " ++
    s!"inaccessible {scan.inaccessible}). On Windows, install the product's signed WinUSB-compatible " ++
    s!"binding for the Android interface before retrying{separator}{evidence}"

def awaitAccessory (protocol : AoaProtocolVersion) :
    List (EnumerationPoll σ) → Except String (OpenedAccessory σ)
  | [] =>
    .error (s!"Android accepted AOA {protocol.value} but did not re-enumerate as a Google accessory " ++
      s!"within {reenumerationTimeoutSecs} seconds")
  | poll :: rest =>
    if poll.cancelledBefore then .error reconnectCancelledDetail
    else
      match findAccessoryDevices poll.devices with
      | .error error => .error error
      | .ok (accessory :: _) =>
        if poll.cancelledFound then .error reconnectCancelledDetail
        else openAccessory accessory (some protocol.value)
      | .ok [] =>
        if poll.cancelledWaiting then .error reconnectCancelledDetail else awaitAccessory protocol rest

/-- The part of `open_android_accessory` for the case that no accessory is listed. -/
def probeDevices (environment : DiscoveryEnvironment σ) :
    Except String (OpenedAccessory σ) × List (DeviceProbe σ) :=
  match AccessoryIdentity.ladoflow (hostDescription environment.computerName)
      environment.packageVersion "" with
  | .error error => (.error s!"invalid LadoFlow AOA identity: {error.text}", [])
  | .ok identity =>
    match environment.devices with
    | .error error => (.error s!"failed to enumerate USB devices: {error}", [])
    | .ok visits =>
      match scanDevices identity visits .start with
      | (.exhausted, scan) => (.error scan.noneText, scan.probes)
      | (.cancelled, scan) => (.error reconnectCancelledDetail, scan.probes)
      | (.accepted protocol, scan) =>
        if environment.cancelledAccepted then (.error reconnectCancelledDetail, scan.probes)
        else (awaitAccessory protocol environment.polls, scan.probes)

def openAndroidAccessory (environment : DiscoveryEnvironment σ) :
    Except String (OpenedAccessory σ) × List (DeviceProbe σ) :=
  if environment.cancelledFirst then (.error reconnectCancelledDetail, [])
  else
    match environment.context with
    | .error error => (.error s!"failed to initialize libusb: {error}", [])
    | .ok () =>
      if environment.cancelledContext then (.error reconnectCancelledDetail, [])
      else
        match findAccessoryDevices environment.listed with
        | .error error => (.error error, [])
        | .ok (device :: _) =>
          if environment.cancelledListed then (.error reconnectCancelledDetail, [])
          else (openAccessory device none, [])
        | .ok [] => probeDevices environment

end Discovery

end LadoFlow.Host
