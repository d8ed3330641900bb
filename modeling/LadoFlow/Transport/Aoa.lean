import LadoFlow.Framework.Codec

/-!
# Accessory mode over endpoint zero

The host asks a device for its version of the accessory protocol, sends it six identification strings and
asks it to switch its mode. Every request is recorded, also one that fails.
-/

namespace LadoFlow.Transport

open Framework

def aoaGoogleVendorId : UInt16 := 0x18d1
def aoaAccessoryProductId : UInt16 := 0x2d00
def aoaAccessoryAdbProductId : UInt16 := 0x2d01
def aoaAccessoryAudioProductId : UInt16 := 0x2d04
def aoaAccessoryAudioAdbProductId : UInt16 := 0x2d05
def aoaControlReadType : UInt8 := 0xc0
def aoaControlWriteType : UInt8 := 0x40
def aoaGetProtocol : UInt8 := 51
def aoaSendIdentification : UInt8 := 52
def aoaStartAccessory : UInt8 := 53
def aoaMaxIdentificationBytes : Nat := 256

def manufacturerIndex : UInt16 := 0
def modelIndex : UInt16 := 1
def descriptionIndex : UInt16 := 2
def versionIndex : UInt16 := 3
def uriIndex : UInt16 := 4
def serialIndex : UInt16 := 5

def isAoaAppAccessory (vendorId productId : UInt16) : Bool :=
  vendorId = aoaGoogleVendorId &&
    productId ∈ [aoaAccessoryProductId, aoaAccessoryAdbProductId, aoaAccessoryAudioProductId,
      aoaAccessoryAudioAdbProductId]

inductive AccessoryIdentityError where
  | missingRequiredField (field : String)
  | embeddedNull (field : String)
  | fieldTooLong (field : String) (encodedBytes : Nat)
  deriving DecidableEq, Repr

def AccessoryIdentityError.text : AccessoryIdentityError → String
  | missingRequiredField field => s!"AOA {field} must not be empty"
  | embeddedNull field => s!"AOA {field} must not contain a null byte"
  | fieldTooLong field encodedBytes =>
    s!"AOA {field} uses {encodedBytes} bytes including its terminator; maximum is " ++
      s!"{aoaMaxIdentificationBytes}"

def validateIdentification (field value : String) (required : Bool) :
    Except AccessoryIdentityError Unit :=
  if required && value = "" then .error (.missingRequiredField field)
  else if 0 ∈ utf8Bytes value then .error (.embeddedNull field)
  else if aoaMaxIdentificationBytes < (utf8Bytes value).length + 1 then
    .error (.fieldTooLong field ((utf8Bytes value).length + 1))
  else .ok ()

def validateIdentifications : List (String × String × Bool) → Except AccessoryIdentityError Unit
  | [] => .ok ()
  | (field, value, required) :: rest =>
    match validateIdentification field value required with
    | .error error => .error error
    | .ok () => validateIdentifications rest

/-- `AccessoryIdentity::fields` -/
def identityFields (manufacturer model description version uri serial : String) :
    List (String × String × Bool) :=
  [("manufacturer", manufacturer, true), ("model", model, true), ("description", description, false),
    ("version", version, false), ("uri", uri, false), ("serial", serial, false)]

structure AccessoryIdentity where
  manufacturer : String
  model : String
  description : String
  version : String
  uri : String
  serial : String
  valid : validateIdentifications
    (identityFields manufacturer model description version uri serial) = .ok ()

theorem validateIdentification_eq_ok {field value : String} {required : Bool} :
    validateIdentification field value required = .ok () ↔
      (required = true → value ≠ "") ∧ 0 ∉ utf8Bytes value ∧
        (utf8Bytes value).length < aoaMaxIdentificationBytes := by
  rw [validateIdentification]
  split
  · rename_i hmissing
    simp only [Bool.and_eq_true, decide_eq_true_eq] at hmissing
    simp [hmissing]
  · rename_i hpresent
    simp only [Bool.and_eq_true, decide_eq_true_eq, not_and] at hpresent
    split
    · simp_all
    · split
      · rename_i hlength
        simp only [reduceCtorEq, false_iff, not_and, not_lt]
        omega
      · rename_i hnull hlength
        simp only [true_iff]
        exact ⟨hpresent, hnull, by omega⟩

theorem validateIdentifications_eq_ok {fields : List (String × String × Bool)} :
    validateIdentifications fields = .ok () ↔
      ∀ field ∈ fields, validateIdentification field.1 field.2.1 field.2.2 = .ok () := by
  induction fields with
  | nil => simp [validateIdentifications]
  | cons field rest ih =>
    obtain ⟨name, value, required⟩ := field
    simp only [validateIdentifications, List.forall_mem_cons]
    cases hfirst : validateIdentification name value required <;> simp [ih]

namespace AccessoryIdentity

def new (manufacturer model description version uri serial : String) :
    Except AccessoryIdentityError AccessoryIdentity :=
  match h : validateIdentifications
      (identityFields manufacturer model description version uri serial) with
  | .error error => .error error
  | .ok () => .ok ⟨manufacturer, model, description, version, uri, serial, h⟩

def ladoflow (description version serial : String) : Except AccessoryIdentityError AccessoryIdentity :=
  new "LadoFlow" "LadoFlow Host" description version "https://github.com/tianrking/LadoFlow" serial

def indexedFields (identity : AccessoryIdentity) : List (UInt16 × String × String) :=
  [(manufacturerIndex, "manufacturer", identity.manufacturer), (modelIndex, "model", identity.model),
    (descriptionIndex, "description", identity.description), (versionIndex, "version", identity.version),
    (uriIndex, "uri", identity.uri), (serialIndex, "serial", identity.serial)]

end AccessoryIdentity

/-- No string of an identity holds a null byte. -/
theorem AccessoryIdentity.notMem_null (identity : AccessoryIdentity) {value : String}
    (h : value ∈ identity.indexedFields.map fun field => field.2.2) : 0 ∉ utf8Bytes value := by
  have hvalid := validateIdentifications_eq_ok.mp identity.valid
  simp only [identityFields, List.forall_mem_cons, validateIdentification_eq_ok] at hvalid
  simp only [indexedFields, List.map_cons, List.map_nil, List.mem_cons, List.not_mem_nil, or_false] at h
  rcases h with rfl | rfl | rfl | rfl | rfl | rfl <;> simp [hvalid]

theorem AccessoryIdentity.new_eq_ok {manufacturer model description version uri serial : String}
    {identity : AccessoryIdentity}
    (h : new manufacturer model description version uri serial = .ok identity) :
    identity.manufacturer = manufacturer ∧ identity.model = model ∧
      identity.description = description ∧ identity.version = version ∧ identity.uri = uri ∧
      identity.serial = serial := by
  rw [new] at h
  split at h
  · cases h
  · cases h
    simp

/-- One vendor request on endpoint zero; `data` is what the host writes. -/
structure ControlRequest where
  requestType : UInt8
  request : UInt8
  value : UInt16
  index : UInt16
  data : Bytes
  deriving DecidableEq, Repr

def protocolRequest : ControlRequest := ⟨aoaControlReadType, aoaGetProtocol, 0, 0, []⟩

def identificationRequest (index : UInt16) (value : String) : ControlRequest :=
  ⟨aoaControlWriteType, aoaSendIdentification, 0, index, utf8Bytes value ++ [0]⟩

def startRequest : ControlRequest := ⟨aoaControlWriteType, aoaStartAccessory, 0, 0, []⟩

/-- A backend for endpoint zero. A read gives the count and the two bytes of the buffer. -/
structure AccessoryControlIo (σ ε : Type) where
  readControl : ControlRequest → σ → (Except ε Nat × UInt8 × UInt8) × σ
  writeControl : ControlRequest → σ → Except ε Nat × σ

/-- A version of the accessory protocol that the host takes. -/
structure AoaProtocolVersion where
  value : UInt16
  value_ne : value ≠ 0
  deriving DecidableEq, Repr

inductive AoaNegotiationError (ε : Type) where
  | control (stage : String) (source : ε)
  | invalidProtocolResponseLength (actual : Nat)
  | unsupportedProtocol
  | shortIdentificationWrite (field : String) (expected actual : Nat)
  | unexpectedStartResponse (actual : Nat)
  deriving DecidableEq, Repr

def AoaNegotiationError.text {ε : Type} (display : ε → String) : AoaNegotiationError ε → String
  | control stage source => s!"AOA {stage} failed: {display source}"
  | invalidProtocolResponseLength actual =>
    s!"AOA protocol response was {actual} bytes; expected exactly 2"
  | unsupportedProtocol => "device returned unsupported AOA version 0"
  | shortIdentificationWrite field expected actual =>
    s!"AOA {field} write transferred {actual} of {expected} bytes"
  | unexpectedStartResponse actual =>
    s!"AOA start request transferred {actual} bytes; expected zero"

/-- What a part of the negotiation came to, the requests that it made and the backend after it. -/
structure NegotiationResult (σ ε α : Type) where
  result : Except (AoaNegotiationError ε) α
  requests : List ControlRequest
  io : σ

section Negotiation

variable {σ ε : Type} (io : AccessoryControlIo σ ε)

def queryProtocol (s : σ) : NegotiationResult σ ε AoaProtocolVersion :=
  match io.readControl protocolRequest s with
  | ((.error source, _), s) => ⟨.error (.control "protocol query" source), [protocolRequest], s⟩
  | ((.ok count, low, high), s) =>
    let protocol := low.toUInt16 ||| (high.toUInt16 <<< 8)
    if count ≠ 2 then ⟨.error (.invalidProtocolResponseLength count), [protocolRequest], s⟩
    else if h : protocol = 0 then ⟨.error .unsupportedProtocol, [protocolRequest], s⟩
    else ⟨.ok ⟨protocol, h⟩, [protocolRequest], s⟩

def sendIdentifications : List (UInt16 × String × String) → σ → NegotiationResult σ ε Unit
  | [], s => ⟨.ok (), [], s⟩
  | (index, field, value) :: rest, s =>
    let request := identificationRequest index value
    match io.writeControl request s with
    | (.error source, s) => ⟨.error (.control field source), [request], s⟩
    | (.ok count, s) =>
      if count ≠ request.data.length then
        ⟨.error (.shortIdentificationWrite field request.data.length count), [request], s⟩
      else
        let later := sendIdentifications rest s
        { later with requests := request :: later.requests }

def startAccessory (s : σ) : NegotiationResult σ ε Unit :=
  match io.writeControl startRequest s with
  | (.error source, s) => ⟨.error (.control "accessory start" source), [startRequest], s⟩
  | (.ok count, s) =>
    if count ≠ 0 then ⟨.error (.unexpectedStartResponse count), [startRequest], s⟩
    else ⟨.ok (), [startRequest], s⟩

def negotiateAccessoryMode (identity : AccessoryIdentity) (s : σ) :
    NegotiationResult σ ε AoaProtocolVersion :=
  let queried := queryProtocol io s
  match queried.result with
  | .error _ => queried
  | .ok protocol =>
    let sent := sendIdentifications io identity.indexedFields queried.io
    match sent.result with
    | .error error => ⟨.error error, queried.requests ++ sent.requests, sent.io⟩
    | .ok () =>
      let started := startAccessory io sent.io
      ⟨started.result.map fun _ => protocol,
        queried.requests ++ sent.requests ++ started.requests, started.io⟩

end Negotiation

/-- The requests of a complete negotiation. -/
def AccessoryIdentity.requests (identity : AccessoryIdentity) : List ControlRequest :=
  protocolRequest :: identity.indexedFields.map (fun field => identificationRequest field.1 field.2.2) ++
    [startRequest]

section Requests

variable {σ ε : Type} {io : AccessoryControlIo σ ε} {s : σ}

@[simp] theorem queryProtocol_requests : (queryProtocol io s).requests = [protocolRequest] := by
  rw [queryProtocol]
  split
  · rfl
  · dsimp only
    split
    · rfl
    · split <;> rfl

@[simp] theorem startAccessory_requests : (startAccessory io s).requests = [startRequest] := by
  rw [startAccessory]
  split
  · rfl
  · split <;> rfl

/-- The strings go out in their order; all of them went out when the loop ends well. -/
theorem sendIdentifications_requests (fields : List (UInt16 × String × String)) :
    (sendIdentifications io fields s).requests <+:
        fields.map (fun field => identificationRequest field.1 field.2.2) ∧
      ((sendIdentifications io fields s).result = .ok () → (sendIdentifications io fields s).requests =
        fields.map fun field => identificationRequest field.1 field.2.2) := by
  induction fields generalizing s with
  | nil => simp [sendIdentifications]
  | cons field rest ih =>
    obtain ⟨index, name, value⟩ := field
    simp only [sendIdentifications]
    split
    · simp
    · split
      · simp
      · obtain ⟨hbegun, hcomplete⟩ := @ih _
        constructor
        · simpa using hbegun
        · intro hok
          simpa using hcomplete hok

/-- Every negotiation makes the first requests of the complete one, in its order, and one that succeeds makes
all of them. -/
theorem negotiateAccessoryMode_requests (identity : AccessoryIdentity) :
    (negotiateAccessoryMode io identity s).requests <+: identity.requests ∧
      ∀ version, (negotiateAccessoryMode io identity s).result = .ok version →
        (negotiateAccessoryMode io identity s).requests = identity.requests := by
  have hsent := @sendIdentifications_requests σ ε io (queryProtocol io s).io identity.indexedFields
  simp only [negotiateAccessoryMode]
  cases hqueried : (queryProtocol io s).result with
  | error error =>
    dsimp only
    rw [queryProtocol_requests, hqueried]
    exact ⟨List.prefix_append [protocolRequest] _, by simp⟩
  | ok protocol =>
    dsimp only
    cases hresult : (sendIdentifications io identity.indexedFields (queryProtocol io s).io).result with
    | error error =>
      simp only [queryProtocol_requests, reduceCtorEq, false_implies, implies_true, and_true]
      obtain ⟨later, hlater⟩ := hsent.1
      exact ⟨later ++ [startRequest], by simp [AccessoryIdentity.requests, ← hlater]⟩
    | ok =>
      rw [hsent.2 hresult]
      simp [AccessoryIdentity.requests]

end Requests

end LadoFlow.Transport
