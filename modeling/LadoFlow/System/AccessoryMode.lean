import LadoFlow.Android.AccessoryTransport
import LadoFlow.Transport.Aoa

/-!
# The display knows its host

What a device learns from the requests of the negotiation, and what the application on it reads of that. A
request that failed may have reached the device or not.
-/

namespace LadoFlow.System

open Framework Transport Android

/-- The accessory function of a device: the string behind each index, and whether its mode is on. -/
structure AccessoryFunction where
  strings : UInt16 → Bytes
  started : Bool

namespace AccessoryFunction

def idle : AccessoryFunction := ⟨fun _ => [], false⟩

/-- The meaning of a vendor request for the device. -/
def receive (device : AccessoryFunction) (request : ControlRequest) : AccessoryFunction :=
  if request.requestType = aoaControlWriteType then
    if request.request = aoaSendIdentification then
      { device with strings := Function.update device.strings request.index request.data }
    else if request.request = aoaStartAccessory then { device with started := true }
    else device
  else device

/-- A string ends at its first null byte; an empty one is absent. -/
def text (device : AccessoryFunction) (index : UInt16) : Option String :=
  (fromUtf8 ((device.strings index).takeWhile (· ≠ 0))).filter (· ≠ "")

/-- The accessory that the device lists for its applications. -/
def identity (device : AccessoryFunction) : UsbAccessoryIdentity where
  manufacturer := device.text manufacturerIndex
  model := device.text modelIndex
  description := device.text descriptionIndex
  version := device.text versionIndex
  serial := device.text serialIndex

end AccessoryFunction

/-- The device after the requests that reached it. -/
def deviceAfter (received : List ControlRequest) : AccessoryFunction :=
  received.foldl AccessoryFunction.receive .idle

theorem takeWhile_terminated {bytes : Bytes} (h : 0 ∉ bytes) :
    (bytes ++ [0]).takeWhile (· ≠ 0) = bytes := by
  rw [List.takeWhile_append_of_pos]
  · simp
  · intro byte hbyte
    simp only [ne_eq, decide_not, Bool.not_eq_eq_eq_not, Bool.not_true, decide_eq_false_iff_not]
    rintro rfl
    exact h hbyte

theorem text_terminated {device : AccessoryFunction} {index : UInt16} {value : String}
    (hstring : device.strings index = utf8Bytes value ++ [0]) (hnull : 0 ∉ utf8Bytes value) :
    device.text index = if value = "" then none else some value := by
  rw [AccessoryFunction.text, hstring, takeWhile_terminated hnull, fromUtf8_eq_some.mpr rfl]
  by_cases hempty : value = "" <;> simp [hempty]

theorem deviceAfter_requests (identity : AccessoryIdentity) :
    (deviceAfter identity.requests).started = true ∧
      ∀ field ∈ identity.indexedFields,
        (deviceAfter identity.requests).strings field.1 = utf8Bytes field.2.2 ++ [0] := by
  simp [deviceAfter, AccessoryIdentity.requests, AccessoryIdentity.indexedFields,
    AccessoryFunction.receive, AccessoryFunction.idle, protocolRequest, identificationRequest, startRequest,
    aoaControlReadType, aoaControlWriteType, aoaSendIdentification, aoaStartAccessory, manufacturerIndex,
    modelIndex, descriptionIndex, versionIndex, uriIndex, serialIndex, Function.update]

/-- Only a start request switches the mode of a device. -/
theorem started_foldl {received : List ControlRequest} {device : AccessoryFunction}
    (h : (received.foldl AccessoryFunction.receive device).started = true) :
    device.started = true ∨ ∃ request ∈ received, request.request = aoaStartAccessory := by
  induction received generalizing device with
  | nil => exact .inl h
  | cons request rest ih =>
    rcases ih h with hstarted | ⟨later, hmem, hlater⟩
    · by_cases hrequest : request.request = aoaStartAccessory
      · exact .inr ⟨request, List.mem_cons_self, hrequest⟩
      · left
        rw [AccessoryFunction.receive] at hstarted
        split at hstarted
        · split at hstarted
          · exact hstarted
          · simpa [hrequest] using hstarted
        · exact hstarted
    · exact .inr ⟨later, List.mem_cons_of_mem request hmem, hlater⟩

/-- A device is switched by the last request of the negotiation and by no other. -/
theorem eq_requests_of_started {identity : AccessoryIdentity} {received : List ControlRequest}
    (hbegun : received <+: identity.requests) (hstarted : (deviceAfter received).started = true) :
    received = identity.requests := by
  rw [AccessoryIdentity.requests, List.prefix_concat_iff] at hbegun
  refine hbegun.resolve_right fun hearlier => ?_
  rcases started_foldl hstarted with hidle | ⟨request, hmem, hrequest⟩
  · cases hidle
  · have hother := hearlier.subset hmem
    rcases List.mem_cons.mp hother with rfl | hfield
    · exact absurd hrequest (by decide)
    · obtain ⟨field, -, rfl⟩ := List.mem_map.mp hfield
      have hsend : aoaSendIdentification = aoaStartAccessory := hrequest
      exact absurd hsend (by decide)

/-- The device lists the strings that the host sent. -/
theorem identity_deviceAfter (identity : AccessoryIdentity) :
    (deviceAfter identity.requests).identity =
      { manufacturer := if identity.manufacturer = "" then none else some identity.manufacturer
        model := if identity.model = "" then none else some identity.model
        description := if identity.description = "" then none else some identity.description
        version := if identity.version = "" then none else some identity.version
        serial := if identity.serial = "" then none else some identity.serial } := by
  have htext : ∀ field ∈ identity.indexedFields, (deviceAfter identity.requests).text field.1 =
      if field.2.2 = "" then none else some field.2.2 := by
    intro field hfield
    refine text_terminated ((deviceAfter_requests identity).2 field hfield) ?_
    exact identity.notMem_null (List.mem_map_of_mem hfield)
  simp only [AccessoryIdentity.indexedFields, List.forall_mem_cons] at htext
  simp [AccessoryFunction.identity, htext]

theorem isNotBlank_empty : isNotBlank "" = false := rfl

/-- A backend that takes every request, for a device with version 2 of the protocol. -/
def willingIo : AccessoryControlIo Unit String where
  readControl _ _ := ((.ok 2, 2, 0), ())
  writeControl request _ := (.ok request.data.length, ())

theorem deskHost_valid : validateIdentifications (identityFields "LadoFlow" "LadoFlow Host"
    "LadoFlow on DESK" "0.1.0" "https://github.com/tianrking/LadoFlow" "") = .ok () := by decide

def deskHost : AccessoryIdentity := ⟨_, _, _, _, _, _, deskHost_valid⟩

end LadoFlow.System
