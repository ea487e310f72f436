import AdaptiveAutosar.Foundations.FirstOfKind
import AdaptiveAutosar.Com.ConcurrentQueue
import AdaptiveAutosar.Com.Sd.Client.Endpoint

/-! # Which messages a service discovery agent reacts to

`SomeIpSdServer::matchOfferingService` and `SomeIpSdClient::matchRequestedService` both look for the
first entry of a type and return what the comparison of that one entry gives.
-/

namespace AdaptiveAutosar.Com
open Foundations
set_option autoImplicit false

def Entry.cAnyInstanceId : UInt16 := 0xffff
def Entry.cAnyMajorVersion : UInt8 := 0xff
def ServiceEntry.cAnyMinorVersion : UInt32 := 0xffffffff

structure OfferedService where
  serviceId : UInt16
  instanceId : UInt16
  majorVersion : UInt8
  minorVersion : UInt32
  deriving DecidableEq, Repr

namespace OfferedService

/-- Compare service ID, instance ID, major version, and minor version. -/
def compares (service : OfferedService) (entry : ServiceEntry) : Bool :=
  entry.serviceId == service.serviceId &&
    (entry.instanceId == Entry.cAnyInstanceId || entry.instanceId == service.instanceId) &&
    (entry.majorVersion == Entry.cAnyMajorVersion || entry.majorVersion == service.majorVersion) &&
    (entry.minorVersion == ServiceEntry.cAnyMinorVersion || entry.minorVersion == service.minorVersion)

def matchOfferingService (service : OfferedService) : List AnyEntry → Bool
  | [] => false
  | .service entry :: rest =>
    if entry.type = .finding then service.compares entry else matchOfferingService service rest
  | .eventgroup _ :: rest => matchOfferingService service rest

def Finds (service : OfferedService) : AnyEntry → Bool
  | .service entry => entry.type = .finding && service.compares entry
  | .eventgroup _ => false

end OfferedService

/-- What `receiveFind` uses of the server. -/
structure FindReceiver where
  service : OfferedService
  messageBuffer : List SomeIpSdMessage
  deriving DecidableEq, Repr

namespace FindReceiver

/-- With the attempt of `TryEnqueue` that got the lock. -/
def receiveFind (server : FindReceiver) (message : SomeIpSdMessage) : FindReceiver :=
  if server.service.matchOfferingService message.entries then
    { server with
      messageBuffer := (ConcurrentQueue.tryEnqueue server.messageBuffer true message).2 }
  else server

def Queues (server : FindReceiver) (message : SomeIpSdMessage) : Prop :=
  (server.receiveFind message).messageBuffer = server.messageBuffer ++ [message]

theorem queues_iff (server : FindReceiver) (message : SomeIpSdMessage) :
    server.Queues message ↔ server.service.matchOfferingService message.entries = true := by
  unfold Queues receiveFind
  split_ifs with matched
  · exact iff_of_true rfl matched
  · exact iff_of_false (by simp) matched

end FindReceiver

namespace SdReceiver

/-- The message sets the offered TTL. -/
def Updates (client : SdReceiver) (message : SomeIpSdMessage) : Prop :=
  ∃ ttl, client.inputs message = [.offer ttl, .signal]

theorem updates_iff {client : SdReceiver} (valid : client.validState = true) (message : SomeIpSdMessage) :
    client.Updates message ↔
      (SomeIpSdClient.matchRequestedService client.serviceId message.entries).isSome := by
  unfold Updates inputs
  rw [if_pos valid]
  cases SomeIpSdClient.matchRequestedService client.serviceId message.entries with
  | none => simp
  | some ttl => simp

end SdReceiver

namespace AnyEntry

/-- An entry of a class and type that a loop stops at. -/
def IsService (type : EntryType) : AnyEntry → Bool
  | service entry => entry.type = type
  | eventgroup _ => false

def OffersOrStops (serviceId : UInt16) : AnyEntry → Bool
  | service entry => entry.type = .offering && entry.serviceId == serviceId
  | eventgroup _ => false

end AnyEntry

/-! ## The first entry of a type decides -/

theorem OfferedService.matchOfferingService_cons (service : OfferedService) (entry : AnyEntry)
    (rest : List AnyEntry) : service.matchOfferingService (entry :: rest) =
      if entry.IsService .finding then service.Finds entry else service.matchOfferingService rest := by
  cases entry with
  | eventgroup entry => rfl
  | service entry =>
    simp only [matchOfferingService, AnyEntry.IsService, Finds, decide_eq_true_eq]
    split_ifs with isFind
    · simp [isFind]
    · rfl

theorem SomeIpSdClient.matchRequestedService_cons (serviceId : UInt16) (entry : AnyEntry)
    (rest : List AnyEntry) : (matchRequestedService serviceId (entry :: rest)).isSome =
      if entry.IsService .offering then entry.OffersOrStops serviceId
      else (matchRequestedService serviceId rest).isSome := by
  cases entry with
  | eventgroup entry => rfl
  | service entry =>
    simp only [matchRequestedService, AnyEntry.IsService, AnyEntry.OffersOrStops, decide_eq_true_eq]
    split_ifs with isOffer isOwn
    · simp [isOffer, isOwn]
    · simp [isOwn]
    · rfl

/-- For every message: the server queues an offer exactly when some entry is a Find for its service,
and the client behind any messages sets its TTL exactly when some entry is an Offer or StopOffer for
its service, exactly when no such entry stands behind a first Find or Offer for another service. -/
theorem reacts_iff_unshadowed (server : FindReceiver) (serviceId : UInt16) (signalFlag : Bool)
    (older : List SomeIpSdMessage) (message : SomeIpSdMessage) :
    ((server.Queues message ↔ ∃ entry ∈ message.entries, server.service.Finds entry = true) ∧
        (((SdReceiver.make serviceId signalFlag).receiveAll older).Updates message ↔
          ∃ entry ∈ message.entries, entry.OffersOrStops serviceId = true)) ↔
      ¬ Shadowed (AnyEntry.IsService .finding) server.service.Finds message.entries ∧
        ¬ Shadowed (AnyEntry.IsService .offering) (AnyEntry.OffersOrStops serviceId) message.entries := by
  have paired := SdReceiver.receiveAll_paired serviceId signalFlag older
  rw [server.queues_iff, SdReceiver.updates_iff paired.valid, paired.serviceId]
  apply and_congr
  · refine found_iff_unshadowed rfl server.service.matchOfferingService_cons ?_ message.entries
    intro entry finds
    cases entry with
    | eventgroup entry => cases finds
    | service entry =>
      simp only [OfferedService.Finds, Bool.and_eq_true] at finds
      exact finds.1
  · let loop (entries : List AnyEntry) : Bool :=
      (SomeIpSdClient.matchRequestedService serviceId entries).isSome
    have done : loop [] = false := rfl
    refine found_iff_unshadowed done (SomeIpSdClient.matchRequestedService_cons serviceId) ?_
      message.entries
    intro entry offers
    cases entry with
    | eventgroup entry => cases offers
    | service entry =>
      simp only [AnyEntry.OffersOrStops, Bool.and_eq_true] at offers
      exact offers.1

/-- A Find and an Offer for service 2, each with one for service 1 behind it. -/
def mixedMessage : SomeIpSdMessage :=
  { SdReceiver.foreignOffer with
    entries :=
      [.service (ServiceEntry.make .finding 2 1 3 1 0), .service (ServiceEntry.make .finding 1 1 3 1 0),
        .service (ServiceEntry.make .offering 2 1 3 1 0),
        .service (ServiceEntry.make .offering 1 1 3 1 0)] }

theorem not_always_reacts :
    (FindReceiver.mk ⟨1, 1, 1, 0⟩ []).receiveFind mixedMessage = ⟨⟨1, 1, 1, 0⟩, []⟩ ∧
      (∃ entry ∈ mixedMessage.entries, OfferedService.Finds ⟨1, 1, 1, 0⟩ entry = true) ∧
      ((SdReceiver.make 1 false).receiveSdMessage mixedMessage).2.timer = .make false ∧
      ∃ entry ∈ mixedMessage.entries, entry.OffersOrStops 1 = true := by
  refine ⟨by decide, ⟨.service (ServiceEntry.make .finding 1 1 3 1 0), ?_, rfl⟩, rfl,
    ⟨.service (ServiceEntry.make .offering 1 1 3 1 0), ?_, rfl⟩⟩
  · simp [mixedMessage]
  · simp [mixedMessage]

end AdaptiveAutosar.Com
