import AdaptiveAutosar.Com.Sd.Message
import AdaptiveAutosar.Com.Sd.Client.Machine

/-! # The endpoint that the service discovery client offers

`SomeIpSdClient::receiveSdMessage` matches a message by its first Offer entry and then takes the first
endpoint it finds anywhere in the message; `TryGetOfferedEndpoint` hands out the last one taken. A
message is handled to its end before the next one comes.
-/

namespace AdaptiveAutosar.Com
open Foundations
set_option autoImplicit false

/-- `ToString`. -/
def Ipv4Address.toString (ipAddress : Ipv4Address) : String :=
  ipAddress.octet0.toNat.repr ++ "." ++ ipAddress.octet1.toNat.repr ++ "." ++
    ipAddress.octet2.toNat.repr ++ "." ++ ipAddress.octet3.toNat.repr

/-- An IP address and a port. -/
abbrev OfferedEndpoint := String × UInt16

/-- The endpoint of an option that the inner loop of `tryExtractOfferedEndpoint` takes. -/
def EntryOption.tcpEndpoint : EntryOption → Option OfferedEndpoint
  | ipv4Endpoint option =>
    if option.type = .iPv4Endpoint ∧ option.l4Proto = .tcp then
      some (option.ipAddress.toString, option.port)
    else none
  | loadBalancing _ | other _ _ _ _ => none

namespace SomeIpSdClient

/-- The first Offer entry decides: the TTL when it is for this service. -/
def matchRequestedService (serviceId : UInt16) : List AnyEntry → Option UInt32
  | [] => none
  | .service entry :: rest =>
    if entry.type = .offering then
      if entry.serviceId = serviceId then some entry.ttl else none
    else matchRequestedService serviceId rest
  | .eventgroup _ :: rest => matchRequestedService serviceId rest

/-- The inner loop of `tryExtractOfferedEndpoint` from an option on. Its condition is the size of the
run and not the index, so behind the last option `at` throws. -/
def scanOptions : List EntryOption → Outcome OfferedEndpoint
  | [] => .error (.thrown (.outOfRange "vector::_M_range_check"))
  | option :: rest =>
    match option.tcpEndpoint with
    | some endpoint => .ok endpoint
    | none => scanOptions rest

def tryExtractOfferedEndpoint : List AnyEntry → Outcome (Option OfferedEndpoint)
  | [] => .ok none
  | entry :: rest =>
    if entry.toEntry.firstOptions = [] then tryExtractOfferedEndpoint rest
    else do
      let endpoint ← scanOptions entry.toEntry.firstOptions
      pure (some endpoint)

end SomeIpSdClient

/-- What the receiver and `TryGetOfferedEndpoint` use of the client. -/
structure SdReceiver where
  serviceId : UInt16
  validState : Bool
  timer : TtlTimer
  offeredIpAddress : Option String
  offeredPort : Option UInt16
  endpointLocked : Bool
  deriving DecidableEq, Repr

namespace SdReceiver
open SomeIpSdClient

def make (serviceId : UInt16) (signalFlag : Bool) : SdReceiver :=
  ⟨serviceId, true, .make signalFlag, none, none, false⟩

def onOfferChanged (client : SdReceiver) (ttl : UInt32) : SdReceiver :=
  { client with timer := { client.timer with ttl, signalFlag := true } }

/-- `lock` of a `unique_lock` that owns its mutex already throws a `std::system_error`. -/
def lock (client : SdReceiver) : Outcome SdReceiver :=
  if client.endpointLocked then .error (.thrown (.runtimeError "Resource deadlock avoided"))
  else .ok { client with endpointLocked := true }

def unlock (client : SdReceiver) : SdReceiver := { client with endpointLocked := false }

/-- How the call ends, and what it leaves behind. An exception leaves the lock as it is. -/
def receiveSdMessage (client : SdReceiver) (message : SomeIpSdMessage) : Outcome Unit × SdReceiver :=
  if client.validState then
    match matchRequestedService client.serviceId message.entries with
    | none => (.ok (), client)
    | some ttl =>
      let client := client.onOfferChanged ttl
      match client.lock with
      | .error e => (.error e, client)
      | .ok client =>
        match tryExtractOfferedEndpoint message.entries with
        | .error e => (.error e, client)
        | .ok none => (.ok (), client.unlock)
        | .ok (some (ipAddress, port)) =>
          (.ok (), { client with
            offeredIpAddress := some ipAddress
            offeredPort := some port }.unlock)
  else (.ok (), client)

/-- The endpoint, and `none` when it returns false. -/
def tryGetOfferedEndpoint (client : SdReceiver) : Outcome (Option OfferedEndpoint) := do
  let client ← client.lock
  match client.offeredIpAddress, client.offeredPort with
  | some ipAddress, some port => pure (some (ipAddress, port))
  | _, _ => pure none

/-- The client behind some messages. -/
def receiveAll (client : SdReceiver) (messages : List SomeIpSdMessage) : SdReceiver :=
  messages.foldl (fun client message => (client.receiveSdMessage message).2) client

end SdReceiver

/-! ## What is to be offered -/

/-- The first TCP endpoint of the first run. -/
def AnyEntry.tcpEndpoint (entry : AnyEntry) : Option OfferedEndpoint :=
  entry.toEntry.firstOptions.findSome? EntryOption.tcpEndpoint

/-- The endpoint of an Offer for the service. -/
def AnyEntry.offers (serviceId : UInt16) : AnyEntry → Option OfferedEndpoint
  | service entry =>
    if entry.type = .offering ∧ entry.serviceId = serviceId ∧ 0 < entry.ttl then
      (service entry).tcpEndpoint
    else none
  | eventgroup _ => none

/-- The endpoint of the latest entry that is an Offer for the service with an endpoint. -/
def latestOffered (serviceId : UInt16) (messages : List SomeIpSdMessage) : Option OfferedEndpoint :=
  (messages.flatMap SomeIpSdMessage.entries).reverse.findSome? (AnyEntry.offers serviceId)

/-- With `recorded` as the endpoint offered so far, a message is attributed rightly. If its first Offer
is for the service, the first of its entries with any first option has a TCP endpoint, and that is the
one of the last Offer for the service with an endpoint, or else the one recorded. If its first Offer is
not for the service, the endpoint of no Offer for the service in it is a new one. -/
def Attributable (serviceId : UInt16) (recorded : Option OfferedEndpoint) (message : SomeIpSdMessage) :
    Prop :=
  if (SomeIpSdClient.matchRequestedService serviceId message.entries).isSome then
    ∀ entry, message.entries.find? (fun entry => entry.toEntry.firstOptions ≠ []) = some entry →
      ∃ endpoint, entry.tcpEndpoint = some endpoint ∧
        (latestOffered serviceId [message]).or recorded = some endpoint
  else latestOffered serviceId [message] = none ∨ latestOffered serviceId [message] = recorded

/-- A message of this service has a TCP endpoint in the first run that is not empty, if it has any. -/
def Extractable (serviceId : UInt16) (message : SomeIpSdMessage) : Prop :=
  (SomeIpSdClient.matchRequestedService serviceId message.entries).isSome →
    ∀ entry, message.entries.find? (fun entry => entry.toEntry.firstOptions ≠ []) = some entry →
      entry.tcpEndpoint.isSome

/-! ## What the two loops find -/

namespace SomeIpSdClient

/-- The inner loop ends in the first TCP endpoint of the run, or throws. -/
theorem scanOptions_eq (options : List EntryOption) :
    scanOptions options =
      match options.findSome? EntryOption.tcpEndpoint with
      | some endpoint => .ok endpoint
      | none => .error (.thrown (.outOfRange "vector::_M_range_check")) := by
  induction options with
  | nil => rfl
  | cons option rest ih =>
    rw [scanOptions, List.findSome?_cons]
    cases option.tcpEndpoint with
    | some endpoint => rfl
    | none => exact ih

/-- Only the first entry with any first option is looked at. -/
theorem tryExtractOfferedEndpoint_eq (entries : List AnyEntry) :
    tryExtractOfferedEndpoint entries =
      match entries.find? (fun entry => entry.toEntry.firstOptions ≠ []) with
      | none => .ok none
      | some entry =>
        match entry.tcpEndpoint with
        | some endpoint => .ok (some endpoint)
        | none => .error (.thrown (.outOfRange "vector::_M_range_check")) := by
  induction entries with
  | nil => rfl
  | cons entry rest ih =>
    rw [tryExtractOfferedEndpoint]
    by_cases empty : entry.toEntry.firstOptions = []
    · rw [if_pos empty, List.find?_cons_of_neg (by simp [empty])]
      exact ih
    · rw [if_neg empty, List.find?_cons_of_pos (by simp [empty]), scanOptions_eq]
      simp only [AnyEntry.tcpEndpoint]
      cases entry.toEntry.firstOptions.findSome? EntryOption.tcpEndpoint with
      | some endpoint => rfl
      | none => rfl

end SomeIpSdClient

/-! ## The latest endpoint -/

theorem latestOffered_append (serviceId : UInt16) (messages : List SomeIpSdMessage)
    (message : SomeIpSdMessage) : latestOffered serviceId (messages ++ [message]) =
      (latestOffered serviceId [message]).or (latestOffered serviceId messages) := by
  simp [latestOffered, List.findSome?_append]

theorem AnyEntry.offers_eq_none {entry : AnyEntry} (empty : entry.toEntry.firstOptions = [])
    (serviceId : UInt16) : entry.offers serviceId = none := by
  cases entry with
  | service entry =>
    simp only [AnyEntry.offers]
    split_ifs
    · simp only [AnyEntry.tcpEndpoint, empty, List.findSome?_nil]
    · rfl
  | eventgroup entry => rfl

theorem latestOffered_eq_none {message : SomeIpSdMessage}
    (empty : message.entries.find? (fun entry => entry.toEntry.firstOptions ≠ []) = none)
    (serviceId : UInt16) : latestOffered serviceId [message] = none := by
  simp only [latestOffered, List.flatMap_cons, List.flatMap_nil, List.append_nil,
    List.findSome?_eq_none_iff, List.mem_reverse]
  intro entry there
  apply AnyEntry.offers_eq_none
  simpa using List.find?_eq_none.mp empty entry there

namespace SdReceiver
open SomeIpSdClient

/-- The client is that of the service, not in destruction, and has an IP address exactly with a port. -/
structure Paired (client : SdReceiver) (serviceId : UInt16) : Prop where
  serviceId : client.serviceId = serviceId
  valid : client.validState = true
  pair : ∃ endpoint : Option OfferedEndpoint,
    client.offeredIpAddress = endpoint.map Prod.fst ∧ client.offeredPort = endpoint.map Prod.snd

/-- Then the lock is free, and this is the endpoint. -/
structure Recorded (client : SdReceiver) (endpoint : Option OfferedEndpoint) : Prop where
  free : client.endpointLocked = false
  ipAddress : client.offeredIpAddress = endpoint.map Prod.fst
  port : client.offeredPort = endpoint.map Prod.snd

theorem paired_make (serviceId : UInt16) (signalFlag : Bool) :
    (make serviceId signalFlag).Paired serviceId := ⟨rfl, rfl, none, rfl, rfl⟩

variable {client : SdReceiver} {serviceId : UInt16}

theorem Paired.get_iff (h : client.Paired serviceId) (endpoint : Option OfferedEndpoint) :
    client.tryGetOfferedEndpoint = .ok endpoint ↔ client.Recorded endpoint := by
  obtain ⟨recorded, ipAddress, port⟩ := h.pair
  constructor
  · intro returned
    unfold tryGetOfferedEndpoint lock at returned
    split_ifs at returned with locked
    · cases returned
    · have free : client.endpointLocked = false := by simpa using locked
      cases recorded with
      | none =>
        simp only [ipAddress, port, Option.map_none] at returned
        cases returned
        exact ⟨free, ipAddress, port⟩
      | some pair =>
        simp only [ipAddress, port, Option.map_some] at returned
        cases returned
        exact ⟨free, ipAddress, port⟩
  · intro here
    unfold tryGetOfferedEndpoint lock
    rw [if_neg (by simp [here.free])]
    cases endpoint with
    | none => simp [here.ipAddress, here.port, bind, Except.bind, pure, Except.pure]
    | some pair => simp [here.ipAddress, here.port, bind, Except.bind, pure, Except.pure]

theorem Paired.receive (h : client.Paired serviceId) (message : SomeIpSdMessage) :
    (client.receiveSdMessage message).2.Paired serviceId := by
  unfold receiveSdMessage
  rw [if_pos h.valid]
  cases matchRequestedService client.serviceId message.entries with
  | none => exact h
  | some ttl =>
    simp only [lock]
    split_ifs
    · exact ⟨h.serviceId, h.valid, h.pair⟩
    · cases tryExtractOfferedEndpoint message.entries with
      | error e => exact ⟨h.serviceId, h.valid, h.pair⟩
      | ok found =>
        cases found with
        | none => exact ⟨h.serviceId, h.valid, h.pair⟩
        | some endpoint => exact ⟨h.serviceId, h.valid, some endpoint, rfl, rfl⟩

theorem Recorded.iff_eq {recorded : Option OfferedEndpoint} (h : client.Recorded recorded)
    (endpoint : Option OfferedEndpoint) : client.Recorded endpoint ↔ endpoint = recorded := by
  constructor
  · intro here
    have first := here.ipAddress.symm.trans h.ipAddress
    have second := here.port.symm.trans h.port
    cases endpoint <;> cases recorded <;> simp_all [Prod.ext_iff]
  · rintro rfl
    exact h

/-- With the lock free, a message of this service leaves the endpoint that the loops find, or the lock
held where they throw. -/
theorem receive_matched (valid : client.validState = true) (free : client.endpointLocked = false)
    {message : SomeIpSdMessage} {ttl : UInt32}
    (matched : matchRequestedService client.serviceId message.entries = some ttl) :
    (client.receiveSdMessage message).2 =
      match tryExtractOfferedEndpoint message.entries with
      | .error _ => { client.onOfferChanged ttl with endpointLocked := true }
      | .ok none => client.onOfferChanged ttl
      | .ok (some (ipAddress, port)) =>
        { client.onOfferChanged ttl with
          offeredIpAddress := some ipAddress
          offeredPort := some port } := by
  unfold receiveSdMessage
  rw [if_pos valid, matched]
  simp only [lock, onOfferChanged, free, Bool.false_eq_true, if_false]
  cases tryExtractOfferedEndpoint message.entries with
  | error e => rfl
  | ok found =>
    cases found with
    | none => simp only [unlock]
    | some endpoint => rfl

/-- A message keeps the record right exactly when it is attributed rightly. -/
theorem Recorded.receive_iff {recorded : Option OfferedEndpoint} (paired : client.Paired serviceId)
    (h : client.Recorded recorded) (message : SomeIpSdMessage) :
    (client.receiveSdMessage message).2.Recorded ((latestOffered serviceId [message]).or recorded) ↔
      Attributable serviceId recorded message := by
  unfold Attributable
  rw [← paired.serviceId]
  cases matched : matchRequestedService client.serviceId message.entries with
  | none =>
    have same : (client.receiveSdMessage message).2 = client := by
      unfold receiveSdMessage
      rw [if_pos paired.valid, matched]
    rw [same, h.iff_eq]
    simp only [Option.isSome_none, Bool.false_eq_true, if_false]
    cases latestOffered client.serviceId [message] with
    | none => simp
    | some endpoint => simp
  | some ttl =>
    rw [receive_matched paired.valid h.free matched, tryExtractOfferedEndpoint_eq]
    simp only [Option.isSome_some, if_true]
    cases first : message.entries.find? (fun entry => entry.toEntry.firstOptions ≠ []) with
    | none =>
      rw [latestOffered_eq_none first]
      exact iff_of_true ⟨h.free, h.ipAddress, h.port⟩ (by simp)
    | some entry =>
      cases found : entry.tcpEndpoint with
      | none =>
        -- the lock is held for ever
        refine iff_of_false (fun after => ?_) (by simp [found])
        have free := after.free
        simp [found] at free
      | some endpoint =>
        have after : Recorded { client.onOfferChanged ttl with
            offeredIpAddress := some endpoint.1
            offeredPort := some endpoint.2 } (some endpoint) := ⟨h.free, rfl, rfl⟩
        simp only [found]
        rw [after.iff_eq]
        constructor
        · rintro same _ ⟨⟩
          exact ⟨endpoint, found, same⟩
        · intro attributed
          obtain ⟨other, found', same⟩ := attributed entry rfl
          cases found.symm.trans found'
          exact same

theorem receiveAll_append (client : SdReceiver) (messages : List SomeIpSdMessage)
    (message : SomeIpSdMessage) : client.receiveAll (messages ++ [message]) =
      ((client.receiveAll messages).receiveSdMessage message).2 := by
  simp [receiveAll]

theorem receiveAll_paired (serviceId : UInt16) (signalFlag : Bool) (messages : List SomeIpSdMessage) :
    ((make serviceId signalFlag).receiveAll messages).Paired serviceId := by
  induction messages using List.reverseRecOn with
  | nil => exact paired_make serviceId signalFlag
  | append_singleton messages message ih =>
    rw [receiveAll_append]
    exact ih.receive message

/-- For every sequence of messages: the endpoint is that of the latest Offer of the service with an
endpoint, and there is none without such an Offer, behind every one of them exactly when every one is
attributed rightly. -/
theorem get_iff_attributable (serviceId : UInt16) (signalFlag : Bool) (messages : List SomeIpSdMessage) :
    (∀ older, older <+: messages →
        ((make serviceId signalFlag).receiveAll older).tryGetOfferedEndpoint =
          .ok (latestOffered serviceId older)) ↔
      ∀ older message, older ++ [message] <+: messages →
        Attributable serviceId (latestOffered serviceId older) message := by
  let good (older : List SomeIpSdMessage) : Prop :=
    ((make serviceId signalFlag).receiveAll older).tryGetOfferedEndpoint =
      .ok (latestOffered serviceId older)
  have start : good [] := rfl
  refine prefixes_iff start ?_ messages
  intro older message before
  have paired := receiveAll_paired serviceId signalFlag older
  have recorded := (paired.get_iff _).mp before
  show ((make serviceId signalFlag).receiveAll (older ++ [message])).tryGetOfferedEndpoint = _ ↔ _
  rw [receiveAll_append, latestOffered_append, (paired.receive message).get_iff]
  exact recorded.receive_iff paired message

/-- A StopOffer for service 1 without options, and behind it an Offer for service 2 with an endpoint. -/
def foreignOffer : SomeIpSdMessage where
  messageId := SomeIpSdMessage.cMessageId
  clientId := SomeIpSdMessage.cClientId
  sessionId := 1
  protocolVersion := SomeIpSdMessage.cProtocolVersion
  interfaceVersion := SomeIpSdMessage.cInterfaceVersion
  messageType := SomeIpSdMessage.cMessageType
  returnCode := .eOK
  rebooted := true
  entries :=
    [.service (ServiceEntry.createStopOfferEntry 1 1 1 0),
      .service { ServiceEntry.make .offering 2 1 3 1 0 with
        firstOptions := [.ipv4Endpoint (.createUnitcastEndpoint false ⟨10, 0, 0, 9⟩ .tcp 80)] }]

theorem not_always_attributed :
    ((make 1 false).receiveAll [foreignOffer]).tryGetOfferedEndpoint =
        .ok (some ((Ipv4Address.mk 10 0 0 9).toString, 80)) ∧
      latestOffered 1 [foreignOffer] = none := ⟨rfl, by decide⟩

/-! ## Whether a reception returns -/

/-- The call ends without an exception and leaves the lock free. -/
def Returns (client : SdReceiver) (message : SomeIpSdMessage) : Prop :=
  (client.receiveSdMessage message).1 = .ok () ∧
    (client.receiveSdMessage message).2.endpointLocked = false

theorem returns_of_unmatched (free : client.endpointLocked = false) {message : SomeIpSdMessage}
    (unmatched : matchRequestedService client.serviceId message.entries = none) :
    client.Returns message := by
  unfold Returns receiveSdMessage
  split_ifs
  · rw [unmatched]
    exact ⟨rfl, free⟩
  · exact ⟨rfl, free⟩

/-- With the lock free, a message of this service returns exactly when the loops do not throw. -/
theorem returns_iff_of_matched (valid : client.validState = true) (free : client.endpointLocked = false)
    {message : SomeIpSdMessage} {ttl : UInt32}
    (matched : matchRequestedService client.serviceId message.entries = some ttl) :
    client.Returns message ↔ ∃ found, tryExtractOfferedEndpoint message.entries = .ok found := by
  unfold Returns
  rw [receive_matched valid free matched]
  unfold receiveSdMessage
  rw [if_pos valid, matched]
  simp only [lock, onOfferChanged, free, Bool.false_eq_true, if_false]
  cases tryExtractOfferedEndpoint message.entries with
  | error e => simp
  | ok found =>
    cases found with
    | none => simp
    | some endpoint => simp

theorem returns_iff (valid : client.validState = true) (free : client.endpointLocked = false)
    (message : SomeIpSdMessage) : client.Returns message ↔ Extractable client.serviceId message := by
  unfold Extractable
  cases matched : matchRequestedService client.serviceId message.entries with
  | none => exact iff_of_true (returns_of_unmatched free matched) (by simp)
  | some ttl =>
    rw [returns_iff_of_matched valid free matched, tryExtractOfferedEndpoint_eq]
    simp only [Option.isSome_some, true_implies]
    cases message.entries.find? (fun entry => entry.toEntry.firstOptions ≠ []) with
    | none => simp
    | some entry =>
      cases found : entry.tcpEndpoint with
      | none => simp [found]
      | some endpoint => simp [found]

/-- An exception leaves the lock held. -/
theorem returns_iff_free (valid : client.validState = true) (free : client.endpointLocked = false)
    (message : SomeIpSdMessage) :
    client.Returns message ↔ (client.receiveSdMessage message).2.endpointLocked = false := by
  refine ⟨And.right, fun after => ?_⟩
  cases matched : matchRequestedService client.serviceId message.entries with
  | none => exact returns_of_unmatched free matched
  | some ttl =>
    rw [returns_iff_of_matched valid free matched]
    rw [receive_matched valid free matched] at after
    cases extracted : tryExtractOfferedEndpoint message.entries with
    | error e => simp [extracted] at after
    | ok found => exact ⟨found, rfl⟩

/-- For every sequence of messages: each of them is received without an exception, and with the lock
free behind it, exactly when each one of this service has a TCP endpoint in its first run that is not
empty. -/
theorem returns_iff_extractable (serviceId : UInt16) (signalFlag : Bool)
    (messages : List SomeIpSdMessage) :
    (∀ older message, older ++ [message] <+: messages →
        ((make serviceId signalFlag).receiveAll older).Returns message) ↔
      ∀ message ∈ messages, Extractable serviceId message := by
  let good (older : List SomeIpSdMessage) : Prop :=
    ((make serviceId signalFlag).receiveAll older).endpointLocked = false
  have start : good [] := rfl
  have here (older : List SomeIpSdMessage) (message : SomeIpSdMessage) (before : good older) :
      good (older ++ [message]) ↔ Extractable serviceId message := by
    have paired := receiveAll_paired serviceId signalFlag older
    have iff := returns_iff paired.valid before message
    rw [returns_iff_free paired.valid before, paired.serviceId] at iff
    show ((make serviceId signalFlag).receiveAll (older ++ [message])).endpointLocked = false ↔ _
    rw [receiveAll_append]
    exact iff
  have free := prefixes_iff start here messages
  constructor
  · intro returned message there
    obtain ⟨older, newer, rfl⟩ := List.append_of_mem there
    refine free.mp ?_ older message ⟨newer, by simp⟩
    intro behind isPrefix
    cases behind using List.reverseRecOn with
    | nil => exact start
    | append_singleton older message =>
      show ((make serviceId signalFlag).receiveAll (older ++ [message])).endpointLocked = false
      rw [receiveAll_append]
      exact (returned older message isPrefix).2
  · intro extractable older message isPrefix
    have every := free.mpr fun _ message isPrefix => extractable message (isPrefix.subset (by simp))
    have before := every older ((List.prefix_append older [message]).trans isPrefix)
    have paired := receiveAll_paired serviceId signalFlag older
    rw [returns_iff paired.valid before, paired.serviceId]
    exact extractable message (isPrefix.subset (by simp))

/-- An Offer for service 1 with nothing but a load balancing option. -/
def balancedOffer : SomeIpSdMessage :=
  { foreignOffer with
    entries := [.service { ServiceEntry.make .offering 1 1 3 1 0 with
      firstOptions := [.loadBalancing ⟨false, 1, 1⟩] }] }

theorem not_always_returns :
    SomeIpSdMessage.deserialize balancedOffer.payload = .ok balancedOffer ∧
      ((make 1 false).receiveSdMessage balancedOffer).1 =
        .error (.thrown (.outOfRange "vector::_M_range_check")) ∧
      ((make 1 false).receiveSdMessage balancedOffer).2.endpointLocked = true := by
  refine ⟨?_, rfl, rfl⟩
  rfl

/-! ## What the state machine sees of a message -/

/-- The inputs of the state machine that the receiver gives. -/
def inputs (client : SdReceiver) (message : SomeIpSdMessage) : List ClientStep :=
  if client.validState then
    match matchRequestedService client.serviceId message.entries with
    | none => []
    | some ttl => [.offer ttl, .signal]
  else []

theorem receiveSdMessage_timer (client : SdReceiver) (message : SomeIpSdMessage) :
    (client.receiveSdMessage message).2.timer =
      if client.validState then
        match matchRequestedService client.serviceId message.entries with
        | none => client.timer
        | some ttl => { client.timer with ttl, signalFlag := true }
      else client.timer := by
  unfold receiveSdMessage
  split_ifs
  · cases matchRequestedService client.serviceId message.entries with
    | none => rfl
    | some ttl =>
      simp only [lock]
      split_ifs
      · rfl
      · cases tryExtractOfferedEndpoint message.entries with
        | error e => rfl
        | ok found =>
          cases found with
          | none => rfl
          | some endpoint => rfl
  · rfl

/-- No message changes what a client asks for. -/
theorem receiveSdMessage_inputs (client : SdReceiver) (message : SomeIpSdMessage) :
    (client.receiveSdMessage message).2.inputs = client.inputs ∧
      (client.receiveSdMessage message).2.validState = client.validState := by
  unfold receiveSdMessage
  split_ifs
  · cases matchRequestedService client.serviceId message.entries with
    | none => exact ⟨rfl, rfl⟩
    | some ttl =>
      simp only [lock]
      split_ifs
      · exact ⟨rfl, rfl⟩
      · cases tryExtractOfferedEndpoint message.entries with
        | error e => exact ⟨rfl, rfl⟩
        | ok found =>
          cases found with
          | none => exact ⟨rfl, rfl⟩
          | some endpoint => exact ⟨rfl, rfl⟩
  · exact ⟨rfl, rfl⟩

theorem play_inputs (repetitions : Repetitions) {receiver : SdReceiver} {client : SdClient}
    (timer : client.timer = receiver.timer) (valid : client.validState = receiver.validState)
    (message : SomeIpSdMessage) (trace : List (Taken SdClient ClientStep (Option Observed))) :
    ∃ trace' client',
      Run.play (SdClient.step repetitions) trace client (receiver.inputs message) = .ok (trace', client') ∧
        client'.timer = (receiver.receiveSdMessage message).2.timer ∧ client'.validState = receiver.validState := by
  rw [receiveSdMessage_timer]
  unfold inputs
  split_ifs with isValid
  · cases matchRequestedService receiver.serviceId message.entries with
    | none => exact ⟨trace, client, rfl, timer, valid⟩
    | some ttl =>
      have offered : client.step repetitions (.offer ttl) = .ok (none, client.setOffered ttl) := by
        simp only [SdClient.step, valid, isValid, if_true]
      have signalled : (client.setOffered ttl).step repetitions .signal =
          .ok (none, { client.setOffered ttl with signals := client.signals }.setSignal true) := by
        simp [SdClient.step, SdClient.setOffered]
      refine ⟨⟨client.setOffered ttl, .signal, none⟩ :: ⟨client, .offer ttl, none⟩ :: trace,
        { client.setOffered ttl with signals := client.signals }.setSignal true, ?_, ?_, ?_⟩
      · simp only [Run.play, offered, signalled]
      · simp [SdClient.setSignal, SdClient.setOffered, timer]
      · simp [SdClient.setSignal, SdClient.setOffered, valid, isValid]
  · exact ⟨trace, client, rfl, timer, by rw [valid]⟩

/-- The state machine follows the receiver: with its inputs it has the timer that the messages have left. -/
theorem receiveAll_simulated (repetitions : Repetitions) {receiver : SdReceiver} {client : SdClient}
    (timer : client.timer = receiver.timer) (valid : client.validState = receiver.validState)
    (messages : List SomeIpSdMessage) (trace : List (Taken SdClient ClientStep (Option Observed))) :
    ∃ trace' client',
      Run.play (SdClient.step repetitions) trace client (messages.flatMap receiver.inputs) = .ok (trace', client') ∧
        client'.timer = (receiver.receiveAll messages).timer := by
  induction messages generalizing receiver client trace with
  | nil => exact ⟨trace, client, rfl, timer⟩
  | cons message rest ih =>
    obtain ⟨trace', client', played, timer', valid'⟩ := play_inputs repetitions timer valid message trace
    obtain ⟨same, stays⟩ := receiver.receiveSdMessage_inputs message
    obtain ⟨trace'', client'', played', final⟩ := ih timer' (valid'.trans stays.symm) trace'
    rw [same] at played'
    refine ⟨trace'', client'', ?_, final⟩
    rw [List.flatMap_cons, Run.play_append played, played']

end SdReceiver
end AdaptiveAutosar.Com
