import AdaptiveAutosar.Com.NetworkLayer
import AdaptiveAutosar.Com.Datagram
import AdaptiveAutosar.Com.Sd.Corrupted

/-! # The service discovery network layer

`ara::com::someip::sd::SdNetworkLayer`. `Receive` fills at most the buffer, the rest of a longer datagram
is lost, and behind the received bytes the buffer is indeterminate. What `onReceive` throws reaches
the poller.
-/

namespace AdaptiveAutosar.Com
open Foundations Foundations.BigEndian
set_option autoImplicit false

structure SdNetworkLayer (σ : Type) extends NetworkLayer SomeIpSdMessage σ where
  destination : Destination
  sendingQueue : List Bytes

namespace SdNetworkLayer
variable {σ : Type}

def cBufferSize : ℕ := 256
/-! ## Receiving -/

def onReceive (layer : SdNetworkLayer σ) (datagram : Bytes) (port : UInt16) (objects : σ) :
    Delivery SomeIpSdMessage σ :=
  let received := receive cBufferSize datagram
  if 0 < received.length ∧ port = layer.destination.port then
    match serviceIdOf received with
    | .error e => ⟨.error e, objects, []⟩
    | .ok serviceId =>
      if serviceId ≠ cSdServiceId then ⟨.ok (), objects, []⟩
      else layer.fireReceiverCallbacks SomeIpSdMessage.deserialize received objects
  else ⟨.ok (), objects, []⟩

/-- The datagram comes from the SD port and its bytes decode to an SD message. -/
def Carries (layer : SdNetworkLayer σ) (datagram : Bytes) (port : UInt16) (message : SomeIpSdMessage) :
    Prop :=
  port = layer.destination.port ∧ serviceIdOf (receive cBufferSize datagram) = .ok cSdServiceId ∧
    SomeIpSdMessage.deserialize (receive cBufferSize datagram) = .ok message

/-- The call returns, hands an SD message to each receiver once, and drops everything else. -/
structure Survives (layer : SdNetworkLayer σ) (datagram : Bytes) (port : UInt16) (objects : σ) : Prop where
  returns : (layer.onReceive datagram port objects).outcome = .ok ()
  handed : ∀ message, layer.Carries datagram port message →
    layer.ReachesEach (layer.onReceive datagram port objects) message
  dropped : (∀ message, ¬ layer.Carries datagram port message) →
    (layer.onReceive datagram port objects).handed = [] ∧
      (layer.onReceive datagram port objects).objects = objects

/-- The datagram is not from the SD port or empty; or it has the two bytes of a service ID, and with the
one of the service discovery it is accepted by the reader, and its message by the receivers if there
are any. -/
def Harmless (layer : SdNetworkLayer σ) (datagram : Bytes) (port : UInt16) (objects : σ) : Prop :=
  port = layer.destination.port → datagram ≠ [] →
    2 ≤ datagram.length ∧
      (serviceIdOf (receive cBufferSize datagram) = .ok cSdServiceId → layer.receiverCallbacks.entries ≠ [] →
        SomeIpSdMessage.Accepted (receive cBufferSize datagram) ∧
          ∀ message, SomeIpSdMessage.deserialize (receive cBufferSize datagram) = .ok message →
            NetworkLayer.Returning message layer.receiverCallbacks.entries objects)

/-! ## The ways of a datagram -/

section Ways
variable {layer : SdNetworkLayer σ} {datagram : Bytes} {port : UInt16}

theorem receive_pos {datagram : Bytes} (filled : datagram ≠ []) :
    0 < (receive cBufferSize datagram).length := by
  have positive := List.length_pos_of_ne_nil filled
  rw [receive, List.length_take, cBufferSize]
  omega

theorem serviceIdOf_receive {datagram : Bytes} (two : 2 ≤ datagram.length) :
    ∃ serviceId, serviceIdOf (receive cBufferSize datagram) = .ok serviceId := by
  match datagram, two with
  | b0 :: b1 :: rest, _ => exact ⟨_, rfl⟩

theorem onReceive_foreign (foreign : port ≠ layer.destination.port) (datagram : Bytes) (objects : σ) :
    layer.onReceive datagram port objects = ⟨.ok (), objects, []⟩ := by
  rw [onReceive, if_neg (fun both => foreign both.2)]

theorem onReceive_nil (layer : SdNetworkLayer σ) (port : UInt16) (objects : σ) :
    layer.onReceive [] port objects = ⟨.ok (), objects, []⟩ := by
  rw [onReceive, if_neg (fun both => absurd both.1 (by simp [receive]))]

/-- With one byte of a service ID the other is read behind the received bytes. -/
theorem onReceive_cut (own : port = layer.destination.port) (filled : datagram ≠ [])
    (cut : ¬ 2 ≤ datagram.length) (objects : σ) :
    layer.onReceive datagram port objects = ⟨.error .undefined, objects, []⟩ := by
  have unread : serviceIdOf (receive cBufferSize datagram) = .error .undefined := by
    match datagram, filled, cut with
    | [b], _, _ => rfl
    | b0 :: b1 :: rest, _, cut => exact absurd (by simp) cut
  rw [onReceive, if_pos ⟨receive_pos filled, own⟩, unread]

theorem onReceive_other {serviceId : UInt16} (own : port = layer.destination.port)
    (filled : datagram ≠ []) (isId : serviceIdOf (receive cBufferSize datagram) = .ok serviceId)
    (other : serviceId ≠ cSdServiceId) (objects : σ) :
    layer.onReceive datagram port objects = ⟨.ok (), objects, []⟩ := by
  rw [onReceive, if_pos ⟨receive_pos filled, own⟩, isId]
  exact if_pos other

theorem onReceive_sd (own : port = layer.destination.port) (filled : datagram ≠ [])
    (isId : serviceIdOf (receive cBufferSize datagram) = .ok cSdServiceId) (objects : σ) :
    layer.onReceive datagram port objects =
      layer.fireReceiverCallbacks SomeIpSdMessage.deserialize (receive cBufferSize datagram) objects := by
  rw [onReceive, if_pos ⟨receive_pos filled, own⟩, isId]
  exact if_neg (not_not.mpr rfl)

end Ways

/-! ## What is survived -/

variable {layer : SdNetworkLayer σ} {datagram : Bytes} {port : UInt16} {objects : σ}

/-- Where nothing is carried, a normal end with no receiver called is a survival. -/
theorem survives_silent (silent : layer.onReceive datagram port objects = ⟨.ok (), objects, []⟩)
    (nothing : ∀ message, ¬ layer.Carries datagram port message) :
    layer.Survives datagram port objects where
  returns := by rw [silent]
  handed := fun message carries => absurd carries (nothing message)
  dropped := fun _ => by rw [silent]; exact ⟨rfl, rfl⟩

/-- Behind the check of the service ID the reader and the receivers decide. -/
theorem survives_sd_iff (own : port = layer.destination.port) (filled : datagram ≠ [])
    (isId : serviceIdOf (receive cBufferSize datagram) = .ok cSdServiceId) (objects : σ) :
    layer.Survives datagram port objects ↔
      (layer.receiverCallbacks.entries ≠ [] → SomeIpSdMessage.Accepted (receive cBufferSize datagram) ∧
        ∀ message, SomeIpSdMessage.deserialize (receive cBufferSize datagram) = .ok message →
          NetworkLayer.Returning message layer.receiverCallbacks.entries objects) := by
  have fires := onReceive_sd own filled isId objects
  have carries_iff (message : SomeIpSdMessage) : layer.Carries datagram port message ↔
      SomeIpSdMessage.deserialize (receive cBufferSize datagram) = .ok message :=
    ⟨fun carries => carries.2.2, fun decoded => ⟨own, isId, decoded⟩⟩
  rw [← SomeIpSdMessage.deserialize_ok_iff]
  cases decoded : SomeIpSdMessage.deserialize (receive cBufferSize datagram) with
  | error e =>
    have fired := NetworkLayer.fire_error decoded layer.receiverCallbacks.entries objects
    constructor
    · intro survives someone
      have returns := survives.returns
      rw [fires, NetworkLayer.fireReceiverCallbacks, fired, if_neg someone] at returns
      cases returns
    · intro accepted
      have nobody : layer.receiverCallbacks.entries = [] := by
        by_contra someone
        obtain ⟨⟨message, impossible⟩, -⟩ := accepted someone
        cases impossible
      apply survives_silent
      · rw [fires, NetworkLayer.fireReceiverCallbacks, fired, if_pos nobody]
      · intro message carries
        rw [carries_iff, decoded] at carries
        cases carries
  | ok message =>
    obtain ⟨ends, -⟩ := NetworkLayer.fire_ok decoded layer.receiverCallbacks.entries objects
    constructor
    · intro survives someone
      refine ⟨⟨message, rfl⟩, ?_⟩
      rintro _ ⟨⟩
      have returns := survives.returns
      rw [fires] at returns
      exact ends.mp returns
    · intro accepted
      have returning : NetworkLayer.Returning message layer.receiverCallbacks.entries objects := by
        by_cases nobody : layer.receiverCallbacks.entries = []
        · rw [nobody]
          trivial
        · exact (accepted nobody).2 message rfl
      refine ⟨?_, ?_, ?_⟩
      · rw [fires]
        exact ends.mpr returning
      · intro received carries
        rw [carries_iff, decoded] at carries
        cases carries
        rw [fires]
        exact layer.fireReceiverCallbacks_reachesEach decoded returning
      · intro nothing
        exact absurd ((carries_iff message).mpr decoded) (nothing message)

/-- For every datagram, from every port and to any receivers: the call survives exactly what is
harmless. -/
theorem survives_iff_harmless (layer : SdNetworkLayer σ) (datagram : Bytes) (port : UInt16) (objects : σ) :
    layer.Survives datagram port objects ↔ layer.Harmless datagram port objects := by
  unfold Harmless
  by_cases own : port = layer.destination.port
  case neg =>
    refine iff_of_true ?_ (fun own' => absurd own' own)
    exact survives_silent (onReceive_foreign own datagram objects) (fun message carries => own carries.1)
  by_cases filled : datagram = []
  case pos =>
    subst filled
    refine iff_of_true ?_ (fun _ filled => absurd rfl filled)
    apply survives_silent (onReceive_nil layer port objects)
    intro message carries
    cases carries.2.1
  by_cases two : 2 ≤ datagram.length
  case neg =>
    refine iff_of_false ?_ (fun harmless => two (harmless own filled).1)
    intro survives
    have returns := survives.returns
    rw [onReceive_cut own filled two] at returns
    cases returns
  obtain ⟨serviceId, isId⟩ := serviceIdOf_receive two
  by_cases isSd : serviceId = cSdServiceId
  case neg =>
    have notSd : serviceIdOf (receive cBufferSize datagram) ≠ .ok cSdServiceId := by
      rw [isId]
      exact fun same => isSd (Except.ok.inj same)
    refine iff_of_true ?_ (fun _ _ => ⟨two, fun isSd' => absurd isSd' notSd⟩)
    exact survives_silent (onReceive_other own filled isId isSd objects)
      (fun message carries => notSd carries.2.1)
  rw [isSd] at isId
  rw [survives_sd_iff own filled isId]
  constructor
  · intro accepted _ _
    exact ⟨two, fun _ => accepted⟩
  · intro harmless
    exact (harmless own filled).2 isId

/-! ## What is not -/

def quietLayer : SdNetworkLayer Unit where
  receiverCallbacks := OrderedMap.empty.insert 1 fun _ objects => (.ok (), objects)
  destination := ⟨"239.255.0.1", 30490, []⟩
  sendingQueue := []

/-- A find entry without a TTL throws into the poller, and of a cut header or a single byte more is read
than was received. -/
theorem not_always_harmless :
    (quietLayer.onReceive SomeIpSdMessage.findWithoutTtl 30490 ()).outcome =
        .error (.thrown (.invalidArgument "TTL cannot be zero.")) ∧
      (quietLayer.onReceive SomeIpSdMessage.cutHeader 30490 ()).outcome = .error .undefined ∧
      (quietLayer.onReceive [255] 30490 ()).outcome = .error .undefined ∧
      ¬ quietLayer.Survives SomeIpSdMessage.findWithoutTtl 30490 () ∧
      ¬ quietLayer.Survives SomeIpSdMessage.cutHeader 30490 () ∧
      ¬ quietLayer.Survives [255] 30490 () := by
  refine ⟨rfl, rfl, rfl, ?_, ?_, ?_⟩
  all_goals
    intro survives
    cases survives.returns

/-! ## Sending -/

/-- With the attempt of `TryEnqueue` that got the lock or did not. -/
def send (layer : SdNetworkLayer σ) (message : SomeIpSdMessage) (locked : Bool) : SdNetworkLayer σ :=
  { layer with
    sendingQueue := (ConcurrentQueue.tryEnqueue layer.sendingQueue locked message.payload).2 }

/-- The buffer of a round is not initialised. -/
def onSend (layer : SdNetworkLayer σ) (rounds : List (SendRound cBufferSize)) :
    Outcome (List Datagram × SdNetworkLayer σ) := do
  let (datagrams, sendingQueue) ← layer.destination.drain rounds layer.sendingQueue
  pure (datagrams, { layer with sendingQueue })

/-! ## From one layer to another -/

/-- A message that the reader gives back and the buffer has room for. -/
structure Deliverable (message : SomeIpSdMessage) : Prop where
  sd : message.messageId = SomeIpSdMessage.cMessageId
  readable : ∀ entry ∈ message.entries, SomeIpSdMessage.Readable entry
  fits : message.payload.length ≤ cBufferSize

theorem serviceIdOf_payload {message : SomeIpSdMessage}
    (sd : message.messageId = SomeIpSdMessage.cMessageId) (rest : Bytes) :
    serviceIdOf (message.payload ++ rest) = .ok cSdServiceId := by
  rw [SomeIpSdMessage.payload_eq, SomeIpMessage.payload_record, sd]
  rfl

end SdNetworkLayer
end AdaptiveAutosar.Com
