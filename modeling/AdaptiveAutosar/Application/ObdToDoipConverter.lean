import AdaptiveAutosar.Application.DoipClient

/-! # OBD queries over DoIP

`application::doip::ObdToDoipConverter`: the parameters that it answers itself, and those that it asks the
vehicle for.
-/

namespace AdaptiveAutosar.Application
open Foundations Com Diag
set_option autoImplicit false

namespace ObdToDoipConverter

def cSid : UInt8 := 0x22
def cDidMsb : UInt8 := 0xf5
def cPidIndex : ℕ := 2
def cDataOffset : ℕ := 3

/-- The branches of the `switch` that call back with constants. -/
def cConstantData : List (UInt8 × Bytes) :=
  [(0x00, [0x3e, 0x7f, 0xf0, 0x15]),
    (0x03, [0x02, 0x00]),
    (0x04, [0x33]),
    (0x06, [0x8c]),
    (0x07, [0x80]),
    (0x0a, [0x50]),
    (0x0b, [0x4b]),
    (0x0c, [0x20, 0x00]),
    (0x0e, [0x92]),
    (0x0f, [0x50]),
    (0x10, [0x02, 0x08]),
    (0x11, [0x33]),
    (0x12, [0x04]),
    (0x13, [0x01]),
    (0x14, [0xc8, 0xff]),
    (0x1c, [0x01]),
    (0x1e, [0x00]),
    (0x20, [0xd0, 0x02, 0x70, 0x11]),
    (0x21, [0x00, 0x00]),
    (0x22, [0x19, 0x78]),
    (0x24, [0x80, 0x00, 0x20, 0x00]),
    (0x32, [0x6a, 0x40]),
    (0x33, [0x65]),
    (0x34, [0x80, 0x00, 0xe4, 0x00]),
    (0x3c, [0x19, 0x00]),
    (0x40, [0x5c, 0x0b, 0xb0, 0xd5]),
    (0x42, [0x2e, 0xe0]),
    (0x44, [0x80, 0x00]),
    (0x45, [0x33]),
    (0x4d, [0x00, 0x00]),
    (0x4f, [0x02, 0x08, 0x80, 0x19]),
    (0x50, [0x41, 0x00, 0x00, 0x00]),
    (0x51, [0x01]),
    (0x53, [0x54, 0x38]),
    (0x54, [0x1a, 0x90]),
    (0x59, [0x4e, 0x20]),
    (0x5a, [0x33]),
    (0x5c, [0xd2]),
    (0x60, [0xe3, 0x00, 0x00, 0x01]),
    (0x61, [0x91]),
    (0x62, [0x91]),
    (0x63, [0x01, 0x00]),
    (0x67, [0x01, 0x6e, 0x00]),
    (0x68, [0x01, 0x50, 0x00]),
    (0x80, [0x00, 0x00, 0x00, 0x01]),
    (0xa0, [0x04, 0x00, 0x00, 0x00])]

/-- The branches of the `switch` that ask the vehicle. -/
def cDoipPids : List UInt8 := [0x0d, 0x2f, 0x46, 0x5e, 0x05, 0xa6]

/-- What happens to a query: the callback is called, the vehicle is asked, or it is refused. -/
inductive QueryResult where
  | called (pid obdData : Bytes)
  | forwarded (pid : UInt8)
  | refused
  deriving DecidableEq, Repr

/-- The parameter and its data, unless the response is negative or too short. -/
def tryParseUdsData (udsResponse : Bytes) : Option (UInt8 × Bytes) :=
  if udsResponse.length < cDataOffset then none
  else if udsResponse.head? = some cNegativeResponseCodeSid then none
  else udsResponse[cPidIndex]?.map fun pid => (pid, udsResponse.drop cDataOffset)

/-- What the callback is called with. -/
def onUdsDataReceived (receivedUdsData : Bytes) : Option (Bytes × Bytes) :=
  (tryParseUdsData receivedUdsData).map fun (pid, obdData) => ([pid], obdData)

def trySendAsDoip (library : DoipLib) (client : DoipClient) (pid : UInt8) (locked : Bool) : Bool × DoipClient :=
  client.trySendDiagMessage library [cSid, cDidMsb, pid] locked

def tryGetResponseAsync (library : DoipLib) (client : DoipClient) (pid : Bytes) (locked : Bool) :
    Outcome (QueryResult × DoipClient) :=
  match pid with
  | [] => .error (.thrown (.outOfRange "vector::_M_range_check"))
  | queriedPid :: _ =>
    match cConstantData.lookup queriedPid with
    | some obdData => .ok (.called pid obdData, client)
    | none =>
      if queriedPid ∈ cDoipPids then
        let (result, client) := trySendAsDoip library client queriedPid locked
        .ok (if result then .forwarded queriedPid else .refused, client)
      else .ok (.refused, client)

/-- The vehicle is asked for one of its parameters by a client that knows its address, or nothing is enqueued. -/
theorem tryGetResponseAsync_cases {library : DoipLib} {client client' : DoipClient} {pid : Bytes} {locked : Bool}
    {result : QueryResult} (answered : tryGetResponseAsync library client pid locked = .ok (result, client')) :
    ((∀ asked, result ≠ .forwarded asked) ∧ client' = client) ∨
      ∃ asked ∈ cDoipPids, ∃ address, client.logicalAddress = some address ∧ result = .forwarded asked ∧
        client' =
          { client with
            sendQueue := client.sendQueue ++
              [library.serialize (.diagMessage cProtocolVersion ⟨address, address, [cSid, cDidMsb, asked]⟩)] } := by
  obtain ⟨logicalAddress, sendQueue⟩ := client
  unfold tryGetResponseAsync at answered
  cases pid with
  | nil => cases answered
  | cons queriedPid rest =>
    dsimp only at answered
    cases constant : cConstantData.lookup queriedPid with
    | some obdData =>
      rw [constant] at answered
      cases answered
      exact .inl ⟨nofun, rfl⟩
    | none =>
      rw [constant] at answered
      dsimp only at answered
      by_cases asked : queriedPid ∈ cDoipPids
      · rw [if_pos asked] at answered
        cases logicalAddress with
        | none =>
          cases answered
          exact .inl ⟨nofun, rfl⟩
        | some address =>
          cases locked with
          | false =>
            cases answered
            exact .inl ⟨nofun, rfl⟩
          | true =>
            cases answered
            exact .inr ⟨queriedPid, asked, address, rfl, rfl, rfl⟩
      · rw [if_neg asked] at answered
        cases answered
        exact .inl ⟨nofun, rfl⟩

/-! ## The supported parameters -/

end ObdToDoipConverter
end AdaptiveAutosar.Application
