import HouseGate.RelaySignedEffects

namespace HouseGate.Relay

open EffectProgram ClientLocals

/-!
# What the client pump does with a packet

The packets of a query that was forwarded, and the packets outside any query,
stay within the bound of the ordinary lane.  A Query packet is handed to the
lane that its plans name.
-/

/-- The number of the query whose input the pump expects, if there is one. -/
def ClientLocals.Holds (locals : ClientLocals) (number : Nat) : Prop :=
  ∀ current, locals.current = some current → current.context.number = number

/-- The pump goes on with the same queries in its hands, or with fewer. -/
def Keeps (locals : ClientLocals) (number : Nat) (next : Option Point) : Prop :=
  match next with
  | none => True
  | some (.client later) =>
    later.Holds number ∧
      ∀ rejected, later.rejected = some rejected → locals.rejected = some rejected
  | some _ => False

variable {locals : ClientLocals} {number : Nat}

theorem keeps_nextPacket : Keeps locals number nextPacket := by
  refine ⟨?_, ?_⟩
  · intro current held
    cases held
  · intro rejected held
    cases held

theorem keeps_same (holds : locals.Holds number) : Keeps locals number (some (.client locals)) :=
  ⟨holds, fun _ same => same⟩

theorem keeps_current (current : CurrentQuery) : Keeps locals current.context.number (some (.client
    { fresh with current := some current })) := by
  refine ⟨?_, ?_⟩
  · intro other same
    cases same
    rfl
  · intro rejected same
    cases same

variable {lane : Lane}

theorem packet_leaveClient :
    Bounded (LaneEffect lane number) (Keeps locals number) leaveClient := by
  apply bounded_then (bounded_modify fun _ => .silent fun _ => ⟨rfl, rfl⟩)
  exact bounded_pure trivial

variable (config : Config) (codec : Nat) (context : QueryContext)

theorem packet_refuseAndLeave (error : HookError) :
    Bounded (LaneEffect lane context.number) (Keeps locals context.number)
      (refuseAndLeave context error) :=
  bounded_seq (lane_refuse context error) fun _ => packet_leaveClient

theorem packet_splice
    {locals later : ClientLocals}
    (packet : ClientPacket)
    (holds : later.Holds number)
    (keeps : Keeps locals number (some (.client later))) :
    Bounded (LaneEffect .ordinary number) (Keeps locals number)
      (splice config codec later packet) := by
  have about : later.current.map (·.context.number) = some number ∨
      later.current.map (·.context.number) = none := by
    cases held : later.current with
    | none => exact .inr rfl
    | some current => exact .inl (congrArg some (holds current held))
  apply bounded_choose (lane_spliceClientPacket config codec packet false about)
  · exact bounded_pure keeps
  · exact packet_leaveClient

theorem packet_spliceTerminator (rejected : Bool) (data : DataPacket) :
    Bounded (LaneEffect .ordinary context.number) (Keeps locals context.number)
      (spliceTerminator config codec context rejected data) := by
  apply bounded_choose (lane_spliceClientPacket config codec (.data data) true (.inl rfl))
  · split
    · exact bounded_pure keeps_nextPacket
    · apply bounded_then (bounded_tell fun _ => .record ⟨rfl, .inr rfl⟩)
      exact bounded_pure keeps_nextPacket
  · exact packet_leaveClient

theorem lane_armRejection (error : HookError) :
    Within (LaneEffect .ordinary number) (armRejection context error) := by
  unfold armRejection
  split
  · apply bounded_atomically
    intro state
    split
    · exact .refl
    rename_i active held
    split
    · exact .event ⟨rfl, active, held, rfl⟩ .stay
        (fun other => (other rfl).elim) fun _ => ⟨rfl, rfl⟩
    · exact .refl
  · exact bounded_pure trivial

theorem packet_inputComplete (data : DataPacket) : Bounded (LaneEffect .ordinary context.number)
    (Keeps locals context.number)
    (inputComplete config codec context data) := by
  apply bounded_seq (lane_strict context [] (.inr rfl))
  intro refused
  cases refused with
  | none => exact packet_spliceTerminator config codec context false data
  | some error =>
    apply bounded_choose (lane_armRejection context error)
    · apply bounded_then (lane_onQueryAbort context)
      exact packet_spliceTerminator config codec context true data
    · exact packet_refuseAndLeave context error

theorem packet_inputPayload (current : CurrentQuery) (data : DataPacket) :
    Bounded (LaneEffect .ordinary current.context.number) (Keeps locals current.context.number)
      (inputPayload config codec current data) := by
  have keeps : Keeps locals current.context.number (some (.client { fresh with
      current := some { current with sawPayload := true } })) :=
    keeps_current { current with sawPayload := true }
  apply bounded_seq (lane_onClientDataStrict current.context data.raw (.inr rfl))
  intro refused
  cases refused with
  | some error => exact packet_refuseAndLeave current.context _
  | none =>
    dsimp only
    split
    · exact bounded_pure keeps
    · exact packet_splice config codec _ keeps.1 keeps

theorem packet_clientData (data : DataPacket) (holds : locals.Holds number) :
    Bounded (LaneEffect .ordinary number) (Keeps locals number)
      (clientData config codec locals data) := by
  unfold clientData
  split
  · rename_i current _ held
    rw [← holds current held]
    apply bounded_then (lane_abortAndComplete current.context)
    exact packet_leaveClient
  · exact packet_leaveClient
  · rename_i info rejected _ held
    split
    · exact bounded_pure ⟨holds, nofun⟩
    apply bounded_pure
    refine ⟨holds, ?_⟩
    intro other same
    cases same
    exact held
  · exact packet_leaveClient
  · rename_i info current _ _ held
    rw [← holds current held]
    split
    · split
      · have keeps : Keeps locals current.context.number (some (.client { fresh with
            current := some { current with sawInitialEmpty := true } })) :=
          keeps_current { current with sawInitialEmpty := true }
        exact packet_splice config codec _ keeps.1 keeps
      · exact packet_inputComplete config codec current.context data
    · exact packet_inputPayload config codec current data

/-- A packet that is no Query. -/
theorem packet_dispatch
    (packet : ClientPacket)
    (holds : locals.Holds number)
    (other : ∀ query, packet ≠ .query query) :
    Bounded (LaneEffect .ordinary number) (Keeps locals number)
      (dispatchPacket config codec locals packet) := by
  cases packet with
  | query query => exact absurd rfl (other query)
  | data data => exact packet_clientData config codec data holds
  | cancel raw =>
    apply bounded_then lane_cancelActiveQuery
    exact packet_splice config codec _ holds (keeps_same holds)
  | undecodedQuery raw | other code raw =>
    exact packet_splice config codec _ holds (keeps_same holds)

end HouseGate.Relay
