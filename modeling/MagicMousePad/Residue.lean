import MagicMousePad.Reception

/-!
# The residue of earlier datagrams

The receive loop of the client checks that an id has been received and then
reads the whole struct the id names, so the fields of a short datagram are made
up from what earlier datagrams left in the buffer.  That goes unnoticed only if
no residue can turn the sequence number into one that is accepted, and since the
number grows with each byte, it is enough to ask that of a residue of ones.
-/

namespace MagicMousePad

open ByteOrder

/-! ## Short datagrams -/

/-- The size of the struct an id names. -/
def structSize (id : UInt32) : Option ℕ :=
  if id = mmpMsgidDiscover then some sizeofMmpMsgId
  else if id = mmpMsgidAnnounce then some MmpMsgAnnounce.size
  else if id = mmpMsgidConnect then some sizeofMmpMsgId
  else if id = mmpMsgidMouseMove then some MmpMsgMouseMove.size
  else if id = mmpMsgidMouseButton then some MmpMsgMouseButton.size
  else none

/-- The datagram lacks an id, or is shorter than the struct its id names. -/
def Datagram.Short (data : Datagram) : Prop :=
  data.bytes.length < sizeofMmpMsgId ∨
    ∃ size, structSize (ntohl (load32 (Memory.overwrite (fun _ => 0) data.bytes) 0)) = some size ∧
      data.bytes.length < size

/-- A client receives a datagram over what is left in its buffer. -/
def MmpClient.receive (client : MmpClient) (buffer : Memory) (data : Datagram) (screen : Screen) :
    Receiver × Reaction :=
  Receiver.step ⟨client, buffer, false⟩ (.received data screen)

/-- The residue in the buffer has no influence, and a short datagram causes no
callback and leaves sequence number and start offset alone. -/
def ResidueFree (client : MmpClient) (data : Datagram) (screen : Screen) : Prop :=
  (∀ buffer buffer',
      (client.receive buffer data screen).2 = (client.receive buffer' data screen).2 ∧
      (client.receive buffer data screen).1.client =
        (client.receive buffer' data screen).1.client ∧
      (client.receive buffer data screen).1.left =
        (client.receive buffer' data screen).1.left) ∧
    (data.Short → ∀ buffer, (client.receive buffer data screen).2.call = none ∧
      (client.receive buffer data screen).1.client.sequenceNumber = client.sequenceNumber ∧
      (client.receive buffer data screen).1.client.offset = client.offset ∧
      (client.receive buffer data screen).1.client.updateOffset = client.updateOffset)

/-- A buffer with all bits set. -/
def ones : Memory := fun _ => 0xFF

/-! ## One datagram -/

section Receive

variable {client : MmpClient} {data : Datagram} {screen : Screen} {buffer : Memory}

theorem MmpClient.receive_of_not_running (stopped : client.running = false) :
    client.receive buffer data screen = (⟨client, buffer, true⟩, {}) := by
  simp [MmpClient.receive, Receiver.step, stopped]

theorem MmpClient.receive_of_short (running : client.running = true)
    (short : data.bytes.length < sizeofMmpMsgId) :
    client.receive buffer data screen = (⟨client, buffer.overwrite data.bytes, false⟩, {}) := by
  simp [MmpClient.receive, Receiver.step, running, short]

theorem MmpClient.receive_of_none (running : client.running = true)
    (other : mouseMsgOf (buffer.overwrite data.bytes) = none) :
    client.receive buffer data screen = (⟨client, buffer.overwrite data.bytes, false⟩, {}) := by
  simp [MmpClient.receive, Receiver.step, running, other]

theorem MmpClient.receive_of_some (running : client.running = true)
    (long : sizeofMmpMsgId ≤ data.bytes.length) {msg : MouseMsg}
    (mouse : mouseMsgOf (buffer.overwrite data.bytes) = some msg) :
    client.receive buffer data screen =
      (⟨(client.handle screen msg).1, buffer.overwrite data.bytes, false⟩,
        (client.handle screen msg).2) := by
  simp [MmpClient.receive, Receiver.step, running, not_lt.mpr long, mouse]

/-- Whether there is a mouse message, and of which size, depends on the id
alone; its number is the second field. -/
theorem mouseMsgOf_residue (long : sizeofMmpMsgId ≤ data.bytes.length) (buffer' : Memory)
    {msg : MouseMsg} (mouse : mouseMsgOf (buffer.overwrite data.bytes) = some msg) :
    ∃ msg', mouseMsgOf (buffer'.overwrite data.bytes) = some msg' ∧ msg'.size = msg.size ∧
      msg'.number = ntohl (load32 (buffer'.overwrite data.bytes) 4) := by
  have sameId : load32 (buffer.overwrite data.bytes) 0 = load32 (buffer'.overwrite data.bytes) 0 :=
    load32_overwrite_frame buffer buffer' long
  rw [mouseMsgOf_eq_some_iff, sameId] at mouse
  rcases mouse with ⟨button, rfl⟩ | ⟨move, rfl⟩
  · exact ⟨_, mouseMsgOf_eq_some_iff.mpr (Or.inl ⟨button, rfl⟩), rfl, rfl⟩
  · exact ⟨_, mouseMsgOf_eq_some_iff.mpr (Or.inr ⟨move, rfl⟩), rfl, rfl⟩

theorem structSize_of_mouseMsgOf (long : sizeofMmpMsgId ≤ data.bytes.length) {msg : MouseMsg}
    (mouse : mouseMsgOf (buffer.overwrite data.bytes) = some msg) :
    structSize (ntohl (load32 (Memory.overwrite (fun _ => 0) data.bytes) 0)) = some msg.size := by
  have sameId : load32 (buffer.overwrite data.bytes) 0 =
      load32 (Memory.overwrite (fun _ => 0) data.bytes) 0 :=
    load32_overwrite_frame buffer _ long
  rw [mouseMsgOf_eq_some_iff, sameId] at mouse
  rcases mouse with ⟨button, rfl⟩ | ⟨move, rfl⟩
  · rw [button]
    rfl
  · rw [move]
    rfl

/-- A datagram ignored over every residue. -/
theorem ResidueFree.of_ignored (ignored : ∀ buffer, client.receive buffer data screen =
    (⟨client, buffer.overwrite data.bytes, false⟩, {})) : ResidueFree client data screen := by
  unfold ResidueFree
  simp only [ignored]
  simp

/-- A message received in full is handled alike over every residue. -/
theorem ResidueFree.of_covered (running : client.running = true) {msg : MouseMsg}
    (mouse : mouseMsgOf (buffer.overwrite data.bytes) = some msg)
    (covered : msg.size ≤ data.bytes.length) : ResidueFree client data screen := by
  have long : sizeofMmpMsgId ≤ data.bytes.length := msg.four_le_size.trans covered
  obtain ⟨whole, carried, size, -⟩ := mouseMsgOf_residue long (fun _ => 0) mouse
  have same : ∀ buffer : Memory, mouseMsgOf (buffer.overwrite data.bytes) = some whole :=
    MouseDatagram.mouseMsgOf_overwrite ⟨data, whole, carried, size.trans_le covered⟩
  have handled : ∀ buffer, client.receive buffer data screen =
      (⟨(client.handle screen whole).1, buffer.overwrite data.bytes, false⟩,
        (client.handle screen whole).2) :=
    fun buffer => MmpClient.receive_of_some running long (same buffer)
  refine ⟨fun buffer buffer' => ?_, ?_⟩
  · rw [handled, handled]
    exact ⟨rfl, rfl, rfl⟩
  · intro short
    rcases short with noId | ⟨size', named, lacking⟩
    · exact absurd long (not_le.mpr noId)
    · rw [structSize_of_mouseMsgOf long mouse] at named
      cases named
      exact absurd covered (not_le.mpr lacking)

/-- A short message whose number cannot be accepted is ignored over every
residue. -/
theorem ResidueFree.of_old (running : client.running = true)
    (long : sizeofMmpMsgId ≤ data.bytes.length) {msg : MouseMsg}
    (mouse : mouseMsgOf (ones.overwrite data.bytes) = some msg)
    (old : msg.number ≤ client.sequenceNumber) : ResidueFree client data screen := by
  refine .of_ignored fun buffer => ?_
  obtain ⟨made, carried, -, number⟩ := mouseMsgOf_residue long buffer mouse
  obtain ⟨top, carriedOnes, -, numberOnes⟩ := mouseMsgOf_residue long ones mouse
  rw [mouse] at carriedOnes
  cases carriedOnes
  have below : made.number ≤ msg.number := by
    rw [number, numberOnes]
    refine ntohl_load32_mono (Memory.overwrite_mono (fun i => ?_) data.bytes) 4
    exact Nat.le_of_lt_succ (buffer i).toNat_lt
  have rejected : ¬ client.sequenceNumber < made.number :=
    UInt32.not_lt.mpr (UInt32.le_trans below old)
  rw [MmpClient.receive_of_some running long carried]
  rcases client.handle_cases screen made with ⟨-, same⟩ | ⟨newer, -, -⟩ | ⟨newer, -, -⟩
  · rw [same]
  · exact absurd newer rejected
  · exact absurd newer rejected

/-- A short message that is accepted over some residue changes the stored
number. -/
theorem not_residueFree_of_accepted (running : client.running = true)
    (long : sizeofMmpMsgId ≤ data.bytes.length) {msg : MouseMsg}
    (mouse : mouseMsgOf (buffer.overwrite data.bytes) = some msg)
    (lacking : data.bytes.length < msg.size) (newer : client.sequenceNumber < msg.number) :
    ¬ ResidueFree client data screen := by
  intro free
  rcases free with ⟨-, silent⟩
  have short : data.Short := Or.inr ⟨msg.size, structSize_of_mouseMsgOf long mouse, lacking⟩
  have stored := (silent short buffer).2.1
  have number := (client.accepted_step ⟨msg, screen⟩).2
  rw [if_pos newer] at number
  rw [MmpClient.receive_of_some running long mouse] at stored
  have same : msg.number = client.sequenceNumber := number.symm.trans stored
  rw [same] at newer
  exact UInt32.lt_irrefl _ newer

end Receive

/-- The residue has no influence exactly when the thread is about to leave its
loop, or there is no mouse message, or it is there in full, or its number is not
above the stored one even with all the missing bits set. -/
theorem residueFree_iff (client : MmpClient) (data : Datagram) (screen : Screen) :
    ResidueFree client data screen ↔
      client.running = false ∨ data.bytes.length < sizeofMmpMsgId ∨
        ∀ msg, mouseMsgOf (ones.overwrite data.bytes) = some msg →
          msg.size ≤ data.bytes.length ∨ msg.number ≤ client.sequenceNumber := by
  cases running : client.running with
  | false =>
      refine iff_of_true ?_ (Or.inl rfl)
      unfold ResidueFree
      simp only [MmpClient.receive_of_not_running running]
      simp
  | true =>
      rcases Nat.lt_or_ge data.bytes.length sizeofMmpMsgId with short | long
      · exact iff_of_true (.of_ignored fun _ => MmpClient.receive_of_short running short)
          (Or.inr (Or.inl short))
      · constructor
        · intro free
          refine Or.inr (Or.inr fun msg mouse => ?_)
          rcases Nat.lt_or_ge data.bytes.length msg.size with lacking | covered
          · refine Or.inr (UInt32.not_lt.mp fun newer => ?_)
            exact not_residueFree_of_accepted running long mouse lacking newer free
          · exact Or.inl covered
        · intro holds
          rcases holds with stopped | short | harmless
          · cases stopped
          · exact absurd long (not_le.mpr short)
          · cases mouse : mouseMsgOf (ones.overwrite data.bytes) with
            | none =>
                refine .of_ignored fun buffer => MmpClient.receive_of_none running ?_
                cases other : mouseMsgOf (buffer.overwrite data.bytes) with
                | none => rfl
                | some msg =>
                    obtain ⟨_, present, -⟩ := mouseMsgOf_residue long ones other
                    rw [mouse] at present
                    cases present
            | some msg =>
                rcases harmless msg mouse with covered | old
                · exact .of_covered running mouse covered
                · exact .of_old running long mouse old

/-- Four bytes with the id of a move, received by a client that has not accepted
anything yet. -/
theorem not_residueFree_of_bare_id :
    ¬ ResidueFree ((MmpClient.new { onMouseMove := 1 }).start none).1
      ⟨fieldImage (htonl mmpMsgidMouseMove), by decide⟩ ⟨800, 600⟩ := by
  intro free
  have same := (free.1 (fun _ => 0) ones).1
  revert same
  decide

end MagicMousePad
