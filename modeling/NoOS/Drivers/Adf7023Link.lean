import NoOS.Drivers.Adf7023

/-!
# What arrives at the other end of the link

The two bytes of the header leave 238 bytes of the packet area to the payload. The sender looks for its end-of-frame
flag without clearing it first, so that a flag which an earlier packet has left ends the wait at once.
-/

namespace NoOS

/-- A call of `adf7023_transmit_packet` and the matching call of `adf7023_receive_packet`, which has a buffer of the
size of the payload. -/
structure Transfer where
  sender : Bool
  packet : List UInt8
  buf : List UInt8
  wait : ℕ
  packet_lt : packet.length < 256
  buf_length : buf.length = packet.length

/-- A packet of another station, and the call of `adf7023_receive_packet` for it. -/
structure Arrival where
  receiver : Bool
  ram : ℕ → UInt8
  buf : List UInt8
  buf_length : buf.length = (ram 0x10).toNat - 2

inductive LinkEvent
  | transfer (t : Transfer)
  | arrival (a : Arrival)

/-- The payload, what the receiving call has stored, and whether the transmission was over when the sending call
returned. -/
structure TransferReport where
  payload : List UInt8
  packet : List UInt8
  length : UInt8
  ended : Bool
deriving DecidableEq

/-- The size of the payload by the length that the receiving call gives. -/
def payloadSize (length : UInt8) : ℕ := length.toNat - 2

def TransferReport.Delivered (r : TransferReport) : Prop :=
  r.packet = r.payload ∧ payloadSize r.length = r.payload.length ∧ r.ended = true

instance (r : TransferReport) : Decidable r.Delivered := inferInstanceAs (Decidable (_ ∧ _ ∧ _))

structure LinkSession where
  link : Adf7023Link
  last : Option TransferReport

namespace LinkSession

def step (s : LinkSession) : LinkEvent → Except Adf7023Fault LinkSession
  | .transfer t => do
    let sent ← s.link.transmitPacket t.sender t.packet t.wait
    let (packet, length, link) ← sent.receivePacket (!t.sender) t.buf
    pure ⟨link, some ⟨t.packet, packet, length, sent.underWay.isNone⟩⟩
  | .arrival a => do
    let (packet, length, link) ← (s.link.arrive a.receiver a.ram).receivePacket a.receiver a.buf
    pure ⟨link, some ⟨(List.range a.buf.length).map fun i => a.ram (0x12 + i), packet, length, true⟩⟩

def Delivered (s : LinkSession) : Prop := ∀ r ∈ s.last, r.Delivered

instance (s : LinkSession) : Decidable s.Delivered := inferInstanceAs (Decidable (∀ r ∈ s.last, r.Delivered))

/-- The packet fits into its area, and no end-of-frame flag is pending that ends the wait for the own one. -/
def Allowed (s : LinkSession) : LinkEvent → Prop
  | .transfer t => t.packet.length ≤ 238 ∧
      ((s.link.dev t.sender).Pending BBRAM_INTERRUPT_MASK_0_INTERRUPT_TX_EOF → t.wait = 0)
  | .arrival a => 2 ≤ (a.ram 0x10).toNat ∧ (a.ram 0x10).toNat ≤ 240

instance decidableAllowed (s : LinkSession) : (e : LinkEvent) → Decidable (s.Allowed e)
  | .transfer _ => inferInstanceAs (Decidable (_ ∧ _))
  | .arrival _ => inferInstanceAs (Decidable (_ ∧ _))

end LinkSession

namespace Adf7023Dev

variable {dev : Adf7023Dev}

/-- `bs` from the address `a` on. -/
def stored (ram : ℕ → UInt8) (a : ℕ) (bs : List UInt8) (x : ℕ) : UInt8 :=
  if a ≤ x then bs.getD (x - a) (ram x) else ram x

lemma stored_cons (ram : ℕ → UInt8) (a : ℕ) (b : UInt8) (bs : List UInt8) :
    stored (Function.update ram a b) (a + 1) bs = stored ram a (b :: bs) := by
  funext x
  unfold stored
  rcases Nat.lt_trichotomy x a with hx | rfl | hx
  · rw [if_neg (by lia), if_neg (by omega), Function.update_of_ne (by omega)]
  · rw [if_neg (by omega), if_pos le_rfl, Function.update_self, Nat.sub_self, List.getD_cons_zero]
  · obtain ⟨k, rfl⟩ := Nat.exists_eq_add_of_lt hx
    rw [if_pos (by lia), if_pos (by lia), Function.update_of_ne (by lia), show a + k + 1 - (a + 1) = k by lia,
      show a + k + 1 - a = k + 1 by lia, List.getD_cons_succ]

lemma stored_of_lt (ram : ℕ → UInt8) {a x : ℕ} (bs : List UInt8) (hx : x < a) : stored ram a bs x = ram x :=
  if_neg (Nat.not_le.mpr hx)

lemma stored_add (ram : ℕ → UInt8) (a : ℕ) {bs : List UInt8} {i : ℕ} (hi : i < bs.length) :
    stored ram a bs (a + i) = bs[i] := by
  unfold stored
  rw [if_pos (Nat.le_add_right a i), Nat.add_sub_cancel_left, List.getD_eq_getElem?_getD,
    List.getElem?_eq_getElem hi, Option.getD_some]

lemma store_area {a : ℕ} (h : inPacketArea a) (b : UInt8) :
    dev.store a b = .ok { dev with ram := Function.update dev.ram a b } := by
  have hne : a ≠ MCR_REG_INTERRUPT_SOURCE_0.toNat := by
    rintro rfl
    exact absurd h (by decide)
  rw [store, if_neg hne, if_pos h]

lemma load_area {a : ℕ} (h : inPacketArea a) : dev.load a = .ok (dev.ram a) := by
  have hne : a ≠ MCR_REG_INTERRUPT_SOURCE_0.toNat := by
    rintro rfl
    exact absurd h (by decide)
  rw [load, if_neg hne, if_pos h]

lemma storeFrom_area {a : ℕ} {bs : List UInt8} (ha : 0x10 ≤ a) (hbs : a + bs.length ≤ 0x100) :
    dev.storeFrom a bs = .ok { dev with ram := stored dev.ram a bs } := by
  induction bs generalizing dev a with
  | nil =>
    have hsame : stored dev.ram a [] = dev.ram := funext fun x => by simp [stored]
    rw [hsame]
    rfl
  | cons b bs ih =>
    rw [List.length_cons] at hbs
    rw [storeFrom, store_area ⟨ha, by lia⟩]
    change storeFrom _ (a + 1) bs = _
    rw [ih (by omega) (by lia), stored_cons]

lemma storeFrom_beyond {a : ℕ} {bs : List UInt8} (ha : 0x10 ≤ a) (ha' : a ≤ 0x100) (hbs : 0x100 < a + bs.length) :
    dev.storeFrom a bs = .error .ramAddress := by
  induction bs generalizing dev a with
  | nil =>
    rw [List.length_nil] at hbs
    omega
  | cons b bs ih =>
    rw [List.length_cons] at hbs
    by_cases hend : a = 0x100
    · subst hend
      rfl
    · rw [storeFrom, store_area ⟨ha, by lia⟩]
      exact ih (by lia) (by lia) (by lia)

lemma loadFrom_area {a n : ℕ} {data : List UInt8} (ha : 0x10 ≤ a) (hn : a + n ≤ 0x100) (hdata : data.length = n) :
    dev.loadFrom a n data = .ok ((List.range n).map fun i => dev.ram (a + i)) := by
  induction n generalizing a data with
  | zero =>
    rw [List.length_eq_zero_iff.mp hdata]
    rfl
  | succ n ih =>
    obtain _ | ⟨d, data⟩ := data
    · simp at hdata
    · rw [List.length_cons, Nat.add_right_cancel_iff] at hdata
      rw [loadFrom, load_area ⟨ha, by lia⟩]
      change (dev.loadFrom (a + 1) n data).bind _ = _
      rw [ih (by omega) (by lia) hdata, List.range_succ_eq_map, List.map_cons, List.map_map]
      change Except.ok _ = Except.ok _
      congr 3
      funext i
      rw [Function.comp_apply, Nat.succ_eq_add_one, Nat.add_assoc, Nat.add_comm 1]

/-- The packet area ends before the loop does, if the buffer of the caller does not end before. -/
lemma loadFrom_beyond {a n : ℕ} {data : List UInt8} (ha : 0x10 ≤ a) (ha' : a ≤ 0x100) (hn : 0x100 < a + n) :
    ∃ f, dev.loadFrom a n data = .error f := by
  induction n generalizing a data with
  | zero => lia
  | succ n ih =>
    by_cases hend : a = 0x100
    · subst hend
      exact ⟨.ramAddress, rfl⟩
    · rw [loadFrom, load_area ⟨ha, by lia⟩]
      cases data with
      | nil => exact ⟨.packetIndex, rfl⟩
      | cons d data =>
        obtain ⟨f, hf⟩ := @ih (a + 1) data (by lia) (by lia) (by lia)
        refine ⟨f, ?_⟩
        change (dev.loadFrom (a + 1) n data).bind _ = _
        rw [hf]
        rfl

lemma setRam_header (bs : List UInt8) : dev.setRam 0x10 bs = dev.storeFrom 0x10 bs := by
  rw [setRam, show memAddress (memCommand SPI_MEM_WR 0x10) ((0x10 : UInt32) &&& 0xFF).toUInt8 = 0x10 by decide]

lemma setRam_payload (bs : List UInt8) : dev.setRam 0x12 bs = dev.storeFrom 0x12 bs := by
  rw [setRam, show memAddress (memCommand SPI_MEM_WR 0x12) ((0x12 : UInt32) &&& 0xFF).toUInt8 = 0x12 by decide]

lemma getRam_payload (length : UInt32) (data : List UInt8) :
    dev.getRam 0x12 length data = dev.loadFrom 0x12 length.toNat data := by
  rw [getRam, show memAddress (memCommand SPI_MEM_RD 0x12) ((0x12 : UInt32) &&& 0xFF).toUInt8 = 0x12 by decide]

lemma getRam_length : dev.getRam 0x10 1 [0] = .ok [dev.ram 0x10] := by
  rw [getRam, show memAddress (memCommand SPI_MEM_RD 0x10) ((0x10 : UInt32) &&& 0xFF).toUInt8 = 0x10 by decide]
  exact loadFrom_area le_rfl (by decide) rfl

lemma getRam_interrupt : dev.getRam MCR_REG_INTERRUPT_SOURCE_0 1 [0] = .ok [dev.interruptSource0] := by
  rw [getRam, show memAddress (memCommand SPI_MEM_RD MCR_REG_INTERRUPT_SOURCE_0)
    (MCR_REG_INTERRUPT_SOURCE_0 &&& 0xFF).toUInt8 = MCR_REG_INTERRUPT_SOURCE_0.toNat by decide]
  rw [UInt32.toNat_one, loadFrom, load, if_pos rfl]
  rfl

lemma setRam_interrupt (b : UInt8) : dev.setRam MCR_REG_INTERRUPT_SOURCE_0 [b] =
    .ok { dev with interruptSource0 := dev.interruptSource0 &&& ~~~b } := by
  rw [setRam, show memAddress (memCommand SPI_MEM_WR MCR_REG_INTERRUPT_SOURCE_0)
    (MCR_REG_INTERRUPT_SOURCE_0 &&& 0xFF).toUInt8 = MCR_REG_INTERRUPT_SOURCE_0.toNat by decide]
  rw [storeFrom, store, if_pos rfl]
  rfl

lemma raise_and (flag flag' : UInt8) :
    (dev.raise flag).interruptSource0 &&& flag' = (dev.interruptSource0 &&& flag') ||| (flag &&& flag') := by
  apply UInt8.toBitVec_inj.mp
  ext i
  simp [raise, Bool.and_or_distrib_right]

lemma pending_raise_self {flag : UInt8} (h : flag ≠ 0) : (dev.raise flag).Pending flag := by
  intro hzero
  rw [raise_and, UInt8.and_self, UInt8.or_eq_zero_iff] at hzero
  exact h hzero.2

lemma pending_raise_of_ne {flag flag' : UInt8} (h : flag &&& flag' = 0) :
    (dev.raise flag).Pending flag' ↔ dev.Pending flag' := by
  rw [Pending, raise_and, h, UInt8.or_zero, Pending]

end Adf7023Dev

namespace Adf7023Link

open Adf7023Dev

variable {l : Adf7023Link} {side sender : Bool} {dev : Adf7023Dev} {flag : UInt8} {n : ℕ}

@[simp] lemma setDev_self : (l.setDev side dev).dev side = dev := Function.update_self ..

@[simp] lemma setDev_other : (l.setDev side dev).dev (!side) = l.dev (!side) := Function.update_of_ne (by simp) ..

lemma awaitFlag_succ (fuel : ℕ) (l : Adf7023Link) : awaitFlag side flag (fuel + 1) l =
    if (l.elapse.dev side).Pending flag then .ok ((l.elapse.dev side).interruptSource0, l.elapse)
    else awaitFlag side flag fuel l.elapse := by
  rw [awaitFlag, getRam_interrupt]
  rfl

lemma awaitFlag_pending (hidle : l.underWay = none) (hflag : (l.dev side).Pending flag) :
    awaitFlag side flag l.passes l = .ok ((l.dev side).interruptSource0, l) := by
  have helapse : l.elapse = l := by rw [elapse, hidle]
  have hpasses : l.passes = 1 := by rw [passes, hidle, Option.elim_none]
  rw [hpasses, awaitFlag_succ, helapse, if_pos hflag]

/-- A flag that is not pending is there when the transmission is over. -/
lemma awaitFlag_complete (hway : l.underWay = some (sender, n)) (hflag : (l.dev side).Pending flag → n = 0)
    (hset : ((l.complete sender).dev side).Pending flag) :
    awaitFlag side flag l.passes l = .ok (((l.complete sender).dev side).interruptSource0, l.complete sender) := by
  have hpasses : l.passes = n + 1 := by rw [passes, hway, Option.elim_some]
  rw [hpasses]
  induction n generalizing l with
  | zero =>
    have helapse : l.elapse = l.complete sender := by rw [elapse, hway]
    rw [awaitFlag_succ, helapse, if_pos hset]
  | succ n ih =>
    have helapse : l.elapse = { l with underWay := some (sender, n) } := by rw [elapse, hway]
    have hclear : ¬(l.dev side).Pending flag := fun h => absurd (hflag h) (Nat.succ_ne_zero n)
    rw [awaitFlag_succ, helapse, if_neg hclear]
    exact ih rfl (fun h => absurd h hclear) hset rfl

lemma awaitFlag_early (hway : l.underWay = some (sender, n + 1)) (hflag : (l.dev side).Pending flag) :
    awaitFlag side flag l.passes l =
      .ok ((l.dev side).interruptSource0, { l with underWay := some (sender, n) }) := by
  have hpasses : l.passes = n + 2 := by rw [passes, hway, Option.elim_some]
  have helapse : l.elapse = { l with underWay := some (sender, n) } := by rw [elapse, hway]
  rw [hpasses, awaitFlag_succ, helapse, if_pos hflag]

/-- The sender with its packet, at the start of the transmission. -/
def started (l : Adf7023Link) (side : Bool) (packet : List UInt8) (wait : ℕ) : Adf7023Link :=
  { l.setDev side { l.dev side with
      fwState := FW_STATE_PHY_TX
      ram := stored (stored (l.dev side).ram 0x10 [2 + UInt8.ofNat packet.length, (l.dev side).addressMatchOffset])
        0x12 packet } with
    underWay := some (side, wait) }

lemma transmitPacket_started {packet : List UInt8} (hlen : packet.length ≤ 238) (wait : ℕ) :
    l.transmitPacket side packet wait =
      (awaitFlag side BBRAM_INTERRUPT_MASK_0_INTERRUPT_TX_EOF (l.started side packet wait).passes
        (l.started side packet wait)).map Prod.snd := by
  rw [transmitPacket, setRam_header, storeFrom_area le_rfl (by simp)]
  dsimp only [bind, Except.bind]
  rw [setRam_payload, storeFrom_area (by decide) (by omega)]
  dsimp only
  change (awaitFlag side BBRAM_INTERRUPT_MASK_0_INTERRUPT_TX_EOF (l.started side packet wait).passes
    (l.started side packet wait)).bind (fun r => .ok r.2) = _
  cases awaitFlag side BBRAM_INTERRUPT_MASK_0_INTERRUPT_TX_EOF (l.started side packet wait).passes
    (l.started side packet wait) <;> rfl

lemma transmitPacket_long {packet : List UInt8} (hlen : 238 < packet.length) (wait : ℕ) :
    l.transmitPacket side packet wait = .error .ramAddress := by
  rw [transmitPacket, setRam_header, storeFrom_area le_rfl (by simp)]
  dsimp only [bind, Except.bind]
  rw [setRam_payload, storeFrom_beyond (by decide) (by decide) (by omega)]

/-- A chip whose packet has been taken. -/
def taken (dev : Adf7023Dev) : Adf7023Dev := { dev with fwState := FW_STATE_PHY_RX, interruptSource0 := 0 }

lemma receivePacket_arrived {packet : List UInt8} (hidle : l.underWay = none)
    (hflag : (l.dev side).Pending BBRAM_INTERRUPT_MASK_0_INTERRUPT_CRC_CORRECT) :
    l.receivePacket side packet =
      ((taken (l.dev side)).loadFrom 0x12 (((l.dev side).ram 0x10).toUInt32 - 2).toNat packet).map fun data =>
        (data, (l.dev side).ram 0x10, l.setDev side (taken (l.dev side))) := by
  let dev := ((l.dev side).setFwState FW_STATE_PHY_ON).setFwState FW_STATE_PHY_RX
  have hready : (l.setDev side dev).dev side = dev := setDev_self
  have hpending : ((l.setDev side dev).dev side).Pending BBRAM_INTERRUPT_MASK_0_INTERRUPT_CRC_CORRECT := by
    rw [hready]
    exact hflag
  have hawait := awaitFlag_pending (l := l.setDev side dev) hidle hpending
  have htwice : (l.setDev side dev).setDev side (taken (l.dev side)) = l.setDev side (taken (l.dev side)) := by
    simp [setDev]
  rw [receivePacket, hawait, hready]
  dsimp only [bind, Except.bind]
  rw [hready, setRam_interrupt]
  dsimp only
  rw [getRam_length]
  dsimp only
  rw [getRam_payload, UInt8.and_not_self, ← htwice]
  change ((taken (l.dev side)).loadFrom 0x12 (((l.dev side).ram 0x10).toUInt32 - 2).toNat packet).bind _ = _
  cases (taken (l.dev side)).loadFrom 0x12 (((l.dev side).ram 0x10).toUInt32 - 2).toNat packet <;> rfl

lemma receivePacket_fits {packet : List UInt8} (hidle : l.underWay = none)
    (hflag : (l.dev side).Pending BBRAM_INTERRUPT_MASK_0_INTERRUPT_CRC_CORRECT)
    (hlow : 2 ≤ ((l.dev side).ram 0x10).toNat) (hhigh : ((l.dev side).ram 0x10).toNat ≤ 240)
    (hpacket : packet.length = ((l.dev side).ram 0x10).toNat - 2) :
    l.receivePacket side packet =
      .ok ((List.range packet.length).map fun i => (l.dev side).ram (0x12 + i), (l.dev side).ram 0x10,
        l.setDev side (taken (l.dev side))) := by
  have hcount : (((l.dev side).ram 0x10).toUInt32 - 2).toNat = packet.length := by
    have hlt := ((l.dev side).ram 0x10).toNat_lt
    rw [hpacket, UInt32.toNat_sub, UInt8.toNat_toUInt32]
    change (2 ^ 32 - 2 + _) % 2 ^ 32 = _
    lia
  rw [receivePacket_arrived hidle hflag, hcount, loadFrom_area (by decide) (by lia) rfl]
  rfl

/-- A length byte below two wraps, one above 240 leads out of the packet area. -/
lemma receivePacket_unfit {packet : List UInt8} (hidle : l.underWay = none)
    (hflag : (l.dev side).Pending BBRAM_INTERRUPT_MASK_0_INTERRUPT_CRC_CORRECT)
    (hlen : ¬(2 ≤ ((l.dev side).ram 0x10).toNat ∧ ((l.dev side).ram 0x10).toNat ≤ 240)) :
    ∃ f, l.receivePacket side packet = .error f := by
  have hcount : 238 < (((l.dev side).ram 0x10).toUInt32 - 2).toNat := by
    have hlt := ((l.dev side).ram 0x10).toNat_lt
    rw [UInt32.toNat_sub, UInt8.toNat_toUInt32]
    change 238 < (2 ^ 32 - 2 + _) % 2 ^ 32
    lia
  obtain ⟨f, hf⟩ := @loadFrom_beyond (taken (l.dev side)) 0x12 _ packet (by decide) (by decide)
    (show 0x100 < 0x12 + (((l.dev side).ram 0x10).toUInt32 - 2).toNat by omega)
  exact ⟨f, by rw [receivePacket_arrived hidle hflag, hf]; rfl⟩

@[simp] lemma complete_sender : (l.complete side).dev side =
    (l.dev side).raise BBRAM_INTERRUPT_MASK_0_INTERRUPT_TX_EOF := by
  simp [complete, arrive, setDev]

@[simp] lemma complete_receiver : (l.complete side).dev (!side) =
    { l.dev (!side) with ram := (l.dev side).ram }.raise BBRAM_INTERRUPT_MASK_0_INTERRUPT_CRC_CORRECT := by
  simp [complete, arrive, setDev]

/-- Nothing is under way, and no received packet is left. -/
structure Idle (l : Adf7023Link) : Prop where
  underWay : l.underWay = none
  taken : ∀ side, ¬(l.dev side).Pending BBRAM_INTERRUPT_MASK_0_INTERRUPT_CRC_CORRECT

lemma not_pending_taken (dev : Adf7023Dev) : ¬(taken dev).Pending flag := by
  rw [Pending, taken, UInt8.zero_and]
  exact fun h => h rfl

lemma idle_taken (hway : l.underWay = none)
    (hother : ¬(l.dev (!side)).Pending BBRAM_INTERRUPT_MASK_0_INTERRUPT_CRC_CORRECT) :
    (l.setDev side (taken (l.dev side))).Idle where
  underWay := hway
  taken x := by
    by_cases hx : x = side
    · subst hx
      rw [setDev_self]
      exact not_pending_taken _
    · obtain rfl := Bool.eq_not.mpr hx
      rw [setDev_other]
      exact hother

variable {packet : List UInt8} {wait : ℕ}

lemma started_dev : (l.started side packet wait).dev side = { l.dev side with
    fwState := FW_STATE_PHY_TX
    ram := stored (stored (l.dev side).ram 0x10 [2 + UInt8.ofNat packet.length, (l.dev side).addressMatchOffset])
      0x12 packet } := setDev_self

lemma started_length (hlen : packet.length ≤ 238) :
    (((l.started side packet wait).dev side).ram 0x10).toNat = packet.length + 2 := by
  rw [started_dev]
  dsimp only
  rw [stored_of_lt _ _ (by decide)]
  change (2 + UInt8.ofNat packet.length).toNat = _
  rw [UInt8.toNat_add, UInt8.toNat_ofNat']
  change (2 + packet.length % 256) % 256 = _
  lia

lemma started_payload :
    ((List.range packet.length).map fun i => ((l.started side packet wait).dev side).ram (0x12 + i)) = packet := by
  refine List.ext_getElem (by simp) fun i hi hi' => ?_
  rw [List.getElem_map, List.getElem_range, started_dev]
  exact stored_add _ _ hi'

/-- A packet that fits is sent when the wait is for its own end-of-frame flag. -/
lemma transmitPacket_fits (hlen : packet.length ≤ 238)
    (hflag : (l.dev side).Pending BBRAM_INTERRUPT_MASK_0_INTERRUPT_TX_EOF → wait = 0) :
    l.transmitPacket side packet wait = .ok ((l.started side packet wait).complete side) := by
  rw [transmitPacket_started hlen, awaitFlag_complete (n := wait) rfl]
  · rfl
  · rw [started_dev]
    exact hflag
  · rw [complete_sender]
    exact pending_raise_self (by decide)

lemma transmitPacket_early (hlen : packet.length ≤ 238)
    (hflag : (l.dev side).Pending BBRAM_INTERRUPT_MASK_0_INTERRUPT_TX_EOF) (n : ℕ) :
    ∃ sent, l.transmitPacket side packet (n + 1) = .ok sent ∧ sent.underWay = some (side, n) := by
  refine ⟨{ l.started side packet (n + 1) with underWay := some (side, n) }, ?_, rfl⟩
  rw [transmitPacket_started hlen, awaitFlag_early (n := n) rfl]
  · rfl
  · rw [started_dev]
    exact hflag

end Adf7023Link

namespace LinkSession

open Adf7023Link

variable {s : LinkSession}

lemma step_transfer (hidle : s.link.Idle) (t : Transfer) (h : s.Allowed (.transfer t)) :
    ∃ s', s.step (.transfer t) = .ok s' ∧ s'.link.Idle ∧ s'.Delivered := by
  obtain ⟨hlen, hflag⟩ := h
  let sent := (s.link.started t.sender t.packet t.wait).complete t.sender
  have hram : (sent.dev (!t.sender)).ram = ((s.link.started t.sender t.packet t.wait).dev t.sender).ram := by
    rw [complete_receiver]
    rfl
  have hlength : ((sent.dev (!t.sender)).ram 0x10).toNat = t.packet.length + 2 := by
    rw [hram]
    exact started_length hlen
  have hpending : (sent.dev (!t.sender)).Pending BBRAM_INTERRUPT_MASK_0_INTERRUPT_CRC_CORRECT := by
    rw [complete_receiver]
    exact Adf7023Dev.pending_raise_self (by decide)
  have hbuf : t.buf.length = ((sent.dev (!t.sender)).ram 0x10).toNat - 2 := by
    rw [t.buf_length]
    lia
  have hreceived := receivePacket_fits (l := sent) rfl hpending (by lia) (by lia) hbuf
  rw [hram, t.buf_length, started_payload] at hreceived
  refine ⟨⟨sent.setDev (!t.sender) (taken (sent.dev (!t.sender))),
    some ⟨t.packet, t.packet, ((s.link.started t.sender t.packet t.wait).dev t.sender).ram 0x10, true⟩⟩, ?_, ?_, ?_⟩
  · rw [step, transmitPacket_fits hlen hflag]
    dsimp only [bind, Except.bind]
    rw [hreceived]
    rfl
  · refine idle_taken rfl ?_
    rw [Bool.not_not, complete_sender, Adf7023Dev.pending_raise_of_ne (by decide), started_dev]
    exact hidle.taken t.sender
  · intro r hr
    obtain rfl := Option.some.inj hr
    refine ⟨rfl, ?_, rfl⟩
    change UInt8.toNat _ - 2 = t.packet.length
    rw [started_length hlen]
    rfl

lemma step_transfer_refused (t : Transfer) (h : ¬s.Allowed (.transfer t)) {s' : LinkSession}
    (hs' : s.step (.transfer t) = .ok s') : ¬s'.Delivered := by
  rw [step] at hs'
  rcases Nat.lt_or_ge 238 t.packet.length with hlong | hlen
  · rw [transmitPacket_long hlong] at hs'
    exact absurd hs' nofun
  · rw [Allowed, not_and, Classical.not_imp] at h
    obtain ⟨hpending, hwait⟩ := h hlen
    obtain ⟨n, hn⟩ := Nat.exists_eq_succ_of_ne_zero hwait
    obtain ⟨sent, hsent, hway⟩ := @transmitPacket_early s.link t.sender t.packet hlen hpending n
    rw [hn, Nat.succ_eq_add_one, hsent] at hs'
    dsimp only [bind, Except.bind] at hs'
    split at hs'
    · exact absurd hs' nofun
    · obtain rfl := Except.ok.inj hs'
      intro hdelivered
      have hended := (hdelivered _ rfl).2.2
      rw [hway] at hended
      exact absurd hended nofun

lemma arrive_dev (l : Adf7023Link) (side : Bool) (ram : ℕ → UInt8) : (l.arrive side ram).dev side =
    { l.dev side with ram := ram }.raise BBRAM_INTERRUPT_MASK_0_INTERRUPT_CRC_CORRECT := setDev_self

lemma arrive_pending (l : Adf7023Link) (side : Bool) (ram : ℕ → UInt8) :
    ((l.arrive side ram).dev side).Pending BBRAM_INTERRUPT_MASK_0_INTERRUPT_CRC_CORRECT := by
  rw [arrive_dev]
  exact Adf7023Dev.pending_raise_self (by decide)

lemma step_arrival (hidle : s.link.Idle) (a : Arrival) (h : s.Allowed (.arrival a)) :
    ∃ s', s.step (.arrival a) = .ok s' ∧ s'.link.Idle ∧ s'.Delivered := by
  have hram : ((s.link.arrive a.receiver a.ram).dev a.receiver).ram = a.ram := by
    rw [arrive_dev]
    rfl
  have hreceived := @receivePacket_fits (s.link.arrive a.receiver a.ram) a.receiver a.buf hidle.underWay
    (arrive_pending _ _ _) (by rw [hram]; exact h.1) (by rw [hram]; exact h.2) (by rw [hram, a.buf_length])
  rw [hram] at hreceived
  refine ⟨_, by rw [step, hreceived]; rfl, ?_, ?_⟩
  · refine idle_taken hidle.underWay ?_
    rw [arrive, setDev_other]
    exact hidle.taken _
  · intro r hr
    obtain rfl := Option.some.inj hr
    refine ⟨rfl, ?_, rfl⟩
    change (a.ram 0x10).toNat - 2 = _
    rw [List.length_map, List.length_range, a.buf_length]

lemma step_arrival_refused (hidle : s.link.Idle) (a : Arrival) (h : ¬s.Allowed (.arrival a)) :
    ∃ f, s.step (.arrival a) = .error f := by
  have hram : ((s.link.arrive a.receiver a.ram).dev a.receiver).ram = a.ram := by
    rw [arrive_dev]
    rfl
  obtain ⟨f, hf⟩ := @receivePacket_unfit (s.link.arrive a.receiver a.ram) a.receiver a.buf hidle.underWay
    (arrive_pending _ _ _) (by rw [hram]; exact h)
  exact ⟨f, by rw [step, hf]; rfl⟩

lemma step_allowed (hidle : s.link.Idle) (e : LinkEvent) (h : s.Allowed e) :
    ∃ s', s.step e = .ok s' ∧ s'.link.Idle ∧ s'.Delivered := by
  cases e with
  | transfer t => exact step_transfer hidle t h
  | arrival a => exact step_arrival hidle a h

lemma step_refused (hidle : s.link.Idle) (e : LinkEvent) (h : ¬s.Allowed e) :
    ¬Trace.Unless (fun _ => False) Delivered (s.step e) := by
  cases e with
  | transfer t =>
    intro hdelivered
    cases hs' : s.step (.transfer t) with
    | error f => rw [hs'] at hdelivered; exact hdelivered
    | ok s' => rw [hs'] at hdelivered; exact step_transfer_refused t h hs' hdelivered
  | arrival a =>
    obtain ⟨f, hf⟩ := step_arrival_refused hidle a h
    rw [hf]
    exact not_false

end LinkSession

/-- Two chips that have neither sent nor received. -/
def newLink : Adf7023Link := ⟨fun _ => ⟨0, 0x11, fun _ => 0, 0⟩, none⟩

/-- A packet of one byte, whose transmission outlasts one read. -/
def byteTransfer (sender : Bool) (b : UInt8) : LinkEvent :=
  .transfer ⟨sender, [b], [0], 1, by simp, by simp⟩

/-- In every run of transfers in both directions and of packets from elsewhere, each call returns with the right
payload, inside of its bounds and after the right flag, if and only if every packet fits into its area and no
transfer starts with an end-of-frame flag that ends its wait. -/
theorem packets_delivered_iff (link : Adf7023Link) (hidle : link.Idle) (events : List LinkEvent) :
    Trace.Always (Trace.orFault LinkSession.step) (Trace.Unless (fun _ => False) LinkSession.Delivered)
        (.ok ⟨link, none⟩) events ↔
      Trace.Guarded (Trace.orFault LinkSession.step) (Trace.untilFault LinkSession.Allowed) (.ok ⟨link, none⟩)
        events := by
  refine Trace.always_iff_guarded
    (Q := Trace.Unless (fun _ => False) fun s : LinkSession => s.link.Idle ∧ s.Delivered) ?_ ?_ ?_ ?_
  · exact ⟨hidle, nofun⟩
  · rintro (f | s) h
    · exact h
    · exact h.2
  · rintro (f | s) e h hallowed
    · exact h
    · obtain ⟨s', hs', hkept⟩ := LinkSession.step_allowed h.1 e hallowed
      rw [Trace.orFault_ok, hs']
      exact hkept
  · rintro (f | s) e h hdelivered
    · exact absurd h not_false
    · exact Classical.not_not.mp fun hrefused => LinkSession.step_refused h.1 e hrefused hdelivered

theorem packets_delivered_both_ways :
    Trace.Always (Trace.orFault LinkSession.step) (Trace.Unless (fun _ => False) LinkSession.Delivered)
      (.ok ⟨newLink, none⟩) [byteTransfer true 7, byteTransfer false 8, byteTransfer true 9] :=
  (packets_delivered_iff newLink ⟨rfl, by decide⟩ _).mpr (by decide)

/-- The second transfer in one direction returns while its packet is still under way. -/
theorem packets_not_delivered :
    ¬Trace.Always (Trace.orFault LinkSession.step) (Trace.Unless (fun _ => False) LinkSession.Delivered)
      (.ok ⟨newLink, none⟩) [byteTransfer true 7, byteTransfer true 8] := by
  decide

end NoOS
