import Mathlib.Data.UInt
import NoOS.Errno

/-!
# The reads of the MQTT client

`mqtt_noos_read` polls `socket_recv` until it has all the bytes that it was asked for, an error comes or the time
is over. The time is counted down from an `int` that need not be positive.
-/

namespace NoOS

/-- What a socket answers to a call for some bytes. It may have more of them than are wanted. -/
inductive RecvAnswer
  | error (ret : ℤ) (h : ret < 0)
  | data (bytes : List UInt8)
deriving DecidableEq

def MBEDTLS_ERR_SSL_WANT_READ : ℤ := -0x6900

/-- `socket_recv` of a descriptor, which is NULL, or has a secure part or none. The network, or `mbedtls_ssl_read`
if there is a secure part, answers `raw`. -/
def socketRecv (secure : Option Bool) (raw : RecvAnswer) : RecvAnswer :=
  match secure, raw with
  | none, _ => .error FAILURE (by decide)
  | some true, .error ret h => if ret = MBEDTLS_ERR_SSL_WANT_READ then .error (-EAGAIN) (by decide) else .error ret h
  | some true, .data bytes => .data bytes
  | some false, raw => raw

structure MqttRead where
  buff : ℕ → UInt8
  sent : ℕ
  /-- The bytes that the calls have taken from the socket -/
  consumed : List UInt8
  polls : ℕ

namespace MqttRead

/-- Bytes are stored behind those before. -/
def store (s : MqttRead) (bytes : List UInt8) : MqttRead :=
  { s with
    buff := fun i => if i < s.sent then s.buff i else bytes[i - s.sent]?.getD (s.buff i)
    sent := s.sent + bytes.length
    consumed := s.consumed ++ bytes }

/-- A pass up to the delay, with the code if it returns. -/
def poll (len : ℕ) (recv : ℕ → RecvAnswer) (s : MqttRead) : Option ℤ × MqttRead :=
  let t := { s with polls := s.polls + 1 }
  match recv s.polls with
  | .error ret _ => if ret ≠ -EAGAIN then (some ret, t) else (none, t)
  | .data bytes =>
    let t := t.store (bytes.take (len - s.sent))
    if t.sent ≥ len then (some t.sent, t) else (none, t)

/-- The loop with a `timeout` that is `ticks` above `INT_MIN`. There is no code if it overflows. -/
def loop (len : ℕ) (recv : ℕ → RecvAnswer) : ℕ → MqttRead → Option ℤ × MqttRead
  | ticks, s =>
    match s.poll len recv with
    | (some ret, s) => (some ret, s)
    | (none, s) =>
      match ticks with
      | 0 => (none, s)
      | ticks + 1 => if ticks = 2 ^ 31 then (some 0, s) else loop len recv ticks s

end MqttRead

/-- `len` is positive for the calls of the client. -/
def mqttNoosRead (secure : Option Bool) (raw : ℕ → RecvAnswer) (buff : ℕ → UInt8) (len : ℕ) (timeout : Int32) :
    Option ℤ × MqttRead :=
  if len = 0 then (some 0, ⟨buff, 0, [], 0⟩)
  else MqttRead.loop len (fun k => socketRecv secure (raw k)) (timeout.toInt + 2 ^ 31).toNat ⟨buff, 0, [], 0⟩

/-- The call returns in time, and reports the bytes that it has consumed. -/
structure ReadsExactly (timeout : Int32) (ret : Option ℤ) (s : MqttRead) : Prop where
  returns : ret ≠ none
  polls : (s.polls : ℤ) ≤ max timeout.toInt 1
  all : ∀ n, ret = some n → 0 < n →
    (s.consumed.length : ℤ) = n ∧ ∀ i < s.consumed.length, s.consumed[i]? = some (s.buff i)
  nothing : ∀ n, ret = some n → n ≤ 0 → s.consumed = []

/-- An error other than that there is nothing yet. -/
def RecvAnswer.Failed : RecvAnswer → Prop
  | .error ret _ => ret ≠ -EAGAIN
  | .data _ => False

def RecvAnswer.count : RecvAnswer → ℕ
  | .error _ _ => 0
  | .data bytes => bytes.length

/-- The number of bytes that the first `k` answers have. -/
def arrived (recv : ℕ → RecvAnswer) : ℕ → ℕ
  | 0 => 0
  | k + 1 => arrived recv k + (recv k).count

/-- Within the polls that there is time for, an error comes before any byte, or all bytes come before an error; or
nothing comes at all, and there is a time. -/
inductive Settled (timeout : Int32) (len : ℕ) (recv : ℕ → RecvAnswer) : Prop
  | failed (k : ℕ) (hk : (k : ℤ) < max timeout.toInt 1) (h : (recv k).Failed) (hbefore : ∀ j < k, ¬(recv j).Failed)
      (hnone : arrived recv k = 0)
  | full (k : ℕ) (hk : (k : ℤ) ≤ max timeout.toInt 1) (hbefore : ∀ j < k, ¬(recv j).Failed) (hall : len ≤ arrived recv k)
  | silent (ht : 1 ≤ timeout.toInt) (hbefore : ∀ j : ℕ, (j : ℤ) < timeout.toInt → ¬(recv j).Failed)
      (hnone : arrived recv timeout.toInt.toNat = 0)

section Passes

variable {recv : ℕ → RecvAnswer} {s t : MqttRead} {len j k n ticks : ℕ} {bytes : List UInt8} {timeout : Int32}

lemma arrived_mono (h : j ≤ k) : arrived recv j ≤ arrived recv k := by
  induction h with
  | refl => exact Nat.le_refl _
  | step _ ih => exact ih.trans (Nat.le_add_right _ _)

/-- The buffer starts with what was consumed. -/
structure MqttRead.Filled (s : MqttRead) : Prop where
  length : s.consumed.length = s.sent
  bytes : ∀ i < s.sent, s.consumed[i]? = some (s.buff i)

lemma MqttRead.Filled.store (h : s.Filled) (bytes : List UInt8) : (s.store bytes).Filled := by
  constructor
  · rw [MqttRead.store, List.length_append, h.length]
  · intro i hi
    change (s.consumed ++ bytes)[i]? = some (if i < s.sent then s.buff i else bytes[i - s.sent]?.getD (s.buff i))
    by_cases hlt : i < s.sent
    · rw [if_pos hlt, List.getElem?_append_left (h.length.symm ▸ hlt), h.bytes i hlt]
    · have hin : i - s.sent < bytes.length := by
        change i < s.sent + bytes.length at hi
        lia
      rw [if_neg hlt, List.getElem?_append_right (by rw [h.length]; omega), h.length, List.getElem?_eq_getElem hin]
      rfl

/-- The state after `k` passes that have not returned. -/
structure MqttRead.After (recv : ℕ → RecvAnswer) (k : ℕ) (s : MqttRead) : Prop where
  polls : s.polls = k
  sent : s.sent = arrived recv k
  filled : s.Filled

/-- No answer of the first `k` has made the call return. -/
structure Undecided (len : ℕ) (recv : ℕ → RecvAnswer) (k : ℕ) : Prop where
  before : ∀ j < k, ¬(recv j).Failed
  lt : arrived recv k < len

lemma Undecided.mono (h : Undecided len recv k) (hj : j ≤ k) : Undecided len recv j :=
  ⟨fun i hi => h.before i (hi.trans_le hj), (arrived_mono hj).trans_lt h.lt⟩

lemma poll_failed (h : s.After recv k) (hfail : (recv k).Failed) :
    ∃ ret < 0, s.poll len recv = (some ret, { s with polls := k + 1 }) := by
  unfold MqttRead.poll
  rw [h.polls]
  cases hrecv : recv k with
  | error ret hneg =>
    rw [hrecv] at hfail
    exact ⟨ret, hneg, if_pos hfail⟩
  | data bytes =>
    rw [hrecv] at hfail
    exact absurd hfail id

lemma poll_ok (h : s.After recv k) (hlt : arrived recv k < len) (hok : ¬(recv k).Failed) :
    ∃ t : MqttRead, t.polls = k + 1 ∧ t.Filled ∧ t.sent = min len (arrived recv (k + 1)) ∧
      s.poll len recv = (if t.sent ≥ len then some (t.sent : ℤ) else none, t) := by
  unfold MqttRead.poll arrived
  rw [h.polls]
  cases hrecv : recv k with
  | error ret hneg =>
    rw [hrecv] at hok
    have hsent : min len (arrived recv k + RecvAnswer.count (.error ret hneg)) = s.sent := by
      rw [h.sent, RecvAnswer.count]
      lia
    refine ⟨{ s with polls := k + 1 }, rfl, ⟨h.filled.length, h.filled.bytes⟩, hsent.symm, ?_⟩
    rw [if_neg (by rw [h.sent]; omega)]
    exact if_neg hok
  | data bytes =>
    have hfilled : ({ s with polls := k + 1 } : MqttRead).Filled := ⟨h.filled.length, h.filled.bytes⟩
    refine ⟨{ s with polls := k + 1 }.store (bytes.take (len - s.sent)), rfl, hfilled.store _, ?_, ?_⟩
    · change s.sent + (bytes.take (len - s.sent)).length = min len (arrived recv k + bytes.length)
      rw [List.length_take, h.sent]
      lia
    · dsimp only
      split_ifs <;> rfl

lemma loop_more (h : s.After recv k) (hund : Undecided len recv (k + 1)) : ∃ t : MqttRead, t.After recv (k + 1) ∧
    s.poll len recv = (none, t) := by
  obtain ⟨t, hpolls, hfilled, hsent, hpoll⟩ := poll_ok h (hund.mono (Nat.le_succ k)).lt (hund.before k (Nat.lt_succ_self k))
  have hlt := hund.lt
  rw [min_eq_right hlt.le] at hsent
  refine ⟨t, ⟨hpolls, hsent, hfilled⟩, ?_⟩
  rw [hpoll, if_neg (by rw [hsent]; lia)]

lemma loop_undecided (h : s.After recv k) (hund : Undecided len recv (k + n)) (hticks : ∀ i < n, ticks + i ≠ 2 ^ 31) :
    ∃ t : MqttRead, t.After recv (k + n) ∧ MqttRead.loop len recv (ticks + n) s = MqttRead.loop len recv ticks t := by
  induction n generalizing s k with
  | zero => exact ⟨s, h, rfl⟩
  | succ n ih =>
    obtain ⟨t, ht, hpoll⟩ := loop_more h (hund.mono (by lia))
    obtain ⟨u, hu, hloop⟩ := @ih t (k + 1) ht (by rwa [Nat.add_assoc, Nat.add_comm 1 n]) fun i hi => hticks i (by omega)
    refine ⟨u, by rwa [Nat.add_assoc, Nat.add_comm 1 n] at hu, ?_⟩
    rw [← Nat.add_assoc, MqttRead.loop, hpoll]
    dsimp only
    rw [if_neg (hticks n (Nat.lt_succ_self n)), hloop]

lemma polls_lt_loop : s.polls < (MqttRead.loop len recv ticks s).2.polls := by
  have hpoll : ∀ s : MqttRead, s.polls < (s.poll len recv).2.polls := by
    intro s
    unfold MqttRead.poll
    cases recv s.polls with
    | error ret hneg =>
      dsimp only
      split_ifs <;> exact Nat.lt_succ_self _
    | data bytes =>
      dsimp only
      split_ifs <;> exact Nat.lt_succ_self _
  induction ticks generalizing s with
  | zero =>
    have hs := hpoll s
    rw [MqttRead.loop]
    rcases hcase : s.poll len recv with ⟨_ | ret, t⟩ <;> rw [hcase] at hs <;> exact hs
  | succ ticks ih =>
    have hs := hpoll s
    rw [MqttRead.loop]
    rcases hcase : s.poll len recv with ⟨_ | ret, t⟩ <;> rw [hcase] at hs
    · dsimp only
      split_ifs
      · exact hs
      · exact hs.trans ih
    · exact hs

lemma readsExactly_iff_of_decided (h : s.After recv k) (hlen : 0 < len) (hk : (k : ℤ) < max timeout.toInt 1)
    (hund : Undecided len recv k) (hdec : ¬Undecided len recv (k + 1)) :
    ReadsExactly timeout (MqttRead.loop len recv ticks s).1 (MqttRead.loop len recv ticks s).2 ↔
      Settled timeout len recv := by
  unfold MqttRead.loop
  by_cases hfail : (recv k).Failed
  · obtain ⟨ret, hneg, hpoll⟩ := @poll_failed _ _ len k h hfail
    have hzero : Settled timeout len recv ↔ arrived recv k = 0 := by
      constructor
      · rintro (⟨j, -, hj, hbefore, hnone⟩ | ⟨j, -, hbefore, hall⟩ | ⟨ht, hbefore, -⟩)
        · obtain rfl : j = k := by
            rcases Nat.lt_trichotomy j k with hlt | heq | hlt
            · exact absurd hj (hund.before j hlt)
            · exact heq
            · exact absurd hfail (hbefore k hlt)
          exact hnone
        · by_contra
          have hle : j ≤ k := Nat.le_of_not_lt fun hlt => hbefore k hlt hfail
          exact absurd ((arrived_mono hle).trans_lt hund.lt) hall.not_gt
        · exact absurd hfail (hbefore k (by lia))
      · exact fun hnone => Settled.failed k hk hfail hund.before hnone
    rw [hpoll, hzero]
    constructor
    · intro hexact
      have hnil := hexact.nothing ret rfl hneg.le
      rw [← h.sent, ← h.filled.length]
      exact List.length_eq_zero_iff.mpr hnil
    · intro hnone
      refine ⟨nofun, ?_, ?_, ?_⟩
      · change ((k + 1 : ℕ) : ℤ) ≤ _
        lia
      · rintro n hn hpos
        obtain rfl := Option.some.inj hn
        omega
      · intro n _ _
        apply List.length_eq_zero_iff.mp
        rw [h.filled.length, h.sent, hnone]
  · obtain ⟨t, hpolls, hfilled, hsent, hpoll⟩ := poll_ok h hund.lt hfail
    have hbefore : ∀ j < k + 1, ¬(recv j).Failed := by
      intro j hj
      rcases Nat.lt_succ_iff_lt_or_eq.mp hj with hlt | rfl
      · exact hund.before j hlt
      · exact hfail
    have hfull : len ≤ arrived recv (k + 1) := Nat.le_of_not_lt fun hlt => hdec ⟨hbefore, hlt⟩
    rw [min_eq_left hfull] at hsent
    rw [hpoll, if_pos hsent.ge]
    refine iff_of_true ⟨nofun, ?_, ?_, ?_⟩ (Settled.full (k + 1) (by lia) hbefore hfull)
    · rw [hpolls]
      lia
    · rintro n hn -
      obtain rfl := Option.some.inj hn
      exact ⟨congrArg _ hfilled.length, fun i hi => hfilled.bytes i (hfilled.length ▸ hi)⟩
    · rintro n hn hle
      obtain rfl := Option.some.inj hn
      rw [hsent] at hle
      lia

lemma readsExactly_iff_of_undecided {buff : ℕ → UInt8} {n : ℕ} (hn : (n : ℤ) = max timeout.toInt 1)
    (hund : Undecided len recv n) (hticks : (ticks : ℤ) = timeout.toInt + 2 ^ 31) :
    ReadsExactly timeout (MqttRead.loop len recv ticks ⟨buff, 0, [], 0⟩).1
      (MqttRead.loop len recv ticks ⟨buff, 0, [], 0⟩).2 ↔ Settled timeout len recv := by
  have hstart : MqttRead.After recv 0 ⟨buff, 0, [], 0⟩ := ⟨rfl, rfl, rfl, fun i hi => absurd hi (Nat.not_lt_zero i)⟩
  have hsettled : Settled timeout len recv ↔ 1 ≤ timeout.toInt ∧ arrived recv n = 0 := by
    constructor
    · rintro (⟨j, hj, hfail, -, -⟩ | ⟨j, hj, -, hall⟩ | ⟨ht, -, hnone⟩)
      · exact absurd hfail (hund.before j (by lia))
      · exact absurd ((arrived_mono (by lia)).trans_lt hund.lt) hall.not_gt
      · have hsame : timeout.toInt.toNat = n := by lia
        exact ⟨ht, hsame ▸ hnone⟩
    · rintro ⟨ht, hnone⟩
      have hsame : timeout.toInt.toNat = n := by lia
      exact Settled.silent ht (fun j hj => hund.before j (by lia)) (hsame.symm ▸ hnone)
  rw [hsettled]
  by_cases ht : 1 ≤ timeout.toInt
  · -- the last pass finds that the time is over
    obtain ⟨m, rfl⟩ : ∃ m, n = m + 1 := ⟨n - 1, by lia⟩
    obtain rfl : ticks = 2 ^ 31 + 1 + m := by lia
    have hpre : Undecided len recv (0 + m) := hund.mono (by omega)
    obtain ⟨t, hafter, hloop⟩ := @loop_undecided recv _ len 0 m (2 ^ 31 + 1) hstart hpre fun i _ => by omega
    rw [Nat.zero_add] at hafter
    obtain ⟨u, hu, hpoll⟩ := loop_more hafter hund
    rw [hloop, MqttRead.loop, hpoll]
    dsimp only
    rw [if_pos rfl]
    constructor
    · intro hexact
      have hnil := hexact.nothing 0 rfl le_rfl
      refine ⟨ht, ?_⟩
      rw [← hu.sent, ← hu.filled.length, hnil]
      rfl
    · rintro ⟨-, hnone⟩
      refine ⟨nofun, ?_, ?_, ?_⟩
      · rw [hu.polls]
        lia
      · intro k hk hpos
        obtain rfl := Option.some.inj hk
        omega
      · intro k _ _
        apply List.length_eq_zero_iff.mp
        rw [hu.filled.length, hu.sent, hnone]
  · refine iff_of_false (fun hexact => ?_) fun h => ht h.1
    obtain rfl : n = 1 := by lia
    obtain ⟨t, hafter, hpoll⟩ := loop_more hstart hund
    have hpolls := hexact.polls
    have hreturns := hexact.returns
    rw [MqttRead.loop, hpoll] at hpolls hreturns
    cases ticks with
    | zero => exact hreturns rfl
    | succ ticks =>
      -- a second poll, as the timeout is negative after the first
      dsimp only at hpolls
      rw [if_neg (by lia)] at hpolls
      have hmore := @polls_lt_loop recv t len ticks
      rw [hafter.polls] at hmore
      lia

end Passes

/-- A read returns in time with what it has consumed if and only if the answers settle it. -/
theorem mqttNoosRead_exact_iff (secure : Option Bool) (raw : ℕ → RecvAnswer) (buff : ℕ → UInt8) {len : ℕ}
    (hlen : 0 < len) (timeout : Int32) :
    ReadsExactly timeout (mqttNoosRead secure raw buff len timeout).1 (mqttNoosRead secure raw buff len timeout).2 ↔
      Settled timeout len fun k => socketRecv secure (raw k) := by
  have hrange := timeout.le_toInt
  rw [mqttNoosRead, if_neg hlen.ne']
  obtain ⟨n, hn⟩ : ∃ n : ℕ, (n : ℤ) = max timeout.toInt 1 := ⟨(max timeout.toInt 1).toNat, by omega⟩
  have hticks : ((timeout.toInt + 2 ^ 31).toNat : ℤ) = timeout.toInt + 2 ^ 31 := by omega
  by_cases hund : Undecided len (fun k => socketRecv secure (raw k)) n
  · exact readsExactly_iff_of_undecided hn hund hticks
  · -- the first answer that is decisive
    classical
    have hex : ∃ k, ¬Undecided len (fun k => socketRecv secure (raw k)) k := ⟨n, hund⟩
    have hzero : Undecided len (fun k => socketRecv secure (raw k)) 0 := ⟨fun j hj => absurd hj (Nat.not_lt_zero j), hlen⟩
    obtain ⟨k, hk⟩ : ∃ k, Nat.find hex = k + 1 :=
      Nat.exists_eq_succ_of_ne_zero fun h => Nat.find_spec hex (h.symm ▸ hzero)
    have hle : Nat.find hex ≤ n := Nat.find_min' hex hund
    have hpre := not_not.mp (Nat.find_min hex (m := k) (by omega))
    have hdec := hk ▸ Nat.find_spec hex
    have hstart : MqttRead.After (fun k => socketRecv secure (raw k)) 0 ⟨buff, 0, [], 0⟩ :=
      ⟨rfl, rfl, rfl, fun i hi => absurd hi (Nat.not_lt_zero i)⟩
    obtain ⟨t, hafter, hloop⟩ := @loop_undecided _ _ len 0 k ((timeout.toInt + 2 ^ 31).toNat - k) hstart
      (by rwa [Nat.zero_add]) fun i _ => by omega
    rw [Nat.zero_add] at hafter
    rw [Nat.sub_add_cancel (by omega)] at hloop
    rw [hloop]
    exact readsExactly_iff_of_decided hafter hlen (by omega) hpre hdec

/-- Three bytes, in two polls -/
theorem mqttNoosRead_at : ReadsExactly 5
    (mqttNoosRead (some false) (fun k => if k = 0 then .data [1, 2] else .data [3, 4]) (fun _ => 0) 3 5).1
    (mqttNoosRead (some false) (fun k => if k = 0 then .data [1, 2] else .data [3, 4]) (fun _ => 0) 3 5).2 := by
  apply (mqttNoosRead_exact_iff (some false) _ (fun _ => 0) (by decide) 5).mpr
  have hbefore : ∀ j < 2, ¬(socketRecv (some false) (if j = 0 then .data [1, 2] else .data [3, 4])).Failed := by
    intro j _
    by_cases hj : j = 0
    · rw [if_pos hj]
      exact id
    · rw [if_neg hj]
      exact id
  exact Settled.full 2 (by decide) hbefore (by decide)

/-- Two bytes come, and then none for two polls: they are gone, and 0 is reported. -/
theorem not_mqttNoosRead : ¬ReadsExactly 3
    (mqttNoosRead (some false) (fun k => if k = 0 then .data [1, 2] else .error (-EAGAIN) (by decide)) (fun _ => 0) 4 3).1
    (mqttNoosRead (some false) (fun k => if k = 0 then .data [1, 2] else .error (-EAGAIN) (by decide)) (fun _ => 0) 4 3).2 := by
  intro h
  have hconsumed := h.nothing 0 (by decide) le_rfl
  exact absurd hconsumed (by decide)

end NoOS
