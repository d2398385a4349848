import Mathlib.Data.Nat.Digits.Lemmas
import NoOS.Network.AtParserStream

/-!
# Payload frames

The bytes of a header are appended like those of a text, and counted. At its end all of them
are taken off again, so that a frame leaves nothing in the result.
-/

namespace NoOS
open PrefixMatcher

def decimal (n : ℕ) : List UInt8 := (Nat.digits 10 n).reverse.map digit

/-- `"\r\n+IPD,<id>,<len>:"` and the payload. -/
def frameBytes (id : Fin MAX_CONNECTIONS) (payload : List UInt8) : List UInt8 :=
  atIpd ++ [digit id, 44] ++ decimal payload.length ++ [58] ++ payload

variable {msg seen vis acc : List UInt8} {idx ch : UInt8} {desc d : AtDesc} {s s' : AtSystem}
  {newCb : Option CbRef} {n : ℕ}

variable {stream : List (UInt8 × Option CbRef)}

/-- The parser is inside of a header, of which it has read `k` bytes and the length `len`. -/
structure AtSystem.InHeader (s : AtSystem) (n : ℕ) (acc seen : List UInt8) (k : ℕ) (stat : IpdStat)
    (len : ℕ) : Prop where
  holds : s.Holds n acc seen
  started : 7 ≤ k
  idx : s.desc.ipdIdx.toNat = k
  stat : s.desc.ipdStat = stat
  len : s.desc.ipdLen = UInt32.ofNat len

variable {k len : ℕ} {id : Fin MAX_CONNECTIONS}

lemma AtSystem.InHeader.not_lt {stat : IpdStat} (h : s.InHeader n acc seen k stat len) :
    ¬s.desc.ipdIdx < 7 := by
  rw [UInt8.lt_iff_toNat_lt, h.idx]
  exact Nat.not_lt_of_le h.started

lemma AtSystem.InHeader.byte {stat stat' : IpdStat} {len' : ℕ} (h : s.InHeader n acc seen k stat len)
    (newCb : Option CbRef) (hk : k < 255) (hnul : ch ≠ 0) (hlf : ch ≠ 10)
    (hpay : isPayloadMessage { s.desc with readCh := ch } ch = .ok (false, d))
    (hidx : d.ipdIdx = s.desc.ipdIdx + 1) (hstat : d.ipdStat = stat')
    (hlen : d.ipdLen = UInt32.ofNat len') :
    ∃ s', uartReceive s ch newCb = .ok s' ∧ (s'.NoOverflow →
      s'.InHeader n (acc ++ [ch]) (seen ++ [ch]) (k + 1) stat' len' ∧
        s'.desc.currentConn = d.currentConn) := by
  obtain ⟨s', hs', hres⟩ := h.holds.receive_quiet newCb hpay (async_not_suffix hlf) fun hc => absurd hc hnul
  refine ⟨s', hs', fun hno => ?_⟩
  obtain ⟨hholds, hidx', hstat', hlen', hconn⟩ := hres hno
  refine ⟨⟨hholds, Nat.le_succ_of_le h.started, ?_, hstat'.trans hstat, hlen'.trans hlen⟩, hconn⟩
  have hkidx := h.idx
  rw [hidx', hidx, UInt8.toNat_add, UInt8.toNat_one]
  lia

lemma AtSystem.InHeader.conn (h : s.InHeader n acc seen k .raedingConn len) (newCb : Option CbRef)
    (hk : k < 255) (id : Fin MAX_CONNECTIONS) :
    ∃ s', uartReceive s (digit id) newCb = .ok s' ∧ (s'.NoOverflow →
      s'.InHeader n (acc ++ [digit id]) (seen ++ [digit id]) (k + 1) .waitingComma len ∧
        connIndex s'.desc.currentConn = .ok id) := by
  have hdigit : ∀ id : Fin MAX_CONNECTIONS, digit id ≠ 0 ∧ digit id ≠ 10 ∧
      ¬(digit id < 48 ∨ digit id > 52) ∧ connIndex ((digit id).toNat - 48) = .ok id := by decide
  obtain ⟨hnul, hlf, hrange, hconn⟩ := hdigit id
  obtain ⟨d, hpay, hd⟩ : ∃ d, isPayloadMessage { s.desc with readCh := digit id } (digit id) =
      .ok (false, d) ∧ d = { s.desc with
        readCh := digit id
        currentConn := ((digit id).toNat : Int) - 48
        ipdStat := .waitingComma
        ipdIdx := s.desc.ipdIdx + 1 } := by
    refine ⟨_, ?_, rfl⟩
    unfold isPayloadMessage
    simp only [h.not_lt, if_false, h.stat, hrange]
  subst hd
  obtain ⟨s', hs', hres⟩ := h.byte newCb hk hnul hlf hpay rfl rfl h.len
  refine ⟨s', hs', fun hno => ⟨(hres hno).1, ?_⟩⟩
  rw [(hres hno).2]
  exact hconn

lemma AtSystem.InHeader.comma (h : s.InHeader n acc seen k .waitingComma len) (newCb : Option CbRef)
    (hk : k < 255) :
    ∃ s', uartReceive s 44 newCb = .ok s' ∧ (s'.NoOverflow →
      s'.InHeader n (acc ++ [44]) (seen ++ [44]) (k + 1) .readingLen len ∧
        s'.desc.currentConn = s.desc.currentConn) := by
  obtain ⟨d, hpay, hd⟩ : ∃ d, isPayloadMessage { s.desc with readCh := 44 } 44 = .ok (false, d) ∧
      d = { s.desc with
        readCh := 44
        ipdStat := .readingLen
        ipdIdx := s.desc.ipdIdx + 1 } := by
    refine ⟨_, ?_, rfl⟩
    unfold isPayloadMessage
    simp only [h.not_lt, if_false, h.stat, ne_eq, not_true_eq_false]
  subst hd
  have hbyte := h.byte newCb hk (by decide) (by decide) hpay rfl rfl h.len
  exact hbyte

lemma AtSystem.InHeader.digit (h : s.InHeader n acc seen k .readingLen len) (newCb : Option CbRef)
    (hk : k < 255) {v : ℕ} (hv : v < 10) :
    ∃ s', uartReceive s (digit v) newCb = .ok s' ∧ (s'.NoOverflow →
      s'.InHeader n (acc ++ [NoOS.digit v]) (seen ++ [NoOS.digit v]) (k + 1) .readingLen (len * 10 + v) ∧
        s'.desc.currentConn = s.desc.currentConn) := by
  have hdigit : ∀ v < 10, ¬(NoOS.digit v < 48 ∨ NoOS.digit v > 57) ∧
      (NoOS.digit v).toUInt32 - 48 = UInt32.ofNat v := by decide
  obtain ⟨hnul, hlf, -⟩ := digit_inner v hv
  obtain ⟨hrange, hvalue⟩ := hdigit v hv
  obtain ⟨d, hpay, hd⟩ : ∃ d, isPayloadMessage { s.desc with readCh := NoOS.digit v } (NoOS.digit v) =
      .ok (false, d) ∧ d = { s.desc with
        readCh := NoOS.digit v
        ipdLen := s.desc.ipdLen * 10 + ((NoOS.digit v).toUInt32 - 48)
        ipdIdx := s.desc.ipdIdx + 1 } := by
    refine ⟨_, ?_, rfl⟩
    unfold isPayloadMessage
    simp only [h.not_lt, if_false, h.stat, hrange]
  subst hd
  have hlen : s.desc.ipdLen * 10 + ((NoOS.digit v).toUInt32 - 48) = UInt32.ofNat (len * 10 + v) := by
    rw [hvalue, h.len, UInt32.ofNat_add, UInt32.ofNat_mul]
    rfl
  have hbyte := h.byte newCb hk hnul hlf hpay rfl h.stat hlen
  exact hbyte

lemma AtSystem.InHeader.digits {vs : List ℕ} (h : s.InHeader n acc seen k .readingLen len)
    (hconn : connIndex s.desc.currentConn = .ok id) (hvs : ∀ v ∈ vs, v < 10) (hk : k + vs.length < 256)
    (hbytes : stream.map Prod.fst = vs.map NoOS.digit) :
    s.Yields stream fun s' => s'.InHeader n (acc ++ vs.map NoOS.digit) (seen ++ vs.map NoOS.digit)
      (k + vs.length) .readingLen (vs.foldl (fun len v => len * 10 + v) len) ∧
        connIndex s'.desc.currentConn = .ok id := by
  induction vs generalizing s acc seen k len stream with
  | nil =>
    rw [List.map_nil, List.map_eq_nil_iff] at hbytes
    subst hbytes
    apply AtSystem.Yields.nil
    simpa using ⟨h, hconn⟩
  | cons v vs ih =>
    rw [List.map_cons] at hbytes
    obtain ⟨p, stream', rfl, hp, hrest⟩ := List.map_eq_cons_iff.mp hbytes
    rw [List.length_cons] at hk
    have hfirst : s.Yields [p] fun s' => s'.InHeader n (acc ++ [NoOS.digit v]) (seen ++ [NoOS.digit v])
        (k + 1) .readingLen (len * 10 + v) ∧ connIndex s'.desc.currentConn = .ok id := by
      apply AtSystem.Yields.receive
      rw [hp]
      obtain ⟨s', hs', hres⟩ := h.digit p.2 (by lia) (hvs v (by simp))
      refine ⟨s', hs', fun hno => ⟨(hres hno).1, ?_⟩⟩
      rw [(hres hno).2]
      exact hconn
    have hboth := hfirst.append fun s' hs' =>
      ih hs'.1 hs'.2 (fun u hu => hvs u (by simp [hu])) (by lia) hrest
    simpa [Nat.add_assoc, Nat.add_comm 1] using hboth

/-- The end of a header: all of it is taken off the result, and the payload comes. -/
lemma AtSystem.InHeader.colon {header : List UInt8}
    (h : s.InHeader n (acc ++ header) seen header.length .readingLen len) (hpos : 0 < len)
    (hlt : len < 2 ^ 32) (hconn : connIndex s.desc.currentConn = .ok id)
    (hzero : List.Forall₂ (fun msg idx => Tracks msg idx.toNat []) asyncMsgs s.desc.asyncIdx)
    (hnew : ∀ r, newCb = some r → r < n) :
    ∃ s', uartReceive s 58 newCb = .ok s' ∧ s'.Delivering id len ∧ s'.cbs.length = n ∧
      s'.desc.multipleConections = true ∧ s'.desc.ResultIs acc ∧
      List.Forall₂ (fun msg idx => Tracks msg idx.toNat []) asyncMsgs s'.desc.asyncIdx ∧
      s'.desc.Seeks [] := by
  have hlenNat : (UInt32.ofNat len).toNat = len := UInt32.toNat_ofNat_of_lt hlt
  have hpay : isPayloadMessage { s.desc with readCh := 58 } 58 = .ok (true,
      ((AtDesc.setConn { s.desc with readCh := 58 } id
        { s.desc.conn id with toRead := s.desc.ipdLen }).setResultLen
          (s.desc.result.len - s.desc.ipdIdx.toUInt32)).resetIpd) := by
    have hgt : s.desc.ipdLen > 0 := by
      rw [gt_iff_lt, UInt32.lt_iff_toNat_lt, h.len, hlenNat]
      exact hpos
    have hcolon : (58 : UInt8) < 48 ∨ (58 : UInt8) > 57 := by decide
    unfold isPayloadMessage
    simp only [h.not_lt, if_false, h.stat, hcolon, if_true, true_and, hgt, hconn]
    rfl
  rw [h.holds.listening.receive]
  simp only [readingResponses, hpay]
  have hbuf := h.holds.listening.buffers
  obtain ⟨s', hs', hsame, hlength, hdel⟩ := @startConnRead_delivering { s with
      uartLen := 0
      desc := { ((AtDesc.setConn { s.desc with readCh := 58 } id
        { s.desc.conn id with toRead := s.desc.ipdLen }).setResultLen
          (s.desc.result.len - s.desc.ipdIdx.toUInt32)).resetIpd with
        callbackOperation := .readingPayload } } newCb id true
    (hbuf.update id (hbuf.refs id)) h.holds.listening.idle rfl hconn
    (by
      simp only [AtDesc.resetIpd, AtDesc.setResultLen, AtDesc.setConn, Function.update_self, h.len]
      rw [hlenNat]
      exact hpos)
    (by rw [← h.holds.cbs] at hnew; exact hnew)
  have hcut : (s.desc.setResultLen (s.desc.result.len - s.desc.ipdIdx.toUInt32)).ResultIs acc :=
    h.holds.result.cut (by rw [UInt8.toNat_toUInt32, h.idx])
  simp only [AtDesc.resetIpd, AtDesc.setResultLen, AtDesc.setConn, Function.update_self, h.len,
    hlenNat] at hdel
  refine ⟨s', hs', hdel, hlength.trans h.holds.cbs, hsame.multipleConections.trans h.holds.multiple,
    hcut.congr hsame.result, ?_, ?_⟩
  · rw [hsame.asyncIdx]
    exact hzero
  · refine ⟨?_, ?_, hsame.ipdLen⟩
    · rw [hsame.ipdIdx]
      exact (by decide : (0 : UInt8) < 7)
    · rw [hsame.ipdIdx]
      exact .nil _

lemma decimal_spec {m : ℕ} (hpos : 0 < m) (hlt : m < 2 ^ 32) :
    ∃ vs v, decimal m = (vs ++ [v]).map digit ∧ (∀ u ∈ vs ++ [v], u < 10) ∧ (vs ++ [v]).length ≤ 10 ∧
      (vs ++ [v]).foldl (fun len v => len * 10 + v) 0 = m := by
  have hne : (Nat.digits 10 m).reverse ≠ [] := by
    rw [Ne, List.reverse_eq_nil_iff, Nat.digits_eq_nil_iff_eq_zero]
    lia
  have hsplit := (List.dropLast_append_getLast hne).symm
  refine ⟨_, _, congrArg (List.map digit) hsplit, ?_, ?_, ?_⟩
  · rw [← hsplit]
    intro u hu
    exact Nat.digits_lt_base (by decide) (List.mem_reverse.mp hu)
  · rw [← hsplit, List.length_reverse, Nat.digits_length_le_iff (by decide)]
    omega
  · rw [← hsplit, List.foldl_reverse]
    have hvalue := Nat.ofDigits_digits 10 m
    rw [Nat.ofDigits_eq_foldr] at hvalue
    rw [← hvalue]
    congr 1
    · ext len v
      simp only [Nat.cast_id]
      ring
    · rw [hvalue]

lemma tracks_nil_of_notMem {msgs : List (List UInt8)} {idxs : List UInt8}
    (hmsgs : ∀ msg ∈ msgs, ch ∉ msg)
    (h : List.Forall₂ (fun msg idx => Tracks msg idx.toNat (seen ++ [ch])) msgs idxs) :
    List.Forall₂ (fun msg idx => Tracks msg idx.toNat []) msgs idxs := by
  induction h with
  | nil => exact .nil
  | @cons msg idx msgs idxs hidx _ ih =>
    refine .cons ?_ (ih fun m hm => hmsgs m (by simp [hm]))
    rw [hidx.eq_zero_of_notMem (hmsgs msg (by simp))]
    exact .nil _

lemma AtSystem.Reads.ipd_run (h : s.Reads n acc seen vis)
    (hlf : ∀ msg ∈ asyncMsgs, ¬msg <:+ vis ++ [13, 10]) (hbytes : stream.map Prod.fst = atIpd) :
    s.Yields stream fun s' => s'.InHeader n (acc ++ atIpd) (seen ++ atIpd) 7 .raedingConn 0 := by
  obtain ⟨first, last, rfl, hfirst, hlast⟩ :=
    List.map_eq_append_iff.mp (show stream.map Prod.fst = atIpd.dropLast ++ [44] from hbytes)
  obtain ⟨p, rfl, hp⟩ := List.map_eq_singleton_iff.mp hlast
  have hquiet : Quiet vis atIpd.dropLast := by
    refine ⟨⟨by decide, not_suffix_of_last (by decide) (by decide)⟩, ⟨by decide, ?_⟩,
      quiet_of_inner (by decide)⟩
    intro msg hmsg
    rcases List.mem_cons.mp hmsg with rfl | hmsg
    · exact not_suffix_of_getLast (by decide) (by decide)
    · rw [List.append_assoc]
      exact hlf msg hmsg
  apply (h.quiet_run hquiet hfirst).append
  intro s' hs'
  have hseek : AtDesc.Seeks { s'.desc with readCh := 44 } (vis ++ atIpd.dropLast) :=
    ⟨hs'.seeks.idx, hs'.seeks.tracks, hs'.seeks.len⟩
  obtain ⟨d, hpay, -, hhit⟩ := hseek.byte hs'.holds.multiple 44
  obtain ⟨hidx, hstat, hlen⟩ := hhit ⟨vis, by rw [List.append_assoc]; rfl⟩
  obtain ⟨s'', hs'', hres⟩ := hs'.holds.receive_quiet p.2 hpay (async_not_suffix (by decide))
    fun hc => absurd hc (by decide)
  apply AtSystem.Yields.receive
  rw [hp]
  refine ⟨s'', hs'', fun hno => ?_⟩
  obtain ⟨hholds, hidx', hstat', hlen', -⟩ := hres hno
  rw [List.append_assoc, List.append_assoc] at hholds
  refine ⟨hholds, Nat.le_refl _, ?_, hstat'.trans hstat, hlen'.trans hlen⟩
  rw [hidx', hidx]
  rfl

lemma AtSystem.Reads.frame_run (h : s.Reads n acc seen vis) {payload : List UInt8}
    (hpayload : payload ≠ []) (hshort : payload.length < 2 ^ 32)
    (hlf : ∀ msg ∈ asyncMsgs, ¬msg <:+ vis ++ [13, 10])
    (hbytes : stream.map Prod.fst = frameBytes id payload)
    (hnew : ∀ p ∈ stream, ∀ r, p.2 = some r → r < n) :
    s.Yields stream fun s' => s'.Reads n acc [] [] := by
  obtain ⟨vs, v, hdec, hdigits, hlen, hvalue⟩ :=
    decimal_spec (List.length_pos_iff.mpr hpayload) hshort
  simp only [frameBytes, hdec] at hbytes
  obtain ⟨stream, stPayload, rfl, hbytes, hstPayload⟩ := List.map_eq_append_iff.mp hbytes
  obtain ⟨stream, stColon, rfl, hbytes, hstColon⟩ := List.map_eq_append_iff.mp hbytes
  obtain ⟨stream, stDigits, rfl, hbytes, hstDigits⟩ := List.map_eq_append_iff.mp hbytes
  obtain ⟨stIpd, stId, rfl, hstIpd, hstId⟩ := List.map_eq_append_iff.mp hbytes
  obtain ⟨p, stComma, rfl, hp, hstComma⟩ := List.map_eq_cons_iff.mp hstId
  obtain ⟨q, rfl, hq⟩ := List.map_eq_singleton_iff.mp hstComma
  obtain ⟨c, rfl, hc⟩ := List.map_eq_singleton_iff.mp hstColon
  have hstart := h.ipd_run hlf hstIpd
  have hconn : s.Yields (stIpd ++ [p]) fun s' => s'.InHeader n (acc ++ atIpd ++ [digit id])
      (seen ++ atIpd ++ [digit id]) 8 .waitingComma 0 ∧ connIndex s'.desc.currentConn = .ok id := by
    apply hstart.append
    intro s' hs'
    apply AtSystem.Yields.receive
    rw [hp]
    exact hs'.conn p.2 (by decide) id
  have hcomma : s.Yields (stIpd ++ [p] ++ [q]) fun s' => s'.InHeader n (acc ++ atIpd ++ [digit id] ++ [44])
      (seen ++ atIpd ++ [digit id] ++ [44]) 9 .readingLen 0 ∧ connIndex s'.desc.currentConn = .ok id := by
    apply hconn.append
    intro s' hs'
    apply AtSystem.Yields.receive
    rw [hq]
    obtain ⟨s'', hs'', hres⟩ := hs'.1.comma q.2 (by decide)
    refine ⟨s'', hs'', fun hno => ⟨(hres hno).1, ?_⟩⟩
    rw [(hres hno).2]
    exact hs'.2
  have hdigits' := hcomma.append fun s' hs' => hs'.1.digits hs'.2 hdigits (by lia) hstDigits
  have hcolon : s.Yields (stIpd ++ [p] ++ [q] ++ stDigits ++ [c]) fun s' =>
      s'.Delivering id payload.length ∧ s'.cbs.length = n ∧ s'.desc.multipleConections = true ∧
        s'.desc.ResultIs acc ∧
        List.Forall₂ (fun msg idx => Tracks msg idx.toNat []) asyncMsgs s'.desc.asyncIdx ∧
        s'.desc.Seeks [] := by
    apply hdigits'.append
    rintro s' ⟨hheader, hconn'⟩
    have hasync := hheader.holds.async
    rw [List.map_append, List.map_singleton, ← List.append_assoc] at hasync
    have hno : ∀ v < 10, ∀ msg ∈ asyncMsgs, digit v ∉ msg := by decide
    have hzero := tracks_nil_of_notMem (hno v (hdigits v (by simp))) hasync
    rw [hvalue] at hheader
    have hheader' : s'.InHeader n (acc ++ (atIpd ++ [digit id] ++ [44] ++ (vs ++ [v]).map digit))
        (seen ++ atIpd ++ [digit id] ++ [44] ++ (vs ++ [v]).map digit)
        (atIpd ++ [digit id] ++ [44] ++ (vs ++ [v]).map digit).length .readingLen payload.length := by
      have hk : (atIpd ++ [digit id] ++ [44] ++ (vs ++ [v]).map digit).length = 9 + (vs ++ [v]).length := by
        simp only [List.length_append, List.length_map, List.length_singleton]
        rfl
      rw [hk]
      simpa only [List.append_assoc] using hheader
    obtain ⟨s'', hs'', hres⟩ := hheader'.colon (List.length_pos_iff.mpr hpayload) hshort
      hconn' hzero (hnew c (by simp))
    apply AtSystem.Yields.receive
    rw [hc]
    exact ⟨s'', hs'', fun _ => hres⟩
  have hall : s.Yields (stIpd ++ [p] ++ [q] ++ stDigits ++ [c] ++ stPayload) fun s' =>
      s'.Reads n acc [] [] := by
    apply hcolon.append
    rintro s' ⟨hdel, hcbs, hmul, hresult, hasync, hseeks⟩ -
    have hlength : stPayload.length = payload.length := by
      rw [← hstPayload, List.length_map]
    rw [← hlength] at hdel
    have hne : stPayload ≠ [] := by
      rintro rfl
      exact hpayload hstPayload.symm
    obtain ⟨s'', hs'', hsame, hlen', hlisten⟩ := hdel.run hne
    refine ⟨s'', hs'', ⟨hlisten, hlen'.trans hcbs, hsame.multipleConections.trans hmul,
      hresult.congr hsame.result, ?_⟩, List.nil_suffix, ?_, ?_⟩
    · rw [hsame.asyncIdx]
      exact hasync
    · have hend : ∀ msg ∈ asyncMsgs, msg <:+ [] → msg = closedMsg := by decide
      exact hend
    · exact ⟨hsame.ipdIdx ▸ hseeks.idx, hsame.ipdIdx ▸ hseeks.tracks, hsame.ipdLen.trans hseeks.len⟩
  simpa using hall

end NoOS
