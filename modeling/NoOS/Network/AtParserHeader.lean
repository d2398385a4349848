import NoOS.Network.AtParserStream

/-!
# The headers that the parser recognises

The bytes that are read as responses form one stream, also around the payloads. A header is recognised at its ':',
unless the parser has dropped its first byte at the end of an unfinished header.
-/

namespace NoOS
open PrefixMatcher

/-- `"\r\n+IPD,<id>,"` and some digits. -/
def headerBytes (id : Fin MAX_CONNECTIONS) (vs : List ℕ) : List UInt8 := atIpd ++ [digit id, 44] ++ vs.map digit

/-- The number that the digits denote. -/
def digitsValue (vs : List ℕ) : ℕ := vs.foldl (fun len v => len * 10 + v) 0

/-- A header for `m` bytes, with `m` positive, ends with `ch`. -/
def Completes (seen : List UInt8) (ch : UInt8) (id : Fin MAX_CONNECTIONS) (m : ℕ) : Prop :=
  0 < m ∧ ∃ vs, (∀ v ∈ vs, v < 10) ∧ digitsValue vs = m ∧ headerBytes id vs ++ [58] <:+ seen ++ [ch]

/-- The parser with the bytes that it has read as responses. -/
structure HeaderSession where
  sys : AtSystem
  seen : List UInt8

namespace HeaderSession

def step (s : HeaderSession) (p : UInt8 × Option CbRef) : Except AtFault HeaderSession :=
  match uartReceive s.sys p.1 p.2 with
  | .ok sys => .ok ⟨sys, s.seen ++ (s.sys.interprets p.1).toList⟩
  | .error f => .error f

/-- The next byte of a response is recognised for what it is. -/
def Recognises (s : HeaderSession) : Prop := ∀ ch c, s.sys.interprets ch = some c →
  ∃ hit desc, isPayloadMessage { s.sys.desc with readCh := c } c = .ok (hit, desc) ∧
    (hit = true ↔ ∃ id m, Completes s.seen c id m) ∧
    ∀ id m, Completes s.seen c id m → (desc.conn id).toRead.toNat = m

end HeaderSession

/-- Inside of a header there is no carriage return and no '4' for the id, the length fits into its variable, and the
header into the counter of its bytes. -/
def AtDesc.HeaderAccepts (desc : AtDesc) (ch : UInt8) : Prop := ¬desc.ipdIdx < 7 →
  ch ≠ 13 ∧ (desc.ipdStat = .raedingConn → ch ≠ 52) ∧
    (desc.ipdStat = .readingLen → 48 ≤ ch → ch ≤ 57 →
      desc.ipdIdx ≠ 255 ∧ desc.ipdLen.toNat * 10 + (ch.toNat - 48) < 2 ^ 32)

instance (desc : AtDesc) (ch : UInt8) : Decidable (desc.HeaderAccepts ch) :=
  inferInstanceAs (Decidable (_ → _))

namespace HeaderSession

def Allowed (s : HeaderSession) (p : UInt8 × Option CbRef) : Prop :=
  (s.sys.interprets p.1).all fun c => s.sys.desc.HeaderAccepts c

instance decidableAllowed (s : HeaderSession) (p : UInt8 × Option CbRef) : Decidable (s.Allowed p) := inferInstanceAs (Decidable (_ = true))

end HeaderSession

/-- What has been read of a header after its fixed part. -/
inductive HeaderStart : List UInt8 → Prop
  | ipd : HeaderStart atIpd
  | conn (id : Fin MAX_CONNECTIONS) : HeaderStart (atIpd ++ [digit id])
  | digits (id : Fin MAX_CONNECTIONS) (vs : List ℕ) (h : ∀ v ∈ vs, v < 10) : HeaderStart (headerBytes id vs)

variable {seen p : List UInt8} {ch : UInt8} {desc d : AtDesc} {id : Fin MAX_CONNECTIONS} {vs : List ℕ}

lemma digit_ne_cr : ∀ k < 10, digit k ≠ 13 := by decide

lemma id_lt_ten (id : Fin MAX_CONNECTIONS) : id.val < 10 := by
  have := id.isLt
  unfold MAX_CONNECTIONS at this
  omega

lemma HeaderStart.shape (h : HeaderStart p) : ∃ t, p = 13 :: t ∧ (13 : UInt8) ∉ t ∧ 6 ≤ t.length := by
  have hid := fun id : Fin MAX_CONNECTIONS => digit_ne_cr id (id_lt_ten id)
  cases h with
  | ipd => exact ⟨[10, 43, 73, 80, 68, 44], rfl, by decide, by decide⟩
  | conn id =>
    refine ⟨[10, 43, 73, 80, 68, 44, digit id], rfl, ?_, by simp⟩
    have := hid id
    simp [this.symm]
  | digits id vs hvs =>
    refine ⟨[10, 43, 73, 80, 68, 44, digit id, 44] ++ vs.map digit, rfl, ?_, by simp⟩
    rw [List.mem_append, not_or]
    constructor
    · have := hid id
      simp [this.symm]
    · intro hmem
      obtain ⟨v, hv, heq⟩ := List.mem_map.mp hmem
      exact digit_ne_cr v (hvs v hv) heq

lemma HeaderStart.headUnique (h : HeaderStart p) : HeadUnique p ∧ p.head? = some 13 ∧ 7 ≤ p.length := by
  obtain ⟨t, rfl, hno, hlen⟩ := h.shape
  refine ⟨fun a ha heq => ?_, rfl, Nat.succ_le_succ hlen⟩
  rw [List.head?_cons, Option.some.injEq] at heq
  exact hno (heq ▸ ha)

lemma HeaderStart.unique {q : List UInt8} (h : HeaderStart p) (h' : HeaderStart q) (hp : p <:+ seen) (hq : q <:+ seen) :
    p = q := by
  obtain ⟨hu, hhead, hlen⟩ := h.headUnique
  obtain ⟨hu', hhead', -⟩ := h'.headUnique
  apply hu.suffix_eq hu' (hhead.trans hhead'.symm) _ hp hq
  rintro rfl
  exact absurd hlen (by decide)

/-- A start of a header ends with the fixed part, or continues a shorter start. -/
lemma HeaderStart.pred {q : List UInt8} (h : HeaderStart q) (hq : q <:+ seen ++ [ch]) :
    q = atIpd ∨ ∃ p, HeaderStart p ∧ p <:+ seen ∧ q = p ++ [ch] := by
  have hlast : ∀ {p : List UInt8} {c : UInt8}, q = p ++ [c] → p <:+ seen ∧ q = p ++ [ch] := by
    rintro p c rfl
    rcases List.suffix_concat_iff.mp hq with hnil | ⟨t, ht, hsuffix⟩
    · exact absurd hnil (by simp)
    · obtain ⟨rfl, hc⟩ := List.append_inj' ht rfl
      exact ⟨hsuffix, by rw [hc]⟩
  cases h with
  | ipd => exact .inl rfl
  | conn id =>
    obtain ⟨hp, heq⟩ := hlast rfl
    exact .inr ⟨atIpd, .ipd, hp, heq⟩
  | digits id vs hvs =>
    right
    rcases List.eq_nil_or_concat vs with rfl | ⟨init, v, rfl⟩
    · have heq : headerBytes id [] = (atIpd ++ [digit id]) ++ [44] := by simp [headerBytes]
      obtain ⟨hp, heq'⟩ := hlast heq
      exact ⟨_, .conn id, hp, heq'⟩
    · rw [List.concat_eq_append] at hvs hlast hq ⊢
      have heq : headerBytes id (init ++ [v]) = headerBytes id init ++ [digit v] := by simp [headerBytes]
      obtain ⟨hp, heq'⟩ := hlast heq
      exact ⟨_, .digits id init fun u hu => hvs u (by simp [hu]), hp, heq'⟩

/-- After a byte that does not fit, the header is over, and nothing of the next one has been seen. -/
lemma HeaderStart.reset (h : HeaderStart p) (hp : p <:+ seen) (hcr : ch ≠ 13) (hno : ¬HeaderStart (p ++ [ch])) :
    Tracks atIpd 0 (seen ++ [ch]) ∧ ∀ q, HeaderStart q → ¬q <:+ seen ++ [ch] := by
  obtain ⟨hu, hhead, hlen⟩ := h.headUnique
  have htake : ∀ k < 7, 0 < k → ¬atIpd.take k <:+ seen := by
    intro k hk hpos hsuffix
    have hall : ∀ k < 7, 0 < k → HeadUnique (atIpd.take k) ∧ (atIpd.take k).head? = some 13 ∧ atIpd.take k ≠ [] ∧
        (atIpd.take k).length < 7 := by decide
    obtain ⟨hu', hhead', hne, hshort⟩ := hall k hk hpos
    rw [hu'.suffix_eq hu (hhead'.trans hhead.symm) hne hsuffix hp] at hshort
    omega
  constructor
  · refine ⟨Nat.zero_le _, by simp, fun k hk hsuffix => ?_⟩
    cases k with
    | zero => exact Nat.le_refl _
    | succ k =>
      obtain ⟨hget, hseen⟩ := (take_succ_suffix hk).mp hsuffix
      cases k with
      | zero =>
        change some 13 = some ch at hget
        exact absurd (Option.some.inj hget).symm hcr
      | succ k => exact absurd hseen (htake (k + 1) hk (Nat.succ_pos _))
  · intro q hq hsuffix
    rcases hq.pred hsuffix with rfl | ⟨p', hp', hseen, rfl⟩
    · have hinit := ((@take_succ_suffix _ atIpd seen 6 ch (by decide)).mp hsuffix).2
      exact htake 6 (by decide) (by decide) hinit
    · rw [hp'.unique h hseen hp] at hq
      exact hno hq

/-- What the parser knows of the bytes that it has read as responses. -/
inductive AtDesc.Scans (desc : AtDesc) (seen : List UInt8) : Prop
  | seeking (hseeks : desc.Seeks seen) (hno : ∀ p, HeaderStart p → ¬p <:+ seen)
  | conn (hidx : desc.ipdIdx = 7) (hstat : desc.ipdStat = .raedingConn) (hlen : desc.ipdLen = 0) (h : atIpd <:+ seen)
  | comma (id : Fin MAX_CONNECTIONS) (hidx : desc.ipdIdx = 8) (hstat : desc.ipdStat = .waitingComma)
      (hlen : desc.ipdLen = 0) (hconn : connIndex desc.currentConn = .ok id) (h : atIpd ++ [digit id] <:+ seen)
  | digits (id : Fin MAX_CONNECTIONS) (vs : List ℕ) (hvs : ∀ v ∈ vs, v < 10) (hidx : desc.ipdIdx.toNat = 9 + vs.length)
      (hstat : desc.ipdStat = .readingLen) (hlen : desc.ipdLen.toNat = digitsValue vs)
      (hconn : connIndex desc.currentConn = .ok id) (h : headerBytes id vs <:+ seen)

lemma Completes.header {m : ℕ} (h : Completes seen ch id m) : ch = 58 ∧ 0 < m ∧
    ∃ vs, (∀ v ∈ vs, v < 10) ∧ digitsValue vs = m ∧ headerBytes id vs <:+ seen := by
  obtain ⟨hpos, vs, hvs, hvalue, hsuffix⟩ := h
  rcases List.suffix_concat_iff.mp hsuffix with hnil | ⟨t, ht, hseen⟩
  · exact absurd hnil (by simp)
  · obtain ⟨rfl, hch⟩ := List.append_inj' ht rfl
    rw [List.singleton_inj] at hch
    exact ⟨hch.symm, hpos, vs, hvs, hvalue, hseen⟩

lemma headerBytes_inj {id' : Fin MAX_CONNECTIONS} {vs' : List ℕ} (hvs : ∀ v ∈ vs, v < 10) (hvs' : ∀ v ∈ vs', v < 10)
    (h : headerBytes id vs = headerBytes id' vs') : id = id' ∧ vs = vs' := by
  have hdigit : ∀ a < 10, ∀ b < 10, digit a = digit b → a = b := by decide
  obtain ⟨hfront, hdigits⟩ := List.append_inj h rfl
  have hids := List.append_cancel_left hfront
  rw [List.cons.injEq] at hids
  refine ⟨Fin.ext (hdigit id (id_lt_ten id) id' (id_lt_ten id') hids.1), ?_⟩
  have hback : ∀ {vs : List ℕ}, (∀ v ∈ vs, v < 10) → (vs.map digit).map (fun b => b.toNat - 48) = vs := by
    have hvalue : ∀ v < 10, (digit v).toNat - 48 = v := by decide
    intro vs hvs
    rw [List.map_map]
    exact (List.map_congr_left fun v hv => hvalue v (hvs v hv)).trans (List.map_id vs)
  rw [← hback hvs, hdigits, hback hvs']

/-- A check of the byte `ch` recognises the headers that are completed with it, and reads their lengths. -/
def Recognises (seen : List UInt8) (ch : UInt8) (r : Except AtFault (Bool × AtDesc)) : Prop :=
  ∃ hit d, r = .ok (hit, d) ∧ (hit = true ↔ ∃ id m, Completes seen ch id m) ∧
    ∀ id m, Completes seen ch id m → (d.conn id).toRead.toNat = m

lemma recognises_of_not (hno : ∀ id m, ¬Completes seen ch id m) : Recognises seen ch (.ok (false, desc)) := by
  refine ⟨false, desc, rfl, ⟨nofun, ?_⟩, fun id m hc => absurd hc (hno id m)⟩
  rintro ⟨id, m, hc⟩
  exact absurd hc (hno id m)

/-- A header that is completed is the one that the parser is in. -/
lemma HeaderStart.not_completes (hp : HeaderStart p) (hseen : p <:+ seen) (hlen : p.length < 9)
    (id : Fin MAX_CONNECTIONS) (m : ℕ) : ¬Completes seen ch id m := by
  intro hc
  obtain ⟨-, -, vs, hvs, -, hheader⟩ := hc.header
  rw [hp.unique (.digits id vs hvs) hseen hheader] at hlen
  simp [headerBytes, atIpd] at hlen
  lia

/-- Behind the digits only ':' completes a header. -/
lemma completes_digits_iff (hvs : ∀ v ∈ vs, v < 10) (hseen : headerBytes id vs <:+ seen)
    (id' : Fin MAX_CONNECTIONS) (m : ℕ) :
    Completes seen ch id' m ↔ ch = 58 ∧ id' = id ∧ m = digitsValue vs ∧ 0 < m := by
  constructor
  · intro hc
    obtain ⟨hch, hpos, vs', hvs', hvalue, hheader⟩ := hc.header
    have heq := (HeaderStart.digits id' vs' hvs').unique (.digits id vs hvs) hheader hseen
    obtain ⟨rfl, rfl⟩ := headerBytes_inj hvs' hvs heq
    exact ⟨hch, rfl, hvalue.symm, hpos⟩
  · rintro ⟨rfl, rfl, rfl, hpos⟩
    refine ⟨hpos, vs, hvs, rfl, ?_⟩
    obtain ⟨t, rfl⟩ := hseen
    exact ⟨t, by rw [List.append_assoc]⟩

/-- The check of a byte is right if the parser knows where it is in the stream. -/
lemma AtDesc.Scans.recognises (h : desc.Scans seen) (hmul : desc.multipleConections = true) (ch : UInt8) :
    Recognises seen ch (isPayloadMessage desc ch) := by
  cases h with
  | seeking hseeks hno =>
    obtain ⟨d, hd, -, -⟩ := hseeks.byte hmul ch
    rw [hd]
    refine recognises_of_not fun id m hc => ?_
    obtain ⟨-, -, vs, hvs, -, hheader⟩ := hc.header
    exact hno _ (.digits id vs hvs) hheader
  | conn hidx hstat hlen hseen =>
    unfold isPayloadMessage
    rw [if_neg (by rw [hidx]; decide), hstat]
    dsimp only
    split
    · exact recognises_of_not (HeaderStart.ipd.not_completes hseen (by decide))
    · exact recognises_of_not (HeaderStart.ipd.not_completes hseen (by decide))
  | comma id hidx hstat hlen hconn hseen =>
    have hshort : (atIpd ++ [digit id]).length < 9 := by simp [atIpd]
    unfold isPayloadMessage
    rw [if_neg (by rw [hidx]; decide), hstat]
    dsimp only
    split
    · exact recognises_of_not ((HeaderStart.conn id).not_completes hseen hshort)
    · exact recognises_of_not ((HeaderStart.conn id).not_completes hseen hshort)
  | digits id vs hvs hidx hstat hlen hconn hseen =>
    have hlt : ¬desc.ipdIdx < 7 := by
      rw [UInt8.lt_iff_toNat_lt, hidx]
      change ¬9 + vs.length < 7
      omega
    have honly := @completes_digits_iff seen ch id vs hvs hseen
    unfold isPayloadMessage
    rw [if_neg hlt, hstat]
    dsimp only
    by_cases hdigit : ch < 48 ∨ ch > 57
    · rw [if_pos hdigit]
      by_cases hend : ch = 58 ∧ desc.ipdLen > 0
      · rw [if_pos hend, hconn]
        have hpos : 0 < digitsValue vs := by
          rw [← hlen]
          exact UInt32.lt_iff_toNat_lt.mp hend.2
        refine ⟨true, _, rfl, ⟨fun _ => ⟨id, digitsValue vs, (honly _ _).mpr ⟨hend.1, rfl, rfl, hpos⟩⟩, fun _ => rfl⟩, ?_⟩
        intro id' m hc
        obtain ⟨-, rfl, rfl, -⟩ := (honly _ _).mp hc
        simp only [AtDesc.resetIpd, AtDesc.setResultLen, AtDesc.setConn, Function.update_self, hlen]
      · rw [if_neg hend]
        refine recognises_of_not fun id' m hc => hend ?_
        obtain ⟨hch, -, rfl, hpos⟩ := (honly _ _).mp hc
        refine ⟨hch, ?_⟩
        rw [gt_iff_lt, UInt32.lt_iff_toNat_lt, hlen]
        exact hpos
    · rw [if_neg hdigit]
      refine recognises_of_not fun id' m hc => hdigit ?_
      obtain ⟨rfl, -⟩ := (honly _ _).mp hc
      exact .inr (by decide)

lemma AtDesc.Scans.not_lt_cases {desc : AtDesc} (h : desc.Scans seen) (hidx : ¬desc.ipdIdx < 7) :
    ∃ p, HeaderStart p ∧ p <:+ seen := by
  cases h with
  | seeking hseeks _ => exact absurd hseeks.idx hidx
  | conn _ _ _ hseen => exact ⟨_, .ipd, hseen⟩
  | comma id _ _ _ _ hseen => exact ⟨_, .conn id, hseen⟩
  | digits id vs hvs _ _ _ _ hseen => exact ⟨_, .digits id vs hvs, hseen⟩

lemma AtDesc.Scans.congr (h : desc.Scans seen) (hidx : d.ipdIdx = desc.ipdIdx) (hstat : d.ipdStat = desc.ipdStat)
    (hlen : d.ipdLen = desc.ipdLen) (hconn : ¬desc.ipdIdx < 7 → d.currentConn = desc.currentConn) : d.Scans seen := by
  cases h with
  | seeking hseeks hno =>
    exact .seeking ⟨hidx ▸ hseeks.idx, hidx ▸ hseeks.tracks, hlen.trans hseeks.len⟩ hno
  | conn hidx' hstat' hlen' hseen => exact .conn (hidx.trans hidx') (hstat.trans hstat') (hlen.trans hlen') hseen
  | comma id hidx' hstat' hlen' hconn' hseen =>
    refine .comma id (hidx.trans hidx') (hstat.trans hstat') (hlen.trans hlen') ?_ hseen
    rw [hconn (by rw [hidx']; decide)]
    exact hconn'
  | digits id vs hvs hidx' hstat' hlen' hconn' hseen =>
    have hge : ¬desc.ipdIdx < 7 := by
      rw [UInt8.lt_iff_toNat_lt, hidx']
      change ¬9 + vs.length < 7
      omega
    refine .digits id vs hvs (by rw [hidx, hidx']) (hstat.trans hstat') (by rw [hlen, hlen']) ?_ hseen
    rw [hconn hge]
    exact hconn'

lemma HeaderStart.not_lineFeed (h : HeaderStart p) : ¬p <:+ seen ++ [10] := by
  intro hsuffix
  have hlast : p.getLast? = some 10 := by
    obtain ⟨t, ht⟩ := hsuffix
    obtain ⟨c, rfl, -⟩ := h.shape
    have hne : (13 :: c) ≠ [] := List.cons_ne_nil _ _
    rw [List.getLast?_eq_some_getLast hne, ← List.getLast_append_of_right_ne_nil t _ hne]
    simp only [ht, List.getLast_append_singleton]
  cases h with
  | ipd => exact absurd hlast (by decide)
  | conn id =>
    rw [List.getLast?_append_of_ne_nil _ (by simp), List.getLast?_singleton, Option.some.injEq] at hlast
    exact (digit_inner id.val (id_lt_ten id)).2.1 hlast
  | digits id vs hvs =>
    rcases List.eq_nil_or_concat vs with rfl | ⟨init, v, rfl⟩
    · simp [headerBytes] at hlast
    · rw [headerBytes, List.concat_eq_append, List.map_append, ← List.append_assoc, List.map_singleton,
        List.getLast?_append_of_ne_nil _ (by simp), List.getLast?_singleton, Option.some.injEq] at hlast
      exact (digit_inner v (hvs v (by simp))).2.1 hlast

lemma AtDesc.Scans.sameIpd (h : desc.Scans (seen ++ [ch])) (hidx : d.ipdIdx = desc.ipdIdx)
    (hstat : d.ipdStat = desc.ipdStat) (hlen : d.ipdLen = desc.ipdLen)
    (hconn : ch ≠ 10 → d.currentConn = desc.currentConn) : d.Scans (seen ++ [ch]) := by
  apply h.congr hidx hstat hlen
  intro hge
  apply hconn
  rintro rfl
  obtain ⟨p, hp, hsuffix⟩ := h.not_lt_cases hge
  exact hp.not_lineFeed hsuffix

lemma suffix_concat_of_suffix (h : p <:+ seen) (ch : UInt8) : p ++ [ch] <:+ seen ++ [ch] := by
  obtain ⟨t, rfl⟩ := h
  exact ⟨t, (List.append_assoc t p [ch]).symm⟩

lemma HeaderStart.next (hp : HeaderStart p) (h : HeaderStart (p ++ [ch])) :
    p.length = 7 ∧ (∃ id : Fin MAX_CONNECTIONS, ch = digit id) ∨ p.length = 8 ∧ ch = 44 ∨
      9 ≤ p.length ∧ ∃ v < 10, ch = digit v := by
  have hlen := hp.headUnique.2.2
  generalize hq : p ++ [ch] = q at h
  cases h with
  | ipd =>
    have := congrArg List.length hq
    simp [atIpd] at this
    omega
  | conn id =>
    obtain ⟨rfl, hch⟩ := List.append_inj' hq rfl
    exact .inl ⟨rfl, id, List.singleton_inj.mp hch⟩
  | digits id vs hvs =>
    rcases List.eq_nil_or_concat vs with rfl | ⟨init, v, rfl⟩
    · have heq : headerBytes id [] = (atIpd ++ [digit id]) ++ [44] := by simp [headerBytes]
      obtain ⟨rfl, hch⟩ := List.append_inj' (hq.trans heq) rfl
      exact .inr (.inl ⟨rfl, List.singleton_inj.mp hch⟩)
    · have heq : headerBytes id (init.concat v) = headerBytes id init ++ [digit v] := by simp [headerBytes]
      obtain ⟨rfl, hch⟩ := List.append_inj' (hq.trans heq) rfl
      refine .inr (.inr ⟨?_, v, hvs v (by simp), List.singleton_inj.mp hch⟩)
      simp [headerBytes, atIpd]

lemma digit_range : ∀ v < 10, ¬(digit v < 48 ∨ digit v > 57) ∧ (digit v).toNat - 48 = v ∧
    (digit v).toUInt32 - 48 = UInt32.ofNat v := by decide

lemma eq_digit_of_range {hi : ℕ} (hhi : hi < 10) (h : ¬(ch < 48 ∨ ch > UInt8.ofNat (48 + hi))) :
    ∃ v ≤ hi, ch = digit v := by
  have hall : ∀ n < 10, digit n = UInt8.ofNat (n + 48) := by decide
  have hmax : (UInt8.ofNat (48 + hi)).toNat = 48 + hi := by
    rw [UInt8.toNat_ofNat']
    lia
  rw [not_or, UInt8.lt_iff_toNat_lt, gt_iff_lt, UInt8.lt_iff_toNat_lt, hmax] at h
  have hlo : 48 ≤ ch.toNat := Nat.not_lt.mp h.1
  refine ⟨ch.toNat - 48, by lia, ?_⟩
  rw [hall (ch.toNat - 48) (by lia), Nat.sub_add_cancel hlo, UInt8.ofNat_toNat]

lemma AtDesc.Scans.reset (hp : HeaderStart p) (hseen : p <:+ seen) (hcr : ch ≠ 13) (hno : ¬HeaderStart (p ++ [ch])) :
    desc.resetIpd.Scans (seen ++ [ch]) := by
  obtain ⟨htracks, hnone⟩ := hp.reset hseen hcr hno
  exact .seeking ⟨(by decide : (0 : UInt8) < 7), htracks, rfl⟩ hnone

/-- Before the end of a `+IPD,` -/
lemma AtDesc.Seeks.scans (hseeks : desc.Seeks seen) (hno : ∀ p, HeaderStart p → ¬p <:+ seen)
    (hmul : desc.multipleConections = true) {hit : Bool} (hd : isPayloadMessage desc ch = .ok (hit, d)) :
    d.Scans (seen ++ [ch]) ∧ hit = false := by
  obtain ⟨d', hd', hmiss, hend⟩ := hseeks.byte hmul ch
  rw [hd, Except.ok.injEq, Prod.mk.injEq] at hd'
  obtain ⟨rfl, rfl⟩ := hd'
  refine ⟨?_, rfl⟩
  by_cases hipd : atIpd <:+ seen ++ [ch]
  · obtain ⟨hidx, hstat, hlen⟩ := hend hipd
    exact .conn hidx hstat hlen hipd
  · refine .seeking (hmiss hipd) fun q hq hsuffix => ?_
    rcases hq.pred hsuffix with rfl | ⟨p, hp, hseen, -⟩
    · exact hipd hsuffix
    · exact hno p hp hseen

/-- The byte behind `+IPD,` is the id of a connection, or the matcher starts again. -/
lemma AtDesc.scans_conn (hidx : desc.ipdIdx = 7) (hstat : desc.ipdStat = .raedingConn) (hlen : desc.ipdLen = 0)
    (hseen : atIpd <:+ seen) (hok : desc.HeaderAccepts ch) {hit : Bool} (hd : isPayloadMessage desc ch = .ok (hit, d)) :
    d.Scans (seen ++ [ch]) ∧ hit = false := by
  have hge : ¬desc.ipdIdx < 7 := by
    rw [hidx]
    decide
  obtain ⟨hcr, hfour, -⟩ := hok hge
  unfold isPayloadMessage at hd
  rw [if_neg hge, hstat] at hd
  dsimp only at hd
  by_cases hch : ch < 48 ∨ ch > 52
  · rw [if_pos hch] at hd
    obtain ⟨rfl, rfl⟩ := Prod.mk.inj (Except.ok.inj hd)
    refine ⟨.reset .ipd hseen hcr fun hnext => ?_, rfl⟩
    rcases HeaderStart.ipd.next hnext with ⟨-, id, rfl⟩ | ⟨hlen8, -⟩ | ⟨hlen9, -⟩
    · have hall : ∀ id : Fin MAX_CONNECTIONS, ¬(digit id < 48 ∨ digit id > 52) := by decide
      exact hall id hch
    · exact absurd hlen8 (by decide)
    · exact absurd hlen9 (by decide)
  · rw [if_neg hch] at hd
    obtain ⟨rfl, rfl⟩ := Prod.mk.inj (Except.ok.inj hd)
    obtain ⟨v, hv, rfl⟩ := @eq_digit_of_range ch 4 (by decide) hch
    have hne : v ≠ 4 := by
      rintro rfl
      exact hfour hstat rfl
    refine ⟨.comma ⟨v, by unfold MAX_CONNECTIONS; lia⟩ ?_ rfl hlen ?_ (suffix_concat_of_suffix hseen _), rfl⟩
    · change desc.ipdIdx + 1 = 8
      rw [hidx]
      rfl
    · have hall : ∀ v (h : v < 4), connIndex (((digit v).toNat : Int) - 48) = .ok ⟨v, h⟩ := by decide
      exact hall v (by lia)

/-- The byte behind the id is a comma, or the matcher starts again. -/
lemma AtDesc.scans_comma (hidx : desc.ipdIdx = 8) (hstat : desc.ipdStat = .waitingComma) (hlen : desc.ipdLen = 0)
    (hconn : connIndex desc.currentConn = .ok id) (hseen : atIpd ++ [digit id] <:+ seen) (hok : desc.HeaderAccepts ch)
    {hit : Bool} (hd : isPayloadMessage desc ch = .ok (hit, d)) : d.Scans (seen ++ [ch]) ∧ hit = false := by
  have hge : ¬desc.ipdIdx < 7 := by
    rw [hidx]
    decide
  obtain ⟨hcr, -, -⟩ := hok hge
  unfold isPayloadMessage at hd
  rw [if_neg hge, hstat] at hd
  dsimp only at hd
  by_cases hch : ch ≠ 44
  · rw [if_pos hch] at hd
    obtain ⟨rfl, rfl⟩ := Prod.mk.inj (Except.ok.inj hd)
    refine ⟨.reset (.conn id) hseen hcr fun hnext => ?_, rfl⟩
    rcases (HeaderStart.conn id).next hnext with ⟨hlen7, -⟩ | ⟨-, hcomma⟩ | ⟨hlen9, -⟩
    · exact absurd hlen7 (by simp [atIpd])
    · exact hch hcomma
    · exact absurd hlen9 (by simp [atIpd])
  · rw [if_neg hch] at hd
    obtain ⟨rfl, rfl⟩ := Prod.mk.inj (Except.ok.inj hd)
    obtain rfl := not_not.mp hch
    refine ⟨.digits id [] (by simp) ?_ rfl ?_ hconn ?_, rfl⟩
    · change (desc.ipdIdx + 1).toNat = 9
      rw [hidx]
      rfl
    · change desc.ipdLen.toNat = 0
      rw [hlen]
      rfl
    · have heq : headerBytes id [] = (atIpd ++ [digit id]) ++ [44] := by simp [headerBytes]
      rw [heq]
      exact suffix_concat_of_suffix hseen _

/-- What is no digit ends the length. -/
lemma AtDesc.Scans.reset_digits (hvs : ∀ v ∈ vs, v < 10) (hseen : headerBytes id vs <:+ seen) (hcr : ch ≠ 13)
    (hch : ch < 48 ∨ ch > 57) : desc.resetIpd.Scans (seen ++ [ch]) := by
  refine .reset (.digits id vs hvs) hseen hcr fun hnext => ?_
  have hlong : 9 ≤ (headerBytes id vs).length := by simp [headerBytes, atIpd]
  rcases (HeaderStart.digits id vs hvs).next hnext with ⟨hlen7, -⟩ | ⟨hlen8, -⟩ | ⟨-, v, hv, rfl⟩
  · omega
  · omega
  · exact (digit_range v hv).1 hch

/-- The bytes behind the comma are the digits of the length. -/
lemma AtDesc.scans_digits (hvs : ∀ v ∈ vs, v < 10) (hidx : desc.ipdIdx.toNat = 9 + vs.length)
    (hstat : desc.ipdStat = .readingLen) (hlen : desc.ipdLen.toNat = digitsValue vs)
    (hconn : connIndex desc.currentConn = .ok id) (hseen : headerBytes id vs <:+ seen) (hok : desc.HeaderAccepts ch)
    {hit : Bool} (hd : isPayloadMessage desc ch = .ok (hit, d)) :
    d.Scans (seen ++ [ch]) ∧ (hit = true → d.ipdIdx < 7) := by
  have hge : ¬desc.ipdIdx < 7 := by
    rw [UInt8.lt_iff_toNat_lt, hidx]
    change ¬9 + vs.length < 7
    omega
  obtain ⟨hcr, -, hroom⟩ := hok hge
  unfold isPayloadMessage at hd
  rw [if_neg hge, hstat] at hd
  dsimp only at hd
  by_cases hch : ch < 48 ∨ ch > 57
  · rw [if_pos hch] at hd
    by_cases hend : ch = 58 ∧ desc.ipdLen > 0
    · rw [if_pos hend, hconn] at hd
      obtain ⟨rfl, rfl⟩ := Prod.mk.inj (Except.ok.inj hd)
      exact ⟨.reset_digits hvs hseen hcr hch, fun _ => (by decide : (0 : UInt8) < 7)⟩
    · rw [if_neg hend] at hd
      obtain ⟨rfl, rfl⟩ := Prod.mk.inj (Except.ok.inj hd)
      exact ⟨.reset_digits hvs hseen hcr hch, nofun⟩
  · rw [if_neg hch] at hd
    obtain ⟨rfl, rfl⟩ := Prod.mk.inj (Except.ok.inj hd)
    obtain ⟨v, hv, rfl⟩ := @eq_digit_of_range ch 9 (by decide) hch
    obtain ⟨hrange, hsub, hvalue⟩ := digit_range v (by lia)
    rw [not_or, UInt8.not_lt, gt_iff_lt, UInt8.not_lt] at hrange
    obtain ⟨hfull, hfits⟩ := hroom hstat hrange.1 hrange.2
    rw [hsub] at hfits
    refine ⟨.digits id (vs ++ [v]) ?_ ?_ rfl ?_ hconn ?_, nofun⟩
    · intro u hu
      rcases List.mem_append.mp hu with hu | hu
      · exact hvs u hu
      · rw [List.mem_singleton.mp hu]
        lia
    · change (desc.ipdIdx + 1).toNat = _
      have hne : desc.ipdIdx.toNat ≠ 255 := fun hc => hfull (UInt8.toNat_inj.mp hc)
      have hlt := desc.ipdIdx.toNat_lt
      rw [UInt8.toNat_add, List.length_append, List.length_singleton, ← Nat.add_assoc, ← hidx, UInt8.toNat_one]
      lia
    · change (desc.ipdLen * 10 + ((digit v).toUInt32 - 48)).toNat = _
      have hvalue' : digitsValue (vs ++ [v]) = digitsValue vs * 10 + v := by
        rw [digitsValue, List.foldl_append]
        rfl
      rw [hvalue, hvalue', ← hlen, UInt32.toNat_add, UInt32.toNat_mul, UInt32.toNat_ofNat']
      change (desc.ipdLen.toNat * 10 % 2 ^ 32 + v % 2 ^ 32) % 2 ^ 32 = _
      lia
    · have heq : headerBytes id (vs ++ [v]) = headerBytes id vs ++ [digit v] := by simp [headerBytes]
      rw [heq]
      exact suffix_concat_of_suffix hseen _

lemma AtDesc.Scans.byte (h : desc.Scans seen) (hmul : desc.multipleConections = true) (hok : desc.HeaderAccepts ch)
    {hit : Bool} (hd : isPayloadMessage desc ch = .ok (hit, d)) :
    d.Scans (seen ++ [ch]) ∧ (hit = true → d.ipdIdx < 7) := by
  cases h with
  | seeking hseeks hno =>
    obtain ⟨hscans, rfl⟩ := hseeks.scans hno hmul hd
    exact ⟨hscans, nofun⟩
  | conn hidx hstat hlen hseen =>
    obtain ⟨hscans, rfl⟩ := scans_conn hidx hstat hlen hseen hok hd
    exact ⟨hscans, nofun⟩
  | comma id hidx hstat hlen hconn hseen =>
    obtain ⟨hscans, rfl⟩ := scans_comma hidx hstat hlen hconn hseen hok hd
    exact ⟨hscans, nofun⟩
  | digits id vs hvs hidx hstat hlen hconn hseen => exact scans_digits hvs hidx hstat hlen hconn hseen hok hd

lemma isAsyncMessages_currentConn {r : Bool} (h : isAsyncMessages desc ch = .ok (r, d)) (hlf : ch ≠ 10) :
    d.currentConn = desc.currentConn := by
  unfold isAsyncMessages at h
  split at h
  · exact absurd h nofun
  · rename_i i idxs hmatch
    dsimp only at h
    split at h
    · obtain ⟨idx, idx', rest, -, -, hhit⟩ := matchFirst_zero hmatch
      obtain ⟨hget, rfl, hend⟩ := matchMessage_hit hhit
      have hidx : idx.toNat = 7 := by
        rw [UInt8.toNat_add, UInt8.toNat_one] at hend
        change (idx.toNat + 1) % 256 = 8 at hend
        have := idx.toNat_lt
        lia
      rw [hidx] at hget
      exact absurd (Option.some.inj hget).symm hlf
    all_goals
      obtain ⟨-, rfl⟩ := Prod.mk.inj (Except.ok.inj h)
      rfl

namespace HeaderSession

structure Inv (s : HeaderSession) : Prop where
  scans : s.sys.desc.Scans s.seen
  multiple : s.sys.desc.multipleConections = true
  payload : s.sys.desc.callbackOperation = .readingPayload → s.sys.desc.ipdIdx < 7

variable {s : HeaderSession} {sys sys' : AtSystem} {newCb : Option CbRef}

lemma Inv.recognises (h : s.Inv) : s.Recognises := by
  intro ch c _
  have hscans : AtDesc.Scans { s.sys.desc with readCh := c } s.seen := h.scans.congr rfl rfl rfl fun _ => rfl
  exact hscans.recognises h.multiple c

lemma inv_readingResponses (h : sys.desc.Scans seen) (hmul : sys.desc.multipleConections = true)
    (hop : sys.desc.callbackOperation ≠ .readingPayload) (hok : sys.desc.HeaderAccepts sys.desc.readCh)
    (hs : readingResponses sys newCb = .ok sys') : Inv ⟨sys', seen ++ [sys.desc.readCh]⟩ := by
  unfold readingResponses at hs
  split at hs
  · exact absurd hs nofun
  · rename_i d hd
    obtain ⟨hscans, hhit⟩ := h.byte hmul hok hd
    have hmul' := (isPayloadMessage_same hd).multipleConections
    obtain ⟨i, conn, -, hdesc, -⟩ := startConnRead_ok hs
    constructor
    · dsimp only
      rw [hdesc]
      exact hscans.congr rfl rfl rfl fun _ => rfl
    · dsimp only
      rw [hdesc]
      exact hmul'.trans hmul
    · dsimp only
      rw [hdesc]
      exact fun _ => hhit rfl
  · rename_i d hd
    obtain ⟨hscans, -⟩ := h.byte hmul hok hd
    have hsame := isPayloadMessage_same hd
    have hmul' := hsame.multipleConections
    have hop' := hsame.callbackOperation
    have hread := hsame.readCh
    have hop'' : d.callbackOperation ≠ .readingPayload := by
      rw [hop']
      exact hop
    split at hs
    · obtain rfl := Except.ok.inj hs
      exact ⟨hscans.congr rfl rfl rfl fun _ => rfl, hmul'.trans hmul, nofun⟩
    · split at hs
      · obtain rfl := Except.ok.inj hs
        exact ⟨hscans.congr rfl rfl rfl fun _ => rfl, hmul'.trans hmul, fun hc => absurd hc hop''⟩
      · have hasync : ∀ {r e}, isAsyncMessages d d.readCh = .ok (r, e) → ∀ e' : AtDesc, e'.ipdIdx = e.ipdIdx →
            e'.ipdStat = e.ipdStat → e'.ipdLen = e.ipdLen → e'.currentConn = e.currentConn →
            e'.Scans (seen ++ [sys.desc.readCh]) := by
          intro r e he e' hidx hstat hlen hconn
          have hsame := isAsyncMessages_sameIpd he
          apply hscans.sameIpd (hidx.trans hsame.ipdIdx) (hstat.trans hsame.ipdStat) (hlen.trans hsame.ipdLen)
          intro hlf
          rw [← hread] at hlf
          exact hconn.trans (isAsyncMessages_currentConn he hlf)
        split at hs
        · exact absurd hs nofun
        · rename_i e he
          have hsame := isAsyncMessages_sameIpd he
          obtain rfl := Except.ok.inj hs
          refine ⟨hasync he _ rfl rfl rfl rfl, hsame.multipleConections.trans (hmul'.trans hmul), fun hc => ?_⟩
          exact absurd (hsame.callbackOperation.symm.trans hc) hop''
        · rename_i e he
          have hsame := isAsyncMessages_sameIpd he
          split at hs
          · exact absurd hs nofun
          · rename_i e' he'
            obtain ⟨-, rfl⟩ := AtDesc.append_ok he'
            obtain rfl := Except.ok.inj hs
            refine ⟨hasync he _ rfl rfl rfl rfl, hsame.multipleConections.trans (hmul'.trans hmul), fun hc => ?_⟩
            exact absurd (hsame.callbackOperation.symm.trans hc) hop''

lemma inv_readingPayload (h : sys.desc.Scans seen) (hmul : sys.desc.multipleConections = true)
    (hidx : sys.desc.ipdIdx < 7) (hs : readingPayload sys = .ok sys') : Inv ⟨sys', seen⟩ := by
  unfold readingPayload at hs
  split at hs
  · exact absurd hs nofun
  · rename_i mid hmid
    have hdesc := (endConnRead_ok hmid).1
    split at hs
    · exact absurd hs nofun
    · split at hs
      · obtain rfl := Except.ok.inj hs
        rw [hdesc]
        exact ⟨h.congr rfl rfl rfl fun hge => absurd hidx hge, hmul, nofun⟩
      · obtain ⟨i, conn, -, hdesc', -⟩ := startConnRead_ok hs
        rw [hdesc] at hdesc'
        constructor
        · dsimp only
          rw [hdesc']
          exact h.congr rfl rfl rfl fun _ => rfl
        · dsimp only
          rw [hdesc']
          exact hmul
        · dsimp only
          rw [hdesc']
          exact fun _ => hidx

lemma inv_resettingModule (h : sys.desc.Scans seen) (hmul : sys.desc.multipleConections = true)
    (hop : sys.desc.callbackOperation = .resettingModule) (hs : resettingModule sys = .ok sys') : Inv ⟨sys', seen⟩ := by
  unfold resettingModule at hs
  split at hs
  · exact absurd hs nofun
  · rename_i hit idx hmatch
    obtain rfl := Except.ok.inj hs
    refine ⟨h.congr rfl rfl rfl fun _ => rfl, hmul, fun hc => ?_⟩
    change (if hit = true then CallbackOperation.readingResponses else _) = CallbackOperation.readingPayload at hc
    cases hit with
    | true => exact absurd hc nofun
    | false =>
      rw [if_neg Bool.false_ne_true, hop] at hc
      exact absurd hc nofun

lemma Inv.receive (h : s.Inv) {p : UInt8 × Option CbRef} (hok : s.Allowed p) (hs : uartReceive s.sys p.1 p.2 = .ok sys') :
    Inv ⟨sys', s.seen ++ (s.sys.interprets p.1).toList⟩ := by
  have hdesc := uartStore_desc s.sys p.1
  have hscans : (uartStore s.sys p.1).desc.Scans s.seen := by
    rw [hdesc]
    exact h.scans.congr rfl rfl rfl fun _ => rfl
  have hmul : (uartStore s.sys p.1).desc.multipleConections = true := by
    rw [hdesc]
    exact h.multiple
  have hpayload : (uartStore s.sys p.1).desc.callbackOperation = .readingPayload →
      (uartStore s.sys p.1).desc.ipdIdx < 7 := by
    rw [hdesc]
    exact h.payload
  have hop : (uartStore s.sys p.1).desc.callbackOperation = s.sys.desc.callbackOperation := by
    rw [hdesc]
  unfold uartReceive at hs
  split at hs
  · rename_i hzero
    rw [uartStore_len] at hzero
    have hone : s.sys.uartLen = 1 := by
      have := congrArg (· + 1) hzero
      simpa using this
    have hread : (s.sys.desc.callbackOperation = .readingResponses ∨ s.sys.desc.callbackOperation = .waitingSend) →
        readingResponses (uartStore s.sys p.1) p.2 = .ok sys' →
        Inv ⟨sys', s.seen ++ (s.sys.interprets p.1).toList⟩ := by
      intro hmode hres
      have hint : s.sys.interprets p.1 = some (uartStore s.sys p.1).desc.readCh := by
        rw [hdesc]
        exact if_pos ⟨hone, hmode⟩
      have hacc : (uartStore s.sys p.1).desc.HeaderAccepts (uartStore s.sys p.1).desc.readCh := by
        unfold Allowed at hok
        rw [hint, Option.all_some, decide_eq_true_eq] at hok
        rw [hdesc] at hok ⊢
        exact hok
      have hnot : (uartStore s.sys p.1).desc.callbackOperation ≠ .readingPayload := by
        rw [hop]
        rcases hmode with hm | hm
        · rw [hm]
          nofun
        · rw [hm]
          nofun
      rw [hint, Option.toList_some]
      exact inv_readingResponses hscans hmul hnot hacc hres
    have hnone : ¬(s.sys.desc.callbackOperation = .readingResponses ∨ s.sys.desc.callbackOperation = .waitingSend) →
        s.seen ++ (s.sys.interprets p.1).toList = s.seen := by
      intro hmode
      have hint : s.sys.interprets p.1 = none := if_neg fun hc => hmode hc.2
      rw [hint, Option.toList_none, List.append_nil]
    unfold atCallback at hs
    dsimp only at hs
    cases hm : s.sys.desc.callbackOperation with
    | readingResponses =>
      rw [hop, hm] at hs
      exact hread (.inl hm) hs
    | waitingSend =>
      rw [hop, hm] at hs
      exact hread (.inr hm) hs
    | readingPayload =>
      rw [hnone (by rw [hm]; decide)]
      have hlt := hpayload (hop.trans hm)
      rw [hop, hm] at hs
      exact inv_readingPayload hscans hmul hlt hs
    | resettingModule =>
      rw [hnone (by rw [hm]; decide)]
      rw [hop, hm] at hs
      exact inv_resettingModule hscans hmul (hop.trans hm) hs
  · rename_i hmore
    have hint : s.sys.interprets p.1 = none := by
      apply if_neg
      rintro ⟨hone, -⟩
      apply hmore
      rw [uartStore_len, hone]
      rfl
    obtain rfl := Except.ok.inj hs
    rw [hint, Option.toList_none, List.append_nil]
    exact ⟨hscans, hmul, hpayload⟩

end HeaderSession

/-- In multiple mode a header is recognised at its ':' in every stream of responses, whatever comes before it, if each
byte is accepted by the header that it comes in. -/
theorem frame_recognition {sys : AtSystem} (hmul : sys.desc.multipleConections = true) (hidx : sys.desc.ipdIdx = 0)
    (hlen : sys.desc.ipdLen = 0) {stream : List (UInt8 × Option CbRef)}
    (hok : Trace.Guarded (Trace.orFault HeaderSession.step) (Trace.untilFault HeaderSession.Allowed) (.ok ⟨sys, []⟩) stream) :
    Trace.Always (Trace.orFault HeaderSession.step) (Trace.Unless (fun _ => True) HeaderSession.Recognises)
      (.ok ⟨sys, []⟩) stream := by
  have hstart : HeaderSession.Inv ⟨sys, []⟩ := by
    have hlt : sys.desc.ipdIdx < 7 := by
      rw [hidx]
      decide
    refine ⟨.seeking ⟨hlt, ?_, hlen⟩ fun p hp hseen => ?_, hmul, fun _ => hlt⟩
    · rw [hidx]
      exact .nil _
    · have hlong := hp.headUnique.2.2
      rw [List.suffix_nil.mp hseen] at hlong
      exact absurd hlong (by decide)
  have hinv := hok.unless (F := fun _ => True) hstart fun s p hs hp => by
    unfold HeaderSession.step
    split
    · rename_i sys' hres
      exact hs.receive hp hres
    · trivial
  refine hinv.mono fun r hr => ?_
  cases r with
  | ok s => exact hr.recognises
  | error f => trivial

/-- `"x\r\r\n+IPD,2,03:abc\r\n+IPD,0,"`: a header with its payload, and one that has just begun. -/
theorem frame_recognition_at : Trace.Always (Trace.orFault HeaderSession.step)
    (Trace.Unless (fun _ => True) HeaderSession.Recognises) (.ok ⟨{ desc := { multipleConections := true } }, []⟩)
    ([120, 13, 13, 10, 43, 73, 80, 68, 44, 50, 44, 48, 51, 58, 97, 98, 99, 13, 10, 43, 73, 80, 68, 44, 48, 44].map
      fun ch => (ch, none)) :=
  frame_recognition rfl rfl rfl (by decide +kernel)

/-- `"\r\n+IPD,\r\n+IPD,0,5"`, where the second header is missed, `"\r\n+IPD,4,5"`, which is taken for connection 4,
and `"\r\n+IPD,0,4294967297"`, which is taken for one byte. -/
theorem frame_not_recognised : [atIpd ++ atIpd ++ [48, 44, 53], atIpd ++ [52, 44, 53],
      atIpd ++ [48, 44, 52, 50, 57, 52, 57, 54, 55, 50, 57, 55]].Forall fun bytes =>
    ¬Trace.Always (Trace.orFault HeaderSession.step) (Trace.Unless (fun _ => True) HeaderSession.Recognises)
      (.ok ⟨{ desc := { multipleConections := true } }, []⟩) (bytes.map fun ch => (ch, none)) := by
  rw [List.forall_iff_forall_mem]
  intro bytes hbytes h
  have hlast := h.last
  simp only [List.mem_cons, List.not_mem_nil, or_false] at hbytes
  rcases hbytes with rfl | rfl | rfl
  · obtain ⟨s, hs, hint, hpay, hseen⟩ : ∃ s, Trace.run (Trace.orFault HeaderSession.step)
        (.ok ⟨{ desc := { multipleConections := true } }, []⟩)
        ((atIpd ++ atIpd ++ [48, 44, 53]).map fun ch => (ch, none)) = .ok s ∧ s.sys.interprets 58 = some 58 ∧
        (isPayloadMessage { s.sys.desc with readCh := 58 } 58).toOption.map Prod.fst = some false ∧
        s.seen = atIpd ++ atIpd ++ [48, 44, 53] := ⟨_, rfl, rfl, rfl, rfl⟩
    rw [hs] at hlast
    obtain ⟨hit, d, hd, hiff, -⟩ := hlast 58 58 hint
    rw [hd] at hpay
    have hhit := hiff.mpr ⟨⟨0, by decide⟩, 5, by decide, [5], by decide, rfl, atIpd, by rw [hseen]; rfl⟩
    rw [hhit] at hpay
    exact absurd (Option.some.inj hpay) nofun
  · obtain ⟨s, hs, hint, hpay⟩ : ∃ s, Trace.run (Trace.orFault HeaderSession.step)
        (.ok ⟨{ desc := { multipleConections := true } }, []⟩)
        ((atIpd ++ [52, 44, 53]).map fun ch => (ch, none)) = .ok s ∧ s.sys.interprets 58 = some 58 ∧
        isPayloadMessage { s.sys.desc with readCh := 58 } 58 = .error .connIndex := ⟨_, rfl, rfl, rfl⟩
    rw [hs] at hlast
    obtain ⟨hit, d, hd, -⟩ := hlast 58 58 hint
    rw [hpay] at hd
    exact absurd hd nofun
  · obtain ⟨s, hs, hint, hpay, hseen⟩ : ∃ s, Trace.run (Trace.orFault HeaderSession.step)
        (.ok ⟨{ desc := { multipleConections := true } }, []⟩)
        ((atIpd ++ [48, 44, 52, 50, 57, 52, 57, 54, 55, 50, 57, 55]).map fun ch => (ch, none)) = .ok s ∧
        s.sys.interprets 58 = some 58 ∧
        (isPayloadMessage { s.sys.desc with readCh := 58 } 58).toOption.map (fun r => (r.2.conn ⟨0, by decide⟩).toRead) = some 1 ∧
        s.seen = atIpd ++ [48, 44, 52, 50, 57, 52, 57, 54, 55, 50, 57, 55] := ⟨_, rfl, rfl, rfl, rfl⟩
    rw [hs] at hlast
    obtain ⟨hit, d, hd, -, hread⟩ := hlast 58 58 hint
    rw [hd] at hpay
    have hlong := hread ⟨0, by decide⟩ 4294967297 ⟨by decide, [4, 2, 9, 4, 9, 6, 7, 2, 9, 7], by decide, rfl, [], by rw [hseen]; rfl⟩
    have hone : (d.conn ⟨0, by decide⟩).toRead = 1 := Option.some.inj hpay
    rw [hone] at hlong
    exact absurd hlong (by decide)

end NoOS
