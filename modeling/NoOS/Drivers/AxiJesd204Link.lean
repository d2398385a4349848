import NoOS.Drivers.AxiJesd204
import NoOS.Lib.BitField
import NoOS.Lib.Word

/-!
# The configuration of a link

Transmitters and receivers check that a multiframe is a multiple of the width of the data path. They check no
factor for 0, nor the width by which a multiframe is divided into beats.
-/

namespace NoOS

/-- The multiframe of a configuration, in octets. -/
def octetsPerMultiframe (F K : UInt8) : UInt32 := K.toUInt32 * F.toUInt32

/-- A configuration that is refused. -/
def LinkRefused (encoder : Jesd204Encoder) (octets dataPathWidth : UInt32) : Prop :=
  (encoder = .B64B66 ∧ octets % 256 ≠ 0) ∨ (dataPathWidth ≠ 0 ∧ octets % dataPathWidth ≠ 0)

/-- A word that is written first to a register. -/
def writtenWord (out : Option (Int × RegWrites)) (reg : UInt32) : Option UInt32 := out.bind fun o => o.2.lookup reg

/-- Nothing is written, or the words are those of `F` octets in each of `K` frames. -/
def ValidOrRefused (F K : UInt8) (hasBeats : Prop) (tplDataPathWidth : UInt32) (out : Option (Int × RegWrites)) :
    Prop :=
  out = some (FAILURE, []) ∨ out.map Prod.fst = some SUCCESS ∧
    (∃ val, writtenWord out JESD204_TX_REG_CONF0 = some val ∧
      val.toNat % 2 ^ 16 + 1 = F.toNat * K.toNat ∧ val.toNat / 2 ^ 16 + 1 = F.toNat) ∧
    (hasBeats → ∃ beats, writtenWord out JESD204_TX_REG_LINK_CONF4 = some beats ∧
      (beats.toNat + 1) * tplDataPathWidth.toNat = F.toNat * K.toNat)

/-- The same decision, and the same two words. -/
def SameWords (out out' : Option (Int × RegWrites)) : Prop :=
  out.map Prod.fst = out'.map Prod.fst ∧
    writtenWord out JESD204_TX_REG_CONF0 = writtenWord out' JESD204_RX_REG_LINK_CONF0 ∧
    writtenWord out JESD204_TX_REG_LINK_CONF4 = writtenWord out' JESD204_RX_REG_LINK_CONF4

section Words

variable {F K : UInt8} {tpl : UInt32} {encoder : Jesd204Encoder} {octets dataPathWidth : UInt32}

lemma toNat_octets : (octetsPerMultiframe F K).toNat = F.toNat * K.toNat := by
  have hF := F.toNat_lt
  have hK := K.toNat_lt
  have hle : K.toNat * F.toNat ≤ 255 * 255 := Nat.mul_le_mul (by lia) (by omega)
  rw [octetsPerMultiframe, UInt32.toNat_mul, UInt8.toNat_toUInt32, UInt8.toNat_toUInt32,
    Nat.mod_eq_of_lt (by omega), Nat.mul_comm]

lemma confWord (hF : F ≠ 0) (hK : K ≠ 0) :
    ((octetsPerMultiframe F K - 1 : UInt32) ||| (lessOne F <<< 16)).toNat =
      (F.toNat - 1) * 2 ^ 16 + (F.toNat * K.toNat - 1) := by
  have hF' : 1 ≤ F.toNat := Nat.one_le_iff_ne_zero.mpr fun h => hF (UInt8.toNat_inj.mp h)
  have hK' : 1 ≤ K.toNat := Nat.one_le_iff_ne_zero.mpr fun h => hK (UInt8.toNat_inj.mp h)
  have hpos : 1 ≤ F.toNat * K.toNat := Nat.mul_le_mul hF' hK'
  have hle : F.toNat * K.toNat ≤ 255 * 255 := by
    have hF := F.toNat_lt
    have hK := K.toNat_lt
    exact Nat.mul_le_mul (by lia) (by lia)
  have hlow : (octetsPerMultiframe F K - 1).toNat = F.toNat * K.toNat - 1 := by
    rw [Word.toNat_sub_of_le (by rw [toNat_octets]; exact hpos), toNat_octets]
    rfl
  have hhigh : (lessOne F).toNat = F.toNat - 1 := Word.toNat_sub_of_le (by rw [UInt8.toNat_toUInt32]; exact hF')
  have hword := BitField.toNat_or_shiftLeft 16 (octetsPerMultiframe F K - 1) (lessOne F) (by decide)
    (by rw [hlow]; lia) (by rw [hhigh]; have := F.toNat_lt; lia)
  rw [UInt32.or_comm, ← hlow, ← hhigh]
  exact hword

/-- The beats are exact if and only if the width divides the multiframe: a quotient of 0 wraps. -/
lemma beats_iff (hpos : 0 < F.toNat * K.toNat) (htpl : tpl ≠ 0) :
    ((octetsPerMultiframe F K / tpl - 1).toNat + 1) * tpl.toNat = F.toNat * K.toNat ↔
      octetsPerMultiframe F K % tpl = 0 := by
  have htpl' : 0 < tpl.toNat := Nat.pos_of_ne_zero fun h => htpl (UInt32.toNat_inj.mp h)
  have hdiv : (octetsPerMultiframe F K / tpl).toNat = F.toNat * K.toNat / tpl.toNat := by
    rw [UInt32.toNat_div, toNat_octets]
  have hmod : octetsPerMultiframe F K % tpl = 0 ↔ F.toNat * K.toNat % tpl.toNat = 0 := by
    rw [← UInt32.toNat_inj, UInt32.toNat_mod, toNat_octets]
    rfl
  rw [hmod]
  by_cases hquot : octetsPerMultiframe F K / tpl = 0
  · have hlt : F.toNat * K.toNat < tpl.toNat := by
      rw [hquot] at hdiv
      exact (Nat.div_eq_zero_iff_lt htpl').mp hdiv.symm
    rw [hquot, Nat.mod_eq_of_lt hlt]
    constructor
    · intro heq
      have hwrap : ((0 - 1 : UInt32).toNat + 1) * tpl.toNat = 2 ^ 32 * tpl.toNat := rfl
      lia
    · omega
  · rw [Word.toNat_sub_one_add_one hquot, hdiv]
    constructor
    · intro heq
      rw [← heq, Nat.mul_mod_left]
    · exact fun hrest => Nat.div_mul_cancel (Nat.dvd_of_mod_eq_zero hrest)

/-- The checks, before a configuration is accepted. -/
def linkChecked (encoder : Jesd204Encoder) (octets dataPathWidth : UInt32) (accepted : Option (Int × RegWrites)) :
    Option (Int × RegWrites) :=
  if encoder = .B64B66 ∧ octets % 256 ≠ 0 then some (FAILURE, [])
  else (cMod octets dataPathWidth).bind fun rest => if rest ≠ 0 then some (FAILURE, []) else accepted

variable {accepted : Option (Int × RegWrites)}

lemma linkChecked_refused (h : LinkRefused encoder octets dataPathWidth) :
    linkChecked encoder octets dataPathWidth accepted = some (FAILURE, []) := by
  unfold linkChecked
  by_cases hblock : encoder = .B64B66 ∧ octets % 256 ≠ 0
  · rw [if_pos hblock]
  · obtain ⟨hwidth, hrest⟩ := h.resolve_left hblock
    rw [if_neg hblock, cMod, if_neg hwidth, Option.bind_some, if_pos hrest]

lemma linkChecked_zero (h : ¬LinkRefused encoder octets 0) : linkChecked encoder octets 0 accepted = none := by
  unfold linkChecked
  rw [if_neg (not_or.mp h).1]
  rfl

lemma linkChecked_accepted (h : ¬LinkRefused encoder octets dataPathWidth) (hwidth : dataPathWidth ≠ 0) :
    linkChecked encoder octets dataPathWidth accepted = accepted := by
  obtain ⟨hblock, hrest⟩ := not_or.mp h
  have hzero : octets % dataPathWidth = 0 := by
    by_contra hne
    exact hrest ⟨hwidth, hne⟩
  unfold linkChecked
  rw [if_neg hblock, cMod, if_neg hwidth, Option.bind_some, hzero, if_neg (not_not.mpr rfl)]

/-- What is written once the checks are passed: `none` if the multiframe is divided by 0. -/
structure LinkWords (F K : UInt8) (hasBeats : Prop) (tpl : UInt32) (out : Option (Int × RegWrites)) : Prop where
  byZero : hasBeats → tpl = 0 → out = none
  success : (hasBeats → tpl ≠ 0) → out.map Prod.fst = some SUCCESS
  conf0 : (hasBeats → tpl ≠ 0) → writtenWord out JESD204_TX_REG_CONF0 =
    some ((octetsPerMultiframe F K - 1 : UInt32) ||| (lessOne F <<< 16))
  beats : hasBeats → tpl ≠ 0 → writtenWord out JESD204_TX_REG_LINK_CONF4 =
    some (octetsPerMultiframe F K / tpl - 1)

/-- The parameters that are encoded without a wrap or a rest. -/
def LinkSound (F K : UInt8) (hasBeats : Prop) (tpl dataPathWidth : UInt32) : Prop :=
  dataPathWidth ≠ 0 ∧ F ≠ 0 ∧ K ≠ 0 ∧ (hasBeats → tpl ≠ 0 ∧ octetsPerMultiframe F K % tpl = 0)

variable {hasBeats : Prop}

lemma LinkWords.valid_iff (h : LinkWords F K hasBeats tpl accepted) :
    ValidOrRefused F K hasBeats tpl accepted ↔
      F ≠ 0 ∧ K ≠ 0 ∧ (hasBeats → tpl ≠ 0 ∧ octetsPerMultiframe F K % tpl = 0) := by
  by_cases hzero : hasBeats → tpl ≠ 0
  · have hsuccess := h.success hzero
    constructor
    · rintro (hrefuse | ⟨-, ⟨val, -, hlow, hhigh⟩, hbeats⟩)
      · rw [hrefuse] at hsuccess
        exact absurd (Option.some.inj hsuccess) (by decide)
      · have hpos : 0 < F.toNat * K.toNat := by lia
        refine ⟨?_, ?_, ?_⟩
        · rintro rfl
          exact Nat.lt_irrefl 0 (by rwa [UInt8.toNat_zero, Nat.zero_mul] at hpos)
        · rintro rfl
          exact Nat.lt_irrefl 0 (by rwa [UInt8.toNat_zero, Nat.mul_zero] at hpos)
        · intro hb
          obtain ⟨beats, hword, hmul⟩ := hbeats hb
          obtain rfl := Option.some.inj ((h.beats hb (hzero hb)).symm.trans hword)
          exact ⟨hzero hb, (beats_iff hpos (hzero hb)).mp hmul⟩
    · rintro ⟨hF, hK, hbeats⟩
      have hF' : 0 < F.toNat := Nat.pos_of_ne_zero fun h => hF (UInt8.toNat_inj.mp h)
      have hK' : 0 < K.toNat := Nat.pos_of_ne_zero fun h => hK (UInt8.toNat_inj.mp h)
      have hpos := Nat.mul_pos hF' hK'
      have hle : F.toNat * K.toNat ≤ 255 * 255 := by
        have hF := F.toNat_lt
        have hK := K.toNat_lt
        exact Nat.mul_le_mul (by omega) (by lia)
      refine Or.inr ⟨hsuccess, ⟨_, h.conf0 hzero, ?_, ?_⟩, ?_⟩
      · rw [confWord hF hK]
        lia
      · rw [confWord hF hK]
        lia
      · intro hb
        exact ⟨_, h.beats hb (hzero hb), (beats_iff hpos (hzero hb)).mpr (hbeats hb).2⟩
  · obtain ⟨hb, htpl⟩ := Classical.not_imp.mp hzero
    rw [h.byZero hb (not_not.mp htpl)]
    constructor
    · rintro (hrefuse | ⟨hsuccess, -⟩)
      · exact absurd hrefuse nofun
      · exact absurd hsuccess nofun
    · rintro ⟨-, -, hbeats⟩
      exact absurd (hbeats hb).1 htpl

lemma valid_linkChecked_iff (h : LinkWords F K hasBeats tpl accepted) :
    ValidOrRefused F K hasBeats tpl (linkChecked encoder (octetsPerMultiframe F K) dataPathWidth accepted) ↔
      LinkRefused encoder (octetsPerMultiframe F K) dataPathWidth ∨ LinkSound F K hasBeats tpl dataPathWidth := by
  by_cases hrefused : LinkRefused encoder (octetsPerMultiframe F K) dataPathWidth
  · rw [linkChecked_refused hrefused]
    exact iff_of_true (Or.inl rfl) (Or.inl hrefused)
  · by_cases hwidth : dataPathWidth = 0
    · rw [hwidth] at hrefused ⊢
      rw [linkChecked_zero hrefused]
      refine iff_of_false ?_ ?_
      · rintro (hrefuse | ⟨hsuccess, -⟩)
        · exact absurd hrefuse nofun
        · exact absurd hsuccess nofun
      · rintro (hcase | hsound)
        · exact hrefused hcase
        · exact hsound.1 rfl
    · rw [linkChecked_accepted hrefused hwidth, h.valid_iff]
      constructor
      · exact fun hsound => Or.inr ⟨hwidth, hsound⟩
      · exact fun hcase => (hcase.resolve_left hrefused).2

end Words

/-- The cores from these versions on have a register for the beats. -/
def TX_BEATS_VERSION : UInt32 := ADI_AXI_PCORE_VER 1 6 97
def RX_BEATS_VERSION : UInt32 := ADI_AXI_PCORE_VER 1 7 97

/-- The receiver with the parameters of a transmitter. -/
def AxiJesd204Tx.peer (jesd : AxiJesd204Tx) : AxiJesd204Rx where
  version := jesd.version
  dataPathWidth := jesd.dataPathWidth
  tplDataPathWidth := jesd.tplDataPathWidth
  encoder := jesd.encoder

def Jesd204TxConfig.peer (config : Jesd204TxConfig) (subclassVersion : UInt8) : Jesd204RxConfig where
  octetsPerFrame := config.octetsPerFrame
  framesPerMultiframe := config.framesPerMultiframe
  subclassVersion := subclassVersion

section Ends

variable {jesd : AxiJesd204Tx} {config : Jesd204TxConfig} {subclassVersion : UInt8} {octets val : UInt32}

def beatsWrites (hasBeats : Prop) [Decidable hasBeats] (octets tpl : UInt32) : Option RegWrites :=
  if hasBeats then (cDiv octets tpl).map fun q : UInt32 => [(JESD204_TX_REG_LINK_CONF4, q - 1)] else some []

/-- The writes of a configuration, with those before and after the two words. -/
def linkAccepted (hasBeats : Prop) [Decidable hasBeats] (F K : UInt8) (tpl : UInt32) (before after : RegWrites) :
    Option (Int × RegWrites) :=
  (beatsWrites hasBeats (octetsPerMultiframe F K) tpl).map fun beats =>
    (SUCCESS, before ++ (JESD204_TX_REG_CONF0, (octetsPerMultiframe F K - 1 : UInt32) ||| (lessOne F <<< 16)) ::
      beats ++ after)

def txSysref (config : Jesd204TxConfig) : RegWrites :=
  if config.subclassVersion = 0 then
    [(JESD204_TX_REG_SYSREF_CONF, JESD204_TX_REG_SYSREF_CONF_SYSREF_DISABLE)] else []

def txIlas (jesd : AxiJesd204Tx) (config : Jesd204TxConfig) : RegWrites :=
  if jesd.encoder = .B8B10 then
    (List.range jesd.numLanes.toNat).flatMap fun lane => axiJesd204TxSetLaneIlas config (UInt32.ofNat lane) else []

def rxSubclass (config : Jesd204RxConfig) : RegWrites :=
  if config.subclassVersion = 0 then
    [(JESD204_RX_REG_SYSREF_CONF, JESD204_RX_REG_SYSREF_CONF_SYSREF_DISABLE),
      (JESD204_RX_REG_LINK_CONF2, JESD204_RX_LINK_CONF2_BUFFER_EARLY_RELEASE)] else []

lemma txApplyConfig_eq : axiJesd204TxApplyConfig jesd config = linkChecked jesd.encoder
    (octetsPerMultiframe config.octetsPerFrame config.framesPerMultiframe) jesd.dataPathWidth
    (linkAccepted (jesd.version ≥ TX_BEATS_VERSION) config.octetsPerFrame config.framesPerMultiframe
      jesd.tplDataPathWidth (txSysref config) (txIlas jesd config)) := rfl

lemma rxApplyConfig_eq {jesd : AxiJesd204Rx} {config : Jesd204RxConfig} :
    axiJesd204RxApplyConfig jesd config = linkChecked jesd.encoder
      (octetsPerMultiframe config.octetsPerFrame config.framesPerMultiframe) jesd.dataPathWidth
      (linkAccepted (jesd.version ≥ RX_BEATS_VERSION) config.octetsPerFrame config.framesPerMultiframe
        jesd.tplDataPathWidth [] (rxSubclass config)) := rfl

variable {F K : UInt8} {tpl : UInt32} {hasBeats : Prop} [Decidable hasBeats] {before after : RegWrites}

lemma linkAccepted_byZero (hbeats : hasBeats) : linkAccepted hasBeats F K 0 before after = none := by
  unfold linkAccepted beatsWrites
  rw [if_pos hbeats]
  rfl

lemma linkAccepted_beats (hbeats : hasBeats) (htpl : tpl ≠ 0) : linkAccepted hasBeats F K tpl before after =
    some (SUCCESS, before ++ (JESD204_TX_REG_CONF0, (octetsPerMultiframe F K - 1 : UInt32) ||| (lessOne F <<< 16)) ::
      [(JESD204_TX_REG_LINK_CONF4, octetsPerMultiframe F K / tpl - 1)] ++ after) := by
  unfold linkAccepted beatsWrites
  rw [if_pos hbeats, cDiv, if_neg htpl]
  rfl

lemma linkAccepted_none (hbeats : ¬hasBeats) : linkAccepted hasBeats F K tpl before after =
    some (SUCCESS, before ++ (JESD204_TX_REG_CONF0, (octetsPerMultiframe F K - 1 : UInt32) ||| (lessOne F <<< 16)) ::
      [] ++ after) := by
  unfold linkAccepted beatsWrites
  rw [if_neg hbeats]
  rfl

lemma linkAccepted_words (hconf0 : before.lookup JESD204_TX_REG_CONF0 = none)
    (hconf4 : before.lookup JESD204_TX_REG_LINK_CONF4 = none) :
    LinkWords F K hasBeats tpl (linkAccepted hasBeats F K tpl before after) := by
  have hne : (JESD204_TX_REG_LINK_CONF4 == JESD204_TX_REG_CONF0) = false := by decide
  constructor
  · rintro hbeats rfl
    exact linkAccepted_byZero hbeats
  · intro hzero
    by_cases hbeats : hasBeats
    · rw [linkAccepted_beats hbeats (hzero hbeats)]
      rfl
    · rw [linkAccepted_none hbeats]
      rfl
  · intro hzero
    by_cases hbeats : hasBeats
    · rw [linkAccepted_beats hbeats (hzero hbeats), writtenWord, Option.bind_some, List.append_assoc,
        List.lookup_append, hconf0, Option.none_or, List.cons_append, List.lookup_cons, beq_self_eq_true]
    · rw [linkAccepted_none hbeats, writtenWord, Option.bind_some, List.append_assoc,
        List.lookup_append, hconf0, Option.none_or, List.cons_append, List.lookup_cons, beq_self_eq_true]
  · intro hbeats htpl
    rw [linkAccepted_beats hbeats htpl, writtenWord, Option.bind_some, List.append_assoc,
      List.lookup_append, hconf4, Option.none_or, List.cons_append, List.lookup_cons, hne, List.cons_append,
      List.lookup_cons, beq_self_eq_true]

lemma lookup_txSysref : (txSysref config).lookup JESD204_TX_REG_CONF0 = none ∧
    (txSysref config).lookup JESD204_TX_REG_LINK_CONF4 = none := by
  unfold txSysref
  split_ifs <;> decide

lemma rxAccepted_none {config : Jesd204RxConfig} (hbeats : ¬hasBeats) :
    writtenWord (linkAccepted hasBeats F K tpl [] (rxSubclass config)) JESD204_RX_REG_LINK_CONF4 = none := by
  rw [linkAccepted_none hbeats]
  unfold rxSubclass
  split_ifs <;> rfl

end Ends

/-- With the parameters of a link, each end refuses them or writes the words that they stand for; and where
there is a register for the beats, both ends do the same. -/
structure LinkValid (jesd : AxiJesd204Tx) (config : Jesd204TxConfig) (subclassVersion : UInt8) : Prop where
  tx : ValidOrRefused config.octetsPerFrame config.framesPerMultiframe (jesd.version ≥ TX_BEATS_VERSION)
    jesd.tplDataPathWidth (axiJesd204TxApplyConfig jesd config)
  rx : ValidOrRefused config.octetsPerFrame config.framesPerMultiframe (jesd.version ≥ RX_BEATS_VERSION)
    jesd.tplDataPathWidth (axiJesd204RxApplyConfig jesd.peer (config.peer subclassVersion))
  same : jesd.version ≥ TX_BEATS_VERSION →
    SameWords (axiJesd204TxApplyConfig jesd config) (axiJesd204RxApplyConfig jesd.peer (config.peer subclassVersion))

section Ends

variable {jesd : AxiJesd204Tx} {config : Jesd204TxConfig} {subclassVersion : UInt8}

lemma txApplyConfig_words : LinkWords config.octetsPerFrame config.framesPerMultiframe
    (jesd.version ≥ TX_BEATS_VERSION) jesd.tplDataPathWidth
    (linkAccepted (jesd.version ≥ TX_BEATS_VERSION) config.octetsPerFrame config.framesPerMultiframe
      jesd.tplDataPathWidth (txSysref config) (txIlas jesd config)) :=
  linkAccepted_words lookup_txSysref.1 lookup_txSysref.2

lemma rxApplyConfig_words : LinkWords config.octetsPerFrame config.framesPerMultiframe
    (jesd.version ≥ RX_BEATS_VERSION) jesd.tplDataPathWidth
    (linkAccepted (jesd.version ≥ RX_BEATS_VERSION) config.octetsPerFrame config.framesPerMultiframe
      jesd.tplDataPathWidth [] (rxSubclass (config.peer subclassVersion))) :=
  linkAccepted_words rfl rfl

lemma tx_beats_of_rx (h : jesd.version ≥ RX_BEATS_VERSION) : jesd.version ≥ TX_BEATS_VERSION := by
  have hle : TX_BEATS_VERSION ≤ RX_BEATS_VERSION := by decide
  exact UInt32.le_trans hle h

/-- Between the two versions only the transmitter writes its beats. -/
lemma rx_beats_of_same (hsound : LinkSound config.octetsPerFrame config.framesPerMultiframe
      (jesd.version ≥ TX_BEATS_VERSION) jesd.tplDataPathWidth jesd.dataPathWidth)
    (hrefused : ¬LinkRefused jesd.encoder (octetsPerMultiframe config.octetsPerFrame config.framesPerMultiframe)
      jesd.dataPathWidth) (hbeats : jesd.version ≥ TX_BEATS_VERSION)
    (hsame : SameWords (axiJesd204TxApplyConfig jesd config)
      (axiJesd204RxApplyConfig jesd.peer (config.peer subclassVersion))) : jesd.version ≥ RX_BEATS_VERSION := by
  by_contra hnone
  have hword := hsame.2.2
  rw [txApplyConfig_eq, linkChecked_accepted hrefused hsound.1,
    txApplyConfig_words.beats hbeats (hsound.2.2.2 hbeats).1] at hword
  have hpeer : axiJesd204RxApplyConfig jesd.peer (config.peer subclassVersion) =
      linkAccepted (jesd.version ≥ RX_BEATS_VERSION) config.octetsPerFrame config.framesPerMultiframe
        jesd.tplDataPathWidth [] (rxSubclass (config.peer subclassVersion)) := by
    rw [rxApplyConfig_eq]
    exact linkChecked_accepted hrefused hsound.1
  rw [hpeer, rxAccepted_none hnone] at hword
  exact Option.some_ne_none _ hword

lemma same_of_sound (hsound : LinkSound config.octetsPerFrame config.framesPerMultiframe
      (jesd.version ≥ TX_BEATS_VERSION) jesd.tplDataPathWidth jesd.dataPathWidth)
    (hrefused : ¬LinkRefused jesd.encoder (octetsPerMultiframe config.octetsPerFrame config.framesPerMultiframe)
      jesd.dataPathWidth) (hbeats : jesd.version ≥ TX_BEATS_VERSION) (hbeats' : jesd.version ≥ RX_BEATS_VERSION) :
    SameWords (axiJesd204TxApplyConfig jesd config)
      (axiJesd204RxApplyConfig jesd.peer (config.peer subclassVersion)) := by
  have htpl := (hsound.2.2.2 hbeats).1
  have hpeer : axiJesd204RxApplyConfig jesd.peer (config.peer subclassVersion) =
      linkAccepted (jesd.version ≥ RX_BEATS_VERSION) config.octetsPerFrame config.framesPerMultiframe
        jesd.tplDataPathWidth [] (rxSubclass (config.peer subclassVersion)) := by
    rw [rxApplyConfig_eq]
    exact linkChecked_accepted hrefused hsound.1
  rw [txApplyConfig_eq, linkChecked_accepted hrefused hsound.1, hpeer]
  refine ⟨?_, ?_, ?_⟩
  · rw [txApplyConfig_words.success fun _ => htpl, rxApplyConfig_words.success fun _ => htpl]
  · rw [txApplyConfig_words.conf0 fun _ => htpl]
    exact (rxApplyConfig_words.conf0 fun _ => htpl).symm
  · rw [txApplyConfig_words.beats hbeats htpl]
    exact (rxApplyConfig_words.beats hbeats' htpl).symm

end Ends

/-- The parameters are refused, or no factor and no width is 0, the width divides the multiframe, and the version
has the register at both ends if it has it at one. -/
theorem jesd204_link_valid_iff (jesd : AxiJesd204Tx) (config : Jesd204TxConfig) (subclassVersion : UInt8) :
    LinkValid jesd config subclassVersion ↔
      LinkRefused jesd.encoder (octetsPerMultiframe config.octetsPerFrame config.framesPerMultiframe)
          jesd.dataPathWidth ∨
        LinkSound config.octetsPerFrame config.framesPerMultiframe (jesd.version ≥ TX_BEATS_VERSION)
            jesd.tplDataPathWidth jesd.dataPathWidth ∧
          (jesd.version ≥ TX_BEATS_VERSION → jesd.version ≥ RX_BEATS_VERSION) := by
  have htx := @valid_linkChecked_iff _ _ _ jesd.encoder jesd.dataPathWidth _ _
    (@txApplyConfig_words jesd config)
  have hrx := @valid_linkChecked_iff _ _ _ jesd.encoder jesd.dataPathWidth _ _
    (@rxApplyConfig_words jesd config subclassVersion)
  rw [← txApplyConfig_eq] at htx
  by_cases hrefused : LinkRefused jesd.encoder
      (octetsPerMultiframe config.octetsPerFrame config.framesPerMultiframe) jesd.dataPathWidth
  · refine iff_of_true ⟨htx.mpr (Or.inl hrefused), hrx.mpr (Or.inl hrefused), ?_⟩ (Or.inl hrefused)
    intro _
    have hpeer : axiJesd204RxApplyConfig jesd.peer (config.peer subclassVersion) = some (FAILURE, []) := by
      rw [rxApplyConfig_eq]
      exact linkChecked_refused hrefused
    rw [txApplyConfig_eq, linkChecked_refused hrefused, hpeer]
    exact ⟨rfl, rfl, rfl⟩
  · constructor
    · intro h
      have hsound := (htx.mp h.tx).resolve_left hrefused
      exact Or.inr ⟨hsound, fun hbeats => rx_beats_of_same hsound hrefused hbeats (h.same hbeats)⟩
    · intro hcase
      obtain ⟨hsound, hversion⟩ := hcase.resolve_left hrefused
      have hbeats : jesd.version ≥ RX_BEATS_VERSION → _ := fun h => hsound.2.2.2 (tx_beats_of_rx h)
      constructor
      · exact htx.mpr (Or.inr hsound)
      · exact hrx.mpr (Or.inr ⟨hsound.1, hsound.2.1, hsound.2.2.1, hbeats⟩)
      · exact fun h => same_of_sound hsound hrefused h (hversion h)

/-- A core of version 1.7.a with lanes of four octets. -/
def fourOctets : AxiJesd204Tx := ⟨4, 4, 4, RX_BEATS_VERSION, .B8B10⟩

/-- A frame of 0 octets is not refused. -/
theorem jesd204_link_not_valid :
    ¬LinkValid fourOctets ⟨0, 0, 0, 4, 0, 32, 4, 16, 16, 1, 1, 1, 0, RX_BEATS_VERSION, true, false⟩ 1 := by
  rintro ⟨hrefuse | ⟨-, ⟨val, -, -, hhigh⟩, -⟩, -, -⟩
  · exact absurd hrefuse nofun
  · exact absurd hhigh (Nat.succ_ne_zero _)

end NoOS
