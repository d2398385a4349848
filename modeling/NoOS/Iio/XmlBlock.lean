import Mathlib.Algebra.Order.BigOperators.Group.List
import Mathlib.Algebra.Order.Ring.Nat
import NoOS.Iio.Interfaces
import NoOS.Lib.Word

/-!
# The block of the context XML

What a registration and an unregistration do to the text in `xml_desc` and to its sizes.
-/

namespace NoOS
open CString

lemma toList_deviceId (id : ℕ) : deviceId id = "device".toList ++ Nat.toDigits 10 id := by
  simp only [deviceId, String.toList_append, toString_string]
  rw [Nat.toString_eq_repr, Nat.toList_repr]

lemma deviceId_inj {i j : ℕ} (h : deviceId i = deviceId j) : i = j := by
  simp only [toList_deviceId, List.append_cancel_left_eq] at h
  have hval := congrArg (fun l => Nat.ofDigitChars 10 l 0) h
  simpa using hval

lemma nul_notMem_deviceId (id : ℕ) : NUL ∉ deviceId id := by
  simp only [deviceId, String.toList_append, List.mem_append, toString_string, nul_notMem_nat]
  decide

lemma deviceId_ne_nil (id : ℕ) : deviceId id ≠ [] := by
  rw [toList_deviceId]
  simp

lemma length_deviceId {id : ℕ} (h : id < 1000) : (deviceId id).length + 1 ≤ 10 := by
  have hdigits : (Nat.toDigits 10 id).length ≤ 3 :=
    (Nat.length_toDigits_le_iff (by decide) (by decide)).mpr h
  have hdevice : "device".toList.length = 6 := by decide
  rw [toList_deviceId, List.length_append]
  lia

lemma iioCmpInterfaces_eq_zero {key : List Char} (hkey : NUL ∉ key) (id : ℕ) :
    iioCmpInterfaces (deviceId id) key = 0 ↔ deviceId id = key :=
  strcmp_eq_zero (nul_notMem_deviceId id) hkey

lemma literal_bounds {l : List Char} (h : (l.all (· ≠ NUL) && l.length ≤ 120) = true) :
    NUL ∉ (String.ofList l).toList ∧ (String.ofList l).toList.length ≤ 120 := by
  obtain ⟨hall, hlen⟩ := Bool.and_eq_true_iff.mp h
  rw [String.toList_ofList]
  refine ⟨fun hm => ?_, of_decide_eq_true hlen⟩
  exact absurd rfl (of_decide_eq_true (List.all_eq_true.mp hall NUL hm))

/-- Stated for the characters of each line, which need not be decoded from UTF-8. -/
lemma headerLines_bounds : ∀ s ∈ headerLines, NUL ∉ s.toList ∧ s.toList.length ≤ 120 := by
  unfold headerLines
  repeat refine List.forall_mem_cons.mpr ⟨literal_bounds (by decide), ?_⟩
  exact List.forall_mem_nil _

lemma nul_notMem_header : NUL ∉ header := by
  intro h
  obtain ⟨s, hs, hm⟩ := List.mem_flatMap.mp h
  exact (headerLines_bounds s hs).1 hm

lemma length_header : header.length ≤ 2520 := by
  have hlines : headerLines.length = 21 := rfl
  have hsum := List.sum_le_card_nsmul (headerLines.map fun s => s.toList.length) 120 (by
    intro k hk
    obtain ⟨s, hs, rfl⟩ := List.mem_map.mp hk
    exact (headerLines_bounds s hs).2)
  rw [header, List.length_flatMap]
  simpa [hlines] using hsum

lemma ten_le_length_header : 10 ≤ header.length := by
  have hfirst : 10 ≤ (headerLines.head (by simp [headerLines])).toList.length := by
    simp only [headerLines, List.head_cons]
    rw [String.toList_ofList]
    decide
  have hmem := List.head_mem (l := headerLines) (by simp [headerLines])
  rw [header, List.length_flatMap]
  exact hfirst.trans (List.le_sum_of_mem (List.mem_map_of_mem hmem))

lemma nul_notMem_headerEnd : NUL ∉ headerEnd := by decide

lemma length_headerEnd : headerEnd.length = 10 := by decide

namespace IioDesc

/-- The block is `devices`, the end, its NUL and one byte that the sizes count as well. -/
structure Holds (desc : IioDesc) (devices : List Char) : Prop where
  block : ∃ c, desc.xmlDesc = some (devices ++ headerEnd ++ [NUL, c])
  size : desc.xmlSize.toNat = devices.length + headerEnd.length + 2
  toLastDev : desc.xmlSizeToLastDev.toNat = devices.length
  small : desc.xmlSize.toNat < 2 ^ 31
  nul_notMem : NUL ∉ devices

variable {desc : IioDesc} {devices : List Char} {device : IioDevice} {name : CText}
  {mem : RegisterMem}

/-- Two strings in a block for both and their NULs leave one byte. -/
lemma strcat_fresh {h e block : List Char} (hh : NUL ∉ h)
    (hlen : block.length = (h.length + 1) + (e.length + 1)) :
    ∃ c, strcat (writeAt block 0 (h ++ [NUL])) e = some (h ++ e ++ [NUL, c]) := by
  have hwrite : writeAt block 0 (h ++ [NUL]) = h ++ NUL :: block.drop (h.length + 1) := by
    simp [writeAt]
  have hrest : (block.drop (h.length + 1)).length = e.length + 1 := by
    rw [List.length_drop, hlen]
    lia
  obtain ⟨c, hc⟩ : ∃ c, (block.drop (h.length + 1)).drop e.length = [c] := by
    rw [← List.length_eq_one_iff, List.length_drop, hrest]
    lia
  refine ⟨c, ?_⟩
  rw [hwrite, strcat_eq hh (by lia), hc, List.append_assoc]

lemma toNat_xmlSize {h e : List Char} (hlen : h.length + e.length < 2 ^ 30) :
    (UInt32.ofNat ((h.length + 1) + (e.length + 1))).toNat = h.length + e.length + 2 ∧
      (UInt32.ofNat h.length).toNat = h.length := by
  rw [UInt32.toNat_ofNat_of_lt' (by simp only [UInt32.size]; lia),
    UInt32.toNat_ofNat_of_lt' (by simp only [UInt32.size]; lia)]
  lia

lemma length_strings : header.length + headerEnd.length < 2 ^ 30 := by
  have hheader := length_header
  rw [length_headerEnd]
  generalize header.length = k at hheader
  omega

lemma iioInit_holds (uninit : ℕ → Char) : ∃ desc, iioInit uninit = some desc ∧
    desc.Holds header ∧ desc.interfacesList = [] ∧ desc.devCount = 0 := by
  obtain ⟨c, hc⟩ := @strcat_fresh header headerEnd ((List.range ((header.length + 1) +
    (headerEnd.length + 1))).map uninit) nul_notMem_header (by simp)
  obtain ⟨hsize, hlast⟩ := toNat_xmlSize length_strings
  have hinit : iioInit uninit = some {
      xmlDesc := some (header ++ headerEnd ++ [NUL, c])
      xmlSize := UInt32.ofNat ((header.length + 1) + (headerEnd.length + 1))
      xmlSizeToLastDev := UInt32.ofNat header.length } := by
    simp only [iioInit, hc, Option.bind_eq_bind, Option.bind_some]
  have hsmall := length_strings
  refine ⟨_, hinit, ⟨⟨c, rfl⟩, hsize, hlast, ?_, nul_notMem_header⟩, rfl, rfl⟩
  rw [hsize]
  generalize header.length + headerEnd.length = k at hsmall
  lia

lemma reallocBlock_nonneg {newSize : Int32} {aux block : List Char}
    (h : reallocBlock block newSize mem = some aux) : ¬newSize < 0 := by
  unfold reallocBlock at h
  split_ifs at h with hneg
  exact hneg

lemma reallocBlock_isSome {newSize : Int32} {aux block : List Char}
    (h : reallocBlock block newSize mem = some aux) : mem.realloc.isSome = true := by
  rw [reallocBlock, if_neg (reallocBlock_nonneg h)] at h
  obtain ⟨uninit, hmem, -⟩ := Option.map_eq_some_iff.mp h
  exact Option.isSome_iff_exists.mpr ⟨uninit, hmem⟩

lemma reallocBlock_prefix {newSize : Int32} {aux block : List Char}
    (h : reallocBlock block newSize mem = some aux) (hsize : block.length ≤ newSize.toInt.toNat) :
    block <+: aux ∧ aux.length = newSize.toInt.toNat := by
  rw [reallocBlock, if_neg (reallocBlock_nonneg h)] at h
  obtain ⟨uninit, -, rfl⟩ := Option.map_eq_some_iff.mp h
  rw [List.take_of_length_le hsize]
  refine ⟨List.prefix_append _ _, ?_⟩
  simp only [List.length_append, List.length_map, List.length_range]
  lia

lemma toNat_newSize {size last : UInt32} {k n : ℕ} (hlast : last.toNat + k = size.toNat)
    (hsum : size.toNat + n < 2 ^ 32) (hneg : ¬(size + UInt32.ofInt n).toInt32 < 0) :
    size.toNat + n < 2 ^ 31 ∧
      (size + UInt32.ofInt n).toInt32.toInt.toNat = size.toNat + n ∧
      ((size + UInt32.ofInt n).toInt32.toUInt32 - last).toInt32.toInt.toNat = k + n := by
  have hadd := Word.toNat_add_ofInt hsum
  rw [Word.toInt32_neg, hadd] at hneg
  have hsub : (size + UInt32.ofInt n - last).toNat = k + n := by
    rw [Word.toNat_sub_of_le (by lia), hadd]
    lia
  refine ⟨by lia, ?_, ?_⟩
  · rw [Word.toInt32_toInt (by lia), hadd, Int.toNat_natCast]
  · rw [UInt32.toUInt32_toInt32, Word.toInt32_toInt (by lia), hsub, Int.toNat_natCast]

lemma insertWhere_of_forall {δ : Type*} {stop : δ → Bool} {d : δ} {ds : List δ}
    (h : ∀ e ∈ ds, stop e = true) : insertWhere stop d ds = d :: ds := by
  cases ds with
  | nil => rfl
  | cons e es => simp [insertWhere, h e List.mem_cons_self]

/-- The longer block: the text with the new device, and again one byte after its NUL. -/
lemma strcat_device {X e block : List Char} (hd : NUL ∉ devices) (hX : NUL ∉ X)
    (hlen : block.length = e.length + 2 + X.length) :
    ∃ c, strcat (devices ++ writeAt block 0 (bounded (e.length + 2 + X.length) X)) e =
      some (devices ++ X ++ e ++ [NUL, c]) := by
  have hrest : (block.drop (X.length + 1)).length = e.length + 1 := by
    rw [List.length_drop, hlen]
    lia
  have hwrite : devices ++ writeAt block 0 (bounded (e.length + 2 + X.length) X) =
      (devices ++ X) ++ NUL :: block.drop (X.length + 1) := by
    rw [bounded_of_lt (by lia)]
    simp [writeAt]
  obtain ⟨c, hc⟩ : ∃ c, (block.drop (X.length + 1)).drop e.length = [c] := by
    rw [← List.length_eq_one_iff, List.length_drop, hrest]
    lia
  refine ⟨c, ?_⟩
  rw [hwrite, strcat_eq (by simp [hd, hX]) (by lia), hc]
  simp

namespace Holds

/-- `realloc` gives no block for the text with the new device. -/
def Refused (desc : IioDesc) (device : IioDevice) (name : CText) (mem : RegisterMem) : Prop :=
  mem.calloc = true → ∀ block, desc.xmlDesc = some block → reallocBlock block
    (desc.xmlSize + UInt32.ofInt (deviceXml device name desc.devCount).length).toInt32 mem = none

lemma register_refused (h : desc.Holds devices) (ha : device.Accepted name desc.devCount)
    (hno : Refused desc device name mem) :
    iioRegister desc device name mem = some (-ENOMEM, desc) := by
  unfold iioRegister
  by_cases hcalloc : mem.calloc = true
  · obtain ⟨c, hblock⟩ := h.block
    simp only [hcalloc, ha.count, hblock, hno hcalloc _ hblock, Bool.not_true, Bool.false_eq_true,
      if_false, Option.bind_eq_bind, Option.bind_some]
  · simp only [hcalloc, Bool.not_false, if_true]

/-- The block that `realloc` gives: the text before its end, and enough bytes after it. -/
lemma realloc (h : desc.Holds devices) {n : ℕ} {aux block : List Char}
    (hblock : desc.xmlDesc = some block) (hn : n < 2 ^ 31)
    (haux : reallocBlock block (desc.xmlSize + UInt32.ofInt n).toInt32 mem = some aux) :
    desc.xmlSize.toNat + n < 2 ^ 31 ∧
      ((desc.xmlSize + UInt32.ofInt n).toInt32.toUInt32 -
        desc.xmlSizeToLastDev).toInt32.toInt.toNat = headerEnd.length + 2 + n ∧
      ∃ tail, aux = devices ++ tail ∧ tail.length = headerEnd.length + 2 + n := by
  obtain ⟨c, hc⟩ := h.block
  obtain rfl : block = devices ++ headerEnd ++ [NUL, c] := by simpa [hblock] using hc
  have hsize := h.size
  have hlast := h.toLastDev
  have hsmall := h.small
  obtain ⟨hlt, hint, hbuff⟩ := toNat_newSize
    (show desc.xmlSizeToLastDev.toNat + (headerEnd.length + 2) = desc.xmlSize.toNat by lia)
    (by lia) (reallocBlock_nonneg haux)
  obtain ⟨⟨rest, rfl⟩, hlen⟩ := reallocBlock_prefix haux (by
    rw [hint]
    simp only [List.length_append, List.length_cons, List.length_nil]
    lia)
  refine ⟨hlt, hbuff, headerEnd ++ [NUL, c] ++ rest, by simp only [List.append_assoc], ?_⟩
  rw [hint] at hlen
  simp only [List.length_append] at hlen ⊢
  lia

/-- The device comes last in the text and first in the list. -/
theorem register_granted (h : desc.Holds devices) (ha : device.Accepted name desc.devCount)
    {aux block : List Char} (hcalloc : mem.calloc = true) (hblock : desc.xmlDesc = some block)
    (haux : reallocBlock block
      (desc.xmlSize + UInt32.ofInt (deviceXml device name desc.devCount).length).toInt32 mem =
        some aux)
    (hpush : mem.push = true) (hbound : desc.devCount < 1000)
    (hfront : ∀ e ∈ desc.interfacesList, decide (0 < iioCmpInterfaces e.devId []) = true) :
    ∃ desc', iioRegister desc device name mem = some (SUCCESS, desc') ∧
      desc'.Holds (devices ++ deviceXml device name desc.devCount) ∧
      desc'.interfacesList = ⟨deviceId desc.devCount, name, device⟩ :: desc.interfacesList ∧
      desc'.devCount = desc.devCount + 1 := by
  have hX : (deviceXml device name desc.devCount).length < 2 ^ 31 := Nat.lt_succ_of_le ha.prints.2
  have hnul := @nul_notMem_deviceXml device name desc.devCount
  have hsmall := h.small
  have hsize := h.size
  have hlast := h.toLastDev
  obtain ⟨hlt, hbuff, tail, rfl, htail⟩ := h.realloc hblock hX haux
  have hprint := ha.print (hbuff.trans_le htail.ge)
  obtain ⟨c, hcat⟩ := strcat_device h.nul_notMem hnul htail
  have hoff : ¬(devices ++ tail).length < desc.xmlSizeToLastDev.toNat := by
    rw [List.length_append]
    lia
  have hid : ¬10 < (deviceId desc.devCount).length + 1 := Nat.not_lt.mpr (length_deviceId hbound)
  have hok : isErrValue SUCCESS = false := by decide
  have hdrop := @List.drop_left _ devices tail
  have htake := @List.take_left _ devices tail
  rw [← hlast] at hdrop htake
  rw [hbuff] at hprint
  refine ⟨{
    interfacesList := ⟨deviceId desc.devCount, name, device⟩ :: desc.interfacesList
    xmlDesc := some (devices ++ deviceXml device name desc.devCount ++ headerEnd ++ [NUL, c])
    xmlSize := desc.xmlSize + UInt32.ofInt (deviceXml device name desc.devCount).length
    xmlSizeToLastDev :=
      desc.xmlSizeToLastDev + UInt32.ofInt (deviceXml device name desc.devCount).length
    devCount := desc.devCount + 1 }, ?_, ?_, rfl, rfl⟩
  · unfold iioRegister
    simp only [hcalloc, hblock, ha.count, haux, seqAdd, hpush, hok, hoff, hid, if_true, if_false,
      Bool.not_true, Bool.false_eq_true, Option.bind_eq_bind, Option.bind_some,
      insertWhere_of_forall hfront, hdrop, htake, hprint, hcat]
  · have hadd := Word.toNat_add_ofInt (a := desc.xmlSize)
      (n := (deviceXml device name desc.devCount).length) (by lia)
    have hadd' := Word.toNat_add_ofInt (a := desc.xmlSizeToLastDev)
      (n := (deviceXml device name desc.devCount).length) (by lia)
    exact {
      block := ⟨c, rfl⟩
      size := by
        rw [hadd, List.length_append]
        lia
      toLastDev := by rw [hadd', List.length_append, hlast]
      small := by rwa [hadd]
      nul_notMem := by simp [h.nul_notMem, hnul] }

/-- What is moved lies before the NUL, so the length of the text stays the same. -/
lemma read_writeAt {s cs rest : List Char} (pos : ℕ) (hs : NUL ∉ s) (hcs : NUL ∉ cs)
    (hpos : pos + cs.length ≤ s.length) :
    ∃ t, read (writeAt (s ++ NUL :: rest) pos cs) = some t ∧ t.length = s.length := by
  have hwrite : writeAt (s ++ NUL :: rest) pos cs = writeAt s pos cs ++ NUL :: rest := by
    simp only [writeAt, List.take_append_of_le_length (show pos ≤ s.length by lia),
      List.drop_append_of_le_length hpos, List.append_assoc]
  refine ⟨writeAt s pos cs, ?_, length_writeAt hpos⟩
  rw [hwrite, read_eq]
  intro hmem
  simp only [writeAt, List.mem_append, hcs, or_false] at hmem
  rcases hmem with hmem | hmem
  · exact hs (List.mem_of_mem_take hmem)
  · exact hs (List.mem_of_mem_drop hmem)

/-- A text from which a device has been removed is as long as before. -/
theorem unregister_found (h : desc.Holds devices) {key : List Char} {e : IioInterface}
    (hfind : (desc.interfacesList.find? fun e => iioCmpInterfaces e.devId key = 0) = some e)
    (ha : e.devDescriptor.Accepted e.name desc.devCount) {ret : ℤ} {desc' : IioDesc}
    (hret : iioUnregister desc name key = some (ret, desc')) :
    ret = SUCCESS ∧ ∃ block t, desc'.xmlDesc = some block ∧ read block = some t ∧
      t.length = devices.length + headerEnd.length := by
  obtain ⟨c, hblock⟩ := h.block
  have hlast := h.toLastDev
  have hdrop := @List.drop_left _ devices (headerEnd ++ [NUL, c])
  rw [← hlast, ← List.append_assoc] at hdrop
  simp only [iioUnregister, hfind, hblock, ha.count, hdrop, read_eq nul_notMem_headerEnd,
    Option.bind_eq_bind, Option.bind_some] at hret
  split_ifs at hret
  simp only [Option.some.injEq, Prod.mk.injEq] at hret
  obtain ⟨rfl, rfl⟩ := hret
  obtain ⟨t, ht, hlen⟩ := @read_writeAt (devices ++ headerEnd) headerEnd [c]
    ((desc.xmlSizeToLastDev.toNat : ℤ) -
      (deviceXml e.devDescriptor e.name desc.devCount).length).toNat
    (by simp [h.nul_notMem, nul_notMem_headerEnd]) nul_notMem_headerEnd (by
      rw [List.length_append]
      lia)
  exact ⟨rfl, _, t, rfl, ht, by rw [hlen, List.length_append]⟩

end Holds

end IioDesc

end NoOS
