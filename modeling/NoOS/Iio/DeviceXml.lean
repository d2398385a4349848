import Mathlib.Data.UInt
import NoOS.Errno
import NoOS.Lib.CString

/-!
# Device description

Translation of `iio_generate_device_xml` in `iio/iio.c` and of the descriptors that it prints.
A list of attributes that ends with a NULL name is the list of the attributes before it.
-/

namespace NoOS
open CString

/-- A text without NUL, which a `char *` can stand for. -/
structure CText where
  text : String
  nul_notMem : NUL ∉ text.toList

instance CText.instToString : ToString CText := ⟨text⟩

inductive IioChanType
  | iioVoltage
  | iioCurrent
  | iioAltvoltage
  | iioAnglVel
  | iioTemp
  | iioCapacitance

def IioChanType.iioChanTypeString : IioChanType → String
  | .iioVoltage => "voltage"
  | .iioCurrent => "current"
  | .iioAltvoltage => "altvoltage"
  | .iioAnglVel => "anglvel"
  | .iioTemp => "temp"
  | .iioCapacitance => "capacitance"

/-- `iio_modifier_names`; no name for `IIO_NO_MOD` and beyond the end of the table. -/
def iioModifierNames (channel2 : Int32) : Option String :=
  if channel2 = 1 then some "x" else if channel2 = 2 then some "y" else none

inductive IioAttributeShared
  | iioSeparate
  | iioSharedByType
  | iioSharedByDir
  | iioSharedByAll

structure IioAttribute where
  name : CText
  shared : IioAttributeShared := .iioSeparate

structure ScanType where
  /-- 's' or 'u' to specify signed or unsigned -/
  sign : Char
  sign_ne_nul : sign ≠ NUL
  realbits : UInt8
  storagebits : UInt8
  shift : UInt8
  isBigEndian : Bool

structure IioChannel where
  name : Option CText
  chType : IioChanType
  channel : Int32
  channel2 : Int32
  scanIndex : Int32
  scanType : Option ScanType
  attributes : List IioAttribute
  chOut : Bool
  modified : Bool
  indexed : Bool
  diferential : Bool

structure IioDevice where
  channels : List IioChannel := []
  attributes : List IioAttribute := []
  debugAttributes : List IioAttribute := []
  bufferAttributes : List IioAttribute := []
  /-- Whether there is a function to read, and to write, registers. -/
  debugRegRead : Bool := false
  debugRegWrite : Bool := false

/-- One thing that the function does: it prints, it returns early, or it reads a name that
does not exist. -/
inductive XmlAction
  | print (text : String)
  | ret (code : ℤ)
  | undefined

namespace IioChannel

def printChId (ch : IioChannel) : Option String :=
  let type := ch.chType.iioChanTypeString
  let channel := ch.channel
  let channel2 := ch.channel2
  if ch.modified then (iioModifierNames channel2).map fun modifier => s!"{type}_{modifier}"
  else if ch.indexed then
    if ch.diferential then some s!"{type}{channel}-{type}{channel2}"
    else some s!"{type}{channel}"
  else some type

def filename (ch : IioChannel) (attr : IioAttribute) : XmlAction :=
  let dir := if ch.chOut then "out" else "in"
  let type := ch.chType.iioChanTypeString
  let channel := ch.channel
  let channel2 := ch.channel2
  let name := attr.name
  if ch.diferential then
    match attr.shared with
    | .iioSharedByAll => .print s!"filename=\"{name}\""
    | .iioSharedByDir => .print s!"filename=\"{dir}_{name}\""
    | .iioSharedByType => .print s!"filename=\"{dir}_{type}-{type}_{name}\""
    | .iioSeparate =>
      -- Differential channels must be indexed!
      if !ch.indexed then .ret (-EINVAL)
      else .print s!"filename=\"{dir}_{type}{channel}-{type}{channel2}_{name}\""
  else
    match attr.shared with
    | .iioSharedByAll => .print s!"filename=\"{name}\""
    | .iioSharedByDir => .print s!"filename=\"{dir}_{name}\""
    | .iioSharedByType => .print s!"filename=\"{dir}_{type}_{name}\""
    | .iioSeparate =>
      if ch.indexed then .print s!"filename=\"{dir}_{type}{channel}_{name}\""
      else .print s!"filename=\"{dir}_{type}_{name}\""

def attributeXml (ch : IioChannel) (attr : IioAttribute) : List XmlAction :=
  [.print s!"<attribute name=\"{attr.name}\" ", ch.filename attr, .print " />"]

def scanElement (ch : IioChannel) (type : ScanType) : String :=
  let endian := if type.isBigEndian then "be" else "le"
  s!"<scan-element index=\"{ch.scanIndex}\"" ++
    s!" format=\"{endian}:{type.sign}{type.realbits}/{type.storagebits}>>{type.shift}\" />"

def xml (ch : IioChannel) : List XmlAction :=
  match ch.printChId with
  | none => [.undefined]
  | some chId =>
    [.print s!"<channel id=\"{chId}\""]
    ++ (match ch.name with
      | none => []
      | some name => [.print s!" name=\"{name}\""])
    ++ [.print (if ch.chOut then " type=\"output\" >" else " type=\"input\" >")]
    ++ (match ch.scanType with
      | none => []
      | some type => [.print (ch.scanElement type)])
    ++ ch.attributes.flatMap ch.attributeXml
    ++ [.print "</channel>"]

end IioChannel

/-- The actions of `iio_generate_device_xml` in their order, up to the first that ends it. -/
def IioDevice.xml (device : IioDevice) (name : CText) (id : ℕ) : List XmlAction :=
  [.print s!"<device id=\"device{id}\" name=\"{name}\">"]
  ++ device.channels.flatMap IioChannel.xml
  ++ device.attributes.map (fun attr => .print s!"<attribute name=\"{attr.name}\" />")
  ++ device.debugAttributes.map (fun attr => .print s!"<debug-attribute name=\"{attr.name}\" />")
  ++ (if device.debugRegRead || device.debugRegWrite then
      [.print "<debug-attribute name=\"direct_reg_access\" />"] else [])
  ++ device.bufferAttributes.map (fun attr => .print s!"<buffer-attribute name=\"{attr.name}\" />")
  ++ [.print "</device>"]

def INT32_MAX : ℕ := 2 ^ 31 - 1

/-- The result and the buffer, unless the count `i` overflows. -/
def runXml (b : Sink) : List XmlAction → Option (ℤ × Sink)
  | [] => some (b.i, b)
  | .print text :: rest =>
    if b.i + text.toList.length ≤ INT32_MAX then runXml (b.snprintf text.toList) rest else none
  | .ret code :: _ => some (code, b)
  | .undefined :: _ => none

/-- No buffer is passed with the size -1, and the bytes are only counted. `n` is a signed copy
of the size, and `max(n - i, 0)` is 0 for a negative one. -/
def iioGenerateDeviceXml (device : IioDevice) (name : CText) (id : ℕ) (buff : Option (List Char))
    (buffSize : UInt32) : Option (ℤ × List Char) :=
  let b : Sink := { mem := buff.getD [], n := buffSize.toInt32.toInt.toNat }
  (runXml b (device.xml name id)).map fun r => (r.1, r.2.mem)

/-- Whether an action prints. -/
def XmlAction.prints : XmlAction → Bool
  | .print _ => true
  | _ => false

def XmlAction.chars : XmlAction → List Char
  | .print text => text.toList
  | _ => []

/-- The description of a device. -/
def deviceXml (device : IioDevice) (name : CText) (id : ℕ) : List Char :=
  (device.xml name id).flatMap XmlAction.chars

/-- The device is printed to its end, in fewer than 2^31 bytes. -/
def IioDevice.Accepted (device : IioDevice) (name : CText) (id : ℕ) : Prop :=
  ∃ n, (iioGenerateDeviceXml device name id none (-1)).map Prod.fst = some n ∧ ¬isErrValue n

variable {device : IioDevice} {name : CText} {id : ℕ} {b : Sink} {text : List Char}
  {actions : List XmlAction}

lemma runXml_snprintf (hp : ∀ a ∈ actions, a.prints = true) (hn : b.n ≤ b.mem.length)
    (hi : b.i + (text ++ actions.flatMap XmlAction.chars).length ≤ INT32_MAX) :
    runXml (b.snprintf text) actions =
      some (((b.i + (text ++ actions.flatMap XmlAction.chars).length : ℕ) : ℤ),
        b.snprintf (text ++ actions.flatMap XmlAction.chars)) := by
  induction actions generalizing text with
  | nil => simp [runXml, Sink.snprintf]
  | cons a rest ih =>
    cases a with
    | print t =>
      have hrest : ∀ a ∈ rest, a.prints = true := fun a ha => hp a (List.mem_cons_of_mem _ ha)
      have htext : text ++ (XmlAction.print t :: rest).flatMap XmlAction.chars =
          (text ++ t.toList) ++ rest.flatMap XmlAction.chars := by
        simp [XmlAction.chars]
      have hfit : (b.snprintf text).i + t.toList.length ≤ INT32_MAX := by
        simp only [htext, List.length_append] at hi
        simp only [Sink.snprintf]
        lia
      rw [htext] at hi ⊢
      rw [runXml, if_pos hfit, Sink.snprintf_append hn, ih hrest hi]
    | ret code => exact absurd (hp _ List.mem_cons_self) (by simp [XmlAction.prints])
    | undefined => exact absurd (hp _ List.mem_cons_self) (by simp [XmlAction.prints])

/-- A result that is no error is the number of bytes of the whole text. -/
lemma runXml_accepts {n : ℤ} {c : Sink} (h : runXml b actions = some (n, c)) (hn : ¬isErrValue n)
    (hb : b.i ≤ INT32_MAX) (hret : ∀ code, .ret code ∈ actions → isErrValue code) :
    (∀ a ∈ actions, a.prints = true) ∧
      b.i + (actions.flatMap XmlAction.chars).length ≤ INT32_MAX := by
  induction actions generalizing b with
  | nil => simpa using hb
  | cons a rest ih =>
    cases a with
    | print t =>
      rw [runXml] at h
      split_ifs at h with hfit
      obtain ⟨hp, hi⟩ := ih h hfit fun code hc => hret code (List.mem_cons_of_mem _ hc)
      refine ⟨?_, ?_⟩
      · intro a ha
        rcases List.mem_cons.mp ha with rfl | ha
        · rfl
        · exact hp a ha
      · simp only [Sink.snprintf] at hi
        simpa [XmlAction.chars, Nat.add_assoc] using hi
    | ret code =>
      simp only [runXml, Option.some.injEq, Prod.mk.injEq] at h
      exact absurd (hret code List.mem_cons_self) (h.1 ▸ hn)
    | undefined => simp [runXml] at h

/-- What is printed has no NUL, and what is returned early is an error. -/
def XmlAction.Clean : XmlAction → Prop
  | .print text => NUL ∉ text.toList
  | .ret code => isErrValue code = true
  | .undefined => True

instance XmlAction.decidableClean : DecidablePred XmlAction.Clean
  | .print text => inferInstanceAs (Decidable (NUL ∉ text.toList))
  | .ret code => inferInstanceAs (Decidable (isErrValue code = true))
  | .undefined => .isTrue trivial

lemma toString_string (s : String) : toString s = s := rfl

lemma nul_notMem_text (s : CText) : NUL ∉ (toString s).toList := s.nul_notMem

lemma nul_notMem_repr (n : ℕ) : NUL ∉ n.repr.toList := by
  rw [Nat.toList_repr]
  intro h
  exact absurd (Nat.isDigit_of_mem_toDigits (by decide) (by decide) h) (by decide)

lemma nul_notMem_nat (n : ℕ) : NUL ∉ (toString n).toList := nul_notMem_repr n

lemma nul_notMem_int32 (n : Int32) : NUL ∉ (toString n).toList := by
  change NUL ∉ (toString n.toInt).toList
  cases n.toInt with
  | ofNat k => exact nul_notMem_repr k
  | negSucc k =>
    change NUL ∉ ("-" ++ (k + 1).repr).toList
    simp only [String.toList_append, List.mem_append, nul_notMem_repr]
    decide

lemma nul_notMem_uint8 (n : UInt8) : NUL ∉ (toString n).toList := nul_notMem_repr n.toNat

lemma nul_notMem_char {c : Char} (h : c ≠ NUL) : NUL ∉ (toString c).toList := by
  simpa [toString] using h.symm

lemma nul_notMem_chanType (t : IioChanType) : NUL ∉ t.iioChanTypeString.toList := by
  cases t <;> decide

namespace IioChannel

variable {ch : IioChannel} {attr : IioAttribute}

lemma printChId_clean {chId : String} (h : ch.printChId = some chId) : NUL ∉ chId.toList := by
  have htype := nul_notMem_chanType ch.chType
  have hmod : ∀ modifier, iioModifierNames ch.channel2 = some modifier →
      NUL ∉ modifier.toList := by
    intro modifier hm
    unfold iioModifierNames at hm
    split_ifs at hm <;> obtain rfl := Option.some.inj hm <;> decide
  unfold printChId at h
  split_ifs at h
  · obtain ⟨modifier, hm, rfl⟩ := Option.map_eq_some_iff.mp h
    simp only [String.toList_append, List.mem_append, toString_string, htype, hmod modifier hm]
    decide
  all_goals
    obtain rfl := Option.some.inj h
    simp only [String.toList_append, List.mem_append, toString_string, htype, nul_notMem_int32]
    try decide

lemma filename_clean : (ch.filename attr).Clean := by
  unfold filename
  cases attr.shared <;> split_ifs <;>
    simp only [XmlAction.Clean, String.toList_append, List.mem_append, toString_string,
      nul_notMem_chanType, nul_notMem_int32, nul_notMem_text] <;> decide

lemma scanElement_clean (type : ScanType) : NUL ∉ (ch.scanElement type).toList := by
  unfold scanElement
  cases type.isBigEndian <;>
    simp only [String.toList_append, List.mem_append, toString_string, nul_notMem_int32,
      nul_notMem_uint8, nul_notMem_char type.sign_ne_nul, if_true] <;> decide

lemma xml_clean : ∀ a ∈ ch.xml, a.Clean := by
  intro a ha
  unfold xml at ha
  cases hid : ch.printChId with
  | none =>
    obtain rfl : a = .undefined := by simpa [hid] using ha
    trivial
  | some chId =>
    have hchId := printChId_clean hid
    simp only [hid, List.mem_append, List.mem_flatMap, attributeXml, List.mem_cons,
      List.not_mem_nil, or_false] at ha
    rcases ha with ((((rfl | ha) | rfl) | ha) | ⟨attr, -, rfl | rfl | rfl⟩) | rfl
    · simp only [XmlAction.Clean, String.toList_append, List.mem_append, toString_string, hchId]
      decide
    · cases hname : ch.name with
      | none => simp [hname] at ha
      | some name =>
        obtain rfl : a = _ := by simpa only [hname, List.mem_singleton] using ha
        simp only [XmlAction.Clean, String.toList_append, List.mem_append, toString_string,
          nul_notMem_text]
        decide
    · cases ch.chOut with
      | false => decide
      | true => decide
    · cases htype : ch.scanType with
      | none => simp [htype] at ha
      | some type =>
        obtain rfl : a = _ := by simpa only [htype, List.mem_singleton] using ha
        exact scanElement_clean type
    · simp only [XmlAction.Clean, String.toList_append, List.mem_append, toString_string,
        nul_notMem_text]
      decide
    · exact filename_clean
    · decide
    · decide

end IioChannel

lemma clean_map {attrs : List IioAttribute} {before after : String} (hb : NUL ∉ before.toList)
    (ha : NUL ∉ after.toList) :
    ∀ a ∈ attrs.map (fun attr => XmlAction.print s!"{before}{attr.name}{after}"), a.Clean := by
  intro a h
  obtain ⟨attr, -, rfl⟩ := List.mem_map.mp h
  simp only [XmlAction.Clean, String.toList_append, List.mem_append, toString_string,
    nul_notMem_text, hb, ha, or_self, not_false_eq_true]

lemma IioDevice.xml_clean : ∀ a ∈ device.xml name id, a.Clean := by
  intro a ha
  simp only [xml, List.mem_append, List.mem_singleton, List.mem_flatMap] at ha
  rcases ha with (((((rfl | ⟨ch, -, ha⟩) | ha) | ha) | ha) | ha) | rfl
  · simp only [XmlAction.Clean, String.toList_append, List.mem_append, toString_string,
      nul_notMem_text, nul_notMem_nat]
    decide
  · exact ch.xml_clean a ha
  · exact clean_map (by decide) (by decide) a ha
  · exact clean_map (by decide) (by decide) a ha
  · split_ifs at ha
    · obtain rfl := List.mem_singleton.mp ha
      decide
    · exact absurd ha List.not_mem_nil
  · exact clean_map (by decide) (by decide) a ha
  · decide

lemma nul_notMem_deviceXml : NUL ∉ deviceXml device name id := by
  intro h
  obtain ⟨a, ha, hc⟩ := List.mem_flatMap.mp h
  have hclean := device.xml_clean a ha
  cases a with
  | print text => exact hclean hc
  | ret code => exact List.not_mem_nil hc
  | undefined => exact List.not_mem_nil hc

lemma runXml_eq (hne : actions ≠ []) (hp : ∀ a ∈ actions, a.prints = true)
    (hn : b.n ≤ b.mem.length) (hi : b.i + (actions.flatMap XmlAction.chars).length ≤ INT32_MAX) :
    runXml b actions = some (((b.i + (actions.flatMap XmlAction.chars).length : ℕ) : ℤ),
      b.snprintf (actions.flatMap XmlAction.chars)) := by
  cases actions with
  | nil => exact absurd rfl hne
  | cons a rest =>
    cases a with
    | print t =>
      have hfit : b.i + t.toList.length ≤ INT32_MAX := by
        simp only [List.flatMap_cons, XmlAction.chars, List.length_append] at hi
        lia
      rw [runXml, if_pos hfit]
      exact runXml_snprintf (fun a ha => hp a (List.mem_cons_of_mem _ ha)) hn hi
    | ret code => exact absurd (hp _ List.mem_cons_self) (by simp [XmlAction.prints])
    | undefined => exact absurd (hp _ List.mem_cons_self) (by simp [XmlAction.prints])

lemma iioGenerateDeviceXml_count (hp : ∀ a ∈ device.xml name id, a.prints = true)
    (hlen : (deviceXml device name id).length ≤ INT32_MAX) :
    iioGenerateDeviceXml device name id none (-1) =
      some (((deviceXml device name id).length : ℤ), []) := by
  have hne : device.xml name id ≠ [] := by simp [IioDevice.xml]
  have hn : (-1 : UInt32).toInt32.toInt.toNat = 0 := by decide
  have hrun := runXml_eq hne hp (b := { mem := [], n := 0 }) (Nat.le_refl 0)
    (by rw [Nat.zero_add]; exact hlen)
  simp only [iioGenerateDeviceXml, Option.getD_none, hn, hrun, Option.map_some, deviceXml,
    Sink.snprintf, Nat.zero_add, Nat.sub_zero]
  simp [bounded]

lemma IioDevice.accepted_of_prints (hp : ∀ a ∈ device.xml name id, a.prints = true)
    (hlen : (deviceXml device name id).length ≤ INT32_MAX) : device.Accepted name id := by
  refine ⟨(deviceXml device name id).length, ?_, by simp [isErrValue]⟩
  rw [iioGenerateDeviceXml_count hp hlen, Option.map_some]

namespace IioDevice.Accepted

variable (h : device.Accepted name id)

include h

lemma prints : (∀ a ∈ device.xml name id, a.prints = true) ∧
    (deviceXml device name id).length ≤ INT32_MAX := by
  obtain ⟨n, hn, hok⟩ := h
  obtain ⟨r, hr, rfl⟩ := Option.map_eq_some_iff.mp hn
  obtain ⟨c, hc, rfl⟩ := Option.map_eq_some_iff.mp hr
  have hret : ∀ code, .ret code ∈ device.xml name id → isErrValue code :=
    fun code hcode => device.xml_clean _ hcode
  have hfit := runXml_accepts hc hok (Nat.zero_le INT32_MAX) hret
  rwa [Nat.zero_add] at hfit

lemma print {mem : List Char} {buffSize : UInt32}
    (hsize : buffSize.toInt32.toInt.toNat ≤ mem.length) :
    iioGenerateDeviceXml device name id (some mem) buffSize =
      some (((deviceXml device name id).length : ℤ),
        writeAt mem 0 (bounded buffSize.toInt32.toInt.toNat (deviceXml device name id))) := by
  have hne : device.xml name id ≠ [] := by simp [IioDevice.xml]
  have hrun := runXml_eq hne h.prints.1 (b := { mem := mem, n := buffSize.toInt32.toInt.toNat })
    hsize (by rw [Nat.zero_add]; exact h.prints.2)
  simp only [iioGenerateDeviceXml, Option.getD_some, hrun, Option.map_some, deviceXml,
    Sink.snprintf, Nat.zero_add, Nat.sub_zero]

lemma count : iioGenerateDeviceXml device name id none (-1) =
    some (((deviceXml device name id).length : ℤ), []) :=
  iioGenerateDeviceXml_count h.prints.1 h.prints.2

end IioDevice.Accepted

end NoOS
