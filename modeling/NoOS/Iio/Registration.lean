import NoOS.Iio.InterfacesXml

/-!
# A registration that fails

`iio_register` gives the descriptor back as it was if one of its two requests for memory is
refused. Later it has already passed the old block to `realloc`, and it does not look at the
code of `iio_generate_device_xml`, which is added to the sizes.
-/

namespace NoOS
open CString

/-- A differential channel that is not indexed has an attribute of its own. -/
def IioDevice.Unindexed (device : IioDevice) : Prop :=
  ∃ ch ∈ device.channels, ch.diferential = true ∧ ch.indexed = false ∧
    ∃ attr ∈ ch.attributes, attr.shared = .iioSeparate

/-- Every name that is looked up exists, and the count does not overflow. -/
def IioDevice.Defined (device : IioDevice) (name : CText) (id : ℕ) : Prop :=
  (iioGenerateDeviceXml device name id none (-1)).isSome = true

variable {device : IioDevice} {name : CText} {id : ℕ} {b c : Sink} {actions : List XmlAction} {n : ℤ}

lemma runXml_ret (h : runXml b actions = some (n, c)) (hn : isErrValue n = true) :
    ∃ code, .ret code ∈ actions := by
  induction actions generalizing b with
  | nil =>
    simp only [runXml, Option.some.injEq, Prod.mk.injEq] at h
    rw [← h.1, isErrValue, decide_eq_true_iff] at hn
    omega
  | cons a rest ih =>
    cases a with
    | print text =>
      rw [runXml] at h
      split_ifs at h
      obtain ⟨code, hcode⟩ := ih h
      exact ⟨code, List.mem_cons_of_mem _ hcode⟩
    | ret code => exact ⟨code, List.mem_cons_self⟩
    | undefined => simp [runXml] at h

/-- What does not print ends the function, and with a result only by an early return. -/
lemma runXml_stops (h : runXml b actions = some (n, c)) (hclean : ∀ a ∈ actions, a.Clean)
    {a : XmlAction} (ha : a ∈ actions) (hp : a.prints = false) : isErrValue n = true := by
  induction actions generalizing b with
  | nil => exact absurd ha List.not_mem_nil
  | cons e rest ih =>
    cases e with
    | print text =>
      rw [runXml] at h
      split_ifs at h
      rcases List.mem_cons.mp ha with rfl | ha
      · cases hp
      · exact ih h (fun e he => hclean e (List.mem_cons_of_mem _ he)) ha
    | ret code =>
      simp only [runXml, Option.some.injEq, Prod.mk.injEq] at h
      exact h.1 ▸ hclean _ List.mem_cons_self
    | undefined => simp [runXml] at h

namespace IioChannel

variable {ch : IioChannel} {attr : IioAttribute} {code : ℤ}

lemma filename_prints : (ch.filename attr).prints = false ↔
    ch.diferential = true ∧ ch.indexed = false ∧ attr.shared = .iioSeparate := by
  unfold filename
  cases attr.shared <;> cases ch.diferential <;> cases ch.indexed <;> simp [XmlAction.prints]

lemma ret_mem_xml (h : .ret code ∈ ch.xml) :
    ∃ attr ∈ ch.attributes, (ch.filename attr).prints = false := by
  unfold xml at h
  cases hid : ch.printChId with
  | none => simp [hid] at h
  | some chId =>
    simp only [hid, List.mem_append, List.mem_flatMap, attributeXml, List.mem_cons,
      List.not_mem_nil, or_false, reduceCtorEq, false_or] at h
    rcases h with (hname | htype) | ⟨attr, hattr, hret⟩
    · cases hn : ch.name with
      | none => simp [hn] at hname
      | some name => simp [hn] at hname
    · cases ht : ch.scanType with
      | none => simp [ht] at htype
      | some type => simp [ht] at htype
    · exact ⟨attr, hattr, hret ▸ rfl⟩

lemma xml_stops (hattr : attr ∈ ch.attributes) (hp : (ch.filename attr).prints = false) :
    ∃ a ∈ ch.xml, a.prints = false := by
  unfold xml
  cases ch.printChId with
  | none => exact ⟨.undefined, List.mem_singleton_self _, rfl⟩
  | some chId =>
    have hmem : ch.filename attr ∈ ch.attributes.flatMap ch.attributeXml :=
      List.mem_flatMap.mpr ⟨attr, hattr, by simp [attributeXml]⟩
    exact ⟨_, List.mem_append_left _ (List.mem_append_right _ hmem), hp⟩

end IioChannel

namespace IioDevice

variable {code : ℤ}

lemma ret_mem_xml (h : .ret code ∈ device.xml name id) : ∃ ch ∈ device.channels, .ret code ∈ ch.xml := by
  simp only [xml, List.mem_append, List.mem_singleton, List.mem_flatMap, List.mem_map,
    reduceCtorEq, and_false, exists_false, or_false, false_or] at h
  rcases h with h | h
  · exact h
  · split_ifs at h <;> simp at h

lemma mem_xml_of_channel {ch : IioChannel} {a : XmlAction} (hch : ch ∈ device.channels)
    (ha : a ∈ ch.xml) : a ∈ device.xml name id := by
  simp only [xml, List.mem_append, List.mem_flatMap]
  exact .inl (.inl (.inl (.inl (.inl (.inr ⟨ch, hch, ha⟩)))))

/-- The only error is that of a channel that has to be indexed. -/
theorem isErrValue_iff {result : List Char}
    (h : iioGenerateDeviceXml device name id none (-1) = some (n, result)) :
    isErrValue n = true ↔ device.Unindexed := by
  obtain ⟨⟨m, c⟩, hrun, heq⟩ := Option.map_eq_some_iff.mp h
  obtain ⟨rfl, -⟩ := Prod.mk.inj heq
  constructor
  · intro hn
    obtain ⟨code, hcode⟩ := runXml_ret hrun hn
    obtain ⟨ch, hch, hret⟩ := ret_mem_xml hcode
    obtain ⟨attr, hattr, hp⟩ := ch.ret_mem_xml hret
    obtain ⟨hdif, hidx, hshared⟩ := IioChannel.filename_prints.mp hp
    exact ⟨ch, hch, hdif, hidx, attr, hattr, hshared⟩
  · rintro ⟨ch, hch, hdif, hidx, attr, hattr, hshared⟩
    have hp := IioChannel.filename_prints.mpr ⟨hdif, hidx, hshared⟩
    obtain ⟨a, ha, hstop⟩ := ch.xml_stops hattr hp
    exact runXml_stops hrun device.xml_clean (mem_xml_of_channel hch ha) hstop

end IioDevice

namespace IioDesc

/-- Memory is granted for the interface, and for the XML with what
`iio_generate_device_xml` returned as the bytes to add. -/
def Grants (desc : IioDesc) (device : IioDevice) (name : CText) (mem : RegisterMem) : Prop :=
  mem.calloc = true ∧ ∃ block r aux, desc.xmlDesc = some block ∧
    iioGenerateDeviceXml device name desc.devCount none (-1) = some r ∧
    reallocBlock block (desc.xmlSize + UInt32.ofInt r.1).toInt32 mem = some aux

/-- One of the steps of the registration fails. -/
def RegisterFails (desc : IioDesc) (device : IioDevice) (name : CText) (mem : RegisterMem) : Prop :=
  ¬desc.Grants device name mem ∨ mem.push = false ∨ device.Unindexed

/-- A registration with a step that fails returns an error, and the descriptor with the block
that it points to is what it was. -/
def RegistersAtomically (desc : IioDesc) (device : IioDevice) (name : CText) (mem : RegisterMem) :
    Prop :=
  desc.RegisterFails device name mem →
    ∃ ret desc', iioRegister desc device name mem = some (ret, desc') ∧ isErrValue ret = true ∧
      desc'.xmlDesc.isSome = true ∧ desc' = desc

variable {desc : IioDesc} {mem : RegisterMem}

lemma register_not_granted (hblock : desc.xmlDesc.isSome = true)
    (hgen : device.Defined name desc.devCount) (h : ¬desc.Grants device name mem) :
    iioRegister desc device name mem = some (-ENOMEM, desc) := by
  obtain ⟨block, hblock⟩ := Option.isSome_iff_exists.mp hblock
  obtain ⟨r, hr⟩ := Option.isSome_iff_exists.mp hgen
  unfold iioRegister
  by_cases hcalloc : mem.calloc = true
  · have hnone : reallocBlock block (desc.xmlSize + UInt32.ofInt r.1).toInt32 mem = none := by
      cases haux : reallocBlock block (desc.xmlSize + UInt32.ofInt r.1).toInt32 mem with
      | none => rfl
      | some aux => exact absurd ⟨hcalloc, block, r, aux, hblock, hr, haux⟩ h
    simp only [hcalloc, hblock, hr, hnone, Bool.not_true, Bool.false_eq_true, if_false,
      Option.bind_eq_bind, Option.bind_some]
  · simp only [hcalloc, Bool.not_false, if_true]

lemma register_push_failed (h : desc.Grants device name mem) (hpush : mem.push = false) :
    iioRegister desc device name mem = some (FAILURE, { desc with xmlDesc := none }) := by
  obtain ⟨hcalloc, block, r, aux, hblock, hr, haux⟩ := h
  have herr : isErrValue FAILURE = true := by decide
  unfold iioRegister
  simp only [hcalloc, hblock, hr, haux, hpush, seqAdd, herr, Bool.not_true, Bool.false_eq_true,
    if_true, if_false, Option.bind_eq_bind, Option.bind_some]

/-- With an interface in the list no error is returned, whatever the XML is. -/
lemma register_pushed {ret : ℤ} {desc' : IioDesc} (h : desc.Grants device name mem)
    (hpush : mem.push = true) (hret : iioRegister desc device name mem = some (ret, desc')) :
    ret = SUCCESS := by
  obtain ⟨hcalloc, block, r, aux, hblock, hr, haux⟩ := h
  have hok : isErrValue SUCCESS = false := by decide
  unfold iioRegister at hret
  simp only [hcalloc, hblock, hr, haux, hpush, seqAdd, hok, Bool.not_true, Bool.false_eq_true,
    if_true, if_false, Option.bind_eq_bind, Option.bind_some] at hret
  split_ifs at hret
  · obtain ⟨_, -, hret⟩ := Option.bind_eq_some_iff.mp hret
    cases hret
  · obtain ⟨_, -, hret⟩ := Option.bind_eq_some_iff.mp hret
    obtain ⟨_, -, hret⟩ := Option.bind_eq_some_iff.mp hret
    exact (Prod.mk.inj (Option.some.inj hret)).1.symm

lemma not_atomic_of_push_failed (h : desc.Grants device name mem) (hpush : mem.push = false) :
    ¬desc.RegistersAtomically device name mem := by
  intro ha
  obtain ⟨ret, desc', hret, -, hsome, -⟩ := ha (.inr (.inl hpush))
  rw [register_push_failed h hpush, Option.some.injEq, Prod.mk.injEq] at hret
  rw [← hret.2] at hsome
  cases hsome

lemma not_atomic_of_unindexed (h : desc.Grants device name mem) (hpush : mem.push = true)
    (hun : device.Unindexed) : ¬desc.RegistersAtomically device name mem := by
  intro ha
  obtain ⟨ret, desc', hret, herr, -, -⟩ := ha (.inr (.inr hun))
  rw [register_pushed h hpush hret] at herr
  cases herr

end IioDesc

/-- A registration is atomic if and only if memory is refused, or the list takes the interface
and every channel that has to be indexed is. -/
theorem iioRegister_atomic_iff {desc : IioDesc} {mem : RegisterMem}
    (hblock : desc.xmlDesc.isSome = true) (hgen : device.Defined name desc.devCount) :
    desc.RegistersAtomically device name mem ↔
      (desc.Grants device name mem → mem.push = true ∧ ¬device.Unindexed) := by
  constructor
  · intro ha hg
    cases hpush : mem.push with
    | false => exact absurd ha (IioDesc.not_atomic_of_push_failed hg hpush)
    | true => exact ⟨rfl, fun hun => IioDesc.not_atomic_of_unindexed hg hpush hun ha⟩
  · intro hcond hfails
    have hno : ¬desc.Grants device name mem := by
      intro hg
      obtain ⟨hpush, hindexed⟩ := hcond hg
      rcases hfails with hno | hfail | hun
      · exact hno hg
      · rw [hpush] at hfail
        cases hfail
      · exact hindexed hun
    exact ⟨-ENOMEM, desc, IioDesc.register_not_granted hblock hgen hno, by decide, hblock, rfl⟩

/-- The first registration of a device, without memory for the longer XML. -/
theorem iioRegister_atomic_refused : ∃ desc, iioInit (fun _ => NUL) = some desc ∧
    desc.RegistersAtomically {} adc { realloc := none } := by
  obtain ⟨desc, hdesc, hholds, -, hcount⟩ := IioDesc.iioInit_holds fun _ => NUL
  obtain ⟨c, hblock⟩ := hholds.block
  refine ⟨desc, hdesc, ?_⟩
  rw [iioRegister_atomic_iff (Option.isSome_of_eq_some hblock)]
  · rintro ⟨-, block, r, aux, -, -, haux⟩
    exact absurd (IioDesc.reallocBlock_isSome haux) (by decide)
  · rw [IioDevice.Defined, hcount, (adc_accepted 0 (by decide)).count, Option.isSome_some]

/-- A differential channel with an attribute of its own and no index. -/
def unindexedDevice : IioDevice where
  channels := [{
    name := none, chType := .iioVoltage, channel := 0, channel2 := 1, scanIndex := 0
    scanType := none, attributes := [{ name := ⟨"raw", by decide⟩ }]
    chOut := false, modified := false, indexed := false, diferential := true }]

lemma unindexedDevice_result :
    iioGenerateDeviceXml unindexedDevice adc 0 none (-1) = some (-EINVAL, []) := by
  decide

lemma IioDesc.grants_of_size {desc : IioDesc} {fresh : ℕ → Char} {push : Bool}
    {r : ℤ × List Char} (hblock : desc.xmlDesc.isSome = true)
    (hr : iioGenerateDeviceXml device name desc.devCount none (-1) = some r)
    (hsize : 0 ≤ desc.xmlSize.toNat + r.1 ∧ desc.xmlSize.toNat + r.1 < 2 ^ 31) :
    desc.Grants device name { realloc := some fresh, push := push } := by
  obtain ⟨block, hblock⟩ := Option.isSome_iff_exists.mp hblock
  have hneg : ¬(desc.xmlSize + UInt32.ofInt r.1).toInt32 < 0 := by
    rw [Word.toInt32_neg, UInt32.toNat_add]
    have := Word.toNat_ofInt r.1
    lia
  exact ⟨rfl, block, r, _, hblock, hr, if_neg hneg⟩

/-- The list has no memory for the first device, or the first device has such a channel. -/
theorem iioRegister_not_atomic : ∃ desc, iioInit (fun _ => NUL) = some desc ∧
    ¬desc.RegistersAtomically {} adc { realloc := some fun _ => NUL, push := false } ∧
    ¬desc.RegistersAtomically unindexedDevice adc { realloc := some fun _ => NUL } := by
  obtain ⟨desc, hdesc, hholds, -, hcount⟩ := IioDesc.iioInit_holds fun _ => NUL
  obtain ⟨c, hblock⟩ := hholds.block
  have hsome := Option.isSome_of_eq_some hblock
  have hheader := ten_le_length_header
  have hbound := IioDesc.length_strings
  have hsize : 22 ≤ desc.xmlSize.toNat ∧ desc.xmlSize.toNat < 2 ^ 30 + 2 := by
    have hend := length_headerEnd
    rw [hholds.size]
    generalize header.length = k at hheader hbound
    omega
  have hadc := (adc_accepted desc.devCount (by rw [hcount]; decide)).count
  rw [length_adc desc.devCount (by rw [hcount]; decide)] at hadc
  have hun := unindexedDevice_result
  rw [← hcount] at hun
  refine ⟨desc, hdesc, ?_, ?_⟩
  · refine IioDesc.not_atomic_of_push_failed (IioDesc.grants_of_size hsome hadc ?_) rfl
    push_cast
    omega
  · refine IioDesc.not_atomic_of_unindexed (IioDesc.grants_of_size hsome hun ?_) rfl ?_
    · simp only [EINVAL]
      omega
    · exact ⟨_, List.mem_singleton_self _, rfl, rfl, _, List.mem_singleton_self _, rfl⟩

end NoOS
