import NoOS.Iio.XmlBlock

/-!
# The context XML

The XML, its sizes and the list of interfaces describe the registered devices as long as
the key of `iio_unregister` finds no device.
-/

namespace NoOS
open CString Trace

namespace IioRun

/-- The text, its sizes and the list all describe the registered devices. -/
structure XmlConsistent (r : IioRun) : Prop where
  text : ∃ block, r.desc.xmlDesc = some block ∧ read block = some r.xml
  toLastDev : r.desc.xmlSizeToLastDev.toNat + headerEnd.length = r.xml.length
  covers : r.xml.length < r.desc.xmlSize.toNat
  list : r.desc.interfacesList.Perm (r.registered.map Registration.iface)
  find : ∀ d ∈ r.registered, iioGetInterface r.desc (deviceId d.id) = some (some d.iface)

/-- The devices are those that `iio_generate_device_xml` accepts. -/
def Accepts (r : IioRun) : IioCall → Prop
  | .register device name _ => device.Accepted name r.desc.devCount
  | .unregister _ _ => True

/-- The list has memory for an interface whose XML fits, the id fits in `dev_id`, and the key
of `iio_unregister` is no id in the list. -/
def Safe (r : IioRun) : IioCall → Prop
  | .register _ _ mem =>
    mem.calloc = true → mem.realloc.isSome = true → mem.push = true ∧ r.desc.devCount < 1000
  | .unregister _ devId => ∀ e ∈ r.desc.interfacesList, e.devId ≠ devId.text.toList

/-- What the property rests on: the text of the descriptor, and the list in reverse order. -/
structure Inv (r : IioRun) : Prop where
  holds : r.desc.Holds (header ++ r.registered.flatMap Registration.xml)
  count : r.desc.devCount = r.count
  bound : r.count ≤ 1000
  list : r.desc.interfacesList = (r.registered.map Registration.iface).reverse
  ids : r.registered.map Registration.id = List.range r.count

variable {r : IioRun} {device : IioDevice} {name : CText} {mem : RegisterMem}

lemma nul_notMem_xml (h : r.Inv) : NUL ∉ r.xml := by
  simp only [xml, List.mem_append, nul_notMem_headerEnd, or_false]
  simpa using h.holds.nul_notMem

namespace Inv

lemma mem_list (h : r.Inv) {e : IioInterface} :
    e ∈ r.desc.interfacesList ↔ ∃ d ∈ r.registered, d.iface = e := by
  rw [h.list, List.mem_reverse, List.mem_map]

lemma id_inj (h : r.Inv) {d e : Registration} (hd : d ∈ r.registered) (he : e ∈ r.registered)
    (hid : d.id = e.id) : d = e :=
  List.inj_on_of_nodup_map (h.ids ▸ List.nodup_range) hd he hid

lemma id_lt (h : r.Inv) {d : Registration} (hd : d ∈ r.registered) : d.id < r.count := by
  rw [← List.mem_range, ← h.ids]
  exact List.mem_map_of_mem hd

lemma find? (h : r.Inv) {d : Registration} (hd : d ∈ r.registered) :
    (r.desc.interfacesList.find? fun e => iioCmpInterfaces e.devId (deviceId d.id) = 0) =
      some d.iface := by
  have hcmp : ∀ e ∈ r.registered,
      iioCmpInterfaces e.iface.devId (deviceId d.id) = 0 → e = d := by
    intro e he hz
    exact h.id_inj he hd
      (deviceId_inj ((iioCmpInterfaces_eq_zero (nul_notMem_deviceId d.id) e.id).mp hz))
  have hfound : (r.desc.interfacesList.find? fun e =>
      iioCmpInterfaces e.devId (deviceId d.id) = 0).isSome = true := by
    rw [List.find?_isSome]
    refine ⟨d.iface, h.mem_list.mpr ⟨d, hd, rfl⟩, ?_⟩
    exact decide_eq_true ((iioCmpInterfaces_eq_zero (nul_notMem_deviceId d.id) d.id).mpr rfl)
  obtain ⟨e, he⟩ := Option.isSome_iff_exists.mp hfound
  obtain ⟨d', hd', rfl⟩ := h.mem_list.mp (List.mem_of_find?_eq_some he)
  have hz := List.find?_some he
  rw [he, hcmp d' hd' (of_decide_eq_true hz)]

lemma consistent (h : r.Inv) : r.XmlConsistent where
  text := by
    obtain ⟨c, hc⟩ := h.holds.block
    exact ⟨_, hc, read_eq (nul_notMem_xml h)⟩
  toLastDev := by simp only [h.holds.toLastDev, xml, List.length_append]
  covers := by
    simp only [h.holds.size, xml, List.length_append]
    lia
  list := by
    rw [h.list]
    exact List.reverse_perm _
  find := by
    intro d hd
    have hlen := length_deviceId (Nat.lt_of_lt_of_le (h.id_lt hd) h.bound)
    rw [iioGetInterface, if_neg (Nat.not_lt.mpr hlen), h.find? hd]

lemma lt_front (h : r.Inv) :
    ∀ e ∈ r.desc.interfacesList, decide (0 < iioCmpInterfaces e.devId []) = true := by
  intro e he
  obtain ⟨d, -, rfl⟩ := h.mem_list.mp he
  exact decide_eq_true (strcmp_nil_pos (nul_notMem_deviceId d.id) (deviceId_ne_nil d.id))

end Inv

lemma start_inv (uninit : ℕ → Char) :
    ∃ r, start uninit = .ok r ∧ r.Inv ∧ r.registered = [] ∧ r.count = 0 := by
  obtain ⟨desc, hdesc, hholds, hlist, hcount⟩ := IioDesc.iioInit_holds uninit
  have hinv : Inv { desc := desc } := {
    holds := by rwa [List.flatMap_nil, List.append_nil]
    count := hcount
    bound := Nat.zero_le 1000
    list := hlist
    ids := rfl }
  exact ⟨{ desc := desc }, congrArg ofInit hdesc, hinv, rfl, rfl⟩

/-- The run after a device has been registered. -/
def push (r : IioRun) (device : IioDevice) (name : CText) (desc : IioDesc) : IioRun where
  desc := desc
  registered := r.registered ++ [⟨device, name, r.count⟩]
  count := r.count + 1

lemma step_granted (h : r.Inv) (ha : device.Accepted name r.desc.devCount) (hcalloc : mem.calloc = true)
    (hpush : mem.push = true) (hbound : r.desc.devCount < 1000)
    (hsome : ¬IioDesc.Holds.Refused r.desc device name mem) :
    ∃ desc, r.step (.register device name mem) = .ok (r.push device name desc) ∧
      (r.push device name desc).Inv := by
  simp only [IioDesc.Holds.Refused, Classical.not_imp, not_forall] at hsome
  obtain ⟨-, block, hblock, hsome⟩ := hsome
  obtain ⟨aux, haux⟩ := Option.ne_none_iff_exists'.mp hsome
  obtain ⟨desc, hret, hholds, hlist, hcount⟩ :=
    h.holds.register_granted ha hcalloc hblock haux hpush hbound h.lt_front
  have hok : isErrValue SUCCESS = false := by decide
  refine ⟨desc, ?_, ?_⟩
  · simp only [step, hret, hok, Bool.false_eq_true, if_false, push]
  · rw [h.count] at hholds hlist hcount hbound
    exact {
      holds := by simpa [push, Registration.xml] using hholds
      count := hcount
      bound := hbound
      list := by simp [push, hlist, h.list, Registration.iface]
      ids := by simp [push, h.ids, List.range_succ] }

lemma iioUnregister_notFound {devId : CText} (h : r.Inv)
    (hs : ∀ e ∈ r.desc.interfacesList, e.devId ≠ devId.text.toList) :
    iioUnregister r.desc name devId.text.toList = some (FAILURE, r.desc) := by
  have hnone : (r.desc.interfacesList.find? fun e =>
      iioCmpInterfaces e.devId devId.text.toList = 0) = none := by
    rw [List.find?_eq_none]
    intro e he hz
    obtain ⟨d, -, rfl⟩ := h.mem_list.mp he
    exact hs _ he ((iioCmpInterfaces_eq_zero devId.nul_notMem d.id).mp (of_decide_eq_true hz))
  rw [iioUnregister, hnone]

theorem step_inv {call : IioCall} (h : r.Inv) (ha : r.Accepts call) (hs : r.Safe call) :
    Unless (fun _ => False) Inv (r.step call) := by
  cases call with
  | register device name mem =>
    by_cases hno : IioDesc.Holds.Refused r.desc device name mem
    · have herr : isErrValue (-ENOMEM) = true := by decide
      simp only [step, h.holds.register_refused ha hno, herr, if_true]
      exact h
    · have hsome := hno
      simp only [IioDesc.Holds.Refused, Classical.not_imp, not_forall] at hsome
      obtain ⟨hcalloc, block, -, hsome⟩ := hsome
      obtain ⟨aux, haux⟩ := Option.ne_none_iff_exists'.mp hsome
      obtain ⟨hpush, hbound⟩ := hs hcalloc (IioDesc.reallocBlock_isSome haux)
      obtain ⟨desc, hstep, hinv⟩ := step_granted h ha hcalloc hpush hbound hno
      rw [hstep]
      exact hinv
  | unregister name devId =>
    simp only [step, iioUnregister_notFound h hs]
    exact h

end IioRun

/-- In a run without an unregistration that finds a device, without a list that runs out of
memory and with at most 1000 devices, the XML, its sizes and the list describe the devices
that are registered. -/
theorem iio_xml_consistent (uninit : ℕ → Char) (calls : List IioCall)
    (ha : Guarded (orFault IioRun.step) (untilFault IioRun.Accepts) (IioRun.start uninit) calls)
    (hs : Guarded (orFault IioRun.step) (untilFault IioRun.Safe) (IioRun.start uninit) calls) :
    Always (orFault IioRun.step) (Unless (fun _ => False) IioRun.XmlConsistent)
      (IioRun.start uninit) calls := by
  obtain ⟨r, hr, hinv, -, -⟩ := IioRun.start_inv uninit
  rw [hr] at ha hs ⊢
  have hboth : Guarded (orFault IioRun.step)
      (untilFault fun r call => r.Accepts call ∧ r.Safe call) (.ok r) calls := by
    intro pre e hpre
    have h1 := ha pre e hpre
    have h2 := hs pre e hpre
    revert h1 h2
    cases run (orFault IioRun.step) (.ok r) pre with
    | ok t => exact And.intro
    | error f => exact fun h _ => h
  refine (hboth.unless hinv fun t e ht hte => IioRun.step_inv ht hte.1 hte.2).mono ?_
  intro t ht
  cases t with
  | ok t => exact ht.consistent
  | error f => exact ht

namespace IioRun

variable {r : IioRun} {name : CText}

lemma xml_ne_nil (d : Registration) : d.xml ≠ [] := by
  have hmem : '<' ∈ d.xml := by
    refine List.mem_flatMap.mpr ⟨_, List.mem_append_left _ (List.mem_append_left _
      (List.mem_append_left _ (List.mem_append_left _ (List.mem_append_left _
      (List.mem_append_left _ List.mem_cons_self))))), ?_⟩
    simp [XmlAction.chars, toString_string]
  exact List.ne_nil_of_mem hmem

lemma length_xml_erase {d : Registration} (hd : d ∈ r.registered)
    (hname : d.name.text = name.text) {desc : IioDesc} :
    (xml { r with
      desc := desc
      registered := r.registered.eraseP fun d => d.name.text = name.text }).length <
      r.xml.length := by
  obtain ⟨e, l₁, l₂, -, -, hreg, herase⟩ := List.exists_of_eraseP hd
    (p := fun d => decide (d.name.text = name.text)) (decide_eq_true hname)
  have he := List.length_pos_iff.mpr (xml_ne_nil e)
  rw [xml, xml, herase, hreg]
  simp only [List.length_append, List.flatMap_append, List.flatMap_cons]
  lia

lemma XmlConsistent.length_text (h : r.XmlConsistent) {block t : List Char}
    (hb : r.desc.xmlDesc = some block) (hread : read block = some t) :
    t.length = r.xml.length := by
  obtain ⟨block', hb', hread'⟩ := h.text
  rw [hb, Option.some.injEq] at hb'
  rw [← hb', hread, Option.some.injEq] at hread'
  rw [hread']

/-- Whenever a device is found, the text keeps the length that it had with the device. -/
theorem unregister_inconsistent (h : r.Inv) {devId : CText} {d e : Registration}
    (hd : d ∈ r.registered) (hname : d.name.text = name.text)
    (he : e ∈ r.registered) (hid : deviceId e.id = devId.text.toList)
    (ha : e.device.Accepted e.name r.desc.devCount) :
    ¬Unless (fun _ => False) XmlConsistent (r.step (.unregister name devId)) := by
  have hfind := h.find? he
  rw [hid] at hfind
  intro hcons
  cases hret : iioUnregister r.desc name devId.text.toList with
  | none => simp only [step, hret, Unless] at hcons
  | some result =>
    obtain ⟨ret, desc⟩ := result
    obtain ⟨rfl, block, t, hblock, hread, hlen⟩ := h.holds.unregister_found hfind ha hret
    have hok : isErrValue SUCCESS = false := by decide
    simp only [step, hret, hok, Bool.false_eq_true, if_false] at hcons
    have htext := XmlConsistent.length_text hcons hblock hread
    rw [hlen, ← List.length_append] at htext
    exact absurd htext (length_xml_erase hd hname).ne'

end IioRun

def adc : CText := ⟨"adc", by decide⟩

/-- The only device is unregistered, and the stack happens to hold its id. -/
def unregisterAdc : List IioCall :=
  [.register {} adc { realloc := some fun _ => NUL }, .unregister adc ⟨"device0", by decide⟩]

lemma length_adc (id : ℕ) (h : id < 10) : (deviceXml {} adc id).length = 41 := by
  have hid : (toString id).toList.length = 1 := by
    rw [Nat.toString_eq_repr, Nat.toList_repr, Nat.toDigits_of_lt_base h, List.length_singleton]
  simp only [deviceXml, IioDevice.xml, List.flatMap_nil, List.map_nil, List.append_nil, Bool.or_self,
    Bool.false_eq_true, if_false, List.flatMap_append, List.flatMap_singleton, XmlAction.chars,
    String.toList_append, List.length_append, toString_string, hid]
  decide

lemma adc_accepted (id : ℕ) (h : id < 10) : IioDevice.Accepted {} adc id := by
  refine IioDevice.accepted_of_prints ?_ (by rw [length_adc id h]; decide)
  simp [IioDevice.xml, XmlAction.prints]

/-- With all the memory that it asks for, the first device is registered. -/
lemma IioRun.start_register (uninit fresh : ℕ → Char) : ∃ r s, IioRun.start uninit = .ok r ∧
    r.Inv ∧ r.desc.devCount = 0 ∧ r.step (.register {} adc { realloc := some fresh }) = .ok s ∧
    s.Inv ∧ s.desc.devCount = 1 ∧ s.registered = [⟨{}, adc, 0⟩] := by
  obtain ⟨r, hr, hinv, hreg, hcount⟩ := IioRun.start_inv uninit
  have hdev : r.desc.devCount = 0 := hinv.count.trans hcount
  have hsize : r.desc.xmlSize.toNat + 41 < 2 ^ 31 := by
    have hstrings := IioDesc.length_strings
    have hsize := hinv.holds.size
    rw [hreg, List.flatMap_nil, List.append_nil] at hsize
    generalize header.length + headerEnd.length = k at hstrings hsize
    lia
  have hno : ¬IioDesc.Holds.Refused r.desc {} adc { realloc := some fresh } := by
    obtain ⟨c, hblock⟩ := hinv.holds.block
    have hadd := Word.toNat_add_ofInt (a := r.desc.xmlSize) (n := 41) (by lia)
    have hneg : ¬(r.desc.xmlSize + UInt32.ofInt (41 : ℕ)).toInt32 < 0 := by
      rw [Word.toInt32_neg, hadd]
      lia
    intro hno
    have hnone := hno rfl _ hblock
    rw [hdev, length_adc 0 (by decide), reallocBlock, if_neg hneg] at hnone
    exact absurd hnone (by simp)
  obtain ⟨desc, hstep, hpush⟩ := step_granted hinv (by rw [hdev]; exact adc_accepted 0 (by decide))
    rfl rfl (by omega) hno
  have hcount' : (r.push {} adc desc).count = 1 := by rw [push, hcount]
  exact ⟨r, _, hr, hinv, hdev, hstep, hpush, hpush.count.trans hcount', by simp [push, hreg, hcount]⟩

theorem iio_xml_inconsistent :
    Guarded (orFault IioRun.step) (untilFault IioRun.Accepts) (IioRun.start fun _ => NUL)
      unregisterAdc ∧
    ¬Always (orFault IioRun.step) (Unless (fun _ => False) IioRun.XmlConsistent)
      (IioRun.start fun _ => NUL) unregisterAdc := by
  obtain ⟨r, s, hr, hinv, hr0, hstep, hs, hs1, hreg⟩ := IioRun.start_register
    (fun _ => NUL) (fun _ => NUL)
  rw [hr, unregisterAdc, guarded_cons, guarded_cons, orFault_ok, hstep]
  constructor
  · refine ⟨?_, trivial, guarded_nil⟩
    change IioDevice.Accepted {} adc r.desc.devCount
    rw [hr0]
    exact adc_accepted 0 (by decide)
  · intro h
    have hlast := h.last
    have hmem : (⟨{}, adc, 0⟩ : Registration) ∈ s.registered := by simp [hreg]
    rw [run_cons, run_cons, run_nil, orFault_ok, hstep, orFault_ok] at hlast
    refine IioRun.unregister_inconsistent hs hmem rfl hmem (by decide) ?_ hlast
    rw [hs1]
    exact adc_accepted 1 (by decide)

/-- With another text on the stack the device is not found, and stays registered. -/
theorem iio_xml_consistent_adc :
    Always (orFault IioRun.step) (Unless (fun _ => False) IioRun.XmlConsistent)
      (IioRun.start fun _ => NUL)
      [.register {} adc { realloc := some fun _ => NUL }, .unregister adc ⟨"", by decide⟩] := by
  obtain ⟨r, s, hr, hinv, hr0, hstep, hs, hs1, hreg⟩ := IioRun.start_register
    (fun _ => NUL) (fun _ => NUL)
  apply iio_xml_consistent
  · rw [hr, guarded_cons, guarded_cons, orFault_ok, hstep]
    refine ⟨?_, trivial, guarded_nil⟩
    change IioDevice.Accepted {} adc r.desc.devCount
    rw [hr0]
    exact adc_accepted 0 (by decide)
  · rw [hr, guarded_cons, guarded_cons, orFault_ok, hstep]
    refine ⟨fun _ _ => ⟨rfl, ?_⟩, ?_, guarded_nil⟩
    · rw [hr0]
      decide
    · intro e he
      obtain ⟨d, -, rfl⟩ := hs.mem_list.mp he
      exact deviceId_ne_nil d.id

end NoOS
