import NoOS.Iio.DeviceXml
import NoOS.Lib.Trace
import NoOS.Util.ListSequence

/-!
# Registered interfaces

Translation of `iio_register`, `iio_unregister`, `iio_get_interface` and of the part of
`iio_init` that sets up the XML. The list of interfaces is the sequence that the priority
list stands for. A function has no result when its behaviour is undefined.
-/

namespace NoOS
open CString

/-- The lines that make up `header`. -/
def headerLines : List String :=
  [ "<?xml version=\"1.0\" encoding=\"utf-8\"?>",
    "<!DOCTYPE context [",
    "<!ELEMENT context (device | context-attribute)*>",
    "<!ELEMENT context-attribute EMPTY>",
    "<!ELEMENT device (channel | attribute | debug-attribute | buffer-attribute)*>",
    "<!ELEMENT channel (scan-element?, attribute*)>",
    "<!ELEMENT attribute EMPTY>",
    "<!ELEMENT scan-element EMPTY>",
    "<!ELEMENT debug-attribute EMPTY>",
    "<!ELEMENT buffer-attribute EMPTY>",
    "<!ATTLIST context name CDATA #REQUIRED description CDATA #IMPLIED>",
    "<!ATTLIST context-attribute name CDATA #REQUIRED value CDATA #REQUIRED>",
    "<!ATTLIST device id CDATA #REQUIRED name CDATA #IMPLIED>",
    "<!ATTLIST channel id CDATA #REQUIRED type (input|output) #REQUIRED name CDATA #IMPLIED>",
    "<!ATTLIST scan-element index CDATA #REQUIRED format CDATA #REQUIRED scale CDATA #IMPLIED>",
    "<!ATTLIST attribute name CDATA #REQUIRED filename CDATA #IMPLIED>",
    "<!ATTLIST debug-attribute name CDATA #REQUIRED>",
    "<!ATTLIST buffer-attribute name CDATA #REQUIRED>",
    "]>",
    "<context name=\"xml\" description=\"no-OS analog 1.1.0-g0000000 #1 Tue Nov 26 09:52:32 IST 2019 armv7l\" >",
    "<context-attribute name=\"no-OS\" value=\"1.1.0-g0000000\" />" ]

def header : List Char := headerLines.flatMap String.toList

def headerEnd : List Char := "</context>".toList

/-- `dev_id` is an array of 10 characters. -/
structure IioInterface where
  devId : List Char
  name : CText
  devDescriptor : IioDevice

/-- `xmlDesc` is `none` when the pointer is to memory that has been freed. -/
structure IioDesc where
  interfacesList : List IioInterface := []
  xmlDesc : Option (List Char)
  xmlSize : UInt32
  xmlSizeToLastDev : UInt32
  devCount : ℕ := 0

/-- Compares the `dev_id` of two interfaces. -/
def iioCmpInterfaces (a b : List Char) : ℤ := strcmp a b

/-- `uninit` is what the memory from `malloc` contains. -/
def iioInit (uninit : ℕ → Char) : Option IioDesc := do
  let xmlSize := (header.length + 1) + (headerEnd.length + 1)
  let block := writeAt ((List.range xmlSize).map uninit) 0 (header ++ [NUL])
  let block ← strcat block headerEnd
  some {
    xmlDesc := some block
    xmlSize := UInt32.ofNat xmlSize
    xmlSizeToLastDev := UInt32.ofNat header.length }

/-- Which of the requests of `iio_register` for memory are granted; a longer block goes on
with bytes that are not initialised. -/
structure RegisterMem where
  calloc : Bool := true
  realloc : Option (ℕ → Char)
  push : Bool := true

/-- No block has 2^31 bytes or more. -/
def reallocBlock (block : List Char) (newSize : Int32) (mem : RegisterMem) : Option (List Char) :=
  if newSize < 0 then none
  else
    let size := newSize.toInt.toNat
    mem.realloc.map fun uninit =>
      block.take size ++ (List.range (size - block.length)).map uninit

/-- "device%d" -/
def deviceId (id : ℕ) : List Char := (s!"device{id}").toList

def iioRegister (desc : IioDesc) (devDescriptor : IioDevice) (name : CText) (mem : RegisterMem) :
    Option (ℤ × IioDesc) :=
  if !mem.calloc then some (-ENOMEM, desc)
  else do
    let block ← desc.xmlDesc
    let (n, _) ← iioGenerateDeviceXml devDescriptor name desc.devCount none (-1)
    let newSize := (desc.xmlSize + UInt32.ofInt n).toInt32
    match reallocBlock block newSize mem with
    | none => some (-ENOMEM, desc)
    | some aux =>
      let iface : IioInterface := { devId := [], name := name, devDescriptor := devDescriptor }
      -- the interface is put into the list while its id is still empty
      let (ret, interfacesList) := seqAdd mem.push
        (insertWhere (fun e => 0 < iioCmpInterfaces e.devId iface.devId)
          { iface with devId := deviceId desc.devCount } desc.interfacesList)
        desc.interfacesList
      if isErrValue ret then some (ret, { desc with xmlDesc := none })
      else
        let off := desc.xmlSizeToLastDev.toNat
        if aux.length < off then none
        else
          let (_, printed) ← iioGenerateDeviceXml devDescriptor name desc.devCount
            (some (aux.drop off)) (newSize.toUInt32 - desc.xmlSizeToLastDev)
          if 10 < (deviceId desc.devCount).length + 1 then none
          else
            let block ← strcat (aux.take off ++ printed) headerEnd
            some (SUCCESS, {
              interfacesList := interfacesList
              xmlDesc := some block
              xmlSize := desc.xmlSize + UInt32.ofInt n
              xmlSizeToLastDev := desc.xmlSizeToLastDev + UInt32.ofInt n
              devCount := desc.devCount + 1 })

/-- `devId` is what the uninitialised `dev_id` of the search key happens to contain; the name is
put into the key and not compared. The freed interface still has its fields. -/
def iioUnregister (desc : IioDesc) (_name : CText) (devId : List Char) :
    Option (ℤ × IioDesc) :=
  match desc.interfacesList.find? (fun e => iioCmpInterfaces e.devId devId = 0) with
  | none => some (FAILURE, desc)
  | some toRemove => do
    let block ← desc.xmlDesc
    let (n, _) ← iioGenerateDeviceXml toRemove.devDescriptor toRemove.name desc.devCount none (-1)
    let off := desc.xmlSizeToLastDev.toNat
    let aux := (off : ℤ) - n
    if aux < 0 ∨ block.length < off then none
    else
      let moved ← read (block.drop off)
      if block.length < aux.toNat + moved.length then none
      else some (SUCCESS, { desc with
        interfacesList :=
          desc.interfacesList.eraseP (fun e => iioCmpInterfaces e.devId devId = 0)
        -- the NUL at the end is not moved
        xmlDesc := some (writeAt block aux.toNat moved)
        xmlSize := desc.xmlSize - UInt32.ofInt n
        xmlSizeToLastDev := desc.xmlSizeToLastDev - UInt32.ofInt n })

/-- The outer `none` is a name that does not fit in `dev_id`, the inner one NULL. -/
def iioGetInterface (desc : IioDesc) (deviceName : List Char) : Option (Option IioInterface) :=
  if 10 < deviceName.length + 1 then none
  else some (desc.interfacesList.find? fun e => iioCmpInterfaces e.devId deviceName = 0)

inductive IioCall
  | register (device : IioDevice) (name : CText) (mem : RegisterMem)
  | unregister (name devId : CText)

/-- A device that has been registered; `id` counts the devices registered before it. -/
structure Registration where
  device : IioDevice
  name : CText
  id : ℕ

namespace Registration

def xml (r : Registration) : List Char := deviceXml r.device r.name r.id

def iface (r : Registration) : IioInterface :=
  { devId := deviceId r.id, name := r.name, devDescriptor := r.device }

end Registration

/-- A context with the devices that are registered, by the results of the calls so far. -/
structure IioRun where
  desc : IioDesc
  registered : List Registration := []
  count : ℕ := 0

inductive IioFault
  | undefined
deriving DecidableEq

namespace IioRun

/-- Before any call. -/
def ofInit : Option IioDesc → Except IioFault IioRun
  | none => .error .undefined
  | some desc => .ok { desc := desc }

def start (uninit : ℕ → Char) : Except IioFault IioRun := ofInit (iioInit uninit)

def step (r : IioRun) : IioCall → Except IioFault IioRun
  | .register device name mem =>
    match iioRegister r.desc device name mem with
    | none => .error .undefined
    | some (ret, desc) =>
      if isErrValue ret then .ok { r with desc := desc }
      else .ok {
        desc := desc
        registered := r.registered ++ [⟨device, name, r.count⟩]
        count := r.count + 1 }
  | .unregister name devId =>
    match iioUnregister r.desc name devId.text.toList with
    | none => .error .undefined
    | some (ret, desc) =>
      if isErrValue ret then .ok { r with desc := desc }
      else .ok { r with
        desc := desc
        registered := r.registered.eraseP fun d => d.name.text = name.text }

/-- The header, the devices and the end. -/
def xml (r : IioRun) : List Char :=
  header ++ r.registered.flatMap Registration.xml ++ headerEnd

end IioRun

end NoOS
