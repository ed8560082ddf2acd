import Ebaz4205.ProgramPolls

/-!
# The hooks of the boot loader

A transcription of `te_fsbl_hooks.c` and of the handoff hook that it is built with. What the
drivers of the two devices answer is left open, and so are the masks of their registers. Of
the messages only those about the device are kept.
-/

namespace Ebaz4205.FsblHooks

open DriverProgram DriverProgram.Program

set_option autoImplicit false

abbrev U8 := BitVec 8
abbrev U32 := BitVec 32

/-- The bits of the device configuration interface that are waited for or looked at. -/
structure Masks where
  pcfgDone : U32
  dPDone : U32
  dmaDone : U32
  dmaCmdQF : U32

structure VdmaSetup where
  enableCircularBuf : Int
  enableFrameCounter : Int
  fixedFrameStoreAddr : Int
  enableSync : Int
  pointNum : Int
  frameDelay : Int
  vertSizeInput : Int
  horiSizeInput : Int
  stride : Int

inductive HookCall where
  | xdcfgLookupConfig
  | xdcfgCfgInitialize
  | xdcfgSelfTest
  | xdcfgIntrClear (mask : U32)
  | xdcfgReadStatus
  | xdcfgTransfer (words : List U32)
  | xdcfgInitiateDma (words : List U32)
  | xdcfgIntrGetStatus
  | loadValueBack
  | xilPrintf (format : String) (values : List U32)
  | xAxiVdmaLookupConfig
  | xAxiVdmaCfgInitialize
  | xAxiVdmaDmaConfig (setup : VdmaSetup)
  | xAxiVdmaDmaSetBufferAddr (address : Int)
  | xAxiVdmaDmaStart

/-- A lookup answers whether there is a configuration. -/
abbrev HookReply : HookCall → Type
  | .xdcfgLookupConfig => Bool
  | .xdcfgCfgInitialize => Int
  | .xdcfgSelfTest => Int
  | .xdcfgIntrClear _ => Unit
  | .xdcfgReadStatus => U32
  | .xdcfgTransfer _ => Unit
  | .xdcfgInitiateDma _ => Unit
  | .xdcfgIntrGetStatus => U32
  | .loadValueBack => U32
  | .xilPrintf _ _ => Unit
  | .xAxiVdmaLookupConfig => Bool
  | .xAxiVdmaCfgInitialize => Int
  | .xAxiVdmaDmaConfig _ => Int
  | .xAxiVdmaDmaSetBufferAddr _ => Int
  | .xAxiVdmaDmaStart => Int

/-- The one access that is not inside is that behind a null pointer. -/
abbrev hookSignature : Signature where
  Call := HookCall
  Reply := HookReply
  Region := Unit
  extent := fun _ => 0
  Memory := Unit

abbrev HookProgram := Program hookSignature

def hookCall (call : HookCall) : HookProgram (HookReply call) := .call call .done

/-- An access that is undefined behaviour. -/
def nowhere {Result : Type} : HookProgram Result := .access () 0 Fin.elim0

def xstSuccess : Int := 0
def xstFailure : Int := 1

section Packets

def xdcTypeShift : Nat := 29
def xdcRegisterShift : Nat := 13
def xdcOpShift : Nat := 27
def xdcType1 : U32 := 1
def opcodeRead : U8 := 1

/-- The register of the identification code. -/
def idcode : U32 := 12

/-- The shift of the opcode is one of an `int`, which it must not leave. -/
def xdcfgRegAddr (register opCode size : U8) : Option U32 :=
  if opCode.toNat < 16 then
    some (xdcType1 <<< xdcTypeShift ||| register.setWidth 32 <<< xdcRegisterShift
      ||| opCode.setWidth 32 <<< xdcOpShift ||| size.setWidth 32)
  else none

/-- `CmdBuf` for a read, around the header of its packet. -/
def readWords (header : U32) : List U32 :=
  [0xFFFFFFFF, 0xFFFFFFFF, 0xFFFFFFFF, 0xFFFFFFFF, 0xFFFFFFFF, 0xFFFFFFFF, 0xFFFFFFFF, 0xFFFFFFFF,
    0x000000BB, 0x11220044, 0xFFFFFFFF, 0xAA995566, 0x20000000, header, 0x20000000, 0x20000000]

/-- `CmdBuf` after it, which takes the synchronization back. -/
def desyncWords : List U32 :=
  [0x30008001, 0x0000000D, 0x20000000, 0x20000000, 0x20000000, 0x20000000]

end Packets

section Identification

def Shows (mask status : U32) : Prop := status &&& mask = mask

instance (mask : U32) : DecidablePred (Shows mask) :=
  fun status => inferInstanceAs (Decidable (status &&& mask = mask))

/-- `while ((IntrStsReg & mask) != mask)`, in which the status is read again. -/
def pollMask (mask : U32) (budget : Nat) (intrStsReg : U32) : HookProgram U32 :=
  @askUntil hookSignature .xdcfgIntrGetStatus (Shows mask) _ budget intrStsReg

/-- The two loops that wait for a transfer. -/
def pollDone (masks : Masks) (budget : Nat) : HookProgram U32 := do
  let intrStsReg ← hookCall .xdcfgIntrGetStatus
  let intrStsReg ← pollMask masks.dmaDone budget intrStsReg
  pollMask masks.dPDone budget intrStsReg

/-- The header takes the lower byte of the register. -/
def xdcfgGetConfigReg (masks : Masks) (budget : Nat) (configReg : U32) : HookProgram Int := do
  hookCall (.xdcfgIntrClear (masks.pcfgDone ||| masks.dPDone ||| masks.dmaDone))
  let statusReg ← hookCall .xdcfgReadStatus
  if Shows masks.dmaCmdQF statusReg then return xstFailure
  match xdcfgRegAddr (configReg.setWidth 8) opcodeRead 1 with
  | none => nowhere
  | some header => do
      hookCall (.xdcfgTransfer (readWords header))
      let _status ← pollDone masks budget
      hookCall (.xdcfgInitiateDma desyncWords)
      let _status ← pollDone masks budget
      return xstSuccess

/-- The message with the name, and what it is printed with. -/
def deviceName (tmval : U32) : String × List U32 :=
  if tmval = 0x08 then ("7z014s", [])
  else if tmval = 0x03 then ("7z007s", [])
  else if tmval = 0x02 then ("7z010", [])
  else if tmval = 0x1b then ("7z015", [])
  else if tmval = 0x07 then ("7z020", [])
  else if tmval = 0x0c then ("7z030", [])
  else if tmval = 0x11 then ("7z045", [])
  else ("(...)", [tmval])

/-- The code of the device and its revision. -/
def printDevice (valueBack : U32) : HookProgram Unit := do
  let tmval := (valueBack &&& 0x0001F000) >>> 12
  hookCall (.xilPrintf "\r\nDevice IDCODE: %x" [valueBack])
  hookCall (.xilPrintf "\r\nDevice Name: " [])
  hookCall (.xilPrintf (deviceName tmval).1 (deviceName tmval).2)
  hookCall (.xilPrintf " (%x)" [tmval])
  hookCall (.xilPrintf "\r\nDevice Revision: %x " [(valueBack &&& 0xF0000000) >>> 28])

def teReadIdcode (masks : Masks) (budget : Nat) : HookProgram Int := do
  let found ← hookCall .xdcfgLookupConfig
  if !found then nowhere
  else do
    let status ← hookCall .xdcfgCfgInitialize
    if status ≠ xstSuccess then return xstFailure
    let status ← hookCall .xdcfgSelfTest
    if status ≠ xstSuccess then return xstFailure
    let status ← xdcfgGetConfigReg masks budget idcode
    if status ≠ xstSuccess then return xstFailure
    let valueBack ← hookCall .loadValueBack
    printDevice valueBack
    return xstSuccess

end Identification

section Handoff

def hdmiFbAddr : Int := 0x7C00000

def vdmaOutStart : HookProgram Int := do
  let status ← hookCall .xAxiVdmaDmaStart
  if status ≠ xstSuccess then return xstFailure
  return xstSuccess

def vdmaOutInit (baseAddress hWidth vWidth bpp : Int) : HookProgram Int := do
  let found ← hookCall .xAxiVdmaLookupConfig
  if !found then return xstFailure
  let status ← hookCall .xAxiVdmaCfgInitialize
  if status ≠ xstSuccess then return xstFailure
  let status ← hookCall (.xAxiVdmaDmaConfig {
    enableCircularBuf := 1
    enableFrameCounter := 0
    fixedFrameStoreAddr := 0
    enableSync := 1
    pointNum := 1
    frameDelay := 0
    vertSizeInput := vWidth
    horiSizeInput := hWidth * bpp
    stride := hWidth * bpp })
  if status ≠ xstSuccess then return xstFailure
  let status ← hookCall (.xAxiVdmaDmaSetBufferAddr baseAddress)
  if status ≠ xstSuccess then return xstFailure
  let status ← vdmaOutStart
  if status ≠ xstSuccess then return status
  return xstSuccess

/-- What the start of the display returns is not looked at. -/
def teFsblHookBeforeHandoffCustom : HookProgram Int := do
  let _status ← vdmaOutInit hdmiFbAddr 480 272 2
  return xstSuccess

/-- With `ENABLE_TE_HOOKS_BH`, the status of the first part is written over. -/
def teFsblHookBeforeHandoff (masks : Masks) (budget : Nat) : HookProgram Int := do
  let _status ← teReadIdcode masks budget
  teFsblHookBeforeHandoffCustom

end Handoff

end Ebaz4205.FsblHooks
