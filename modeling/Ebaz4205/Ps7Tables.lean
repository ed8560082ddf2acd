import Ebaz4205.Ps7Interpreter

/-!
# The register tables

The tables of the two copies of `ps7_init_gpl.c`, for each version of the silicon.
Most of them are the same in all versions or differ in a few masks, and the copies
differ in the clocks of the programmable logic and in one of its interfaces.
-/

namespace Ebaz4205.Ps7Tables

open Ps7Interpreter

set_option autoImplicit false

section PhaseLockedLoops

def ps7PllInitData_3_0 : Script :=
  [.write 0xF8000008 0x0000DF0D, .maskwrite 0xF8000110 0x003FFFF0 0x000FA220,
   .maskwrite 0xF8000100 0x0007F000 0x00028000, .maskwrite 0xF8000100 0x00000010 0x00000010,
   .maskwrite 0xF8000100 0x00000001 0x00000001, .maskwrite 0xF8000100 0x00000001 0x00000000,
   .maskpoll 0xF800010C 0x00000001, .maskwrite 0xF8000100 0x00000010 0x00000000,
   .maskwrite 0xF8000120 0x1F003F30 0x1F000200, .maskwrite 0xF8000114 0x003FFFF0 0x0012C220,
   .maskwrite 0xF8000104 0x0007F000 0x00020000, .maskwrite 0xF8000104 0x00000010 0x00000010,
   .maskwrite 0xF8000104 0x00000001 0x00000001, .maskwrite 0xF8000104 0x00000001 0x00000000,
   .maskpoll 0xF800010C 0x00000002, .maskwrite 0xF8000104 0x00000010 0x00000000,
   .maskwrite 0xF8000124 0xFFF00003 0x0C200003, .maskwrite 0xF8000118 0x003FFFF0 0x00113220,
   .maskwrite 0xF8000108 0x0007F000 0x00024000, .maskwrite 0xF8000108 0x00000010 0x00000010,
   .maskwrite 0xF8000108 0x00000001 0x00000001, .maskwrite 0xF8000108 0x00000001 0x00000000,
   .maskpoll 0xF800010C 0x00000004, .maskwrite 0xF8000108 0x00000010 0x00000000,
   .write 0xF8000004 0x0000767B, .exit]

def ps7PllInitData_2_0 : Script := ps7PllInitData_3_0
def ps7PllInitData_1_0 : Script := ps7PllInitData_3_0

end PhaseLockedLoops

section Clocks

/-- The two copies of the file. -/
inductive Build where
  | uBoot
  | platformInit
  deriving DecidableEq

/-- The clocks of the programmable logic, where the copies differ. -/
def Build.fpgaClocks : Build → Script
  | .uBoot => [.maskwrite 0xF8000170 0x03F03F30 0x00600800]
  | .platformInit =>
      [.maskwrite 0xF8000170 0x03F03F30 0x00300400, .maskwrite 0xF8000180 0x03F03F30 0x00600800]

def ps7ClockInitData_3_0 (build : Build) : Script :=
  [.write 0xF8000008 0x0000DF0D, .maskwrite 0xF8000128 0x03F03F01 0x00700F01,
   .maskwrite 0xF8000138 0x00000011 0x00000011, .maskwrite 0xF8000140 0x03F03F71 0x00500141,
   .maskwrite 0xF8000148 0x00003F31 0x00000C01, .maskwrite 0xF8000150 0x00003F33 0x00003C01,
   .maskwrite 0xF8000154 0x00003F33 0x00000C02, .maskwrite 0xF8000168 0x00003F31 0x00000601] ++
  build.fpgaClocks ++
  [.maskwrite 0xF80001C4 0x00000001 0x00000001, .maskwrite 0xF800012C 0x01FFCCCD 0x016C044D,
   .write 0xF8000004 0x0000767B, .exit]

def ps7ClockInitData_2_0 (build : Build) : Script := ps7ClockInitData_3_0 build
def ps7ClockInitData_1_0 (build : Build) : Script := ps7ClockInitData_3_0 build

end Clocks

section Memory

def ps7DdrInitData_3_0 : Script :=
  [.maskwrite 0xF8006000 0x0001FFFF 0x00000084, .maskwrite 0xF8006004 0x0007FFFF 0x00001082,
   .maskwrite 0xF8006008 0x03FFFFFF 0x03C0780F, .maskwrite 0xF800600C 0x03FFFFFF 0x02001001,
   .maskwrite 0xF8006010 0x03FFFFFF 0x00014001, .maskwrite 0xF8006014 0x001FFFFF 0x0004159B,
   .maskwrite 0xF8006018 0xF7FFFFFF 0x452464D3, .maskwrite 0xF800601C 0xFFFFFFFF 0x7282BCE5,
   .maskwrite 0xF8006020 0x7FDFFFFC 0x270872D0, .maskwrite 0xF8006024 0x0FFFFFC3 0x00000000,
   .maskwrite 0xF8006028 0x00003FFF 0x00002007, .maskwrite 0xF800602C 0xFFFFFFFF 0x00000008,
   .maskwrite 0xF8006030 0xFFFFFFFF 0x00040B30, .maskwrite 0xF8006034 0x13FF3FFF 0x000116D4,
   .maskwrite 0xF8006038 0x00000003 0x00000000, .maskwrite 0xF800603C 0x000FFFFF 0x00000666,
   .maskwrite 0xF8006040 0xFFFFFFFF 0xFFFF0000, .maskwrite 0xF8006044 0x0FFFFFFF 0x0FF55555,
   .maskwrite 0xF8006048 0x0003F03F 0x0003C008, .maskwrite 0xF8006050 0xFF0F8FFF 0x77010800,
   .maskwrite 0xF8006058 0x00010000 0x00000000, .maskwrite 0xF800605C 0x0000FFFF 0x00005003,
   .maskwrite 0xF8006060 0x000017FF 0x0000003E, .maskwrite 0xF8006064 0x00021FE0 0x00020000,
   .maskwrite 0xF8006068 0x03FFFFFF 0x00284141, .maskwrite 0xF800606C 0x0000FFFF 0x00001610,
   .maskwrite 0xF8006078 0x03FFFFFF 0x00466111, .maskwrite 0xF800607C 0x000FFFFF 0x00032222,
   .maskwrite 0xF80060A4 0xFFFFFFFF 0x10200802, .maskwrite 0xF80060A8 0x0FFFFFFF 0x0690CB73,
   .maskwrite 0xF80060AC 0x000001FF 0x000001FE, .maskwrite 0xF80060B0 0x1FFFFFFF 0x1CFFFFFF,
   .maskwrite 0xF80060B4 0x00000200 0x00000200, .maskwrite 0xF80060B8 0x01FFFFFF 0x00200066,
   .maskwrite 0xF80060C4 0x00000003 0x00000000, .maskwrite 0xF80060C8 0x000000FF 0x00000000,
   .maskwrite 0xF80060DC 0x00000001 0x00000000, .maskwrite 0xF80060F0 0x0000FFFF 0x00000000,
   .maskwrite 0xF80060F4 0x0000000F 0x00000008, .maskwrite 0xF8006114 0x000000FF 0x00000000,
   .maskwrite 0xF8006118 0x7FFFFFCF 0x40000001, .maskwrite 0xF800611C 0x7FFFFFCF 0x40000001,
   .maskwrite 0xF8006120 0x7FFFFFCF 0x40000000, .maskwrite 0xF8006124 0x7FFFFFCF 0x40000000,
   .maskwrite 0xF800612C 0x000FFFFF 0x00029000, .maskwrite 0xF8006130 0x000FFFFF 0x00029000,
   .maskwrite 0xF8006134 0x000FFFFF 0x00029000, .maskwrite 0xF8006138 0x000FFFFF 0x00029000,
   .maskwrite 0xF8006140 0x000FFFFF 0x00000035, .maskwrite 0xF8006144 0x000FFFFF 0x00000035,
   .maskwrite 0xF8006148 0x000FFFFF 0x00000035, .maskwrite 0xF800614C 0x000FFFFF 0x00000035,
   .maskwrite 0xF8006154 0x000FFFFF 0x00000080, .maskwrite 0xF8006158 0x000FFFFF 0x00000080,
   .maskwrite 0xF800615C 0x000FFFFF 0x00000080, .maskwrite 0xF8006160 0x000FFFFF 0x00000080,
   .maskwrite 0xF8006168 0x001FFFFF 0x000000F9, .maskwrite 0xF800616C 0x001FFFFF 0x000000F9,
   .maskwrite 0xF8006170 0x001FFFFF 0x000000F9, .maskwrite 0xF8006174 0x001FFFFF 0x000000F9,
   .maskwrite 0xF800617C 0x000FFFFF 0x000000C0, .maskwrite 0xF8006180 0x000FFFFF 0x000000C0,
   .maskwrite 0xF8006184 0x000FFFFF 0x000000C0, .maskwrite 0xF8006188 0x000FFFFF 0x000000C0,
   .maskwrite 0xF8006190 0x6FFFFEFE 0x00040080, .maskwrite 0xF8006194 0x000FFFFF 0x0001FC82,
   .maskwrite 0xF8006204 0xFFFFFFFF 0x00000000, .maskwrite 0xF8006208 0x000703FF 0x000003FF,
   .maskwrite 0xF800620C 0x000703FF 0x000003FF, .maskwrite 0xF8006210 0x000703FF 0x000003FF,
   .maskwrite 0xF8006214 0x000703FF 0x000003FF, .maskwrite 0xF8006218 0x000F03FF 0x000003FF,
   .maskwrite 0xF800621C 0x000F03FF 0x000003FF, .maskwrite 0xF8006220 0x000F03FF 0x000003FF,
   .maskwrite 0xF8006224 0x000F03FF 0x000003FF, .maskwrite 0xF80062A8 0x00000FF5 0x00000000,
   .maskwrite 0xF80062AC 0xFFFFFFFF 0x00000000, .maskwrite 0xF80062B0 0x003FFFFF 0x00005125,
   .maskwrite 0xF80062B4 0x0003FFFF 0x000012A8, .maskpoll 0xF8000B74 0x00002000,
   .maskwrite 0xF8006000 0x0001FFFF 0x00000085, .maskpoll 0xF8006054 0x00000007, .exit]

/-- The table of the first two versions, of which the first leaves two registers out. -/
def earlyDdrInitData (between : Script) : Script :=
  [.maskwrite 0xF8006000 0x0001FFFF 0x00000084, .maskwrite 0xF8006004 0x1FFFFFFF 0x00081082,
   .maskwrite 0xF8006008 0x03FFFFFF 0x03C0780F, .maskwrite 0xF800600C 0x03FFFFFF 0x02001001,
   .maskwrite 0xF8006010 0x03FFFFFF 0x00014001, .maskwrite 0xF8006014 0x001FFFFF 0x0004159B,
   .maskwrite 0xF8006018 0xF7FFFFFF 0x452464D3, .maskwrite 0xF800601C 0xFFFFFFFF 0x7282BCE5,
   .maskwrite 0xF8006020 0xFFFFFFFC 0x272872D0, .maskwrite 0xF8006024 0x0FFFFFFF 0x0000003C,
   .maskwrite 0xF8006028 0x00003FFF 0x00002007, .maskwrite 0xF800602C 0xFFFFFFFF 0x00000008,
   .maskwrite 0xF8006030 0xFFFFFFFF 0x00040B30, .maskwrite 0xF8006034 0x13FF3FFF 0x000116D4,
   .maskwrite 0xF8006038 0x00001FC3 0x00000000, .maskwrite 0xF800603C 0x000FFFFF 0x00000666,
   .maskwrite 0xF8006040 0xFFFFFFFF 0xFFFF0000, .maskwrite 0xF8006044 0x0FFFFFFF 0x0FF55555,
   .maskwrite 0xF8006048 0x3FFFFFFF 0x0003C248, .maskwrite 0xF8006050 0xFF0F8FFF 0x77010800,
   .maskwrite 0xF8006058 0x0001FFFF 0x00000101, .maskwrite 0xF800605C 0x0000FFFF 0x00005003,
   .maskwrite 0xF8006060 0x000017FF 0x0000003E, .maskwrite 0xF8006064 0x00021FE0 0x00020000,
   .maskwrite 0xF8006068 0x03FFFFFF 0x00284141, .maskwrite 0xF800606C 0x0000FFFF 0x00001610] ++
  between ++
  [.maskwrite 0xF80060A0 0x00FFFFFF 0x00008000, .maskwrite 0xF80060A4 0xFFFFFFFF 0x10200802,
   .maskwrite 0xF80060A8 0x0FFFFFFF 0x0690CB73, .maskwrite 0xF80060AC 0x000001FF 0x000001FE,
   .maskwrite 0xF80060B0 0x1FFFFFFF 0x1CFFFFFF, .maskwrite 0xF80060B4 0x000007FF 0x00000200,
   .maskwrite 0xF80060B8 0x01FFFFFF 0x00200066, .maskwrite 0xF80060C4 0x00000003 0x00000000,
   .maskwrite 0xF80060C8 0x000000FF 0x00000000, .maskwrite 0xF80060DC 0x00000001 0x00000000,
   .maskwrite 0xF80060F0 0x0000FFFF 0x00000000, .maskwrite 0xF80060F4 0x0000000F 0x00000008,
   .maskwrite 0xF8006114 0x000000FF 0x00000000, .maskwrite 0xF8006118 0x7FFFFFFF 0x40000001,
   .maskwrite 0xF800611C 0x7FFFFFFF 0x40000001, .maskwrite 0xF8006120 0x7FFFFFFF 0x40000000,
   .maskwrite 0xF8006124 0x7FFFFFFF 0x40000000, .maskwrite 0xF800612C 0x000FFFFF 0x00029000,
   .maskwrite 0xF8006130 0x000FFFFF 0x00029000, .maskwrite 0xF8006134 0x000FFFFF 0x00029000,
   .maskwrite 0xF8006138 0x000FFFFF 0x00029000, .maskwrite 0xF8006140 0x000FFFFF 0x00000035,
   .maskwrite 0xF8006144 0x000FFFFF 0x00000035, .maskwrite 0xF8006148 0x000FFFFF 0x00000035,
   .maskwrite 0xF800614C 0x000FFFFF 0x00000035, .maskwrite 0xF8006154 0x000FFFFF 0x00000080,
   .maskwrite 0xF8006158 0x000FFFFF 0x00000080, .maskwrite 0xF800615C 0x000FFFFF 0x00000080,
   .maskwrite 0xF8006160 0x000FFFFF 0x00000080, .maskwrite 0xF8006168 0x001FFFFF 0x000000F9,
   .maskwrite 0xF800616C 0x001FFFFF 0x000000F9, .maskwrite 0xF8006170 0x001FFFFF 0x000000F9,
   .maskwrite 0xF8006174 0x001FFFFF 0x000000F9, .maskwrite 0xF800617C 0x000FFFFF 0x000000C0,
   .maskwrite 0xF8006180 0x000FFFFF 0x000000C0, .maskwrite 0xF8006184 0x000FFFFF 0x000000C0,
   .maskwrite 0xF8006188 0x000FFFFF 0x000000C0, .maskwrite 0xF8006190 0xFFFFFFFF 0x10040080,
   .maskwrite 0xF8006194 0x000FFFFF 0x0001FC82, .maskwrite 0xF8006204 0xFFFFFFFF 0x00000000,
   .maskwrite 0xF8006208 0x000F03FF 0x000803FF, .maskwrite 0xF800620C 0x000F03FF 0x000803FF,
   .maskwrite 0xF8006210 0x000F03FF 0x000803FF, .maskwrite 0xF8006214 0x000F03FF 0x000803FF,
   .maskwrite 0xF8006218 0x000F03FF 0x000003FF, .maskwrite 0xF800621C 0x000F03FF 0x000003FF,
   .maskwrite 0xF8006220 0x000F03FF 0x000003FF, .maskwrite 0xF8006224 0x000F03FF 0x000003FF,
   .maskwrite 0xF80062A8 0x00000FF7 0x00000000, .maskwrite 0xF80062AC 0xFFFFFFFF 0x00000000,
   .maskwrite 0xF80062B0 0x003FFFFF 0x00005125, .maskwrite 0xF80062B4 0x0003FFFF 0x000012A8,
   .maskpoll 0xF8000B74 0x00002000, .maskwrite 0xF8006000 0x0001FFFF 0x00000085,
   .maskpoll 0xF8006054 0x00000007, .exit]

def ps7DdrInitData_2_0 : Script :=
  earlyDdrInitData
    [.maskwrite 0xF8006078 0x03FFFFFF 0x00466111, .maskwrite 0xF800607C 0x000FFFFF 0x00032222]

def ps7DdrInitData_1_0 : Script := earlyDdrInitData []

end Memory

section Pins

def mioInitData (drive reset calibrate : Word) : Script :=
  [.write 0xF8000008 0x0000DF0D, .maskwrite 0xF8000B40 0x00000FFF 0x00000600,
   .maskwrite 0xF8000B44 0x00000FFF 0x00000600, .maskwrite 0xF8000B48 0x00000FFF 0x00000672,
   .maskwrite 0xF8000B4C 0x00000FFF 0x00000800, .maskwrite 0xF8000B50 0x00000FFF 0x00000674,
   .maskwrite 0xF8000B54 0x00000FFF 0x00000800, .maskwrite 0xF8000B58 0x00000FFF 0x00000600,
   .maskwrite 0xF8000B5C 0xFFFFFFFF 0x0018C61C, .maskwrite 0xF8000B60 0xFFFFFFFF 0x00F9861C,
   .maskwrite 0xF8000B64 0xFFFFFFFF 0x00F9861C, .maskwrite 0xF8000B68 0xFFFFFFFF 0x00F9861C,
   .maskwrite 0xF8000B6C drive 0x00000220, .maskwrite 0xF8000B70 reset reset,
   .maskwrite 0xF8000B70 0x00000021 0x00000020, .maskwrite 0xF8000B70 calibrate 0x00000823,
   .maskwrite 0xF8000700 0x00003FFF 0x00001610, .maskwrite 0xF8000704 0x00003FFF 0x00001600,
   .maskwrite 0xF8000708 0x00003FFF 0x00000610, .maskwrite 0xF800070C 0x00003FFF 0x00000610,
   .maskwrite 0xF8000710 0x00003FFF 0x00000610, .maskwrite 0xF8000714 0x00003FFF 0x00000610,
   .maskwrite 0xF8000718 0x00003FFF 0x00000610, .maskwrite 0xF800071C 0x00003FFF 0x00000610,
   .maskwrite 0xF8000720 0x00003FFF 0x00000610, .maskwrite 0xF8000724 0x00003FFF 0x00001610,
   .maskwrite 0xF8000728 0x00003FFF 0x00001610, .maskwrite 0xF800072C 0x00003FFF 0x00001610,
   .maskwrite 0xF8000730 0x00003FFF 0x00001610, .maskwrite 0xF8000734 0x00003FFF 0x00001610,
   .maskwrite 0xF8000738 0x00003FFF 0x00001611, .maskwrite 0xF800073C 0x00003FFF 0x00001600,
   .maskwrite 0xF8000740 0x00003FFF 0x00001600, .maskwrite 0xF8000744 0x00003FFF 0x00001600,
   .maskwrite 0xF8000748 0x00003FFF 0x00001600, .maskwrite 0xF800074C 0x00003FFF 0x00001600,
   .maskwrite 0xF8000750 0x00003FFF 0x00001600, .maskwrite 0xF8000754 0x00003FFF 0x00001600,
   .maskwrite 0xF8000758 0x00003FFF 0x00001600, .maskwrite 0xF800075C 0x00003FFF 0x00001600,
   .maskwrite 0xF8000760 0x00003FFF 0x000016E0, .maskwrite 0xF8000764 0x00003FFF 0x000016E1,
   .maskwrite 0xF8000768 0x00003FFF 0x00001640, .maskwrite 0xF800076C 0x00003FFF 0x00001640,
   .maskwrite 0xF8000770 0x00003FFF 0x00001600, .maskwrite 0xF8000774 0x00003FFF 0x00001600,
   .maskwrite 0xF8000778 0x00003FFF 0x00001600, .maskwrite 0xF800077C 0x00003FFF 0x00001600,
   .maskwrite 0xF8000780 0x00003FFF 0x00001600, .maskwrite 0xF8000784 0x00003FFF 0x00001600,
   .maskwrite 0xF8000788 0x00003F01 0x00001601, .maskwrite 0xF800078C 0x00003FFF 0x00001600,
   .maskwrite 0xF8000790 0x00003FFF 0x00001600, .maskwrite 0xF8000794 0x00003FFF 0x00001600,
   .maskwrite 0xF8000798 0x00003FFF 0x00001600, .maskwrite 0xF800079C 0x00003FFF 0x00001600,
   .maskwrite 0xF80007A0 0x00003FFF 0x00001680, .maskwrite 0xF80007A4 0x00003FFF 0x00001680,
   .maskwrite 0xF80007A8 0x00003FFF 0x00001680, .maskwrite 0xF80007AC 0x00003FFF 0x00001680,
   .maskwrite 0xF80007B0 0x00003FFF 0x00001680, .maskwrite 0xF80007B4 0x00003FFF 0x00001680,
   .maskwrite 0xF80007B8 0x00003FFF 0x00001600, .maskwrite 0xF80007BC 0x00003FFF 0x00001600,
   .maskwrite 0xF80007C0 0x00003FFF 0x00001600, .maskwrite 0xF80007C4 0x00003FFF 0x00001600,
   .maskwrite 0xF80007C8 0x00003FFF 0x00001600, .maskwrite 0xF80007CC 0x00003FFF 0x00001600,
   .maskwrite 0xF80007D0 0x00003FFF 0x00001600, .maskwrite 0xF80007D4 0x00003FFF 0x00001600,
   .maskwrite 0xF8000830 0x003F003F 0x00220037, .write 0xF8000004 0x0000767B, .exit]

def ps7MioInitData_3_0 : Script := mioInitData 0x00007FFF 0x00000001 0x07FEFFFF

def ps7MioInitData_2_0 : Script := mioInitData 0x00007FFF 0x00000021 0x07FFFFFF

def ps7MioInitData_1_0 : Script := mioInitData 0x000073FF 0x00000021 0x07FFFFFF

end Pins

section Peripherals

def peripheralsInitData (mode : Word) : Script :=
  [.write 0xF8000008 0x0000DF0D, .maskwrite 0xF8000B48 0x00000180 0x00000180,
   .maskwrite 0xF8000B4C 0x00000180 0x00000000, .maskwrite 0xF8000B50 0x00000180 0x00000180,
   .maskwrite 0xF8000B54 0x00000180 0x00000000, .write 0xF8000004 0x0000767B,
   .maskwrite 0xE0001034 0x000000FF 0x00000006, .maskwrite 0xE0001018 0x0000FFFF 0x0000007C,
   .maskwrite 0xE0001000 0x000001FF 0x00000017, .maskwrite 0xE0001004 mode 0x00000020,
   .maskwrite 0xE000D000 0x00080000 0x00080000, .maskwrite 0xF8007000 0x20000000 0x00000000,
   .write 0xE000E014 0x00124922, .maskwrite 0xE000E018 0x00000003 0x00000000,
   .write 0xE000E010 0x02400000, .exit]

def ps7PeripheralsInitData_3_0 : Script := peripheralsInitData 0x000003FF
def ps7PeripheralsInitData_2_0 : Script := peripheralsInitData 0x00000FFF
def ps7PeripheralsInitData_1_0 : Script := peripheralsInitData 0x00000FFF

end Peripherals

section Afterwards

/-- The interface AFI0 to the programmable logic, which one copy sets to 32 bits. -/
def Build.afiRegisters : Build → Script
  | .uBoot => []
  | .platformInit =>
      [.maskwrite 0xF8008000 0x00000001 0x00000001, .maskwrite 0xF8008014 0x00000001 0x00000001]

def ps7PostConfig_3_0 (build : Build) : Script :=
  [.write 0xF8000008 0x0000DF0D, .maskwrite 0xF8000900 0x0000000F 0x0000000F,
   .maskwrite 0xF8000240 0xFFFFFFFF 0x00000000] ++
  build.afiRegisters ++
  [.write 0xF8000004 0x0000767B, .exit]

def ps7PostConfig_2_0 (build : Build) : Script := ps7PostConfig_3_0 build
def ps7PostConfig_1_0 (build : Build) : Script := ps7PostConfig_3_0 build

def ps7Debug_3_0 : Script :=
  [.write 0xF8898FB0 0xC5ACCE55, .write 0xF8899FB0 0xC5ACCE55, .write 0xF8809FB0 0xC5ACCE55, .exit]

def ps7Debug_2_0 : Script := ps7Debug_3_0
def ps7Debug_1_0 : Script := ps7Debug_3_0

end Afterwards

end Ebaz4205.Ps7Tables
