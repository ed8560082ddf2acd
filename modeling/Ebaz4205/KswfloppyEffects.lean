import Ebaz4205.PlatformFrames

/-!
# Effects of the parts of the floppy drive's probe

What the parts of the probe send, change and visit, for any set of effects: the loop
that requests the lines needs the request of one, and what is done with the drive
needs what the handler of its operations does.
-/

namespace Ebaz4205.KswfloppyEffects

open DriverProgram DriverProgram.Program PulsecapDriver PlatformKernel AximuxDriver
open KswfloppyModule PlatformFrames

set_option autoImplicit false

variable {effects : Effects kswfloppySignature}

theorem within_readCell {bytes : List Byte}
    (inside : ∀ position, effects.visits (.array (.property bytes.length)) position) :
    (readCell bytes).Within effects := by
  have byte : ∀ position, (propertyByte bytes position).Within effects :=
    fun position => within_bind (within_element (inside position)) fun _ => within_done _
  apply within_bind (byte 0)
  intro _
  apply within_bind (byte 1)
  intro _
  apply within_bind (byte 2)
  intro _
  exact within_bind (byte 3) fun _ => within_done _

theorem callSetSrc_aximux {mux : Instance} (typed : mux.pdev.driver = .aximux) (port source : U32) :
    callSetSrc (some mux) port source = aximuxSetSrc (some mux.address) port source :=
  if_pos typed

/-- The loop does no more than its requests, however many lines are refused. -/
theorem within_allocateGpios
    (request : ∀ ii flags, effects.sends (.devmGpiodGetIndex ii flags))
    (ii : Nat) (flags : List GpioFlags) : (allocateGpios ii flags).Within effects := by
  induction flags generalizing ii with
  | nil => trivial
  | cons flag rest ih =>
      apply within_bind (within_kernelCall (request ii flag))
      intro gpio
      cases gpio with
      | error err => trivial
      | ok _ => exact ih (ii + 1)

theorem within_startDrive {inst : Address}
    (request : ∀ ii flags, effects.sends (.devmGpiodGetIndex ii flags))
    (driven : (onDrive inst).Within effects) (budget : Nat) :
    (startDrive budget inst).Within effects := by
  apply within_bind (within_allocateGpios request 0 floppySignalDirections)
  intro allocated
  cases allocated with
  | error code => trivial
  | ok _ =>
      apply within_bind (within_interpret driven _)
      intro _
      apply within_bind (within_interpret driven _)
      intro _
      apply within_bind (within_interpret driven _)
      intro _
      exact within_bind (within_interpret driven _) fun _ => within_done 0

end Ebaz4205.KswfloppyEffects
