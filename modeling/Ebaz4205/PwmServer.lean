import Ebaz4205.DoubleRounding
import Ebaz4205.InterruptedProcess
import Ebaz4205.PwmSysfs

/-!
# The PWM server

A transcription of `pwmctrl-server.py`: its requests, its handlers for startup and
shutdown, and the texts it writes and reads. A division or product of Python is
exact and then rounded, and `int` takes the whole part. A handler of a request that
raises an exception leaves the server running.
-/

namespace Ebaz4205.PwmServer

open DoubleRounding InterruptedProcess InterruptedProcess.Process PwmSysfs

set_option autoImplicit false

inductive PythonError where
  | httpException (statusCode : Nat) (detail : String)
  | valueError
  | indexError
  deriving DecidableEq

abbrev Server := Process PwmChip PythonError

structure PwmState where
  enabled : Bool
  dutyCycle : Nat
  polarity : String
  deriving DecidableEq

def numPwm : Nat := 2
def pwmchip : String := "pwmchip0"

def raising {Result : Type} (error : PythonError) : Server Result := .raise error

def writeSysfsPwm (dev param : String) : Server Unit :=
  .write (fun chip => chip.write ("/sys/class/pwm/" ++ dev) param) fun written =>
    if written then .done ()
    else raising (.httpException 400 s!"Failed to write {param} to pwm device {dev}")

def readSysfsPwm (dev : String) : Server String :=
  .read fun chip =>
    match chip.read ("/sys/class/pwm/" ++ dev) with
    | some text => .done text
    | none => raising (.httpException 400 s!"Failed to read from pwm device {dev}")

/-- The body of the loop of `prepare_pwms`. -/
def preparePwm (i : Nat) : Server Unit := do
  writeSysfsPwm s!"{pwmchip}/export" (toString i)
  writeSysfsPwm s!"pwm{i}/period" (toString 1000000)
  writeSysfsPwm s!"pwm{i}/duty_cycle" (toString 1000000)
  writeSysfsPwm s!"pwm{i}/polarity" "inversed"
  writeSysfsPwm s!"pwm{i}/enable" (toString 0)

def preparePwms : Server Unit := forEach preparePwm (List.range numPwm)

def unpreparePwm (i : Nat) : Server Unit :=
  writeSysfsPwm s!"{pwmchip}/unexport" (toString i)

def unpreparePwms : Server Unit := forEach unpreparePwm (List.range numPwm)

def startupEvent : Server Unit := preparePwms

def shutdownEvent : Server Unit := unpreparePwms

/-- `int` of a text. -/
def intOf (text : String) : Server Nat :=
  match numberOf text with
  | some number => .done number
  | none => raising .valueError

def firstOf (text : String) : Server Char :=
  match text.toList with
  | first :: _ => .done first
  | [] => raising .indexError

def readPwmState (nr : Int) : Server PwmState := do
  let dc ← intOf (← readSysfsPwm s!"pwm{nr}/duty_cycle")
  let enabled ← firstOf (← readSysfsPwm s!"pwm{nr}/enable")
  let polarity ← readSysfsPwm s!"pwm{nr}/polarity"
  return {
    dutyCycle := truncate (toDouble ((dc : Rat) / 10000))
    enabled := enabled = '1'
    polarity }

def pwmStatus (nr : Int) : Server PwmState := readPwmState nr

def pwmEnable (nr : Int) : Server PwmState := do
  writeSysfsPwm s!"pwm{nr}/enable" "1"
  readPwmState nr

def pwmDisable (nr : Int) : Server PwmState := do
  writeSysfsPwm s!"pwm{nr}/enable" "0"
  readPwmState nr

/-- `int(val/100 * 1000000)`. -/
def scaledDuty (val : Int) : Nat := truncate (toDouble (toDouble ((val : Rat) / 100) * 1000000))

example : (List.range 101).map (fun val => scaledDuty val) =
    (List.range 101).map (fun val => val * 10000) := by decide +kernel

def pwmDutyCycle (nr val : Int) : Server PwmState := do
  if 0 ≤ val ∧ val < 101 then
    let dc := scaledDuty val
    writeSysfsPwm s!"pwm{nr}/duty_cycle" (toString dc)
  else
    raising (.httpException 400 s!"Duty-Cycle {val} out of range!")
  readPwmState nr

inductive Request where
  | status (nr : Int)
  | enable (nr : Int)
  | disable (nr : Int)
  | dutyCycle (nr val : Int)
  deriving DecidableEq

def serve : Request → Server PwmState
  | .status nr => pwmStatus nr
  | .enable nr => pwmEnable nr
  | .disable nr => pwmDisable nr
  | .dutyCycle nr val => pwmDutyCycle nr val

/-- The responses in the order of the requests. -/
def serveAll : List Request → Server (List (Except PythonError PwmState))
  | [] => return []
  | request :: rest => do
      let response ← (serve request).attempt
      let later ← serveAll rest
      return response :: later

/-- From the start of the server to an orderly shutdown. -/
def lifespan (requests : List Request) : Server Unit := do
  startupEvent
  let _ ← serveAll requests
  shutdownEvent

end Ebaz4205.PwmServer
