import Ebaz4205.DecimalText

/-!
# The files of a PWM chip

The kernel shows a PWM chip as files. A channel has files of its own while it is
exported: a period below the duty cycle is refused, so is a duty cycle above the
period, and so is any polarity while the channel is enabled. What the settings of a
channel are when it is exported again is left to the chip.
-/

namespace Ebaz4205.PwmSysfs

open DecimalText

set_option autoImplicit false

inductive Polarity where
  | normal | inversed
  deriving DecidableEq

structure Settings where
  period : Nat
  dutyCycle : Nat
  polarity : Polarity
  enabled : Bool
  deriving DecidableEq

structure Channel where
  exported : Bool
  settings : Settings
  deriving DecidableEq

/-- `regained` turns the last settings of a channel into those it is exported with. -/
structure PwmChip where
  regained : Settings → Settings
  channels : List Channel

inductive Attribute where
  | period | dutyCycle | polarity | enable
  deriving DecidableEq

inductive PwmFile where
  | exportFile
  | unexportFile
  | channelFile (nr : Nat) (name : Attribute)
  deriving DecidableEq

def Attribute.text : Attribute → String
  | .period => "/period"
  | .dutyCycle => "/duty_cycle"
  | .polarity => "/polarity"
  | .enable => "/enable"

def attributeOf (text : List Char) : Option Attribute :=
  [Attribute.period, .dutyCycle, .polarity, .enable].find? fun name => name.text.toList = text

/-- The file of a channel, from the text behind `pwm`. -/
def channelFileOf (text : List Char) : Option PwmFile :=
  (scanDigits text).bind fun nr =>
    (attributeOf (text.dropWhile Char.isDigit)).map (PwmFile.channelFile nr)

def fileOf (path : String) : Option PwmFile :=
  (afterLiteral "/sys/class/pwm/".toList path.toList).bind fun name =>
    if name = "pwmchip0/export".toList then some .exportFile
    else if name = "pwmchip0/unexport".toList then some .unexportFile
    else (afterLiteral "pwm".toList name).bind channelFileOf

/-- A number alone on its line, with or without the end of the line. -/
def numberOf (text : String) : Option Nat :=
  let rest := text.toList.dropWhile Char.isDigit
  if rest = [] ∨ rest = ['\n'] then scanDigits text.toList else none

def polarityOf (text : String) : Option Polarity :=
  if text = "normal" then some .normal
  else if text = "inversed" then some .inversed
  else none

namespace Settings

def setPeriod (settings : Settings) (period : Nat) : Option Settings :=
  if period < settings.dutyCycle then none else some { settings with period }

def setDutyCycle (settings : Settings) (dutyCycle : Nat) : Option Settings :=
  if settings.period < dutyCycle then none else some { settings with dutyCycle }

def setPolarity (settings : Settings) (polarity : Polarity) : Option Settings :=
  if settings.enabled then none else some { settings with polarity }

def setEnable (settings : Settings) (enable : Nat) : Option Settings :=
  match enable with
  | 0 => some { settings with enabled := false }
  | 1 => some { settings with enabled := true }
  | _ => none

def store (settings : Settings) (text : String) : Attribute → Option Settings
  | .period => (numberOf text).bind settings.setPeriod
  | .dutyCycle => (numberOf text).bind settings.setDutyCycle
  | .polarity => (polarityOf text).bind settings.setPolarity
  | .enable => (numberOf text).bind settings.setEnable

def shown (settings : Settings) : Attribute → String
  | .period => s!"{settings.period}\n"
  | .dutyCycle => s!"{settings.dutyCycle}\n"
  | .polarity =>
      match settings.polarity with
      | .normal => "normal\n"
      | .inversed => "inversed\n"
  | .enable => if settings.enabled then "1\n" else "0\n"

end Settings

namespace PwmChip

def put (chip : PwmChip) (nr : Nat) (channel : Channel) : PwmChip :=
  { chip with channels := chip.channels.set nr channel }

def exportStore (chip : PwmChip) (nr : Nat) : Option PwmChip :=
  match chip.channels[nr]? with
  | some ⟨false, settings⟩ => some (chip.put nr ⟨true, chip.regained settings⟩)
  | _ => none

def unexportStore (chip : PwmChip) (nr : Nat) : Option PwmChip :=
  match chip.channels[nr]? with
  | some ⟨true, settings⟩ => some (chip.put nr ⟨false, settings⟩)
  | _ => none

def store (chip : PwmChip) (nr : Nat) (name : Attribute) (text : String) : Option PwmChip :=
  match chip.channels[nr]? with
  | some ⟨true, settings⟩ =>
      (settings.store text name).map fun changed => chip.put nr ⟨true, changed⟩
  | _ => none

def write (chip : PwmChip) (path text : String) : Option PwmChip :=
  (fileOf path).bind fun file =>
    match file with
    | .exportFile => (numberOf text).bind chip.exportStore
    | .unexportFile => (numberOf text).bind chip.unexportStore
    | .channelFile nr name => chip.store nr name text

def read (chip : PwmChip) (path : String) : Option String :=
  (fileOf path).bind fun file =>
    match file with
    | .exportFile => none
    | .unexportFile => none
    | .channelFile nr name =>
        match chip.channels[nr]? with
        | some ⟨true, settings⟩ => some (settings.shown name)
        | _ => none

end PwmChip

section Texts

theorem attributeOf_text (name : Attribute) : attributeOf name.text.toList = some name := by
  cases name <;> rfl

theorem text_stops (name : Attribute) :
    ∀ char ∈ name.text.toList.head?, char.isDigit = false := by
  have slash : name.text.toList.head? = some '/' := by
    cases name <;> rfl
  rw [slash]
  intro char same
  rw [← Option.some.inj same]
  rfl

@[simp] theorem numberOf_toString (number : Nat) : numberOf (toString number) = some number := by
  have digits : (toString number).toList = Nat.toDigits 10 number ++ [] := by
    rw [List.append_nil]
    exact Nat.toList_repr
  have stops : ∀ char ∈ ([] : List Char).head?, char.isDigit = false := by simp
  rw [numberOf, digits, dropWhile_toDigits stops, if_pos (Or.inl rfl), scanDigits_toDigits stops]

theorem channelFileOf_text (nr : Nat) (name : Attribute) :
    channelFileOf (Nat.toDigits 10 nr ++ name.text.toList) = some (.channelFile nr name) := by
  rw [channelFileOf, scanDigits_toDigits (text_stops name), dropWhile_toDigits (text_stops name),
    attributeOf_text]
  rfl

/-- The files of the chip and those of its channels are told apart behind `pwm`. -/
theorem fileOf_pwm {name : String} {text : List Char} (same : name.toList = "pwm".toList ++ text)
    (different : text.head? ≠ some 'c') :
    fileOf ("/sys/class/pwm/" ++ name) = channelFileOf text := by
  have apart : ∀ rest, name.toList ≠ "pwm".toList ++ 'c' :: rest := by
    intro rest chip
    rw [same, List.append_cancel_left_eq] at chip
    rw [chip] at different
    exact different rfl
  have notExport : name.toList ≠ "pwmchip0/export".toList := apart "hip0/export".toList
  have notUnexport : name.toList ≠ "pwmchip0/unexport".toList := apart "hip0/unexport".toList
  rw [fileOf, String.toList_append, afterLiteral_append, Option.bind_some, if_neg notExport,
    if_neg notUnexport, same, afterLiteral_append, Option.bind_some]

theorem fileOf_channel (nr : Nat) (name : Attribute) :
    fileOf ("/sys/class/pwm/" ++ s!"pwm{nr}{name.text}") = some (.channelFile nr name) := by
  have same : s!"pwm{nr}{name.text}".toList =
      "pwm".toList ++ (Nat.toDigits 10 nr ++ name.text.toList) := by
    have digits : (toString nr).toList = Nat.toDigits 10 nr := Nat.toList_repr
    rw [← List.append_assoc, ← digits]
    simp only [String.toList_append]
    rfl
  have different : (Nat.toDigits 10 nr ++ name.text.toList).head? ≠ some 'c' := by
    obtain ⟨digit, later, written, isDigit⟩ := toDigits_head nr
    rw [written, List.cons_append, List.head?_cons]
    intro letter
    rw [Option.some.inj letter] at isDigit
    exact absurd isDigit (by decide)
  rw [fileOf_pwm same different, channelFileOf_text]

/-- No channel has a negative number. -/
theorem fileOf_negative (nr : Nat) (name : Attribute) :
    fileOf ("/sys/class/pwm/" ++ s!"pwm{Int.negSucc nr}{name.text}") = none := by
  have same : s!"pwm{Int.negSucc nr}{name.text}".toList =
      "pwm".toList ++ ('-' :: (Nat.toDigits 10 (nr + 1) ++ name.text.toList)) := by
    have digits : (toString (Int.negSucc nr)).toList = '-' :: Nat.toDigits 10 (nr + 1) := by
      have signed : toString (Int.negSucc nr) = "-" ++ toString (nr + 1) := rfl
      have unsigned : (toString (nr + 1)).toList = Nat.toDigits 10 (nr + 1) := Nat.toList_repr
      rw [signed, String.toList_append, unsigned]
      rfl
    rw [← List.cons_append, ← digits]
    simp only [String.toList_append]
    rfl
  rw [fileOf_pwm same (by simp)]
  rfl

end Texts

section Stores

variable {settings changed : Settings}

@[simp] theorem store_period (number : Nat) :
    settings.store (toString number) .period = settings.setPeriod number := by
  rw [Settings.store, numberOf_toString, Option.bind_some]

@[simp] theorem store_dutyCycle (number : Nat) :
    settings.store (toString number) .dutyCycle = settings.setDutyCycle number := by
  rw [Settings.store, numberOf_toString, Option.bind_some]

@[simp] theorem store_enable (number : Nat) :
    settings.store (toString number) .enable = settings.setEnable number := by
  rw [Settings.store, numberOf_toString, Option.bind_some]

theorem setPeriod_eq_some_iff {period : Nat} :
    settings.setPeriod period = some changed ↔
      settings.dutyCycle ≤ period ∧ changed = { settings with period } := by
  rw [Settings.setPeriod]
  split
  · rename_i longer
    simp [Nat.not_le.mpr longer]
  · rename_i fits
    simp [Nat.not_lt.mp fits, eq_comm]

theorem setDutyCycle_eq_some_iff {dutyCycle : Nat} :
    settings.setDutyCycle dutyCycle = some changed ↔
      dutyCycle ≤ settings.period ∧ changed = { settings with dutyCycle } := by
  rw [Settings.setDutyCycle]
  split
  · rename_i longer
    simp [Nat.not_le.mpr longer]
  · rename_i fits
    simp [Nat.not_lt.mp fits, eq_comm]

theorem setPolarity_eq_some_iff {polarity : Polarity} :
    settings.setPolarity polarity = some changed ↔
      settings.enabled = false ∧ changed = { settings with polarity } := by
  rw [Settings.setPolarity]
  split
  · rename_i running
    simp [running]
  · rename_i idle
    simp [idle, eq_comm]

end Stores

section Channels

variable {chip : PwmChip} {nr other : Nat} {channel : Channel} {settings : Settings}

theorem get_put_self (present : nr < chip.channels.length) :
    (chip.put nr channel).channels[nr]? = some channel :=
  List.getElem?_set_self present

theorem get_put_other (apart : other ≠ nr) :
    (chip.put nr channel).channels[other]? = chip.channels[other]? :=
  List.getElem?_set_ne apart.symm

theorem put_put (first second : Channel) : (chip.put nr first).put nr second = chip.put nr second :=
  congrArg (PwmChip.mk chip.regained) (List.set_set ..)

theorem present_of_get (found : chip.channels[nr]? = some channel) : nr < chip.channels.length :=
  (List.getElem?_eq_some_iff.mp found).1

/-- The settings of an exported channel. -/
def Shows (chip : PwmChip) (nr : Nat) (settings : Settings) : Prop :=
  chip.channels[nr]? = some ⟨true, settings⟩

theorem exportStore_eq_some_iff {after : PwmChip} :
    chip.exportStore nr = some after ↔ ∃ settings,
      chip.channels[nr]? = some ⟨false, settings⟩ ∧
        after = chip.put nr ⟨true, chip.regained settings⟩ := by
  rw [PwmChip.exportStore]
  constructor
  · intro granted
    split at granted
    · rename_i settings found
      exact ⟨settings, found, (Option.some.inj granted).symm⟩
    · exact absurd granted (by simp)
  · intro given
    obtain ⟨settings, found, same⟩ := given
    rw [found, same]

theorem unexportStore_of_shows (shown : Shows chip nr settings) :
    chip.unexportStore nr = some (chip.put nr ⟨false, settings⟩) := by
  have found : chip.channels[nr]? = some ⟨true, settings⟩ := shown
  rw [PwmChip.unexportStore, found]

theorem store_of_shows (shown : Shows chip nr settings) (name : Attribute) (text : String) :
    chip.store nr name text =
      (settings.store text name).map fun changed => chip.put nr ⟨true, changed⟩ := by
  have found : chip.channels[nr]? = some ⟨true, settings⟩ := shown
  rw [PwmChip.store, found]

/-- A store changes no other channel. -/
theorem get_store {after : PwmChip} {name : Attribute} {text : String} (apart : other ≠ nr)
    (stored : chip.store nr name text = some after) :
    after.channels[other]? = chip.channels[other]? := by
  rw [PwmChip.store] at stored
  split at stored
  · obtain ⟨changed, _, same⟩ := Option.map_eq_some_iff.mp stored
    rw [← same, get_put_other apart]
  · exact absurd stored (by simp)

theorem regained_store {after : PwmChip} {name : Attribute} {text : String}
    (stored : chip.store nr name text = some after) : after.regained = chip.regained := by
  rw [PwmChip.store] at stored
  split at stored
  · obtain ⟨changed, _, same⟩ := Option.map_eq_some_iff.mp stored
    rw [← same]
    rfl
  · exact absurd stored (by simp)

end Channels

end Ebaz4205.PwmSysfs
