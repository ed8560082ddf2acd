import Ebaz4205.PwmServer

/-!
# What a start of the PWM server does

A start prepares one channel after the other. A channel can be prepared when it is
not exported and its settings, once it is, let the period be set and the polarity be
changed. From its first write on, an interrupted start leaves a channel exported.
-/

namespace Ebaz4205.PwmStart

open InterruptedProcess InterruptedProcess.Process PwmSysfs PwmServer

set_option autoImplicit false

/-- The settings that a start leaves a channel with. -/
def prepared : Settings := ⟨1000000, 1000000, .inversed, false⟩

/-- From these settings a start can make its own. -/
def Fresh (settings : Settings) : Prop :=
  settings.enabled = false ∧ settings.dutyCycle ≤ 1000000

instance (settings : Settings) : Decidable (Fresh settings) :=
  inferInstanceAs (Decidable (_ ∧ _))

def Ready (chip : PwmChip) (nr : Nat) : Prop :=
  ∃ settings, chip.channels[nr]? = some ⟨false, settings⟩ ∧ Fresh (chip.regained settings)

def Exported (nr : Nat) (chip : PwmChip) : Prop := ∃ settings, Shows chip nr settings

variable {chip after : PwmChip} {nr other : Nat}

theorem not_ready_of_exported (exported : Exported nr chip) : ¬Ready chip nr := by
  intro ready
  obtain ⟨shown, found⟩ := exported
  obtain ⟨settings, hidden, _⟩ := ready
  rw [Shows, hidden] at found
  exact absurd found (by simp)

section Writes

theorem exec_write_some {dev param : String}
    (written : chip.write ("/sys/class/pwm/" ++ dev) param = some after) :
    (writeSysfsPwm dev param).exec chip = (.ok (), after) := by
  rw [writeSysfsPwm, exec, written]
  rfl

theorem exec_write_none {dev param : String}
    (refused : chip.write ("/sys/class/pwm/" ++ dev) param = none) :
    (writeSysfsPwm dev param).exec chip =
      (.error (.httpException 400 s!"Failed to write {param} to pwm device {dev}"), chip) := by
  rw [writeSysfsPwm, exec, refused]
  rfl

theorem exec_write_ok_iff {dev param : String} :
    (writeSysfsPwm dev param).exec chip = (.ok (), after) ↔
      chip.write ("/sys/class/pwm/" ++ dev) param = some after := by
  cases written : chip.write ("/sys/class/pwm/" ++ dev) param with
  | some changed =>
      rw [exec_write_some written]
      simp
  | none =>
      rw [exec_write_none written]
      simp

theorem passed_write (dev param : String) : (writeSysfsPwm dev param).passed chip = [chip] := by
  rw [writeSysfsPwm, passed]
  cases chip.write ("/sys/class/pwm/" ++ dev) param <;> rfl

theorem write_export (nr : Nat) :
    chip.write ("/sys/class/pwm/" ++ s!"{pwmchip}/export") (toString nr) = chip.exportStore nr := by
  have file : fileOf ("/sys/class/pwm/" ++ s!"{pwmchip}/export") = some .exportFile := by decide
  simp only [PwmChip.write, file, Option.bind_some, numberOf_toString]

theorem write_unexport (nr : Nat) :
    chip.write ("/sys/class/pwm/" ++ s!"{pwmchip}/unexport") (toString nr) =
      chip.unexportStore nr := by
  have file : fileOf ("/sys/class/pwm/" ++ s!"{pwmchip}/unexport") = some .unexportFile := by
    decide
  simp only [PwmChip.write, file, Option.bind_some, numberOf_toString]

theorem write_channel (nr : Nat) (name : Attribute) (text : String) :
    chip.write ("/sys/class/pwm/" ++ s!"pwm{nr}{name.text}") text = chip.store nr name text := by
  rw [PwmChip.write, fileOf_channel, Option.bind_some]

/-- A write to a file of an exported channel. -/
theorem exec_write_channel_iff {first : Settings} (present : nr < chip.channels.length)
    (name : Attribute) (text : String) :
    (writeSysfsPwm s!"pwm{nr}{name.text}" text).exec (chip.put nr ⟨true, first⟩) =
        (.ok (), after) ↔
      ∃ second, first.store text name = some second ∧ after = chip.put nr ⟨true, second⟩ := by
  have shown : Shows (chip.put nr ⟨true, first⟩) nr first := get_put_self present
  rw [exec_write_ok_iff, write_channel, store_of_shows shown, Option.map_eq_some_iff]
  simp only [put_put, eq_comm]

end Writes

section Preparation

/-- The settings behind the export of a channel, through the four stores. -/
def settle (settings : Settings) : Option Settings :=
  (settings.setPeriod 1000000).bind fun first =>
    (first.setDutyCycle 1000000).bind fun second =>
      (second.setPolarity .inversed).bind fun third => third.setEnable 0

theorem settle_eq_some_iff {settings last : Settings} :
    settle settings = some last ↔ Fresh settings ∧ last = prepared := by
  simp only [settle, Option.bind_eq_some_iff, setPeriod_eq_some_iff, setDutyCycle_eq_some_iff,
    setPolarity_eq_some_iff]
  constructor
  · intro settled
    obtain ⟨first, ⟨short, rfl⟩, second, ⟨_, rfl⟩, third, ⟨idle, rfl⟩, stopped⟩ := settled
    exact ⟨⟨idle, short⟩, (Option.some.inj stopped).symm⟩
  · intro fresh
    obtain ⟨⟨idle, short⟩, same⟩ := fresh
    exact ⟨_, ⟨short, rfl⟩, _, ⟨le_refl _, rfl⟩, _, ⟨idle, rfl⟩, congrArg some same.symm⟩

theorem exec_store_then_iff {first : Settings} (present : nr < chip.channels.length)
    (name : Attribute) (text : String) (next : Unit → Server Unit) :
    ((writeSysfsPwm s!"pwm{nr}{name.text}" text).bind next).exec (chip.put nr ⟨true, first⟩) =
        (.ok (), after) ↔
      ∃ second, first.store text name = some second ∧
        (next ()).exec (chip.put nr ⟨true, second⟩) = (.ok (), after) := by
  simp only [exec_then_ok_iff, exec_write_channel_iff present]
  constructor
  · intro ran
    obtain ⟨middle, ⟨second, stored, rfl⟩, later⟩ := ran
    exact ⟨second, stored, later⟩
  · intro ran
    obtain ⟨second, stored, later⟩ := ran
    exact ⟨_, ⟨second, stored, rfl⟩, later⟩

/-- The stores of `preparePwm`. -/
def settling (nr : Nat) : Server Unit := do
  writeSysfsPwm s!"pwm{nr}/period" (toString 1000000)
  writeSysfsPwm s!"pwm{nr}/duty_cycle" (toString 1000000)
  writeSysfsPwm s!"pwm{nr}/polarity" "inversed"
  writeSysfsPwm s!"pwm{nr}/enable" (toString 0)

theorem preparePwm_eq (nr : Nat) :
    preparePwm nr =
      (writeSysfsPwm s!"{pwmchip}/export" (toString nr)).bind fun _ => settling nr := rfl

theorem exec_settling_iff {settings : Settings} (present : nr < chip.channels.length) :
    (settling nr).exec (chip.put nr ⟨true, settings⟩) = (.ok (), after) ↔
      ∃ last, settle settings = some last ∧ after = chip.put nr ⟨true, last⟩ := by
  simp only [settle, Option.bind_eq_some_iff]
  constructor
  · intro ran
    obtain ⟨first, period, rest⟩ := (exec_store_then_iff present .period _ _).mp ran
    obtain ⟨second, duty, rest⟩ := (exec_store_then_iff present .dutyCycle _ _).mp rest
    obtain ⟨third, polarity, rest⟩ := (exec_store_then_iff present .polarity _ _).mp rest
    obtain ⟨last, enable, same⟩ := (exec_write_channel_iff present .enable _).mp rest
    rw [store_period] at period
    rw [store_dutyCycle] at duty
    rw [store_enable] at enable
    exact ⟨last, ⟨first, period, second, duty, third, polarity, enable⟩, same⟩
  · intro ran
    obtain ⟨last, ⟨first, period, second, duty, third, polarity, enable⟩, same⟩ := ran
    rw [← store_period] at period
    rw [← store_dutyCycle] at duty
    rw [← store_enable] at enable
    apply (exec_store_then_iff present .period _ _).mpr
    refine ⟨first, period, (exec_store_then_iff present .dutyCycle _ _).mpr ?_⟩
    refine ⟨second, duty, (exec_store_then_iff present .polarity _ _).mpr ?_⟩
    exact ⟨third, polarity, (exec_write_channel_iff present .enable _).mpr ⟨last, enable, same⟩⟩

theorem exec_preparePwm_iff :
    (preparePwm nr).exec chip = (.ok (), after) ↔
      Ready chip nr ∧ after = chip.put nr ⟨true, prepared⟩ := by
  rw [preparePwm_eq, exec_then_ok_iff]
  constructor
  · intro ran
    obtain ⟨middle, exported, rest⟩ := ran
    rw [exec_write_ok_iff, write_export, exportStore_eq_some_iff] at exported
    obtain ⟨settings, found, rfl⟩ := exported
    obtain ⟨last, stored, same⟩ := (exec_settling_iff (present_of_get found)).mp rest
    obtain ⟨fresh, rfl⟩ := settle_eq_some_iff.mp stored
    exact ⟨⟨settings, found, fresh⟩, same⟩
  · intro both
    obtain ⟨⟨settings, found, fresh⟩, same⟩ := both
    refine ⟨chip.put nr ⟨true, chip.regained settings⟩, ?_, ?_⟩
    · rw [exec_write_ok_iff, write_export]
      exact exportStore_eq_some_iff.mpr ⟨settings, found, rfl⟩
    · apply (exec_settling_iff (present_of_get found)).mpr
      exact ⟨prepared, settle_eq_some_iff.mpr ⟨fresh, rfl⟩, same⟩

end Preparation

section Exports

variable {changed : PwmChip}

theorem exported_put {settings : Settings} (exported : Exported nr chip) :
    Exported nr (chip.put other ⟨true, settings⟩) := by
  obtain ⟨old, found⟩ := exported
  by_cases same : nr = other
  · rw [← same]
    exact ⟨settings, get_put_self (present_of_get found)⟩
  · exact ⟨old, (get_put_other same).trans found⟩

theorem exported_exportStore (exported : Exported nr chip)
    (granted : chip.exportStore other = some changed) : Exported nr changed := by
  obtain ⟨settings, _, same⟩ := exportStore_eq_some_iff.mp granted
  rw [same]
  exact exported_put exported

theorem exported_store {name : Attribute} {text : String} (exported : Exported nr chip)
    (stored : chip.store other name text = some changed) : Exported nr changed := by
  rw [PwmChip.store] at stored
  split at stored
  · obtain ⟨settings, _, same⟩ := Option.map_eq_some_iff.mp stored
    rw [← same]
    exact exported_put exported
  · exact absurd stored (by simp)

theorem preserves_write {inv : PwmChip → Prop} {dev param : String}
    (kept : ∀ chip changed, inv chip →
      chip.write ("/sys/class/pwm/" ++ dev) param = some changed → inv changed) :
    (writeSysfsPwm dev param).Preserves inv := by
  refine ⟨kept, fun written => ?_⟩
  cases written with
  | true => trivial
  | false => trivial

theorem preserves_write_channel (nr other : Nat) (name : Attribute) (text : String) :
    (writeSysfsPwm s!"pwm{other}{name.text}" text).Preserves (Exported nr) := by
  apply preserves_write
  intro chip changed exported stored
  rw [write_channel] at stored
  exact exported_store exported stored

theorem preserves_settling (nr other : Nat) : (settling other).Preserves (Exported nr) := by
  apply preserves_bind (preserves_write_channel nr other .period _)
  intro _
  apply preserves_bind (preserves_write_channel nr other .dutyCycle _)
  intro _
  apply preserves_bind (preserves_write_channel nr other .polarity _)
  intro _
  exact preserves_write_channel nr other .enable _

/-- A start takes no exported channel away. -/
theorem preserves_preparePwm (nr other : Nat) : (preparePwm other).Preserves (Exported nr) := by
  rw [preparePwm_eq]
  apply preserves_bind
  · apply preserves_write
    intro chip changed exported granted
    rw [write_export] at granted
    exact exported_exportStore exported granted
  · intro _
    exact preserves_settling nr other

theorem exported_after_export
    (ran : (writeSysfsPwm s!"{pwmchip}/export" (toString nr)).exec chip = (.ok (), after)) :
    Exported nr after := by
  rw [exec_write_ok_iff, write_export] at ran
  obtain ⟨settings, found, same⟩ := exportStore_eq_some_iff.mp ran
  rw [same]
  exact ⟨_, get_put_self (present_of_get found)⟩

/-- A channel that could not be prepared still cannot be. -/
theorem not_ready_of_raised {error : PythonError}
    (ran : (preparePwm nr).exec chip = (.error error, after)) : ¬Ready after nr := by
  rw [preparePwm_eq, exec_bind_error_iff] at ran
  rcases ran with refused | ⟨_, middle, exported, rest⟩
  · cases written : chip.write ("/sys/class/pwm/" ++ s!"{pwmchip}/export") (toString nr) with
    | some changed =>
        rw [exec_write_some written] at refused
        exact absurd (Prod.mk.inj refused).1 (by simp)
    | none =>
        rw [exec_write_none written, Prod.mk.injEq] at refused
        rw [← refused.2]
        intro ready
        obtain ⟨settings, found, _⟩ := ready
        have granted := exportStore_eq_some_iff.mpr ⟨settings, found, rfl⟩
        rw [← write_export, written] at granted
        exact absurd granted (by simp)
  · have kept := inv_exec (preserves_settling nr nr) (exported_after_export exported)
    rw [rest] at kept
    exact not_ready_of_exported kept

theorem passed_preparePwm {left : PwmChip} (interrupted : left ∈ (preparePwm nr).passed chip) :
    left = chip ∨ Exported nr left := by
  rw [preparePwm_eq, mem_passed_bind, passed_write] at interrupted
  rcases interrupted with here | ⟨_, middle, exported, later⟩
  · exact .inl (List.mem_singleton.mp here)
  · exact .inr (inv_passed (preserves_settling nr nr) (exported_after_export exported) later)

end Exports

section Starts

def prepareIn (chip : PwmChip) (nr : Nat) : PwmChip := chip.put nr ⟨true, prepared⟩

theorem ready_prepareIn (apart : other ≠ nr) :
    Ready (prepareIn chip nr) other ↔ Ready chip other := by
  rw [Ready, Ready, prepareIn, get_put_other apart]
  rfl

theorem exec_preparing_iff (items : List Nat) (distinct : items.Nodup) :
    (forEach preparePwm items).exec chip = (.ok (), after) ↔
      (∀ nr ∈ items, Ready chip nr) ∧ after = items.foldl prepareIn chip := by
  induction items generalizing chip with
  | nil => simp [forEach, exec, eq_comm]
  | cons item rest ih =>
      obtain ⟨fresh, distinctRest⟩ := List.nodup_cons.mp distinct
      have others : (∀ nr ∈ rest, Ready (prepareIn chip item) nr) ↔ ∀ nr ∈ rest, Ready chip nr := by
        constructor
        · intro ready nr member
          have apart : nr ≠ item := ne_of_mem_of_not_mem member fresh
          exact (ready_prepareIn apart).mp (ready nr member)
        · intro ready nr member
          have apart : nr ≠ item := ne_of_mem_of_not_mem member fresh
          exact (ready_prepareIn apart).mpr (ready nr member)
      rw [forEach, exec_then_ok_iff, List.forall_mem_cons, List.foldl_cons, ← others, and_assoc]
      constructor
      · intro ran
        obtain ⟨middle, first, later⟩ := ran
        obtain ⟨ready, rfl⟩ := exec_preparePwm_iff.mp first
        exact ⟨ready, (ih distinctRest).mp later⟩
      · intro both
        exact ⟨_, exec_preparePwm_iff.mpr ⟨both.1, rfl⟩, (ih distinctRest).mpr both.2⟩

theorem get_preparing_other (items : List Nat) (apart : nr ∉ items) :
    (items.foldl prepareIn chip).channels[nr]? = chip.channels[nr]? := by
  induction items generalizing chip with
  | nil => rfl
  | cons item rest ih =>
      rw [List.mem_cons, not_or] at apart
      rw [List.foldl_cons, ih apart.2, prepareIn, get_put_other apart.1]

theorem shows_preparing (items : List Nat) (member : nr ∈ items)
    (present : nr < chip.channels.length) : Shows (items.foldl prepareIn chip) nr prepared := by
  induction items generalizing chip with
  | nil => exact absurd member List.not_mem_nil
  | cons item rest ih =>
      rw [List.foldl_cons]
      have kept : nr < (prepareIn chip item).channels.length := by
        rw [prepareIn, PwmChip.put, List.length_set]
        exact present
      by_cases later : nr ∈ rest
      · exact ih later kept
      · have first : nr = item := (List.mem_cons.mp member).resolve_right later
        rw [Shows, get_preparing_other rest later, first]
        rw [first] at present
        exact get_put_self present

theorem regained_preparing (items : List Nat) :
    (items.foldl prepareIn chip).regained = chip.regained := by
  induction items generalizing chip with
  | nil => rfl
  | cons item rest ih => exact ih

theorem exec_preparing_raised (items : List Nat) {error : PythonError}
    (ran : (forEach preparePwm items).exec chip = (.error error, after)) :
    ∃ nr ∈ items, ¬Ready after nr := by
  induction items generalizing chip with
  | nil => exact absurd (Prod.mk.inj ran).1 (by simp)
  | cons item rest ih =>
      rw [forEach, exec_bind_error_iff] at ran
      rcases ran with first | ⟨_, middle, _, later⟩
      · exact ⟨item, List.mem_cons_self, not_ready_of_raised first⟩
      · obtain ⟨nr, member, unready⟩ := ih later
        exact ⟨nr, List.mem_cons_of_mem _ member, unready⟩

theorem passed_preparing (items : List Nat) {left : PwmChip}
    (interrupted : left ∈ (forEach preparePwm items).passed chip) :
    left = chip ∨ ∃ nr ∈ items, Exported nr left := by
  cases items with
  | nil => exact absurd interrupted List.not_mem_nil
  | cons item rest =>
      rw [forEach, mem_passed_bind] at interrupted
      rcases interrupted with first | ⟨_, middle, prepares, later⟩
      · rcases passed_preparePwm first with here | exported
        · exact .inl here
        · exact .inr ⟨item, List.mem_cons_self, exported⟩
      · obtain ⟨ready, same⟩ := exec_preparePwm_iff.mp prepares
        obtain ⟨settings, found, _⟩ := ready
        have exported : Exported item middle := by
          rw [same]
          exact ⟨prepared, get_put_self (present_of_get found)⟩
        have kept := preserves_forEach rest fun other _ => preserves_preparePwm item other
        exact .inr ⟨item, List.mem_cons_self, inv_passed kept exported later⟩

/-- A start succeeds and leaves every channel as it should be. -/
def Prepares (chip : PwmChip) : Prop :=
  ∃ after, preparePwms.exec chip = (.ok (), after) ∧ ∀ nr < numPwm, Shows after nr prepared

theorem exec_preparePwms_iff :
    preparePwms.exec chip = (.ok (), after) ↔
      (∀ nr < numPwm, Ready chip nr) ∧ after = (List.range numPwm).foldl prepareIn chip := by
  rw [preparePwms, exec_preparing_iff _ List.nodup_range]
  simp only [List.mem_range]

theorem shows_of_preparePwms (ran : preparePwms.exec chip = (.ok (), after)) :
    ∀ nr < numPwm, Shows after nr prepared := by
  obtain ⟨ready, same⟩ := exec_preparePwms_iff.mp ran
  intro nr below
  obtain ⟨settings, found, _⟩ := ready nr below
  rw [same]
  exact shows_preparing _ (List.mem_range.mpr below) (present_of_get found)

theorem prepares_iff : Prepares chip ↔ ∀ nr < numPwm, Ready chip nr := by
  constructor
  · intro prepares
    obtain ⟨after, ran, _⟩ := prepares
    exact (exec_preparePwms_iff.mp ran).1
  · intro ready
    have ran := exec_preparePwms_iff.mpr ⟨ready, rfl⟩
    exact ⟨_, ran, shows_of_preparePwms ran⟩

theorem not_prepares_of_exported {item : Nat} (below : item < numPwm)
    (exported : Exported item chip) : ¬Prepares chip := by
  rw [prepares_iff]
  intro ready
  exact not_ready_of_exported exported (ready item below)

end Starts

end Ebaz4205.PwmStart
