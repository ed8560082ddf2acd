import Ebaz4205.PwmStart

/-!
# Starting the PWM server again

What an earlier run leaves for the next start, whatever its requests were and
however it ended. A request changes the settings of the channel it names and no
others, a channel stays exported up to the shutdown, and the shutdown leaves the
settings as they are.
-/

namespace Ebaz4205.PwmRestart

open DoubleRounding InterruptedProcess InterruptedProcess.Process PwmSysfs PwmServer PwmStart

set_option autoImplicit false

variable {chip after : PwmChip} {nr : Nat} {settings : Settings} {requests : List Request}

/-- What a request makes of the settings of a channel. -/
def requested (nr : Nat) (settings : Settings) : Request → Settings
  | .status _ => settings
  | .enable other => if other = nr then { settings with enabled := true } else settings
  | .disable other => if other = nr then { settings with enabled := false } else settings
  | .dutyCycle other val =>
      if other = nr ∧ 0 ≤ val ∧ val < 101 then { settings with dutyCycle := scaledDuty val }
      else settings

def lastSettings (requests : List Request) (nr : Nat) : Settings :=
  requests.foldl (requested nr) prepared

inductive Ending where
  | shutdown
  | crash
  | failedStart
  deriving DecidableEq

/-- A run of the server on this chip, with these requests up to its end. -/
inductive EarlierRun (chip : PwmChip) (requests : List Request) : Ending → PwmChip → Prop where
  | shutdown {after : PwmChip} (ran : (lifespan requests).exec chip = (.ok (), after)) :
      EarlierRun chip requests .shutdown after
  | crash {after : PwmChip} (interrupted : after ∈ (lifespan requests).passed chip) :
      EarlierRun chip requests .crash after
  | failedStart {after : PwmChip} {error : PythonError}
      (raised : startupEvent.exec chip = (.error error, after)) :
      EarlierRun chip requests .failedStart after

section Requests

theorem scaledDuty_le {val : Int} (nonneg : 0 ≤ val) (small : val < 101) :
    scaledDuty val ≤ 1000000 := by
  have lower : (0 : Rat) ≤ (val : Rat) / 100 := div_nonneg (by exact_mod_cast nonneg) (by norm_num)
  have upper : (val : Rat) / 100 ≤ (1 : Nat) := by
    rw [div_le_iff₀ (by norm_num)]
    have whole : val ≤ 100 := by omega
    norm_num
    exact_mod_cast whole
  have quotient := toDouble_le lower upper (by norm_num)
  have product : toDouble ((val : Rat) / 100) * 1000000 ≤ (1000000 : Nat) := by
    rw [Nat.cast_one] at quotient
    push_cast
    linarith
  apply truncate_le
  apply toDouble_le (mul_nonneg (toDouble_nonneg lower) (by norm_num)) product
  have log : Nat.log 2 1000000 < 20 := Nat.log_lt_of_lt_pow (by norm_num) (by norm_num)
  omega

theorem period_requested (request : Request) :
    (requested nr settings request).period = settings.period := by
  cases request with
  | status other => rfl
  | enable other =>
      rw [requested]
      split <;> rfl
  | disable other =>
      rw [requested]
      split <;> rfl
  | dutyCycle other val =>
      rw [requested]
      split <;> rfl

theorem write_negative (number : Nat) (name : Attribute) (text : String) :
    chip.write ("/sys/class/pwm/" ++ s!"pwm{Int.negSucc number}{name.text}") text = none := by
  rw [PwmChip.write, fileOf_negative, Option.bind_none]

/-- The chip behind a write that a request may make. -/
def afterWrite (chip : PwmChip) (nr : Int) (name : Attribute) (text : String) : PwmChip :=
  (chip.write ("/sys/class/pwm/" ++ s!"pwm{nr}{name.text}") text).getD chip

theorem afterWrite_ofNat (number : Nat) (name : Attribute) (text : String) :
    afterWrite chip (Int.ofNat number) name text = (chip.store number name text).getD chip :=
  congrArg (fun result => Option.getD result chip) (write_channel number name text)

theorem shows_afterWrite {other : Int} {name : Attribute} {text : String} {changed : Settings}
    (shown : Shows chip nr settings) (stored : settings.store text name = some changed) :
    Shows (afterWrite chip other name text) nr (if other = nr then changed else settings) := by
  cases other with
  | ofNat number =>
      rw [afterWrite_ofNat]
      by_cases same : number = nr
      · have equal : Int.ofNat nr = nr := rfl
        rw [same, store_of_shows shown, stored, if_pos equal]
        exact get_put_self (present_of_get shown)
      · have apart : ¬Int.ofNat number = nr := fun equal => same (Int.ofNat.inj equal)
        rw [if_neg apart]
        cases result : chip.store number name text with
        | none => exact shown
        | some other => exact (get_store (Ne.symm same) result).trans shown
  | negSucc number =>
      rw [afterWrite, write_negative, if_neg (by simp)]
      exact shown

theorem regained_afterWrite (other : Int) (name : Attribute) (text : String) :
    (afterWrite chip other name text).regained = chip.regained := by
  cases other with
  | ofNat number =>
      rw [afterWrite_ofNat]
      cases result : chip.store number name text with
      | none => rfl
      | some changed => exact regained_store result
  | negSucc number =>
      rw [afterWrite, write_negative]
      rfl

/-- The status is read without a write. -/
theorem preserves_readPwmState (inv : PwmChip → Prop) (other : Int) :
    (readPwmState other).Preserves inv := by
  have reads : ∀ dev, (readSysfsPwm dev).Preserves inv := by
    intro dev state
    dsimp only
    cases state.read ("/sys/class/pwm/" ++ dev) <;> trivial
  apply preserves_bind (reads _)
  intro duty
  apply preserves_bind
  · rw [intOf]
    cases numberOf duty <;> trivial
  · intro dc
    apply preserves_bind (reads _)
    intro enable
    apply preserves_bind
    · rw [firstOf]
      cases enable.toList <;> trivial
    · intro enabled
      apply preserves_bind (reads _)
      intro polarity
      trivial

theorem exec_readPwmState (other : Int) : ((readPwmState other).exec chip).2 = chip :=
  inv_exec (preserves_readPwmState (· = chip) other) rfl

theorem exec_write_then_read (other : Int) (name : Attribute) (text : String) :
    (((writeSysfsPwm s!"pwm{other}{name.text}" text).bind fun _ =>
      readPwmState other).exec chip).2 = afterWrite chip other name text := by
  rw [afterWrite]
  cases written : chip.write ("/sys/class/pwm/" ++ s!"pwm{other}{name.text}") text with
  | some changed =>
      rw [exec_bind_ok (exec_write_some written), exec_readPwmState]
      rfl
  | none =>
      rw [exec_bind_error (exec_write_none written)]
      rfl

theorem pwmDutyCycle_eq (other val : Int) :
    pwmDutyCycle other val =
      if 0 ≤ val ∧ val < 101 then
        (writeSysfsPwm s!"pwm{other}/duty_cycle" (toString (scaledDuty val))).bind fun _ =>
          readPwmState other
      else raising (.httpException 400 s!"Duty-Cycle {val} out of range!") := by
  rw [pwmDutyCycle]
  split
  · rfl
  · rfl

/-- The chip behind a request. -/
def serveIn (chip : PwmChip) (request : Request) : PwmChip := ((serve request).exec chip).2

theorem serveIn_dutyCycle (other val : Int) :
    serveIn chip (.dutyCycle other val) =
      if 0 ≤ val ∧ val < 101 then afterWrite chip other .dutyCycle (toString (scaledDuty val))
      else chip := by
  rw [serveIn, serve, pwmDutyCycle_eq]
  split
  · exact exec_write_then_read other .dutyCycle _
  · rfl

theorem serveIn_enable (other : Int) :
    serveIn chip (.enable other) = afterWrite chip other .enable "1" :=
  exec_write_then_read other .enable "1"

theorem serveIn_disable (other : Int) :
    serveIn chip (.disable other) = afterWrite chip other .enable "0" :=
  exec_write_then_read other .enable "0"

/-- A request does to each exported channel what it should. -/
theorem shows_serveIn (shown : Shows chip nr settings) (period : settings.period = 1000000)
    (request : Request) : Shows (serveIn chip request) nr (requested nr settings request) := by
  cases request with
  | status other =>
      rw [serveIn, serve, pwmStatus, exec_readPwmState]
      exact shown
  | enable other =>
      rw [serveIn_enable]
      exact shows_afterWrite shown rfl
  | disable other =>
      rw [serveIn_disable]
      exact shows_afterWrite shown rfl
  | dutyCycle other val =>
      rw [serveIn_dutyCycle, requested]
      by_cases range : 0 ≤ val ∧ val < 101
      · have fits : scaledDuty val ≤ settings.period := by
          rw [period]
          exact scaledDuty_le range.1 range.2
        have stored := setDutyCycle_eq_some_iff.mpr ⟨fits, rfl⟩
        rw [← store_dutyCycle] at stored
        simp only [if_pos range, and_iff_left range]
        exact shows_afterWrite shown stored
      · rw [if_neg range, if_neg fun both => range both.2]
        exact shown

theorem regained_serveIn (request : Request) :
    (serveIn chip request).regained = chip.regained := by
  cases request with
  | status other => rw [serveIn, serve, pwmStatus, exec_readPwmState]
  | enable other => rw [serveIn_enable, regained_afterWrite]
  | disable other => rw [serveIn_disable, regained_afterWrite]
  | dutyCycle other val =>
      rw [serveIn_dutyCycle]
      split
      · exact regained_afterWrite other .dutyCycle _
      · rfl

theorem exec_serveAll (requests : List Request) :
    ∃ responses, (serveAll requests).exec chip =
      (.ok responses, requests.foldl serveIn chip) := by
  induction requests generalizing chip with
  | nil => exact ⟨[], rfl⟩
  | cons request rest ih =>
      obtain ⟨later, ran⟩ := @ih (serveIn chip request)
      refine ⟨((serve request).exec chip).1 :: later, ?_⟩
      rw [serveAll, bind_eq, exec_bind_ok exec_attempt, bind_eq]
      change (Process.bind (serveAll rest) _).exec (serveIn chip request) = _
      rw [exec_bind_ok ran]
      rfl

/-- Every request is answered, and the settings are those of all of them. -/
theorem shows_serveAll (shown : Shows chip nr settings) (period : settings.period = 1000000)
    (requests : List Request) :
    Shows (requests.foldl serveIn chip) nr (requests.foldl (requested nr) settings) := by
  induction requests generalizing chip settings with
  | nil => exact shown
  | cons request rest ih =>
      exact ih (shows_serveIn shown period request) ((period_requested request).trans period)

theorem regained_serveAll (requests : List Request) :
    (requests.foldl serveIn chip).regained = chip.regained := by
  induction requests generalizing chip with
  | nil => rfl
  | cons request rest ih =>
      rw [List.foldl_cons, ih, regained_serveIn]

end Requests

section Exported

theorem preserves_write_then_read (other : Int) (name : Attribute) (text : String) :
    ((writeSysfsPwm s!"pwm{other}{name.text}" text).bind fun _ =>
      readPwmState other).Preserves (Exported nr) := by
  apply preserves_bind
  · cases other with
    | ofNat number => exact preserves_write_channel nr number name text
    | negSucc number =>
        apply preserves_write
        intro chip changed exported stored
        rw [write_negative] at stored
        exact absurd stored (by simp)
  · intro _
    exact preserves_readPwmState _ other

theorem preserves_serve (request : Request) : (serve request).Preserves (Exported nr) := by
  cases request with
  | status other => exact preserves_readPwmState _ other
  | enable other => exact preserves_write_then_read other .enable "1"
  | disable other => exact preserves_write_then_read other .enable "0"
  | dutyCycle other val =>
      rw [serve, pwmDutyCycle_eq]
      split
      · exact preserves_write_then_read other .dutyCycle _
      · trivial

theorem preserves_serveAll (requests : List Request) :
    (serveAll requests).Preserves (Exported nr) := by
  induction requests with
  | nil => trivial
  | cons request rest ih =>
      apply preserves_bind (preserves_attempt (preserves_serve request))
      intro response
      apply preserves_bind ih
      intro later
      trivial

end Exported

section Shutdown

theorem exec_unpreparePwm (shown : Shows chip nr settings) :
    (unpreparePwm nr).exec chip = (.ok (), chip.put nr ⟨false, settings⟩) := by
  rw [unpreparePwm, exec_write_ok_iff, write_unexport]
  exact unexportStore_of_shows shown

/-- An orderly shutdown takes every channel back and keeps its settings. -/
theorem exec_unpreparing (items : List Nat) (distinct : items.Nodup) {held : Nat → Settings}
    (shown : ∀ nr ∈ items, Shows chip nr (held nr)) :
    ∃ after, (forEach unpreparePwm items).exec chip = (.ok (), after) ∧
      after.regained = chip.regained ∧
      (∀ nr ∈ items, after.channels[nr]? = some ⟨false, held nr⟩) ∧
      ∀ nr ∉ items, after.channels[nr]? = chip.channels[nr]? := by
  induction items generalizing chip with
  | nil => exact ⟨chip, rfl, rfl, fun _ member => absurd member List.not_mem_nil, fun _ _ => rfl⟩
  | cons item rest ih =>
      obtain ⟨fresh, distinctRest⟩ := List.nodup_cons.mp distinct
      have first := shown item List.mem_cons_self
      have kept : ∀ nr ∈ rest, Shows (chip.put item ⟨false, held item⟩) nr (held nr) := by
        intro nr member
        have apart : nr ≠ item := ne_of_mem_of_not_mem member fresh
        exact (get_put_other apart).trans (shown nr (List.mem_cons_of_mem _ member))
      obtain ⟨after, ran, regained, inside, outside⟩ := ih distinctRest kept
      refine ⟨after, ?_, regained, ?_, ?_⟩
      · rw [forEach, exec_bind_ok (exec_unpreparePwm first)]
        exact ran
      · intro nr member
        rcases List.mem_cons.mp member with here | later
        · rw [here, outside item fresh, get_put_self (present_of_get first)]
        · exact inside nr later
      · intro nr member
        rw [List.mem_cons, not_or] at member
        rw [outside nr member.2, get_put_other member.1]

/-- An interrupted shutdown leaves a channel exported. -/
theorem passed_unpreparing (items : List Nat) (distinct : items.Nodup)
    (exported : ∀ nr ∈ items, Exported nr chip) {left : PwmChip}
    (interrupted : left ∈ (forEach unpreparePwm items).passed chip) :
    ∃ nr ∈ items, Exported nr left := by
  induction items generalizing chip with
  | nil => exact absurd interrupted List.not_mem_nil
  | cons item rest ih =>
      obtain ⟨fresh, distinctRest⟩ := List.nodup_cons.mp distinct
      obtain ⟨settings, first⟩ := exported item List.mem_cons_self
      rw [forEach, mem_passed_bind, unpreparePwm, passed_write] at interrupted
      rcases interrupted with here | ⟨_, middle, ran, later⟩
      · rw [List.mem_singleton.mp here]
        exact ⟨item, List.mem_cons_self, settings, first⟩
      · have same := exec_unpreparePwm first
        rw [unpreparePwm, ran, Prod.mk.injEq] at same
        have kept : ∀ nr ∈ rest, Exported nr middle := by
          intro nr member
          have apart : nr ≠ item := ne_of_mem_of_not_mem member fresh
          obtain ⟨others, shown⟩ := exported nr (List.mem_cons_of_mem _ member)
          rw [same.2]
          exact ⟨others, (get_put_other apart).trans shown⟩
        obtain ⟨nr, member, found⟩ := ih distinctRest kept later
        exact ⟨nr, List.mem_cons_of_mem _ member, found⟩

end Shutdown

section Runs

theorem shows_requests (started : startupEvent.exec chip = (.ok (), after)) :
    ∀ nr < numPwm, Shows (requests.foldl serveIn after) nr (lastSettings requests nr) :=
  fun nr below => shows_serveAll (shows_of_preparePwms started nr below) rfl requests

/-- A server that has started ends in an orderly shutdown, if nothing interrupts it. -/
theorem exec_lifespan {started : PwmChip} (ran : startupEvent.exec chip = (.ok (), started)) :
    ∃ after, (lifespan requests).exec chip = (.ok (), after) ∧
      after.regained = chip.regained ∧
      ∀ nr < numPwm, after.channels[nr]? = some ⟨false, lastSettings requests nr⟩ := by
  have shown : ∀ nr ∈ List.range numPwm,
      Shows (requests.foldl serveIn started) nr (lastSettings requests nr) :=
    fun nr member => shows_requests ran nr (List.mem_range.mp member)
  obtain ⟨after, stopped, regained, left, _⟩ := exec_unpreparing _ List.nodup_range shown
  obtain ⟨responses, served⟩ := @exec_serveAll started requests
  refine ⟨after, ?_, ?_, fun nr below => left nr (List.mem_range.mpr below)⟩
  · rw [lifespan, bind_eq, exec_bind_ok ran, bind_eq, exec_bind_ok served]
    exact stopped
  · obtain ⟨_, same⟩ := exec_preparePwms_iff.mp ran
    rw [regained, regained_serveAll, same, regained_preparing]

/-- An interrupted run has not written yet, or it leaves a channel exported. -/
theorem passed_lifespan {left : PwmChip} (interrupted : left ∈ (lifespan requests).passed chip) :
    left = chip ∨ ∃ nr < numPwm, Exported nr left := by
  rw [lifespan, bind_eq, mem_passed_bind] at interrupted
  rcases interrupted with starting | ⟨_, started, ran, later⟩
  · rcases passed_preparing _ starting with here | ⟨nr, member, exported⟩
    · exact .inl here
    · exact .inr ⟨nr, List.mem_range.mp member, exported⟩
  · right
    rw [bind_eq, mem_passed_bind] at later
    rcases later with serving | ⟨_, idle, served, stopping⟩
    · have below : 0 < numPwm := by decide
      have exported : Exported 0 started := ⟨prepared, shows_of_preparePwms ran 0 below⟩
      exact ⟨0, below, inv_passed (preserves_serveAll requests) exported serving⟩
    · obtain ⟨responses, whole⟩ := @exec_serveAll started requests
      rw [served, Prod.mk.injEq] at whole
      have exported : ∀ nr ∈ List.range numPwm, Exported nr idle := by
        intro nr member
        rw [whole.2]
        exact ⟨_, shows_requests ran nr (List.mem_range.mp member)⟩
      obtain ⟨nr, member, found⟩ := passed_unpreparing _ List.nodup_range exported stopping
      exact ⟨nr, List.mem_range.mp member, found⟩

/-- After an orderly shutdown the channels are ready if the chip gives them back so. -/
theorem prepares_after_shutdown (ran : (lifespan requests).exec chip = (.ok (), after)) :
    Prepares after ↔ ∀ nr < numPwm, Fresh (chip.regained (lastSettings requests nr)) := by
  rw [lifespan, bind_eq] at ran
  obtain ⟨_, started, startup, _⟩ := exec_bind_ok_iff.mp ran
  obtain ⟨final, whole, regained, left⟩ := @exec_lifespan chip requests started startup
  rw [lifespan, bind_eq, ran, Prod.mk.injEq] at whole
  rw [prepares_iff, whole.2]
  constructor
  · intro ready nr below
    obtain ⟨settings, found, fresh⟩ := ready nr below
    rw [left nr below, Option.some.injEq, Channel.mk.injEq] at found
    rw [found.2, ← regained]
    exact fresh
  · intro fresh nr below
    refine ⟨_, left nr below, ?_⟩
    rw [regained]
    exact fresh nr below

theorem not_prepares_of_raised {error : PythonError}
    (raised : startupEvent.exec chip = (.error error, after)) : ¬Prepares after := by
  rw [prepares_iff]
  intro ready
  obtain ⟨nr, member, unready⟩ := exec_preparing_raised _ raised
  exact unready (ready nr (List.mem_range.mp member))

/-- What a restart of the service leaves. -/
def restart (chip : PwmChip) : PwmChip := (startupEvent.exec chip).2

/-- A start that fails once fails for ever, however often the service is restarted. -/
theorem outage_lasts (unprepared : ¬Prepares chip) (restarts : Nat) :
    ¬Prepares (restart^[restarts] chip) := by
  induction restarts generalizing chip with
  | zero => exact unprepared
  | succ count ih =>
      rw [Function.iterate_succ_apply]
      apply ih
      rw [restart]
      cases ran : startupEvent.exec chip with
      | mk ended left =>
          cases ended with
          | ok _ => exact absurd ⟨left, ran, shows_of_preparePwms ran⟩ unprepared
          | error error => exact not_prepares_of_raised ran

/-- A server can be killed when it has answered its requests. -/
theorem crash_when_idle {started : PwmChip} (ran : startupEvent.exec chip = (.ok (), started))
    (requests : List Request) :
    EarlierRun chip requests .crash (requests.foldl serveIn started) := by
  obtain ⟨responses, served⟩ := @exec_serveAll started requests
  apply EarlierRun.crash
  rw [lifespan, bind_eq, mem_passed_bind]
  refine .inr ⟨(), started, ran, ?_⟩
  rw [bind_eq, mem_passed_bind]
  refine .inr ⟨responses, _, served, ?_⟩
  exact List.mem_cons_self

end Runs

section Restarts

/-- The next start succeeds after an orderly shutdown that leaves every channel
disabled, and after a run that was killed before it had written to a chip that was
ready; after no other. -/
theorem restart_prepares_iff {ending : Ending} (run : EarlierRun chip requests ending after) :
    Prepares after ↔
      (ending = .shutdown ∧ ∀ nr < numPwm, Fresh (chip.regained (lastSettings requests nr))) ∨
        (ending = .crash ∧ after = chip ∧ ∀ nr < numPwm, Ready chip nr) := by
  cases run with
  | shutdown ran => simp [prepares_after_shutdown ran]
  | crash interrupted =>
      simp only [reduceCtorEq, false_and, true_and, false_or]
      constructor
      · intro prepares
        rcases passed_lifespan interrupted with here | ⟨nr, below, exported⟩
        · rw [here] at prepares
          exact ⟨here, prepares_iff.mp prepares⟩
        · exact absurd prepares (not_prepares_of_exported below exported)
      · intro both
        rw [both.1]
        exact prepares_iff.mpr both.2
  | failedStart raised =>
      simp only [reduceCtorEq, false_and, or_self, iff_false]
      exact not_prepares_of_raised raised

/-- Two channels that nobody has used, on a chip that keeps the settings. -/
def bootChip : PwmChip := ⟨id, List.replicate 2 ⟨false, ⟨0, 0, .normal, false⟩⟩⟩

theorem bootChip_ready : ∀ nr < numPwm, Ready bootChip nr := by
  intro nr below
  have small : nr < 2 := below
  refine ⟨⟨0, 0, .normal, false⟩, ?_, by decide⟩
  rw [bootChip, List.getElem?_replicate, if_pos small]

theorem bootChip_starts : ∃ started, startupEvent.exec bootChip = (.ok (), started) :=
  ⟨_, exec_preparePwms_iff.mpr ⟨bootChip_ready, rfl⟩⟩

/-- A channel that was enabled and disabled again does not stop the next start. -/
theorem disabled_channels_restart :
    ∃ after, EarlierRun bootChip [.enable 0, .disable 0] .shutdown after ∧ Prepares after := by
  obtain ⟨started, startup⟩ := bootChip_starts
  obtain ⟨after, ran, _, _⟩ := @exec_lifespan bootChip [.enable 0, .disable 0] started startup
  have run : EarlierRun bootChip [.enable 0, .disable 0] .shutdown after := .shutdown ran
  have fresh : ∀ nr < numPwm, Fresh (lastSettings [.enable 0, .disable 0] nr) := by decide
  exact ⟨after, run, (restart_prepares_iff run).mpr (.inl ⟨rfl, fresh⟩)⟩

/-- A server that is killed cannot be started again, nor can one that is shut down with
a channel enabled. -/
theorem restarts_fail :
    (∃ after, EarlierRun bootChip [] .crash after ∧ ¬Prepares after) ∧
      ∃ after, EarlierRun bootChip [.enable 0] .shutdown after ∧ ¬Prepares after := by
  obtain ⟨started, startup⟩ := bootChip_starts
  constructor
  · have exported : Exported 0 started := ⟨prepared, shows_of_preparePwms startup 0 (by decide)⟩
    exact ⟨started, crash_when_idle startup [], not_prepares_of_exported (by decide) exported⟩
  · obtain ⟨after, ran, _, _⟩ := @exec_lifespan bootChip [.enable 0] started startup
    refine ⟨after, .shutdown ran, ?_⟩
    rw [prepares_after_shutdown ran]
    intro fresh
    exact absurd (fresh 0 (by decide)) (by decide)

end Restarts

end Ebaz4205.PwmRestart
