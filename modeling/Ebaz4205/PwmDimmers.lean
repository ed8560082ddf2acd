import Ebaz4205.PwmRestart

/-!
# What the PWM server is for

From its start to its shutdown the server is a bank of dimmers, each with a level in
percent and a switch. Every response, also that to a request for a channel it does not
have, is the one of the bank: the level that was set last comes back, whatever is
rounded and printed on the way.
-/

namespace Ebaz4205.PwmDimmers

open DoubleRounding InterruptedProcess InterruptedProcess.Process DecimalText
open PwmSysfs PwmServer PwmStart PwmRestart

set_option autoImplicit false

section Bank

structure Dimmer where
  level : Fin 101
  lit : Bool
  deriving DecidableEq

abbrev Bank := Fin numPwm → Dimmer

/-- The polarity is read with the end of its line. -/
def Dimmer.state (dimmer : Dimmer) : PwmState := ⟨dimmer.lit, dimmer.level, "inversed\n"⟩

def located (nr : Int) : Option (Fin numPwm) :=
  if bound : nr.toNat < numPwm ∧ 0 ≤ nr then some ⟨nr.toNat, bound.1⟩ else none

def writeRefused (param dev : String) : PythonError :=
  .httpException 400 s!"Failed to write {param} to pwm device {dev}"

def readRefused (dev : String) : PythonError :=
  .httpException 400 s!"Failed to read from pwm device {dev}"

/-- A channel that the server does not have is refused, and the bank stays as it is. -/
def turned (bank : Bank) (nr : Int) (refusal : PythonError) (turn : Dimmer → Dimmer) :
    Except PythonError PwmState × Bank :=
  match located nr with
  | none => (.error refusal, bank)
  | some channel =>
    (.ok (turn (bank channel)).state, Function.update bank channel (turn (bank channel)))

def respond (bank : Bank) : Request → Except PythonError PwmState × Bank
  | .status nr => turned bank nr (readRefused s!"pwm{nr}/duty_cycle") id
  | .enable nr => turned bank nr (writeRefused "1" s!"pwm{nr}/enable") ({ · with lit := true })
  | .disable nr => turned bank nr (writeRefused "0" s!"pwm{nr}/enable") ({ · with lit := false })
  | .dutyCycle nr val =>
      if bound : val.toNat < 101 ∧ 0 ≤ val then
        turned bank nr (writeRefused (toString (val.toNat * 10000)) s!"pwm{nr}/duty_cycle")
          ({ · with level := ⟨val.toNat, bound.1⟩ })
      else (.error (.httpException 400 s!"Duty-Cycle {val} out of range!"), bank)

def respondAll (bank : Bank) : List Request → List (Except PythonError PwmState) × Bank
  | [] => ([], bank)
  | request :: rest =>
      ((respond bank request).1 :: (respondAll (respond bank request).2 rest).1,
        (respondAll (respond bank request).2 rest).2)

end Bank

section Numbers

theorem scaledDuty_eq : ∀ level : Fin 101, scaledDuty (level : Nat) = level * 10000 := by
  decide +kernel

/-- What is read is the level that was written. -/
theorem level_read (level : Fin 101) :
    truncate (toDouble (((level * 10000 : Nat) : Rat) / 10000)) = level := by
  have quotient : ((level * 10000 : Nat) : Rat) / 10000 = (level : Nat) := by
    push_cast
    ring
  have short : Nat.log 2 (level : Nat) ≤ 52 := by
    have small : Nat.log 2 (level : Nat) < 7 := Nat.log_lt_of_lt_pow' (by norm_num) (by omega)
    omega
  rw [quotient, toDouble_natCast short, truncate, Int.floor_natCast, Int.toNat_natCast]

end Numbers

section Reading

variable {chip : PwmChip} {nr : Nat} {settings : Settings}

theorem read_channel (name : Attribute) (shown : Shows chip nr settings) :
    (readSysfsPwm s!"pwm{(nr : Int)}{name.text}").exec chip =
      (.ok (settings.shown name), chip) := by
  have found : chip.channels[nr]? = some ⟨true, settings⟩ := shown
  have file : fileOf ("/sys/class/pwm/" ++ s!"pwm{(nr : Int)}{name.text}") =
      some (.channelFile nr name) := fileOf_channel nr name
  have text : chip.read ("/sys/class/pwm/" ++ s!"pwm{(nr : Int)}{name.text}") =
      some (settings.shown name) := by
    rw [PwmChip.read, file, Option.bind_some]
    dsimp only
    rw [found]
  rw [readSysfsPwm, exec, text]
  rfl

theorem numberOf_line (number : Nat) : numberOf s!"{number}\n" = some number := by
  have digits : s!"{number}\n".toList = Nat.toDigits 10 number ++ ['\n'] := by
    have unsigned : (toString number).toList = Nat.toDigits 10 number := Nat.toList_repr
    rw [← unsigned]
    exact String.toList_append
  have stops : ∀ char ∈ ['\n'].head?, char.isDigit = false := by
    intro char member
    cases member
    rfl
  rw [numberOf, digits, dropWhile_toDigits stops, if_pos (Or.inr rfl), scanDigits_toDigits stops]

theorem exec_firstOf (settings : Settings) :
    (firstOf (settings.shown .enable)).exec chip =
      (.ok (if settings.enabled then '1' else '0'), chip) := by
  rw [firstOf, Settings.shown]
  cases settings.enabled <;> rfl

/-- The settings are read line by line. -/
theorem exec_readPwmState_of_shows (shown : Shows chip nr settings) :
    (readPwmState nr).exec chip =
      (.ok ⟨settings.enabled, truncate (toDouble ((settings.dutyCycle : Rat) / 10000)),
        settings.shown .polarity⟩, chip) := by
  have number : (intOf (settings.shown .dutyCycle)).exec chip = (.ok settings.dutyCycle, chip) := by
    rw [intOf, Settings.shown, numberOf_line]
    rfl
  have duty : (readSysfsPwm s!"pwm{(nr : Int)}/duty_cycle").exec chip =
      (.ok (settings.shown .dutyCycle), chip) := read_channel .dutyCycle shown
  have enable : (readSysfsPwm s!"pwm{(nr : Int)}/enable").exec chip =
      (.ok (settings.shown .enable), chip) := read_channel .enable shown
  have polarity : (readSysfsPwm s!"pwm{(nr : Int)}/polarity").exec chip =
      (.ok (settings.shown .polarity), chip) := read_channel .polarity shown
  rw [readPwmState, bind_eq, exec_bind_ok duty, bind_eq, exec_bind_ok number, bind_eq,
    exec_bind_ok enable, bind_eq, exec_bind_ok (exec_firstOf settings), bind_eq,
    exec_bind_ok polarity]
  cases settings.enabled <;> rfl

end Reading

section Serving

/-- The settings of the channel of a dimmer. -/
def Dimmer.settings (dimmer : Dimmer) : Settings :=
  ⟨1000000, dimmer.level * 10000, .inversed, dimmer.lit⟩

/-- The chip shows the bank, and has no other channel. -/
structure Realises (bank : Bank) (chip : PwmChip) : Prop where
  shown : ∀ channel : Fin numPwm, Shows chip channel (bank channel).settings
  hidden : ∀ nr, numPwm ≤ nr → ¬Exported nr chip

variable {chip : PwmChip} {bank : Bank} {channel : Fin numPwm} {nr : Int} {name : Attribute}
  {text : String}

theorem located_eq_some_iff : located nr = some channel ↔ nr = (channel : Nat) := by
  rw [located]
  split
  · rename_i bound
    rw [Option.some.injEq, Fin.ext_iff]
    dsimp only
    omega
  · rename_i outside
    have inside := channel.isLt
    constructor
    · intro same
      cases same
    · intro same
      omega

theorem outside_of_unlocated {number : Nat} (unlocated : located (Int.ofNat number) = none) :
    numPwm ≤ number := by
  by_contra below
  have found : located (Int.ofNat number) = some ⟨number, Nat.lt_of_not_le below⟩ :=
    located_eq_some_iff.mpr rfl
  rw [unlocated] at found
  cases found

/-- The files of a channel that the server does not have cannot be opened. -/
theorem write_of_unlocated (realises : Realises bank chip) (unlocated : located nr = none) :
    chip.write ("/sys/class/pwm/" ++ s!"pwm{nr}{name.text}") text = none := by
  cases nr with
  | ofNat number =>
      have outside := outside_of_unlocated unlocated
      have same : chip.write ("/sys/class/pwm/" ++ s!"pwm{Int.ofNat number}{name.text}") text =
          chip.store number name text := write_channel number name text
      rw [same, PwmChip.store]
      split
      · rename_i settings found
        exact absurd ⟨settings, found⟩ (realises.hidden number outside)
      · rfl
  | negSucc number => exact write_negative number name text

theorem read_of_unlocated (realises : Realises bank chip) (unlocated : located nr = none) :
    chip.read ("/sys/class/pwm/" ++ s!"pwm{nr}{name.text}") = none := by
  cases nr with
  | ofNat number =>
      have outside := outside_of_unlocated unlocated
      have file : fileOf ("/sys/class/pwm/" ++ s!"pwm{Int.ofNat number}{name.text}") =
          some (.channelFile number name) := fileOf_channel number name
      rw [PwmChip.read, file, Option.bind_some]
      dsimp only
      split
      · rename_i settings found
        exact absurd ⟨settings, found⟩ (realises.hidden number outside)
      · rfl
  | negSucc number => rw [PwmChip.read, fileOf_negative, Option.bind_none]

theorem exec_readPwmState_of_realises (realises : Realises bank chip) (channel : Fin numPwm) :
    (readPwmState (channel : Nat)).exec chip = (.ok (bank channel).state, chip) := by
  rw [exec_readPwmState_of_shows (realises.shown channel), Dimmer.settings]
  dsimp only
  rw [level_read]
  rfl

theorem realises_put (realises : Realises bank chip) (channel : Fin numPwm) (dimmer : Dimmer) :
    Realises (Function.update bank channel dimmer) (chip.put channel ⟨true, dimmer.settings⟩) := by
  constructor
  · intro other
    by_cases here : other = channel
    · rw [here, Function.update_self]
      exact get_put_self (present_of_get (realises.shown channel))
    · rw [Function.update_of_ne here]
      exact (get_put_other fun same => here (Fin.ext same)).trans (realises.shown other)
  · intro other outside exported
    obtain ⟨settings, found⟩ := exported
    have apart : other ≠ channel := (channel.isLt.trans_le outside).ne'
    exact realises.hidden other outside ⟨settings, (get_put_other apart).symm.trans found⟩

/-- A write to a file of a channel and the status after it. -/
theorem exec_turned (realises : Realises bank chip) {turn : Dimmer → Dimmer}
    (stored : ∀ dimmer : Dimmer, dimmer.settings.store text name = some (turn dimmer).settings) :
    ∃ after, ((writeSysfsPwm s!"pwm{nr}{name.text}" text).bind fun _ => readPwmState nr).exec chip =
        ((turned bank nr (writeRefused text s!"pwm{nr}{name.text}") turn).1, after) ∧
      Realises (turned bank nr (writeRefused text s!"pwm{nr}{name.text}") turn).2 after := by
  cases place : located nr with
  | none =>
      rw [exec_bind_error (exec_write_none (write_of_unlocated realises place)), turned, place]
      exact ⟨chip, rfl, realises⟩
  | some channel =>
      have same := located_eq_some_iff.mp place
      have written : chip.write ("/sys/class/pwm/" ++ s!"pwm{nr}{name.text}") text =
          some (chip.put channel ⟨true, (turn (bank channel)).settings⟩) := by
        rw [same]
        have file : chip.write
            ("/sys/class/pwm/" ++ s!"pwm{((channel : Nat) : Int)}{name.text}") text =
            chip.store channel name text := write_channel channel name text
        rw [file, store_of_shows (realises.shown channel), stored, Option.map_some]
      have kept := realises_put realises channel (turn (bank channel))
      refine ⟨chip.put channel ⟨true, (turn (bank channel)).settings⟩, ?_, ?_⟩
      · rw [exec_bind_ok (exec_write_some written), turned, place, same,
          exec_readPwmState_of_realises kept]
        dsimp only
        rw [Function.update_self]
      · rw [turned, place]
        exact kept

theorem exec_status (realises : Realises bank chip) :
    (readPwmState nr).exec chip =
        ((turned bank nr (readRefused s!"pwm{nr}/duty_cycle") id).1, chip) ∧
      Realises (turned bank nr (readRefused s!"pwm{nr}/duty_cycle") id).2 chip := by
  rw [turned]
  cases place : located nr with
  | none =>
      have unread : chip.read ("/sys/class/pwm/" ++ s!"pwm{nr}/duty_cycle") = none :=
        @read_of_unlocated _ _ _ .dutyCycle realises place
      have failed : (readSysfsPwm s!"pwm{nr}/duty_cycle").exec chip =
          (.error (readRefused s!"pwm{nr}/duty_cycle"), chip) := by
        rw [readSysfsPwm, exec, unread]
        rfl
      rw [readPwmState, bind_eq, exec_bind_error failed]
      exact ⟨rfl, realises⟩
  | some channel =>
      rw [located_eq_some_iff.mp place, exec_readPwmState_of_realises realises]
      refine ⟨rfl, ?_⟩
      dsimp only [id]
      rw [Function.update_eq_self]
      exact realises

theorem stored_level (level : Fin 101) (dimmer : Dimmer) :
    dimmer.settings.store (toString (level * 10000 : Nat)) .dutyCycle =
      some { dimmer with level := level }.settings := by
  rw [store_dutyCycle]
  apply setDutyCycle_eq_some_iff.mpr
  refine ⟨?_, rfl⟩
  change (level : Nat) * 10000 ≤ 1000000
  omega

/-- A request is answered as the bank answers it, and the chip shows the bank behind it. -/
theorem exec_serve (realises : Realises bank chip) (request : Request) :
    ∃ after, (serve request).exec chip = ((respond bank request).1, after) ∧
      Realises (respond bank request).2 after := by
  cases request with
  | status nr => exact ⟨chip, exec_status realises⟩
  | enable nr => exact @exec_turned _ _ _ .enable "1" realises _ fun dimmer => rfl
  | disable nr => exact @exec_turned _ _ _ .enable "0" realises _ fun dimmer => rfl
  | dutyCycle nr val =>
      rw [serve, pwmDutyCycle_eq, respond]
      by_cases range : 0 ≤ val ∧ val < 101
      · have bound : val.toNat < 101 ∧ 0 ≤ val := by omega
        have scaled : scaledDuty val = val.toNat * 10000 := by
          have whole := scaledDuty_eq ⟨val.toNat, bound.1⟩
          rw [← whole]
          dsimp only
          rw [Int.toNat_of_nonneg range.1]
        rw [if_pos range, dif_pos bound, scaled]
        exact @exec_turned _ _ _ .dutyCycle _ realises _ (stored_level ⟨val.toNat, bound.1⟩)
      · have outside : ¬(val.toNat < 101 ∧ 0 ≤ val) := by omega
        rw [if_neg range, dif_neg outside]
        exact ⟨chip, rfl, realises⟩

theorem exec_serveAll_of_realises (realises : Realises bank chip) (requests : List Request) :
    ∃ after, (serveAll requests).exec chip = (.ok (respondAll bank requests).1, after) ∧
      Realises (respondAll bank requests).2 after := by
  induction requests generalizing bank chip with
  | nil => exact ⟨chip, rfl, realises⟩
  | cons request rest ih =>
      obtain ⟨middle, served, shown⟩ := exec_serve realises request
      obtain ⟨after, later, last⟩ := ih shown
      refine ⟨after, ?_, last⟩
      rw [serveAll, bind_eq, exec_bind_ok exec_attempt, served, bind_eq]
      change (Process.bind (serveAll rest) _).exec middle = _
      rw [exec_bind_ok later]
      rfl

end Serving

section Lifespan

/-- The bank behind a start. -/
def fullBank : Bank := fun _ => ⟨100, false⟩

theorem settings_full : Dimmer.settings ⟨100, false⟩ = prepared := by decide

variable {chip started : PwmChip} {requests : List Request}

theorem realises_of_start (ran : startupEvent.exec chip = (.ok (), started))
    (hidden : ∀ nr, numPwm ≤ nr → ¬Exported nr chip) : Realises fullBank started := by
  constructor
  · intro channel
    rw [fullBank, settings_full]
    exact shows_of_preparePwms ran channel channel.isLt
  · rintro nr outside ⟨settings, found⟩
    obtain ⟨_, same⟩ := exec_preparePwms_iff.mp ran
    have apart : nr ∉ List.range numPwm := fun member =>
      absurd (List.mem_range.mp member) (Nat.not_lt.mpr outside)
    rw [Shows, same, get_preparing_other _ apart] at found
    exact hidden nr outside ⟨settings, found⟩

/-- From a start on that finds no other channel exported, every response is the one of the
bank, and the chip shows the bank. -/
theorem responses_of_bank (ran : startupEvent.exec chip = (.ok (), started))
    (hidden : ∀ nr, numPwm ≤ nr → ¬Exported nr chip) (requests : List Request) :
    ∃ after, (serveAll requests).exec started = (.ok (respondAll fullBank requests).1, after) ∧
      Realises (respondAll fullBank requests).2 after :=
  exec_serveAll_of_realises (realises_of_start ran hidden) requests

theorem bootChip_hidden : ∀ nr, numPwm ≤ nr → ¬Exported nr bootChip := by
  rintro nr outside ⟨settings, found⟩
  have short : bootChip.channels.length = numPwm := List.length_replicate
  rw [Shows, List.getElem?_eq_none (short.trans_le outside)] at found
  cases found

theorem bootChip_responses :
    ∃ started after, startupEvent.exec bootChip = (.ok (), started) ∧
      (serveAll [.dutyCycle 1 57, .status 1]).exec started =
        (.ok (respondAll fullBank [.dutyCycle 1 57, .status 1]).1, after) := by
  obtain ⟨started, ran⟩ := bootChip_starts
  obtain ⟨after, served, _⟩ :=
    responses_of_bank ran bootChip_hidden [.dutyCycle 1 57, .status 1]
  exact ⟨started, after, ran, served⟩

end Lifespan

section Levels

variable {bank : Bank} {channel : Fin numPwm}

theorem turned_of_located {nr : Int} (place : nr = (channel : Nat)) (refusal : PythonError)
    (turn : Dimmer → Dimmer) : turned bank nr refusal turn =
      (.ok (turn (bank channel)).state, Function.update bank channel (turn (bank channel))) := by
  rw [turned, located_eq_some_iff.mpr place]

/-- A request for another channel leaves a dimmer alone. -/
theorem turned_apart {nr : Int} (apart : nr ≠ (channel : Nat)) (refusal : PythonError)
    (turn : Dimmer → Dimmer) : (turned bank nr refusal turn).2 channel = bank channel := by
  rw [turned]
  cases place : located nr with
  | none => rfl
  | some other =>
      have away : channel ≠ other := by
        rintro rfl
        exact apart (located_eq_some_iff.mp place)
      exact Function.update_of_ne away _ _

/-- A request that sets the level of a channel. -/
def Sets (channel : Fin numPwm) : Request → Prop
  | .dutyCycle nr val => nr = (channel : Nat) ∧ 0 ≤ val ∧ val < 101
  | _ => False

theorem level_turned {nr : Int} {turn : Dimmer → Dimmer} (refusal : PythonError)
    (kept : ∀ dimmer, (turn dimmer).level = dimmer.level) :
    ((turned bank nr refusal turn).2 channel).level = (bank channel).level := by
  by_cases here : nr = (channel : Nat)
  · rw [turned_of_located here]
    dsimp only
    rw [Function.update_self, kept]
  · rw [turned_apart here]

theorem level_respond {request : Request} (other : ¬Sets channel request) :
    ((respond bank request).2 channel).level = (bank channel).level := by
  cases request with
  | status nr => exact level_turned _ fun _ => rfl
  | enable nr => exact level_turned _ fun _ => rfl
  | disable nr => exact level_turned _ fun _ => rfl
  | dutyCycle nr val =>
      rw [respond]
      split
      · rename_i bound
        have apart : nr ≠ (channel : Nat) := fun here => other ⟨here, by omega⟩
        rw [turned_apart apart]
      · rfl

theorem level_respondAll {requests : List Request}
    (others : ∀ request ∈ requests, ¬Sets channel request) :
    ((respondAll bank requests).2 channel).level = (bank channel).level := by
  induction requests generalizing bank with
  | nil => rfl
  | cons request rest ih =>
      rw [List.forall_mem_cons] at others
      exact (ih others.2).trans (level_respond others.1)

theorem respondAll_append (first second : List Request) :
    respondAll bank (first ++ second) =
      ((respondAll bank first).1 ++ (respondAll (respondAll bank first).2 second).1,
        (respondAll (respondAll bank first).2 second).2) := by
  induction first generalizing bank with
  | nil => rfl
  | cons request rest ih =>
      rw [List.cons_append, respondAll, ih]
      rfl

/-- The level that was set last for a channel is what its status tells, whatever was asked
before and in between. -/
theorem level_comes_back {chip started : PwmChip} (ran : startupEvent.exec chip = (.ok (), started))
    (hidden : ∀ nr, numPwm ≤ nr → ¬Exported nr chip) (channel : Fin numPwm) (level : Fin 101)
    (front : List Request) {between : List Request}
    (others : ∀ request ∈ between, ¬Sets channel request) :
    ∃ earlier state after,
      (serveAll (front ++ .dutyCycle (channel : Nat) (level : Nat) ::
          (between ++ [.status (channel : Nat)]))).exec started =
        (.ok (earlier ++ [.ok state]), after) ∧ state.dutyCycle = (level : Nat) := by
  have last : ∀ bank : Bank, (respondAll bank [.status (channel : Nat)]).1 =
      [.ok (bank channel).state] := by
    intro bank
    rw [respondAll, respond, turned_of_located rfl]
    rfl
  have regrouped : front ++ Request.dutyCycle (channel : Nat) (level : Nat) ::
      (between ++ [.status (channel : Nat)]) =
        ((front ++ [.dutyCycle (channel : Nat) (level : Nat)]) ++ between) ++
          [.status (channel : Nat)] := by simp
  rw [regrouped]
  obtain ⟨after, served, _⟩ := exec_serveAll_of_realises (realises_of_start ran hidden)
    (((front ++ [.dutyCycle (channel : Nat) (level : Nat)]) ++ between) ++
      [.status (channel : Nat)])
  rw [respondAll_append, last] at served
  refine ⟨_, _, after, served, ?_⟩
  change ((respondAll fullBank _).2 channel).level.val = level
  rw [respondAll_append, level_respondAll others, respondAll_append, respondAll, respondAll,
    respond]
  have bound : ((level : Nat) : Int).toNat < 101 ∧ 0 ≤ ((level : Nat) : Int) := by omega
  rw [dif_pos bound, turned_of_located rfl]
  dsimp only
  rw [Function.update_self]
  rfl

theorem bootChip_level :
    ∃ started earlier state after, startupEvent.exec bootChip = (.ok (), started) ∧
      (serveAll
        ([] ++ .dutyCycle 1 57 :: ([.enable 1, .dutyCycle 0 3] ++ [.status 1]))).exec started =
        (.ok (earlier ++ [.ok state]), after) ∧ state.dutyCycle = 57 := by
  obtain ⟨started, ran⟩ := bootChip_starts
  have others : ∀ request ∈ [Request.enable 1, .dutyCycle 0 3], ¬Sets ⟨1, by decide⟩ request := by
    intro request member
    rcases List.mem_cons.mp member with rfl | member
    · exact id
    · rw [List.mem_singleton.mp member]
      exact fun sets => absurd sets.1 (by decide)
  obtain ⟨earlier, state, after, served⟩ :=
    level_comes_back ran bootChip_hidden ⟨1, by decide⟩ 57 [] others
  exact ⟨started, earlier, state, after, ran, served⟩

end Levels

end Ebaz4205.PwmDimmers
