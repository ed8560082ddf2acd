import Ebaz4205.Ps7Inspection

/-!
# The lock of the system level registers

Most of the clocks and pins are set up in registers that can be written only between
writing the unlock key and writing the lock key. The tables unlock the registers
before they write any of them, and lock them again at the end, but a table that ends
at a poll does not come to its end.
-/

namespace Ebaz4205.Ps7Locking

open DriverProgram DriverProgram.Program BitMask Ps7Interpreter Ps7Scripts Ps7Tables Ps7Init
  Ps7Returns Ps7Inspection

set_option autoImplicit false

section Lock

def lockRegister : Word := 0xF8000004
def unlockRegister : Word := 0xF8000008
def lockKey : Word := 0x767B
def unlockKey : Word := 0xDF0D

def pllStatus : Word := 0xF800010C

/-- The page of the system level registers. -/
def slcr (address : Word) : Bool := address &&& 0xFFFFF000 = 0xF8000000

/-- Whether the registers are unlocked, and whether the last access was a look at the
status of the phase-locked loops. -/
structure Lock where
  unlocked : Bool
  waiting : Bool

def unlockedBy (unlocked : Bool) (address value : Word) : Bool :=
  if address = unlockRegister ∧ value = unlockKey then true
  else if address = lockRegister ∧ value = lockKey then false
  else unlocked

/-- What may be written. -/
def writable (unlocked : Bool) (address : Word) : Bool :=
  unlocked || !slcr address || address == unlockRegister

def Lock.advance (lock : Lock) : Exchange ps7Signature → Lock
  | ⟨.load address, _⟩ => ⟨lock.unlocked, address == pllStatus⟩
  | ⟨.store address value, _⟩ => ⟨unlockedBy lock.unlocked address value, false⟩

/-- Nothing but the unlock key is written to the page while it is locked. -/
def lockDiscipline : Discipline ps7Signature Lock where
  permits
    | _, .load _ => True
    | lock, .store address _ => writable lock.unlocked address = true
  advance := Lock.advance

instance (lock : Lock) (call : RegisterAccess) : Decidable (lockDiscipline.permits lock call) :=
  match call with
  | .load _ => isTrue trivial
  | .store address _ => inferInstanceAs (Decidable (writable lock.unlocked address = true))

end Lock

section Inspecting

variable {World : Type} {env : Environment ps7Signature World} {budget : Nat}

/-- The line is passed if it writes what is writable, and no key by a masked write. Polls
of the loops must be made unlocked, and others locked. -/
def inspectLock (unlocked : Bool) : Instruction → Option Bool
  | .exit => none
  | .clear addr => if writable unlocked addr then some (unlockedBy unlocked addr 0) else none
  | .write addr val => if writable unlocked addr then some (unlockedBy unlocked addr val) else none
  | .maskwrite addr _ _ =>
      if writable unlocked addr && addr != unlockRegister && addr != lockRegister then some unlocked
      else none
  | .maskpoll addr _ => if unlocked = (addr == pllStatus) then some unlocked else none
  | .maskdelay _ _ => none

abbrev Holds (unlocked : Bool) (lock : Lock) (_ : Machine ps7Signature World) : Prop :=
  lock.unlocked = unlocked

theorem stores_lock {unlocked : Bool} {address : Word} (value : Word)
    (allowed : writable unlocked address = true) :
    Stores env lockDiscipline (Holds unlocked) address value
      (Holds (unlockedBy unlocked address value)) := by
  rintro lock machine rfl
  exact ⟨allowed, rfl⟩

abbrev Polled (unlocked : Bool) (address : Word) (lock : Lock)
    (_ : Machine ps7Signature World) : Prop :=
  lock.unlocked = unlocked ∧ lock.waiting = (address == pllStatus)

theorem loads_lock (unlocked : Bool) (address : Word) :
    Loads env lockDiscipline (Holds unlocked) address fun _ => Polled unlocked address :=
  fun _ _ before => ⟨trivial, before, rfl⟩

theorem loads_poll (unlocked : Bool) (address mask : Word) :
    Loads env lockDiscipline (Holds unlocked) address fun value lock machine =>
      if isSet value mask then Polled unlocked address lock machine
      else Polled unlocked address lock machine := by
  intro lock machine before
  dsimp only
  rw [ite_self]
  exact loads_lock unlocked address lock machine before

theorem unlockedBy_other {unlocked : Bool} {address : Word} (value : Word)
    (notUnlock : address ≠ unlockRegister) (notLock : address ≠ lockRegister) :
    unlockedBy unlocked address value = unlocked := by
  rw [unlockedBy, if_neg fun both => notUnlock both.1, if_neg fun both => notLock both.1]

theorem stores_masked {unlocked : Bool} {add : Word} (old mask val : Word)
    (allowed : writable unlocked add = true) (notUnlock : add ≠ unlockRegister)
    (notLock : add ≠ lockRegister) :
    Stores env lockDiscipline (Polled unlocked add) add (masked old mask val) (Holds unlocked) := by
  rintro lock machine ⟨rfl, _⟩
  exact ⟨allowed, unlockedBy_other _ notUnlock notLock⟩

theorem inspectLock_sound (unlocked : Bool) (line : Instruction) (later : Bool)
    (passed : inspectLock unlocked line = some later) :
    Keeps env lockDiscipline (Holds unlocked) (attempt budget line) fun goesOn lock machine =>
      if goesOn then Holds later lock machine else lock.unlocked = lock.waiting := by
  cases line with
  | exit => cases passed
  | clear addr =>
      obtain ⟨allowed, ⟨⟩⟩ := Option.ite_none_right_eq_some.mp passed
      exact keeps_map (keeps_store (stores_lock 0 allowed)) fun _ _ _ => id
  | write addr val =>
      obtain ⟨allowed, ⟨⟩⟩ := Option.ite_none_right_eq_some.mp passed
      exact keeps_map (keeps_store (stores_lock val allowed)) fun _ _ _ => id
  | maskwrite addr mask val =>
      obtain ⟨allowed, ⟨⟩⟩ := Option.ite_none_right_eq_some.mp passed
      rw [Bool.and_eq_true, Bool.and_eq_true, bne_iff_ne, bne_iff_ne] at allowed
      obtain ⟨⟨writes, notUnlock⟩, notLock⟩ := allowed
      apply keeps_map (keeps_maskWrite (loads_lock unlocked addr) _) fun _ _ _ => id
      exact fun old => stores_masked old mask val writes notUnlock notLock
  | maskpoll addr mask =>
      obtain ⟨fits, ⟨⟩⟩ := Option.ite_none_right_eq_some.mp passed
      apply keeps_mono (keeps_poll (loads_poll unlocked addr mask) fun _ _ => And.left)
        (fun _ _ => id)
      intro goesOn lock machine reached
      cases goesOn with
      | true => exact reached.1
      | false => exact reached.1.trans (fits.trans reached.2.symm)
  | maskdelay addr mask => cases passed

def lockInspection (env : Environment ps7Signature World) : Inspection env lockDiscipline Bool where
  describes := Holds
  failed lock _ := lock.unlocked = lock.waiting
  inspect := inspectLock
  no_exit _ := rfl
  sound _ := inspectLock_sound
  version _ := fun _ _ before => ⟨trivial, before⟩

end Inspecting

section Tables

theorem init_inspected (build : Build) (unlocked : Bool) (silicon : Silicon) :
    (initStages.foldlM (fun known stage => (lines build silicon stage).foldlM inspectLock known)
      unlocked) = some false := by
  cases build <;> cases unlocked <;> cases silicon <;> rfl

theorem postConfig_inspected (build : Build) (unlocked : Bool) (silicon : Silicon) :
    ([Stage.postConfig].foldlM
      (fun known stage => (lines build silicon stage).foldlM inspectLock known) unlocked) =
        some false := by
  cases build <;> cases unlocked <;> cases silicon <;> rfl

variable {World : Type} {env : Environment ps7Signature World} {budget : Nat} {build : Build}

/-- Hardware that takes no heed of a store to a locked register. -/
def locking (env : Environment ps7Signature World) : Environment ps7Signature (World × Lock) :=
  lockDiscipline.enforced (fun | .load _ => (0 : Word) | .store _ _ => ()) env

/-- What is said of a run, from any state of the lock: it returns, only unlocked registers
are written, success leaves them locked and a timeout leaves them unlocked exactly if it
was that of a loop, and no store is lost in a lock. -/
structure RespectsLock (env : Environment ps7Signature World) (program : Ps7Program Int)
    (machine : Machine ps7Signature World) (lock : Lock) : Prop where
  follows : lockDiscipline.Follows lock (program.exchanges env machine)
  ends : ∃ code after, program.exec env machine = (.returned code, after) ∧
    (code = ps7InitSuccess ∧
        (lockDiscipline.after lock (program.exchanges env machine)).unlocked = false ∨
      code = ps7InitTimeout ∧
        (lockDiscipline.after lock (program.exchanges env machine)).unlocked =
          (lockDiscipline.after lock (program.exchanges env machine)).waiting)
  loses_nothing : program.exec (locking env) ⟨machine.memory, machine.world, lock⟩ =
    ((program.exec env machine).1, ⟨(program.exec env machine).2.memory,
      (program.exec env machine).2.world,
      lockDiscipline.after lock (program.exchanges env machine)⟩)

theorem respectsLock_of_inspected (stack : Stage → Arguments) {stages : List Stage} (lock : Lock)
    (passed : ∀ silicon, (lockInspection env).inspectStages build silicon lock.unlocked stages =
      some false) (machine : Machine ps7Signature World) :
    RespectsLock env (configured budget build stack stages) machine lock := by
  have keeps : Keeps env lockDiscipline (Holds lock.unlocked) (configured budget build stack stages)
      ((lockInspection env).ended false) := (lockInspection env).keeps_configured stack passed
  have follows := keeps.follows lock machine rfl
  obtain ⟨code, after, ran, _⟩ := (completes_configured stack stages).returns World env machine
  exact ⟨follows, ⟨code, after, ran, keeps.after_return lock machine code after rfl ran⟩,
    exec_enforced follows⟩

/-- The lock is respected in front of every hardware. -/
theorem lock_respected (env : Environment ps7Signature World) (budget : Nat) (build : Build)
    (stack : Stage → Arguments) (machine : Machine ps7Signature World) (lock : Lock) :
    RespectsLock env (ps7Init budget build stack) machine lock ∧
      RespectsLock env (ps7PostConfig budget build stack) machine lock :=
  ⟨respectsLock_of_inspected stack lock (init_inspected build lock.unlocked) machine,
    respectsLock_of_inspected stack lock (postConfig_inspected build lock.unlocked) machine⟩

end Tables

end Ebaz4205.Ps7Locking
