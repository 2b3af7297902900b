import Handheld.Proofs.Cpu.Offsets
import Handheld.Proofs.Cpu.Outcome
import Handheld.Proofs.Memory.Loads

/-!
# Loads of one register

Both instruction sets load single registers, in forms that differ in how they find the address. A
`Load` is what remains of them: what is loaded, from where, and to which register
(`Arm.Instruction.load?`, `Thumb.Instruction.load?`). Executing any of them puts the value that the
bus yields for the kind and the address into the register and leaves the bus alone
(`Arm.done_execute`, `Thumb.done_execute`). So instructions of either set that reach one address
load one value, which `Machine.loads_agree` gives byte by byte.
-/

namespace Handheld

/-- What a load of one register loads. -/
inductive LoadKind where
  | word
  | byte
  | signedByte
  | half
  | signedHalf
  deriving DecidableEq, Repr

/-- The kind of a load of a byte or a word. -/
def LoadKind.ofUnit (byte : Bool) : LoadKind := if byte then .byte else .word

/-- The value that a load yields. -/
def Bus.load (bus : Bus) (kind : LoadKind) (address : Word) : Word :=
  match kind with
  | .word => bus.loadWord address
  | .byte => bus.loadByte address
  | .signedByte => bus.loadSignedByte address
  | .half => bus.loadHalf address
  | .signedHalf => bus.loadSignedHalf address

/-- A load of one register. -/
structure Load where
  kind : LoadKind
  address : Word
  destination : RegNum
  deriving DecidableEq, Repr

namespace Load

/-- How a loaded value arrives in the destination: a load of `r15` is a branch to it. -/
def arrived (load : Load) (set : InstructionSet) (value : Word) : Word :=
  if load.destination = .pc then set.align value else value

/-- A load has been done: its value is in its destination, and the bus is as before. -/
structure Done (load : Load) (m after : Machine) : Prop where
  bus : after.bus = m.bus
  value : after.regs.get load.destination =
    load.arrived m.regs.instructionSet (m.bus.load load.kind load.address)

/-- Moving on to the next instruction changes neither the bus nor the instruction set. -/
theorem Done.of_advance {load : Load} {m after : Machine} {set : InstructionSet}
    (done : load.Done (m.advance set) after) : load.Done m after :=
  ⟨done.bus, done.value⟩

end Load

namespace Machine

/-- The single transfer loads a word or a byte. -/
theorem loadUnit_eq_load (m : Machine) (byte : Bool) (address : Word) :
    m.loadUnit byte address = m.bus.load (.ofUnit byte) address := by
  cases byte <;> rfl

/-- A value assigned after a change of other registers, in the same instruction set, is that of the
load. As a target `r15` is aligned. -/
theorem done_assign {m : Machine} {regs : RegisterFile} (sameStatus : regs.cpsr = m.regs.cpsr)
    (load : Load) :
    load.Done m ⟨regs.assign load.destination (m.bus.load load.kind load.address), m.bus⟩ := by
  refine ⟨rfl, ?_⟩
  dsimp only
  have sameSet : regs.instructionSet = m.regs.instructionSet := by
    rw [RegisterFile.instructionSet, RegisterFile.thumb, RegisterFile.flag, sameStatus]
    rfl
  by_cases branches : load.destination = .pc
  · rw [Load.arrived, if_pos branches, branches, ← sameSet]
    exact regs.get_set_self .pc _
  · rw [Load.arrived, if_neg branches, regs.assign_of_ne branches, regs.get_set_self]

end Machine

/-! ## ARM instructions -/

namespace Arm

/-- What a load of a halfword or a signed byte loads. -/
def HalfwordKind.loadKind : HalfwordKind → LoadKind
  | unsigned => .half
  | signedByte => .signedByte
  | signedHalfword => .signedHalf

/-- The halfword transfer loads a halfword, or one of the signed units. -/
theorem load_eq_load (kind : HalfwordKind) (bus : Bus) (address : Word) :
    kind.load bus address = bus.load kind.loadKind address := by
  cases kind <;> rfl

/-- The load that an instruction is, given the registers it finds. -/
def Instruction.load? (regs : RegisterFile) : Instruction → Option Load
  | .singleTransfer true byte indexing rn rd offset =>
    some ⟨.ofUnit byte, indexing.address (read regs rn) (offset.evaluate regs), rd⟩
  | .halfwordTransfer true kind indexing rn rd offset =>
    some ⟨kind.loadKind, indexing.address (read regs rn) (offset.evaluate regs), rd⟩
  | _ => none

/-- The ARM instructions that count as loads are those of this class, whatever they load and how
they find the address. -/
theorem isSome_load?_iff (instruction : Instruction) (regs : RegisterFile) :
    (instruction.load? regs).isSome = true ↔ instruction.category = .load := by
  cases instruction with
  | singleTransfer load | halfwordTransfer load =>
      cases load with
      | true => exact iff_of_true rfl rfl
      | false => exact iff_of_false Bool.false_ne_true fun loads => by cases loads
  | blockTransfer load =>
      cases load <;> exact iff_of_false Bool.false_ne_true fun loads => by cases loads
  | _ => exact iff_of_false Bool.false_ne_true fun loads => by cases loads

/-- No ARM load traps. -/
theorem trap?_of_category_load {instruction : Instruction} (loads : instruction.category = .load) :
    instruction.trap? = none := by
  cases instruction with
  | softwareInterrupt | coprocessor | undefined => cases loads
  | _ => rfl

/-- An ARM load puts the loaded value into its destination, with the base written back before it, so
that the loaded value wins. -/
theorem done_execute {instruction : Instruction} {m : Machine} {load : Load}
    (loads : instruction.load? m.regs = some load) : load.Done m (instruction.execute m) := by
  cases instruction with
  | singleTransfer loading byte indexing rn rd offset =>
      cases loading with
      | false => cases loads
      | true =>
          obtain rfl := Option.some.inj loads
          simp only [Instruction.execute, singleTransfer, m.loadUnit_eq_load, ↓reduceIte]
          exact Machine.done_assign (cpsr_finish indexing rn _ _ m.regs) ⟨_, _, rd⟩
  | halfwordTransfer loading kind indexing rn rd offset =>
      cases loading with
      | false => cases loads
      | true =>
          obtain rfl := Option.some.inj loads
          simp only [Instruction.execute, halfwordTransfer, load_eq_load, ↓reduceIte]
          exact Machine.done_assign (cpsr_finish indexing rn _ _ m.regs) ⟨_, _, rd⟩
  | _ => cases loads

end Arm

/-! ## Thumb instructions -/

namespace Thumb

/-- What a transfer of a halfword or a signed byte loads, if it does. -/
def SignedTransfer.loadKind? : SignedTransfer → Option LoadKind
  | storeHalfword => none
  | loadHalfword => some .half
  | loadSignedByte => some .signedByte
  | loadSignedHalfword => some .signedHalf

/-- The load that an instruction is, given the registers it finds. -/
def Instruction.load? (regs : RegisterFile) : Instruction → Option Load
  | .pcRelativeLoad rd offset => some ⟨.word, pcBase regs + offset.setWidth 32, rd⟩
  | loadStoreRegister true byte ro rb rd => some ⟨.ofUnit byte, read regs rb + read regs ro, rd⟩
  | loadStoreSigned op ro rb rd =>
    op.loadKind?.map fun kind => ⟨kind, read regs rb + read regs ro, rd⟩
  | loadStoreImmediate true byte offset rb rd =>
    some ⟨.ofUnit byte, read regs rb + offset.setWidth 32, rd⟩
  | loadStoreHalfword true offset rb rd => some ⟨.half, read regs rb + offset.setWidth 32, rd⟩
  | spRelative true rd offset => some ⟨.word, read regs .sp + offset.setWidth 32, rd⟩
  | _ => none

/-- The Thumb instructions that count as loads are those of this class, the one relative to `r15`
among them. -/
theorem isSome_load?_iff (instruction : Instruction) (regs : RegisterFile) :
    (instruction.load? regs).isSome = true ↔ instruction.category = .load := by
  cases instruction with
  | pcRelativeLoad => exact iff_of_true rfl rfl
  | loadStoreRegister load | loadStoreImmediate load | loadStoreHalfword load | spRelative load =>
      cases load with
      | true => exact iff_of_true rfl rfl
      | false => exact iff_of_false Bool.false_ne_true fun loads => by cases loads
  | loadStoreSigned op =>
      cases op with
      | storeHalfword => exact iff_of_false Bool.false_ne_true fun loads => by cases loads
      | _ => exact iff_of_true rfl rfl
  | alu op => cases op <;> exact iff_of_false Bool.false_ne_true fun loads => by cases loads
  | pushPop load | multipleTransfer load =>
      cases load <;> exact iff_of_false Bool.false_ne_true fun loads => by cases loads
  | _ => exact iff_of_false Bool.false_ne_true fun loads => by cases loads

/-- No Thumb load traps. -/
theorem trap?_of_category_load {instruction : Instruction} (loads : instruction.category = .load) :
    instruction.trap? = none := by
  cases instruction with
  | softwareInterrupt | undefined => cases loads
  | _ => rfl

variable {m : Machine}

/-- A Thumb load of a unit puts the word or byte into its destination. -/
theorem done_transferUnit (byte : Bool) (address : Word) (rd : RegNum) :
    Load.Done ⟨.ofUnit byte, address, rd⟩ m (transferUnit true byte address rd m) := by
  simp only [transferUnit, m.loadUnit_eq_load, ↓reduceIte]
  exact Machine.done_assign rfl ⟨_, _, rd⟩

/-- A Thumb load of a halfword or a signed unit loads with its own kind. The fourth operation of
this group stores. -/
theorem done_transferSigned {op : SignedTransfer} {kind : LoadKind}
    (loads : op.loadKind? = some kind) (address : Word) (rd : RegNum) :
    Load.Done ⟨kind, address, rd⟩ m (transferSigned op address rd m) := by
  cases op with
  | storeHalfword => cases loads
  | loadHalfword | loadSignedByte | loadSignedHalfword =>
      obtain rfl := Option.some.inj loads
      exact Machine.done_assign rfl ⟨_, _, rd⟩

/-- A load relative to `r15` is one from an aligned address. -/
theorem toNat_pcBase_add_mod (regs : RegisterFile) {offset : BitVec 10}
    (scaled : offset.toNat % 4 = 0) : (pcBase regs + offset.setWidth 32).toNat % 4 = 0 := by
  have inRange := offset.isLt
  rw [BitVec.toNat_add, pcBase, Word.toNat_alignWord, BitVec.toNat_setWidth]
  omega

/-- A Thumb load does what it says. One relative to `r15` reads at an aligned address, since its
offset is one of whole words. -/
theorem done_execute {instruction : Instruction} (scaled : instruction.Scaled) {load : Load}
    (loads : instruction.load? m.regs = some load) : load.Done m (instruction.execute m) := by
  cases instruction with
  | pcRelativeLoad rd offset =>
      -- The one form that reads a word without turning it, which an aligned address does not need.
      obtain rfl := Option.some.inj loads
      simp only [Instruction.execute, pcRelativeLoad,
        ← Bus.loadWord_of_aligned _ (toNat_pcBase_add_mod m.regs scaled)]
      exact Machine.done_assign rfl ⟨.word, _, rd⟩
  | loadStoreRegister loading byte ro rb rd =>
      cases loading with
      | false => cases loads
      | true =>
          obtain rfl := Option.some.inj loads
          exact done_transferUnit byte _ rd
  | loadStoreSigned op ro rb rd =>
      obtain ⟨kind, isKind, rfl⟩ := Option.map_eq_some_iff.mp loads
      exact done_transferSigned isKind _ rd
  | loadStoreImmediate loading byte offset rb rd =>
      cases loading with
      | false => cases loads
      | true =>
          obtain rfl := Option.some.inj loads
          exact done_transferUnit byte _ rd
  | loadStoreHalfword loading offset rb rd =>
      cases loading with
      | false => cases loads
      | true =>
          obtain rfl := Option.some.inj loads
          have halfword : SignedTransfer.loadHalfword.loadKind? = some .half := rfl
          exact done_transferSigned halfword _ rd
  | spRelative loading rd offset =>
      cases loading with
      | false => cases loads
      | true =>
          obtain rfl := Option.some.inj loads
          exact done_transferUnit false _ rd
  | _ => cases loads

end Thumb

/-! ## One instruction -/

namespace Machine

/-- The load at `r15`, if the instruction there is one and is executed. -/
def load? (m : Machine) : Option Load :=
  if m.regs.thumb then (Thumb.decode m.fetchHalf).load? (m.advance .thumb).regs
  else if (Arm.decode m.fetchWord).condition.passes m.regs.cpsr then
    (Arm.decode m.fetchWord).instruction.load? (m.advance .arm).regs
  else none

variable {m : Machine}

/-- The instruction at `r15` is a load exactly if its outcome tells so, so that loads can be told
from the outside. -/
theorem isSome_load?_iff (m : Machine) :
    m.load?.isSome = true ↔ ∃ cycles, m.step.1 = .retired m.regs.pc .load cycles := by
  cases set : m.regs.thumb with
  | true =>
      rw [load?, set, if_pos rfl, Thumb.isSome_load?_iff, step_of_thumb set, retired_stepThumb_iff]
      exact ⟨fun loads => ⟨Thumb.trap?_of_category_load loads, loads⟩, And.right⟩
  | false =>
      rw [load?, set, if_neg Bool.false_ne_true, step_of_arm set]
      cases passes : (Arm.decode m.fetchWord).condition.passes m.regs.cpsr with
      | false =>
          rw [stepArm_of_fails passes]
          exact iff_of_false Bool.false_ne_true nofun
      | true =>
          rw [if_pos rfl, Arm.isSome_load?_iff, retired_stepArm_iff passes]
          exact ⟨fun loads => ⟨Arm.trap?_of_category_load loads, loads⟩, And.right⟩

/-- A step that loads does what its load says, in either instruction set: the value goes to the
destination, and the bus is as before. -/
theorem done_step {load : Load} (loads : m.load? = some load) : load.Done m m.step.2 := by
  cases set : m.regs.thumb with
  | true =>
      rw [load?, set, if_pos rfl] at loads
      have noTrap := Thumb.trap?_of_category_load
        ((Thumb.isSome_load?_iff _ _).mp (Option.isSome_of_eq_some loads))
      rw [step_of_thumb set, stepThumb_of_noTrap noTrap]
      exact (Thumb.done_execute (Thumb.scaled_decode _) loads).of_advance
  | false =>
      rw [load?, set, if_neg Bool.false_ne_true] at loads
      split at loads
      case isFalse => cases loads
      case isTrue passes =>
        have noTrap := Arm.trap?_of_category_load
          ((Arm.isSome_load?_iff _ _).mp (Option.isSome_of_eq_some loads))
        rw [step_of_arm set, stepArm_of_noTrap passes noTrap]
        exact (Arm.done_execute loads).of_advance

/-- Loads of one register, by whichever form of either instruction set, agree with the bus and with
each other: every instruction that retires as a load puts the value of its kind at its address into
its destination, and that value is made up of the bytes that the address selects. The values of
words and of halfwords without a sign are those that an inspection of the address shows. -/
theorem loads_agree (bus : Bus) (address : Word) :
    bus.LoadsSelected address ∧
      (bus.peekWord address = bus.load .word address ∧
        bus.peekHalf address = bus.load .half address) ∧
      ∀ m : Machine, m.bus = bus →
        (m.load?.isSome = true ↔ ∃ cycles, m.step.1 = .retired m.regs.pc .load cycles) ∧
        ∀ load, m.load? = some load → load.address = address →
          m.step.2.bus = bus ∧
            m.step.2.regs.get load.destination =
              load.arrived m.regs.instructionSet (bus.load load.kind address) := by
  refine ⟨bus.loads_selected address,
    ⟨bus.peekWord_eq_loadWord address, bus.peekHalf_eq_loadHalf address⟩, ?_⟩
  rintro m rfl
  refine ⟨m.isSome_load?_iff, ?_⟩
  rintro load loads rfl
  exact ⟨(done_step loads).bus, (done_step loads).value⟩

/-- A halfword at an odd address, loaded by either instruction set and shown by an inspection: the
byte there is the lowest, and the byte before it the highest. -/
theorem loads_agree_at_odd_address :
    let bus := { Bus.powerOn with gamePak := #[0xB0, 0x00, 0xD1, 0xE1, 0x08, 0x88] }
    let regs := RegisterFile.powerOn.set 1 0x08000005
    let arm : Machine := ⟨regs.setPc 0x08000000, bus⟩
    let thumb : Machine := ⟨(regs.setPc 0x08000004).setThumb true, bus⟩
    let load : Load := ⟨.half, 0x08000005, 0⟩
    arm.load? = some load ∧ thumb.load? = some load ∧
      arm.step.2.regs.get 0 = 0x08000088 ∧ thumb.step.2.regs.get 0 = 0x08000088 ∧
      bus.peekHalf 0x08000005 = 0x08000088 := by
  intro bus regs arm thumb load
  have armLoads : arm.load? = some load := by decide
  have thumbLoads : thumb.load? = some load := by decide
  have shown : bus.load .half 0x08000005 = 0x08000088 := by decide
  obtain ⟨-, ⟨-, peeked⟩, agree⟩ := loads_agree bus 0x08000005
  have armValue := ((agree arm rfl).2 load armLoads rfl).2
  have thumbValue := ((agree thumb rfl).2 load thumbLoads rfl).2
  exact ⟨armLoads, thumbLoads, armValue.trans shown, thumbValue.trans shown, peeked.trans shown⟩

end Machine

end Handheld
