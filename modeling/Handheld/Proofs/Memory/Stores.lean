import Handheld.Cpu.Step
import Handheld.Proofs.Memory.ReadAfterWrite

/-!
# The stores of an instruction

Which writes an instruction makes, and in which order, can be told from the registers alone
(`Arm.Instruction.stores`, `Thumb.Instruction.stores`): the bus after an instruction is the bus
before it with its stores performed (`Arm.bus_execute`, `Thumb.bus_execute`). Only instructions of
three classes make any, so what does not retire as one of them leaves the bus alone
(`Machine.bus_step`, `Machine.retired_of_stores`).
-/

namespace Handheld

/-- One write to the bus. -/
structure Store where
  width : Width
  address : Word
  value : BitVec width.bits

namespace Store

/-- The bytes of a store, each with the address it goes to. -/
def bytes (store : Store) : List (Word × Byte) :=
  Bus.unit store.width store.address fun i => store.value.extractLsb' (8 * i) 8

def word (address value : Word) : Store := ⟨.word, address, value⟩

def half (address value : Word) : Store := ⟨.half, address, value.lowHalf⟩

/-- The store of a byte or of a word. -/
def unit (byte : Bool) (address value : Word) : Store :=
  if byte then ⟨.byte, address, value.lowByte⟩ else word address value

/-- The stores of words to consecutive places, each with the value of its register. -/
def ofSlots (slots : List (Word × RegNum)) (value : RegNum → Word) : List Store :=
  slots.map fun slot => word slot.1 (value slot.2)

end Store

def Bus.perform (bus : Bus) (stores : List Store) : Bus :=
  stores.foldl (fun bus store => bus.write store.width store.address store.value) bus

/-- Stores are performed one after the other, the first one on the bus as it is. -/
theorem Bus.perform_cons (bus : Bus) (first : Store) (rest : List Store) :
    bus.perform (first :: rest) =
      (bus.write first.width first.address first.value).perform rest := rfl

def InstructionClass.stores : InstructionClass → Bool
  | store | storeMultiple | swap => true
  | _ => false

namespace Machine

variable (m : Machine)

/-- Storing a unit is one store. -/
theorem bus_storeUnit (byte : Bool) (address value : Word) :
    (m.storeUnit byte address value).bus = m.bus.perform [.unit byte address value] := by
  cases byte <;> rfl

/-- Storing registers in slots is one store of a word for each slot, in the order of the slots. -/
theorem bus_storeWords (slots : List (Word × RegNum)) (value : RegNum → Word) :
    (m.storeWords (slots.map fun slot => (slot.1, value slot.2))).bus =
      m.bus.perform (Store.ofSlots slots value) := by
  unfold storeWords Bus.perform Store.ofSlots
  rw [List.foldl_map, List.foldl_map]
  rfl

end Machine

/-! ## ARM instructions -/

namespace Arm

def blockStores (userBank : Bool) (indexing : Indexing) (rn : RegNum) (registers : Half)
    (regs : RegisterFile) : List Store :=
  let block := indexing.block (read regs rn) registers
  let finalBase? := if indexing.writeBack then some block.finalBase else none
  let first := (block.slots.map (·.2)).headD .pc
  Store.ofSlots block.slots (blockStoreValue userBank finalBase? rn first regs)

/-- The stores of an instruction, in their order. -/
def Instruction.stores (instruction : Instruction) (regs : RegisterFile) : List Store :=
  match instruction with
  | .swap byte rn _ rm => [.unit byte (read regs rn) (read regs rm)]
  | .halfwordTransfer load _ indexing rn rd offset =>
    if load then []
    else [.half (indexing.address (read regs rn) (offset.evaluate regs)) (readLate regs rd)]
  | .singleTransfer load byte indexing rn rd offset =>
    if load then []
    else [.unit byte (indexing.address (read regs rn) (offset.evaluate regs)) (readLate regs rd)]
  | .blockTransfer load userBank indexing rn registers =>
    if load then [] else blockStores userBank indexing rn registers regs
  | _ => []

/-- An ARM instruction changes the bus by its stores and by nothing else. One case for each form,
most of which store nothing. -/
theorem bus_execute (instruction : Instruction) (m : Machine) :
    (instruction.execute m).bus = m.bus.perform (instruction.stores m.regs) := by
  cases instruction with
  | swap byte rn rd rm => exact m.bus_storeUnit byte _ _
  | halfwordTransfer load kind indexing rn rd offset => cases load <;> rfl
  | singleTransfer load byte indexing rn rd offset =>
      cases load with
      | true => rfl
      | false => exact m.bus_storeUnit byte _ _
  | blockTransfer load userBank indexing rn registers =>
      cases load with
      | true => rfl
      | false => exact m.bus_storeWords _ _
  | dataProcessing | mrs | msr | multiply | multiplyLong | branchExchange | branch
  | softwareInterrupt | coprocessor | undefined => rfl

/-- An ARM instruction whose class does not store has no stores, so the class in an outcome tells
that the bus was kept. -/
theorem stores_eq_nil {instruction : Instruction} (idle : instruction.category.stores = false)
    (regs : RegisterFile) : instruction.stores regs = [] := by
  cases instruction with
  | swap => cases idle
  | halfwordTransfer load | singleTransfer load | blockTransfer load =>
      cases load with
      | true => rfl
      | false => cases idle
  | dataProcessing | mrs | msr | multiply | multiplyLong | branchExchange | branch
  | softwareInterrupt | coprocessor | undefined => rfl

end Arm

/-! ## Thumb instructions -/

namespace Thumb

def pushStores (link : Bool) (registers : Byte) (regs : RegisterFile) : List Store :=
  let listed := listedLow registers ++ if link then [RegNum.lr] else []
  Store.ofSlots (transferSlots (regs.get .sp - spanOf listed) listed) regs.get

/-- The value that a transfer of several registers stores for one of them. -/
def multipleStoreValue (rb : RegNum) (listed : List RegNum) (regs : RegisterFile) (r : RegNum) :
    Word :=
  if r = rb ∧ r ≠ listed.headD .pc then read regs rb + spanOf listed else regs.get r

def multipleStores (rb : RegNum) (registers : Byte) (regs : RegisterFile) : List Store :=
  if registers = 0 then [.word (read regs rb) (read regs .pc + 2)]
  else
    let listed := listedLow registers
    Store.ofSlots (transferSlots (read regs rb) listed) (multipleStoreValue rb listed regs)

/-- The stores of an instruction, in their order. -/
def Instruction.stores (instruction : Instruction) (regs : RegisterFile) : List Store :=
  match instruction with
  | .loadStoreRegister load byte ro rb rd =>
    if load then [] else [.unit byte (read regs rb + read regs ro) (read regs rd)]
  | .loadStoreSigned op ro rb rd =>
    if op = .storeHalfword then [.half (read regs rb + read regs ro) (read regs rd)] else []
  | .loadStoreImmediate load byte offset rb rd =>
    if load then [] else [.unit byte (read regs rb + offset.setWidth 32) (read regs rd)]
  | .loadStoreHalfword load offset rb rd =>
    if load then [] else [.half (read regs rb + offset.setWidth 32) (read regs rd)]
  | .spRelative load rd offset =>
    if load then [] else [.word (read regs .sp + offset.setWidth 32) (read regs rd)]
  | .pushPop pop link registers => if pop then [] else pushStores link registers regs
  | .multipleTransfer load rb registers =>
    if load then [] else multipleStores rb registers regs
  | _ => []

/-- A Thumb transfer of a unit is one store, or none if it loads. A load never changes the bus. -/
theorem bus_transferUnit (load byte : Bool) (address : Word) (rd : RegNum) (m : Machine) :
    (transferUnit load byte address rd m).bus =
      m.bus.perform (if load then [] else [.unit byte address (read m.regs rd)]) := by
  cases load with
  | true => rfl
  | false => exact m.bus_storeUnit byte _ _

/-- A Thumb store of several registers does what its list of stores says, also for an empty list,
which stores `r15`. -/
theorem bus_multipleTransfer (rb : RegNum) (registers : Byte) (m : Machine) :
    (multipleTransfer false rb registers m).bus =
      m.bus.perform (multipleStores rb registers m.regs) := by
  unfold multipleTransfer multipleStores
  dsimp only
  split
  · rfl
  · exact m.bus_storeWords _ (multipleStoreValue rb (listedLow registers) m.regs)

/-- A Thumb instruction changes the bus by its stores and by nothing else. One case for each of its
forms. -/
theorem bus_execute (instruction : Instruction) (m : Machine) :
    (instruction.execute m).bus = m.bus.perform (instruction.stores m.regs) := by
  cases instruction with
  | loadStoreRegister load byte ro rb rd => exact bus_transferUnit load byte _ rd m
  | loadStoreSigned op ro rb rd => cases op <;> rfl
  | loadStoreImmediate load byte offset rb rd => exact bus_transferUnit load byte _ rd m
  | loadStoreHalfword load offset rb rd => cases load <;> rfl
  | spRelative load rd offset => exact bus_transferUnit load false _ rd m
  | pushPop pop link registers =>
      cases pop with
      | true => rfl
      | false => exact m.bus_storeWords _ _
  | multipleTransfer load rb registers =>
      cases load with
      | true =>
          show (multipleTransfer true rb registers m).bus = m.bus
          unfold multipleTransfer
          split <;> rfl
      | false => exact bus_multipleTransfer rb registers m
  | moveShifted | addSubtract | immediate | alu | hiRegister | branchExchange | pcRelativeLoad
  | loadAddress | adjustStack | conditionalBranch | softwareInterrupt | branch | longBranchHigh
  | longBranchLow | undefined => rfl

/-- A Thumb instruction whose class does not store has no stores, so the class tells that the bus
was kept. -/
theorem stores_eq_nil {instruction : Instruction} (idle : instruction.category.stores = false)
    (regs : RegisterFile) : instruction.stores regs = [] := by
  cases instruction with
  | loadStoreRegister load | loadStoreImmediate load | loadStoreHalfword load | spRelative load
  | pushPop load | multipleTransfer load =>
      cases load with
      | true => rfl
      | false => cases idle
  | loadStoreSigned op =>
      cases op with
      | storeHalfword => cases idle
      | loadHalfword | loadSignedByte | loadSignedHalfword => rfl
  | moveShifted | addSubtract | immediate | alu | hiRegister | branchExchange | pcRelativeLoad
  | loadAddress | adjustStack | conditionalBranch | softwareInterrupt | branch | longBranchHigh
  | longBranchLow | undefined => rfl

end Thumb

/-! ## One instruction -/

/-- An ARM instruction that traps stores nothing, as it is of a class that never does. -/
theorem Arm.stores_of_trap? {instruction : Arm.Instruction} {e : Exception}
    (traps : instruction.trap? = some e) (regs : RegisterFile) :
    instruction.stores regs = [] := by
  cases instruction <;> first | rfl | cases traps

/-- A Thumb instruction that traps stores nothing, as it is of a class that never does. -/
theorem Thumb.stores_of_trap? {instruction : Thumb.Instruction} {e : Exception}
    (traps : instruction.trap? = some e) (regs : RegisterFile) :
    instruction.stores regs = [] := by
  cases instruction <;> first | rfl | cases traps

namespace Machine

/-- The stores of the instruction at `r15`, if its condition passes. -/
def stores (m : Machine) : List Store :=
  if m.regs.thumb then (Thumb.decode m.fetchHalf).stores (m.advance .thumb).regs
  else
    let decoded := Arm.decode m.fetchWord
    let regs := (m.advance .arm).regs
    if decoded.condition.passes regs.cpsr then decoded.instruction.stores regs else []

/-- The instruction at `r15` changes the bus by its stores, and one that is skipped or traps has
none. -/
theorem bus_step (m : Machine) : m.step.2.bus = m.bus.perform m.stores := by
  unfold step stores
  split
  · unfold stepThumb
    dsimp only
    split
    · rename_i e traps
      rw [Thumb.stores_of_trap? traps]
      rfl
    · exact Thumb.bus_execute _ (m.advance .thumb)
  · unfold stepArm
    dsimp only
    cases (Arm.decode m.fetchWord).condition.passes (m.advance .arm).regs.cpsr with
    | false => rfl
    | true =>
        rw [Bool.not_true, if_neg Bool.false_ne_true, if_pos rfl]
        split
        · rename_i e traps
          rw [Arm.stores_of_trap? traps]
          rfl
        · exact Arm.bus_execute _ (m.advance .arm)

/-- An instruction that stores retires, as an instruction of a class that stores. So no store goes
unnoticed in the outcomes. -/
theorem retired_of_stores {m : Machine} (active : m.stores ≠ []) :
    ∃ category, category.stores = true ∧
      m.step.1 = .retired m.regs.pc category category.cycles := by
  unfold stores at active
  unfold step
  split at active
  · -- A trap would have no stores, so the instruction is executed and retires.
    rename_i thumb
    rw [if_pos thumb]
    unfold stepThumb
    dsimp only
    split
    · rename_i e traps
      exact absurd (Thumb.stores_of_trap? traps _) active
    · refine ⟨_, ?_, rfl⟩
      rw [← Bool.not_eq_false]
      intro idle
      exact active (Thumb.stores_eq_nil idle _)
  · rename_i arm
    rw [if_neg arm]
    unfold stepArm
    dsimp only at active ⊢
    split at active
    · rename_i passes
      rw [passes, Bool.not_true, if_neg Bool.false_ne_true]
      split
      · rename_i e traps
        exact absurd (Arm.stores_of_trap? traps _) active
      · refine ⟨_, ?_, rfl⟩
        rw [← Bool.not_eq_false]
        intro idle
        exact active (Arm.stores_eq_nil idle _)
    · exact absurd rfl active

end Machine

end Handheld
