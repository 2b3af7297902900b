import Handheld.Proofs.Arm.WellFormed
import Handheld.Proofs.Memory.Unreadable

/-!
# What an instruction reads

All that an instruction learns from the bus it learns by reading bytes. So of two machines with the
same registers that read the same bytes everywhere, an instruction makes two with the same registers
again (`Arm.regs_execute_congr`, `Thumb.regs_execute_congr`). It makes the same stores in both, and
therefore cannot tell machines apart that differ where programs cannot read
(`Machine.SameReadable.step`).
-/

namespace Handheld

/-- Every byte reads the same from two buses. -/
def Bus.ReadAlike (a b : Bus) : Prop := ∀ address, a.read8 address = b.read8 address

namespace Bus.ReadAlike

variable {a b : Bus} (alike : ReadAlike a b)
include alike

/-- A halfword is read as two bytes. -/
theorem read16 (address : Word) : a.read16 address = b.read16 address := by
  unfold Bus.read16
  dsimp only
  rw [alike, alike]

/-- A word is read as four bytes. -/
theorem read32 (address : Word) : a.read32 address = b.read32 address := by
  unfold Bus.read32
  dsimp only
  rw [alike, alike, alike, alike]

theorem loadByte (address : Word) : a.loadByte address = b.loadByte address :=
  congrArg (BitVec.setWidth 32) (alike address)

theorem loadSignedByte (address : Word) : a.loadSignedByte address = b.loadSignedByte address :=
  congrArg (BitVec.signExtend 32) (alike address)

/-- A loaded word is a word that was read, turned by its address. -/
theorem loadWord (address : Word) : a.loadWord address = b.loadWord address := by
  unfold Bus.loadWord
  rw [alike.read32]

/-- A loaded halfword is a halfword that was read, turned by its address. -/
theorem loadHalf (address : Word) : a.loadHalf address = b.loadHalf address := by
  unfold Bus.loadHalf
  rw [alike.read16]

/-- A halfword loaded with its sign is a halfword or, from an odd address, a byte. -/
theorem loadSignedHalf (address : Word) : a.loadSignedHalf address = b.loadSignedHalf address := by
  unfold Bus.loadSignedHalf
  rw [alike.loadSignedByte, alike.read16]

/-- An inspection reads a word as programs do. -/
theorem peekWord (address : Word) : a.peekWord address = b.peekWord address := by
  unfold Bus.peekWord
  rw [alike.read32]

/-- An inspection reads a halfword as programs do. -/
theorem peekHalf (address : Word) : a.peekHalf address = b.peekHalf address := by
  unfold Bus.peekHalf
  rw [alike.read16]

/-- What is loaded does not depend on the registers. -/
theorem loadUnit (byte : Bool) (regs : RegisterFile) (address : Word) :
    Machine.loadUnit ⟨regs, a⟩ byte address = Machine.loadUnit ⟨regs, b⟩ byte address := by
  cases byte with
  | true => exact alike.loadByte address
  | false => exact alike.loadWord address

end Bus.ReadAlike

/-! ## ARM instructions -/

namespace Arm

/-- A block of registers is loaded with the same words from two buses that read alike. By induction
on its slots. -/
theorem loadBlock_congr {a b : Bus} (alike : a.ReadAlike b) (restore userBank : Bool)
    (slots : List (Word × RegNum)) (regs : RegisterFile) :
    loadBlock restore userBank slots a regs = loadBlock restore userBank slots b regs := by
  have words : a.read32 = b.read32 := funext alike.read32
  unfold loadBlock
  rw [words]

/-- Each kind of load of a halfword or a signed byte yields the same value. -/
theorem load_congr {a b : Bus} (alike : a.ReadAlike b) (kind : HalfwordKind) (address : Word) :
    kind.load a address = kind.load b address := by
  cases kind with
  | unsigned => exact alike.loadHalf address
  | signedByte => exact alike.loadSignedByte address
  | signedHalfword => exact alike.loadSignedHalf address

/-- What an ARM instruction does to the registers depends on them and on the bytes that it reads,
and on nothing else of the bus. One case for each form. -/
theorem regs_execute_congr {a b : Bus} (alike : a.ReadAlike b) (instruction : Instruction)
    (regs : RegisterFile) :
    (instruction.execute ⟨regs, a⟩).regs = (instruction.execute ⟨regs, b⟩).regs := by
  cases instruction with
  | swap byte rn rd rm =>
      show (Machine.storeUnit _ byte _ _).regs.assign rd _ =
        (Machine.storeUnit _ byte _ _).regs.assign rd _
      rw [alike.loadUnit, regs_storeUnit, regs_storeUnit]
  | halfwordTransfer load kind indexing rn rd offset =>
      cases load with
      | false =>
          show indexing.finish rn _ _ regs = indexing.finish rn _ _ regs
          rfl
      | true => exact congrArg (RegisterFile.assign _ rd) (load_congr alike kind _)
  | singleTransfer load byte indexing rn rd offset =>
      cases load with
      | false =>
          show indexing.finish rn _ _ (Machine.storeUnit _ byte _ _).regs =
            indexing.finish rn _ _ (Machine.storeUnit _ byte _ _).regs
          rw [regs_storeUnit, regs_storeUnit]
      | true => exact congrArg (RegisterFile.assign _ rd) (alike.loadUnit byte regs _)
  | blockTransfer load userBank indexing rn registers =>
      cases load with
      | false =>
          show (if indexing.writeBack then regs.writeBack rn _ else regs) =
            if indexing.writeBack then regs.writeBack rn _ else regs
          rfl
      | true => exact loadBlock_congr alike _ _ _ _
  | dataProcessing | mrs | msr | multiply | multiplyLong | branchExchange | branch
  | softwareInterrupt | coprocessor | undefined => rfl

end Arm

/-! ## Thumb instructions -/

namespace Thumb

/-- A list of registers is loaded with the same words. -/
theorem loadSlots_congr {a b : Bus} (alike : a.ReadAlike b) (slots : List (Word × RegNum))
    (regs : RegisterFile) : loadSlots slots a regs = loadSlots slots b regs := by
  have words : a.read32 = b.read32 := funext alike.read32
  unfold loadSlots
  rw [words]

/-- A transfer of one unit leaves the same registers, whether it loads the same bytes or stores,
where nothing is read. -/
theorem regs_transferUnit_congr {a b : Bus} (alike : a.ReadAlike b) (load byte : Bool)
    (address : Word) (rd : RegNum) (regs : RegisterFile) :
    (transferUnit load byte address rd ⟨regs, a⟩).regs =
      (transferUnit load byte address rd ⟨regs, b⟩).regs := by
  cases load with
  | false =>
      show (Machine.storeUnit _ byte _ _).regs = (Machine.storeUnit _ byte _ _).regs
      rw [Arm.regs_storeUnit, Arm.regs_storeUnit]
  | true => exact congrArg (regs.assign rd) (alike.loadUnit byte regs address)

/-- A transfer of a halfword or a signed byte leaves the same registers, also from a misaligned
address, where the bytes are rotated. -/
theorem regs_transferSigned_congr {a b : Bus} (alike : a.ReadAlike b) (op : SignedTransfer)
    (address : Word) (rd : RegNum) (regs : RegisterFile) :
    (transferSigned op address rd ⟨regs, a⟩).regs =
      (transferSigned op address rd ⟨regs, b⟩).regs := by
  cases op with
  | storeHalfword =>
      show regs = regs
      rfl
  | loadHalfword => exact congrArg (regs.assign rd) (alike.loadHalf address)
  | loadSignedByte => exact congrArg (regs.assign rd) (alike.loadSignedByte address)
  | loadSignedHalfword => exact congrArg (regs.assign rd) (alike.loadSignedHalf address)

/-- A transfer of several registers leaves the same registers, with an empty list too. -/
theorem regs_multipleTransfer_congr {a b : Bus} (alike : a.ReadAlike b) (load : Bool)
    (rb : RegNum) (registers : Byte) (regs : RegisterFile) :
    (multipleTransfer load rb registers ⟨regs, a⟩).regs =
      (multipleTransfer load rb registers ⟨regs, b⟩).regs := by
  unfold multipleTransfer
  split
  · cases load with
    | false =>
        show regs.writeBack rb _ = regs.writeBack rb _
        rfl
    | true =>
        exact congrArg (fun value => (regs.assign .pc value).writeBack rb _) (alike.read32 _)
  · cases load with
    | false =>
        show regs.writeBack rb _ = regs.writeBack rb _
        rfl
    | true => exact loadSlots_congr alike _ _

/-- What a Thumb instruction does to the registers depends on them and on the bytes that it reads,
and on nothing else of the bus. One case for each form. -/
theorem regs_execute_congr {a b : Bus} (alike : a.ReadAlike b) (instruction : Instruction)
    (regs : RegisterFile) :
    (instruction.execute ⟨regs, a⟩).regs = (instruction.execute ⟨regs, b⟩).regs := by
  cases instruction with
  | pcRelativeLoad rd offset => exact congrArg (regs.assign rd) (alike.read32 _)
  | loadStoreRegister load byte ro rb rd => exact regs_transferUnit_congr alike load byte _ rd regs
  | loadStoreSigned op ro rb rd => exact regs_transferSigned_congr alike op _ rd regs
  | loadStoreImmediate load byte offset rb rd =>
      exact regs_transferUnit_congr alike load byte _ rd regs
  | loadStoreHalfword load offset rb rd => exact regs_transferSigned_congr alike _ _ rd regs
  | spRelative load rd offset => exact regs_transferUnit_congr alike load false _ rd regs
  | pushPop pop link registers =>
      cases pop with
      | false =>
          show regs.set .sp _ = regs.set .sp _
          rfl
      | true => exact congrArg (RegisterFile.set · .sp _) (loadSlots_congr alike _ regs)
  | multipleTransfer load rb registers =>
      exact regs_multipleTransfer_congr alike load rb registers regs
  | moveShifted | addSubtract | immediate | alu | hiRegister | branchExchange | loadAddress
  | adjustStack | conditionalBranch | softwareInterrupt | branch | longBranchHigh | longBranchLow
  | undefined => rfl

end Thumb

/-! ## One instruction -/

namespace Machine

section

variable {a b : Bus} (alike : a.ReadAlike b) (regs : RegisterFile)
include alike

/-- The same short instruction is fetched. -/
theorem fetchHalf_congr : fetchHalf ⟨regs, a⟩ = fetchHalf ⟨regs, b⟩ := alike.read16 _

/-- The same long instruction is fetched. -/
theorem fetchWord_congr : fetchWord ⟨regs, a⟩ = fetchWord ⟨regs, b⟩ := alike.read32 _

/-- The instruction that comes next makes the same stores. -/
theorem stores_congr : stores ⟨regs, a⟩ = stores ⟨regs, b⟩ := by
  unfold stores
  rw [fetchHalf_congr alike, fetchWord_congr alike]
  rfl

/-- A Thumb step has the same outcome and leaves the same registers on buses that read alike, since
fetching an instruction is a read as well. -/
theorem stepThumb_congr :
    (stepThumb ⟨regs, a⟩).1 = (stepThumb ⟨regs, b⟩).1 ∧
      (stepThumb ⟨regs, a⟩).2.regs = (stepThumb ⟨regs, b⟩).2.regs := by
  unfold stepThumb
  rw [fetchHalf_congr alike]
  dsimp only
  cases traps : (Thumb.decode (fetchHalf ⟨regs, b⟩)).trap? with
  | some e => exact ⟨rfl, rfl⟩
  | none => exact ⟨rfl, Thumb.regs_execute_congr alike _ _⟩

/-- An ARM step has the same outcome and leaves the same registers on buses that read alike. Whether
its condition holds is told by the registers. -/
theorem stepArm_congr :
    (stepArm ⟨regs, a⟩).1 = (stepArm ⟨regs, b⟩).1 ∧
      (stepArm ⟨regs, a⟩).2.regs = (stepArm ⟨regs, b⟩).2.regs := by
  unfold stepArm
  rw [fetchWord_congr alike]
  dsimp only
  have sameStatus :
      (advance ⟨regs, a⟩ .arm).regs.cpsr = (advance ⟨regs, b⟩ .arm).regs.cpsr := rfl
  rw [sameStatus]
  split
  · exact ⟨rfl, rfl⟩
  · cases traps : (Arm.decode (fetchWord ⟨regs, b⟩)).instruction.trap? with
    | some e => exact ⟨rfl, rfl⟩
    | none => exact ⟨rfl, Arm.regs_execute_congr alike _ _⟩

/-- The outcome of an instruction and what it does to the registers depend on them and on the bytes
that it reads, its own among them. -/
theorem step_congr :
    (step ⟨regs, a⟩).1 = (step ⟨regs, b⟩).1 ∧
      (step ⟨regs, a⟩).2.regs = (step ⟨regs, b⟩).2.regs := by
  unfold step
  dsimp only
  split
  · exact stepThumb_congr alike regs
  · exact stepArm_congr alike regs

end

/-- Machines that differ at most in register bytes that a program cannot read back. -/
structure SameReadable (a b : Machine) : Prop where
  regs : a.regs = b.regs
  bus : a.bus.SameReadable b.bus

/-- An instruction cannot tell machines apart that can be read alike. Its outcome and the registers
are the same, and its stores leave them alike. -/
theorem SameReadable.step {a b : Machine} (same : SameReadable a b) :
    a.step.1 = b.step.1 ∧ SameReadable a.step.2 b.step.2 := by
  obtain ⟨regs, busA⟩ := a
  obtain ⟨otherRegs, busB⟩ := b
  obtain ⟨sameRegs, bus⟩ := same
  change regs = otherRegs at sameRegs
  subst sameRegs
  have alike : busA.ReadAlike busB := bus.read8
  obtain ⟨outcome, registers⟩ := step_congr alike regs
  refine ⟨outcome, registers, ?_⟩
  rw [bus_step, bus_step, stores_congr alike]
  exact bus.perform _

end Machine

end Handheld
