import Handheld.Thumb.Execute
import Handheld.Proofs.Cpu.WellFormed

/-!
# Thumb instructions keep the registers well formed

One lemma for each kind of instruction, and `Thumb.wellFormed_execute` for all of them. A write to
a register goes through `assign`, which aligns what it puts into `r15`, and only the exchanging
branch changes the Thumb bit.
-/

namespace Handheld.Thumb

open RegisterFile

variable {regs : RegisterFile} {m : Machine}

/-- Writing a sum with its flags keeps a register file well formed: the destination is a low
register and the flags are not part of the mode. -/
theorem wellFormed_writeSum (wellFormed : WellFormed regs) (rd : RegNum) (sum : Adder.Result) :
    WellFormed (writeSum rd sum regs) :=
  (wellFormed.assign rd _).applyFlags _

/-- So does writing a logical result with its carry. -/
theorem wellFormed_writeLogical (wellFormed : WellFormed regs) (rd : RegNum) (value : Word)
    (carry : Bool) : WellFormed (writeLogical rd value carry regs) :=
  (wellFormed.assign rd _).applyFlags _

/-- So does writing a result that leaves carry and overflow alone. -/
theorem wellFormed_writeResult (wellFormed : WellFormed regs) (rd : RegNum) (value : Word) :
    WellFormed (writeResult rd value regs) :=
  (wellFormed.assign rd _).applyFlags _

/-- A comparison sets flags alone. -/
theorem wellFormed_compare (wellFormed : WellFormed regs) (a b : Word) :
    WellFormed (compare a b regs) :=
  wellFormed.applyFlags (.arithmetic (Adder.sub a b))

/-- The operations with a byte constant keep a register file well formed. -/
theorem wellFormed_immediateOperation (wellFormed : WellFormed regs) (op : ImmediateOp)
    (rd : RegNum) (byte : Byte) : WellFormed (immediateOperation op rd byte regs) := by
  cases op with
  | mov => exact wellFormed_writeResult wellFormed rd _
  | cmp => exact wellFormed_compare wellFormed _ _
  | add => exact wellFormed_writeSum wellFormed rd _
  | sub => exact wellFormed_writeSum wellFormed rd _

/-- The sixteen register operations keep a register file well formed. Each writes a sum, a logical
result or flags alone. -/
theorem wellFormed_aluOperation (wellFormed : WellFormed regs) (op : AluOp) (rs rd : RegNum) :
    WellFormed (aluOperation op rs rd regs) := by
  cases op with
  | and | eor | orr | bic | mvn | lsl | lsr | asr | ror =>
      exact wellFormed_writeLogical wellFormed rd _ _
  | adc | sbc | neg => exact wellFormed_writeSum wellFormed rd _
  | tst =>
      exact wellFormed.applyFlags
        (.logical (read regs rd &&& read regs rs) (regs.flag Status.carry))
  | cmp => exact wellFormed_compare wellFormed _ _
  | cmn =>
      exact wellFormed.applyFlags (.arithmetic (Adder.add (read regs rd) (read regs rs) false))
  | mul => exact wellFormed_writeResult wellFormed rd _

/-- The operations on high registers may write `r15`. Then the address is aligned for the
instruction set that it is used in. -/
theorem wellFormed_hiRegisterOperation (wellFormed : WellFormed regs) (op : HiRegisterOp)
    (rs rd : RegNum) : WellFormed (hiRegisterOperation op rs rd regs) := by
  cases op with
  | add => exact wellFormed.assign rd _
  | cmp => exact wellFormed_compare wellFormed _ _
  | mov => exact wellFormed.assign rd _

/-- A branch aligns its target. -/
theorem wellFormed_branch (wellFormed : WellFormed regs) (offset : Word) :
    WellFormed (branch offset regs) :=
  wellFormed.namesMode.branchTo _

/-- The second half of a long branch aligns its target and leaves the return address in `lr`. -/
theorem wellFormed_longBranchLow (wellFormed : WellFormed regs) (offset : BitVec 12) :
    WellFormed (longBranchLow offset regs) :=
  (wellFormed.set (by decide) _).namesMode.branchTo _

/-- A load or store of one unit writes at most a low register. -/
theorem wellFormed_transferUnit (wellFormed : WellFormed m.regs) (load byte : Bool)
    (address : Word) (rd : RegNum) : WellFormed (transferUnit load byte address rd m).regs := by
  cases load with
  | true => exact wellFormed.assign rd _
  | false => cases byte <;> exact wellFormed

/-- So does a load or store of a halfword or a signed unit. -/
theorem wellFormed_transferSigned (wellFormed : WellFormed m.regs) (op : SignedTransfer)
    (address : Word) (rd : RegNum) : WellFormed (transferSigned op address rd m).regs := by
  cases op with
  | storeHalfword => exact wellFormed
  | loadHalfword => exact wellFormed.assign rd _
  | loadSignedByte => exact wellFormed.assign rd _
  | loadSignedHalfword => exact wellFormed.assign rd _

/-- Words that are loaded into any registers, `r15` included, leave the register file well formed,
since a word for `r15` is aligned first. -/
theorem wellFormed_loadSlots (slots : List (Word × RegNum)) (bus : Bus)
    (wellFormed : WellFormed regs) : WellFormed (loadSlots slots bus regs) := by
  unfold loadSlots
  induction slots generalizing regs with
  | nil => exact wellFormed
  | cons slot rest ih =>
      rw [List.foldl_cons]
      exact ih (wellFormed.assign slot.2 _)

/-- `POP` may load `r15`, which is aligned, and moves the stack pointer. -/
theorem wellFormed_pop (wellFormed : WellFormed m.regs) (link : Bool) (registers : Byte) :
    WellFormed (pop link registers m).regs :=
  (wellFormed_loadSlots _ _ wellFormed).set (by decide) _

/-- `PUSH` moves the stack pointer alone. -/
theorem wellFormed_push (wellFormed : WellFormed m.regs) (link : Bool) (registers : Byte) :
    WellFormed (push link registers m).regs :=
  wellFormed.set (by decide) _

/-- The transfer of an empty list loads or stores `r15` and moves the base. -/
theorem wellFormed_transferEmpty (wellFormed : WellFormed m.regs) (load : Bool) (rb : RegNum) :
    WellFormed (transferEmpty load rb m).regs := by
  cases load with
  | true => exact (wellFormed.assign .pc _).writeBack rb _
  | false => exact wellFormed.writeBack rb _

/-- A transfer of several registers keeps the register file well formed, whichever registers it
lists. -/
theorem wellFormed_multipleTransfer (wellFormed : WellFormed m.regs) (load : Bool) (rb : RegNum)
    (registers : Byte) : WellFormed (multipleTransfer load rb registers m).regs := by
  unfold multipleTransfer
  split
  · exact wellFormed_transferEmpty wellFormed load rb
  · cases load with
    | true => exact wellFormed_loadSlots _ _ (wellFormed.writeBack rb _)
    | false => exact wellFormed.writeBack rb _

/-- Every Thumb instruction keeps the registers well formed. One case for each form, and those that
may write `r15` align it. -/
theorem wellFormed_execute (instruction : Instruction) (wellFormed : WellFormed m.regs) :
    WellFormed (instruction.execute m).regs := by
  cases instruction with
  | moveShifted shift amount rs rd => exact wellFormed_writeLogical wellFormed rd _ _
  | addSubtract subtract operand rs rd => exact wellFormed_writeSum wellFormed rd _
  | immediate op rd value => exact wellFormed_immediateOperation wellFormed op rd value
  | alu op rs rd => exact wellFormed_aluOperation wellFormed op rs rd
  | hiRegister op rs rd => exact wellFormed_hiRegisterOperation wellFormed op rs rd
  | branchExchange rs =>
      exact (wellFormed.namesMode.setFlag Status.thumb (by decide) _).branchTo _
  | pcRelativeLoad rd offset => exact wellFormed.assign rd _
  | loadStoreRegister load byte ro rb rd => exact wellFormed_transferUnit wellFormed load byte _ rd
  | loadStoreSigned op ro rb rd => exact wellFormed_transferSigned wellFormed op _ rd
  | loadStoreImmediate load byte offset rb rd =>
      exact wellFormed_transferUnit wellFormed load byte _ rd
  | loadStoreHalfword load offset rb rd => exact wellFormed_transferSigned wellFormed _ _ rd
  | spRelative load rd offset => exact wellFormed_transferUnit wellFormed load false _ rd
  | loadAddress fromSp rd offset => exact wellFormed.assign rd _
  | adjustStack offset => exact wellFormed.set (by decide) _
  | pushPop pops link registers =>
      cases pops with
      | true => exact wellFormed_pop wellFormed link registers
      | false => exact wellFormed_push wellFormed link registers
  | multipleTransfer load rb registers =>
      exact wellFormed_multipleTransfer wellFormed load rb registers
  | conditionalBranch condition offset =>
      show WellFormed (if condition.passes m.regs.cpsr then branch offset m.regs else m.regs)
      split
      · exact wellFormed_branch wellFormed offset
      · exact wellFormed
  | softwareInterrupt comment => exact wellFormed
  | branch offset => exact wellFormed_branch wellFormed offset
  | longBranchHigh offset => exact wellFormed.set (by decide) _
  | longBranchLow offset => exact wellFormed_longBranchLow wellFormed offset
  | undefined => exact wellFormed

end Handheld.Thumb
