import Handheld.Proofs.Cpu.Confinement
import Handheld.Proofs.Cpu.Stack
import Handheld.Proofs.Cpu.Step

/-!
# Calls and returns

A call leaves the address after it in the link register and goes to a target that its code gives
relative to its own address. Thumb code takes two instructions for it, which hand the upper part of
the offset over in the link register (`Thumb.called_halves`), ARM code takes one
(`Arm.called_word`). The lowest bit of what a call leaves says where it came from, so that the
exchanging branch to the link register comes back in the right instruction set
(`Machine.step_of_returnsByLink`), and so does a callee of Thumb code that saves the link register
on a stack and loads it into the program counter (`Thumb.SavesLink.resumes`).
`call_and_return_meet` puts these together.
-/

namespace Handheld

/-- The code of a call. -/
inductive BranchWithLink where
  /-- Two halfwords of Thumb code. -/
  | thumb (high low : Half)
  /-- A word of ARM code. -/
  | arm (word : Word)

namespace BranchWithLink

/-- The instruction set of the caller. -/
def set : BranchWithLink → InstructionSet
  | thumb .. => .thumb
  | arm _ => .arm

/-- The instructions that make up a call. -/
def steps : BranchWithLink → Nat
  | thumb .. => 2
  | arm _ => 1

/-- Where a call at `p` goes: the offset counts instructions, from two instructions ahead. -/
def target (p : Word) : BranchWithLink → Word
  | thumb high low => p + 4 + 2 * (high.extractLsb' 0 11 ++ low.extractLsb' 0 11).signExtend 32
  | arm word => p + 8 + 4 * (word.extractLsb' 0 24).signExtend 32

/-- What a call at `p` leaves for the way back: the address after it, marked if it is one of Thumb
code. -/
def link (p : Word) : BranchWithLink → Word
  | thumb .. => (p + 4) ||| 1
  | arm _ => p + 4

/-- A machine comes to a call, the condition of which passes. -/
def NextOf (m : Machine) : BranchWithLink → Prop
  | thumb high low =>
    (m.regs.thumb = true ∧ m.regs.pc.toNat % 2 = 0) ∧
      (high.extractLsb' 11 5 = 0b11110 ∧ low.extractLsb' 11 5 = 0b11111) ∧
      m.bus.read16 m.regs.pc = high ∧ m.bus.read16 (m.regs.pc + 2) = low
  | arm word =>
    (m.regs.thumb = false ∧ m.regs.pc.toNat % 4 = 0) ∧
      (word.extractLsb' 24 4 = 0b1011 ∧
        (Condition.ofBits (word.extractLsb' 28 4)).passes m.regs.cpsr = true) ∧
      m.bus.read32 m.regs.pc = word

end BranchWithLink

/-! ## Decoding -/

theorem extractLsb'_extractLsb' {w : Nat} (x : BitVec w) {start len first count : Nat}
    (inside : first + count ≤ len) :
    (x.extractLsb' start len).extractLsb' first count = x.extractLsb' (start + first) count := by
  refine BitVec.eq_of_getLsbD_eq fun i bound => ?_
  rw [BitVec.getLsbD_extractLsb', BitVec.getLsbD_extractLsb', BitVec.getLsbD_extractLsb',
    decide_eq_true bound, decide_eq_true (by omega : first + i < len), Nat.add_assoc]
  simp only [Bool.true_and]

namespace Thumb

/-- The upper five bits of an instruction of the last group are those of the group and the format
within it. -/
theorem decode_of_marked {half : Half} {format : BitVec 2}
    (marked : half.extractLsb' 11 5 = 0b111#3 ++ format) :
    half.extractLsb' 11 2 = format ∧ decode half = decodeBranchGroup half := by
  have group : half.extractLsb' 13 3 = 0b111 := by
    rw [← extractLsb'_extractLsb' half (by decide : 2 + 3 ≤ 5), marked]
    exact BitVec.extractLsb'_append_eq_left
  refine ⟨?_, by rw [decode, group]; rfl⟩
  rw [← extractLsb'_extractLsb' half (by decide : 0 + 2 ≤ 5), marked]
  exact BitVec.extractLsb'_append_eq_right

theorem decode_of_high {half : Half} (marked : half.extractLsb' 11 5 = 0b11110) :
    decode half = .longBranchHigh ((half.extractLsb' 0 11 ++ 0#12).signExtend 32) := by
  obtain ⟨format, group⟩ := @decode_of_marked half 0b10 marked
  rw [group, decodeBranchGroup, format]
  rfl

theorem decode_of_low {half : Half} (marked : half.extractLsb' 11 5 = 0b11111) :
    decode half = .longBranchLow (half.extractLsb' 0 11 ++ 0b0#1) := by
  obtain ⟨format, group⟩ := @decode_of_marked half 0b11 marked
  rw [group, decodeBranchGroup, format]
  rfl

/-- The two parts of the offset make up one number: the upper one with its sign, moved up by twelve
bits, and the lower one doubled. -/
theorem offset_of_halves (high low : BitVec 11) :
    (high ++ 0#12).signExtend 32 + (low ++ 0b0#1).setWidth 32 =
      2 * (high ++ low).signExtend 32 := by
  have upper : (high ++ 0#12).signExtend 32 = BitVec.ofInt 32 (4096 * high.toInt) := by
    refine congrArg (BitVec.ofInt 32) ?_
    rw [BitVec.toInt_append]
    exact Int.add_zero _
  have lower : (low ++ 0b0#1).setWidth 32 = BitVec.ofInt 32 (2 * low.toNat) := by
    have value : (low ++ 0b0#1).toNat = 2 * low.toNat := by
      rw [toNat_append_eq_add, Nat.shiftLeft_eq, Nat.mul_comm]
      rfl
    have natural : (2 * low.toNat : Int) = (2 * low.toNat : Nat) := (Int.natCast_mul 2 _).symm
    rw [natural, BitVec.ofInt_natCast, ← value, BitVec.ofNat_toNat]
  have whole : (high ++ low).signExtend 32 = BitVec.ofInt 32 (2048 * high.toInt + low.toNat) :=
    congrArg (BitVec.ofInt 32) BitVec.toInt_append
  have two : (2 : Word) = BitVec.ofInt 32 2 := rfl
  rw [upper, lower, whole, two, ← BitVec.ofInt_add, ← BitVec.ofInt_mul]
  exact congrArg (BitVec.ofInt 32) (by omega)

end Thumb

namespace Arm

/-- The offset of a branch counts words. -/
theorem offset_of_field (field : BitVec 24) :
    (field ++ 0b00#2).signExtend 32 = 4 * field.signExtend 32 := by
  have scaled : (field ++ 0b00#2).toInt = 4 * field.toInt := by
    rw [BitVec.toInt_append]
    exact Int.add_zero _
  have four : (4 : Word) = BitVec.ofInt 32 4 := rfl
  rw [BitVec.signExtend, scaled, BitVec.ofInt_mul, four]
  rfl

/-- A word of the group of branches that links is a branch with link, and its field counts words. -/
theorem decode_of_branchWithLink {word : Word} (marked : word.extractLsb' 24 4 = 0b1011) :
    decode word = ⟨.ofBits (word.extractLsb' 28 4),
      .branch true (4 * (word.extractLsb' 0 24).signExtend 32)⟩ := by
  have group : word.extractLsb' 25 3 = 0b101 := by
    rw [← extractLsb'_extractLsb' word (by decide : 1 + 3 ≤ 4), marked]
    rfl
  have links : word.getLsbD 24 = true := by
    have bit := congrArg (BitVec.getLsbD · 0) marked
    rwa [BitVec.getLsbD_extractLsb'] at bit
  have noExchange : ¬ word &&& 0x0FFFFFF0 = 0x012FFF10 := by
    intro exchange
    have top := congrArg (BitVec.extractLsb' 25 3) exchange
    rw [BitVec.extractLsb'_and, group] at top
    exact absurd top (by decide)
  rw [← offset_of_field, decode, decodeInstruction, if_neg noExchange, group, ← links]
  rfl

end Arm

/-! ## Calls -/

namespace Thumb

variable {m : Machine} (thumb : m.regs.thumb = true) (even : m.regs.pc.toNat % 2 = 0)

include thumb even

/-- A step in Thumb code executes the instruction at its address with `r15` at the next one, unless
it traps. -/
theorem step_of_decode {half : Half} (here : m.bus.read16 m.regs.pc = half)
    {instruction : Instruction} (decoded : decode half = instruction)
    (noTrap : instruction.trap? = none) :
    m.step.2 = instruction.execute ⟨m.regs.setPc (m.regs.pc + 2), m.bus⟩ := by
  have aligned : InstructionSet.thumb.align m.regs.pc = m.regs.pc :=
    (Word.alignHalf_eq_self_iff _).mpr even
  have fetched : decode m.fetchHalf = instruction := by
    rw [← decoded, ← here]
    exact congrArg (fun address => decode (m.bus.read16 address)) aligned
  rw [Machine.step_of_decodeHalf thumb fetched noTrap, Machine.advance_of_align rfl aligned]
  rfl

/-- The first half of a call keeps the upper part of the offset, already added to the address, in
the link register until the second half comes. -/
theorem step_of_high {high : Half} (here : m.bus.read16 m.regs.pc = high)
    (marked : high.extractLsb' 11 5 = 0b11110) :
    m.step.2 = m.mapRegs fun regs =>
      (regs.set .lr (m.regs.pc + 4 + (high.extractLsb' 0 11 ++ 0#12).signExtend 32)).setPc
        (m.regs.pc + 2) := by
  have ahead : read (m.regs.setPc (m.regs.pc + 2)) .pc = m.regs.pc + 4 := by
    rw [read, RegisterFile.operand, if_pos rfl, RegisterFile.pc_setPc]
    exact BitVec.add_assoc _ _ _
  rw [step_of_decode thumb even here (decode_of_high marked) rfl]
  simp only [Instruction.execute, Machine.mapRegs, ahead]
  rw [RegisterFile.setPc, RegisterFile.set_comm _ (by decide)]
  rfl

/-- The second half of a call goes to the target and leaves the address after it in the link
register, marked as one of Thumb code. -/
theorem step_of_low {low : Half} (here : m.bus.read16 m.regs.pc = low)
    (marked : low.extractLsb' 11 5 = 0b11111) :
    m.step.2 = m.mapRegs fun regs =>
      (regs.set .lr ((m.regs.pc + 2) ||| 1)).setPc
        (m.regs.get .lr + (low.extractLsb' 0 11 ++ 0b0#1).setWidth 32).alignHalf := by
  have kept : (m.regs.setPc (m.regs.pc + 2)).get .lr = m.regs.get .lr :=
    m.regs.get_set_of_ne (by decide) _
  have set : ((m.regs.setPc (m.regs.pc + 2)).set .lr ((m.regs.pc + 2) ||| 1)).instructionSet =
    .thumb := RegisterFile.instructionSet_of_thumb thumb
  rw [step_of_decode thumb even here (decode_of_low marked) rfl]
  simp only [Instruction.execute, Machine.mapRegs, longBranchLow, RegisterFile.branchTo, kept,
    RegisterFile.pc_setPc, set, RegisterFile.setPc_set_setPc _ (by decide : RegNum.lr ≠ .pc)]
  rfl

/-- Two halfwords of Thumb code that make up a call go to the address of the first one plus four
plus twice their offset, and leave the address after the second. -/
theorem called_halves {high low : Half} (upper : high.extractLsb' 11 5 = 0b11110)
    (lower : low.extractLsb' 11 5 = 0b11111) (first : m.bus.read16 m.regs.pc = high)
    (second : m.bus.read16 (m.regs.pc + 2) = low) :
    m.step.2.step.2 = m.mapRegs fun regs =>
      (regs.set .lr ((m.regs.pc + 4) ||| 1)).setPc
        (m.regs.pc + 4 + 2 * (high.extractLsb' 0 11 ++ low.extractLsb' 0 11).signExtend 32) := by
  have half := step_of_high thumb even first upper
  have pc : m.step.2.regs.pc = m.regs.pc + 2 := by
    rw [half]
    exact RegisterFile.pc_setPc _ _
  have lr : m.step.2.regs.get .lr =
      m.regs.pc + 4 + (high.extractLsb' 0 11 ++ 0#12).signExtend 32 := by
    rw [half]
    exact (RegisterFile.get_set_of_ne _ (by decide) _).trans (RegisterFile.get_set_self _ _ _)
  have evenAfter : m.step.2.regs.pc.toNat % 2 = 0 := by
    rw [pc]
    exact InstructionSet.thumb.toNat_add_mod even rfl
  have thumbAfter : m.step.2.regs.thumb = true := by
    rw [half]
    exact thumb
  have hereAfter : m.step.2.bus.read16 m.step.2.regs.pc = low := by
    rw [pc, half]
    exact second
  have target : (m.regs.pc + 4 + (high.extractLsb' 0 11 ++ 0#12).signExtend 32 +
      (low.extractLsb' 0 11 ++ 0b0#1).setWidth 32).alignHalf =
      m.regs.pc + 4 + 2 * (high.extractLsb' 0 11 ++ low.extractLsb' 0 11).signExtend 32 := by
    rw [BitVec.add_assoc _ (BitVec.signExtend 32 _), offset_of_halves]
    have ahead : (m.regs.pc + 4).toNat % 2 = 0 := InstructionSet.thumb.toNat_add_mod even rfl
    exact (Word.alignHalf_eq_self_iff _).mpr
      (InstructionSet.thumb.toNat_add_mod ahead (InstructionSet.thumb.toNat_width_mul_mod _))
  have link : m.regs.pc + 2 + 2 = m.regs.pc + 4 := BitVec.add_assoc _ _ _
  rw [step_of_low thumbAfter evenAfter hereAfter lower, pc, lr, target, link, half]
  simp only [Machine.mapRegs, RegisterFile.setPc_set_setPc _ (by decide : RegNum.lr ≠ .pc),
    RegisterFile.set_set]

end Thumb

/-- A word of ARM code that is a call goes to its address plus eight plus four times its offset, and
leaves the address after it. -/
theorem Arm.called_word {m : Machine} (arm : m.regs.thumb = false)
    (aligned : m.regs.pc.toNat % 4 = 0) {word : Word} (here : m.bus.read32 m.regs.pc = word)
    (marked : word.extractLsb' 24 4 = 0b1011)
    (passes : (Condition.ofBits (word.extractLsb' 28 4)).passes m.regs.cpsr = true) :
    m.step.2 = m.mapRegs fun regs =>
      (regs.set .lr (m.regs.pc + 4)).setPc
        (m.regs.pc + 8 + 4 * (word.extractLsb' 0 24).signExtend 32) := by
  have atWord : m.regs.pc.alignWord = m.regs.pc := (Word.alignWord_eq_self_iff _).mpr aligned
  have decoded : decode m.fetchWord = ⟨.ofBits (word.extractLsb' 28 4),
      .branch true (4 * (word.extractLsb' 0 24).signExtend 32)⟩ := by
    rw [Machine.fetchWord, atWord, here, decode_of_branchWithLink marked]
  have executed := Machine.stepArm_of_noTrap (m := m) (by rw [decoded]; exact passes)
    (by rw [decoded]; rfl)
  have ahead : m.regs.pc + 4 + 4 = m.regs.pc + 8 := BitVec.add_assoc _ _ _
  have set : ((m.regs.setPc (m.regs.pc + 4)).set .lr (m.regs.pc + 4)).instructionSet = .arm :=
    RegisterFile.instructionSet_of_arm arm
  have target : (m.regs.pc + 8 + 4 * (word.extractLsb' 0 24).signExtend 32).alignWord =
      m.regs.pc + 8 + 4 * (word.extractLsb' 0 24).signExtend 32 := by
    have twoAhead : (m.regs.pc + 8).toNat % 4 = 0 := InstructionSet.arm.toNat_add_mod aligned rfl
    exact (Word.alignWord_eq_self_iff _).mpr
      (InstructionSet.arm.toNat_add_mod twoAhead (InstructionSet.arm.toNat_width_mul_mod _))
  rw [Machine.step_of_arm arm, executed, decoded, Machine.advance_of_aligned rfl aligned]
  simp only [Instruction.execute, Machine.mapRegs, branch, ↓reduceIte, RegisterFile.branchTo,
    RegisterFile.pc_setPc, set, read, RegisterFile.operand, RegisterFile.pc_set_of_ne _
      (by decide : RegNum.lr ≠ .pc), RegisterFile.setPc_set_setPc _ (by decide : RegNum.lr ≠ .pc)]
  show Machine.mk ((m.regs.set .lr (m.regs.pc + 4)).setPc (m.regs.pc + 4 + 4 + _).alignWord) _ = _
  rw [ahead, target]

/-! ## Returns -/

/-- The instruction set that the lowest bit of an address to branch to stands for. -/
def InstructionSet.ofTarget (target : Word) : InstructionSet :=
  if target.getLsbD 0 then .thumb else .arm

/-- Wherever `r15` is, an exchanging branch goes to its target, aligned for the instruction set that
the lowest bit of the target selects. -/
theorem RegisterFile.exchange_eq (regs : RegisterFile) (address target : Word) :
    ((regs.setPc address).setThumb (target.getLsbD 0)).branchTo target =
      (regs.setThumb (target.getLsbD 0)).setPc ((InstructionSet.ofTarget target).align target) := by
  have set : ((regs.setPc address).setThumb (target.getLsbD 0)).instructionSet =
      .ofTarget target := by
    rw [instructionSet, thumb_setThumb, InstructionSet.ofTarget]
  rw [branchTo, set]
  exact (regs.setThumb (target.getLsbD 0)).set_set .pc address _

namespace Machine

/-- The next instruction, of either set, is executed and is the exchanging branch to the link
register. -/
def ReturnsByLink (m : Machine) : Prop :=
  (m.regs.thumb = true ∧ Thumb.decode m.fetchHalf = .branchExchange .lr) ∨
    (m.regs.thumb = false ∧ (Arm.decode m.fetchWord).instruction = .branchExchange .lr ∧
      (Arm.decode m.fetchWord).condition.passes m.regs.cpsr = true)

/-- `BX` with the link register does the same in both sets, so that a callee can return without
knowing the set of its caller. -/
theorem step_of_returnsByLink {m : Machine} (returns : m.ReturnsByLink) :
    m.step.2 = m.mapRegs fun regs =>
      (regs.setThumb ((m.regs.get .lr).getLsbD 0)).setPc
        ((InstructionSet.ofTarget (m.regs.get .lr)).align (m.regs.get .lr)) := by
  have kept (address : Word) : (m.regs.setPc address).get .lr = m.regs.get .lr :=
    m.regs.get_set_of_ne (by decide) _
  have lrNotPc : RegNum.lr ≠ .pc := by decide
  rcases returns with ⟨thumb, decoded⟩ | ⟨arm, decoded, passes⟩
  · rw [step_of_decodeHalf thumb decoded rfl]
    simp only [Thumb.Instruction.execute, advance, mapRegs, Thumb.branchExchange, Thumb.read,
      RegisterFile.operand_of_ne _ lrNotPc, kept, RegisterFile.exchange_eq]
  · rw [step_of_arm arm, stepArm_of_noTrap passes (by rw [decoded]; rfl), decoded]
    simp only [Arm.Instruction.execute, advance, mapRegs, Arm.branchExchange, Arm.read,
      RegisterFile.operand_of_ne _ lrNotPc, kept, RegisterFile.exchange_eq]

end Machine

namespace Thumb

/-! ## Saving the link register -/

/-- The places on the stack of the registers of a list and the link register after them. -/
def linkedSlots (registers : Byte) (callee : Machine) : List (Word × RegNum) :=
  let listed := listedLow registers ++ [RegNum.lr]
  transferSlots (callee.regs.get .sp - spanOf listed) listed

/-- A callee of Thumb code stores the link register, with others, on a stack in work memory, and
later, with the stack as it left it, loads the same list with the program counter for the link
register. -/
structure SavesLink (registers : Byte) (callee later : Machine) : Prop where
  pushes : callee.regs.thumb = true ∧ decode callee.fetchHalf = .pushPop false true registers
  work : ∀ slot ∈ linkedSlots registers callee,
    Region.ofAddress slot.1 = .ewram ∨ Region.ofAddress slot.1 = .iwram
  pops : later.regs.thumb = true ∧ decode later.fetchHalf = .pushPop true true registers
  sp : later.regs.get .sp = callee.step.2.regs.get .sp
  words : ∀ slot ∈ linkedSlots registers callee,
    later.bus.read32 slot.1 = callee.step.2.bus.read32 slot.1

variable {registers : Byte} {callee later : Machine}

theorem spanOf_concat (listed : List RegNum) (first second : RegNum) :
    spanOf (listed ++ [first]) = spanOf (listed ++ [second]) := by
  rw [spanOf, spanOf, List.length_append, List.length_append]
  rfl

theorem linkedSlots_eq (registers : Byte) (callee : Machine) :
    let start := callee.regs.get .sp - spanOf (listedLow registers ++ [.lr])
    linkedSlots registers callee = transferSlots start (listedLow registers) ++
      [(start + BitVec.ofNat 32 (4 * (listedLow registers).length), .lr)] :=
  transferSlots_concat _ _ _

/-- A `PUSH` of the link register is a store of the listed registers with the link register last, in
the highest word. -/
theorem push_link (registers : Byte) (m : Machine) :
    push true registers m =
      (m.storeWords ((linkedSlots registers m).map fun slot => (slot.1, m.regs.get slot.2))).mapRegs
        (·.set .sp (m.regs.get .sp - spanOf (listedLow registers ++ [.lr]))) := by
  simp only [push, ↓reduceIte]
  rfl

/-- A `POP` of the program counter is a load of the listed registers and then a branch to the last
word. This branch stays in Thumb code. -/
theorem pop_link (registers : Byte) (m : Machine) :
    let sp := m.regs.get .sp
    let listed := listedLow registers
    (pop true registers m).regs =
      ((loadSlots (transferSlots sp listed) m.bus m.regs).branchTo
        (m.bus.read32 (sp + BitVec.ofNat 32 (4 * listed.length)))).set .sp
          (sp + spanOf (listed ++ [.pc])) := by
  intro sp listed
  simp only [pop, ↓reduceIte, loadSlots, transferSlots_concat, List.foldl_append]
  rfl

namespace SavesLink

/-- What the callee stores is in memory after its first instruction, each register in its word, and
the stack pointer is below them. -/
theorem pushed (saves : SavesLink registers callee later) :
    callee.step.2.regs.get .sp = callee.regs.get .sp - spanOf (listedLow registers ++ [.lr]) ∧
      ∀ slot ∈ linkedSlots registers callee,
        callee.step.2.bus.read32 slot.1 = callee.regs.get slot.2 := by
  obtain ⟨thumb, decoded⟩ := saves.pushes
  have kept {r : RegNum} (notPc : r ≠ .pc) :
      (callee.advance .thumb).regs.get r = callee.regs.get r :=
    callee.regs.get_set_of_ne notPc _
  have stepped : callee.step.2 = push true registers (callee.advance .thumb) :=
    congrArg Prod.snd (Machine.step_of_decodeHalf thumb decoded rfl)
  have few : (listedLow registers ++ [RegNum.lr]).length ≤ 16 := by
    have listed := listedRegisters_pushed true registers
    rw [if_pos rfl] at listed
    rw [← listed]
    exact length_listedRegisters_le _
  have slots : linkedSlots registers (callee.advance .thumb) = linkedSlots registers callee := by
    rw [linkedSlots, kept (by decide)]
    rfl
  have work : ∀ slot ∈ linkedSlots registers callee,
      (Bus.workCell? slot.1.alignWord).isSome := by
    intro slot member
    rw [Bus.workCell?, Region.ofAddress_alignWord]
    rcases saves.work slot member with region | region <;> rw [region] <;> rfl
  have notPc : ∀ r ∈ (linkedSlots registers callee).map (·.2), r ≠ .pc := by
    intro r member
    rw [linkedSlots, snd_transferSlots, List.mem_append, List.mem_singleton] at member
    rcases member with low | rfl
    · exact ne_of_mem_listedLow (by decide) low
    · decide
  rw [stepped, push_link, slots, kept (by decide)]
  refine ⟨RegisterFile.get_set_self _ _ _, fun slot member => ?_⟩
  rw [← kept (notPc _ (List.mem_map_of_mem member))]
  exact read32_storeSlots few work (callee.advance .thumb).regs.get member (callee.advance .thumb)

/-- The places of the low registers. -/
def lowSlots (registers : Byte) (callee : Machine) : List (Word × RegNum) :=
  transferSlots (callee.regs.get .sp - spanOf (listedLow registers ++ [.lr])) (listedLow registers)

theorem ne_pc_of_mem_lowSlots (registers : Byte) (callee : Machine) :
    ∀ r ∈ (lowSlots registers callee).map (·.2), r ≠ .pc := by
  rw [lowSlots, snd_transferSlots]
  exact fun r member => ne_of_mem_listedLow (by decide) member

/-- What the load reads is what was stored, as the body of the callee has kept these words. -/
theorem read32_later (saves : SavesLink registers callee later) {slot : Word × RegNum}
    (member : slot ∈ linkedSlots registers callee) :
    later.bus.read32 slot.1 = callee.regs.get slot.2 :=
  (saves.words slot member).trans (saves.pushed.2 slot member)

/-- The registers after the load: the listed ones from memory, `r15` from the word of the link
register, and the stack pointer back at its old value. -/
theorem regs_resumed (saves : SavesLink registers callee later) :
    later.step.2.regs =
      ((Arm.loadBlock false false (lowSlots registers callee) later.bus
        (later.advance .thumb).regs).setPc (callee.regs.get .lr).alignHalf).set .sp
          (callee.regs.get .sp) := by
  obtain ⟨thumb, decoded⟩ := saves.pops
  have stepped : later.step.2 = pop true registers (later.advance .thumb) :=
    congrArg Prod.snd (Machine.step_of_decodeHalf thumb decoded rfl)
  have sp : (later.advance .thumb).regs.get .sp =
      callee.regs.get .sp - spanOf (listedLow registers ++ [.lr]) := by
    rw [← saves.pushed.1, ← saves.sp]
    exact later.regs.get_set_of_ne (by decide) _
  have linked := linkedSlots_eq registers callee
  have link := saves.read32_later
    (linked ▸ List.mem_append_right _ (List.mem_singleton_self _))
  have notPc := ne_pc_of_mem_lowSlots registers callee
  have loaded := loadSlots_eq_loadBlock (fun member => notPc _ member rfl) later.bus
    (later.advance .thumb).regs
  have set := RegisterFile.instructionSet_of_thumb
    ((Arm.changedOnly_loadBlock notPc later.bus (later.advance .thumb).regs).thumb.trans thumb)
  have back := spanOf_concat (listedLow registers) .pc .lr
  rw [stepped, pop_link, sp, back, BitVec.sub_add_cancel]
  show RegisterFile.set ((loadSlots (lowSlots registers callee) later.bus _).branchTo
    (later.bus.read32 _)) _ _ = _
  rw [link, loaded, RegisterFile.branchTo, set]
  rfl

/-- The callee goes back where the link register said, with the stack pointer and the listed
registers as they were. -/
theorem resumes (saves : SavesLink registers callee later) :
    let resumed := later.step.2.regs
    (resumed.thumb = true ∧ resumed.pc = (callee.regs.get .lr).alignHalf) ∧
      resumed.get .sp = callee.regs.get .sp ∧
        ∀ r ∈ listedLow registers, resumed.get r = callee.regs.get r := by
  intro resumed
  have regs : resumed = _ := saves.regs_resumed
  have notPc := ne_pc_of_mem_lowSlots registers callee
  have changes := Arm.changedOnly_loadBlock notPc later.bus (later.advance .thumb).regs
  have listed : (lowSlots registers callee).map (·.2) = listedLow registers := snd_transferSlots _ _
  rw [regs]
  refine ⟨⟨changes.thumb.trans saves.pops.1, ?_⟩, RegisterFile.get_set_self _ _ _,
    fun r member => ?_⟩
  · rw [RegisterFile.pc_set_of_ne _ (by decide), RegisterFile.pc_setPc]
  · have once : ((lowSlots registers callee).map (·.2)).Nodup := by
      rw [listed]
      exact (pairwise_listedRegisters _).imp Fin.ne_of_lt
    have notSp : r ≠ .sp := ne_of_mem_listedLow (by decide) member
    rw [← listed] at member
    obtain ⟨slot, present, rfl⟩ := List.mem_map.mp member
    have linked : slot ∈ linkedSlots registers callee := by
      rw [linkedSlots_eq]
      exact List.mem_append_left _ present
    rw [RegisterFile.get_set_of_ne _ notSp, RegisterFile.setPc,
      RegisterFile.get_set_of_ne _ (notPc _ member), Arm.get_loadBlock notPc once _ _ present,
      saves.read32_later linked]

end SavesLink

end Thumb

/-! ## Calls and returns -/

namespace BranchWithLink

variable {call : BranchWithLink} {m : Machine}

/-- The call is made: the machine goes to the target, and the link register has the way back.
Nothing else of it has changed, in either set. -/
theorem called (next : call.NextOf m) :
    m.afterSteps call.steps = m.mapRegs fun regs =>
      (regs.set .lr (call.link m.regs.pc)).setPc (call.target m.regs.pc) := by
  cases call with
  | thumb high low =>
      obtain ⟨⟨thumb, even⟩, ⟨upper, lower⟩, first, second⟩ := next
      exact Thumb.called_halves thumb even upper lower first second
  | arm word =>
      obtain ⟨⟨arm, aligned⟩, ⟨marked, passes⟩, here⟩ := next
      exact Arm.called_word arm aligned here marked passes

/-- What a call leaves stands for the instruction set of the caller: its lowest bit is that of a
Thumb address or an ARM one, and without it the return is right after the call. -/
theorem ofTarget_link (next : call.NextOf m) :
    (call.link m.regs.pc).getLsbD 0 = decide (call.set = .thumb) ∧
      call.set.align (call.link m.regs.pc) = m.regs.pc + 4 := by
  cases call with
  | thumb high low =>
      have even : (m.regs.pc + 4).toNat % 2 = 0 :=
        InstructionSet.thumb.toNat_add_mod next.1.2 rfl
      refine ⟨?_, Word.alignHalf_marked even⟩
      rw [link, BitVec.getLsbD_or]
      exact Bool.or_true _
  | arm word =>
      have aligned : (m.regs.pc + 4).toNat % 4 = 0 :=
        InstructionSet.arm.toNat_add_mod next.1.2 rfl
      refine ⟨?_, (Word.alignWord_eq_self_iff _).mpr aligned⟩
      rw [link, ← BitVec.testBit_toNat, Nat.testBit_zero]
      exact decide_eq_false (by omega)

end BranchWithLink

/-- A call goes to its target and leaves the way back, and changes nothing else. Whatever machine
later branches to a link register that is as the call has left it, from either instruction set, goes
on after the call in the instruction set of the caller; and so does, after a call from Thumb code, a
callee that has saved the link register on its stack, which has its stack pointer and the registers
it has saved back. -/
theorem call_and_return_meet (call : BranchWithLink) (m : Machine) (next : call.NextOf m) :
    let p := m.regs.pc
    let called := m.afterSteps call.steps
    called = m.mapRegs (fun regs => (regs.set .lr (call.link p)).setPc (call.target p)) ∧
      (∀ later : Machine, later.regs.get .lr = called.regs.get .lr → later.ReturnsByLink →
        later.step.2 =
          later.mapRegs fun regs => (regs.setThumb (call.set = .thumb)).setPc (p + 4)) ∧
      (call.set = .thumb → ∀ (registers : Byte) (callee later : Machine),
        callee.regs.get .lr = called.regs.get .lr → Thumb.SavesLink registers callee later →
        let resumed := later.step.2.regs
        (resumed.thumb = true ∧ resumed.pc = p + 4) ∧ resumed.get .sp = callee.regs.get .sp ∧
          ∀ r ∈ Thumb.listedLow registers, resumed.get r = callee.regs.get r) := by
  intro p called
  have made : called = _ := BranchWithLink.called next
  have lr : called.regs.get .lr = call.link p := by
    rw [made]
    exact (RegisterFile.get_set_of_ne _ (by decide) _).trans (RegisterFile.get_set_self _ _ _)
  obtain ⟨mark, back⟩ := BranchWithLink.ofTarget_link next
  refine ⟨made, fun later intact returns => ?_, fun thumb registers callee later intact saves => ?_⟩
  · have set : InstructionSet.ofTarget (call.link p) = call.set := by
      rw [InstructionSet.ofTarget, mark]
      cases call.set <;> rfl
    rw [Machine.step_of_returnsByLink returns, intact, lr, mark, set, back]
  · rw [thumb] at back
    have resumes := saves.resumes
    rw [intact, lr] at resumes
    rwa [← back]

/-- A call in the game pak to a callee that saves `r4` and the link register, and a branch to the
link register from ARM code elsewhere. -/
theorem call_and_return_meet_in_gamePak :
    let image := #[0x00, 0xF0, 0x04, 0xF8, 0x00, 0x00, 0x00, 0x00, 0x1E, 0xFF, 0x2F, 0xE1,
      0x10, 0xB5, 0x10, 0xBD]
    let regs := (RegisterFile.powerOn.set .sp 0x03007F00).setPc 0x08000000
    let m : Machine := ⟨regs.setThumb true, { Bus.powerOn with gamePak := image }⟩
    let called := m.afterSteps 2
    let exchanging := called.mapRegs fun regs => (regs.setThumb false).setPc 0x08000008
    let saved := called.step.2
    called.regs.pc = 0x0800000C ∧ called.regs.get .lr = 0x08000005 ∧
      exchanging.step.2.regs.pc = 0x08000004 ∧ saved.step.2.regs.pc = 0x08000004 := by
  intro image regs m called exchanging saved
  have next : (BranchWithLink.thumb 0xF000 0xF804).NextOf m := by
    exact ⟨⟨by decide, by decide⟩, ⟨by decide, by decide⟩, by decide, by decide⟩
  obtain ⟨made, exchanges, restores⟩ := call_and_return_meet _ m next
  have exchanged : exchanging.step.2 = _ := exchanges exchanging (by decide) (.inr (by decide))
  have slots : Thumb.linkedSlots 0x10 called = [(0x03007EF8, 4), (0x03007EFC, .lr)] := by decide
  have work : ∀ slot ∈ Thumb.linkedSlots 0x10 called, Region.ofAddress slot.1 = .iwram := by
    rw [slots, List.forall_mem_cons, List.forall_mem_singleton]
    decide
  have saves : Thumb.SavesLink 0x10 called saved :=
    ⟨by decide, fun slot member => .inr (work slot member), by decide, rfl, fun _ _ => rfl⟩
  have resumed := restores rfl 0x10 called saved rfl saves
  refine ⟨by decide, by decide, ?_, resumed.1.2⟩
  rw [exchanged]
  decide

end Handheld
