import Handheld.Cpu.Exception
import Handheld.Proofs.Cpu.Registers

/-!
# The banked register file as a set of registers

The architecture has one set of registers for every mode, some of them common to several modes
(`Mode.Shares`). The register file keeps a visible copy beside slots that go stale, and `banked`
reads through both. A change of mode changes no register so read (`banked_switchMode`,
`banked_setCpsr`), a write changes one register for the modes that share it (`banked_set`,
`banked_setUserRegister`), and taking an exception changes the link register and the saved status of
its target mode (`banked_enterException`, `savedStatus?_enterException`).
-/

namespace Handheld

/-- Whether register `r` is one and the same for two modes: `r8` to `r12` are private to FIQ, and
`r13` and `r14` belong to a bank. -/
def Mode.Shares (a b : Mode) (r : RegNum) : Prop :=
  (8 ≤ r.val ∧ r.val ≤ 12 → (a = .fiq ↔ b = .fiq)) ∧ (r = .sp ∨ r = .lr → a.bank = b.bank)

instance (a b : Mode) (r : RegNum) : Decidable (a.Shares b r) :=
  inferInstanceAs (Decidable (_ ∧ _))

namespace Bank

/-- Every bank has its own place among the slots. -/
theorem index_inj {a b : Bank} : a.index = b.index ↔ a = b := by
  cases a <;> cases b <;> decide

/-- No two banks keep their saved status in the same place. -/
theorem savedIndex?_inj {a b : Bank} {i : Fin 5} (first : a.savedIndex? = some i)
    (second : b.savedIndex? = some i) : a = b := by
  cases a <;> cases b <;> cases first <;> cases second <;> rfl

end Bank

namespace RegisterFile

/-! ## Sharing -/

/-- What `sharedBy` computes is what the architecture says of two modes: whether a register is one
and the same in both. -/
theorem sharedBy_iff (a b : Mode) (r : RegNum) : sharedBy a b r = true ↔ a.Shares b r := by
  revert r
  cases a <;> cases b <;> decide

@[simp] theorem sharedBy_self (mode : Mode) (r : RegNum) : sharedBy mode mode r = true := by
  revert r
  cases mode <;> decide

/-- It does not matter in which of two modes one asks whether a register is shared. -/
theorem sharedBy_comm (a b : Mode) (r : RegNum) : sharedBy a b r = sharedBy b a r := by
  revert r
  cases a <;> cases b <;> decide

/-- Two modes that share a register with each other share it with the same other modes. -/
theorem sharedBy_trans {a b c : Mode} {r : RegNum} (first : sharedBy a b r = true) :
    sharedBy a c r = sharedBy b c r := by
  revert r
  cases a <;> cases b <;> cases c <;> decide

/-- Modes of one bank share all their registers, since FIQ, the only mode with its own `r8` to
`r12`, has a bank to itself. -/
theorem sharedBy_of_bank_eq {a b : Mode} (same : a.bank = b.bank) (r : RegNum) :
    sharedBy a b r = true := by
  revert r
  rcases (Mode.bank_eq_iff a b).mp same with rfl | ⟨rfl, rfl⟩ | ⟨rfl, rfl⟩
  · cases a <;> decide
  · decide
  · decide

/-- The registers `r0` to `r7` and `r15` exist only once. -/
theorem sharedBy_common {r : RegNum} (common : r.val < 8 ∨ r = .pc) (a b : Mode) :
    sharedBy a b r = true := by
  revert r
  cases a <;> cases b <;> decide

/-- The registers `r8` to `r12` exist twice: once for FIQ and once for all other modes. -/
theorem sharedBy_high {r : RegNum} (high : 8 ≤ r.val ∧ r.val ≤ 12) (a b : Mode) :
    sharedBy a b r = true ↔ (a = .fiq ↔ b = .fiq) := by
  revert r
  cases a <;> cases b <;> decide

/-- There is one stack pointer for each bank. -/
theorem sharedBy_sp (a b : Mode) : sharedBy a b .sp = true ↔ a.bank = b.bank := by
  cases a <;> cases b <;> decide

/-- There is one link register for each bank. -/
theorem sharedBy_lr (a b : Mode) : sharedBy a b .lr = true ↔ a.bank = b.bank := by
  cases a <;> cases b <;> decide

variable (regs : RegisterFile)

/-! ## Slots -/

/-- The slots of `r8` to `r12` are those that the mode shares with all modes on its side of FIQ. -/
theorem slot_high {r : RegNum} (high : 8 ≤ r.val ∧ r.val ≤ 12) (bound : r.val - 8 < 5)
    (mode : Mode) : regs.slot mode r = (regs.highSlots mode)[r.val - 8] := by
  simp only [slot, high, and_self, ↓reduceDIte]

@[simp] theorem slot_sp (mode : Mode) : regs.slot mode .sp = (regs.stackLink mode.bank).sp := rfl

@[simp] theorem slot_lr (mode : Mode) : regs.slot mode .lr = (regs.stackLink mode.bank).lr := rfl

/-- A register that exists only once has no slot, and its visible value stands for it. These are
`r0` to `r7` and `r15`, which every mode shares. -/
theorem slot_common {r : RegNum} (common : r.val < 8 ∨ r = .pc) (mode : Mode) :
    regs.slot mode r = regs.get r := by
  have notHigh : ¬ (8 ≤ r.val ∧ r.val ≤ 12) := by
    rcases common with low | rfl
    · omega
    · decide
  have notSp : r ≠ .sp := by
    rintro rfl
    exact absurd common (by decide)
  have notLr : r ≠ .lr := by
    rintro rfl
    exact absurd common (by decide)
  simp only [slot, notHigh, notSp, notLr, ↓reduceDIte, ↓reduceIte]

/-- Modes that share a register keep it in the same slot. For `r8` to `r12` they are on the same
side of FIQ, for `r13` and `r14` they have the same bank. -/
theorem slot_congr {a b : Mode} {r : RegNum} (shared : sharedBy a b r = true) :
    regs.slot a r = regs.slot b r := by
  rcases r.banking_cases with low | high | rfl | rfl | rfl
  · rw [slot_common regs (.inl low), slot_common regs (.inl low)]
  · have fiq := ((sharedBy_iff a b r).mp shared).1 high
    have slots : regs.highSlots a = regs.highSlots b := by
      simp only [highSlots, fiq]
    have bound : r.val - 8 < 5 := by omega
    rw [slot_high regs high bound, slot_high regs high bound]
    simp only [slots]
  · rw [slot_sp, slot_sp, ((sharedBy_iff a b _).mp shared).2 (.inl rfl)]
  · rw [slot_lr, slot_lr, ((sharedBy_iff a b _).mp shared).2 (.inr rfl)]
  · rw [slot_common regs (.inr rfl), slot_common regs (.inr rfl)]

/-- A pair of stack pointer and link register is stored for one bank, and the pairs of the other
five banks are as they were. -/
theorem stackLink_stored (owner bank : Bank) (bound : owner.index.val < 6) (pair : StackLink) :
    ({ regs with stackLinks := regs.stackLinks.set owner.index.val pair bound }
      : RegisterFile).stackLink bank = if owner = bank then pair else regs.stackLink bank := by
  by_cases same : owner = bank
  · subst same
    simp only [stackLink, Fin.getElem_fin, Vector.getElem_set_self, ↓reduceIte]
  · have different : owner.index.val ≠ bank.index.val :=
      fun equal => same (Bank.index_inj.mp (Fin.ext equal))
    simp only [stackLink, Fin.getElem_fin, same, ↓reduceIte, Vector.getElem_set_ne _ _ different]

/-- The slot of a banked register depends on the slots alone, not on the visible registers, so that
writes to the visible ones can be left out. -/
theorem slot_of_storage {a b : RegisterFile} (shared : a.sharedHigh = b.sharedHigh)
    (fiq : a.fiqHigh = b.fiqHigh) (links : a.stackLinks = b.stackLinks) {r : RegNum}
    (banked : ¬ (r.val < 8 ∨ r = .pc)) (mode : Mode) : a.slot mode r = b.slot mode r := by
  have highSlots : a.highSlots mode = b.highSlots mode := by
    rw [RegisterFile.highSlots, RegisterFile.highSlots, shared, fiq]
  have stackLink : a.stackLink mode.bank = b.stackLink mode.bank := by
    rw [RegisterFile.stackLink, RegisterFile.stackLink, links]
  rcases RegNum.banked_cases banked with high | rfl | rfl
  · have bound : r.val - 8 < 5 := by omega
    simp only [slot_high _ high bound, highSlots]
  · rw [slot_sp, slot_sp, stackLink]
  · rw [slot_lr, slot_lr, stackLink]

/-! ## Registers as a mode sees them -/

/-- A register that a mode shares with the current one is visible. -/
theorem banked_of_shared {mode : Mode} {r : RegNum} (shared : sharedBy regs.mode mode r = true) :
    regs.banked mode r = regs.get r := by
  rw [banked, if_pos shared]

/-- A register that a mode does not share with the current one is in the slot of that mode. -/
theorem banked_of_private {mode : Mode} {r : RegNum} (apart : ¬ sharedBy regs.mode mode r = true) :
    regs.banked mode r = regs.slot mode r := by
  rw [banked, if_neg apart]

/-- The current mode sees the visible registers. -/
@[simp] theorem banked_mode (r : RegNum) : regs.banked regs.mode r = regs.get r :=
  banked_of_shared regs (sharedBy_self regs.mode r)

/-- Every mode sees a register that exists only once as the current mode does. -/
theorem banked_common {r : RegNum} (common : r.val < 8 ∨ r = .pc) (mode : Mode) :
    regs.banked mode r = regs.get r :=
  banked_of_shared regs (sharedBy_common common regs.mode mode)

@[simp] theorem banked_pc (mode : Mode) : regs.banked mode .pc = regs.pc :=
  banked_common regs (.inr rfl) mode

/-- Modes that share a register see the same value in it, whether it is the visible one or that of
their slot. -/
theorem banked_congr {a b : Mode} {r : RegNum} (shared : sharedBy a b r = true) :
    regs.banked a r = regs.banked b r := by
  have sees : sharedBy regs.mode a r = sharedBy regs.mode b r := by
    cases current : sharedBy regs.mode a r with
    | true => rw [sharedBy_trans current, shared]
    | false =>
        cases other : sharedBy regs.mode b r with
        | false => rfl
        | true =>
            rw [sharedBy_trans other, sharedBy_comm, shared] at current
            cases current
  rw [banked, banked, sees, slot_congr regs shared]

/-! ## Changes of mode -/

@[simp] theorem get_bankOut (r : RegNum) : regs.bankOut.get r = regs.get r := rfl

/-- Banking out writes `r8` to `r12` to the slots on the side of the current mode, and leaves those
on the other side of FIQ alone. -/
theorem highSlots_bankOut (mode : Mode) (i : Nat) (bound : i < 5) :
    (regs.bankOut.highSlots mode)[i] =
      if regs.mode = .fiq ↔ mode = .fiq then regs.visible[8 + i] else (regs.highSlots mode)[i] := by
  by_cases current : regs.mode = .fiq <;> by_cases seen : mode = .fiq <;>
    simp only [highSlots, bankOut, current, seen, ↓reduceIte, iff_self, iff_false, iff_true,
      not_true_eq_false, Vector.getElem_ofFn]

/-- Banking out writes the stack pointer and the link register to the slots of the current bank
only. -/
theorem stackLink_bankOut (bank : Bank) :
    regs.bankOut.stackLink bank =
      if regs.mode.bank = bank then ⟨regs.get .sp, regs.get .lr⟩ else regs.stackLink bank :=
  regs.stackLink_stored regs.mode.bank bank _ _

/-- Once the visible registers are written back, every slot is up to date: it holds what its modes
see, also for the mode that is left. -/
theorem slot_bankOut (mode : Mode) (r : RegNum) :
    regs.bankOut.slot mode r = regs.banked mode r := by
  rcases r.banking_cases with low | high | rfl | rfl | rfl
  · rw [slot_common _ (.inl low), banked_common _ (.inl low), get_bankOut]
  · have back : 8 + (r.val - 8) = r.val := by omega
    have bound : r.val - 8 < 5 := by omega
    rw [slot_high _ high bound, highSlots_bankOut, banked, slot_high _ high bound]
    simp only [sharedBy_high high, back]
    rfl
  · rw [slot_sp, stackLink_bankOut, banked]
    simp only [sharedBy_sp, slot_sp]
    split <;> rfl
  · rw [slot_lr, stackLink_bankOut, banked]
    simp only [sharedBy_lr, slot_lr]
    split <;> rfl
  · rw [slot_common _ (.inr rfl), banked_common _ (.inr rfl), get_bankOut]

@[simp] theorem get_bankIn (mode : Mode) (r : RegNum) :
    (regs.bankIn mode).get r = regs.slot mode r := by
  simp only [get, bankIn, Fin.getElem_fin, Vector.getElem_ofFn, Fin.eta]

/-- The mode that is put into the status is the mode of the registers, whatever the status was. -/
@[simp] theorem mode_withCpsr (status : Word) (mode : Mode) :
    ({ regs with cpsr := Status.withMode status mode } : RegisterFile).mode = mode := by
  simp only [RegisterFile.mode, Status.modeField_withMode, Mode.ofBits?_bits, Option.getD_some]

/-- A change of mode arrives in the mode that was asked for. -/
@[simp] theorem mode_switchMode (target : Mode) : (regs.switchMode target).mode = target := by
  rw [switchMode]
  exact mode_withCpsr _ _ _

/-- After a change of mode the visible registers are those of the new mode, as it saw them before.
Within one bank nothing has to be moved for that. -/
theorem get_switchMode (target : Mode) (r : RegNum) :
    (regs.switchMode target).get r = regs.banked target r := by
  by_cases same : regs.mode.bank = target.bank
  · rw [banked_of_shared regs (sharedBy_of_bank_eq same r)]
    simp only [switchMode, same, ↓reduceIte]
    rfl
  · rw [← slot_bankOut, ← get_bankIn]
    simp only [switchMode, same, ↓reduceIte]
    rfl

/-- A change of mode leaves each slot as it was, or brings it up to date. The slots of the new mode
are not asked for here, as its visible registers stand for them. -/
theorem slot_switchMode {target mode : Mode} {r : RegNum}
    (apart : ¬ sharedBy target mode r = true) :
    (regs.switchMode target).slot mode r =
      if regs.mode.bank = target.bank then regs.slot mode r else regs.banked mode r := by
  have notCommon : ¬ (r.val < 8 ∨ r = .pc) := fun common => apart (sharedBy_common common _ _)
  by_cases same : regs.mode.bank = target.bank
  · simp only [switchMode, same, ↓reduceIte]
    rfl
  · rw [if_neg same, ← slot_bankOut]
    have storage : (regs.switchMode target).sharedHigh = regs.bankOut.sharedHigh ∧
        (regs.switchMode target).fiqHigh = regs.bankOut.fiqHigh ∧
        (regs.switchMode target).stackLinks = regs.bankOut.stackLinks := by
      simp only [switchMode, same, ↓reduceIte, bankIn, and_self]
    exact slot_of_storage storage.1 storage.2.1 storage.2.2 notCommon mode

/-- No mode sees another value in a register after a change of mode. The visible registers are
written to the old slots, and those of the new mode are read from theirs. -/
theorem banked_switchMode (target mode : Mode) (r : RegNum) :
    (regs.switchMode target).banked mode r = regs.banked mode r := by
  by_cases shared : sharedBy target mode r = true
  · rw [banked_of_shared _ (by rw [mode_switchMode]; exact shared), get_switchMode,
      banked_congr regs shared]
  · rw [banked_of_private _ (by rw [mode_switchMode]; exact shared), slot_switchMode _ shared]
    by_cases same : regs.mode.bank = target.bank
    · have apart : ¬ sharedBy regs.mode mode r = true := by
        rw [sharedBy_trans (sharedBy_of_bank_eq same r)]
        exact shared
      rw [if_pos same, banked_of_private regs apart]
    · rw [if_neg same]

/-- The saved statuses depend on nothing but the registers that keep them. -/
theorem savedStatus?_congr {a b : RegisterFile} (same : a.saved = b.saved) (mode : Mode) :
    a.savedStatus? mode = b.savedStatus? mode := by
  rw [savedStatus?, savedStatus?, same]

@[simp] theorem savedStatus?_switchMode (target mode : Mode) :
    (regs.switchMode target).savedStatus? mode = regs.savedStatus? mode := by
  apply savedStatus?_congr
  by_cases same : regs.mode.bank = target.bank
  · simp only [switchMode, same, ↓reduceIte]
  · simp only [switchMode, same, ↓reduceIte]
    rfl

@[simp] theorem cpsr_switchMode (target : Mode) :
    (regs.switchMode target).cpsr = Status.withMode regs.cpsr target := by
  by_cases same : regs.mode.bank = target.bank
  · simp only [switchMode, same, ↓reduceIte]
  · simp only [switchMode, same, ↓reduceIte]
    rfl

/-- What modes see depends on the status through the current mode only. Files that agree in it and
in all that is stored show every mode the same. -/
theorem banked_of_storage {a b : RegisterFile} (mode : a.mode = b.mode)
    (visible : a.visible = b.visible) (shared : a.sharedHigh = b.sharedHigh)
    (fiq : a.fiqHigh = b.fiqHigh) (links : a.stackLinks = b.stackLinks) (seen : Mode)
    (r : RegNum) : a.banked seen r = b.banked seen r := by
  have get : a.get r = b.get r := by
    rw [RegisterFile.get, RegisterFile.get, visible]
  by_cases common : r.val < 8 ∨ r = .pc
  · rw [banked_common a common, banked_common b common, get]
  · rw [banked, banked, mode, get, slot_of_storage shared fiq links common]

/-- A status changes the mode if its mode field names one, and keeps it otherwise. -/
@[simp] theorem mode_setCpsr (status : Word) :
    (regs.setCpsr status).mode = (Mode.ofBits? (Status.modeField status)).getD regs.mode := by
  rw [setCpsr]
  exact mode_withCpsr _ _ _

/-- A status that names a mode is taken over as it stands, with flags, masks and the Thumb bit, and
the registers of this mode become visible. -/
theorem cpsr_setCpsr {status : Word} {mode : Mode}
    (named : Mode.ofBits? (Status.modeField status) = some mode) :
    (regs.setCpsr status).cpsr = status := by
  rw [setCpsr, named, Option.getD_some]
  exact Status.withMode_eq_self named

/-- After a new status the visible registers are those of the mode it leads to. -/
theorem get_setCpsr (status : Word) (r : RegNum) :
    (regs.setCpsr status).get r = regs.banked (regs.setCpsr status).mode r := by
  rw [mode_setCpsr, ← get_switchMode]
  rfl

/-- No mode sees another value in a register after a change of the status. -/
theorem banked_setCpsr (status : Word) (mode : Mode) (r : RegNum) :
    (regs.setCpsr status).banked mode r = regs.banked mode r := by
  rw [← banked_switchMode regs ((Mode.ofBits? (Status.modeField status)).getD regs.mode) mode r]
  have sameMode := (mode_setCpsr regs status).trans (mode_switchMode regs _).symm
  exact banked_of_storage sameMode rfl rfl rfl rfl mode r

@[simp] theorem pc_setCpsr (status : Word) : (regs.setCpsr status).pc = regs.pc := by
  rw [← banked_pc (regs.setCpsr status) .user, banked_setCpsr, banked_pc]

@[simp] theorem savedStatus?_setCpsr (status : Word) (mode : Mode) :
    (regs.setCpsr status).savedStatus? mode = regs.savedStatus? mode := by
  rw [← savedStatus?_switchMode regs ((Mode.ofBits? (Status.modeField status)).getD regs.mode)]
  rfl

/-- Status bits outside the mode field change no register. -/
theorem banked_setFlag {mask : Word} (disjoint : Status.modeMask &&& mask = 0) (value : Bool)
    (mode : Mode) (r : RegNum) : (regs.setFlag mask value).banked mode r = regs.banked mode r :=
  banked_of_storage (mode_setFlag regs disjoint value) rfl rfl rfl rfl mode r

/-! ## Writes -/

/-- A write changes the register for the modes that share it with the current one, and for no
others. All that is written elsewhere in the model comes down to this. -/
theorem banked_set (written : RegNum) (value : Word) (mode : Mode) (r : RegNum) :
    (regs.set written value).banked mode r =
      if r = written ∧ sharedBy regs.mode mode written = true then value
      else regs.banked mode r := by
  by_cases shared : sharedBy regs.mode mode r = true
  · rw [banked_of_shared (regs.set written value) shared, banked_of_shared regs shared, get_set]
    by_cases same : r = written
    · subst same
      simp only [shared, and_self, ↓reduceIte]
    · simp only [same, false_and, ↓reduceIte]
  · have banked : ¬ (r.val < 8 ∨ r = .pc) := fun common => shared (sharedBy_common common _ _)
    have kept : ¬ (r = written ∧ sharedBy regs.mode mode written = true) := by
      rintro ⟨rfl, sharing⟩
      exact shared sharing
    rw [banked_of_private (regs.set written value) shared, banked_of_private regs shared,
      if_neg kept]
    exact slot_of_storage (a := regs.set written value) (b := regs) rfl rfl rfl banked mode

/-- Writing a visible register changes it in some modes, and no other register in any mode. -/
theorem banked_set_of_ne {written r : RegNum} (different : r ≠ written) (value : Word)
    (mode : Mode) : (regs.set written value).banked mode r = regs.banked mode r := by
  rw [banked_set, if_neg fun both => different both.1]

/-- Moving on in the program changes no register but `r15` in any mode. -/
theorem banked_setPc (address : Word) {r : RegNum} (different : r ≠ .pc) (mode : Mode) :
    (regs.setPc address).banked mode r = regs.banked mode r :=
  banked_set_of_ne regs different address mode

/-- Writing the slot of one of `r8` to `r12` changes this slot, for the modes on its side of FIQ.
The others of the five, and those of the other side, are kept. -/
theorem highSlots_setSlot {written : RegNum} (high : 8 ≤ written.val ∧ written.val ≤ 12)
    (owner mode : Mode) (value : Word) {i : Nat} (bound : i < 5) :
    ((regs.setSlot owner written value).highSlots mode)[i] =
      if (owner = .fiq ↔ mode = .fiq) ∧ written.val - 8 = i then value
      else (regs.highSlots mode)[i] := by
  by_cases owned : owner = .fiq <;> by_cases seen : mode = .fiq <;>
    simp only [setSlot, highSlots, high, owned, seen, and_self, iff_self, iff_false, iff_true,
      not_true_eq_false, true_and, false_and, Vector.getElem_set, ↓reduceIte, ↓reduceDIte]

/-- Writing the slot of one of `r8` to `r12` leaves the stack pointers and link registers of all
banks alone. -/
theorem stackLink_setSlot_high {written : RegNum} (high : 8 ≤ written.val ∧ written.val ≤ 12)
    (owner : Mode) (value : Word) (bank : Bank) :
    (regs.setSlot owner written value).stackLink bank = regs.stackLink bank := by
  by_cases owned : owner = .fiq <;>
    simp only [setSlot, high, owned, stackLink, and_self, ↓reduceIte, ↓reduceDIte]

/-- Writing the slot of a stack pointer changes that of the one bank, and keeps the link register
beside it. -/
theorem stackLink_setSlot_sp (owner : Mode) (value : Word) (bank : Bank) :
    (regs.setSlot owner .sp value).stackLink bank =
      if owner.bank = bank then { regs.stackLink owner.bank with sp := value }
      else regs.stackLink bank :=
  regs.stackLink_stored owner.bank bank _ _

/-- Writing the slot of a link register changes that of the one bank, and keeps the stack pointer
beside it. -/
theorem stackLink_setSlot_lr (owner : Mode) (value : Word) (bank : Bank) :
    (regs.setSlot owner .lr value).stackLink bank =
      if owner.bank = bank then { regs.stackLink owner.bank with lr := value }
      else regs.stackLink bank :=
  regs.stackLink_stored owner.bank bank _ _

/-- A slot of `r8` to `r12` that was written shows the value to every mode that shares the register
with its owner, and all other slots are as before. -/
theorem slot_setSlot_high {written r : RegNum} (high : 8 ≤ written.val ∧ written.val ≤ 12)
    (banked : ¬ (r.val < 8 ∨ r = .pc)) (owner mode : Mode) (value : Word) :
    (regs.setSlot owner written value).slot mode r =
      if r = written ∧ sharedBy owner mode written = true then value else regs.slot mode r := by
  rcases RegNum.banked_cases banked with both | rfl | rfl
  · have bound : r.val - 8 < 5 := by omega
    have sameSlot : written.val - 8 = r.val - 8 ↔ r = written := by
      rw [Fin.ext_iff]
      omega
    rw [slot_high _ both bound, slot_high _ both bound, highSlots_setSlot regs high]
    simp only [sharedBy_high high, sameSlot, and_comm]
  · have different : RegNum.sp ≠ written := by
      rintro rfl
      exact absurd high (by decide)
    simp only [slot_sp, stackLink_setSlot_high regs high, different, false_and, ↓reduceIte]
  · have different : RegNum.lr ≠ written := by
      rintro rfl
      exact absurd high (by decide)
    simp only [slot_lr, stackLink_setSlot_high regs high, different, false_and, ↓reduceIte]

/-- A slot of a stack pointer that was written shows the value to every mode of the bank of its
owner, and all other slots are as before. -/
theorem slot_setSlot_sp {r : RegNum} (banked : ¬ (r.val < 8 ∨ r = .pc)) (owner mode : Mode)
    (value : Word) :
    (regs.setSlot owner .sp value).slot mode r =
      if r = .sp ∧ sharedBy owner mode .sp = true then value else regs.slot mode r := by
  rcases RegNum.banked_cases banked with high | rfl | rfl
  · have different : r ≠ .sp := by
      rintro rfl
      exact absurd high (by decide)
    have bound : r.val - 8 < 5 := by omega
    simp only [slot_high _ high bound, different, false_and, ↓reduceIte]
    rfl
  · simp only [slot_sp, stackLink_setSlot_sp, sharedBy_sp, true_and]
    split <;> rfl
  · have different : RegNum.lr ≠ .sp := by decide
    simp only [slot_lr, stackLink_setSlot_sp, different, false_and, ↓reduceIte]
    split
    · rename_i same
      rw [same]
    · rfl

/-- A slot of a link register that was written shows the value to every mode of the bank of its
owner, and all other slots are as before. -/
theorem slot_setSlot_lr {r : RegNum} (banked : ¬ (r.val < 8 ∨ r = .pc)) (owner mode : Mode)
    (value : Word) :
    (regs.setSlot owner .lr value).slot mode r =
      if r = .lr ∧ sharedBy owner mode .lr = true then value else regs.slot mode r := by
  rcases RegNum.banked_cases banked with high | rfl | rfl
  · have different : r ≠ .lr := by
      rintro rfl
      exact absurd high (by decide)
    have bound : r.val - 8 < 5 := by omega
    simp only [slot_high _ high bound, different, false_and, ↓reduceIte]
    rfl
  · have different : RegNum.sp ≠ .lr := by decide
    simp only [slot_sp, stackLink_setSlot_lr, different, false_and, ↓reduceIte]
    split
    · rename_i same
      rw [same]
    · rfl
  · simp only [slot_lr, stackLink_setSlot_lr, sharedBy_lr, true_and]
    split <;> rfl

/-- A write to a slot changes the register for the modes that keep it there. The two families of
slots, one for FIQ and one for stack pointers, are written alike. -/
theorem slot_setSlot {written r : RegNum} (writtenBanked : ¬ (written.val < 8 ∨ written = .pc))
    (banked : ¬ (r.val < 8 ∨ r = .pc)) (owner mode : Mode) (value : Word) :
    (regs.setSlot owner written value).slot mode r =
      if r = written ∧ sharedBy owner mode written = true then value else regs.slot mode r := by
  rcases RegNum.banked_cases writtenBanked with high | rfl | rfl
  · exact regs.slot_setSlot_high high banked owner mode value
  · exact regs.slot_setSlot_sp banked owner mode value
  · exact regs.slot_setSlot_lr banked owner mode value

/-- A write to a slot leaves everything but the slots alone, so that status, saved status and
visible registers need not be looked at again. -/
theorem setSlot_slots (owner : Mode) (written : RegNum) (value : Word) :
    ∃ sharedHigh fiqHigh stackLinks, regs.setSlot owner written value =
      { regs with sharedHigh, fiqHigh, stackLinks } := by
  unfold setSlot
  split
  · split
    · exact ⟨_, _, _, rfl⟩
    · exact ⟨_, _, _, rfl⟩
  · dsimp only
    split
    · exact ⟨_, _, _, rfl⟩
    · split
      · exact ⟨_, _, _, rfl⟩
      · exact ⟨_, _, _, rfl⟩

/-- Slots are not visible, so writing one changes no visible register. -/
@[simp] theorem get_setSlot (owner : Mode) (written : RegNum) (value : Word) (r : RegNum) :
    (regs.setSlot owner written value).get r = regs.get r := by
  obtain ⟨_, _, _, slots⟩ := regs.setSlot_slots owner written value
  rw [slots]
  rfl

@[simp] theorem cpsr_setSlot (owner : Mode) (written : RegNum) (value : Word) :
    (regs.setSlot owner written value).cpsr = regs.cpsr := by
  obtain ⟨_, _, _, slots⟩ := regs.setSlot_slots owner written value
  rw [slots]

@[simp] theorem savedStatus?_setSlot (owner : Mode) (written : RegNum) (value : Word)
    (mode : Mode) :
    (regs.setSlot owner written value).savedStatus? mode = regs.savedStatus? mode := by
  obtain ⟨_, _, _, slots⟩ := regs.setSlot_slots owner written value
  rw [slots]
  rfl

/-- Reaching for a register of User mode does not take the processor there. -/
@[simp] theorem cpsr_setUserRegister (written : RegNum) (value : Word) :
    (regs.setUserRegister written value).cpsr = regs.cpsr := by
  unfold setUserRegister
  split
  · rfl
  · exact cpsr_setSlot regs .user written value

@[simp] theorem savedStatus?_setUserRegister (written : RegNum) (value : Word) (mode : Mode) :
    (regs.setUserRegister written value).savedStatus? mode = regs.savedStatus? mode := by
  unfold setUserRegister
  split
  · rfl
  · exact savedStatus?_setSlot regs .user written value mode

/-- A write to a register of User mode changes it for the modes that share it with User mode,
whichever mode is current and wherever the register is kept at the time. -/
theorem banked_setUserRegister (written : RegNum) (value : Word) (mode : Mode) (r : RegNum) :
    (regs.setUserRegister written value).banked mode r =
      if r = written ∧ sharedBy .user mode written = true then value
      else regs.banked mode r := by
  by_cases current : sharedBy regs.mode .user written = true
  · rw [setUserRegister, if_pos current, banked_set]
    simp only [sharedBy_trans current]
  · have banked : ¬ (written.val < 8 ∨ written = .pc) :=
      fun common => current (sharedBy_common common _ _)
    have sameMode : (regs.setSlot .user written value).mode = regs.mode :=
      mode_of_cpsr_eq (regs.cpsr_setSlot ..)
    rw [setUserRegister, if_neg current]
    by_cases seen : sharedBy regs.mode mode r = true
    · have kept : ¬ (r = written ∧ sharedBy .user mode written = true) := by
        rintro ⟨rfl, sharing⟩
        rw [sharedBy_trans seen, sharedBy_comm] at current
        exact current sharing
      rw [banked_of_shared _ (by rw [sameMode]; exact seen), banked_of_shared regs seen,
        if_neg kept, get_setSlot]
    · have notCommon : ¬ (r.val < 8 ∨ r = .pc) := fun common => seen (sharedBy_common common _ _)
      rw [banked_of_private _ (by rw [sameMode]; exact seen), banked_of_private regs seen,
        slot_setSlot regs banked notCommon]

/-! ## Saved status registers -/

@[simp] theorem cpsr_setSpsr (status : Word) : (regs.setSpsr status).cpsr = regs.cpsr := by
  unfold setSpsr
  split <;> rfl

@[simp] theorem get_setSpsr (status : Word) (r : RegNum) :
    (regs.setSpsr status).get r = regs.get r := by
  unfold setSpsr
  split <;> rfl

@[simp] theorem mode_setSpsr (status : Word) : (regs.setSpsr status).mode = regs.mode :=
  mode_of_cpsr_eq (regs.cpsr_setSpsr status)

/-- A saved status is no general register of any mode. -/
@[simp] theorem banked_setSpsr (status : Word) (mode : Mode) (r : RegNum) :
    (regs.setSpsr status).banked mode r = regs.banked mode r := by
  unfold setSpsr
  split
  · exact banked_of_storage rfl rfl rfl rfl rfl mode r
  · rfl

/-- A write of the saved status reaches that of the current mode, if this has one, and no other.
User and System mode have none, and there nothing is written. -/
theorem savedStatus?_setSpsr (status : Word) (mode : Mode) :
    (regs.setSpsr status).savedStatus? mode =
      if mode = regs.mode then (regs.savedStatus? mode).map fun _ => status
      else regs.savedStatus? mode := by
  cases current : regs.mode.bank.savedIndex? with
  | none =>
      have none : regs.savedStatus? regs.mode = none := by
        rw [savedStatus?, current]
        rfl
      have kept : regs.setSpsr status = regs := by
        simp only [setSpsr, current]
      rw [kept]
      by_cases same : mode = regs.mode
      · rw [if_pos same, same, none]
        rfl
      · rw [if_neg same]
  | some i =>
      simp only [setSpsr, current, savedStatus?]
      by_cases same : mode = regs.mode
      · subst same
        simp only [current, Option.map_some, Fin.getElem_fin, Vector.getElem_set_self, ↓reduceIte]
      · rw [if_neg same]
        cases other : mode.bank.savedIndex? with
        | none => rfl
        | some j =>
            have different : i.val ≠ j.val := by
              intro equal
              have stored := current.trans (congrArg some (Fin.ext equal))
              have banks := Bank.savedIndex?_inj stored other
              rcases (Mode.bank_eq_iff _ _).mp banks with equalModes | ⟨user, _⟩ | ⟨system, _⟩
              · exact same equalModes.symm
              · rw [user] at current
                cases current
              · rw [system] at current
                cases current
            simp only [Option.map_some, Fin.getElem_fin, Vector.getElem_set_ne _ _ different]

/-- Restoring the saved status changes no register. -/
@[simp] theorem banked_restoreStatus (mode : Mode) (r : RegNum) :
    regs.restoreStatus.banked mode r = regs.banked mode r := by
  unfold restoreStatus
  split
  · exact banked_setCpsr regs _ mode r
  · rfl

/-- Restoring a status copies it; what was saved stays saved, in every mode. -/
@[simp] theorem savedStatus?_restoreStatus (mode : Mode) :
    regs.restoreStatus.savedStatus? mode = regs.savedStatus? mode := by
  unfold restoreStatus
  split
  · exact savedStatus?_setCpsr regs _ mode
  · rfl

/-! ## Exceptions -/

/-- The mode that takes an exception has a bank of its own. -/
theorem bank_targetMode (e : Exception) (mode : Mode) :
    e.targetMode.bank = mode.bank ↔ mode = e.targetMode := by
  cases e <;> cases mode <;> decide

/-- An exception goes on at its vector. -/
@[simp] theorem pc_enterException (e : Exception) : (regs.enterException e).pc = e.vector := by
  rw [enterException, pc_setPc]

/-- An exception enters the mode that handles it. -/
@[simp] theorem mode_enterException (e : Exception) :
    (regs.enterException e).mode = e.targetMode := by
  unfold enterException
  rw [setPc, mode_set]
  split
  · rw [mode_setFlag _ (by decide), mode_setFlag _ (by decide), mode_setThumb, mode_set,
      mode_setSpsr, mode_switchMode]
  · rw [mode_setFlag _ (by decide), mode_setThumb, mode_set, mode_setSpsr, mode_switchMode]

/-- Handlers of exceptions are entered in ARM state. -/
@[simp] theorem thumb_enterException (e : Exception) :
    (regs.enterException e).thumb = false := by
  unfold enterException
  rw [setPc, thumb_set]
  split
  · rw [thumb, flag_setFlag_of_disjoint _ (by decide), flag_setFlag_of_disjoint _ (by decide),
      ← thumb, thumb_setThumb]
  · rw [thumb, flag_setFlag_of_disjoint _ (by decide), ← thumb, thumb_setThumb]

/-- Every exception masks interrupts. -/
theorem irqMask_enterException (e : Exception) :
    (regs.enterException e).flag Status.irqMask = true := by
  unfold enterException
  rw [setPc, flag_set]
  split
  · rw [flag_setFlag_of_disjoint _ (by decide), flag_setFlag_self _ (by decide)]
  · rw [flag_setFlag_self _ (by decide)]

/-- Most exceptions leave fast interrupts as they are. Only reset and the fast interrupt itself mask
them. -/
theorem fiqMask_enterException {e : Exception} (unmasked : e.masksFiq = false) :
    (regs.enterException e).flag Status.fiqMask = regs.flag Status.fiqMask := by
  have entered : (regs.enterException e).flag Status.fiqMask =
      (Status.withMode regs.cpsr e.targetMode &&& Status.fiqMask != 0) := by
    unfold enterException
    rw [setPc, flag_set, unmasked, if_neg Bool.false_ne_true,
      flag_setFlag_of_disjoint _ (by decide), setThumb, flag_setFlag_of_disjoint _ (by decide),
      flag_set, flag, cpsr_setSpsr, cpsr_switchMode]
  rw [entered, Status.withMode_and (by decide), flag]

/-- Taking an exception changes one register besides `r15`: the link register of its target
mode. -/
theorem banked_enterException (e : Exception) (mode : Mode) {r : RegNum} (notPc : r ≠ .pc) :
    (regs.enterException e).banked mode r =
      if r = .lr ∧ mode = e.targetMode then regs.pc + e.linkOffset else regs.banked mode r := by
  have entered : (regs.enterException e).banked mode r =
      (((regs.switchMode e.targetMode).setSpsr regs.cpsr).set .lr
        (regs.pc + e.linkOffset)).banked mode r := by
    unfold enterException
    rw [banked_setPc _ _ notPc]
    split
    · rw [banked_setFlag _ (by decide), banked_setFlag _ (by decide), setThumb,
        banked_setFlag _ (by decide)]
    · rw [banked_setFlag _ (by decide), setThumb, banked_setFlag _ (by decide)]
  rw [entered, banked_set, mode_setSpsr, mode_switchMode, banked_setSpsr, banked_switchMode]
  simp only [sharedBy_lr, bank_targetMode]

/-- Taking an exception saves the status, as it was before, in the saved status of its target mode,
and changes no other saved status. -/
theorem savedStatus?_enterException (e : Exception) (mode : Mode) :
    (regs.enterException e).savedStatus? mode =
      if mode = e.targetMode then some regs.cpsr else regs.savedStatus? mode := by
  have entered : (regs.enterException e).savedStatus? mode =
      ((regs.switchMode e.targetMode).setSpsr regs.cpsr).savedStatus? mode := by
    unfold enterException
    rw [setPc, savedStatus?_set]
    split
    · rw [savedStatus?_setFlag, savedStatus?_setFlag, setThumb, savedStatus?_setFlag,
        savedStatus?_set]
    · rw [savedStatus?_setFlag, setThumb, savedStatus?_setFlag, savedStatus?_set]
  have saved : ∃ status, regs.savedStatus? e.targetMode = some status := by
    cases e <;> exact ⟨_, rfl⟩
  rw [entered, savedStatus?_setSpsr, mode_switchMode, savedStatus?_switchMode]
  by_cases same : mode = e.targetMode
  · obtain ⟨status, present⟩ := saved
    rw [if_pos same, if_pos same, same, present]
    rfl
  · rw [if_neg same, if_neg same]

end RegisterFile

end Handheld
