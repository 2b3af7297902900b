import Handheld.Proofs.Memory.Peripherals
import Handheld.Proofs.Memory.Stores

/-!
# Acknowledging requests

A request for an interrupt is a bit in one of two register bytes. A write to the peripherals writes
the bytes of its unit one by one (`Bus.io_write`), so that of all the stores of a program exactly
those that write a one over a request clear it, and none makes one
(`Bus.getLsbD_interruptFlags_perform`).
-/

namespace Handheld

/-! ## Writes to the peripherals -/

/-- Writes bytes of the peripheral registers one after the other. -/
def IoRegisters.writeAll (io : IoRegisters) (cells : List (Word × Byte)) : IoRegisters :=
  cells.foldl (fun io cell => io.writeByte (Bus.ioOffset cell.1) cell.2) io

/-- Writing one list of bytes after another is writing both in one go. -/
theorem IoRegisters.writeAll_append (io : IoRegisters) (first second : List (Word × Byte)) :
    io.writeAll (first ++ second) = (io.writeAll first).writeAll second :=
  List.foldl_append

namespace Bus

/-- The registers repeat every kilobyte, so an offset is the remainder of the address. -/
theorem toNat_ioOffset (address : Word) : (ioOffset address).toNat = address.toNat % 1024 :=
  BitVec.extractLsb'_toNat ..

/-- An aligned halfword starts with the even register byte. -/
theorem ioOffset_alignHalf (address : Word) :
    ioOffset address.alignHalf = (ioOffset address).even := by
  unfold ioOffset Word.alignHalf IoOffset.even
  rw [BitVec.extractLsb'_and]
  rfl

/-- Its second byte is the odd one. -/
theorem ioOffset_alignHalf_or (address : Word) :
    ioOffset (address.alignHalf ||| 1) = (ioOffset address).odd := by
  have bit : BitVec.extractLsb' 0 10 (1 : Word) = 1 := by decide
  rw [IoOffset.odd_eq_even_or, ← ioOffset_alignHalf]
  unfold ioOffset
  rw [BitVec.extractLsb'_or, bit]

/-- Every register byte has one address. -/
theorem ioOffset_inj {a b : Word} (peripheralA : Region.ofAddress a = .io)
    (peripheralB : Region.ofAddress b = .io) : ioOffset a = ioOffset b ↔ a = b := by
  rw [Region.ofAddress_eq_iff] at peripheralA peripheralB
  rw [← BitVec.toNat_inj, ← BitVec.toNat_inj, toNat_ioOffset, toNat_ioOffset]
  simp only [Region.Contains] at peripheralA peripheralB
  omega

/-- An aligned word is two aligned halfwords, the lower one first, as the peripherals take it. -/
theorem unit_word (address : Word) (content : Nat → Byte) :
    unit .word address content =
      unit .half address.alignWord content ++
        unit .half (address.alignWord ||| 2) fun i => content (2 + i) := by
  have upper : (address.alignWord ||| 2).toNat = address.alignWord.toNat + 2 :=
    address.toNat_alignWord_or (by decide)
  have lowPlace {i : Nat} (inside : i < 2) :
      Width.half.place address.alignWord i = Width.word.place address i := by
    rw [← BitVec.toNat_inj, Width.toNat_place _ _ inside,
      Width.toNat_place _ _ (Nat.lt_trans inside (by decide)), Word.toNat_alignWord]
    simp only [Width.bytes]
    omega
  have highPlace {i : Nat} (inside : i < 2) :
      Width.half.place (address.alignWord ||| 2) i = Width.word.place address (2 + i) := by
    rw [← BitVec.toNat_inj, Width.toNat_place _ _ inside,
      Width.toNat_place _ _ (Nat.add_lt_add_left inside 2), upper, Word.toNat_alignWord]
    simp only [Width.bytes]
    omega
  show [(Width.word.place address 0, content 0), (Width.word.place address 1, content 1),
      (Width.word.place address 2, content 2), (Width.word.place address 3, content 3)] =
    [(Width.half.place address.alignWord 0, content 0),
      (Width.half.place address.alignWord 1, content 1),
      (Width.half.place (address.alignWord ||| 2) 0, content 2),
      (Width.half.place (address.alignWord ||| 2) 1, content 3)]
  rw [lowPlace Nat.two_pos, lowPlace Nat.one_lt_two, highPlace Nat.two_pos,
    highPlace Nat.one_lt_two]

variable (bus : Bus)

/-- A halfword that is written to a register is two register bytes, the low one first. Each of them
has its own rule. -/
theorem io_write16 {address : Word} (peripheral : Region.ofAddress address = .io)
    (value : Half) {content : Nat → Byte} (low : content 0 = value.low)
    (high : content 1 = value.high) :
    (bus.write16 address value).io = bus.io.writeAll (unit .half address content) := by
  have aligned : address.alignHalf.alignHalf = address.alignHalf := by
    rw [Word.alignHalf_eq_self_iff, Word.toNat_alignHalf]
    exact Nat.mul_mod_left _ _
  have even := ioOffset_alignHalf address.alignHalf
  have odd := ioOffset_alignHalf_or address.alignHalf
  rw [aligned] at even odd
  have cells : unit .half address content =
      [(address.alignHalf, value.low), (address.alignHalf ||| 1, value.high)] := by
    rw [← Width.place_half_one, ← Width.place_half, ← low, ← high]
    rfl
  unfold write16
  dsimp only
  rw [Region.ofAddress_alignHalf, if_pos peripheral, cells]
  show _ = (bus.io.writeByte (ioOffset address.alignHalf) value.low).writeByte
    (ioOffset (address.alignHalf ||| 1)) value.high
  rw [odd, IoRegisters.writeHalf, ← even]

/-- A write of any width to the peripherals writes the bytes of its unit one by one, from the lowest
address on. -/
theorem io_write (width : Width) {address : Word} (peripheral : Region.ofAddress address = .io)
    (value : BitVec width.bits) :
    (bus.write width address value).io =
      bus.io.writeAll (unit width address fun i => value.extractLsb' (8 * i) 8) := by
  cases width with
  | byte =>
      have whole : BitVec.extractLsb' 0 8 value = value := BitVec.extractLsb'_eq_self
      change _ = bus.io.writeByte (ioOffset (Width.byte.place address 0))
        (BitVec.extractLsb' 0 8 value)
      rw [Width.place_byte, whole]
      simp only [write, write8, peripheral]
  | half => exact bus.io_write16 peripheral value rfl rfl
  | word =>
      have first : Region.ofAddress address.alignWord = .io := by
        rw [Region.ofAddress_alignWord, peripheral]
      have second : Region.ofAddress (address.alignWord ||| 2) = .io := by
        rw [Region.ofAddress_lane address (by decide), first]
      rw [unit_word, IoRegisters.writeAll_append, ← bus.io_write16 first (Word.lowHalf value),
        ← io_write16 _ second (Word.highHalf value)]
      · rfl
      · exact (Half.low_extract value 16).symm
      · exact (Half.high_extract value 16).symm
      · exact (Half.low_extract value 0).symm
      · exact (Half.high_extract value 0).symm

end Bus

/-! ## Bits of the requests -/

/-- The address of the byte that holds a request. -/
def requestAddress (i : Nat) : Word := BitVec.ofNat 32 (0x04000202 + i / 8)

/-- Bit `i` of the request register is in its first byte for the low eight sources and in its second
for the others. -/
theorem toNat_requestAddress {i : Nat} (inHalf : i < 16) :
    (requestAddress i).toNat = 0x04000202 + i / 8 := by
  rw [requestAddress, BitVec.toNat_ofNat]
  omega

/-- Both bytes of the request register are I/O registers. -/
theorem ofAddress_requestAddress {i : Nat} (inHalf : i < 16) :
    Region.ofAddress (requestAddress i) = .io := by
  rw [Region.ofAddress_eq_iff, toNat_requestAddress inHalf]
  simp only [Region.Contains]
  omega

/-- The two addresses of the request register are those of the offsets that the interrupt unit keeps
its requests at. -/
theorem ioOffset_requestAddress {i : Nat} (inHalf : i < 16) :
    Bus.ioOffset (requestAddress i) =
      if i < 8 then IoOffset.interruptFlags.even else IoOffset.interruptFlags.odd := by
  rw [← BitVec.toNat_inj, Bus.toNat_ioOffset, toNat_requestAddress inHalf]
  have low : IoOffset.interruptFlags.even.toNat = 0x202 := by decide
  have high : IoOffset.interruptFlags.odd.toNat = 0x203 := by decide
  split
  · rw [low]
    omega
  · rw [high]
    omega

/-- Both bytes clear the ones that are written to them. -/
theorem writeRule_requestAddress {i : Nat} (inHalf : i < 16) :
    (Bus.ioOffset (requestAddress i)).writeRule = .clearOnes := by
  rw [ioOffset_requestAddress inHalf]
  split <;> decide

namespace IoRegisters

variable (io : IoRegisters) {i : Nat}

/-- A request is a bit of the register byte at its address, so that what is known of bytes is known
of requests. -/
theorem getLsbD_interruptFlags (inHalf : i < 16) :
    io.interruptFlags.getLsbD i =
      (io.readByte (Bus.ioOffset (requestAddress i))).getLsbD (i % 8) := by
  rw [interruptFlags, getLsbD_readHalf, ioOffset_requestAddress inHalf]
  split
  · rename_i low
    rw [Nat.mod_eq_of_lt low]
  · have high : i - 8 = i % 8 := by omega
    rw [high]

/-- A byte written by the program clears the requests over which it writes ones, and a byte for any
other register clears none. -/
theorem getLsbD_interruptFlags_writeByte (inHalf : i < 16) (offset : IoOffset) (value : Byte) :
    (io.writeByte offset value).interruptFlags.getLsbD i =
      (io.interruptFlags.getLsbD i &&
        !(offset == Bus.ioOffset (requestAddress i) && value.getLsbD (i % 8))) := by
  rw [getLsbD_interruptFlags _ inHalf, getLsbD_interruptFlags _ inHalf, readByte_writeByte]
  by_cases hit : Bus.ioOffset (requestAddress i) = offset
  · have inByte : i % 8 < 8 := Nat.mod_lt _ (by decide)
    rw [if_pos hit, ← hit, writeRule_requestAddress inHalf, beq_self_eq_true, Bool.true_and,
      IoWriteRule.stored, BitVec.getLsbD_and, BitVec.getLsbD_not, decide_eq_true inByte,
      Bool.true_and]
  · rw [if_neg hit, beq_eq_false_iff_ne.mpr (Ne.symm hit), Bool.false_and, Bool.not_false,
      Bool.and_true]

/-- A request survives any writes but those of a one over it. By induction on the bytes that are
written. -/
theorem getLsbD_interruptFlags_writeAll (inHalf : i < 16) (cells : List (Word × Byte)) :
    (io.writeAll cells).interruptFlags.getLsbD i =
      (io.interruptFlags.getLsbD i && !cells.any fun cell =>
        Bus.ioOffset cell.1 == Bus.ioOffset (requestAddress i) && cell.2.getLsbD (i % 8)) := by
  induction cells generalizing io with
  | nil => rw [List.any_nil, Bool.not_false, Bool.and_true]; rfl
  | cons first rest ih =>
      refine (ih (io.writeByte (Bus.ioOffset first.1) first.2)).trans ?_
      rw [getLsbD_interruptFlags_writeByte _ inHalf, List.any_cons, Bool.not_or, Bool.and_assoc]

end IoRegisters

/-! ## Stores -/

/-- Whether a store writes a one over a request. -/
def Store.acknowledges (store : Store) (i : Nat) : Bool :=
  store.bytes.any fun cell => cell.1 == requestAddress i && cell.2.getLsbD (i % 8)

/-- A store acknowledges a request if one of its bytes goes to the request and has a one there,
whatever its width and its other bytes. -/
theorem Store.acknowledges_iff (store : Store) (i : Nat) :
    store.acknowledges i = true ↔
      ∃ byte, (requestAddress i, byte) ∈ store.bytes ∧ byte.getLsbD (i % 8) = true := by
  unfold acknowledges
  rw [List.any_eq_true]
  constructor
  · rintro ⟨⟨address, byte⟩, member, hit⟩
    rw [Bool.and_eq_true, beq_iff_eq] at hit
    exact ⟨byte, hit.1 ▸ member, hit.2⟩
  · rintro ⟨byte, member, one⟩
    exact ⟨_, member, by rw [beq_self_eq_true, one]; rfl⟩

/-- The bytes of one store go to the region of its address, so a store to memory acknowledges
nothing. -/
theorem Store.ofAddress_of_mem_bytes {store : Store} {cell : Word × Byte}
    (member : cell ∈ store.bytes) :
    Region.ofAddress cell.1 = Region.ofAddress store.address := by
  obtain ⟨i, inside, rfl⟩ := (Bus.mem_unit store.width store.address).mp member
  exact store.width.ofAddress_place store.address inside

namespace Bus

variable (bus : Bus) {i : Nat}

/-- One store clears exactly the requests that it acknowledges, and it raises none. Stores to memory
and to other registers clear none. -/
theorem getLsbD_interruptFlags_write (inHalf : i < 16) (store : Store) :
    (bus.write store.width store.address store.value).io.interruptFlags.getLsbD i =
      (bus.io.interruptFlags.getLsbD i && !store.acknowledges i) := by
  by_cases peripheral : Region.ofAddress store.address = .io
  · rw [io_write _ _ peripheral, IoRegisters.getLsbD_interruptFlags_writeAll _ inHalf]
    have same : store.acknowledges i = store.bytes.any fun cell =>
        ioOffset cell.1 == ioOffset (requestAddress i) && cell.2.getLsbD (i % 8) := by
      rw [Bool.eq_iff_iff, Store.acknowledges, List.any_eq_true, List.any_eq_true]
      refine exists_congr fun cell => and_congr_right fun member => ?_
      have inside := (Store.ofAddress_of_mem_bytes member).trans peripheral
      rw [Bool.and_eq_true, Bool.and_eq_true, beq_iff_eq, beq_iff_eq,
        ioOffset_inj inside (ofAddress_requestAddress inHalf)]
    rw [same]
    rfl
  · have missed : store.acknowledges i = false := by
      rw [← Bool.not_eq_true, Store.acknowledges_iff]
      rintro ⟨byte, member, _⟩
      exact peripheral ((Store.ofAddress_of_mem_bytes member).symm.trans
        (ofAddress_requestAddress inHalf))
    rw [write_eq_storeAll _ _ _ peripheral, io_storeAll, missed, Bool.not_false, Bool.and_true]

/-- Stores clear the requests over which one of them writes a one, and no other. By induction on the
stores of the instruction. -/
theorem getLsbD_interruptFlags_perform (inHalf : i < 16) (stores : List Store) :
    (bus.perform stores).io.interruptFlags.getLsbD i =
      (bus.io.interruptFlags.getLsbD i && !stores.any (·.acknowledges i)) := by
  induction stores generalizing bus with
  | nil => rw [List.any_nil, Bool.not_false, Bool.and_true]; rfl
  | cons first rest ih =>
      rw [perform_cons, ih, getLsbD_interruptFlags_write _ inHalf, List.any_cons, Bool.not_or,
        Bool.and_assoc]

end Bus

end Handheld
