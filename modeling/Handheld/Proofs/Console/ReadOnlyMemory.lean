import Handheld.Proofs.Console.HardwareState
import Handheld.Proofs.Memory.Backing
import Handheld.Proofs.Memory.BootProgram

/-!
# Memory that nothing writes

No tick changes the boot ROM or the image in the game pak (`Console.bios_tick`,
`Console.gamePak_tick`). So the boot ROM always holds the boot program (`Console.bios_reachable`)
and the game pak what fits of the image last put into it (`Console.gamePak_run`).
`Console.read_only_memory_intact` draws from this what every address stands for and what programs
read there.
-/

namespace Handheld

/-- A word of a program in the Game Pak is the instruction at its place, and zero after the end of
the program within the first mirror. -/
theorem Bus.read32_gamePak {bus : Bus} {words : List Word}
    (inserted : bus.gamePak = (words.flatMap Word.bytes).toArray) {address : Word} {i : Nat}
    (place : address.toNat = 0x8000000 + 4 * i) (small : i < 0x800000) :
    bus.read32 address = words[i]?.getD 0 := by
  have aligned : address.toNat % 4 = 0 := by omega
  refine read32_of_lanes aligned fun lane inWord => ?_
  have position := address.toNat_alignWord_or inWord
  rw [(Word.alignWord_eq_self_iff address).mpr aligned, place] at position
  have region : Region.ofAddress (address ||| lane) = .gamePak := by
    rw [Region.ofAddress_eq_iff, position]
    exact ⟨by omega, by omega⟩
  have byte : (0x8000000 + 4 * i + lane.toNat) % 0x2000000 = 4 * i + lane.toNat := by omega
  have word : (4 * i + lane.toNat) / 4 = i := by omega
  have within : (4 * i + lane.toNat) % 4 = lane.toNat := by omega
  rw [bus.read8_eq_backing, region, if_neg (by decide), bus.backing?_gamePak region, inserted,
    position, byte, List.getElem?_toArray, BootRom.getElem?_flatMap_bytes, word, within]
  cases words[i]? with
  | none => exact BitVec.extractLsb'_zero.symm
  | some word => rfl

/-- The instruction that a processor in ARM state fetches from a program in the Game Pak is the one
at its place. -/
theorem Machine.fetchWord_gamePak {m : Machine} {words : List Word}
    (inserted : m.bus.gamePak = (words.flatMap Word.bytes).toArray) {pc : Word}
    (here : m.regs.pc = pc) {i : Nat} (place : pc.toNat = 0x8000000 + 4 * i)
    (small : i < 0x800000) : m.fetchWord = words[i]?.getD 0 := by
  have aligned : pc.toNat % 4 = 0 := by omega
  rw [fetchWord, here, (Word.alignWord_eq_self_iff pc).mpr aligned]
  exact Bus.read32_gamePak inserted place small

namespace Console

/-! ## The boot ROM -/

theorem bios_tick (console : Console) : console.tick.bus.bios = console.bus.bios :=
  bus_view_tick Bus.bios (·.bios) (fun _ _ => rfl) console

/-- Nothing changes the boot ROM: neither programs nor the clock, nor anyone who operates the
console. -/
theorem bios_reachable {console : Console} (reachable : console.Reachable) :
    console.bus.bios = BootRom.image := by
  have invariant : OperationInvariant fun console => console.bus.bios = BootRom.image :=
    { powerOn := fun _ => rfl
      loadRom := fun _ _ boot => boot
      skipBios := fun _ boot => boot
      tick := fun console boot => (bios_tick console).trans boot
      setKey := fun _ _ _ boot => boot
      addBreakpoint := fun _ _ _ boot => boot
      removeBreakpoint := fun _ _ _ boot => boot
      enableDebugger := fun _ _ boot => boot
      setStopped := fun _ _ boot => boot
      reset := fun _ _ => rfl }
  exact invariant.reachable reachable

/-! ## The game pak -/

/-- The image that an operation puts into the game pak. -/
def Operation.loads? : Operation → Option (Array Byte)
  | loadRom image => some image
  | loadTestRom => some TestCartridge.image
  | _ => none

/-- The image last put into the game pak since power-on or reset; an empty one if there is none. -/
def cartridge (operations : List Operation) : Array Byte :=
  ((sinceReset operations).findSome? Operation.loads?).getD #[]

theorem cartridge_concat (operations : List Operation) (last : Operation) :
    cartridge (operations ++ [last]) =
      if last.isReset then #[] else last.loads?.getD (cartridge operations) := by
  unfold cartridge
  rw [findSome?_sinceReset_concat]
  split
  · rfl
  · cases last.loads? <;> rfl

theorem gamePak_tick (console : Console) : console.tick.bus.gamePak = console.bus.gamePak :=
  bus_view_tick Bus.gamePak (·.gamePak) (fun _ _ => rfl) console

theorem gamePak_loadRom (console : Console) (image : Array Byte) :
    (console.loadRom image).bus.gamePak = image.take gamePakCapacity := rfl

/-- Only a reset and a new image change what the Game Pak holds. A reset empties it, and an image is
kept as far as it fits. -/
theorem gamePak_apply (operation : Operation) (console : Console) :
    (operation.apply console).bus.gamePak =
      if operation.isReset then #[]
      else (operation.loads?.map (·.take gamePakCapacity)).getD console.bus.gamePak := by
  cases operation with
  | step | tick => exact gamePak_tick console
  | tickMultiple count => exact tickMultiple_kept (·.bus.gamePak) gamePak_tick console count
  | loadRom image => exact gamePak_loadRom console image
  | loadTestRom =>
      rw [Operation.apply, loadTestRom, gamePak_loadRom]
      simp only [Operation.isReset, Operation.loads?, Bool.false_eq_true, ↓reduceIte,
        Option.map_some, Option.getD_some]
  | skipBios | setKey | addBreakpoint | removeBreakpoint | enableDebugger | setStopped
  | reset => rfl

/-- After any operations the Game Pak holds what fits of the image last put into it since the last
reset. By induction on the operations, from their end. -/
theorem gamePak_run (config : ConsoleConfig) (operations : List Operation) :
    ((powerOn config).run operations).bus.gamePak =
      (cartridge operations).take gamePakCapacity := by
  induction operations using List.reverseRecOn with
  | nil => rfl
  | append_singleton earlier last ih =>
      rw [run_concat, gamePak_apply, cartridge_concat, ih]
      split
      · rfl
      · cases last.loads? <;> rfl

/-- Whatever is done to a console from power-on on and whatever its programs store: the boot ROM
holds the boot program followed by zeros, the game pak holds the first 32 MiB of the image last put
into it, and the storage of every region keeps its size. So outside the open bus and the game pak
every address stands for a byte inside the storage of its region, an address of the game pak reads
the byte of the image at its lowest 25 bits or zero past the end, and there is no byte to read at
other addresses of the game pak and of the open bus only. -/
theorem read_only_memory_intact (config : ConsoleConfig) (operations : List Operation) :
    let bus := ((powerOn config).run operations).bus
    let image := cartridge operations
    (bus.bios.toList = BootRom.program.flatMap Word.bytes ++
        List.replicate (0x4000 - 4 * BootRom.program.length) 0) ∧
      (bus.gamePak.size = min image.size 0x2000000 ∧
        ∀ i < 0x2000000, bus.gamePak[i]? = image[i]?) ∧
      (∀ region ≠ Region.gamePak, ∀ offset,
        (bus.stored? region offset).isSome = true ↔ offset < region.size) ∧
      (∀ address, Region.ofAddress address ≠ .openBus → Region.ofAddress address ≠ .gamePak →
        ∃ offset, (Region.ofAddress address).offset? address = some offset ∧
          offset < (Region.ofAddress address).size ∧
          (bus.stored? (Region.ofAddress address) offset).isSome = true) ∧
      (∀ address, Region.ofAddress address = .gamePak →
        bus.read8 address = image[address.toNat % 0x2000000]?.getD 0) ∧
      ∀ address,
        (bus.read8 address =
          if Region.ofAddress address = .io then bus.io.cpuReadByte (Bus.ioOffset address)
          else (bus.backing? address).getD openBusValue) ∧
        (bus.backing? address = none ↔
          Region.ofAddress address = .openBus ∨
            Region.ofAddress address = .gamePak ∧
              image.size ≤ address.toNat % 0x2000000) := by
  intro bus image
  have kept : bus.gamePak = image.take gamePakCapacity := gamePak_run config operations
  have size : bus.gamePak.size = min image.size 0x2000000 := by
    rw [kept, Array.take_eq_extract, Array.size_extract, Nat.sub_zero, Nat.min_comm]
    rfl
  have bytes (i : Nat) (inside : i < 0x2000000) : bus.gamePak[i]? = image[i]? := by
    rw [kept, getElem?_take_gamePakCapacity image inside]
  have boot : bus.bios = BootRom.image := bios_reachable ⟨config, operations, rfl⟩
  refine ⟨?_, ⟨size, bytes⟩, fun region fixed => bus.isSome_stored? fixed, ?_, ?_, ?_⟩
  · rw [boot, BootRom.toList_image]
  · intro address mapped notGamePak
    obtain ⟨offset, folded, inside⟩ := Region.offset?_lt_size mapped address
    exact ⟨offset, folded, inside, (bus.isSome_stored? notGamePak offset).mpr inside⟩
  · intro address gamePak
    have notIo : Region.ofAddress address ≠ .io := by
      rw [gamePak]
      decide
    rw [bus.read8_eq_backing, if_neg notIo, bus.backing?_gamePak gamePak,
      bytes _ (Nat.mod_lt _ (by decide))]
    rfl
  · intro address
    refine ⟨bus.read8_eq_backing address, (bus.backing?_eq_none_iff address).trans ?_⟩
    -- An offset inside 32 MiB is past the stored part if and only if it is past the image.
    have folded : address.toNat % 0x2000000 < 0x2000000 := Nat.mod_lt _ (by decide)
    have past : bus.gamePak.size ≤ address.toNat % 0x2000000 ↔
        image.size ≤ address.toNat % 0x2000000 := by
      omega
    rw [past]

end Console

end Handheld
