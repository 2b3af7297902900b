import Handheld.Proofs.Memory.Stores

/-!
# What a program can do to the bus

A store of any width comes down to writes of single bytes, each of them either to a memory or to a
register of a peripheral (`Bus.Written`). Whatever survives both kinds of write therefore survives
the stores of every instruction (`Bus.Written.perform`); the boot ROM and the image in the game pak
are the first examples (`Bus.Written.bios`, `Bus.Written.gamePak`).
-/

namespace Handheld

/-- The buses that a program can make of `start`, byte by byte. -/
inductive Bus.Written (start : Bus) : Bus → Prop
  | unchanged : Written start start
  /-- A byte of memory is written. -/
  | memory {bus : Bus} (written : Written start bus) (address : Word) (value : Byte) :
    Written start (bus.store8 address value)
  /-- A byte of a peripheral register is written. -/
  | peripheral {bus : Bus} (written : Written start bus) (offset : IoOffset) (value : Byte) :
    Written start { bus with io := bus.io.writeByte offset value }

namespace Bus.Written

variable {start bus : Bus}

theorem write16 (written : Written start bus) (address : Word) (value : Half) :
    Written start (bus.write16 address value) := by
  unfold Bus.write16
  dsimp only
  split
  · exact (written.peripheral _ _).peripheral _ _
  · exact (written.memory _ _).memory _ _

theorem write32 (written : Written start bus) (address value : Word) :
    Written start (bus.write32 address value) :=
  (written.write16 _ _).write16 _ _

theorem write8 (written : Written start bus) (address : Word) (value : Byte) :
    Written start (bus.write8 address value) := by
  unfold Bus.write8
  split
  · exact written.peripheral _ _
  · exact written.write16 _ _
  · exact written.write16 _ _
  · exact written
  · exact written.memory _ _

theorem storeWords (m : Machine) (writes : List (Word × Word)) :
    Written m.bus (m.storeWords writes).bus := by
  have onward : ∀ bus, Written bus m.bus → Written bus (m.storeWords writes).bus := by
    induction writes generalizing m with
    | nil => exact fun _ written => written
    | cons first rest ih =>
        intro bus written
        exact ih (m.storeWord first.1 first.2) bus (written.write32 _ _)
  exact onward m.bus .unchanged

theorem perform (written : Written start bus) (stores : List Store) :
    Written start (bus.perform stores) := by
  induction stores generalizing bus with
  | nil => exact written
  | cons first rest ih =>
      apply ih
      obtain ⟨width, address, value⟩ := first
      cases width with
      | byte => exact written.write8 address value
      | half => exact written.write16 address value
      | word => exact written.write32 address value

/-- Programs do not change the boot ROM, whatever they store. By induction on their stores. -/
theorem bios (written : Written start bus) : bus.bios = start.bios := by
  induction written with
  | unchanged => rfl
  | memory written address value ih =>
      rw [← ih, store8]
      split
      · unfold store
        split <;> rfl
      · rfl
  | peripheral written offset value ih => exact ih

/-- Programs do not change the image in the Game Pak, whatever they store. By induction on their
stores. -/
theorem gamePak (written : Written start bus) : bus.gamePak = start.gamePak := by
  induction written with
  | unchanged => rfl
  | memory written address value ih =>
      rw [← ih, store8]
      split
      · unfold store
        split <;> rfl
      · rfl
  | peripheral written offset value ih => exact ih

end Bus.Written

end Handheld
