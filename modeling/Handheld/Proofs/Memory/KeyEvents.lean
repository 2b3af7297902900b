import Mathlib.Data.List.Induction
import Handheld.Proofs.Memory.Peripherals

/-!
# Presses and releases of keys

After any events the key register shows the last event of every key
(`IoRegisters.holds_setKeys`). Every event looks at the keys that are held then, and requests the
keypad interrupt if they are what the key control waits for (`KeypadMet`), so that the request is
there after the events if it was there before or one of the chords on the way met the control
(`IoRegisters.request_setKeys_iff`).
-/

namespace Handheld

/-- A press or a release of a key. -/
structure KeyEvent where
  key : Key
  pressed : Bool
  deriving DecidableEq

namespace KeyEvent

/-- Which keys are held after events: those whose last event was a press, and of those without an
event the ones that were held before. -/
def heldAfter (events : List KeyEvent) (held : Key → Bool) (key : Key) : Bool :=
  ((events.reverse.find? (·.key = key)).map pressed).getD (held key)

theorem heldAfter_concat (events : List KeyEvent) (event : KeyEvent) (held : Key → Bool)
    (key : Key) :
    heldAfter (events ++ [event]) held key =
      if event.key = key then event.pressed else heldAfter events held key := by
  unfold heldAfter
  rw [List.reverse_append, List.reverse_singleton, List.singleton_append, List.find?_cons]
  by_cases same : event.key = key <;> simp [same]

/-- Events of different keys can come in either order: afterwards the same keys are held, whatever
comes before and after them. -/
theorem heldAfter_swap (earlier later : List KeyEvent) {first second : KeyEvent}
    (different : first.key ≠ second.key) (held : Key → Bool) :
    heldAfter (earlier ++ [first, second] ++ later) held =
      heldAfter (earlier ++ [second, first] ++ later) held := by
  induction later using List.reverseRecOn with
  | nil =>
      have pair (a b : KeyEvent) : earlier ++ [a, b] ++ [] = earlier ++ [a] ++ [b] := by simp
      funext key
      rw [pair, pair, heldAfter_concat, heldAfter_concat, heldAfter_concat, heldAfter_concat]
      by_cases isFirst : first.key = key
      · have notSecond : second.key ≠ key := fun isSecond =>
          different (isFirst.trans isSecond.symm)
        rw [if_pos isFirst, if_neg notSecond, if_pos isFirst]
      · rw [if_neg isFirst, if_neg isFirst]
  | append_singleton later last ih =>
      funext key
      rw [← List.append_assoc, ← List.append_assoc, heldAfter_concat, heldAfter_concat, ih]

end KeyEvent

/-- The keys that are held are what a key control waits for: one of those it selects or, if its
highest bit is set, all of those it selects and at least one. -/
def KeypadMet (control : Half) (held : Key → Bool) : Prop :=
  control.getLsbD 14 = true ∧
    if control.getLsbD 15 = true then
      (∃ key : Key, control.getLsbD key.index = true) ∧
        ∀ key : Key, control.getLsbD key.index = true → held key = true
    else ∃ key : Key, control.getLsbD key.index = true ∧ held key = true

/-- The bits of all keys are those of each key, so that halves agree in the keys if they agree key
by key. -/
theorem Key.and_idle_eq_iff (a b : Half) :
    a &&& idle = b &&& idle ↔ ∀ key : Key, a.getLsbD key.index = b.getLsbD key.index := by
  constructor
  · intro same key
    have bit := congrArg (·.getLsbD key.index) same
    simpa only [BitVec.getLsbD_and, getLsbD_idle, key.index_lt, decide_true, Bool.and_true]
      using bit
  · intro same
    refine BitVec.eq_of_getLsbD_eq fun i _ => ?_
    rw [BitVec.getLsbD_and, BitVec.getLsbD_and, getLsbD_idle]
    by_cases inKeys : i < 10
    · obtain ⟨key, rfl⟩ := exists_index inKeys
      rw [same]
    · rw [decide_eq_false inKeys, Bool.and_false, Bool.and_false]

/-- Some bit of a key is set. -/
theorem Key.and_idle_ne_zero_iff (half : Half) :
    half &&& idle ≠ 0 ↔ ∃ key : Key, half.getLsbD key.index = true := by
  have zero : half &&& idle = 0 ↔ ∀ key : Key, half.getLsbD key.index = false := by
    have cleared : (0 : Half) = 0 &&& idle := rfl
    rw [cleared, and_idle_eq_iff]
    exact forall_congr' fun key => by rw [BitVec.ofNat_eq_ofNat, BitVec.getLsbD_zero]
  rw [Ne, zero, not_forall]
  exact exists_congr fun key => by rw [Bool.not_eq_false]

namespace IoRegisters

/-- Whether the key register shows a key as held. -/
def holds (io : IoRegisters) (key : Key) : Bool := !io.keyInput.getLsbD key.index

/-- The registers after some events, the first one first. -/
def setKeys (io : IoRegisters) (events : List KeyEvent) : IoRegisters :=
  events.foldl (fun io event => io.setKey event.key event.pressed) io

variable (io : IoRegisters)

theorem setKeys_concat (events : List KeyEvent) (event : KeyEvent) :
    io.setKeys (events ++ [event]) = (io.setKeys events).setKey event.key event.pressed :=
  List.foldl_append

/-! ## The key register -/

theorem getLsbD_held (key : Key) : (~~~io.keyInput).getLsbD key.index = io.holds key := by
  have inHalf : key.index < 16 := Nat.lt_trans key.index_lt (by decide)
  rw [BitVec.getLsbD_not, decide_eq_true inHalf, Bool.true_and, holds]

theorem holds_setKey (key : Key) (pressed : Bool) (other : Key) :
    (io.setKey key pressed).holds other = if key = other then pressed else io.holds other := by
  unfold holds
  rw [getLsbD_keyInput_setKey]
  by_cases same : key = other
  · rw [if_pos same, if_pos (Key.index_inj.mpr same.symm), Bool.not_not]
  · rw [if_neg same, if_neg fun index => same (Key.index_inj.mp index).symm]

/-- The key register shows the last event of every key. -/
theorem holds_setKeys (events : List KeyEvent) :
    (io.setKeys events).holds = KeyEvent.heldAfter events io.holds := by
  induction events using List.reverseRecOn with
  | nil => rfl
  | append_singleton events event ih =>
      funext key
      rw [setKeys_concat, holds_setKey, KeyEvent.heldAfter_concat, ih]

/-- The bits of the key register that belong to no key stay as they are. -/
theorem getLsbD_keyInput_setKeys (events : List KeyEvent) {i : Nat} (above : 10 ≤ i) :
    (io.setKeys events).keyInput.getLsbD i = io.keyInput.getLsbD i := by
  induction events using List.reverseRecOn with
  | nil => rfl
  | append_singleton events event ih =>
      have other : i ≠ event.key.index :=
        Nat.ne_of_gt (Nat.lt_of_lt_of_le event.key.index_lt above)
      rw [setKeys_concat, getLsbD_keyInput_setKey, if_neg other, ih]

/-- Events after which the same keys are held leave the same key register, in whatever order and
number they came. -/
theorem keyInput_setKeys_congr {events others : List KeyEvent}
    (same : KeyEvent.heldAfter events io.holds = KeyEvent.heldAfter others io.holds) :
    (io.setKeys events).keyInput = (io.setKeys others).keyInput := by
  rw [← holds_setKeys, ← holds_setKeys] at same
  refine BitVec.eq_of_getLsbD_eq fun i _ => ?_
  by_cases inKeys : i < 10
  · obtain ⟨key, rfl⟩ := Key.exists_index inKeys
    exact Bool.not_inj (congrFun same key)
  · have above := Nat.le_of_not_lt inKeys
    rw [getLsbD_keyInput_setKeys _ _ above, getLsbD_keyInput_setKeys _ _ above]

/-! ## Requests -/

/-- The condition of the key control is one on the keys that are held: all of the selected ones, or
any of them, if it is switched on. -/
theorem keypadCondition_iff :
    io.keypadCondition = true ↔ KeypadMet (io.readHalf .keycnt) io.holds := by
  have gathered : ~~~io.keyInput &&& Key.idle &&& (io.readHalf .keycnt &&& Key.idle) =
      (~~~io.keyInput &&& io.readHalf .keycnt) &&& Key.idle := by
    rw [BitVec.and_assoc, BitVec.and_comm Key.idle, BitVec.and_assoc, BitVec.and_self,
      ← BitVec.and_assoc]
  unfold keypadCondition KeypadMet
  dsimp only
  rw [Bool.and_eq_true, gathered]
  refine and_congr_right fun _ => ?_
  split
  · rw [Bool.and_eq_true, bne_iff_ne, beq_iff_eq, Key.and_idle_ne_zero_iff, Key.and_idle_eq_iff]
    refine and_congr_right fun _ => forall_congr' fun key => ?_
    rw [BitVec.getLsbD_and, getLsbD_held]
    cases (io.readHalf .keycnt).getLsbD key.index <;> simp
  · rw [bne_iff_ne, Key.and_idle_ne_zero_iff]
    refine exists_congr fun key => ?_
    rw [BitVec.getLsbD_and, getLsbD_held, Bool.and_eq_true, and_comm]

theorem keycnt_setKey (key : Key) (pressed : Bool) :
    (io.setKey key pressed).readHalf .keycnt = io.readHalf .keycnt :=
  io.readHalf_setKey_of_ne key pressed (by decide) (by decide)

/-- The condition does not look at the requests. -/
theorem keypadCondition_requestIf (condition : Bool) (source : Interrupt) :
    (io.requestIf condition source).keypadCondition = io.keypadCondition := by
  unfold keypadCondition keyInput
  rw [readHalf_requestIf_of_ne _ _ _ (by decide), readHalf_requestIf_of_ne _ _ _ (by decide)]

/-- An event requests the keypad interrupt if it leaves what the key control waits for, and keeps
all requests that are there. -/
theorem getLsbD_interruptFlags_setKey (key : Key) (pressed : Bool) (i : Nat) :
    (io.setKey key pressed).interruptFlags.getLsbD i =
      (io.interruptFlags.getLsbD i ||
        ((io.setKey key pressed).keypadCondition && decide (i = Interrupt.keypad.index))) := by
  unfold setKey
  dsimp only
  rw [keypadCondition_requestIf, getLsbD_interruptFlags_requestIf, interruptFlags,
    readHalf_storeHalf_of_ne _ (by decide)]
  rfl

theorem keycnt_setKeys (events : List KeyEvent) :
    (io.setKeys events).readHalf .keycnt = io.readHalf .keycnt := by
  induction events using List.reverseRecOn with
  | nil => rfl
  | append_singleton events event ih => rw [setKeys_concat, keycnt_setKey, ih]

/-- The keypad interrupt is requested after some events if it was before or if the keys that were
held after one of the events are what the key control waits for. -/
theorem request_setKeys_iff (events : List KeyEvent) :
    (io.setKeys events).interruptFlags.getLsbD Interrupt.keypad.index = true ↔
      io.interruptFlags.getLsbD Interrupt.keypad.index = true ∨
        ∃ earlier, earlier ≠ [] ∧ earlier <+: events ∧
          KeypadMet (io.readHalf .keycnt) (KeyEvent.heldAfter earlier io.holds) := by
  induction events using List.reverseRecOn with
  | nil =>
      refine ⟨.inl, ?_⟩
      rintro (before | ⟨earlier, nonempty, within, _⟩)
      · exact before
      · exact absurd (List.prefix_nil.mp within) nonempty
  | append_singleton events event ih =>
      have met : ((io.setKeys events).setKey event.key event.pressed).keypadCondition = true ↔
          KeypadMet (io.readHalf .keycnt) (KeyEvent.heldAfter (events ++ [event]) io.holds) := by
        rw [← setKeys_concat, keypadCondition_iff, keycnt_setKeys, holds_setKeys]
      rw [setKeys_concat, getLsbD_interruptFlags_setKey, decide_eq_true rfl, Bool.and_true,
        Bool.or_eq_true, ih, met, or_assoc]
      refine or_congr_right ⟨?_, ?_⟩
      · rintro (⟨earlier, nonempty, within, holds⟩ | holds)
        · exact ⟨earlier, nonempty, within.trans (List.prefix_append _ _), holds⟩
        · exact ⟨_, List.concat_ne_nil _ _, List.prefix_rfl, holds⟩
      · rintro ⟨earlier, nonempty, within, holds⟩
        rcases List.prefix_concat_iff.mp within with rfl | before
        · exact .inr holds
        · exact .inl ⟨earlier, nonempty, before, holds⟩

/-- Key events request no other interrupt than that of the keypad, and clear none. By induction on
the events. -/
theorem getLsbD_interruptFlags_setKeys (events : List KeyEvent) {i : Nat}
    (other : i ≠ Interrupt.keypad.index) :
    (io.setKeys events).interruptFlags.getLsbD i = io.interruptFlags.getLsbD i := by
  induction events using List.reverseRecOn with
  | nil => rfl
  | append_singleton events event ih =>
      rw [setKeys_concat, getLsbD_interruptFlags_setKey, decide_eq_false other, Bool.and_false,
        Bool.or_false, ih]

/-- Key events touch the key register and the requests only. All other bytes of the peripherals are
kept. -/
theorem readByte_setKeys (events : List KeyEvent) {offset : IoOffset}
    (notKeys : offset.even ≠ .keyinput) (notRequests : offset.even ≠ .interruptFlags) :
    (io.setKeys events).readByte offset = io.readByte offset := by
  induction events using List.reverseRecOn with
  | nil => rfl
  | append_singleton events event ih =>
      rw [setKeys_concat, ← ih]
      exact readByte_of_readHalf (readHalf_setKey_of_ne _ _ _ notKeys notRequests)

/-- Presses and releases of keys, any number of them in any order. Afterwards the key register has a
clear bit for the keys whose last event was a press, and the keys without an event and the bits of
no key are as before. The keypad interrupt is requested exactly if it was before or the keys that
were held after some of the events are what the key control waits for; no other request and no other
byte has changed. Exchanging two neighbouring events of different keys does not change what the key
register shows in the end. -/
theorem keypad_after_events (events : List KeyEvent) :
    let after := io.setKeys events
    let control := io.readHalf .keycnt
    (∀ key : Key,
      after.keyInput.getLsbD key.index = !KeyEvent.heldAfter events io.holds key) ∧
    (∀ i, 10 ≤ i → after.keyInput.getLsbD i = io.keyInput.getLsbD i) ∧
    (after.interruptFlags.getLsbD 12 = true ↔
      io.interruptFlags.getLsbD 12 = true ∨
        ∃ earlier, earlier ≠ [] ∧ earlier <+: events ∧
          KeypadMet control (KeyEvent.heldAfter earlier io.holds)) ∧
    (∀ i, i ≠ 12 → after.interruptFlags.getLsbD i = io.interruptFlags.getLsbD i) ∧
    (∀ offset : IoOffset, offset.even ≠ .keyinput → offset.even ≠ .interruptFlags →
      after.readByte offset = io.readByte offset) ∧
    ∀ earlier first second later, events = earlier ++ [first, second] ++ later →
      first.key ≠ second.key →
        (io.setKeys (earlier ++ [second, first] ++ later)).keyInput = after.keyInput := by
  intro after control
  refine ⟨fun key => ?_, fun i => io.getLsbD_keyInput_setKeys events, io.request_setKeys_iff events,
    fun i => io.getLsbD_interruptFlags_setKeys events, fun offset => io.readByte_setKeys events, ?_⟩
  · have holds := congrFun (io.holds_setKeys events) key
    rw [← holds, IoRegisters.holds, Bool.not_not]
  · rintro earlier first second later rfl different
    exact io.keyInput_setKeys_congr (KeyEvent.heldAfter_swap _ _ different _).symm

end IoRegisters

end Handheld
