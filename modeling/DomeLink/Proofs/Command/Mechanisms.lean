import DomeLink.Proofs.Command.OneShots
import DomeLink.Proofs.Command.RoundTrip
import DomeLink.Proofs.Command.Seed
import DomeLink.Proofs.Session.Transition

/-!
# The mechanism of a change

Every change acts on one mechanism, and no two mechanisms have a value in common. Three of them
share a flag word, in which each has a bit of its own (`Mechanism.bit`).

* `only_make_of_ne`, `only_make`: a change touches no other mechanism than its own, and what it
  makes of its own depends on no other. So changes of two mechanisms commute (`make_comm`).
* `getElem?_encode_make`: the frames before and after a change have the same characters outside of
  the place of the mechanism (`Mechanism.place`) and the check field.
* `change_of_mechanism`: all of this for changes that are checked, and nothing for those that fail.
-/

namespace DomeLink

/-- What a change acts on. -/
inductive Mechanism
  | dome
  | shutter
  | dropout
  | focuser
  | aperture
  | filter
  | eht
  | acqMirror
  | domeFlop
  | instrumentShutter
  | watchdog
  | acqDevice
  deriving DecidableEq, Repr

/-- The mechanism that a change acts on. -/
def Change.mechanism : Change → Mechanism
  | .watchdog _ => .watchdog
  | .domeTarget _ _ | .domeMove _ => .dome
  | .shutter _ => .shutter
  | .dropout _ => .dropout
  | .focusGoto _ | .focusMove _ | .focusReset => .focuser
  | .instrumentShutter _ => .instrumentShutter
  | .acqMirror _ => .acqMirror
  | .eht _ => .eht
  | .wheel .aperture _ => .aperture
  | .wheel .filter _ => .filter
  | .domeFlop _ _ => .domeFlop
  | .acqDeviceReset => .acqDevice

namespace Mechanism

/-- The bit of the mechanism, if it is one of those that share a flag word. -/
def bit : Mechanism → MiscCommand
  | instrumentShutter => MiscCommand.instrumentShutterOpen
  | watchdog => MiscCommand.watchdog
  | acqDevice => MiscCommand.acqDeviceReset
  | _ => ∅

/-- The first character of a command frame that belongs to the mechanism, and the first behind. -/
def place : Mechanism → Nat × Nat
  | dome => (9, 14)
  | shutter => (14, 15)
  | dropout => (15, 16)
  | focuser => (16, 21)
  | aperture => (21, 23)
  | filter => (23, 25)
  | eht => (25, 26)
  | acqMirror => (26, 27)
  | instrumentShutter | watchdog | acqDevice => (27, 28)
  | domeFlop => (28, 36)

/-- The same place, as a range of the pieces of the frame. -/
def pieces : Mechanism → Nat × Nat
  | dome => (1, 3)
  | shutter => (3, 4)
  | dropout => (4, 5)
  | focuser => (5, 8)
  | aperture => (8, 10)
  | filter => (10, 12)
  | eht => (12, 13)
  | acqMirror => (13, 14)
  | instrumentShutter | watchdog | acqDevice => (14, 15)
  | domeFlop => (15, 17)

end Mechanism

namespace Command

open Change Flags

variable {c d e : Command} {m n : Change} {k : Mechanism}

/-! ## What is asked of a mechanism -/

/-- The command that asks of the mechanism what the command does, and of others nothing. -/
def only (c : Command) : Mechanism → Command
  | .dome => { domeTarget := c.domeTarget, dome := c.dome }
  | .shutter => { shutter := c.shutter }
  | .dropout => { dropout := c.dropout }
  | .focuser => { focus := c.focus, focusTarget := c.focusTarget }
  | .aperture => { aperture := c.aperture, apertureSlot := c.apertureSlot }
  | .filter => { filter := c.filter, filterSlot := c.filterSlot }
  | .eht => { eht := c.eht }
  | .acqMirror => { acqMirror := c.acqMirror }
  | .domeFlop => { domeFlopMin := c.domeFlopMin, domeFlopMax := c.domeFlopMax }
  | k => { misc := assign ∅ k.bit (c.misc.has k.bit) }

/-- What a change makes of its mechanism depends on nothing else. -/
theorem only_make (c : Command) (m : Change) :
    (c.make m).only m.mechanism = ((c.only m.mechanism).make m).only m.mechanism := by
  cases m with
  | acqMirror action => cases action <;> rfl
  | wheel w action => cases w <;> cases action <;> rfl
  | watchdog | instrumentShutter | acqDeviceReset =>
    simp (disch := decide) [only, mechanism, Mechanism.bit, make, control, request]
  | _ => rfl

/-- **A change touches no mechanism but its own.** -/
theorem only_make_of_ne (h : m.mechanism ≠ k) (c : Command) : (c.make m).only k = c.only k := by
  cases m with
  | watchdog | instrumentShutter | acqDeviceReset =>
    cases k with
    | watchdog | instrumentShutter | acqDevice =>
      -- Of the shared word, each of the three has its own bit.
      first
      | exact absurd rfl h
      | simp (disch := decide) [only, Mechanism.bit, make, control, request]
    | _ => rfl
  | acqMirror action => cases action <;> cases k <;> first | rfl | exact absurd rfl h
  | wheel w action => cases w <;> cases action <;> cases k <;> first | rfl | exact absurd rfl h
  | _ => cases k <;> first | rfl | exact absurd rfl h

/-- The bits that no mechanism has are left alone. -/
theorem erase_known_make (c : Command) (m : Change) :
    (c.make m).misc.erase known = c.misc.erase known := by
  cases m with
  | watchdog alive => exact erase_assign_of_has (by decide) c.misc alive
  | instrumentShutter isOpen => exact erase_assign_of_has (by decide) c.misc isOpen
  | acqDeviceReset => exact erase_insert_of_has (by decide) c.misc
  | acqMirror action => cases action <;> rfl
  | wheel w action => cases w <;> cases action <;> rfl
  | _ => rfl

theorem has_bit_only (hk : k.bit.meets k.bit = true) (c : Command) :
    (c.only k).misc.has k.bit = c.misc.has k.bit := by
  cases k with
  | instrumentShutter | watchdog | acqDevice => exact has_assign_self _ hk
  | _ => exact absurd hk (by decide)

/-- The shared word is known by the bits of the mechanisms that share it, and the others. -/
theorem misc_eq_of_only (h : ∀ k, c.only k = d.only k)
    (hrest : c.misc.erase known = d.misc.erase known) : c.misc = d.misc := by
  have hbit (k : Mechanism) (hk : k.bit.meets k.bit = true) :
      c.misc.has k.bit = d.misc.has k.bit := by
    rw [← has_bit_only hk c, h k, has_bit_only hk d]
  have hopen : MiscCommand.instrumentShutterOpen.IsSingle := ⟨0, by decide⟩
  have hwatchdog : MiscCommand.watchdog.IsSingle := ⟨1, by decide⟩
  have hdevice : MiscCommand.acqDeviceReset.IsSingle := ⟨2, by decide⟩
  have hknown : (known : MiscCommand) =
      (MiscCommand.instrumentShutterOpen.insert MiscCommand.watchdog).insert
        MiscCommand.acqDeviceReset := by decide
  rw [hknown, erase_insert, erase_insert, erase_insert, erase_insert] at hrest
  refine hopen.eq_of_erase (hbit .instrumentShutter (by decide)) ?_
  refine hwatchdog.eq_of_erase ?_ (hdevice.eq_of_erase ?_ hrest)
  · simp (disch := decide) only [has_erase_of_disjoint]
    exact hbit .watchdog (by decide)
  · simp (disch := decide) only [has_erase_of_disjoint]
    exact hbit .acqDevice (by decide)

/-- **A command is what it asks of its mechanisms**, and bookkeeping. -/
theorem eq_of_only (h : ∀ k, c.only k = d.only k)
    (hrest : c.misc.erase known = d.misc.erase known) (hcontrolled : c.controlled = d.controlled)
    (hrequested : c.requested = d.requested) : c = d := by
  have hmisc := misc_eq_of_only h hrest
  cases c
  cases d
  rw [mk.injEq]
  exact ⟨congrArg domeTarget (h .dome), congrArg Command.dome (h .dome),
    congrArg Command.shutter (h .shutter), congrArg Command.dropout (h .dropout),
    congrArg focus (h .focuser), congrArg focusTarget (h .focuser),
    congrArg aperture (h .aperture), congrArg apertureSlot (h .aperture),
    congrArg filter (h .filter), congrArg filterSlot (h .filter), congrArg Command.eht (h .eht),
    congrArg Command.acqMirror (h .acqMirror), hmisc, congrArg domeFlopMin (h .domeFlop),
    congrArg domeFlopMax (h .domeFlop), hcontrolled, hrequested⟩

/-- A change of another mechanism does not show, be it made before or after. -/
theorem only_make_make (hk : n.mechanism ≠ k) (c : Command) :
    ((c.make m).make n).only k = ((c.make n).make m).only k := by
  rw [only_make_of_ne hk]
  by_cases hm : m.mechanism = k
  · subst hm
    rw [only_make c m, only_make (c.make n) m, only_make_of_ne hk]
  · rw [only_make_of_ne hm, only_make_of_ne hm, only_make_of_ne hk]

/-- **Changes of two mechanisms commute.** -/
theorem make_comm (h : m.mechanism ≠ n.mechanism) (c : Command) :
    (c.make m).make n = (c.make n).make m := by
  refine eq_of_only (fun k => ?_) ?_ ?_ ?_
  · by_cases hn : n.mechanism = k
    · exact (only_make_make (hn ▸ h) c).symm
    · exact only_make_make hn c
  · rw [erase_known_make, erase_known_make, erase_known_make, erase_known_make]
  · rw [controlled_make, controlled_make, controlled_make, controlled_make, insert_right_comm]
  · rw [requested_make, requested_make, requested_make, requested_make, insert_right_comm]

/-! ## The frame -/

/-- The place is not one of those between the first and the second. -/
def Outside (places : Nat × Nat) (i : Nat) : Prop := i < places.1 ∨ places.2 ≤ i

/-- The check field of a command frame. -/
def checkPlace : Nat × Nat := (53, 55)

/-- A change leaves the pieces before those of its mechanism, and those behind. -/
theorem pieces_make (c : Command) (m : Change) :
    (c.make m).pieces.take m.mechanism.pieces.1 = c.pieces.take m.mechanism.pieces.1 ∧
      (c.make m).pieces.drop m.mechanism.pieces.2 = c.pieces.drop m.mechanism.pieces.2 := by
  cases m with
  | acqMirror action =>
    cases action <;> simp [mechanism, Mechanism.pieces, Command.pieces, make, setAcqMirror, control,
      request]
  | wheel w action =>
    cases w <;> cases action <;>
      simp [mechanism, Mechanism.pieces, Command.pieces, make, setWheel, control, request]
  | domeTarget | domeMove | shutter | dropout =>
    simp [mechanism, Mechanism.pieces, Command.pieces, make, setDomeTarget, setDomeMove, setShutter,
      setDropout, control]
  | focusGoto | focusMove | focusReset =>
    simp [mechanism, Mechanism.pieces, Command.pieces, make, setFocusTarget, setFocusMove, control,
      request]
  | watchdog | instrumentShutter | acqDeviceReset | eht | domeFlop =>
    simp [mechanism, Mechanism.pieces, Command.pieces, make, control, request]

/-- The pieces of a mechanism fill its place. -/
theorem sum_take_pieces (c : Command) (k : Mechanism) :
    ((c.pieces.map List.length).take k.pieces.1).sum = k.place.1 ∧
      ((c.pieces.map List.length).take k.pieces.2).sum = k.place.2 := by
  rw [map_length_pieces]
  cases k <;> decide

/-- **The frame of a changed command** differs in the characters of the mechanism and in the check
field. -/
theorem getElem?_encode_make (c : Command) (m : Change) {i : Nat}
    (hi : Outside m.mechanism.place i) (hcheck : Outside checkPlace i) :
    (c.make m).encode[i]? = c.encode[i]? := by
  obtain ⟨htake, hdrop⟩ := pieces_make c m
  obtain ⟨hfirst, hpast⟩ := sum_take_pieces c m.mechanism
  have hwidths : (c.make m).pieces.map List.length = c.pieces.map List.length := by
    rw [map_length_pieces, map_length_pieces]
  have hcontent : (c.make m).content[i]? = c.content[i]? :=
    Bytes.getElem?_flatten hwidths rfl htake hdrop (by rw [hfirst, hpast]; exact hi) padding
  have hlen (c : Command) :
      (c.content ++ Checksum.chars (Checksum.compute c.content)).length = checkPlace.2 := by
    rw [List.length_append, length_content, Checksum.length_chars, checkPlace]
  rw [encode_eq_terminate, encode_eq_terminate, Checksum.terminate, Checksum.terminate]
  rcases hcheck with hbefore | hbehind
  · rw [List.append_assoc, List.append_assoc,
      List.getElem?_append_left (by rw [length_content]; exact hbefore),
      List.getElem?_append_left (by rw [length_content]; exact hbefore), hcontent]
  · rw [List.getElem?_append_right (by rw [hlen]; exact hbehind),
      List.getElem?_append_right (by rw [hlen]; exact hbehind), hlen, hlen]

/-- The bits of the shared word that its mechanism does not have stay as they are. -/
theorem erase_bit_make (c : Command) (m : Change) :
    (c.make m).misc.erase m.mechanism.bit = c.misc.erase m.mechanism.bit := by
  cases m with
  | watchdog alive => exact erase_assign_of_has (has_self _) c.misc alive
  | instrumentShutter isOpen => exact erase_assign_of_has (has_self _) c.misc isOpen
  | acqDeviceReset => exact erase_insert_of_has (has_self _) c.misc
  | acqMirror action => cases action <;> rfl
  | wheel w action => cases w <;> cases action <;> rfl
  | _ => rfl

/-- The character of the shared word. -/
theorem ofField_misc (c : Command) :
    (Flags.ofField c.encode 27 1 : Outcome MiscCommand) = .ok c.misc.nibble := by
  rw [encode_eq_terminate, Checksum.terminate, content, List.append_assoc, List.append_assoc]
  exact Flags.ofField_flatten c.map_length_pieces _ 14 27 rfl (by decide)

/-! ## Changes that are checked -/

/-- **A change acts on its own mechanism**, and changes of two mechanisms commute. A change that
fails leaves the command as it is. One that succeeds touches the characters of its mechanism and the
check field, where the mechanisms that share a character have one bit of it each, and clears no
one-shot bit. It succeeds before a change of another mechanism as it does behind it, and the two
make the same command, the bookkeeping included. -/
theorem change_of_mechanism (c : Command) (m : Change) :
    (∀ fault, c.change m = .error fault → ∀ s : Session,
      { s with command := c }.step (.update [m]) = ({ s with command := c }, [])) ∧
    ∀ d, c.change m = .ok d →
      (∀ i, Outside m.mechanism.place i → Outside checkPlace i → d.encode[i]? = c.encode[i]?) ∧
      (∃ before after : MiscCommand, Flags.ofField c.encode 27 1 = .ok before ∧
        Flags.ofField d.encode 27 1 = .ok after ∧
          after.erase m.mechanism.bit = before.erase m.mechanism.bit) ∧
      (∀ bit ∈ OneShot.all, c.oneShots.has bit = true → d.oneShots.has bit = true) ∧
      ∀ n e, n.mechanism ≠ m.mechanism → c.change n = .ok e →
        ∃ both, d.change n = .ok both ∧ e.change m = .ok both := by
  constructor
  · intro fault hfault s
    have hall : c.changeAll [m] = .error fault := by
      rw [changeAll, List.foldlM_cons, hfault, error_bind]
    exact Session.step_update_of_error hall
  · intro d hd
    obtain ⟨hcheck, rfl⟩ := change_eq_ok.1 hd
    refine ⟨fun i => getElem?_encode_make c m, ⟨_, _, ofField_misc c, ofField_misc _, ?_⟩, ?_, ?_⟩
    · rw [← nibble_erase, ← nibble_erase, erase_bit_make]
    · intro bit hbit hc
      rw [has_oneShots_make c m bit hbit, hc, Bool.true_or]
    · intro n e hne he
      obtain ⟨hcheck', rfl⟩ := change_eq_ok.1 he
      exact ⟨(c.make m).make n, change_eq_ok.2 ⟨hcheck', rfl⟩,
        change_eq_ok.2 ⟨hcheck, make_comm hne c⟩⟩

/-- A slot that there is not leaves the command alone; the watchdog and the instrument shutter,
which share a character, may be asked in either order. -/
theorem change_of_mechanism_shared :
    (∀ s : Session, { s with command := {} }.step (.update [.wheel .aperture (.goto 10)]) =
        ({ s with command := {} }, [])) ∧
      ∃ c d both, Command.change {} (.watchdog true) = .ok c ∧
        Command.change {} (.instrumentShutter true) = .ok d ∧
          c.change (.instrumentShutter true) = .ok both ∧ d.change (.watchdog true) = .ok both := by
  constructor
  · exact (change_of_mechanism {} (.wheel .aperture (.goto 10))).1 _ rfl
  · obtain ⟨-, h⟩ := change_of_mechanism {} (.watchdog true)
    obtain ⟨-, -, -, hcomm⟩ := h _ rfl
    obtain ⟨both, hc, hd⟩ := hcomm (.instrumentShutter true) _ (by decide) rfl
    exact ⟨_, _, both, rfl, rfl, hc, hd⟩

end Command

end DomeLink
