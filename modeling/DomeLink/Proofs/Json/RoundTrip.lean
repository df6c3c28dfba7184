import DomeLink.Command.Json
import DomeLink.Proofs.Command.RoundTrip
import DomeLink.Proofs.Json.Record
import DomeLink.Status.Json

/-!
# Statuses and commands are read back from their JSON

`RoundTrips` says what a reader of records without optional members does with every text: it reads
the text of a record back, also with other blanks between the tokens, with the members in another
order and with unknown members among them, and it refuses a text in which some member is left out or
stands twice. Statuses and commands are such records (`status_and_command_roundTrip`); a command
comes back without its bookkeeping, which is not written.
-/

namespace DomeLink

open JsonForm JsonMember

/-- The value that a text is read as. -/
def JsonForm.ofText? {α : Type} (form : JsonForm α) (text : String) : Option α :=
  (Json.read? text).bind form.ofJson?

/-- **How records with the given members are read.** What is read of the record `s` is `back s`. -/
structure JsonForm.RoundTrips {σ : Type} (form : JsonForm σ) (ms : List (JsonMember σ))
    (back : σ → σ) : Prop where
  /-- The text of a record is read back. -/
  compact : ∀ s, form.ofText? (form.toJson s).compact = some (back s)
  /-- The text of a record over several lines is read back. -/
  indented : ∀ s, form.ofText? (form.toJson s).indented = some (back s)
  /-- So is every text of it with the members in any order and unknown ones among them. -/
  rearranged : ∀ s extra obj text, (∀ e ∈ extra, e.1 ∉ ms.map JsonMember.key) →
    obj.Perm (entries ms s ++ extra) → Json.IsText (Json.record obj) text.toList →
    form.ofText? text = some (back s)
  /-- No text is read in which a member is left out or stands twice. -/
  strict : ∀ obj key text, key ∈ ms.map JsonMember.key →
    (obj.map Prod.fst).count (JsonText.plain key) ≠ 1 → Json.IsText (.obj obj) text.toList →
    form.ofText? text = none

theorem JsonForm.ofText?_of_isText {α : Type} {form : JsonForm α} {x : Json} {text : String}
    (h : Json.IsText x text.toList) : form.ofText? text = form.ofJson? x := by
  rw [ofText?, Json.read?, Json.readChars?_of_isText h]
  rfl

/-- Records without optional members round-trip if every member does. -/
theorem JsonForm.roundTrips_record {σ : Type} {ms : List (JsonMember σ)} {start : σ}
    {pick : σ → (String → Bool) → σ} (hchoice : ∀ s, Choice ms (pick s) start)
    (hkept : ∀ s, ∀ m ∈ ms, Kept (pick s) s m) :
    (record ms .refused start).RoundTrips ms fun s => pick s fun _ => true where
  compact s := (ofText?_of_isText (Json.isText_compact (plain_toJson (hkept s)))).trans
    (ofJson?_toJson (hchoice s) (hkept s) .refused)
  indented s := (ofText?_of_isText (Json.isText_indented (plain_toJson (hkept s)))).trans
    (ofJson?_toJson (hchoice s) (hkept s) .refused)
  rearranged s extra obj text hextra hobj htext := (ofText?_of_isText htext).trans
    (ofJson?_rearranged (hchoice s) (hkept s) hextra hobj .refused)
  strict obj key text hkey hcount htext := by
    rw [ofText?_of_isText htext]
    obtain ⟨m, hm, rfl⟩ := List.mem_map.1 hkey
    cases h : (record ms .refused start).ofJson? (.obj obj) with
    | none => rfl
    | some s => exact absurd (count_eq_one_of_ofJson? h m hm) hcount

namespace Status

/-- The chosen members of the status; the others are those of a new one. -/
def pick (s : Status) (keep : String → Bool) : Status where
  domeAzimuth := if keep "dome_azimuth" then s.domeAzimuth else 0
  dome := if keep "dome" then s.dome else ∅
  shutter := if keep "shutter" then s.shutter else ∅
  dropout := if keep "dropout" then s.dropout else ∅
  aperture := if keep "aperture" then s.aperture else ∅
  filter := if keep "filter" then s.filter else ∅
  acqMirror := if keep "acq_mirror" then s.acqMirror else ∅
  instrumentShutter := if keep "instrument_shutter" then s.instrumentShutter else ∅
  focusPosition := if keep "focus_position" then s.focusPosition else 0
  focus := if keep "focus" then s.focus else ∅
  critical := if keep "critical" then s.critical else ∅
  eht := if keep "eht" then s.eht else .off
  handset := if keep "handset" then s.handset else 0
  apertureSlot := if keep "aperture_slot" then s.apertureSlot else 0
  filterSlot := if keep "filter_slot" then s.filterSlot else 0
  domeFlopMin := if keep "dome_flop_min" then s.domeFlopMin else 0
  domeFlopMax := if keep "dome_flop_max" then s.domeFlopMax else 0
  haPulses := if keep "ha_pulses" then s.haPulses else 0
  decPulses := if keep "dec_pulses" then s.decPulses else 0

theorem choice_pick (s : Status) : JsonMember.Choice members s.pick {} where
  keys := by decide
  none := rfl
  congr keep keep' h := by
    simp only [members, List.forall_mem_cons, JsonMember.field] at h
    simp [pick, h]

theorem kept_pick (s : Status) : ∀ m ∈ members, JsonMember.Kept s.pick s m := by
  simp only [members, List.forall_mem_cons]
  refine ⟨kept_field lawful_uint16 ?_, kept_field (lawful_flags (by decide)) ?_,
    kept_field (lawful_flags (by decide)) ?_, kept_field (lawful_flags (by decide)) ?_,
    kept_field (lawful_flags (by decide)) ?_, kept_field (lawful_flags (by decide)) ?_,
    kept_field (lawful_flags (by decide)) ?_, kept_field (lawful_flags (by decide)) ?_,
    kept_field lawful_int16 ?_, kept_field (lawful_flags (by decide)) ?_,
    kept_field (lawful_flags (by decide)) ?_, kept_field lawful_eht ?_, kept_field lawful_uint8 ?_,
    kept_field lawful_uint8 ?_, kept_field lawful_uint8 ?_, kept_field lawful_uint16 ?_,
    kept_field lawful_uint16 ?_, kept_field lawful_uint32 ?_, kept_field lawful_uint32 ?_, nofun⟩
  all_goals
    intro keep
    simp [pick]

end Status

namespace Command

/-- The chosen members of the command; the others are those of a new one. -/
def pick (c : Command) (keep : String → Bool) : Command where
  domeTarget := if keep "dome_target" then c.domeTarget else 0
  dome := if keep "dome" then c.dome else ∅
  shutter := if keep "shutter" then c.shutter else ∅
  dropout := if keep "dropout" then c.dropout else ∅
  focus := if keep "focus" then c.focus else ∅
  focusTarget := if keep "focus_target" then c.focusTarget else 0
  aperture := if keep "aperture" then c.aperture else ∅
  apertureSlot := if keep "aperture_slot" then c.apertureSlot else 0
  filter := if keep "filter" then c.filter else ∅
  filterSlot := if keep "filter_slot" then c.filterSlot else 0
  eht := if keep "eht" then c.eht else .off
  acqMirror := if keep "acq_mirror" then c.acqMirror else ∅
  misc := if keep "misc" then c.misc else ∅
  domeFlopMin := if keep "dome_flop_min" then c.domeFlopMin else 0
  domeFlopMax := if keep "dome_flop_max" then c.domeFlopMax else 0

theorem choice_pick (c : Command) : JsonMember.Choice members c.pick {} where
  keys := by decide
  none := rfl
  congr keep keep' h := by
    simp only [members, List.forall_mem_cons, JsonMember.field] at h
    simp [pick, h]

theorem kept_pick (c : Command) : ∀ m ∈ members, JsonMember.Kept c.pick c m := by
  simp only [members, List.forall_mem_cons]
  refine ⟨kept_field lawful_uint16 ?_, kept_field (lawful_flags (by decide)) ?_,
    kept_field (lawful_flags (by decide)) ?_, kept_field (lawful_flags (by decide)) ?_,
    kept_field (lawful_flags (by decide)) ?_, kept_field lawful_int16 ?_,
    kept_field (lawful_flags (by decide)) ?_, kept_field lawful_uint8 ?_,
    kept_field (lawful_flags (by decide)) ?_, kept_field lawful_uint8 ?_, kept_field lawful_eht ?_,
    kept_field (lawful_flags (by decide)) ?_, kept_field (lawful_flags (by decide)) ?_,
    kept_field lawful_uint16 ?_, kept_field lawful_uint16 ?_, nofun⟩
  all_goals
    intro keep
    simp [pick]

end Command

/-- **Statuses and commands are read back from their JSON**, commands without bookkeeping. -/
theorem JsonForm.status_and_command_roundTrip : Status.jsonForm.RoundTrips Status.members id ∧
    Command.jsonForm.RoundTrips Command.members Command.wire :=
  ⟨roundTrips_record Status.choice_pick Status.kept_pick,
    roundTrips_record Command.choice_pick Command.kept_pick⟩

end DomeLink
