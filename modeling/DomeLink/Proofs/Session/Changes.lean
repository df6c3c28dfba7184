import DomeLink.Proofs.Session.Status
import DomeLink.Proofs.Status.RoundTrip

/-!
# What a reply changes

A session takes over from a reply the fields whose characters have changed, and no others. While its
status is that of the reply before, this is as good as reading the new reply
(`Status.applyChanges_eq_decode`). Here nothing is supposed of the status and of the reply before:
what is told to have changed is what has changed on the line, a changed field is as in the reply
(`agreesAt_foldl_copyField`), and everything else stays as it was
(`agreesAt_foldl_copyField_of_not_mem`).
-/

namespace DomeLink

namespace StatusField

/-- The fields of the table are in the order of the line. -/
theorem pairwise_all : all.Pairwise fun f g => f.offset < g.offset := by decide

/-- A field that the previous frame does not reach has changed. -/
theorem raw?_ne_of_eq_none {previous frame : Bytes} {f : StatusField}
    (hlen : fieldsEnd ≤ frame.length) (h : f.raw? previous = none) :
    f.raw? previous ≠ f.raw? frame := by
  obtain ⟨bs, hbs⟩ := exists_raw? hlen f
  rw [h, hbs]
  exact nofun

end StatusField

namespace Session

variable {s : Session} {frame : Bytes}

theorem status_failExchange (s : Session) : s.failExchange.1.status = s.status :=
  status_resolve _

/-- A reply that cannot be taken over leaves the status as it is. -/
theorem status_statusReply_of_error {fault : Fault}
    (h : s.status.applyChanges s.rawStatus frame = .error fault) :
    (s.statusReply frame).1.status = s.status := by
  rw [statusReply, h]
  exact status_failExchange s

theorem status_statusReply_of_ok {t : Status} {changed : List StatusField}
    (h : s.status.applyChanges s.rawStatus frame = .ok (t, changed)) :
    (s.statusReply frame).1.status = t := by
  rw [statusReply, h]
  exact status_resolve _

end Session

namespace Status

/-- **A reply changes what has changed on the line, and nothing else**, whatever the status and the
reply before are. A reply that cannot be read is an error, and the session keeps its status. Of one
that can, the fields that are told to have changed stand in the order of the line, none twice. They
are those whose characters differ from the reply before, be it that it does not reach so far. What
one of them says is as in the reply, where the focuser position is said by its sign and its
magnitude; all else is kept. -/
theorem applyChanges_takes_over_changed_fields (s : Status) (previous frame : Bytes) :
    (∀ fault, decode frame = .error fault →
      s.applyChanges previous frame = .error fault ∧
        ∀ session : Session,
          ({ session with status := s, rawStatus := previous }.statusReply frame).1.status = s) ∧
    ∀ fresh, decode frame = .ok fresh → ∃ t changed,
      s.applyChanges previous frame = .ok (t, changed) ∧
        (∀ session : Session,
          ({ session with status := s, rawStatus := previous }.statusReply frame).1.status = t) ∧
        changed.Pairwise (fun f g => f.offset < g.offset) ∧
        (∀ f, f ∈ changed ↔ f.raw? previous ≠ f.raw? frame) ∧
        (∀ f, f.raw? previous = none → f ∈ changed) ∧
        ∀ g : StatusField, if ∃ f ∈ changed, f ∈ g.partners then t.AgreesAt fresh g
          else t.AgreesAt s g := by
  constructor
  · intro fault hframe
    have h := applyChanges_of_error hframe s previous
    exact ⟨h, fun session => Session.status_statusReply_of_error h⟩
  · intro fresh hframe
    have h := applyChanges_of_ok hframe s previous
    have hlen := fieldsEnd_le_of_decode hframe
    refine ⟨_, _, h, fun session => Session.status_statusReply_of_ok h,
      StatusField.pairwise_all.filter _, fun f => mem_changedFields, ?_, fun g => ?_⟩
    · intro f hf
      exact mem_changedFields.2 (StatusField.raw?_ne_of_eq_none hlen hf)
    · split
      · rename_i hchanged
        exact agreesAt_foldl_copyField hchanged fresh s
      · rename_i hkept
        refine agreesAt_foldl_copyField_of_not_mem (fun f hmem hf => ?_) fresh s
        exact hkept ⟨f, hmem, hf⟩

/-- The shutter has changed on the line, and a slot was set locally: the shutter is taken over, and
the slot is kept. An empty frame changes nothing. -/
theorem applyChanges_shutter :
    (∃ fault, Status.applyChanges { filterSlot := 9 } ({} : Status).encode [] = .error fault) ∧
      ∃ t changed, Status.applyChanges { filterSlot := 9 } ({} : Status).encode
          ({ shutter := ⟨0x4⟩ } : Status).encode = .ok (t, changed) ∧
        StatusField.shutter ∈ changed ∧ StatusField.filterSlot ∉ changed ∧
        t.shutter = ⟨0x4⟩ ∧ t.filterSlot = 9 := by
  constructor
  · obtain ⟨h, -⟩ := applyChanges_takes_over_changed_fields { filterSlot := 9 }
      ({} : Status).encode []
    exact ⟨_, (h _ rfl).1⟩
  · obtain ⟨-, h⟩ := applyChanges_takes_over_changed_fields { filterSlot := 9 }
      ({} : Status).encode ({ shutter := ⟨0x4⟩ } : Status).encode
    obtain ⟨t, changed, happly, -, -, hmem, -, hagrees⟩ := h _ (decode_encode _)
    have hshutter : StatusField.shutter ∈ changed := (hmem _).2 (by decide +kernel)
    have hslot : StatusField.filterSlot ∉ changed := fun h => (hmem _).1 h (by decide +kernel)
    have htaken := hagrees .shutter
    have hkept := hagrees .filterSlot
    rw [if_pos ⟨_, hshutter, List.mem_singleton_self _⟩] at htaken
    rw [if_neg (by simpa [StatusField.partners] using hslot)] at hkept
    exact ⟨t, changed, happly, hshutter, hslot, htaken, hkept⟩

end Status

end DomeLink
