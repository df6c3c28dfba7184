import DomeLink.Proofs.Wire.Checksum

/-!
# What passes a check

The frames whose check field is right are the closed ones: a content, the check field of that
content, and the end delimiter (`exists_close_of_checkSum`). So there are no two of them that differ
in exactly one byte (`byte_eq_of_close`), which is what makes a check field worth having.

* `readField?_eq_some_iff`: a value is spelled by its own two characters and by no others.
* `checkReply_eq_ok_iff`, `checkCommand_eq_ok_iff`, `checkRequest_eq_status_iff`: what a frame has
  to be to pass its check.
-/

namespace DomeLink

namespace Checksum

open Bytes (start stop)

/-! ## Check values -/

theorem foldl_xor (c : UInt8) (bs : Bytes) : bs.foldl (· ^^^ ·) c = c ^^^ compute bs := by
  induction bs generalizing c with
  | nil => exact UInt8.xor_zero.symm
  | cons b bs ih =>
    rw [compute, List.foldl_cons, List.foldl_cons, ih, ih (0 ^^^ b), UInt8.zero_xor,
      UInt8.xor_assoc]

theorem compute_append (xs ys : Bytes) : compute (xs ++ ys) = compute xs ^^^ compute ys := by
  rw [compute, List.foldl_append, foldl_xor]
  rfl

theorem compute_cons (b : UInt8) (bs : Bytes) : compute (b :: bs) = b ^^^ compute bs := by
  rw [compute, List.foldl_cons, foldl_xor, UInt8.zero_xor]

/-- Every byte of the content shows in the check value. -/
theorem byte_eq_of_compute_eq {us vs : Bytes} {a b : UInt8}
    (h : compute (us ++ a :: vs) = compute (us ++ b :: vs)) : a = b := by
  rw [compute_append, compute_append, compute_cons, compute_cons, UInt8.xor_right_inj,
    UInt8.xor_left_inj] at h
  exact h

/-! ## The check field -/

theorem exists_hexDigit_ofNat : ∀ n : Fin 256, isFieldDigit (UInt8.ofNat n) = true →
    ∃ d : Fin 16, UInt8.ofNat n = Digits.hexDigit (UInt8.ofNat d) := by
  decide +kernel

theorem exists_hexDigit {b : UInt8} (h : isFieldDigit b = true) :
    ∃ d : UInt8, d.toNat < 16 ∧ b = Digits.hexDigit d := by
  have hn := exists_hexDigit_ofNat ⟨b.toNat, b.toNat_lt⟩
  rw [UInt8.ofNat_toNat] at hn
  obtain ⟨d, hd⟩ := hn h
  exact ⟨UInt8.ofNat d, by rw [UInt8.toNat_ofNat']; omega, hd⟩

/-- **A value is spelled in one way**: by its own check field. -/
theorem readField?_eq_some_iff {field : Bytes} {value : UInt8} (hlen : field.length = 2) :
    readField? field = some value ↔ field = chars value := by
  constructor
  · intro h
    obtain ⟨high, low, rfl⟩ : ∃ high low, field = [high, low] := by
      match field, hlen with
      | [high, low], _ => exact ⟨high, low, rfl⟩
    unfold readField? at h
    split at h
    · rename_i hall
      simp only [List.all_cons, List.all_nil, Bool.and_true, Bool.and_eq_true] at hall
      obtain ⟨x, hx, rfl⟩ := exists_hexDigit hall.1
      obtain ⟨y, hy, rfl⟩ := exists_hexDigit hall.2
      simp only [Digits.readHex, Digits.readHexFrom, Digits.hexValue?_hexDigit hx,
        Digits.hexValue?_hexDigit hy] at h
      have hv : value.toNat = x.toNat * 16 + y.toNat := by
        rw [← Option.some.inj h, UInt32.toNat_toUInt8, Digits.toNat_appendHex _ hy,
          Digits.toNat_appendHex 0 hx]
        show ((0 % 2 ^ 28 * 16 + x.toNat) % 2 ^ 28 * 16 + y.toNat) % 2 ^ 8 = _
        omega
      have hhigh : value >>> 4 = x := by
        rw [← UInt8.toNat_inj, toNat_high, hv]
        omega
      have hlow : value &&& 0x0F = y := by
        rw [← UInt8.toNat_inj, toNat_low, hv]
        omega
      rw [chars, hhigh, hlow]
    · cases h
  · rintro rfl
    exact readField?_chars value

theorem chars_injective {v w : UInt8} (h : chars v = chars w) : v = w := by
  have hv := readField?_chars v
  rw [h, readField?_chars w] at hv
  exact (Option.some.inj hv).symm

/-! ## Closed frames -/

/-- What ends with the end delimiter has a place for a check field before it. -/
theorem exists_field {body : Bytes} (hlen : 3 ≤ body.length) (hlast : body.getLast? = some stop) :
    ∃ content field, field.length = 2 ∧ body = content ++ field ++ [stop] := by
  obtain ⟨init, rfl⟩ := List.getLast?_eq_some_iff.1 hlast
  rw [List.length_append, List.length_singleton] at hlen
  refine ⟨init.take (init.length - 2), init.drop (init.length - 2), ?_, ?_⟩
  · rw [List.length_drop]
    omega
  · rw [List.take_append_drop]

theorem offset?_of_getLast? {body : Bytes} {offset : Nat} (hlast : body.getLast? = some stop)
    (h : offset? body = some offset) : 4 ≤ body.length ∧ offset = body.length - 3 := by
  have hcr : body.withoutCr = body := by
    rw [Bytes.withoutCr, hlast, if_neg (by decide)]
  simp only [offset?, hcr] at h
  split at h
  · rename_i hbody
    exact ⟨hbody.1, (Option.some.inj h).symm⟩
  · cases h

/-- **A frame whose check field is right is closed.** -/
theorem exists_close_of_checkSum {body : Bytes} (h : Frame.checkSum body = .ok ())
    (hlast : body.getLast? = some stop) : ∃ content, body = close content := by
  unfold Frame.checkSum at h
  split at h
  · cases h
  · rename_i stored computed hstored
    split at h
    · rename_i heq
      simp only [storedAndComputed?, Option.bind_eq_bind, Option.bind_eq_some_iff] at hstored
      obtain ⟨offset, hoffset, value, hread, hvalue⟩ := hstored
      obtain ⟨hlen, rfl⟩ := offset?_of_getLast? hlast hoffset
      obtain ⟨content, field, hfield, rfl⟩ := exists_field (by omega) hlast
      have hplace : (content ++ field ++ [stop]).length - 3 = content.length := by
        simp only [List.length_append, List.length_singleton]
        omega
      rw [hplace, List.append_assoc, List.drop_left, List.take_left' hfield,
        readField?_eq_some_iff hfield] at hread
      rw [hplace, List.append_assoc, List.take_left] at hvalue
      cases hvalue
      exact ⟨content, by rw [hread, heq, close]⟩
    · cases h

/-- A byte of a closed frame stands in the content, and then the check field follows, or behind the
content. -/
theorem close_eq_append_cons {content us vs : Bytes} {b : UInt8}
    (h : close content = us ++ b :: vs) :
    (∃ ws, content = us ++ b :: ws ∧ vs = ws ++ chars (compute content) ++ [stop]) ∨
      content <+: us := by
  rw [close, List.append_assoc, List.append_eq_append_iff] at h
  rcases h with ⟨as, hus, -⟩ | ⟨bs, hcontent, hbs⟩
  · exact .inr ⟨as, hus.symm⟩
  · rcases List.cons_eq_append_iff.1 hbs with ⟨rfl, -⟩ | ⟨ws, rfl, hvs⟩
    · rw [List.append_nil] at hcontent
      exact .inr (hcontent ▸ List.prefix_rfl)
    · exact .inl ⟨ws, hcontent, by rw [hvs, List.append_assoc]⟩

/-- **No two closed frames differ in exactly one byte.** -/
theorem byte_eq_of_close {content content' us vs : Bytes} {a b : UInt8}
    (h : close content = us ++ a :: vs) (h' : close content' = us ++ b :: vs) : a = b := by
  have hlen : content.length = content'.length := by
    have hl := congrArg List.length h
    have hl' := congrArg List.length h'
    simp only [length_close, List.length_append, List.length_cons] at hl hl'
    omega
  rcases close_eq_append_cons h with ⟨ws, hc, hvs⟩ | hp
  · -- The byte is one of the content: the check fields agree, so the check values do.
    rcases close_eq_append_cons h' with ⟨ws', hc', hvs'⟩ | hp'
    · have hws : ws.length = ws'.length := by
        rw [hc, hc'] at hlen
        simpa using hlen
      rw [hvs, List.append_assoc, List.append_assoc] at hvs'
      obtain ⟨rfl, htail⟩ := List.append_inj hvs' hws
      have hvalue := chars_injective (List.append_cancel_right htail)
      rw [hc, hc'] at hvalue
      exact byte_eq_of_compute_eq hvalue
    · have hle := hp'.length_le
      rw [← hlen, hc, List.length_append, List.length_cons] at hle
      omega
  · -- The byte is behind the content: the contents agree, and the check fields with them.
    have hp' : content' <+: us := by
      rcases close_eq_append_cons h' with ⟨ws', hc', -⟩ | hp'
      · have hle := hp.length_le
        rw [hlen, hc', List.length_append, List.length_cons] at hle
        omega
      · exact hp'
    have hcontent : content = content' :=
      (List.prefix_of_prefix_length_le hp hp' (Nat.le_of_eq hlen)).eq_of_length hlen
    rw [hcontent, h'] at h
    exact (List.cons.inj (List.append_cancel_left h)).1.symm

end Checksum

/-! ## Replies -/

namespace Frame

theorem checkHeader_eq_ok_iff {header body : Bytes} :
    checkHeader header body = .ok () ↔ header <+: body := by
  rw [← List.isPrefixOf_iff_prefix, checkHeader]
  split
  · exact iff_of_true rfl ‹_›
  · exact iff_of_false nofun ‹_›

/-- **What a reply has to be** to pass its check. -/
theorem checkReply_eq_ok_iff {kind : ReplyKind} {frame : Bytes} :
    checkReply kind frame = .ok () ↔
      kind.minLength ≤ frame.withoutCr.length ∧ isDelimited frame.withoutCr = true ∧
        kind.header <+: frame.withoutCr ∧ checkSum frame.withoutCr = .ok () ∧
          (kind = .commandAck → checkEndCode frame.withoutCr = .ok ()) := by
  unfold checkReply
  by_cases hlen : frame.withoutCr.length < kind.minLength
  · refine iff_of_false ?_ fun h => absurd h.1 (Nat.not_le.2 hlen)
    simp [hlen, throw, throwThe, MonadExceptOf.throw]
  · by_cases hd : isDelimited frame.withoutCr = true
    · simp only [hlen, hd, if_false, if_true, check_bind_eq_ok, checkHeader_eq_ok_iff,
        Nat.le_of_not_lt hlen, true_and]
      cases kind with
      | status => exact and_congr_right fun _ => and_congr_right fun _ => iff_of_true rfl nofun
      | commandAck =>
        exact and_congr_right fun _ => and_congr_right fun _ => ⟨fun h _ => h, fun h => h rfl⟩
    · refine iff_of_false ?_ fun h => hd h.2.1
      simp [hlen, hd, throw, throwThe, MonadExceptOf.throw]

theorem checkBody_eq_ok_iff {body : Bytes} :
    checkBody body = .ok () ↔ isDelimited body = true ∧ checkSum body = .ok () := by
  rw [checkBody]
  split
  case isTrue h => exact (and_iff_right h).symm
  case isFalse h => exact iff_of_false nofun fun h' => h h'.1

/-- **A frame that starts with `@` passes** the checks of its delimiters and its check field exactly
if it is closed. -/
theorem delimited_and_checked_iff {body : Bytes} (hlen : 4 ≤ body.length)
    (hhead : body.head? = some Bytes.start) :
    isDelimited body = true ∧ checkSum body = .ok () ↔
      ∃ content, body = Checksum.close content := by
  constructor
  · rintro ⟨hdelimited, hsum⟩
    rw [isDelimited, Bool.and_eq_true, decide_eq_true_eq, decide_eq_true_eq] at hdelimited
    exact Checksum.exists_close_of_checkSum hsum hdelimited.2
  · rintro ⟨content, rfl⟩
    rw [Checksum.length_close] at hlen
    obtain ⟨b, bs, rfl⟩ := List.exists_cons_of_length_pos (l := content) (by omega)
    exact checkBody_eq_ok_iff.1 (Checksum.checkBody_close hhead)

theorem head?_of_header {header body : Bytes} {b : UInt8} (hb : header.head? = some b)
    (h : header <+: body) : body.head? = some b := by
  obtain ⟨rest, rfl⟩ := h
  rw [List.head?_append, hb]
  rfl

theorem checkReply_status_iff {frame : Bytes} :
    checkReply .status frame = .ok () ↔
      78 ≤ frame.withoutCr.length ∧ statusHeader <+: frame.withoutCr ∧
        ∃ content, frame.withoutCr = Checksum.close content := by
  rw [checkReply_eq_ok_iff]
  constructor
  · rintro ⟨hlen, hdelimited, hprefix, hsum, -⟩
    exact ⟨hlen, hprefix, (delimited_and_checked_iff (Nat.le_trans (by decide) hlen)
      (head?_of_header rfl hprefix)).1 ⟨hdelimited, hsum⟩⟩
  · rintro ⟨hlen, hprefix, hclosed⟩
    obtain ⟨hdelimited, hsum⟩ := (delimited_and_checked_iff (Nat.le_trans (by decide) hlen)
      (head?_of_header rfl hprefix)).2 hclosed
    exact ⟨hlen, hdelimited, hprefix, hsum, nofun⟩

/-! ## Requests -/

section

variable {frame body : Bytes}

/-- **What a command has to be** to pass its check. -/
theorem checkCommand_eq_ok_iff :
    checkCommand frame = .ok () ↔
      56 ≤ frame.withoutCr.length ∧ commandHeader ++ commandAddress <+: frame.withoutCr ∧
        ∃ content, frame.withoutCr = Checksum.close content := by
  have hcheck : checkCommand frame = .ok () ↔
      ¬ frame.withoutCr.length < commandLength ∧
        commandHeader ++ commandAddress <+: frame.withoutCr ∧
          checkBody frame.withoutCr = .ok () := by
    simp only [checkCommand, refuse_eq_ok, check_bind_eq_ok, checkHeader_eq_ok_iff]
  rw [hcheck, Nat.not_lt, checkBody_eq_ok_iff]
  refine and_congr_right fun hlen => and_congr_right fun hprefix => ?_
  exact delimited_and_checked_iff (Nat.le_trans (by decide) hlen) (head?_of_header rfl hprefix)

/-- A command needs no carriage return. -/
theorem checkCommand_withoutCr (h : checkCommand frame = .ok ()) :
    checkCommand frame.withoutCr = .ok () := by
  obtain ⟨hlen, hprefix, content, hclosed⟩ := checkCommand_eq_ok_iff.1 h
  rw [hclosed] at hlen hprefix ⊢
  rw [checkCommand_eq_ok_iff, Checksum.withoutCr_close]
  exact ⟨hlen, hprefix, content, rfl⟩

theorem not_statusHeader_of_commandHeader (h : commandHeader <+: body) :
    ¬ statusHeader <+: body := fun h' =>
  absurd ((List.prefix_of_prefix_length_le h h' (Nat.le_refl _)).eq_of_length rfl) (by decide)

theorem commandHeader_of_checkCommand (h : checkCommand frame = .ok ()) :
    commandHeader <+: frame.withoutCr :=
  (List.prefix_append _ _).trans (checkCommand_eq_ok_iff.1 h).2.1

/-- **A frame is taken for a command** exactly if it passes the check of commands. -/
theorem checkRequest_eq_command_iff :
    checkRequest frame = .ok .command ↔ checkCommand frame = .ok () := by
  simp only [checkRequest, refuse_eq_ok, List.isPrefixOf_iff_prefix]
  split
  case isTrue hcommand =>
    rw [check_bind_eq_ok]
    refine ⟨fun h => h.2.1, fun h => ⟨?_, h, rfl⟩⟩
    exact Nat.not_lt.2 (Nat.le_trans (by decide) (checkCommand_eq_ok_iff.1 h).1)
  case isFalse hcommand =>
    simp only [check_bind_eq_ok, refuse_eq_ok]
    exact iff_of_false (fun h => nomatch h.2.2.2.2) fun h =>
      hcommand (commandHeader_of_checkCommand h)

/-- **What a status request has to be** to pass its check. -/
theorem checkRequest_eq_status_iff :
    checkRequest frame = .ok .status ↔
      frame.withoutCr.length = 16 ∧ statusHeader <+: frame.withoutCr ∧
        ∃ content, frame.withoutCr = Checksum.close content := by
  simp only [checkRequest, refuse_eq_ok, List.isPrefixOf_iff_prefix]
  split
  case isTrue hcommand =>
    rw [check_bind_eq_ok]
    exact iff_of_false (fun h => nomatch h.2.2) fun h =>
      not_statusHeader_of_commandHeader hcommand h.2.1
  case isFalse hcommand =>
    simp only [check_bind_eq_ok, refuse_eq_ok, checkHeader_eq_ok_iff, checkBody_eq_ok_iff, not_not]
    constructor
    · rintro ⟨-, hheader, hlen, hbody, -⟩
      have hroom : 4 ≤ frame.withoutCr.length := hlen ▸ by decide
      exact ⟨hlen, hheader,
        (delimited_and_checked_iff hroom (head?_of_header rfl hheader)).1 hbody⟩
    · rintro ⟨hlen, hheader, hclosed⟩
      have hroom : 4 ≤ frame.withoutCr.length := hlen ▸ by decide
      refine ⟨hlen ▸ by decide, hheader, hlen, ?_, rfl⟩
      exact (delimited_and_checked_iff hroom (head?_of_header rfl hheader)).2 hclosed

end

end Frame

end DomeLink
