import CardToolkit.Buffer
import CardToolkit.Proofs.Encoding
import CardToolkit.Proofs.Reading

/-!
# What calls leave of a buffer

A call that writes an object puts all of it at the end of the buffer, or, where the
value is too long, no more than the tag, as the tag comes before the length. What a
run of such calls leaves is thus the objects that were short enough, with a tag that
belongs to nothing in the place of each of the others. One who reads it finds just
the objects that were written only where no call has failed.

A frame that is begun, filled with objects and closed is read back, and what is read
as a frame of objects was built so.

* `on_of_object?`: what one call leaves; `after_eq`, `written_eq`,
  `forall_fault_iff`: what a run of calls leaves, which objects it has written, and
  when none of them fails;
* `readAll_flatMap_remains_iff`: stray tags are never read over;
* `failed_call_leaves_tag`: all of this of calls that write lengths and objects;
* `frame_built_iff_read`: frames of objects, built and read.
-/

namespace CardToolkit

/-! ## Sizes -/

namespace Object

/-- The number of bytes of an object whose value is not too long. -/
def size (o : Object) : Nat := 1 + lengthSize o.value.length + o.value.length

theorem length_bytes (o : Object) : o.bytes.length = o.size := by
  simp only [bytes, size, List.length_append, List.length_cons, length_lengthBytes]
  omega

/-- The number of bytes of objects, one after the other. -/
def totalSize : List Object → Nat
  | [] => 0
  | o :: os => o.size + totalSize os

theorem length_flatMap_bytes (os : List Object) : (os.flatMap bytes).length = totalSize os := by
  induction os with
  | nil => rfl
  | cons o os ih => rw [List.flatMap_cons, List.length_append, ih, length_bytes, totalSize]

/-! ## Objects that were cut short -/

/-- What is left of an object once it was written: all of it, or its tag if the value
    is too long. -/
def remains (o : Object) : List UInt8 :=
  if o.value.length ≤ maxLength then o.bytes else [o.tag]

/-- The object is not too long to be written. -/
def isShort (o : Object) : Bool := o.value.length ≤ maxLength

theorem isShort_iff {o : Object} : o.isShort = true ↔ o.value.length ≤ maxLength :=
  decide_eq_true_iff

/-- Short objects are all that is left of objects, but for a tag of each other. -/
theorem length_flatMap_remains (os : List Object) :
    (os.flatMap remains).length =
      ((os.filter isShort).flatMap bytes).length + os.countP fun o => !o.isShort := by
  induction os with
  | nil => rfl
  | cons o os ih =>
    rw [List.flatMap_cons, List.length_append, ih]
    by_cases ho : o.isShort = true
    · rw [remains, if_pos (isShort_iff.1 ho), List.filter_cons_of_pos ho, List.flatMap_cons,
        List.length_append, List.countP_cons_of_neg (by simp [ho])]
      omega
    · rw [remains, if_neg fun h => ho (isShort_iff.2 h), List.filter_cons_of_neg ho,
        List.countP_cons_of_pos (by simp [ho]), List.length_singleton]
      omega

/-- Of short objects all is left. -/
theorem flatMap_remains_of_short {os : List Object} (h : ∀ o ∈ os, o.value.length ≤ maxLength) :
    os.flatMap remains = os.flatMap bytes := by
  rw [List.flatMap_def, List.flatMap_def]
  exact congrArg List.flatten (List.map_congr_left fun o ho => if_pos (h o ho))

/-- What is left of objects is read as the short ones just if all of them are. -/
theorem readAll_flatMap_remains_iff {os : List Object} :
    readAll (os.flatMap remains) = some (os.filter isShort) ↔
      ∀ o ∈ os, o.value.length ≤ maxLength := by
  rw [readAll_eq_some_iff]
  constructor
  · rintro ⟨-, hbytes⟩ o ho
    -- Each tag without an object makes what is left longer than what is read.
    have hlength := length_flatMap_remains os
    rw [hbytes] at hlength
    have hnone : (os.countP fun o => !o.isShort) = 0 := by omega
    have hshort := List.countP_eq_zero.1 hnone o ho
    exact isShort_iff.1 (by simpa using hshort)
  · intro h
    have hfilter : os.filter isShort = os :=
      List.filter_eq_self.2 fun o ho => isShort_iff.2 (h o ho)
    rw [hfilter]
    exact ⟨h, flatMap_remains_of_short h⟩

end Object

namespace Writing

variable {w : Writing} {ws : List Writing} {o : Object} {buffer : List UInt8}

/-! ## Calls -/

/-- The object that a call writes. -/
def object? : Writing → Option Object
  | length _ => none
  | object o => some o
  | answer data => some data.object
  | close => none

/-- A length is written in full, or not at all. -/
theorem on_length (n : Nat) (buffer : List UInt8) :
    (length n).on buffer =
      if n ≤ maxLength then ⟨buffer ++ lengthBytes n, none⟩
      else ⟨buffer, some (.valueTooLong n)⟩ := by
  split
  · next h =>
    show (lengthEmission n).on buffer = _
    rw [lengthEmission_of_le h]
    rfl
  · next h =>
    show (lengthEmission n).on buffer = _
    rw [lengthEmission_of_lt (Nat.lt_of_not_le h)]
    exact congrArg (Written.mk · _) (List.append_nil buffer)

/-- An object is written in full, or its tag is. -/
theorem on_of_object? (h : w.object? = some o) (buffer : List UInt8) :
    w.on buffer =
      if o.value.length ≤ maxLength then ⟨buffer ++ o.bytes, none⟩
      else ⟨buffer ++ [o.tag], some (.valueTooLong o.value.length)⟩ := by
  have hon : w.on buffer = o.emission.on buffer := by
    cases w with
    | length n => cases h
    | object o' => cases h; rfl
    | answer data => cases h; rfl
    | close => cases h
  rw [hon]
  split
  · next hshort => rw [Object.emission_of_le hshort]; rfl
  · next hlong => rw [Object.emission_of_lt (Nat.lt_of_not_le hlong)]; rfl

theorem buffer_on_of_object? (h : w.object? = some o) (buffer : List UInt8) :
    (w.on buffer).buffer = buffer ++ o.remains := by
  rw [on_of_object? h, Object.remains]
  split <;> rfl

theorem fault_on_of_object? (h : w.object? = some o) (buffer : List UInt8) :
    (w.on buffer).fault = none ↔ o.value.length ≤ maxLength := by
  rw [on_of_object? h]
  split
  · next hshort => exact iff_of_true rfl hshort
  · next hlong => exact iff_of_false (Option.some_ne_none _) hlong

/-- A frame is closed if its content is short enough, and else left as it is. -/
theorem on_close (tag place : UInt8) (content : List UInt8) :
    close.on (tag :: place :: content) =
      if content.length ≤ maxLength then ⟨tag :: lengthBytes content.length ++ content, none⟩
      else ⟨tag :: place :: content, some (.contentTooLong content.length)⟩ := by
  show Frame.closeIn _ = _
  rw [Frame.closeIn_eq]
  by_cases h : content.length ≤ maxLength
  · rw [Frame.close_of_le h, if_pos h]
  · rw [Frame.close_of_lt (Nat.lt_of_not_le h), if_neg h]

/-! ## Runs of calls -/

/-- The objects of the calls that have come to their end. -/
def written (buffer : List UInt8) : List Writing → List Object
  | [] => []
  | w :: ws =>
    (if (w.on buffer).fault = none then w.object?.toList else []) ++
      written (w.on buffer).buffer ws

theorem after_append (buffer : List UInt8) (ws ws' : List Writing) :
    after buffer (ws ++ ws') = after (after buffer ws) ws' := by
  induction ws generalizing buffer with
  | nil => rfl
  | cons w ws ih => exact ih (w.on buffer).buffer

theorem outcomes_append (buffer : List UInt8) (ws ws' : List Writing) :
    outcomes buffer (ws ++ ws') = outcomes buffer ws ++ outcomes (after buffer ws) ws' := by
  induction ws generalizing buffer with
  | nil => rfl
  | cons w ws ih => exact congrArg (w.on buffer :: ·) (ih (w.on buffer).buffer)

/-- The objects that calls are to write. -/
def objects (ws : List Writing) : List Object := ws.filterMap object?

theorem objects_cons (h : w.object? = some o) (ws : List Writing) :
    objects (w :: ws) = o :: objects ws := List.filterMap_cons_some h

section

variable (h : ∀ w ∈ ws, ∃ o, w.object? = some o)
include h

/-- A run of calls that write objects leaves what is left of each of them. -/
theorem after_eq (buffer : List UInt8) :
    after buffer ws = buffer ++ (objects ws).flatMap Object.remains := by
  induction ws generalizing buffer with
  | nil => exact (List.append_nil buffer).symm
  | cons w ws ih =>
    obtain ⟨⟨o, ho⟩, h⟩ := List.forall_mem_cons.1 h
    rw [after, ih h, buffer_on_of_object? ho, objects_cons ho, List.flatMap_cons,
      List.append_assoc]

/-- None of the calls fails just if all objects are short enough. -/
theorem forall_fault_iff (buffer : List UInt8) :
    (∀ x ∈ outcomes buffer ws, x.fault = none) ↔
      ∀ o ∈ objects ws, o.value.length ≤ maxLength := by
  induction ws generalizing buffer with
  | nil => exact iff_of_true nofun nofun
  | cons w ws ih =>
    obtain ⟨⟨o, ho⟩, h⟩ := List.forall_mem_cons.1 h
    rw [outcomes, List.forall_mem_cons, fault_on_of_object? ho, ih h, objects_cons ho,
      List.forall_mem_cons]

/-- The objects of the calls that have come to their end are those that are short
    enough. -/
theorem written_eq (buffer : List UInt8) :
    written buffer ws = (objects ws).filter Object.isShort := by
  induction ws generalizing buffer with
  | nil => rfl
  | cons w ws ih =>
    obtain ⟨⟨o, ho⟩, h⟩ := List.forall_mem_cons.1 h
    rw [written, ih h, objects_cons ho, ho]
    by_cases hshort : o.value.length ≤ maxLength
    · rw [if_pos ((fault_on_of_object? ho buffer).2 hshort),
        List.filter_cons_of_pos (Object.isShort_iff.2 hshort)]
      rfl
    · rw [if_neg fun hfault => hshort ((fault_on_of_object? ho buffer).1 hfault),
        List.filter_cons_of_neg fun hs => hshort (Object.isShort_iff.1 hs)]
      rfl

/-- What a run leaves of an empty buffer is read as the objects that it has written
    just if none of its calls has failed. -/
theorem readAll_after_iff :
    Object.readAll (after [] ws) = some (written [] ws) ↔
      ∀ x ∈ outcomes [] ws, x.fault = none := by
  rw [after_eq h, written_eq h, forall_fault_iff h]
  exact Object.readAll_flatMap_remains_iff

end

/-- A call that fails on a length leaves the buffer as it was; one that fails on an
    object, or on the object of an answer, leaves the tag there, and all others write
    their object. After a run of calls on objects, the buffer holds each object that is
    short enough, and the tag of each other, so that it is read as the objects of the
    calls that came to their end just if all of them did. -/
theorem failed_call_leaves_tag (buffer : List UInt8) (ws : List Writing) :
    (∀ n : Nat, (length n).on buffer =
        if n ≤ 255 then ⟨buffer ++ lengthBytes n, none⟩
        else ⟨buffer, some (.valueTooLong n)⟩) ∧
      (∀ (w : Writing) (o : Object), w.object? = some o →
        w.on buffer =
          if o.value.length ≤ 255 then ⟨buffer ++ o.bytes, none⟩
          else ⟨buffer ++ [o.tag], some (.valueTooLong o.value.length)⟩) ∧
      ((∀ w ∈ ws, ∃ o, w.object? = some o) →
        after [] ws = (objects ws).flatMap Object.remains ∧
          (Object.readAll (after [] ws) = some (written [] ws) ↔
            ∀ x ∈ outcomes [] ws, x.fault = none)) := by
  refine ⟨fun n => on_length n buffer, fun w o h => on_of_object? h buffer, fun h => ⟨?_, ?_⟩⟩
  · exact after_eq h []
  · exact readAll_after_iff h

/-- A text that is too long leaves a tag between two entries of a menu, and they are
    not read any more. -/
theorem failed_call_leaves_tag_of_text :
    let ws : List Writing :=
      [.object ⟨0x90, [0x01]⟩, .object ⟨0x8D, List.replicate 256 0x41⟩, .answer (.item 0x03)]
    (∀ w ∈ ws, ∃ o, w.object? = some o) ∧
      after [] ws = [0x90, 0x01, 0x01, 0x8D, 0x90, 0x01, 0x03] ∧
      written [] ws = [⟨0x90, [0x01]⟩, ⟨0x90, [0x03]⟩] ∧
      Object.readAll (after [] ws) ≠ some (written [] ws) := by
  intro ws
  have hws : ∀ w ∈ ws, ∃ o, w.object? = some o :=
    List.forall_mem_cons.2 ⟨⟨_, rfl⟩, List.forall_mem_cons.2 ⟨⟨_, rfl⟩,
      List.forall_mem_cons.2 ⟨⟨_, rfl⟩, nofun⟩⟩⟩
  obtain ⟨hafter, hread⟩ := (failed_call_leaves_tag [] ws).2.2 hws
  refine ⟨hws, hafter.trans (by decide +kernel), by decide +kernel, fun h => ?_⟩
  exact absurd (hread.1 h) (by decide +kernel)

/-- An object whose value is too long is not taken back. -/
theorem buffer_changed_by_failed_call :
    ¬∀ (w : Writing) (buffer : List UInt8),
      (w.on buffer).fault ≠ none → (w.on buffer).buffer = buffer := by
  intro h
  let w : Writing := .object ⟨0x90, List.replicate 256 0x00⟩
  have hfault : (w.on []).fault ≠ none := by decide +kernel
  have hbuffer : (w.on []).buffer = [0x90] := by decide +kernel
  have hkept := h w [] hfault
  rw [hbuffer] at hkept
  cases hkept

/-! ## Frames of objects -/

theorem objects_map (os : List Object) : objects (os.map object) = os := by
  rw [objects, List.filterMap_map]
  exact List.filterMap_some

theorem lengthBytes_eq (n : Nat) :
    lengthBytes n = if n ≤ 127 then [UInt8.ofNat n] else [0x81, UInt8.ofNat n] := by
  rw [lengthBytes]
  by_cases h : maxShortLength < n
  · have hlong : ¬n ≤ 127 := Nat.not_le.2 h
    rw [if_pos h, if_neg hlong]
    rfl
  · have hshort : n ≤ 127 := Nat.not_lt.1 h
    rw [if_neg h, if_pos hshort]

/-- A frame of objects is built without a fault just if all that it holds is short
    enough. -/
theorem forall_fault_build_iff {tag : UInt8} {os : List Object} :
    (∀ x ∈ outcomes (Frame.start tag) (os.map object ++ [close]), x.fault = none) ↔
      (∀ o ∈ os, o.value.length ≤ maxLength) ∧ (os.flatMap Object.bytes).length ≤ maxLength := by
  have hobjects : ∀ w ∈ os.map object, ∃ o, w.object? = some o :=
    List.forall_mem_map.2 fun o _ => ⟨o, rfl⟩
  rw [outcomes_append, List.forall_mem_append, forall_fault_iff hobjects, objects_map,
    after_eq hobjects, objects_map]
  refine and_congr_right fun hshort => ?_
  rw [Object.flatMap_remains_of_short hshort, Frame.start, outcomes, outcomes,
    List.forall_mem_singleton]
  show (close.on (tag :: 0x00 :: os.flatMap Object.bytes)).fault = none ↔ _
  rw [on_close]
  split
  · next h => exact iff_of_true rfl h
  · next h => exact iff_of_false (Option.some_ne_none _) h

/-- What is built without a fault is the frame of the objects. -/
theorem after_build {tag : UInt8} {os : List Object}
    (hshort : ∀ o ∈ os, o.value.length ≤ maxLength)
    (hcontent : (os.flatMap Object.bytes).length ≤ maxLength) :
    after (Frame.start tag) (os.map object ++ [close]) =
      tag :: lengthBytes (os.flatMap Object.bytes).length ++ os.flatMap Object.bytes := by
  have hobjects : ∀ w ∈ os.map object, ∃ o, w.object? = some o :=
    List.forall_mem_map.2 fun o _ => ⟨o, rfl⟩
  rw [after_append, after_eq hobjects, objects_map, Object.flatMap_remains_of_short hshort]
  show (close.on (tag :: 0x00 :: os.flatMap Object.bytes)).buffer = _
  rw [on_close, if_pos hcontent]

/-- What is read as a frame of objects is what is built of them. -/
theorem read_iff_build {tag : UInt8} {os : List Object} {bs : List UInt8} :
    (∃ content, Frame.read? bs = some (tag, content) ∧ Object.readAll content = some os) ↔
      (∀ x ∈ outcomes (Frame.start tag) (os.map object ++ [close]), x.fault = none) ∧
        after (Frame.start tag) (os.map object ++ [close]) = bs := by
  rw [forall_fault_build_iff]
  constructor
  · rintro ⟨content, hframe, hobjects⟩
    obtain ⟨hshort, rfl⟩ := Object.readAll_eq_some_iff.1 hobjects
    have hwrap := Frame.read?_eq_some_iff.1 hframe
    have hcontent := Frame.exists_wrap_iff.1 ⟨bs, hwrap⟩
    refine ⟨⟨hshort, hcontent⟩, (after_build hshort hcontent).trans ?_⟩
    exact Except.ok.inj ((Frame.close_of_le hcontent).symm.trans hwrap)
  · rintro ⟨⟨hshort, hcontent⟩, rfl⟩
    refine ⟨os.flatMap Object.bytes, ?_, Object.readAll_eq_some_iff.2 ⟨hshort, rfl⟩⟩
    rw [after_build hshort hcontent]
    exact Frame.read?_of_wrap (Frame.close_of_le hcontent)

/-- Closing fails on a buffer without a tag or a length, and on one whose content is too
    long. -/
theorem fault_close_iff {buffer : List UInt8} :
    (close.on buffer).fault ≠ none ↔ buffer.length < 2 ∨ 257 < buffer.length := by
  match buffer with
  | [] => exact iff_of_true (Option.some_ne_none _) (.inl Nat.two_pos)
  | [_] => exact iff_of_true (Option.some_ne_none _) (.inl Nat.one_lt_two)
  | tag :: place :: content =>
    rw [on_close]
    simp only [List.length_cons]
    split
    · next h =>
      have hle : content.length ≤ 255 := h
      exact iff_of_false (not_not_intro rfl) (by omega)
    · next h =>
      have hlt : ¬content.length ≤ 255 := h
      exact iff_of_true (Option.some_ne_none _) (by omega)

/-- Where closing fails, it leaves the buffer as it was. -/
theorem buffer_close_of_fault {buffer : List UInt8} (h : (close.on buffer).fault ≠ none) :
    (close.on buffer).buffer = buffer := by
  revert h
  show (Frame.closeIn buffer).fault ≠ none → (Frame.closeIn buffer).buffer = buffer
  rw [Frame.closeIn_eq]
  cases Frame.close buffer with
  | ok bs => exact fun h => absurd rfl h
  | error f => exact fun _ => rfl

/-- A frame of objects is built without a fault just if each value has 255 bytes at most
    and all objects together have so. What is read as a frame of objects was built of
    them, and what was built of them is read so. The length is one byte for a content of
    up to 127 bytes, and `0x81` and a byte for a longer one. Whatever is in the place of
    the length, closing fails just on fewer than 2 bytes and on more than 257, and then
    changes nothing; else it keeps the tag and the content. -/
theorem frame_built_iff_read (tag : UInt8) (os : List Object) :
    let calls := os.map object ++ [close]
    let content := os.flatMap Object.bytes
    let Succeeds := ∀ x ∈ outcomes (Frame.start tag) calls, x.fault = none
    (Succeeds ↔ (∀ o ∈ os, o.value.length ≤ 255) ∧ Object.totalSize os ≤ 255) ∧
      (∀ bs, (∃ content, Frame.read? bs = some (tag, content) ∧
          Object.readAll content = some os) ↔
        Succeeds ∧ after (Frame.start tag) calls = bs) ∧
      (Succeeds → after (Frame.start tag) calls =
        tag :: (if content.length ≤ 127 then [UInt8.ofNat content.length]
          else [0x81, UInt8.ofNat content.length]) ++ content) ∧
      (∀ buffer, (close.on buffer).fault ≠ none ↔ buffer.length < 2 ∨ 257 < buffer.length) ∧
      (∀ buffer, (close.on buffer).fault ≠ none → (close.on buffer).buffer = buffer) ∧
      ∀ tag place content, (close.on (tag :: place :: content)).fault = none →
        (close.on (tag :: place :: content)).buffer =
          tag :: (if content.length ≤ 127 then [UInt8.ofNat content.length]
            else [0x81, UInt8.ofNat content.length]) ++ content := by
  intro calls content Succeeds
  have hsucceeds : Succeeds ↔ (∀ o ∈ os, o.value.length ≤ 255) ∧ content.length ≤ 255 :=
    forall_fault_build_iff
  refine ⟨?_, fun bs => read_iff_build, fun h => ?_, fun buffer => fault_close_iff,
    fun buffer => buffer_close_of_fault, fun tag place content h => ?_⟩
  · rw [hsucceeds, Object.length_flatMap_bytes]
  · obtain ⟨hshort, hcontent⟩ := hsucceeds.1 h
    rw [← lengthBytes_eq]
    exact after_build hshort hcontent
  · have hcontent : content.length ≤ maxLength := by
      have hlength := mt fault_close_iff.2 (not_not_intro h)
      simp only [List.length_cons] at hlength
      show content.length ≤ 255
      omega
    rw [on_close, if_pos hcontent, lengthBytes_eq]

end Writing

end CardToolkit
