import CardToolkit.Proofs.Encoding
import CardToolkit.Proofs.Reading

/-!
# Reports of events

A report of an event begins with two objects, the event and the devices. Where the
event has an object of its own, the tag and the length of that follow, and then the
bytes of the one who reports it, as they are. The length is thus told of a value
that someone else supplies. A reader takes as many of these bytes for the value, and
goes on behind them; so the report is made of objects just if there are as many, and
those behind them are objects, and there is no other way to read it.

* `eventContent_eq`, `length_eventContent`: the bytes of a report, and their number;
* `readAll_announced_iff`: what is read behind the tag and the length that an event
  announces;
* `eventDownload_exact`: when a report is written, what it holds, and what objects
  are read in it.
-/

namespace CardToolkit.Envelope

/-! ## The object of an event -/

/-- The tag and the length of the object that an event has of its own: the
    language that was chosen, or the cause for which a page was left. -/
def announced (event : UInt8) : List UInt8 :=
  if event = 0x07 then [0xAD, 0x02] else if event = 0x08 then [0xB4, 0x01] else []

/-- The number of bytes that the object of an event is to have. -/
def announcedLength (event : UInt8) : Nat :=
  if event = 0x07 then 2 else if event = 0x08 then 1 else 0

/-- The object that an event has of its own, if it has one. -/
def announcedObjects (event : UInt8) (value : List UInt8) : List Object :=
  if event = 0x07 then [⟨0xAD, value⟩] else if event = 0x08 then [⟨0xB4, value⟩] else []

theorem eventHeader_eq (event : UInt8) : eventHeader event = announced event := by
  rw [eventHeader]
  cases h : (Vocabulary.ofByte? event : Option EventCode) with
  | none =>
    have hnone := Vocabulary.ofByte?_eq_none_iff.1 h
    have hlanguage : event ≠ 0x07 := fun he => hnone .languageSelection he.symm
    have hbrowser : event ≠ 0x08 := fun he => hnone .browserTermination he.symm
    rw [announced, if_neg hlanguage, if_neg hbrowser]
  | some e =>
    obtain rfl := Vocabulary.ofByte?_eq_some_iff.1 h
    cases e <;> rfl

theorem length_announced (event : UInt8) :
    (announced event).length = if event = 0x07 ∨ event = 0x08 then 2 else 0 := by
  rw [announced]
  split
  · next hlanguage => rw [if_pos (.inl hlanguage)]; rfl
  · next hlanguage =>
    split
    · next hbrowser => rw [if_pos (.inr hbrowser)]; rfl
    · next hbrowser => rw [if_neg (not_or.2 ⟨hlanguage, hbrowser⟩)]; rfl

variable {event source destination : UInt8} {info : List UInt8} {os : List Object}

/-- Behind what an event announces, as many bytes are read as its value as are
    announced, and then what follows them. -/
theorem readAll_announced_iff :
    Object.readAll (announced event ++ info) = some os ↔
      ∃ value rest os', info = value ++ rest ∧ value.length = announcedLength event ∧
        Object.readAll rest = some os' ∧ os = announcedObjects event value ++ os' := by
  unfold announced announcedLength announcedObjects
  split
  · exact Object.readAll_header_iff (by decide)
  · split
    · exact Object.readAll_header_iff (by decide)
    · constructor
      · intro h
        exact ⟨[], info, os, rfl, rfl, h, rfl⟩
      · rintro ⟨value, rest, os', rfl, hlength, h, rfl⟩
        rw [List.length_eq_zero_iff.1 hlength]
        exact h

/-! ## The report -/

/-- The bytes of a report. -/
theorem eventContent_eq (event source destination : UInt8) (info : List UInt8) :
    eventContent event source destination info =
      [0x99, 0x01, event, 0x82, 0x02, source, destination] ++ announced event ++ info := by
  rw [eventContent, eventHeader_eq]
  rfl

/-- The number of bytes of a report: seven for the event and the devices, two for what
    is announced if something is, and the bytes of the one who reports. -/
def reportLength (event : UInt8) (info : List UInt8) : Nat :=
  7 + (if event = 0x07 ∨ event = 0x08 then 2 else 0) + info.length

theorem length_eventContent (event source destination : UInt8) (info : List UInt8) :
    (eventContent event source destination info).length = reportLength event info := by
  rw [eventContent_eq, List.length_append, List.length_append, length_announced]
  rfl

/-- The objects of a report are the event, the devices, the object of the event, and
    those that are read behind its value. -/
theorem readAll_eventContent_iff :
    Object.readAll (eventContent event source destination info) = some os ↔
      ∃ value rest os', info = value ++ rest ∧ value.length = announcedLength event ∧
        Object.readAll rest = some os' ∧
        os = eventObjects event source destination ++ (announcedObjects event value ++ os') := by
  have hshort : ∀ o ∈ eventObjects event source destination, o.value.length ≤ maxLength := by
    simp [eventObjects, devicesObject, maxLength]
  rw [eventContent, List.append_assoc, eventHeader_eq, Object.readAll_flatMap_append_iff hshort]
  constructor
  · rintro ⟨os'', hos'', rfl⟩
    obtain ⟨value, rest, os', hinfo, hlength, hos', rfl⟩ := readAll_announced_iff.1 hos''
    exact ⟨value, rest, os', hinfo, hlength, hos', rfl⟩
  · rintro ⟨value, rest, os', hinfo, hlength, hos', rfl⟩
    exact ⟨_, readAll_announced_iff.2 ⟨value, rest, os', hinfo, hlength, hos', rfl⟩, rfl⟩

/-- A report is refused just if its content has more than 255 bytes. Else it is a frame
    around the event, the devices, what the event announces, and the bytes of the one
    who reports. These are read as objects just if what is reported begins with as many
    bytes as are announced, and goes on with bytes that are read as objects; what is
    read are the event, the devices, the object of the event, and those objects. -/
theorem eventDownload_exact (event source destination : UInt8) (info : List UInt8) :
    (∀ f, eventDownload event source destination info = .error f ↔
        255 < reportLength event info ∧ f = .contentTooLong (reportLength event info)) ∧
      let content :=
        [0x99, 0x01, event, 0x82, 0x02, source, destination] ++ announced event ++ info
      (∀ bs, eventDownload event source destination info = .ok bs ↔
        Frame.read? bs = some (0xD6, content)) ∧
      (∀ os, Object.readAll content = some os ↔
        ∃ value rest os', info = value ++ rest ∧ value.length = announcedLength event ∧
          Object.readAll rest = some os' ∧
          os = [⟨0x99, [event]⟩, ⟨0x82, [source, destination]⟩] ++
            announcedObjects event value ++ os') := by
  have hwrap : eventDownload event source destination info =
      Frame.wrap 0xD6 (eventContent event source destination info) := rfl
  refine ⟨fun f => ?_, fun bs => ?_, fun os => ?_⟩
  · rw [hwrap, Frame.wrap_eq_error_iff, length_eventContent]
    rfl
  · rw [hwrap, Frame.read?_eq_some_iff, eventContent_eq]
  · rw [← eventContent_eq, readAll_eventContent_iff]
    simp only [List.append_assoc]
    rfl

end CardToolkit.Envelope
