import CardToolkit.Proofs.Encoding
import CardToolkit.Proofs.Reading

/-!
# Terminal responses on the wire

The objects of a terminal response by their bytes: three that open it
(`TerminalResponse.opening`), and one that may close it
(`TerminalResponse.Closes`) — what the user chose, entered or decided, or, where
there is no such answer, the time waited in vain for a key, or the language that
the card asks for. A response is these objects and nothing else, so that one who
reads objects to the end finds them all, and no other bytes are a response.

* `last_eq_some_iff`: an object closes a response just if it is its last one;
* `encode_congr`: responses that open and close alike have the same bytes;
* `encode_eq_ok_iff`: bytes are those of a response just if its objects are read
  from them;
* `encode_reads_back`: when a response has bytes, and what is read from them.
-/

namespace CardToolkit.TerminalResponse

/-- The objects that open a response: the details, marked if the card had marked
    them, the devices, and the result, with a byte more on it if there is one. -/
def opening (d : Details) (result : ResultCode) (info : Option UInt8) : List Object :=
  [⟨if d.required then 0x81 else 0x01, [d.number, d.typeByte, d.qualifier]⟩,
    ⟨0x02, [0x82, 0x81]⟩,
    ⟨0x83, result.value :: info.toList⟩]

/-- The object may close the response. -/
inductive Closes (r : TerminalResponse) : Object → Prop
  /-- The entry that the user chose. -/
  | item {id : UInt8} (h : r.data = some (.item id)) : Closes r ⟨0x90, [id]⟩
  /-- The text that the user entered, behind the byte of its coding. -/
  | text {text : String} {coding : Coding} (h : r.data = some (.text text coding)) :
    Closes r ⟨0x8D, coding.scheme :: coding.encode text⟩
  /-- The user said yes or no, which is told in a text as well. -/
  | yesNo {yes : Bool} (h : r.data = some (.yesNo yes)) :
    Closes r ⟨0x8D, [0x04, if yes then 0x01 else 0x00]⟩
  /-- A language. -/
  | language {code : String} (h : r.data = some (.language code)) : Closes r ⟨0x2D, Text.utf8 code⟩
  /-- The user did not press a key in time. -/
  | waited {i : Input} {d : Duration} (h : r.data = none)
    (type : r.details.type? = some .getInkey) (result : r.result = .noResponse)
    (input : r.input = some i) (duration : i.duration = some d) :
    Closes r ⟨0x04, [0x01, d.interval]⟩
  /-- The card asks for the language. -/
  | asked {code : String} (h : r.data = none)
    (type : r.details.type? = some .provideLocalInformation) (qualifier : r.details.qualifier = 0x04)
    (result : r.result = .ok) (language : r.language = some code) : Closes r ⟨0x2D, Text.utf8 code⟩

variable {r : TerminalResponse} {o : Object} {bs : List UInt8}

/-! ## The objects by their bytes -/

theorem fixedObjects_eq_opening : r.fixedObjects = opening r.details r.result r.info := by
  rw [fixedObjects, opening, detailsObject]
  cases r.details.required <;> rfl

theorem objects_eq : r.objects = opening r.details r.result r.info ++ r.last.toList := by
  rw [← fixedObjects_eq_opening]
  rfl

/-- What follows from the command closes a response without an answer. -/
theorem closes_of_derived (hdata : r.data = none) (h : r.derived = some o) : r.Closes o := by
  rw [derived] at h
  split at h
  · next htype =>
    split at h
    · next hresult =>
      obtain ⟨d, hd, rfl⟩ := Option.map_eq_some_iff.1 h
      obtain ⟨i, hi, hduration⟩ := Option.bind_eq_some_iff.1 hd
      exact .waited hdata htype hresult hi hduration
    · cases h
  · next htype =>
    split at h
    · next hasked =>
      obtain ⟨code, hcode, rfl⟩ := Option.map_eq_some_iff.1 h
      exact .asked hdata htype hasked.1 hasked.2 hcode
    · cases h
  · cases h

/-- An object closes a response just if it is its last one. -/
theorem last_eq_some_iff : r.last = some o ↔ r.Closes o := by
  constructor
  · intro h
    rw [last] at h
    cases hdata : r.data with
    | none =>
      rw [hdata] at h
      exact closes_of_derived hdata h
    | some data =>
      rw [hdata] at h
      cases h
      cases data with
      | item id => exact .item hdata
      | text text coding => exact .text hdata
      | yesNo yes => exact .yesNo hdata
      | language code => exact .language hdata
  · intro h
    cases h with
    | item h | text h | yesNo h | language h => rw [last, h]; rfl
    | waited h type result input duration =>
      simp only [last, h, derived, type, if_pos result, input, Option.bind_some, duration]
      rfl
    | asked h type qualifier result language =>
      have hasked : r.details.qualifier = languageSetting ∧ r.result = .ok := ⟨qualifier, result⟩
      simp only [last, h, derived, type, if_pos hasked, language]
      rfl

/-! ## Responses that are closed alike -/

section

variable {r' : TerminalResponse}

/-- Responses with the same answer are closed by the same object. -/
theorem last_of_data {data : AnswerData} (h : r.data = some data) (h' : r'.data = some data) :
    r.last = r'.last := by
  rw [last, last, h, h']

/-- Responses without an answer are closed by what follows from the command. -/
theorem last_of_derived (h : r.data = none) (h' : r'.data = none) (hderived : r.derived = r'.derived) :
    r.last = r'.last := by
  rw [last, last, h, h']
  exact hderived

/-- Where a command went wrong, the same follows from it if as much time was to be
    waited, in whatever units. -/
theorem derived_of_interval (details : r.details = r'.details) (result : r.result = r'.result)
    (hresult : r'.result ≠ .ok)
    (duration : (r.input.bind Input.duration).map Duration.interval =
      (r'.input.bind Input.duration).map Duration.interval) : r.derived = r'.derived := by
  have hobject (d : Option Duration) : d.map durationObject =
      (d.map Duration.interval).map fun n => durationObject ⟨.second, n⟩ := by
    cases d <;> rfl
  rw [derived, derived, details, result, hobject, duration, ← hobject]
  split
  · rfl
  · rw [if_neg fun h => hresult h.2, if_neg fun h => hresult h.2]
  · rfl

/-- Responses with the same details and result that are closed alike have the same
    bytes. -/
theorem encode_congr (details : r.details = r'.details) (result : r.result = r'.result)
    (info : r.info = r'.info) (hlast : r.last = r'.last) : r.encode = r'.encode := by
  have hobjects : r.objects = r'.objects := by
    rw [objects_eq, objects_eq, details, result, info, hlast]
  rw [encode, encode, hobjects]

end

/-! ## Reading a response -/

/-- A response fits just if what closes it has a length that can be told. -/
theorem fits_iff : r.Fits ↔ ∀ o, r.Closes o → o.value.length ≤ maxLength :=
  forall_congr' fun _ => imp_congr_left last_eq_some_iff

/-- Bytes are those of a response just if its objects are read from them. -/
theorem encode_eq_ok_iff : r.encode = .ok bs ↔ Object.readAll bs = some r.objects := by
  rw [Object.readAll_eq_some_iff]
  constructor
  · intro h
    have hfits : r.Fits := exists_encode_iff.1 ⟨bs, h⟩
    rw [encode_of_fits hfits] at h
    cases h
    refine ⟨fun o ho => ?_, rfl⟩
    rcases List.mem_append.1 ho with hfixed | hlast
    · exact length_of_mem_fixedObjects hfixed
    · exact hfits o (Option.mem_toList.1 hlast)
  · rintro ⟨hobjects, rfl⟩
    refine encode_of_fits fun o ho => hobjects o ?_
    exact List.mem_append_right _ (Option.mem_toList.2 ho)

variable (r) in
/-- A response opens with three objects, and one object at most closes it. From
    its bytes these objects are read, to the end, and from no other bytes. It has
    bytes just if the value of what closes it has 255 bytes at most; otherwise
    the length of that value is the fault. -/
theorem encode_reads_back :
    ∃ last : Option Object, (∀ o, last = some o ↔ r.Closes o) ∧
      (∀ bs, r.encode = .ok bs ↔
        Object.readAll bs = some (opening r.details r.result r.info ++ last.toList)) ∧
      ((∃ bs, r.encode = .ok bs) ↔ ∀ o, r.Closes o → o.value.length ≤ 255) ∧
      ∀ o, r.Closes o → 255 < o.value.length →
        r.encode = .error (.valueTooLong o.value.length) := by
  refine ⟨r.last, fun o => last_eq_some_iff, fun bs => ?_, ?_, fun o ho hlong => ?_⟩
  · rw [← objects_eq]
    exact encode_eq_ok_iff
  · exact exists_encode_iff.trans fits_iff
  · exact encode_of_last (last_eq_some_iff.2 ho) hlong

end CardToolkit.TerminalResponse
