import CardToolkit.Proofs.Engine.Answer
import CardToolkit.Proofs.Engine.Menu

/-!
# Where the details of a response come from

A command that waits was sent by the card in some message of the run, its
*origin*: the one by which it was shown, or, once a session has ended, the one
that has set up the menu. A terminal response to it echoes the details of that
message, mark and all, however the host has marked its reply, and whatever
happened in between.

One type is an exception. A refresh is kept as it is shown, as a text of the idle
screen, and the response to it carries the type of such a text
(`refresh_answered_as_idle_text`).

* `Origin`: the message that a command which waits has come in;
* `outstanding_iff_origin`: what waits after a run, by its history;
* `reply_echoes_origin`: the details of a response, by the origin of what waits.
-/

namespace CardToolkit

/-- The entry puts the command of the card in the place of what waits, given what
    came before: it shows the command, or ends a session while the command is the
    last one about the menu. -/
def Entry.Arms (before : List Entry) (e : Entry) (c : Command) : Prop :=
  e.Shows c ∨ e.message = .sessionEnd ∧ LastMenu before c ∧ ¬c.WithdrawsMenu

/-- The command of the card was put in the place of what waits, and nothing has
    ended the wait since. -/
def Origin (t : List Entry) (c : Command) : Prop :=
  ∃ before e after, t = before ++ e :: after ∧ e.Arms before c ∧ ∀ e' ∈ after, ¬e'.EndsWait

namespace Engine

open Command

variable {language : String} {s : Slots} {c d : Command} {r : Reply} {hex : String}

/-! ## What waits -/

/-- What is remembered as the menu is shown as it is. -/
theorem shown_eq_of_menu {t : List Entry} (h : LastMenu t c) : c.shown = c := by
  obtain ⟨before, e, after, -, hbrings, -⟩ := h
  refine shown_of_ne_refresh ?_
  rw [hbrings.2]
  decide

/-- What waits after a run is what its origin was shown as. -/
theorem outstanding_iff_origin (l : List (Message × Verdict)) :
    (slotsAfter language {} l).outstanding = some d ↔
      ∃ c, Origin (history language {} l) c ∧ c.shown = d := by
  -- A run is taken apart at its end, as the history is by the last entry.
  induction l using List.reverseRecOn with
  | nil =>
    refine iff_of_false nofun ?_
    rintro ⟨c, ⟨before, e, after, hnil, -⟩, -⟩
    simp [history] at hnil
  | append_singleton l p ih =>
    obtain ⟨m, v⟩ := p
    rw [history_append, slotsAfter_append]
    refine Iff.trans outstanding_step_iff ?_
    simp only [history, Origin, exists_split_append_singleton]
    rw [ih, menu_eq_some_iff]
    constructor
    · rintro (⟨c, hc, rfl⟩ | ⟨rfl, hlast, hkept⟩ | ⟨hnot, c, hc, rfl⟩)
      · exact ⟨c, .inl (.inl hc), rfl⟩
      · exact ⟨d, .inl (.inr ⟨rfl, hlast, hkept⟩), shown_eq_of_menu hlast⟩
      · exact ⟨c, .inr ⟨hnot, hc⟩, rfl⟩
    · rintro ⟨c, (hc | ⟨hend, hlast, hkept⟩) | ⟨hnot, hc⟩, rfl⟩
      · exact .inl ⟨c, hc, rfl⟩
      · rw [shown_eq_of_menu hlast]
        exact .inr (.inl ⟨hend, hlast, hkept⟩)
      · exact .inr (.inr ⟨hnot, c, hc, rfl⟩)

/-! ## What is echoed -/

/-- A reply that is carried as a terminal response is carried in the one that echoes
    the details. -/
theorem exists_encode_of_dispatch
    (h : (dispatch language s r).request = .ok (.terminalResponse hex)) :
    ∃ bs, (replyResponse language s r).encode = .ok bs ∧ hex = Hex.encode bs := by
  have hdeliver (d : Except EncodingFault (List UInt8)) :
      deliver d ≠ .ok (.terminalResponse hex) := fun hd => by
    obtain ⟨bs, -, ⟨⟩⟩ := map_eq_ok_iff.1 hd
  have hrespond (t : TerminalResponse) (ht : respond t = .ok (.terminalResponse hex)) :
      ∃ bs, t.encode = .ok bs ∧ hex = Hex.encode bs := by
    obtain ⟨bs, hbs, ⟨⟩⟩ := map_eq_ok_iff.1 ht
    exact ⟨bs, hbs, rfl⟩
  rw [dispatch] at h
  split at h
  · split at h
    · exact absurd h (hdeliver _)
    · exact absurd h (hdeliver _)
    · cases h
    · exact hrespond _ h
  · exact hrespond _ h

/-- A response opens with the object of its details. -/
theorem exists_rest_of_encode {t : TerminalResponse} {bs : List UInt8} (h : t.encode = .ok bs) :
    ∃ rest, bs = [if t.details.required then 0x81 else 0x01, 0x03, t.details.number,
      t.details.typeByte, t.details.qualifier] ++ rest := by
  obtain ⟨-, rfl⟩ := Object.readAll_eq_some_iff.1 (TerminalResponse.encode_eq_ok_iff.1 h)
  rw [TerminalResponse.objects_eq]
  exact ⟨_, rfl⟩

variable (language) in
/-- A terminal response on a reply to the command that waits echoes the details with
    which the card has sent that command: its mark, its number, its type unless it
    is a refresh, and its qualifier. A refresh is answered as a text of the idle
    screen. -/
theorem reply_echoes_origin (l : List (Message × Verdict)) (v : Verdict)
    (hawaits : (slotsAfter language {} l).awaits r.details = true)
    (h : (step language (slotsAfter language {} l) (.reply r) v).attempted =
      some (.terminalResponse hex)) :
    (∃ c, Origin (history language {} l) c) ∧
      ∀ c, Origin (history language {} l) c → ∃ rest,
        Hex.IsTextOf hex
          ([if c.details.required then 0x81 else 0x01, 0x03, c.details.number,
            if c.details.typeByte = 0x01 then 0x28 else c.details.typeByte,
            c.details.qualifier] ++ rest) := by
  obtain ⟨d, hd, hsame⟩ := awaits_iff.1 hawaits
  obtain ⟨c₀, horigin, -⟩ := (outstanding_iff_origin l).1 hd
  refine ⟨⟨c₀, horigin⟩, fun c hc => ?_⟩
  have hwaits : (slotsAfter language {} l).outstanding = some c.shown :=
    (outstanding_iff_origin l).2 ⟨c, hc, rfl⟩
  obtain rfl : c.shown = d := Option.some.inj (hwaits.symm.trans hd)
  obtain ⟨bs, hbs, rfl⟩ := exists_encode_of_dispatch (isCarried_of_attempted h).2
  obtain ⟨rest, rfl⟩ := exists_rest_of_encode hbs
  have hdetails : (replyResponse language (slotsAfter language {} l) r).details = c.shown.details :=
    replyDetails_of_same hwaits (Details.same_iff.2 hsame)
  rw [hdetails]
  exact ⟨rest, Hex.isTextOf_encode _⟩

/-- The menu that waits again after a session, which the card has not marked: the
    response to a user who went away is not marked either, though the reply is. -/
theorem menu_echoed_after_session :
    let c : Command :=
      { details := { required := false, number := 7, typeByte := 0x25, qualifier := 1 } }
    let c' : Command := { details := .ofType 3 .displayText 0x80, payload := .text {} }
    let r : Reply := { details := { c.details with required := true }, result := .backwardMove }
    let l : List (Message × Verdict) :=
      [(.command c .ok, .accepted), (.command c' .ok, .refused "down"), (.sessionEnd, .accepted)]
    let hex := "010307250102028281830111"
    ((slotsAfter "en" {} l).awaits r.details = true ∧
        (step "en" (slotsAfter "en" {} l) (.reply r) .accepted).attempted =
          some (.terminalResponse hex)) ∧
      ∃ rest, Hex.IsTextOf hex ([0x01, 0x03, 7, 0x25, 1] ++ rest) := by
  intro c c' r l hex
  have hawaits : (slotsAfter "en" {} l).awaits r.details = true := by decide
  have h : (step "en" (slotsAfter "en" {} l) (.reply r) .accepted).attempted =
      some (.terminalResponse hex) := by decide
  refine ⟨⟨hawaits, h⟩, ?_⟩
  obtain ⟨c₀, horigin, hshown⟩ := (outstanding_iff_origin l).1
    (show (slotsAfter "en" {} l).outstanding = some c by decide)
  have hsame : c₀.shown = c₀ :=
    shown_eq_of_type? (t := .setUpMenu) (by rw [hshown]; rfl) (by decide)
  obtain rfl : c₀ = c := hsame.symm.trans hshown
  exact (reply_echoes_origin "en" l .accepted hawaits h).2 c horigin

/-- A refresh is not answered under its own type, but as the text of the idle screen
    that the host was shown. -/
theorem refresh_answered_as_idle_text :
    let c : Command := { details := .ofType 1 .refresh 0 }
    let r : Reply := { details := .ofType 1 .setUpIdleModeText 0, result := .ok }
    let l : List (Message × Verdict) := [(.command c .ok, .accepted)]
    (slotsAfter "en" {} l).awaits r.details = true ∧ Origin (history "en" {} l) c ∧
      ∃ hex, (step "en" (slotsAfter "en" {} l) (.reply r) .accepted).attempted =
          some (.terminalResponse hex) ∧
        ¬∃ rest, Hex.IsTextOf hex ([0x81, 0x03, 1, 0x01, 0] ++ rest) := by
  intro c r l
  have hshows : Entry.Shows ⟨.command c .ok, step "en" {} (.command c .ok) .accepted⟩ c :=
    ⟨rfl, by decide⟩
  have horigin : Origin (history "en" {} l) c := ⟨[], _, [], rfl, .inl hshows, by rintro _ ⟨⟩⟩
  have hawaits : (slotsAfter "en" {} l).awaits r.details = true := by decide
  have h : (step "en" (slotsAfter "en" {} l) (.reply r) .accepted).attempted =
      some (.terminalResponse "810301280002028281830100") := by decide
  refine ⟨hawaits, horigin, _, h, ?_⟩
  rintro ⟨rest, htext⟩
  have hdecode : Hex.decode "810301280002028281830100" =
      .ok [0x81, 0x03, 1, 0x28, 0, 0x02, 0x02, 0x82, 0x81, 0x83, 0x01, 0x00] := by decide
  cases htext.decode.symm.trans hdecode

end Engine

end CardToolkit
