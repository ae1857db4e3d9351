import CardToolkit.Proofs.Engine.Correlation
import CardToolkit.Proofs.Engine.Envelope

/-!
# How many terminal responses go out

A terminal response goes to the card at once, on a command, or when the host
replies. The two paths do not exclude each other: a text that needs no response
is acknowledged and waits all the same, so that a reply to it goes to the card as
well; and a reply about a menu or events is timely whether or not a command
waits.

These are the only ways by which more responses go out than commands have come. A
command that is shown leaves a response *owing* until it is replied to, and a
direct reply draws on that. If its acknowledgement was taken before, the reply is
a second response to it (`secondResponses`).

* `owes`: what waits may be replied to directly;
* `owes_of_owes_step`: only by a command that is shown it comes to be owing;
* `responses_step_le`, `second_step_le`: a step sends no more than it pays for or
  draws on;
* `total_run_le`: from what each step sends to what a run sends;
* `responses_le_commands`: the same of a run;
* `text_responded_again`: a text that is acknowledged and replied to.
-/

namespace CardToolkit

/-- The message is a command of the card, whether or not it could be read. -/
def Message.isCommand : Message → Bool
  | .command _ _ => true
  | .unreadable _ => true
  | _ => false

namespace Entry

/-- The link took a terminal response. -/
def responds (e : Entry) : Bool :=
  match e.step.sent with
  | some (.terminalResponse _) => true
  | _ => false

theorem responds_iff {e : Entry} :
    e.responds = true ↔ ∃ hex, e.step.sent = some (.terminalResponse hex) := by
  rw [responds]
  split
  · next hex hsent => exact iff_of_true rfl ⟨hex, hsent⟩
  · next hnot => exact iff_of_false nofun fun ⟨hex, hsent⟩ => hnot hex hsent

/-- The host is shown a command. -/
def showsCommand (e : Entry) : Bool :=
  match e.message with
  | .command _ _ => !e.step.events.isEmpty
  | _ => false

/-- The link took a terminal response on a reply about a menu or events. -/
def respondsLate (e : Entry) : Bool :=
  match e.message with
  | .reply r => !decide r.IsDirect && e.responds
  | _ => false

/-- The command that was shown last has a response, given whether it had one
    before the entry: from now on it has one if it was acknowledged just now. -/
def acknowledged (before : Bool) (e : Entry) : Bool :=
  if e.showsCommand then e.responds else before

end Entry

/-- The number of terminal responses that the link took on direct replies to a
    command whose acknowledgement it had taken, given whether it had taken that of
    the command shown last. -/
def secondResponses (acknowledged : Bool) : List Entry → Nat
  | [] => 0
  | e :: t =>
    (e.answersDirectly && e.responds && acknowledged).toNat +
      secondResponses (e.acknowledged acknowledged) t

namespace Engine

variable {language : String} {s : Slots} {m : Message} {v : Verdict} {r : Reply}

/-! ## What is owing -/

/-- What waits is no command about a menu or events, so that a direct reply may be
    to it. -/
def owes (s : Slots) : Bool :=
  s.outstanding.any fun c =>
    decide (c.type? ≠ some .setUpMenu) && decide (c.type? ≠ some .setUpEventList)

/-- What is owing depends on what waits alone. -/
theorem owes_congr {s' : Slots} (h : s'.outstanding = s.outstanding) : owes s' = owes s := by
  rw [owes, h, owes]

/-- Where nothing waits, nothing is owing. -/
theorem owes_of_outstanding_eq_none (h : s.outstanding = none) : owes s = false := by
  rw [owes, h, Option.any_none]

/-- Nothing is owing for a menu that waits. -/
theorem owes_of_outstanding_eq_menu (hs : Sound s) {s' : Slots} (h : s'.outstanding = s.menu) :
    owes s' = false := by
  rw [owes, h]
  cases hmenu : s.menu with
  | none => rfl
  | some c =>
    have htype : c.type? = some .setUpMenu := hs.menu_type c hmenu
    simp [htype]

/-! ## Steps -/

/-- A step by which nothing is taken sends no response. -/
theorem responds_of_sent_eq_none {e : Entry} (h : e.step.sent = none) : e.responds = false := by
  rw [← Bool.not_eq_true, Entry.responds_iff, h]
  rintro ⟨hex, ⟨⟩⟩

/-- Only by a command that is shown something comes to be owing. -/
theorem owes_of_owes_step (hs : Sound s)
    (hshows : Entry.showsCommand ⟨m, step language s m v⟩ = false)
    (h : owes (step language s m v).slots = true) : owes s = true := by
  by_cases hends : Entry.EndsWait ⟨m, step language s m v⟩
  · have hnot (c : Command) : ¬Entry.Shows ⟨m, step language s m v⟩ c := by
      rintro ⟨rfl, hevents⟩
      exact hevents (List.isEmpty_iff.1 (by simpa [Entry.showsCommand] using hshows))
    rcases outstanding_of_endsWait hends hnot with hout | ⟨-, hout⟩
    · rw [owes_of_outstanding_eq_none hout] at h
      cases h
    · rw [owes_of_outstanding_eq_menu hs hout] at h
      cases h
  · rwa [owes_congr (outstanding_of_not_endsWait hends)] at h

/-- The same as a bound, for what is owing under a condition. -/
theorem toNat_owes_step_le (hs : Sound s)
    (hshows : Entry.showsCommand ⟨m, step language s m v⟩ ≠ true) (condition : Bool) :
    (owes (step language s m v).slots && condition).toNat ≤ (owes s && condition).toNat := by
  cases h : owes (step language s m v).slots with
  | false => exact Nat.zero_le _
  | true =>
    have howes : owes s = true := owes_of_owes_step hs (Bool.eq_false_iff.2 hshows) h
    exact Nat.le_of_eq (by rw [howes])

/-- Once a reply was taken, nothing is owing. -/
theorem owes_step_reply (h : (step language s (.reply r) v).sent ≠ none) :
    owes (step language s (.reply r) v).slots = false := by
  refine owes_of_outstanding_eq_none ?_
  rw [slots_step]
  exact if_pos (Option.isSome_iff_ne_none.2 h)

/-- A direct reply that is taken draws on what is owing. -/
theorem owes_of_answersDirectly (h : Entry.answersDirectly ⟨m, step language s m v⟩ = true) :
    owes s = true := by
  cases m with
  | reply r =>
    obtain ⟨hr, hsent⟩ := Bool.and_eq_true_iff.1 h
    obtain ⟨hmenu, hevents⟩ : r.IsDirect := of_decide_eq_true hr
    obtain ⟨q, hq⟩ := Option.isSome_iff_exists.1 hsent
    have htimely : isTimely s r = true :=
      (isCarried_of_attempted (Reaction.attempted_of_sent hq)).1.timely
    rw [isTimely_of_isDirect ⟨hmenu, hevents⟩] at htimely
    obtain ⟨c, hc, hsame⟩ := awaits_iff.1 htimely
    have htype : c.type? = r.details.type? := Details.type?_congr hsame
    refine (Option.any_eq_true ..).2 ⟨c, hc, ?_⟩
    simp [htype, hmenu, hevents]
  | _ => cases h

variable (language) in
/-- A step sends a response only on a command, on a reply that draws on what is
    owing or answers again a command that was acknowledged, or on one about a menu
    or events. -/
theorem responses_step_le (hs : Sound s) (m : Message) (v : Verdict) (acknowledged : Bool) :
    let e : Entry := ⟨m, step language s m v⟩
    e.responds.toNat + (owes e.step.slots && !e.acknowledged acknowledged).toNat ≤
      (owes s && !acknowledged).toNat +
        (e.message.isCommand.toNat + (e.answersDirectly && e.responds && acknowledged).toNat +
          e.respondsLate.toNat) := by
  intro e
  by_cases hshows : e.showsCommand = true
  · -- The command pays for its acknowledgement, or for what it leaves owing.
    have hcommand : e.message.isCommand = true := by
      cases m with
      | command c reading => rfl
      | _ => cases hshows
    have hpays : ∀ a b : Bool, a.toNat + (b && !a).toNat ≤ true.toNat := by decide
    have hle := hpays e.responds (owes e.step.slots)
    rw [Entry.acknowledged, if_pos hshows, hcommand]
    omega
  · have hle : (owes e.step.slots && !acknowledged).toNat ≤ _ := toNat_owes_step_le hs hshows _
    have hresponds : e.responds.toNat ≤ 1 := Bool.toNat_le _
    rw [Entry.acknowledged, if_neg hshows]
    cases m with
    | command c reading =>
      have hone : e.message.isCommand.toNat = 1 := rfl
      omega
    | unreadable reading =>
      have hone : e.message.isCommand.toNat = 1 := rfl
      omega
    | reply r =>
      by_cases hsent : e.step.sent = none
      · rw [responds_of_sent_eq_none hsent]
        simp only [Bool.toNat_false]
        omega
      · rw [owes_step_reply hsent]
        by_cases hr : r.IsDirect
        · have hdirect : e.answersDirectly = true := by
            show (decide r.IsDirect && e.step.sent.isSome) = true
            rw [decide_eq_true hr, Option.isSome_iff_ne_none.2 hsent]
            rfl
          have hdraws : ∀ a b : Bool, a.toNat + (false && !b).toNat ≤
              (true && !b).toNat + (true && a && b).toNat := by decide
          have hle := hdraws e.responds acknowledged
          rw [owes_of_answersDirectly hdirect, hdirect]
          omega
        · have hlate : e.respondsLate = e.responds := by
            show (!decide r.IsDirect && e.responds) = e.responds
            rw [decide_eq_false hr]
            rfl
          rw [hlate]
          simp only [Bool.false_and, Bool.toNat_false]
          omega
    | _ =>
      rw [responds_of_sent_eq_none rfl]
      simp only [Bool.toNat_false]
      omega

variable (language) in
/-- A step responds again only to a command whose acknowledgement was taken, and
    then nothing is owing for it any more. -/
theorem second_step_le (hs : Sound s) (m : Message) (v : Verdict) (acknowledged : Bool) :
    let e : Entry := ⟨m, step language s m v⟩
    (e.answersDirectly && e.responds && acknowledged).toNat +
        (owes e.step.slots && e.acknowledged acknowledged).toNat ≤
      (owes s && acknowledged).toNat + (e.showsCommand && e.responds).toNat := by
  intro e
  by_cases hdirect : e.answersDirectly = true
  · -- What was owing is drawn on, and no longer owing.
    cases m with
    | reply r =>
      have hsent : e.step.sent ≠ none :=
        Option.isSome_iff_ne_none.1 (Bool.and_eq_true_iff.1 hdirect).2
      rw [owes_of_answersDirectly hdirect, owes_step_reply hsent, hdirect]
      cases e.responds <;> cases acknowledged <;> simp
    | _ => cases hdirect
  · rw [Bool.eq_false_iff.2 hdirect, Entry.acknowledged]
    by_cases hshows : e.showsCommand = true
    · rw [if_pos hshows, hshows]
      cases e.responds <;> cases owes e.step.slots <;> simp
    · have hle : (owes e.step.slots && acknowledged).toNat ≤ _ := toNat_owes_step_le hs hshows _
      rw [if_neg hshows]
      simp only [Bool.false_and, Bool.toNat_false]
      omega

/-! ## Runs -/

/-- What the entries of a history come to by a measure that may look at whether the command
    shown last had a response before the entry. -/
def total (measure : Bool → Entry → Nat) (acknowledged : Bool) : List Entry → Nat
  | [] => 0
  | e :: t => measure acknowledged e + total measure (e.acknowledged acknowledged) t

theorem total_add (f g : Bool → Entry → Nat) (acknowledged : Bool) (t : List Entry) :
    total (fun a e => f a e + g a e) acknowledged t =
      total f acknowledged t + total g acknowledged t := by
  induction t generalizing acknowledged with
  | nil => rfl
  | cons e t ih =>
    rw [total, total, total, ih]
    omega

theorem total_toNat (p : Entry → Bool) (acknowledged : Bool) (t : List Entry) :
    total (fun _ e => (p e).toNat) acknowledged t = t.countP p := by
  induction t generalizing acknowledged with
  | nil => rfl
  | cons e t ih =>
    rw [total, ih, List.countP_cons, Nat.add_comm]
    cases p e <;> rfl

theorem secondResponses_eq_total (acknowledged : Bool) (t : List Entry) :
    secondResponses acknowledged t =
      total (fun a e => (e.answersDirectly && e.responds && a).toNat) acknowledged t := by
  induction t generalizing acknowledged with
  | nil => rfl
  | cons e t ih => rw [secondResponses, total, ih]

/-- What each step gains is paid for, in it or by what was owing before it: so a run gains
    no more than is paid in it and was owing at first. -/
theorem total_run_le (owing : Slots → Bool → Nat) (gains pays : Bool → Entry → Nat)
    (hstep : ∀ {s}, Sound s → ∀ m v acknowledged,
      let e : Entry := ⟨m, step language s m v⟩
      gains acknowledged e + owing e.step.slots (e.acknowledged acknowledged) ≤
        owing s acknowledged + pays acknowledged e)
    (hs : Sound s) (l : List (Message × Verdict)) (acknowledged : Bool) :
    total gains acknowledged (history language s l) ≤
      owing s acknowledged + total pays acknowledged (history language s l) := by
  induction l generalizing s acknowledged with
  | nil => exact Nat.zero_le _
  | cons p l ih =>
    obtain ⟨m, v⟩ := p
    have hhead := hstep hs m v acknowledged
    have hsound : Sound (step language s m v).slots := hs.step m v
    have htail := ih hsound (Entry.acknowledged acknowledged ⟨m, step language s m v⟩)
    rw [history, total, total]
    dsimp only at hhead
    omega

variable (language) in
/-- A run sends no more responses than commands have come in it, or were owing
    before, but for second ones and those about a menu or events. -/
theorem responses_run_le (hs : Sound s) (l : List (Message × Verdict)) (acknowledged : Bool) :
    (history language s l).countP Entry.responds ≤
      (owes s && !acknowledged).toNat +
        ((history language s l).countP (fun e => e.message.isCommand) +
          secondResponses acknowledged (history language s l) +
          (history language s l).countP Entry.respondsLate) := by
  have hrun := total_run_le (fun s a => (owes s && !a).toNat) (fun _ e => e.responds.toNat)
    (fun a e => e.message.isCommand.toNat + (e.answersDirectly && e.responds && a).toNat +
      e.respondsLate.toNat)
    (responses_step_le language) hs l acknowledged
  rwa [total_add, total_add, total_toNat, total_toNat, total_toNat, ← secondResponses_eq_total]
    at hrun

variable (language) in
/-- No more second responses go out in a run than commands are acknowledged and
    shown in it, or were before. -/
theorem second_run_le (hs : Sound s) (l : List (Message × Verdict)) (acknowledged : Bool) :
    secondResponses acknowledged (history language s l) ≤
      (owes s && acknowledged).toNat +
        (history language s l).countP (fun e => e.showsCommand && e.responds) := by
  have hrun := total_run_le (fun s a => (owes s && a).toNat)
    (fun a e => (e.answersDirectly && e.responds && a).toNat)
    (fun _ e => (e.showsCommand && e.responds).toNat) (second_step_le language) hs l acknowledged
  rwa [← secondResponses_eq_total, total_toNat] at hrun

/-! ## Responses about a menu or events -/

/-- A reply about a menu or events with what the user did goes out as an envelope. -/
theorem exists_envelope_of_not_isDirect (hr : ¬r.IsDirect) (hp : isPositive r.result = true)
    {q : Request} (hq : (dispatch language s r).request = .ok q) : ∃ hex, q = .envelope hex := by
  have hdeliver {d : Except EncodingFault (List UInt8)} (h : deliver d = .ok q) :
      ∃ hex, q = .envelope hex := by
    obtain ⟨bs, -, rfl⟩ := map_eq_ok_iff.1 h
    exact ⟨_, rfl⟩
  have htype : r.details.type? = some .setUpMenu ∨ r.details.type? = some .setUpEventList := by
    rcases Classical.not_and_iff_not_or_not.1 hr with h | h
    · exact .inl (Classical.not_not.1 h)
    · exact .inr (Classical.not_not.1 h)
  rw [dispatch, if_pos hp] at hq
  rcases htype with htype | htype
  · rw [htype] at hq
    exact hdeliver hq
  · rw [htype] at hq
    exact hdeliver hq

/-- Only a reply that says that the user did nothing, or went away, is responded
    to the card though it is about a menu or events. -/
theorem exists_reply_of_respondsLate
    (h : Entry.respondsLate ⟨m, step language s m v⟩ = true) :
    ∃ r, m = .reply r ∧ ¬r.IsDirect ∧ isNegative r.result = true := by
  cases m with
  | reply r =>
    simp only [Entry.respondsLate, Bool.and_eq_true, Bool.not_eq_true', decide_eq_false_iff_not,
      Entry.responds_iff] at h
    obtain ⟨hr, hex, hsent⟩ := h
    obtain ⟨hcarried, hq⟩ := isCarried_of_attempted (Reaction.attempted_of_sent hsent)
    refine ⟨r, rfl, hr, (isPassedOn_iff.1 hcarried.passedOn).resolve_left fun hp => ?_⟩
    obtain ⟨hex', heq⟩ := exists_envelope_of_not_isDirect hr hp hq
    cases heq
  | _ => cases h

variable (language) in
/-- In any run there are no more terminal responses that the link took than there
    are commands, but for two kinds: the second to a command that is acknowledged
    and shown all the same, once the host replies to it; and those on a reply about
    a menu or events. Of the first there are no more than commands that are
    acknowledged and shown; the second tell the card that the user did nothing, or
    went away. -/
theorem responses_le_commands (l : List (Message × Verdict)) :
    (history language {} l).countP Entry.responds ≤
        (history language {} l).countP (fun e => e.message.isCommand) +
          secondResponses false (history language {} l) +
          (history language {} l).countP Entry.respondsLate ∧
      secondResponses false (history language {} l) ≤
        (history language {} l).countP (fun e => e.showsCommand && e.responds) ∧
      ∀ e ∈ history language {} l, e.respondsLate = true →
        ∃ r, e.message = .reply r ∧ ¬r.IsDirect ∧ isNegative r.result = true := by
  have hnothing : owes {} = false := rfl
  refine ⟨?_, ?_, fun e he hlate => ?_⟩
  · have hle := responses_run_le language sound_empty l false
    rw [hnothing, Bool.false_and, Bool.toNat_false] at hle
    omega
  · have hle := second_run_le language sound_empty l false
    rw [hnothing, Bool.false_and, Bool.toNat_false] at hle
    omega
  · obtain ⟨s', m, v, rfl⟩ := exists_step_of_mem_history he
    exact exists_reply_of_respondsLate hlate

/-- A text that needs no response is acknowledged, and responded again once the
    host replies to it; and a user who went away is told to the card though no
    command has come. -/
theorem text_responded_again :
    let c : Command := { details := .ofType 3 .displayText 0x80, payload := .text {} }
    let r : Reply := { details := .ofType 3 .displayText 0x80, result := .ok }
    let r' : Reply := { details := .ofType 1 .setUpMenu 0, result := .sessionEndedByUser }
    ¬(history "en" {} [(.command c .ok, .accepted), (.reply r, .accepted)]).countP Entry.responds ≤
        (history "en" {} [(.command c .ok, .accepted), (.reply r, .accepted)]).countP
          (fun e => e.message.isCommand) ∧
      ¬(history "en" {} [(.reply r', .accepted)]).countP Entry.responds ≤
        (history "en" {} [(.reply r', .accepted)]).countP (fun e => e.message.isCommand) := by
  decide

end Engine

end CardToolkit
