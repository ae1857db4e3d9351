import CardToolkit.Service.Basic

/-!
# The turns of a service

What the engine does in one turn is said once (`Service.turn_cases`): it makes
the report, or opens the first letter, or finds nothing to do. Each turn leaves
less to do, so that after as many turns as there are letters, and one for the
report, the service is *calm*.

* `Service.raising`: the events that a turn raises, which all enter the feed
  (`Service.feed_turn`);
* `Service.turn_cases`: what a turn does;
* `Service.exists_turns`: a schedule under which a turn may be taken allows many;
* `Service.calm_settle`: a service that has run is calm.
-/

namespace CardToolkit

/-- The events that a letter raises when it is opened. -/
def Letter.raises (e : Engine) : Letter → List Event
  | .message m => (e.handle m).2.events
  | .question _ => []
  | .stop => []

namespace Service

variable {s : Service} {l : Letter} {rest : List Letter}

/-- The report was made if it was due, and no letter waits. -/
structure Calm (s : Service) : Prop where
  reported : s.reportDue = false
  empty : s.mailbox = []

/-- The events that the next turn raises. -/
def raising (s : Service) : List Event :=
  if s.running && !s.reportDue then
    match s.mailbox with
    | [] => []
    | l :: _ => l.raises s.engine
  else []

/-! ## One turn -/

theorem turn_of_due (hr : s.running = true) (hd : s.reportDue = true) : s.turn = s.report := by
  rw [turn, if_pos hr, if_pos hd]

theorem turn_of_cons (hr : s.running = true) (hd : s.reportDue = false)
    (hm : s.mailbox = l :: rest) : s.turn = { s with mailbox := rest }.serve l := by
  rw [turn, if_pos hr, hd, hm]
  rfl

/-- A calm service has nothing to do. -/
theorem turn_of_calm (h : s.Calm) : s.turn = s := by
  rw [turn, h.reported, h.empty]
  exact ite_self s

theorem raising_of_cons (hr : s.running = true) (hd : s.reportDue = false)
    (hm : s.mailbox = l :: rest) : s.raising = l.raises s.engine := by
  rw [raising, hr, hd, hm]
  rfl

theorem raising_of_due (hd : s.reportDue = true) : s.raising = [] := by
  rw [raising, hd, Bool.not_true, Bool.and_false]
  rfl

theorem raising_of_stopped (h : s.running = false) : s.raising = [] := by
  rw [raising, h]
  rfl

theorem raising_of_empty (hm : s.mailbox = []) : s.raising = [] := by
  rw [raising, hm]
  exact ite_self []

/-- In a turn the engine makes the report, or opens the first letter, or finds
    nothing to do. -/
theorem turn_cases (hr : s.running = true) :
    (s.reportDue = true ∧ s.turn = s.report ∧ s.raising = []) ∨
      (∃ l rest, s.reportDue = false ∧ s.mailbox = l :: rest ∧
        s.turn = { s with mailbox := rest }.serve l ∧ s.raising = l.raises s.engine) ∨
      s.Calm ∧ s.turn = s ∧ s.raising = [] := by
  rcases Bool.eq_false_or_eq_true s.reportDue with hd | hd
  · exact .inl ⟨hd, turn_of_due hr hd, raising_of_due hd⟩
  · cases hm : s.mailbox with
    | nil => exact .inr (.inr ⟨⟨hd, hm⟩, turn_of_calm ⟨hd, hm⟩, raising_of_empty hm⟩)
    | cons l rest =>
      exact .inr (.inl ⟨l, rest, hd, rfl, turn_of_cons hr hd hm, raising_of_cons hr hd hm⟩)

/-! ## The report -/

theorem report_of_due (hd : s.reportDue = true) :
    s.report = { s with engine := s.engine.reportRunning.1, reportDue := false } :=
  if_pos hd

theorem report_of_reported (hd : s.reportDue = false) : s.report = s := by
  rw [report, hd]
  rfl

@[simp] theorem reportDue_report : s.report.reportDue = false := by
  cases hd : s.reportDue with
  | true => rw [report_of_due hd]
  | false => rw [report_of_reported hd, hd]

@[simp] theorem mailbox_report : s.report.mailbox = s.mailbox := by
  cases hd : s.reportDue with
  | true => rw [report_of_due hd]
  | false => rw [report_of_reported hd]

/-- What a turn raises enters the feed. -/
theorem feed_turn : s.turn.feed = s.feed.pushAll s.raising := by
  rcases Bool.eq_false_or_eq_true s.running with hr | hr
  · obtain ⟨hd, hturn, hraising⟩ | ⟨l, rest, -, -, hturn, hraising⟩ | ⟨-, hturn, hraising⟩ :=
      turn_cases hr
    · rw [hturn, hraising, report_of_due hd]
      rfl
    · rw [hturn, hraising]
      cases l <;> rfl
    · rw [hturn, hraising]
      rfl
  · rw [turn_of_stopped hr, raising_of_stopped hr]
    rfl

/-! ## Many turns -/

/-- How many turns there is something to do for. -/
def work (s : Service) : Nat := s.mailbox.length + s.reportDue.toNat

theorem calm_iff : s.Calm ↔ s.work = 0 := by
  rw [work, Nat.add_eq_zero_iff, List.length_eq_zero_iff, Bool.toNat_eq_zero]
  constructor
  · rintro ⟨hd, hm⟩
    exact ⟨hm, hd⟩
  · rintro ⟨hm, hd⟩
    exact ⟨hd, hm⟩

/-- A letter that is opened leaves no more to do than there was before, and if it
    ends the service, nothing. -/
theorem work_serve_le (hd : s.reportDue = false) (l : Letter) :
    (s.serve l).work ≤ s.work ∧ ((s.serve l).running = s.running ∨ (s.serve l).Calm) := by
  cases l with
  | message m => exact ⟨Nat.le_refl _, .inl rfl⟩
  | question caller => exact ⟨Nat.le_refl _, .inl rfl⟩
  | stop =>
    have hcalm : (s.serve .stop).Calm := ⟨hd, rfl⟩
    exact ⟨by rw [calm_iff.1 hcalm]; exact Nat.zero_le _, .inr hcalm⟩

/-- A turn leaves less to do, unless there is nothing to do, and the service runs on
    or has ended. -/
theorem work_turn_le (hr : s.running = true) :
    s.turn.work ≤ s.work - 1 ∧ (s.turn.running = true ∨ s.turn.Calm) := by
  obtain ⟨hd, hturn, -⟩ | ⟨l, rest, hd, hm, hturn, -⟩ | ⟨hcalm, hturn, -⟩ := turn_cases hr
  · have hwork : s.turn.work = s.work - 1 := by
      rw [hturn, work, work, hd, reportDue_report, mailbox_report]
      rfl
    have hrun : s.turn.running = true := by
      rw [hturn, report_of_due hd]
      exact hr
    exact ⟨Nat.le_of_eq hwork, .inl hrun⟩
  · have hwork : work { s with mailbox := rest } = s.work - 1 := by
      rw [work, work, hm, hd]
      rfl
    obtain ⟨hle, hrun⟩ := work_serve_le (s := { s with mailbox := rest }) hd l
    rw [hturn, ← hwork]
    exact ⟨hle, hrun.imp_left fun h => h.trans hr⟩
  · rw [hturn, calm_iff.1 hcalm]
    exact ⟨Nat.zero_le _, .inl hr⟩

/-- As many turns as there is something to do for leave a service calm. -/
theorem calm_turns {n : Nat} (hr : s.running = true ∨ s.Calm) (h : s.work ≤ n) :
    (turns n s).Calm := by
  induction n generalizing s with
  | zero => exact calm_iff.2 (Nat.le_zero.1 h)
  | succ n ih =>
    rw [turns]
    rcases hr with hr | hcalm
    · obtain ⟨hle, hrun⟩ := work_turn_le hr
      exact ih hrun (by omega)
    · rw [turn_of_calm hcalm]
      refine ih (.inr hcalm) ?_
      rw [calm_iff.1 hcalm]
      exact Nat.zero_le n

/-- What may come of a service, in a sense that a turn keeps, may come of it by many. -/
theorem exists_turns {reaches : List Event → Service → Prop}
    (hturn : ∀ {raised s}, reaches raised s → reaches (raised ++ s.raising) s.turn)
    {raised : List Event} (h : reaches raised s) (n : Nat) :
    ∃ raised', reaches (raised ++ raised') (turns n s) := by
  induction n generalizing raised s with
  | zero =>
    refine ⟨[], ?_⟩
    rw [List.append_nil]
    exact h
  | succ n ih =>
    obtain ⟨raised', h'⟩ := ih (hturn h)
    rw [List.append_assoc] at h'
    exact ⟨_, h'⟩

/-- A service that has run is calm. -/
theorem calm_settle (hr : s.running = true) : s.settle.Calm := by
  refine calm_turns (.inl hr) ?_
  rw [work]
  have hle := Bool.toNat_le s.reportDue
  omega

end Service

end CardToolkit
