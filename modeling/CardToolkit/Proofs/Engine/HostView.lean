import CardToolkit.Proofs.Engine.History

/-!
# What the host sees

The host is told by events, and chooses from the menu. Both follow from what the
card said, in its order: what the host replied meanwhile, which commands could
not be read, what the link took and which language is set make no difference.

* `cardMessages`: what the card said in a run;
* `raised_eq`, `cardMenus_eq`: the events of a run, and the menus after each
  message of the card, by what the card said;
* `host_view_of_cardMessages`: two runs in which the card said the same.
-/

namespace CardToolkit

/-- The message tells what the card said, or what became of it. -/
def Message.isFromCard : Message → Bool
  | .command _ _ => true
  | .unreadable _ => false
  | .reply _ => false
  | .sessionEnd => true
  | .refreshed _ => true
  | .cardAbsent => true

namespace Engine

/-- What the card said in a run. -/
def cardMessages (l : List (Message × Verdict)) : List Message :=
  (l.map Prod.fst).filter Message.isFromCard

/-- The events that a run raises. -/
def raised (language : String) (s : Slots) (l : List (Message × Verdict)) : List Event :=
  (run language s l).flatMap Step.events

/-- The menus that are remembered after each message of the card. -/
def cardMenus (language : String) (s : Slots) (l : List (Message × Verdict)) :
    List (Option Command) :=
  ((history language s l).filter fun e => e.message.isFromCard).map fun e => e.step.slots.menu

/-- The menus that messages leave one after the other. -/
def menusAlong (menu : Option Command) : List Message → List (Option Command)
  | [] => []
  | m :: rest => nextMenu menu m :: menusAlong (nextMenu menu m) rest

variable {language : String} {s : Slots}

/-- Only messages of the card raise events. -/
theorem announcement_of_not_isFromCard {m : Message} (h : m.isFromCard = false) :
    m.announcement = none := by
  cases m with
  | unreadable reading => rfl
  | reply r => rfl
  | _ => cases h

/-- Only messages of the card change the menu. -/
theorem nextMenu_of_not_isFromCard {m : Message} (h : m.isFromCard = false)
    (menu : Option Command) : nextMenu menu m = menu := by
  cases m with
  | unreadable reading => rfl
  | reply r => rfl
  | _ => cases h

/-- The events of a run, step by step. -/
theorem map_events_run (l : List (Message × Verdict)) :
    (run language s l).map Step.events = l.map fun p => p.1.announcement.toList := by
  induction l generalizing s with
  | nil => rfl
  | cons p l ih =>
    rw [run, List.map_cons, List.map_cons, ih, events_step]

theorem cardMessages_cons (p : Message × Verdict) (l : List (Message × Verdict)) :
    cardMessages (p :: l) =
      if p.1.isFromCard then p.1 :: cardMessages l else cardMessages l := by
  rw [cardMessages, List.map_cons, List.filter_cons]
  rfl

/-- The events of a run follow from what the card said. -/
theorem raised_eq (l : List (Message × Verdict)) :
    raised language s l = (cardMessages l).filterMap Message.announcement := by
  induction l generalizing s with
  | nil => rfl
  | cons p l ih =>
    have hcons : raised language s (p :: l) =
        p.1.announcement.toList ++ raised language (step language s p.1 p.2).slots l := by
      rw [raised, run, List.flatMap_cons, events_step]
      rfl
    rw [hcons, ih, cardMessages_cons]
    split
    · rw [List.filterMap_cons]
      cases p.1.announcement <;> rfl
    · next hp =>
      rw [announcement_of_not_isFromCard (Bool.eq_false_iff.2 hp)]
      rfl

/-- The menus after the messages of the card follow from what the card said. -/
theorem cardMenus_eq (l : List (Message × Verdict)) :
    cardMenus language s l = menusAlong s.menu (cardMessages l) := by
  induction l generalizing s with
  | nil => rfl
  | cons p l ih =>
    have hmenu : (step language s p.1 p.2).slots.menu = nextMenu s.menu p.1 := by rw [slots_step]
    have hrest := ih (s := (step language s p.1 p.2).slots)
    rw [hmenu] at hrest
    rw [cardMessages_cons, cardMenus, history, List.filter_cons]
    split
    · rw [List.map_cons, menusAlong, ← hrest, hmenu]
      rfl
    · next hp =>
      rw [nextMenu_of_not_isFromCard (Bool.eq_false_iff.2 hp)] at hrest
      exact hrest

/-- Two runs in which the card said the same raise the same events and leave the
    same menus. Each message raises the event that announces it, if there is one,
    and no other. -/
theorem host_view_of_cardMessages (language₁ language₂ : String)
    (l₁ l₂ : List (Message × Verdict)) (h : cardMessages l₁ = cardMessages l₂) :
    raised language₁ {} l₁ = raised language₂ {} l₂ ∧
      cardMenus language₁ {} l₁ = cardMenus language₂ {} l₂ ∧
      (run language₁ {} l₁).map Step.events = (l₁.map fun p => p.1.announcement.toList) ∧
      (run language₂ {} l₂).map Step.events = (l₂.map fun p => p.1.announcement.toList) := by
  refine ⟨?_, ?_, map_events_run l₁, map_events_run l₂⟩
  · rw [raised_eq, raised_eq, h]
  · rw [cardMenus_eq, cardMenus_eq, h]

/-- A link that is down and a host that replies in between are not seen. -/
theorem host_view_of_refusals :
    let c : Command := { details := .ofType 1 .setUpMenu 0, payload := .menu {} }
    let r : Reply := .ofResult { c.details with number := 7 } .ok
    let l₁ : List (Message × Verdict) :=
      [(.command c .ok, .refused "down"), (.unreadable .dataNotUnderstood, .refused "down"),
        (.refreshed .fileUpdate, .accepted), (.sessionEnd, .accepted)]
    let l₂ : List (Message × Verdict) :=
      [(.reply r, .accepted), (.command c .ok, .accepted), (.refreshed .fileUpdate, .accepted),
        (.reply r, .accepted), (.sessionEnd, .accepted), (.reply r, .refused "down")]
    cardMessages l₁ = cardMessages l₂ ∧ raised "en" {} l₁ = raised "de" {} l₂ ∧
      cardMenus "en" {} l₁ = cardMenus "de" {} l₂ := by
  intro c r l₁ l₂
  have h : cardMessages l₁ = cardMessages l₂ := rfl
  obtain ⟨hraised, hmenus, -⟩ := host_view_of_cardMessages "en" "de" l₁ l₂ h
  exact ⟨h, hraised, hmenus⟩

end Engine

end CardToolkit
