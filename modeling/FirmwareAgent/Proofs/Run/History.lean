import Mathlib.Data.List.Induction
import FirmwareAgent.Proofs.Run.Step

/-!
# Histories

The history of a run is a list of moments, with the run as each moment found it and with what came
of it. A moment brings its own clock reading and its own pool: what other holders do to the pool in
between is left open, so a statement about all histories holds whatever they do.

* `History.induct`: what holds of a run that has not started, and is kept by every moment, holds of
  every history.
-/

namespace FirmwareAgent

/-- Something that happens to a run: when, with what pool, and what. -/
structure Moment where
  now : Instant
  pool : InstanceIdPool
  action : RunAction

/-- What a moment does to a run. -/
def Run.meet (context : SessionContext) (run : Run) (moment : Moment) : RunStep :=
  run.act context moment.now moment.pool moment.action

/-- One line of a history. -/
structure HistoryEntry where
  /-- The run as the moment found it. -/
  run : Run
  moment : Moment
  /-- What came of the moment. -/
  step : RunStep

/-- A run and how it came about. -/
structure History where
  run : Run
  entries : List HistoryEntry := []

namespace History

/-- The history of a run that has not started. -/
def fresh (record : DeviceRecord) : History where
  run := { session := { record := record } }

/-- The history with one more moment. -/
def extend (context : SessionContext) (history : History) (moment : Moment) : History where
  run := (history.run.meet context moment).run
  entries := history.entries ++ [⟨history.run, moment, history.run.meet context moment⟩]

/-- The history of a device's run through a list of moments. -/
def through (context : SessionContext) (record : DeviceRecord) (moments : List Moment) : History :=
  moments.foldl (extend context) (fresh record)

/-- The exchanges that the run started, oldest first. -/
def sent (history : History) : List Exchange :=
  history.entries.flatMap (·.step.sent)

/-- What the run told the agent, in that order. -/
def notifications (history : History) : List Notification :=
  history.entries.flatMap (·.step.notifications)

/-- The answers that the run gave, oldest first. -/
def answers (history : History) : List (Caller × Response) :=
  history.entries.flatMap (·.step.answers)

variable {context : SessionContext} {record : DeviceRecord} {history : History} {moment : Moment}

@[simp] theorem run_extend :
    (history.extend context moment).run = (history.run.meet context moment).run :=
  rfl

@[simp] theorem sent_extend :
    (history.extend context moment).sent =
      history.sent ++ (history.run.meet context moment).sent := by
  simp [sent, extend]

@[simp] theorem notifications_extend :
    (history.extend context moment).notifications =
      history.notifications ++ (history.run.meet context moment).notifications := by
  simp [notifications, extend]

@[simp] theorem answers_extend :
    (history.extend context moment).answers =
      history.answers ++ (history.run.meet context moment).answers := by
  simp [answers, extend]

theorem mem_entries_extend {entry : HistoryEntry} (old : entry ∈ history.entries) :
    entry ∈ (history.extend context moment).entries :=
  List.mem_append_left _ old

theorem induct {motive : History → Prop} (start : motive (fresh record))
    (step : ∀ history moment, motive history → motive (history.extend context moment))
    (moments : List Moment) : motive (through context record moments) := by
  suffices kept : ∀ history, motive history → motive (moments.foldl (extend context) history) from
    kept _ start
  induction moments with
  | nil => exact fun history holds => holds
  | cons moment moments ih => exact fun history holds => ih _ (step history moment holds)

/-- A history goes on from where it was. -/
theorem through_append (earlier later : List Moment) :
    through context record (earlier ++ later) =
      later.foldl (extend context) (through context record earlier) := by
  simp [through, List.foldl_append]

theorem through_concat (earlier : List Moment) :
    through context record (earlier ++ [moment]) =
      (through context record earlier).extend context moment := by
  rw [through_append]
  rfl

/-- The entries of a history are its moments, each with the run that the moments before it led to. -/
theorem mem_entries_through {moments : List Moment} {entry : HistoryEntry} :
    entry ∈ (through context record moments).entries ↔
      ∃ earlier moment later, moments = earlier ++ moment :: later ∧
        entry = ⟨(through context record earlier).run, moment,
          (through context record earlier).run.meet context moment⟩ := by
  induction moments using List.reverseRecOn with
  | nil => simp [through, fresh]
  | append_singleton moments last ih =>
    rw [through_concat]
    constructor
    · intro mem
      rcases List.mem_append.mp mem with old | new
      · obtain ⟨earlier, moment, later, rfl, entry_eq⟩ := ih.mp old
        exact ⟨earlier, moment, later ++ [last], by simp, entry_eq⟩
      · exact ⟨moments, last, [], rfl, List.mem_singleton.mp new⟩
    · rintro ⟨earlier, moment, later, split, rfl⟩
      rcases List.eq_nil_or_concat later with rfl | ⟨later, other, rfl⟩
      · obtain ⟨rfl, ⟨⟩⟩ := List.append_inj' split rfl
        exact List.mem_append_right _ (List.mem_singleton.mpr rfl)
      · have split : moments ++ [last] = (earlier ++ moment :: later) ++ [other] := by
          rw [split]
          simp
        obtain ⟨rfl, _⟩ := List.append_inj' split rfl
        exact mem_entries_extend (ih.mpr ⟨earlier, moment, later, rfl, rfl⟩)

variable (context record) in
/-- The moments of a history are those that it was made of. -/
theorem moments_through (moments : List Moment) :
    (through context record moments).entries.map (·.moment) = moments := by
  induction moments using List.reverseRecOn with
  | nil => rfl
  | append_singleton moments last ih =>
    rw [through_concat, extend, List.map_append, ih]
    rfl

end History

end FirmwareAgent
