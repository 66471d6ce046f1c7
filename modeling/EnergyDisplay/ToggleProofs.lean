import EnergyDisplay.TaskProofs

/-! The presses of the dimmer button, accounted for. A press waits in the queue
or in the hands of the task until a publication of it returns; a failed one
goes back to the queue, and a full queue is the only way to lose one. -/
namespace EnergyDisplay.Tasks

open Mqtt Runs

variable {F : Type} {tasks : Tasks F} {event : Event F × Clock}

def Phase.toggles : Phase F → ℕ
  | .toggling _ => 1
  | _ => 0

/-- The presses that are still to be published. -/
def waitingToggles (tasks : Tasks F) : ℕ := tasks.commands.items.length + Phase.toggles tasks.phase

def pressed (_ : Tasks F) (event : Event F × Clock) : ℕ :=
  match event.1 with
  | .pressesButton => 1
  | _ => 0

/-- The publications of a toggle that return. -/
def toggled (tasks : Tasks F) (event : Event F × Clock) : ℕ :=
  match event.1 with
  | .callReturns => Phase.toggles tasks.phase
  | _ => 0

/-- What a full queue turns away. -/
def refused (commands : OvenplaatDimmerCommands) : ℕ :=
  if commands.items.length < ovenplaatDimmerCommandQueueDepth then 0 else 1

/-- The presses lost to a full queue: at the press, or when a publication fails. -/
def lost (tasks : Tasks F) (event : Event F × Clock) : ℕ :=
  match event.1 with
  | .pressesButton => refused tasks.commands
  | .fails => Phase.toggles tasks.phase * refused tasks.commands
  | _ => 0

/-- A command is queued, or turned away. -/
theorem queueToggle_length (commands : OvenplaatDimmerCommands) :
    (queueOvenplaatDimmerToggle commands).items.length + refused commands = commands.items.length + 1 := by
  unfold queueOvenplaatDimmerToggle refused
  split
  · next room =>
    obtain ⟨sent, succeeds, items⟩ := Channel.trySend_room commands () room
    rw [succeeds, Option.getD_some, items, List.length_append]
    rfl
  · next full =>
    have full : commands.items.length = ovenplaatDimmerCommandQueueDepth := by
      have := commands.bounded
      omega
    rw [Channel.trySend_full () full]
    rfl

theorem refused_full {commands : OvenplaatDimmerCommands} (refuses : refused commands ≠ 0) :
    commands.items.length = ovenplaatDimmerCommandQueueDepth := by
  have bounded := commands.bounded
  unfold refused at refuses
  split at refuses <;> omega

/-- What goes back to the queue when a session ends. -/
theorem waitingToggles_fail (tasks : Tasks F) :
    waitingToggles tasks.fail + Phase.toggles tasks.phase * refused tasks.commands = waitingToggles tasks := by
  cases phase : tasks.phase with
  | toggling awaiting =>
    have queued := queueToggle_length tasks.commands
    simp only [waitingToggles, fail, phase, Phase.toggles]
    omega
  | _ => simp [waitingToggles, fail, phase, Phase.toggles]

/-- A command that is taken goes back when the client refuses it; there is room
for it where it came from. -/
theorem waitingToggles_takeToggle (tasks : Tasks F) (packetIdentifier : ℕ) :
    waitingToggles (tasks.takeToggle packetIdentifier) = waitingToggles tasks := by
  cases phase : tasks.phase with
  | serving awaiting =>
    cases received : tasks.commands.tryReceive with
    | none => simp [takeToggle, phase, received]
    | some both =>
      obtain ⟨⟨⟩, commands⟩ := both
      have taken : tasks.commands.items.length = commands.items.length + 1 := by
        rw [Channel.tryReceive_eq_some.mp received, List.length_cons]
      have room : refused commands = 0 := by
        have bounded := tasks.commands.bounded
        rw [refused, if_pos (by omega)]
      cases outbound : tasks.outboundPublishes with
      | none => simp [takeToggle, phase, received, outbound, waitingToggles, Phase.toggles, taken]
      | some pending =>
        -- The client refuses, which ends the session.
        have back := waitingToggles_fail { tasks with commands := commands, phase := .toggling awaiting }
        rw [show tasks.takeToggle packetIdentifier =
            fail { tasks with commands := commands, phase := .toggling awaiting } by
          simp [takeToggle, phase, received, outbound, fail]]
        have held : waitingToggles { tasks with commands := commands, phase := .toggling awaiting } =
            waitingToggles tasks := by
          simp [waitingToggles, phase, Phase.toggles, taken]
        simp only [room] at back
        omega
  | _ => simp [takeToggle, phase]

theorem waitingToggles_receive (tasks : Tasks F) (update : Update F) (clock : Clock) :
    waitingToggles (tasks.receive update clock) = waitingToggles tasks := by
  unfold receive
  split
  · next phase =>
    simp only [waitingToggles, phase]
    split <;> rfl
  · split <;> rfl
  · rfl

/-- With nine presses outstanding one can be lost, not before. -/
theorem lost_outstanding (tasks : Tasks F) (event : Event F × Clock) (loses : lost tasks event ≠ 0) :
    toggled tasks event + ovenplaatDimmerCommandQueueDepth < waitingToggles tasks + pressed tasks event := by
  obtain ⟨event, clock⟩ := event
  cases event with
  | pressesButton =>
    have full := refused_full loses
    simp only [toggled, waitingToggles, pressed]
    omega
  | fails =>
    have ⟨toggling, refuses⟩ := Nat.mul_ne_zero_iff.mp loses
    have full := refused_full refuses
    simp only [toggled, waitingToggles, pressed]
    omega
  | _ => exact absurd rfl loses

theorem waitingToggles_takeSummary (tasks : Tasks F) (encodes : Bool) (packetIdentifier : ℕ) :
    waitingToggles (tasks.takeSummary encodes packetIdentifier) = waitingToggles tasks := by
  obtain same | ⟨awaiting, summary, rest, phase, -, ⟨-, -, same⟩ | ⟨-, last, same | ⟨_, _, -, same⟩⟩⟩ :=
    takeSummary_cases tasks encodes packetIdentifier
  · rw [same]
  all_goals
    rw [same]
    simp only [waitingToggles, phase, Phase.toggles]

variable [Zero F] [Add F] [Sub F] [Mul F] [NatCast F] [LT F] [DecidableLT F] [BEq F]

theorem waitingToggles_displayBatch (tasks : Tasks F) (clock : Clock) :
    waitingToggles (tasks.displayBatch clock) = waitingToggles tasks := by
  unfold displayBatch
  split
  · rfl
  · dsimp only
    split
    · split <;> rfl
    · rfl

/-- No step makes a press up or lets one go unnoticed. -/
theorem step_balances (tasks : Tasks F) (event : Event F × Clock) :
    waitingToggles tasks + pressed tasks event =
      (toggled tasks event + lost tasks event) + waitingToggles (step tasks event) := by
  obtain ⟨event, clock⟩ := event
  cases event with
  | pressesButton =>
    have queued := queueToggle_length tasks.commands
    simp only [pressed, toggled, lost, step, waitingToggles]
    omega
  | callReturns =>
    simp only [pressed, toggled, lost, step, callReturn, waitingToggles]
    split <;> next phase => simp only [phase, Phase.toggles]; omega
  | fails =>
    have back := waitingToggles_fail tasks
    simp only [pressed, toggled, lost, step]
    omega
  | receives update => simp [pressed, toggled, lost, step, waitingToggles_receive]
  | takesSummary encodes packetIdentifier =>
    simp [pressed, toggled, lost, step, waitingToggles_takeSummary]
  | takesToggle packetIdentifier => simp [pressed, toggled, lost, step, waitingToggles_takeToggle]
  | displays => simp [pressed, toggled, lost, step, waitingToggles_displayBatch]
  | connects | restoreTimesOut | unsubscribes | acknowledges =>
    simp only [pressed, toggled, lost, step, Nat.add_zero, Nat.zero_add]
    cases phase : tasks.phase <;> simp [waitingToggles, phase, Phase.toggles]

/-- **Accounted for.** However the sessions of the task go, every press of the
button since power-on has been published, is waiting to be, or was turned away
by a full queue; and the queue turns none away before nine presses wait at once. -/
theorem toggles_accounted (events : List (Event F × Clock)) :
    tally step pressed boot events = tally step toggled boot events + tally step lost boot events +
        waitingToggles (run step boot events) ∧
      (tally step lost boot events = 0 ∨ ∃ before, before <+: events ∧
        tally step toggled boot before + ovenplaatDimmerCommandQueueDepth < tally step pressed boot before) := by
  have balances : ∀ events : List (Event F × Clock), tally step pressed boot events =
      tally step toggled boot events + tally step lost boot events +
        waitingToggles (run step boot events) := by
    intro events
    have balance : waitingToggles boot + tally step pressed boot events =
        tally step (fun tasks event => toggled tasks event + lost tasks event) boot events +
          waitingToggles (run step boot events) := run_balances step_balances
    have start : waitingToggles (boot : Tasks F) = 0 := rfl
    rwa [tally_add, start, Nat.zero_add] at balance
  refine ⟨balances events, ?_⟩
  induction events using List.reverseRecOn with
  | nil => exact Or.inl rfl
  | append_singleton events event ih =>
    rw [tally_concat]
    obtain kept | ⟨before, earlier, outstanding⟩ := ih
    · by_cases loses : lost (run step boot events) event = 0
      · exact Or.inl (by omega)
      · -- The first loss: every press before it waits or is published.
        refine Or.inr ⟨events ++ [event], List.prefix_rfl, ?_⟩
        have waiting := lost_outstanding (run step boot events) event loses
        have balance := balances events
        rw [tally_concat, tally_concat]
        omega
    · exact Or.inr ⟨before, earlier.trans (List.prefix_append _ _), outstanding⟩

end EnergyDisplay.Tasks
