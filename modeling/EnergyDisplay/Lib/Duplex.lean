import Mathlib.Data.List.Basic

/-! Two parties over a connection that carries a stream of items each way. A
party sends, receives or has stopped; it may go on whenever it can, and a send
or a receive may take any part of what is there. -/
namespace EnergyDisplay.Duplex

/-- What a party waits for. -/
inductive Want (β : Type*) where
  | send (items : List β)
  | receive (limit : ℕ)
  | halted

/-- A party reacts to how much of what it sends was taken, and to what it
receives; receiving nothing means that the other side closed. -/
structure Party (σ β : Type*) where
  want : σ → Want β
  sent : σ → ℕ → σ
  received : σ → List β → σ

structure Connection (σ τ β : Type*) where
  client : σ
  server : τ
  toServer : List β
  toClient : List β

inductive Move where
  | clientSends (count : ℕ)
  | clientReceives (count : ℕ)
  | serverSends (count : ℕ)
  | serverReceives (count : ℕ)

variable {σ τ β : Type*}

def Party.halted (party : Party σ β) (state : σ) : Bool :=
  match party.want state with
  | .halted => true
  | _ => false

/-- Some of what a party sends enters its stream. -/
def Party.sends (party : Party σ β) (state : σ) (stream : List β) (count : ℕ) : Option (σ × List β) :=
  match party.want state with
  | .send items =>
    if 0 < count ∧ count ≤ items.length then some (party.sent state count, stream ++ items.take count)
    else none
  | _ => none

/-- A party takes some of its stream, or finds it closed. -/
def Party.receives (party : Party σ β) (state : σ) (stream : List β) (closed : Bool) (count : ℕ) :
    Option (σ × List β) :=
  match party.want state with
  | .receive limit =>
    if 0 < count ∧ count ≤ limit ∧ count ≤ stream.length then
      some (party.received state (stream.take count), stream.drop count)
    else if count = 0 ∧ stream = [] ∧ closed = true then some (party.received state [], [])
    else none
  | _ => none

def step (client : Party σ β) (server : Party τ β) (connection : Connection σ τ β) :
    Move → Option (Connection σ τ β)
  | .clientSends count =>
    (client.sends connection.client connection.toServer count).map fun (state, stream) =>
      { connection with client := state, toServer := stream }
  | .clientReceives count =>
    (client.receives connection.client connection.toClient (server.halted connection.server) count).map
      fun (state, stream) => { connection with client := state, toClient := stream }
  | .serverSends count =>
    (server.sends connection.server connection.toClient count).map fun (state, stream) =>
      { connection with server := state, toClient := stream }
  | .serverReceives count =>
    (server.receives connection.server connection.toServer (client.halted connection.client) count).map
      fun (state, stream) => { connection with server := state, toServer := stream }

def run (client : Party σ β) (server : Party τ β) (connection : Connection σ τ β) :
    List Move → Option (Connection σ τ β)
  | [] => some connection
  | move :: rest => (step client server connection move).bind fun next => run client server next rest

variable {client : Party σ β} {server : Party τ β} {connection after : Connection σ τ β}

/-- Nothing can happen any more. -/
def Stuck (client : Party σ β) (server : Party τ β) (connection : Connection σ τ β) : Prop :=
  ∀ move, step client server connection move = none

/-- However the streams are cut and whoever goes first, the connection comes to
an end, and there `post` holds. -/
def Concludes (client : Party σ β) (server : Party τ β) (connection : Connection σ τ β)
    (post : Connection σ τ β → Prop) : Prop :=
  (∃ bound, ∀ moves after, run client server connection moves = some after → moves.length ≤ bound) ∧
    ∀ moves after, run client server connection moves = some after → Stuck client server after → post after

theorem Concludes.mono {post post' : Connection σ τ β → Prop}
    (concludes : Concludes client server connection post) (weaker : ∀ after, post after → post' after) :
    Concludes client server connection post' :=
  ⟨concludes.1, fun moves after ran stuck => weaker after (concludes.2 moves after ran stuck)⟩

/-- A run takes no more moves than a bound that every move lowers. -/
theorem run_lowers {invariant : ℕ → Connection σ τ β → Prop}
    (lowers : ∀ bound connection move next, invariant bound connection →
      step client server connection move = some next → ∃ less < bound, invariant less next)
    {moves : List Move} {bound : ℕ} (initially : invariant bound connection)
    (ran : run client server connection moves = some after) :
    ∃ less, invariant less after ∧ moves.length + less ≤ bound := by
  induction moves generalizing connection bound with
  | nil =>
    cases ran
    exact ⟨bound, initially, by simp⟩
  | cons move rest ih =>
    obtain ⟨next, moved, ran⟩ := Option.bind_eq_some_iff.mp ran
    obtain ⟨less, lower, kept⟩ := lowers bound connection move next initially moved
    obtain ⟨least, finally_, shorter⟩ := ih kept ran
    refine ⟨least, finally_, ?_⟩
    rw [List.length_cons]
    omega

theorem sends_eq_some {party : Party σ β} {state next : σ} {stream longer : List β} {count : ℕ} :
    party.sends state stream count = some (next, longer) ↔
      ∃ items, party.want state = .send items ∧ 0 < count ∧ count ≤ items.length ∧
        next = party.sent state count ∧ longer = stream ++ items.take count := by
  unfold Party.sends
  cases party.want state with
  | send items =>
    simp only [Option.ite_none_right_eq_some, Option.some.injEq, Prod.mk.injEq, Want.send.injEq,
      exists_eq_left']
    constructor
    · rintro ⟨⟨positive, fits⟩, rfl, rfl⟩
      exact ⟨positive, fits, rfl, rfl⟩
    · rintro ⟨positive, fits, rfl, rfl⟩
      exact ⟨⟨positive, fits⟩, rfl, rfl⟩
  | receive limit => simp
  | halted => simp

/-- A party receives a part of its stream, or the end of it. -/
theorem receives_eq_some {party : Party σ β} {state next : σ} {stream rest : List β} {closed : Bool}
    {count : ℕ} (received : party.receives state stream closed count = some (next, rest)) :
    ∃ limit, party.want state = .receive limit ∧
      ((∃ items, items ≠ [] ∧ items.length ≤ limit ∧ stream = items ++ rest ∧
          next = party.received state items) ∨
        stream = [] ∧ rest = [] ∧ closed = true ∧ next = party.received state []) := by
  unfold Party.receives at received
  cases wants : party.want state with
  | receive limit =>
    rw [wants] at received
    refine ⟨limit, rfl, ?_⟩
    dsimp only at received
    split at received
    · next taken =>
      obtain ⟨positive, small, there⟩ := taken
      cases received
      have length : (stream.take count).length = count := List.length_take_of_le there
      refine Or.inl ⟨stream.take count, ?_, by omega, (List.take_append_drop count stream).symm, rfl⟩
      exact List.ne_nil_of_length_pos (by omega)
    · rw [Option.ite_none_right_eq_some] at received
      obtain ⟨⟨_, nothing, closed⟩, same⟩ := received
      cases same
      exact Or.inr ⟨nothing, rfl, closed, rfl⟩
  | send items => simp [wants] at received
  | halted => simp [wants] at received

/-- A party with something to send can send. -/
theorem Party.nothing_to_send {party : Party σ β} {state : σ} {stream items : List β}
    (refused : party.sends state stream 1 = none) (wants : party.want state = .send items) : items = [] := by
  rcases items with _ | ⟨item, items⟩
  · rfl
  · simp [Party.sends, wants] at refused

/-- A party that wants to receive can, as long as something is there. -/
theorem Party.nothing_to_receive {party : Party σ β} {state : σ} {stream : List β} {closed : Bool}
    {limit : ℕ} (refused : party.receives state stream closed 1 = none)
    (wants : party.want state = .receive limit) (positive : 0 < limit) : stream = [] := by
  cases stream with
  | nil => rfl
  | cons item items =>
    have limit : 1 ≤ limit := positive
    simp [Party.receives, wants, limit] at refused

/-! ## Conversations -/

/-- What a party says in a conversation, and when it has heard so much and has
so much still to say. -/
structure Role (σ β : Type*) where
  text : List β
  Has : σ → List β → List β → Prop

/-- The party plays its role opposite one that says `hears`: it says its text
from front to back, waits only for what there is to hear, and halts at the end. -/
structure Plays (party : Party σ β) (role : Role σ β) (hears : List β) : Prop where
  sends : ∀ {state heard unsaid items}, role.Has state heard unsaid → party.want state = .send items →
    items ≠ [] ∧ items <+: unsaid ∧ ∀ count, 0 < count → count ≤ items.length →
      role.Has (party.sent state count) heard (unsaid.drop count)
  receives : ∀ {state heard unsaid limit}, role.Has state heard unsaid → party.want state = .receive limit →
    0 < limit ∧ heard ≠ hears ∧ ∀ items, items ≠ [] → items.length ≤ limit → heard ++ items <+: hears →
      role.Has (party.received state items) (heard ++ items) unsaid
  halts : ∀ {state heard unsaid}, role.Has state heard unsaid → party.want state = .halted →
    heard = hears ∧ unsaid = []

section Plays

variable {party : Party σ β} {role : Role σ β} {hears heard unsaid stream : List β} {state next : σ}

/-- What is sent moves from the text to the stream. -/
theorem Plays.sent (plays : Plays party role hears) (has : role.Has state heard unsaid) {longer : List β}
    {count : ℕ} (sent : party.sends state stream count = some (next, longer)) :
    ∃ later, role.Has next heard later ∧ longer ++ later = stream ++ unsaid ∧
      2 * later.length + longer.length < 2 * unsaid.length + stream.length := by
  obtain ⟨items, wants, positive, there, rfl, rfl⟩ := sends_eq_some.mp sent
  obtain ⟨_, ⟨more, rfl⟩, goesOn⟩ := plays.sends has wants
  refine ⟨_, goesOn count positive there, ?_, ?_⟩
  · rw [List.append_assoc, List.drop_append_of_le_length there, ← List.append_assoc (items.take count),
      List.take_append_drop]
  · simp only [List.length_append, List.length_drop, List.length_take]
    omega

/-- What is received moves from the stream to what was heard. -/
theorem Plays.received (plays : Plays party role hears) (has : role.Has state heard unsaid)
    {rest follows : List β} {closed : Bool} {count : ℕ} (conserved : heard ++ stream ++ follows = hears)
    (open_ : closed = true → follows = [])
    (received : party.receives state stream closed count = some (next, rest)) :
    ∃ more, role.Has next more unsaid ∧ more ++ rest ++ follows = hears ∧ rest.length < stream.length := by
  obtain ⟨limit, wants, ⟨items, some_, small, rfl, rfl⟩ | ⟨rfl, rfl, closed, rfl⟩⟩ :=
    receives_eq_some received
  · obtain ⟨_, _, goesOn⟩ := plays.receives has wants
    refine ⟨heard ++ items, goesOn items some_ small ⟨rest ++ follows, ?_⟩, ?_, ?_⟩
    · rw [← conserved]
      simp
    · rw [← conserved]
      simp
    · have positive := List.length_pos_of_ne_nil some_
      rw [List.length_append]
      omega
  · obtain ⟨_, unheard, _⟩ := plays.receives has wants
    refine absurd ?_ unheard
    rw [← conserved, open_ closed]
    simp

end Plays

/-- Two parties in a conversation: what one said is what the other heard and
what is on the way. The bound is on the moves that are left. -/
def Talk (one : Role σ β) (other : Role τ β) (bound : ℕ) (connection : Connection σ τ β) : Prop :=
  ∃ heard unsaid heard' unsaid', one.Has connection.client heard unsaid ∧
    other.Has connection.server heard' unsaid' ∧
    heard' ++ connection.toServer ++ unsaid = one.text ∧
    heard ++ connection.toClient ++ unsaid' = other.text ∧
    2 * unsaid.length + connection.toServer.length + (2 * unsaid'.length + connection.toClient.length) = bound

section Talk

variable {one : Role σ β} {other : Role τ β}

theorem Plays.closed {party : Party σ β} {role : Role σ β} {hears heard unsaid : List β} {state : σ}
    (plays : Plays party role hears) (has : role.Has state heard unsaid) (closed : party.halted state = true) :
    unsaid = [] := by
  unfold Party.halted at closed
  cases wants : party.want state with
  | halted => exact (plays.halts has wants).2
  | send items => simp [wants] at closed
  | receive limit => simp [wants] at closed

/-- Every move keeps the conversation, and brings it nearer to its end. -/
theorem Talk.step {bound : ℕ} {next : Connection σ τ β} {move : Move}
    (talk : Talk one other bound connection) (plays : Plays client one other.text)
    (plays' : Plays server other one.text)
    (moved : step client server connection move = some next) : ∃ less < bound, Talk one other less next := by
  obtain ⟨heard, unsaid, heard', unsaid', has, has', said, said', rfl⟩ := talk
  cases move with
  | clientSends count =>
    obtain ⟨⟨state, stream⟩, sent, rfl⟩ := Option.map_eq_some_iff.mp moved
    obtain ⟨later, has, follows, lower⟩ := plays.sent has sent
    refine ⟨_, ?_, heard, later, heard', unsaid', has, has', ?_, said', rfl⟩
    · dsimp only
      omega
    · rw [List.append_assoc, follows, ← List.append_assoc, said]
  | clientReceives count =>
    obtain ⟨⟨state, stream⟩, received, rfl⟩ := Option.map_eq_some_iff.mp moved
    obtain ⟨more, has, follows, lower⟩ := plays.received has said' (plays'.closed has') received
    refine ⟨_, ?_, more, unsaid, heard', unsaid', has, has', said, follows, rfl⟩
    dsimp only
    omega
  | serverSends count =>
    obtain ⟨⟨state, stream⟩, sent, rfl⟩ := Option.map_eq_some_iff.mp moved
    obtain ⟨later, has', follows, lower⟩ := plays'.sent has' sent
    refine ⟨_, ?_, heard, unsaid, heard', later, has, has', said, ?_, rfl⟩
    · dsimp only
      omega
    · rw [List.append_assoc, follows, ← List.append_assoc, said']
  | serverReceives count =>
    obtain ⟨⟨state, stream⟩, received, rfl⟩ := Option.map_eq_some_iff.mp moved
    obtain ⟨more, has', follows, lower⟩ := plays'.received has' said (plays.closed has) received
    refine ⟨_, ?_, heard, unsaid, more, unsaid', has, has', follows, said', rfl⟩
    dsimp only
    omega

/-- One of two parties that wait has more to hear than the other has said. -/
def TakesTurns (client : Party σ β) (server : Party τ β) (one : Role σ β) (other : Role τ β) : Prop :=
  ∀ {state heard unsaid limit state' heard' unsaid' limit'},
    one.Has state heard unsaid → client.want state = .receive limit →
    other.Has state' heard' unsaid' → server.want state' = .receive limit' →
    heard' ++ unsaid = one.text → heard ++ unsaid' ≠ other.text

/-- A conversation that can go no further is over. -/
theorem Talk.stuck {bound : ℕ} (talk : Talk one other bound connection)
    (plays : Plays client one other.text) (plays' : Plays server other one.text)
    (turns : TakesTurns client server one other) (stuck : Stuck client server connection) :
    one.Has connection.client other.text [] ∧ client.want connection.client = .halted ∧
      other.Has connection.server one.text [] ∧ server.want connection.server = .halted := by
  obtain ⟨heard, unsaid, heard', unsaid', has, has', said, said', rfl⟩ := talk
  cases wants : client.want connection.client with
  | send items =>
    have refused := Option.map_eq_none_iff.mp (stuck (.clientSends 1))
    exact absurd (Party.nothing_to_send refused wants) (plays.sends has wants).1
  | receive limit =>
    obtain ⟨positive, unheard, _⟩ := plays.receives has wants
    have refused := Option.map_eq_none_iff.mp (stuck (.clientReceives 1))
    rw [Party.nothing_to_receive refused wants positive, List.append_nil] at said'
    cases wants' : server.want connection.server with
    | send items =>
      have refused := Option.map_eq_none_iff.mp (stuck (.serverSends 1))
      exact absurd (Party.nothing_to_send refused wants') (plays'.sends has' wants').1
    | receive limit' =>
      obtain ⟨positive', _, _⟩ := plays'.receives has' wants'
      have refused := Option.map_eq_none_iff.mp (stuck (.serverReceives 1))
      rw [Party.nothing_to_receive refused wants' positive', List.append_nil] at said
      exact absurd said' (turns has wants has' wants' said)
    | halted =>
      rw [(plays'.halts has' wants').2, List.append_nil] at said'
      exact absurd said' unheard
  | halted =>
    obtain ⟨rfl, rfl⟩ := plays.halts has wants
    cases wants' : server.want connection.server with
    | send items =>
      have refused := Option.map_eq_none_iff.mp (stuck (.serverSends 1))
      exact absurd (Party.nothing_to_send refused wants') (plays'.sends has' wants').1
    | receive limit' =>
      obtain ⟨positive', unheard, _⟩ := plays'.receives has' wants'
      have refused := Option.map_eq_none_iff.mp (stuck (.serverReceives 1))
      rw [Party.nothing_to_receive refused wants' positive', List.append_nil, List.append_nil] at said
      exact absurd said unheard
    | halted =>
      obtain ⟨rfl, rfl⟩ := plays'.halts has' wants'
      exact ⟨has, rfl, has', rfl⟩

/-- What holds in every state of a conversation. -/
theorem Talk.run {bound : ℕ} {moves : List Move} (talk : Talk one other bound connection)
    (plays : Plays client one other.text) (plays' : Plays server other one.text)
    (ran : run client server connection moves = some after) :
    ∃ less, Talk one other less after ∧ moves.length + less ≤ bound :=
  run_lowers (fun _ _ _ _ talk moved => talk.step plays plays' moved) talk ran

/-- **Two parties that play their roles conclude.** -/
theorem Talk.concludes {bound : ℕ} (talk : Talk one other bound connection)
    (plays : Plays client one other.text) (plays' : Plays server other one.text)
    (turns : TakesTurns client server one other) :
    Concludes client server connection fun after =>
      one.Has after.client other.text [] ∧ client.want after.client = .halted ∧
        other.Has after.server one.text [] ∧ server.want after.server = .halted := by
  refine ⟨⟨bound, fun moves after ran => ?_⟩, fun moves after ran stuck => ?_⟩
  · obtain ⟨less, _, shorter⟩ := talk.run plays plays' ran
    omega
  · obtain ⟨less, talk, _⟩ := talk.run plays plays' ran
    exact talk.stuck plays plays' turns stuck

end Talk

end EnergyDisplay.Duplex
