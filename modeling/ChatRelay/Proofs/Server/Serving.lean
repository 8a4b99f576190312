import ChatRelay.Proofs.Server.NamedRooms
import ChatRelay.Proofs.Server.Steps

/-! # The running server on its premises

A server does everything at once: it waits until the hub has processed what was submitted, and then
sends what waits. What it does for its connections is what their tasks do when nobody comes between
them. So what holds on any premises holds of a server, whatever it is met with.
-/

namespace ChatRelay

/-! ## Connections and their lines -/

/-- The lines of a server: an open connection is counted and waits for a frame, and all others are
    over. -/
structure Tended (connections : List Connection) (fresh : ClientId)
    (lines : Std.ExtTreeMap ClientId Line) (counted : Std.ExtTreeSet ClientId) : Prop where
  opened : ∀ connection ∈ connections, lines[connection.client]? = some ⟨connection, .joined, .idle⟩
  distinct : (connections.map Connection.client).Nodup
  counted : ∀ client, client ∈ counted ↔ client ∈ connections.map Connection.client
  parted : ∀ client line, lines[client]? = some line →
    client ∉ connections.map Connection.client → line.stage = .over
  known : ∀ client ∈ lines, client < fresh

/-- The lines after that of one client has changed. -/
def Tended.Turned (lines : Std.ExtTreeMap ClientId Line) (client : ClientId) (line : Line)
    (after : Std.ExtTreeMap ClientId Line) : Prop :=
  ∀ other, after[other]? = if client = other then some line else lines[other]?

namespace Tended

variable {connections : List Connection} {fresh : ClientId}
  {lines after : Std.ExtTreeMap ClientId Line} {counted : Std.ExtTreeSet ClientId}
  {connection : Connection} {line : Line}

theorem empty : Tended [] 0 ∅ ∅ := by
  constructor <;> simp

theorem Turned.mem {client other : ClientId} (turned : Turned lines client line after) :
    other ∈ after ↔ client = other ∨ other ∈ lines := by
  rw [Std.ExtTreeMap.mem_iff_isSome_getElem?, Std.ExtTreeMap.mem_iff_isSome_getElem?, turned]
  by_cases same : client = other <;> simp [same]

theorem turned_twice (lines : Std.ExtTreeMap ClientId Line) (client : ClientId)
    (between line : Line) :
    Turned lines client line ((lines.insert client between).insert client line) := by
  intro other
  simp only [Std.ExtTreeMap.getElem?_insert, Std.LawfulEqCmp.compare_eq_iff_eq]
  split <;> rfl

theorem Turned.found {client other : ClientId} (turned : Turned lines client line after)
    (apart : client ≠ other) : after[other]? = lines[other]? :=
  (turned other).trans (if_neg apart)

theorem Turned.lt {client : ClientId} (turned : Turned lines client line after)
    (before : ∀ other ∈ lines, other < fresh) (own : client < fresh) :
    ∀ other ∈ after, other < fresh := by
  intro other there
  rcases turned.mem.mp there with rfl | known
  · exact own
  · exact before other known

/-- A connection is known, so a new client has none. -/
theorem client_lt (tended : Tended connections fresh lines counted)
    (member : connection ∈ connections) : connection.client < fresh := by
  apply tended.known
  rw [Std.ExtTreeMap.mem_iff_isSome_getElem?, tended.opened connection member]
  rfl

/-- A new connection is opened. -/
theorem opens (tended : Tended connections fresh lines counted) (own : connection.client = fresh)
    (turned : Turned lines fresh ⟨connection, .joined, .idle⟩ after) :
    Tended (connections ++ [connection]) (fresh + 1) after (counted.insert fresh) := by
  constructor
  · intro other member
    rcases List.mem_append.mp member with before | new
    · rw [turned.found (Nat.ne_of_gt (tended.client_lt before))]
      exact tended.opened other before
    · rw [List.mem_singleton.mp new, turned, if_pos own.symm]
  · rw [List.map_append, List.nodup_append]
    refine ⟨tended.distinct, List.nodup_singleton _, fun client before _ new => ?_⟩
    obtain ⟨other, member, rfl⟩ := List.mem_map.mp before
    rw [List.mem_singleton.mp new, own]
    exact Nat.ne_of_lt (tended.client_lt member)
  · intro client
    rw [Std.ExtTreeSet.mem_insert, tended.counted, Std.LawfulEqCmp.compare_eq_iff_eq]
    simp [own, or_comm, eq_comm]
  · intro client line found closed
    rw [List.map_append, List.mem_append, not_or] at closed
    have apart : fresh ≠ client := by
      rintro rfl
      exact closed.2 (by simp [own])
    rw [turned.found apart] at found
    exact tended.parted client line found closed.1
  · exact turned.lt (fun other there => Nat.lt_succ_of_lt (tended.known other there))
      (Nat.lt_succ_self fresh)

/-- A new connection is over at once. -/
theorem refuses (tended : Tended connections fresh lines counted) (parted : line.stage = .over)
    (turned : Turned lines fresh line after) : Tended connections (fresh + 1) after counted := by
  constructor
  · intro other member
    rw [turned.found (Nat.ne_of_gt (tended.client_lt member))]
    exact tended.opened other member
  · exact tended.distinct
  · exact tended.counted
  · intro client other found closed
    rw [turned] at found
    split at found
    · cases found
      exact parted
    · exact tended.parted client other found closed
  · exact turned.lt (fun other there => Nat.lt_succ_of_lt (tended.known other there))
      (Nat.lt_succ_self fresh)

/-- A connection ends. -/
theorem closes (tended : Tended connections fresh lines counted) (member : connection ∈ connections)
    (parted : line.stage = .over) (turned : Turned lines connection.client line after) :
    Tended (connections.filter (·.client != connection.client)) fresh after
      (counted.erase connection.client) := by
  have listed (client : ClientId) :
      client ∈ (connections.filter (·.client != connection.client)).map Connection.client ↔
        connection.client ≠ client ∧ client ∈ connections.map Connection.client := by
    simp only [List.mem_map, List.mem_filter, bne_iff_ne]
    constructor
    · rintro ⟨other, ⟨there, apart⟩, rfl⟩
      exact ⟨Ne.symm apart, other, there, rfl⟩
    · rintro ⟨apart, other, there, rfl⟩
      exact ⟨other, ⟨there, Ne.symm apart⟩, rfl⟩
  constructor
  · intro other remains
    obtain ⟨there, apart⟩ := List.mem_filter.mp remains
    rw [turned.found (Ne.symm (bne_iff_ne.mp apart))]
    exact tended.opened other there
  · exact tended.distinct.sublist (List.filter_sublist.map _)
  · intro client
    rw [listed, Std.ExtTreeSet.mem_erase, tended.counted, ne_eq, Std.LawfulEqCmp.compare_eq_iff_eq]
  · intro client other found closed
    rw [turned] at found
    split at found
    · cases found
      exact parted
    · next apart =>
        refine tended.parted client other found fun there => ?_
        exact closed ((listed client).mpr ⟨apart, there⟩)
  · exact turned.lt tended.known (tended.client_lt member)

/-- A connection goes on in some room. -/
theorem moves (tended : Tended connections fresh lines counted) (member : connection ∈ connections)
    (move : String → String)
    (turned : Turned lines connection.client
      ⟨{ connection with room := move connection.room }, .joined, .idle⟩ after) :
    Tended (connections.map fun other =>
      if other.client = connection.client then { other with room := move other.room } else other)
      fresh after counted := by
  have clients : (connections.map fun other =>
      if other.client = connection.client then { other with room := move other.room }
      else other).map Connection.client = connections.map Connection.client := by
    rw [List.map_map]
    refine List.map_congr_left fun other _ => ?_
    simp only [Function.comp_apply]
    split <;> rfl
  constructor
  · intro other moved
    obtain ⟨before, there, rfl⟩ := List.mem_map.mp moved
    by_cases same : before.client = connection.client
    · have one : before = connection :=
        List.inj_on_of_nodup_map tended.distinct there member same
      subst one
      simp only [if_true, turned before.client]
    · rw [if_neg same, turned.found (Ne.symm same)]
      exact tended.opened before there
  · rw [clients]
    exact tended.distinct
  · rw [clients]
    exact tended.counted
  · rw [clients]
    intro client other found closed
    rw [turned] at found
    split at found
    · next same =>
        subst same
        exact absurd (List.mem_map_of_mem member) closed
    · exact tended.parted client other found closed
  · exact turned.lt tended.known (tended.client_lt member)

/-- As many connections are counted as are open. -/
theorem size_counted (tended : Tended connections fresh lines counted) :
    counted.size = connections.length := by
  have once : counted.toList.Nodup :=
    Std.ExtTreeSet.distinct_toList.imp fun apart same => apart (by simp [same])
  have perm : counted.toList.Perm (connections.map Connection.client) := by
    refine (List.perm_ext_iff_of_nodup once tended.distinct).mpr fun client => ?_
    rw [Std.ExtTreeSet.mem_toList, tended.counted]
  rw [← Std.ExtTreeSet.length_toList, perm.length_eq, List.length_map]

end Tended

namespace Server

/-! ## A server that is on some premises -/

/-- The hub of a server waits, nobody but the clients of its connections is registered with it, and
    the next client is new to it. -/
structure Housed (server : Server) (lines : Std.ExtTreeMap ClientId Line) : Prop where
  rests : server.node.loop.Rests
  fresh : ∀ queue ∈ server.queues, queue < server.fresh
  strangers : ∀ client ∉ lines, server.node.loop.hub.registry.roomOf? client = none

/-- The premises are those of the server: hub, attachments and queues are the same, and the open
    connections are those that the lines show. -/
def Shows (server : Server) (premises : Premises) : Prop :=
  ∃ loose lines counted, premises.Looks ⟨server.node, server.queues, loose⟩ lines counted ∧
    Tended server.connections server.fresh lines counted ∧ server.Housed lines

/-- The server is on premises that began with nothing. -/
def Served (node : Node) (capacity : Nat) (server : Server) : Prop :=
  ∃ moves, server.Shows ((Premises.start node capacity).run moves)

theorem Housed.submit {server : Server} {lines : Std.ExtTreeMap ClientId Line} {roster : Roster}
    (housed : server.Housed lines) (mirrors : server.node.loop.hub.registry.Mirrors roster)
    (unshared : roster.Unshared) (command : Command)
    (others : ∀ client ∉ lines, ¬command.brings client) :
    (server.submit command).2.Housed lines := by
  let venue : Venue := { node := server.node, queues := server.queues }
  have rests : venue.node.loop.Rests := housed.rests
  constructor
  · exact (Venue.rests_submit rests).1
  · intro queue there
    exact housed.fresh queue ((Venue.mem_queues_submit rests mirrors unshared).mp there)
  · intro client strange
    exact Venue.roomOf?_submit rests mirrors unshared (others client strange)
      (housed.strangers client strange)

/-- Loop and queues stay as they are. There may be more lines than before. -/
theorem Housed.mono {server after : Server} {lines later : Std.ExtTreeMap ClientId Line}
    (housed : server.Housed lines) (loop : after.node.loop = server.node.loop)
    (queues : after.queues = server.queues) (fresh : server.fresh ≤ after.fresh)
    (known : ∀ client ∈ lines, client ∈ later) : after.Housed later where
  rests := loop ▸ housed.rests
  fresh queue there := Nat.lt_of_lt_of_le (housed.fresh queue (queues ▸ there)) fresh
  strangers client strange :=
    loop ▸ housed.strangers client fun there => strange (known client there)

theorem Housed.update {server : Server} {lines : Std.ExtTreeMap ClientId Line}
    (housed : server.Housed lines) (queue : QueueId) (change : Outbound → Outbound) :
    { server with queues := server.queues.update queue change }.Housed lines :=
  ⟨housed.rests, fun _ there => housed.fresh _ (Queues.mem_update.mp there), housed.strangers⟩

/-- A new client is not known, and its queue is there before anything else. -/
theorem Housed.newHandle {server : Server} {lines later : Std.ExtTreeMap ClientId Line}
    (housed : server.Housed lines) (known : ∀ client ∈ lines, client ∈ later) :
    server.newHandle.2.Housed later where
  rests := housed.rests
  fresh queue there := by
    rcases Std.ExtTreeMap.mem_insert.mp there with same | before
    · rw [← Std.LawfulEqCmp.compare_eq_iff_eq.mp same]
      exact Nat.lt_succ_self _
    · exact Nat.lt_succ_of_lt (housed.fresh queue before)
  strangers client strange := housed.strangers client fun there => strange (known client there)

theorem connections_prepare (server : Server) (connection : Connection)
    (reaction : Session.Reaction) :
    (server.prepare connection reaction).connections = server.connections.map fun other =>
      if other.client = connection.client then { other with room := reaction.roomAfter other.room }
      else other := by
  cases reaction with
  | move room => rfl
  | close | ignore | relay _ | say _ => simp [prepare, Session.Reaction.roomAfter]

theorem filter_prepare (server : Server) (connection : Connection) (reaction : Session.Reaction) :
    (server.prepare connection reaction).connections.filter (·.client != connection.client) =
      server.connections.filter (·.client != connection.client) := by
  rw [connections_prepare]
  induction server.connections with
  | nil => rfl
  | cons other rest ih =>
      by_cases own : other.client = connection.client
      · simpa [own] using ih
      · simpa [own] using ih

/-- A hub that has ended refuses a request and lets go of what it carries. -/
theorem submit_ended {server : Server} (ended : server.node.loop.running = false)
    (command : Command) :
    server.submit command = (.error .closed,
      { server with queues := server.queues.release (EventLoop.carried command) }) := by
  simp [submit, Node.submit, EventLoop.submit, ended, Except.map]

/-- A new client is in, or else its connection is over at once. -/
theorem connect_snd {server : Server} (rests : server.node.loop.Rests) (room : String) :
    let connection : Connection := ⟨server.fresh, server.fresh, room⟩
    let joined := (server.newHandle.2.submit (.join room ⟨server.fresh, server.fresh⟩)).2
    (server.connect room).2.2 = if server.node.loop.running then
      ({ joined with connections := joined.connections ++ [connection] }.withMetrics
        Metrics.connectionOpened).flush.2
    else joined := by
  intro connection joined
  unfold Server.connect
  dsimp only
  split
  · next fault after submitted =>
      have same : joined = after := congrArg Prod.snd submitted
      rw [if_neg, same]
      intro running
      have ready : server.newHandle.2.node.loop.Ready := rests.ready running
      cases (accepted_submit ready _).symm.trans (congrArg Prod.fst submitted)
  · next done after submitted =>
      have same : joined = after := congrArg Prod.snd submitted
      rw [if_pos, same]
      · rfl
      · by_contra gone
        have ended : server.newHandle.2.node.loop.running = false := Bool.eq_false_iff.mpr gone
        cases (submit_ended ended _).symm.trans submitted

namespace Served

variable {server : Server} {node : Node} {capacity : Nat}

/-- Further steps on the premises of a server take it to whatever they show then. -/
theorem leads (served : Served node capacity server) {after : Server}
    (leads : ∀ premises loose lines counted roster,
      Premises.Looks premises ⟨server.node, server.queues, loose⟩ lines counted →
      Tended server.connections server.fresh lines counted → server.Housed lines →
      server.node.loop.hub.registry.Mirrors roster → roster.Unshared →
      ∃ moves, after.Shows (premises.run moves)) : Served node capacity after := by
  obtain ⟨moves, loose, lines, counted, looks, tended, housed⟩ := served
  obtain ⟨roster, world⟩ := ((Premises.Sound.start node capacity).run moves).board.sound.world
  have loop : _ = server.node.loop := congrArg (fun venue : Venue => venue.node.loop) looks.venue
  obtain ⟨later, shows⟩ := leads _ loose lines counted roster looks tended housed
    (loop ▸ world.mirrors) world.unshared
  refine ⟨moves ++ later, ?_⟩
  rw [Premises.run, List.foldl_append]
  exact shows

theorem receiveQueue (served : Served node capacity server) (queue : QueueId) :
    Served node capacity { server with queues := (server.queues.receive queue).2 } := by
  apply served.leads
  intro premises loose lines counted roster looks tended housed mirrors unshared
  have taken := looks.world (.receive queue) rfl
  refine ⟨[.board (.other (.receive queue))], _, _, _, taken, tended, ?_⟩
  rw [Queues.receive_snd]
  exact housed.update queue _

theorem disconnect (served : Served node capacity server) {connection : Connection}
    (member : connection ∈ server.connections) :
    Served node capacity (server.disconnect connection) := by
  apply served.leads
  intro premises loose lines counted roster looks tended housed mirrors unshared
  have found := tended.opened connection member
  have listed := (tended.counted connection.client).mpr (List.mem_map_of_mem member)
  have parted := looks.part found rfl listed
  have discarded := parted.world (.discard connection.queue) rfl
  have left := discarded.leave housed.rests Std.ExtTreeMap.getElem?_insert_self rfl
  have gone := left.discount Std.ExtTreeMap.getElem?_insert_self rfl listed
  have turned : Tended.Turned lines connection.client ⟨connection, .over, .idle⟩
      _ := Tended.turned_twice lines _ ⟨connection, .leaving, .idle⟩ _
  refine ⟨[.board (.part connection.client), .board (.other (.discard connection.queue)),
    .board (.leave connection.client), .board (.other (.advance none)),
    .discount connection.client], _, _, _, gone, tended.closes member rfl turned, ?_⟩
  have discarded := housed.update connection.queue Outbound.discard
  have submitted := discarded.submit mirrors unshared (.disconnect connection.client)
    fun _ _ => id
  exact submitted.mono rfl rfl (Nat.le_refl _) fun client there => turned.mem.mpr (.inr there)

/-- The premises of a server have nothing to do with its settings, its store or its bridge. -/
theorem same (served : Served node capacity server) {after : Server}
    (node' : after.node = server.node) (queues : after.queues = server.queues)
    (connections : after.connections = server.connections) (fresh : after.fresh = server.fresh) :
    Served node capacity after := by
  obtain ⟨moves, loose, lines, counted, looks, tended, housed⟩ := served
  refine ⟨moves, loose, lines, counted, ?_, ?_, ?_⟩
  · rw [node', queues]
    exact looks
  · rw [connections, fresh]
    exact tended
  · exact housed.mono (congrArg Node.loop node') queues (Nat.le_of_eq fresh.symm) fun _ => id

theorem distinct (served : Served node capacity server) :
    (server.connections.map Connection.client).Nodup := by
  obtain ⟨moves, loose, lines, counted, looks, tended, housed⟩ := served
  exact tended.distinct

theorem rests (served : Served node capacity server) : server.node.loop.Rests := by
  obtain ⟨moves, loose, lines, counted, looks, tended, housed⟩ := served
  exact housed.rests

/-! ### What waits is sent -/

theorem drain (served : Served node capacity server) (queue : QueueId) (fuel : Nat) :
    Served node capacity { server with queues := (server.queues.drain queue fuel).2.2 } := by
  induction fuel generalizing server with
  | zero => exact served
  | succ fuel ih =>
      have taken := served.receiveQueue queue
      unfold Queues.drain
      cases received : server.queues.receive queue with
      | mk found queues =>
          rw [received] at taken
          cases found with
          | payload data => exact ih taken
          | empty | ended => exact taken

theorem drainAll (served : Served node capacity server) (queue : QueueId) :
    Served node capacity { server with queues := (server.queues.drainAll queue).2.2 } := by
  unfold Queues.drainAll
  split
  · exact served.drain queue _
  · exact served

theorem flushOne (served : Served node capacity server) {connection : Connection}
    (member : connection ∈ server.connections) :
    Served node capacity (server.flushOne connection).2 := by
  have drained := served.drainAll connection.queue
  unfold Server.flushOne
  dsimp only
  split
  · exact drained.disconnect member
  · exact drained

theorem mem_flushOne {connection other : Connection} (member : other ∈ server.connections)
    (apart : other.client ≠ connection.client) :
    other ∈ (server.flushOne connection).2.connections := by
  unfold Server.flushOne
  dsimp only
  split
  · exact List.mem_filter.mpr ⟨member, bne_iff_ne.mpr apart⟩
  · exact member

theorem flushEach (served : Served node capacity server) {connections : List Connection}
    (members : ∀ connection ∈ connections, connection ∈ server.connections)
    (distinct : (connections.map Connection.client).Nodup) :
    Served node capacity (Server.flushEach connections server).2 := by
  induction connections generalizing server with
  | nil => exact served
  | cons connection rest ih =>
      rw [List.map_cons, List.nodup_cons] at distinct
      refine ih (served.flushOne (members connection List.mem_cons_self)) ?_ distinct.2
      intro other there
      refine mem_flushOne (members other (List.mem_cons_of_mem _ there)) fun same => ?_
      exact distinct.1 (same ▸ List.mem_map_of_mem there)

theorem flush (served : Served node capacity server) : Served node capacity server.flush.2 :=
  served.flushEach (fun _ => id) served.distinct

/-! ### A frame comes in -/

/-- The hub accepts what a frame leads to. -/
theorem asks (served : Served node capacity server) {connection : Connection}
    (member : connection ∈ server.connections) (running : server.node.loop.running = true)
    {now : Timestamp} {data : Bytes} {command : Command}
    (asks : (Session.react connection.room now data).command? connection = some command) :
    Served node capacity
      ((server.prepare connection (Session.react connection.room now data)).submit command).2 := by
  generalize reacts : Session.react connection.room now data = reaction at asks ⊢
  apply served.leads
  intro premises loose lines counted roster looks tended housed mirrors unshared
  have taken := looks.frame (tended.opened connection member) rfl now data
  have asking : Line.pumpAfter ⟨connection, .joined, .idle⟩ reaction =
      .asking command (reaction.roomAfter connection.room) := by
    simp only [Line.pumpAfter, asks]
  rw [reacts, asking] at taken
  have nothing : EventLoop.carried command = [] := by
    cases reaction <;> cases asks <;> rfl
  have made := taken.request housed.rests running Std.ExtTreeMap.getElem?_insert_self rfl nothing
  have submitted : (⟨server.node, server.queues, loose⟩ : Venue).submit command =
      ⟨((server.prepare connection reaction).submit command).2.node,
        ((server.prepare connection reaction).submit command).2.queues,
        loose.diff (EventLoop.carried command)⟩ := by
    cases reaction <;> rfl
  rw [submitted] at made
  have turned : Tended.Turned lines connection.client
      ⟨{ connection with room := reaction.roomAfter connection.room }, .joined, .idle⟩ _ :=
    Tended.turned_twice lines _
      ⟨connection, .joined, .asking command (reaction.roomAfter connection.room)⟩ _
  refine ⟨[.board (.frame connection.client now data), .board (.request connection.client),
    .board (.other (.advance none))], _, _, _, made, ?_, ?_⟩
  · have moved := tended.moves member (reaction.roomAfter ·) turned
    rw [← connections_prepare] at moved
    cases reaction <;> exact moved
  · have prepared : (server.prepare connection reaction).Housed lines := by
      cases reaction <;> exact housed.mono rfl rfl (Nat.le_refl _) fun _ => id
    have mirrors : (server.prepare connection reaction).node.loop.hub.registry.Mirrors roster := by
      cases reaction <;> exact mirrors
    have others : ∀ client ∉ lines, ¬command.brings client := by
      cases reaction <;> cases asks <;> exact fun _ _ => id
    exact (prepared.submit mirrors unshared command others).mono rfl rfl (Nat.le_refl _)
      fun client there => turned.mem.mpr (.inr there)

theorem perform (served : Served node capacity server) {connection : Connection}
    (member : connection ∈ server.connections) (now : Timestamp) (data : Bytes) :
    Served node capacity
      (server.perform connection (Session.react connection.room now data)).2 := by
  generalize reacts : Session.react connection.room now data = reaction
  cases asks : reaction.command? connection with
  | none =>
      cases reaction with
      | close => exact served.disconnect member
      | ignore => exact served
      | move | relay | say => cases asks
  | some command =>
      have prepared : (server.prepare connection reaction).node = server.node :=
        (prepare_node server connection reaction).1
      have rests := served.rests
      rw [perform_asking asks, Server.request]
      cases running : server.node.loop.running with
      | true =>
          have asked := served.asks member running (reacts ▸ asks)
          rw [reacts] at asked
          have accepted : ((server.prepare connection reaction).submit command).1 = .ok () :=
            accepted_submit (prepared ▸ rests.ready running) command
          rw [← Prod.eta (Server.submit _ command), accepted]
          exact asked.flush
      | false =>
          -- the request is refused, and the connection ends as it would without the frame
          have nothing : EventLoop.carried command = [] := by
            cases reaction <;> cases asks <;> rfl
          rw [submit_ended (prepared ▸ running), nothing]
          refine (served.disconnect member).same ?_ ?_ ?_ ?_
          · cases reaction <;> rfl
          · cases reaction <;> rfl
          · exact filter_prepare server connection reaction
          · cases reaction <;> rfl

theorem receive (served : Served node capacity server) (client : ClientId) (now : Timestamp)
    (incoming : Incoming) : Served node capacity (server.receive client now incoming).2 := by
  unfold Server.receive
  split
  · exact served
  · next connection found =>
      have member : connection ∈ server.connections := List.mem_of_find?_eq_some found
      cases incoming with
      | data data => exact served.perform member now data
      | ping content | pong content =>
          dsimp only
          split
          · exact served.disconnect member
          · exact served
      | close | lost => exact served.disconnect member

/-! ### A connection is opened -/

/-- The hub has dealt with the request of a new client, which is in or else refused. -/
theorem joins (served : Served node capacity server) (room : String) :
    let connection : Connection := ⟨server.fresh, server.fresh, room⟩
    let joined := (server.newHandle.2.submit (.join room ⟨server.fresh, server.fresh⟩)).2
    Served node capacity (if server.node.loop.running then
      { joined with connections := joined.connections ++ [connection] }.withMetrics
        Metrics.connectionOpened
    else joined) := by
  intro connection joined
  apply served.leads
  intro premises loose lines counted roster looks tended housed mirrors unshared
  let handle : Handle := ⟨server.fresh, server.fresh⟩
  have unknown : server.fresh ∉ lines := fun there => Nat.lt_irrefl _ (tended.known _ there)
  have dialled := looks.dial handle server.node.config.outboundCapacity room unknown
    housed.rests.quiet (housed.strangers _ unknown)
    fun there => Nat.lt_irrefl _ (housed.fresh _ there)
  have entered := dialled.enter housed.rests Std.ExtTreeMap.getElem?_insert_self rfl
    List.mem_cons_self
  let moves : List PremisesMove :=
    [.board (.dial handle server.node.config.outboundCapacity room), .board (.enter server.fresh),
      .board (.other (.advance none))]
  let after (line : Line) : Std.ExtTreeMap ClientId Line :=
    (lines.insert server.fresh { connection }).insert server.fresh line
  have turned (line : Line) : Tended.Turned lines server.fresh line (after line) :=
    Tended.turned_twice lines server.fresh { connection } line
  have joins (line : Line) : joined.Housed (after line) := by
    have handed := housed.newHandle fun client there => (turned line).mem.mpr (.inr there)
    refine handed.submit mirrors unshared (.join room handle) fun client strange brings => ?_
    exact strange ((turned line).mem.mpr (.inl brings))
  split
  · next running =>
      rw [if_pos running] at entered
      have uncounted : server.fresh ∉ counted := fun listed => by
        obtain ⟨other, member, same⟩ := List.mem_map.mp ((tended.counted _).mp listed)
        exact Nat.ne_of_lt (tended.client_lt member) same
      have counts := entered.count Std.ExtTreeMap.getElem?_insert_self rfl uncounted
      exact ⟨moves ++ [PremisesMove.count server.fresh], _, _, _, counts,
        tended.opens rfl (turned _), (joins _).mono rfl rfl (Nat.le_refl _) fun _ => id⟩
  · next ended =>
      rw [if_neg ended] at entered
      exact ⟨moves, _, _, _, entered, tended.refuses rfl (turned _), joins _⟩

theorem connect (served : Served node capacity server) (room : String) :
    Served node capacity (server.connect room).2.2 := by
  have joins := served.joins room
  rw [connect_snd served.rests]
  cases running : server.node.loop.running with
  | true =>
      rw [running] at joins
      exact flush joins
  | false =>
      rw [running] at joins
      exact joins

/-! ### What is not about connections -/

theorem stopHub (served : Served node capacity server) :
    Served node capacity server.stopHub.2 := by
  have stopped : Served node capacity { server with
      node := (server.node.abort server.queues).1
      queues := (server.node.abort server.queues).2 } := by
    apply served.leads
    intro premises loose lines counted roster looks tended housed mirrors unshared
    refine ⟨[.board (.other .stop)], _, _, _, looks.world .stop rfl, tended, ?_⟩
    refine ⟨⟨rfl, housed.rests.held, housed.rests.room⟩, fun queue there => ?_, fun _ _ => ?_⟩
    · exact housed.fresh queue (Queues.mem_release.mp there)
    · simp [Node.abort, EventLoop.stop, Registry.roomOf?]
  exact stopped.flush

theorem fanout (served : Served node capacity server) (change : Outbox → Outbox) :
    Served node capacity
      { server with node := { server.node with outbox := server.node.outbox.map change } } := by
  apply served.leads
  intro premises loose lines counted roster looks tended housed mirrors unshared
  exact ⟨[.aside (.fanout change)], _, _, _, looks.aside (.inl ⟨change, rfl⟩), tended,
    housed.mono rfl rfl (Nat.le_refl _) fun _ => id⟩

theorem noteRequest (served : Served node capacity server) (method path : String) (status : Nat)
    (time : Binary64) :
    Served node capacity (server.withMetrics (·.noteRequest method path status time)) := by
  apply served.leads
  intro premises loose lines counted roster looks tended housed mirrors unshared
  exact ⟨[.aside (.request method path status time)], _, _, _,
    looks.aside (.inr (.inl ⟨method, path, status, time, rfl⟩)), tended,
    housed.mono rfl rfl (Nat.le_refl _) fun _ => id⟩

theorem observeBridge (served : Served node capacity server) (bridge : BridgeStatus) :
    Served node capacity (server.withMetrics (·.observeBridge bridge)) := by
  apply served.leads
  intro premises loose lines counted roster looks tended housed mirrors unshared
  exact ⟨[.aside (.bridge bridge)], _, _, _, looks.aside (.inr (.inr ⟨bridge, rfl⟩)), tended,
    housed.mono rfl rfl (Nat.le_refl _) fun _ => id⟩

theorem loseOutbox (served : Served node capacity server) :
    Served node capacity server.loseOutbox := by
  unfold Server.loseOutbox
  split
  · next outbox bridge attached there =>
      have lost := served.fanout fun outbox => (outbox.take outbox.waiting.length).2
      refine lost.same ?_ rfl rfl rfl
      rw [attached]
      rfl
  · exact served

theorem meet (served : Served node capacity server) (contact : Contact) :
    Served node capacity (server.meet contact) := by
  cases contact with
  | request occasion request =>
      have answered : Served node capacity (server.answer occasion request).2 :=
        answer_keeps (fun _ bridge served => served.observeBridge bridge)
          (fun _ method path status time served => served.noteRequest method path status time)
          served
      cases answers : server.answer occasion request with
      | mk answer after =>
          rw [answers] at answered
          rw [Server.meet, answers]
          cases answer with
          | respond response => exact answered
          | upgrade room => exact answered.connect room
  | incoming client now incoming => exact served.receive client now incoming
  | stop => exact served.stopHub
  | outage => exact served.loseOutbox

theorem serve (served : Served node capacity server) (contacts : List Contact) :
    Served node capacity (server.serve contacts) := by
  induction contacts generalizing server with
  | nil => exact served
  | cons contact contacts ih => exact ih (served.meet contact)

end Served
end Server

/-- A server starts on premises where nothing is yet. -/
theorem Settings.launch_served (settings : Settings) (id : InstanceId) :
    Server.Served (settings.launch id).node settings.hub.commandCapacity (settings.launch id) := by
  refine ⟨[], [], ∅, ∅, ⟨?_, rfl, rfl⟩, .empty, ?_⟩
  · unfold Settings.launch
    dsimp only
    cases settings.redis.enabled && settings.redis.presence <;> rfl
  · refine ⟨⟨rfl, Nat.one_ne_zero, Nat.lt_of_lt_of_le Nat.one_pos (Nat.le_max_right _ _)⟩, ?_, ?_⟩
    · simp [Settings.launch]
    · simp [Settings.launch, Node.start, EventLoop.ofCapacity, Registry.roomOf?]

namespace Server

/-- What a server keeps account of agrees with its open connections and its registry. -/
structure Accounts (server : Server) : Prop where
  /-- The gauge shows how many connections are open. -/
  gauge : ∀ metrics, server.node.metrics = some metrics →
    metrics.connections = server.connections.length
  /-- While the hub runs nobody but the clients of open connections is registered. -/
  registered : server.node.loop.running = true →
    ∀ client ∉ server.connections.map Connection.client,
      server.node.loop.hub.registry.Lacks client
  /-- The rooms in the ledger are those of the registry, with as many members. -/
  active : server.node.loop.running = true → ∀ ledger, server.node.presence = some ledger →
    ∀ room (members : Int), ⟨room, members⟩ ∈ ledger.active ↔
      0 < server.node.loop.hub.registry.members room ∧
        members = server.node.loop.hub.registry.members room

theorem Served.accounts {server : Server} {node : Node} {capacity : Nat}
    (served : Served node capacity server) : server.Accounts := by
  obtain ⟨moves, loose, lines, counted, looks, tended, housed⟩ := served
  have sound := (Premises.Sound.start node capacity).run moves
  generalize (Premises.start node capacity).run moves = premises at sound looks
  obtain ⟨roster, world⟩ := sound.board.sound.world
  have shown : premises.venue.node = server.node := congrArg Venue.node looks.venue
  have loop : premises.board.world.loop = server.node.loop := congrArg Node.loop shown
  have mirrors : server.node.loop.hub.registry.Mirrors roster := loop ▸ world.mirrors
  constructor
  · intro metrics found
    have gauge := sound.gauge metrics ((congrArg Node.metrics shown).trans found)
    rw [gauge, looks.counted, tended.size_counted]
  · intro running client closed
    cases found : lines[client]? with
    | none =>
        have strange : client ∉ lines := by simp [Std.ExtTreeMap.mem_iff_isSome_getElem?, found]
        exact mirrors.lacks (housed.strangers client strange)
    | some line =>
        -- a connection that is over has asked for its disconnect, and nothing is under way any more
        have parted := tended.parted client line found closed
        rcases (sound.board.lines client line (looks.lines ▸ found)).parted parted
          (loop ▸ running) with listed | absent
        · simp [loop, housed.rests.quiet] at listed
        · exact mirrors.lacks (loop ▸ absent.nowhere)
  · intro running ledger found room members
    obtain ⟨exact, total⟩ := sound.attended (shown ▸ running) ledger (shown ▸ found)
    rw [exact.mem_active, total, shown, Int.natCast_pos]

/-- Whatever a server is met with from its start on, its connections are on some premises, where
    they leave nothing behind, and its accounts are right. -/
theorem serve_accounts (settings : Settings) (id : InstanceId) (contacts : List Contact) :
    let first := settings.launch id
    ∃ premises, Premises.Tidy first.node premises ∧ (first.serve contacts).Shows premises ∧
      (first.serve contacts).Accounts := by
  intro first
  have served := (settings.launch_served id).serve contacts
  have accounts := served.accounts
  obtain ⟨moves, shows⟩ := served
  exact ⟨_, ((Premises.Sound.start _ _).run moves).tidy, shows, accounts⟩

end Server
end ChatRelay
