import ChatRelay.Proofs.Fanout.Wire
import ChatRelay.Proofs.Hub.Broadcasts
import ChatRelay.Proofs.Hub.Channel
import ChatRelay.Proofs.Run

/-! # Instances on one bus

Any number of instances share one ordered bus. The fanout of each appends what it accepts, and the
subscriber of each reads the bus from its start and hands the broadcasts of other instances to its
hub. Requests, hubs and subscribers take their steps in any order.

A hub gets exactly the broadcasts of others that its subscriber has passed, in the order of the bus,
and nothing that it got from the bus goes back there.
-/

namespace ChatRelay

/-- A payload whose length can be written in eight bytes. -/
abbrev WirePayload := { payload : Bytes // payload.length < 2 ^ 64 }

/-- What the clients of an instance ask of its hub. -/
inductive ClientRequest where
  | join (room : String) (handle : Handle)
  | leave (room : String) (client : ClientId)
  | switch (client : ClientId) (room : String)
  | disconnect (client : ClientId)
  | broadcast (room : String) (payload : WirePayload)
  | snapshot (ticket : Nat)

def ClientRequest.command : ClientRequest → Command
  | .join room handle => .join room handle
  | .leave room client => .leave room client
  | .switch client room => .switch client room
  | .disconnect client => .disconnect client
  | .broadcast room payload => .broadcast { room, payload := payload.val, origin := .here }
  | .snapshot ticket => .snapshot ticket

/-- An instance, and how far its subscriber has read. -/
structure Site where
  node : Node
  cursor : Nat := 0

/-- The broadcasts that wait in the channel of the hub. -/
def Site.waiting (site : Site) : List Envelope :=
  site.node.loop.pending.filterMap Command.envelope?

/-- Instances and the messages on their bus, channel and data each. -/
structure Network (sites : Nat) where
  site : Fin sites → Site
  bus : List (String × Bytes) := []

/-- A step somewhere in the network. -/
inductive NetworkMove (sites : Nat) where
  /-- A client submits a request; it goes on waiting while the channel has no room. -/
  | request (index : Fin sites) (request : ClientRequest)
  /-- A hub processes its oldest command. Its fanout accepts or refuses what it is handed, and the
      outbound queues are as they are then. -/
  | advance (index : Fin sites) (accepts : Bool) (queues : Queues)
  /-- A subscriber takes the next message from the bus; it waits while the channel has no room. -/
  | relay (index : Fin sites)

/-- What can be seen of a step. -/
inductive Notice (sites : Nat) where
  /-- A broadcast of a client got into the channel of its hub. -/
  | submitted (index : Fin sites) (envelope : Envelope)
  /-- A hub reported something. -/
  | reported (index : Fin sites) (event : Event)

/-- A local broadcast that the fanout accepted. -/
structure Post (sites : Nat) where
  source : Fin sites
  room : String
  payload : Bytes

namespace Post

variable {sites : Nat} (ids : Fin sites → InstanceId)

/-- What stands on the bus. -/
def message (naming : ChannelNaming) (post : Post sites) : String × Bytes :=
  (naming.channel post.room, Wire.encode (ids post.source) post.payload)

/-- The broadcast as it was submitted. -/
def original (post : Post sites) : Envelope :=
  { room := post.room, payload := post.payload, origin := .here }

/-- The broadcast as another instance gets it. -/
def copy (post : Post sites) : Envelope :=
  { room := post.room, payload := post.payload, origin := .instance (ids post.source) }

/-- What an instance is to get of some posts: those of the others. -/
def foreign (index : Fin sites) (posts : List (Post sites)) : List Envelope :=
  (posts.filter fun post => post.source ≠ index).map (copy ids)

/-- The posts that come of broadcasts which a fanout accepts. -/
def accepting (index : Fin sites) (envelopes : List Envelope) : List (Post sites) :=
  (envelopes.flatMap Envelope.outgoing).map fun (room, payload) => ⟨index, room, payload⟩

theorem source_of_accepting {index : Fin sites} {envelopes : List Envelope} {post : Post sites}
    (member : post ∈ accepting index envelopes) : post.source = index := by
  obtain ⟨_, _, rfl⟩ := List.mem_map.mp member
  rfl

theorem map_original_accepting (index : Fin sites) (envelopes : List Envelope) :
    (accepting index envelopes).map original = envelopes.filter Envelope.isLocal := by
  induction envelopes with
  | nil => rfl
  | cons envelope envelopes ih =>
      obtain ⟨room, payload, origin⟩ := envelope
      unfold accepting at ih ⊢
      rw [List.flatMap_cons, List.map_append, List.map_append, ih]
      cases origin <;> rfl

/-- Two instances get the same of what third ones post. -/
theorem filter_foreign (distinct : Function.Injective ids) {index other party : Fin sites}
    (involved : party = index ∨ party = other) (posts : List (Post sites)) :
    ((foreign ids party posts).filter fun envelope =>
      envelope.origin ≠ .instance (ids index) ∧ envelope.origin ≠ .instance (ids other)) =
    (posts.filter fun post => post.source ≠ index ∧ post.source ≠ other).map (copy ids) := by
  rw [foreign, List.filter_map, List.filter_filter]
  congr 1
  apply List.filter_congr
  intro post _
  simp only [Function.comp_apply, copy, ne_eq, Origin.instance.injEq, distinct.eq_iff,
    ← Bool.decide_and]
  apply decide_eq_decide.mpr
  rcases involved with rfl | rfl
  · exact and_iff_left_of_imp And.left
  · exact and_iff_left_of_imp And.right

/-- Reading one post further. -/
theorem foreign_take_succ (index : Fin sites) {posts : List (Post sites)} {cursor : Nat}
    {post : Post sites} (next : posts[cursor]? = some post) :
    foreign ids index (posts.take (cursor + 1)) =
      foreign ids index (posts.take cursor) ++
        if post.source = index then [] else [post.copy ids] := by
  unfold foreign
  rw [List.take_add_one, next, List.filter_append, List.map_append]
  by_cases own : post.source = index <;> simp [own]

end Post

namespace Notice

variable {sites : Nat}

def submitted? (index : Fin sites) : Notice sites → Option Envelope
  | .submitted source envelope => if source = index then some envelope else none
  | .reported .. => none

def processed? (index : Fin sites) : Notice sites → Option Envelope
  | .submitted .. => none
  | .reported source event => if source = index then event.processed? else none

def offered? (index : Fin sites) : Notice sites → Option (Envelope × Bool)
  | .submitted .. => none
  | .reported source event => if source = index then event.offered? else none

def accepted? : Notice sites → Option (Post sites)
  | .submitted .. => none
  | .reported source event => event.accepted?.map fun (room, payload) => ⟨source, room, payload⟩

/-- The broadcasts that the clients of an instance got into the channel, in order. -/
def submissions (notices : List (Notice sites)) (index : Fin sites) : List Envelope :=
  notices.filterMap (submitted? index)

/-- The broadcasts that a hub has processed, in order. -/
def processed (notices : List (Notice sites)) (index : Fin sites) : List Envelope :=
  notices.filterMap (processed? index)

/-- The broadcasts that a hub handed to its fanout, in order, with the answers. -/
def offers (notices : List (Notice sites)) (index : Fin sites) : List (Envelope × Bool) :=
  notices.filterMap (offered? index)

/-- The local broadcasts that the fanouts accepted, in order. -/
def posts (notices : List (Notice sites)) : List (Post sites) := notices.filterMap accepted?

section

variable (notices later : List (Notice sites)) (index other : Fin sites)
  (envelopes : List Envelope) (events : List Event)

@[simp] theorem submissions_append :
    submissions (notices ++ later) index = submissions notices index ++ submissions later index :=
  List.filterMap_append

@[simp] theorem processed_append :
    processed (notices ++ later) index = processed notices index ++ processed later index :=
  List.filterMap_append

@[simp] theorem offers_append :
    offers (notices ++ later) index = offers notices index ++ offers later index :=
  List.filterMap_append

@[simp] theorem posts_append : posts (notices ++ later) = posts notices ++ posts later :=
  List.filterMap_append

theorem submissions_submitted : submissions (envelopes.map (submitted index)) other =
    if other = index then envelopes else [] := by
  by_cases same : index = other
  · simp [submissions, submitted?, List.filterMap_map, Function.comp_def, same]
  · simp [submissions, submitted?, List.filterMap_map, Function.comp_def, same, Ne.symm same]

@[simp] theorem processed_submitted : processed (envelopes.map (submitted index)) other = [] := by
  simp [processed, processed?, List.filterMap_map, Function.comp_def]

@[simp] theorem offers_submitted : offers (envelopes.map (submitted index)) other = [] := by
  simp [offers, offered?, List.filterMap_map, Function.comp_def]

@[simp] theorem posts_submitted : posts (envelopes.map (submitted index)) = [] := by
  simp [posts, accepted?, List.filterMap_map, Function.comp_def]

@[simp] theorem submissions_reported : submissions (events.map (reported index)) other = [] := by
  simp [submissions, submitted?, List.filterMap_map, Function.comp_def]

theorem processed_reported : processed (events.map (reported index)) other =
    if other = index then events.filterMap Event.processed? else [] := by
  by_cases same : index = other
  · simp [processed, processed?, List.filterMap_map, Function.comp_def, same]
  · simp [processed, processed?, List.filterMap_map, Function.comp_def, same, Ne.symm same]

theorem offers_reported : offers (events.map (reported index)) other =
    if other = index then events.filterMap Event.offered? else [] := by
  by_cases same : index = other
  · simp [offers, offered?, List.filterMap_map, Function.comp_def, same]
  · simp [offers, offered?, List.filterMap_map, Function.comp_def, same, Ne.symm same]

theorem posts_reported : posts (events.map (reported index)) =
    (events.filterMap Event.accepted?).map fun (room, payload) => ⟨index, room, payload⟩ := by
  rw [List.map_filterMap, posts, List.filterMap_map]
  rfl

end

end Notice

namespace ClientRequest

theorem isLocal_of_envelope? {request : ClientRequest} {envelope : Envelope}
    (asked : request.command.envelope? = some envelope) :
    envelope.isLocal = true ∧ envelope.payload.length < 2 ^ 64 := by
  cases request with
  | broadcast room payload =>
      cases asked
      exact ⟨rfl, payload.property⟩
  | _ => exact nomatch asked

/-- A client asks for nothing but local broadcasts. -/
theorem filter_local (request : ClientRequest) :
    request.command.envelope?.toList.filter Envelope.isLocal =
      request.command.envelope?.toList := by
  cases asked : request.command.envelope? with
  | none => rfl
  | some envelope => simp [(isLocal_of_envelope? asked).1]

theorem filter_remote (request : ClientRequest) :
    request.command.envelope?.toList.filter (fun envelope => !envelope.isLocal) = [] := by
  cases asked : request.command.envelope? with
  | none => rfl
  | some envelope => simp [(isLocal_of_envelope? asked).1]

end ClientRequest

/-- What holds of a site, given what all fanouts accepted, what its own was offered, what its hub
    processed and what its clients submitted. -/
structure Site.Consistent {sites : Nat} (ids : Fin sites → InstanceId) (naming : ChannelNaming)
    (index : Fin sites) (posts : List (Post sites)) (offers : List (Envelope × Bool))
    (processed submissions : List Envelope) (site : Site) : Prop where
  id : site.node.id = ids index
  named : site.node.naming = naming
  running : site.node.loop.running = true
  handles : site.node.loop.handles ≠ 0
  fits : ∀ envelope ∈ site.waiting, envelope.payload.length < 2 ^ 64
  reached : site.cursor ≤ posts.length
  /-- The remote broadcasts of the hub are those of others below the cursor. -/
  relayed : (processed ++ site.waiting).filter (fun envelope => !envelope.isLocal) =
    Post.foreign ids index (posts.take site.cursor)
  /-- The local broadcasts of the hub are those of its clients. -/
  submitted : (processed ++ site.waiting).filter Envelope.isLocal = submissions
  /-- Every processed local broadcast is handed to the fanout, once, and nothing else is. -/
  offered : offers.map Prod.fst = processed.filter Envelope.isLocal
  /-- What the fanout accepted of that is posted, once, and nothing else is. -/
  posted : (posts.filter fun post => post.source = index).map Post.original =
    (offers.filter Prod.snd).map Prod.fst

namespace Site.Consistent

variable {sites : Nat} {ids : Fin sites → InstanceId} {naming : ChannelNaming} {index : Fin sites}
  {posts : List (Post sites)} {offers : List (Envelope × Bool)}
  {processed submissions : List Envelope} {site : Site}

/-- A command gets into the channel, from a client or from the subscriber. -/
theorem enqueue (consistent : site.Consistent ids naming index posts offers processed submissions)
    (command : Command) (cursor : Nat)
    (fits : ∀ envelope ∈ command.envelope?, envelope.payload.length < 2 ^ 64)
    (reached : cursor ≤ posts.length)
    (relayed : Post.foreign ids index (posts.take cursor) =
      Post.foreign ids index (posts.take site.cursor) ++
        command.envelope?.toList.filter fun envelope => !envelope.isLocal) :
    Site.Consistent ids naming index posts offers processed
      (submissions ++ command.envelope?.toList.filter Envelope.isLocal)
      { node := { site.node with
          loop := { site.node.loop with pending := site.node.loop.pending ++ [command] } }
        cursor } := by
  have waits : Site.waiting
      { node := { site.node with
          loop := { site.node.loop with pending := site.node.loop.pending ++ [command] } }
        cursor } = site.waiting ++ command.envelope?.toList := by
    rw [waiting, List.filterMap_append, waiting]
    cases wanted : command.envelope? <;> simp [wanted]
  refine ⟨consistent.id, consistent.named, consistent.running, consistent.handles, ?_, reached,
    ?_, ?_, consistent.offered, consistent.posted⟩
  · rw [waits]
    intro envelope member
    rcases List.mem_append.mp member with old | new
    · exact consistent.fits envelope old
    · exact fits envelope (by simpa using new)
  · rw [waits, ← List.append_assoc, List.filter_append, consistent.relayed, relayed]
  · rw [waits, ← List.append_assoc, List.filter_append, consistent.submitted]

/-- The subscriber passes over a message that this instance sent. -/
theorem skip (consistent : site.Consistent ids naming index posts offers processed submissions)
    {post : Post sites} (next : posts[site.cursor]? = some post) (own : post.source = index) :
    Site.Consistent ids naming index posts offers processed submissions
      { site with cursor := site.cursor + 1 } := by
  refine { consistent with reached := ?_, relayed := ?_ }
  · exact (List.getElem?_eq_some_iff.mp next).1
  · rw [Post.foreign_take_succ ids index next, if_pos own, List.append_nil]
    exact consistent.relayed

/-- The hub processes its oldest command, and its fanout may accept what comes of it. -/
theorem process (consistent : site.Consistent ids naming index posts offers processed submissions)
    {command : Command} {rest : List Command} (next : site.node.loop.pending = command :: rest)
    (hub : Hub) (accepts : Bool) (new : List (Post sites))
    (posted : (new.filter fun post => post.source = index).map Post.original =
      if accepts then command.envelope?.toList.filter Envelope.isLocal else []) :
    Site.Consistent ids naming index (posts ++ new)
      (offers ++ (command.envelope?.toList.filter Envelope.isLocal).map (·, accepts))
      (processed ++ command.envelope?.toList) submissions
      { site with node := { site.node with
          loop := { site.node.loop with hub, pending := rest } } } := by
  have waits : site.waiting = command.envelope?.toList ++ rest.filterMap Command.envelope? := by
    rw [waiting, next]
    cases wanted : command.envelope? <;> simp [wanted]
  obtain ⟨id, named, running, handles, fits, reached, relayed, submitted, offered, before⟩ :=
    consistent
  rw [waits] at fits relayed submitted
  rw [← List.append_assoc] at relayed submitted
  refine ⟨id, named, running, handles, ?_, ?_, ?_, submitted, ?_, ?_⟩
  · intro envelope member
    exact fits envelope (List.mem_append_right _ member)
  · rw [List.length_append]
    exact Nat.le_add_right_of_le reached
  · rwa [List.take_append_of_le_length reached]
  · rw [List.map_append, List.filter_append, offered, List.map_map]
    exact congrArg _ (List.map_id _)
  · rw [List.filter_append, List.map_append, List.filter_append, List.map_append, before, posted]
    cases accepts <;> simp [List.filter_map, Function.comp_def]

/-- A fanout elsewhere accepts something. -/
theorem others (consistent : site.Consistent ids naming index posts offers processed submissions)
    (new : List (Post sites)) (elsewhere : ∀ post ∈ new, post.source ≠ index) :
    site.Consistent ids naming index (posts ++ new) offers processed submissions := by
  have none : new.filter (fun post => post.source = index) = [] := by
    simpa [List.filter_eq_nil_iff] using elsewhere
  refine { consistent with reached := ?_, relayed := ?_, posted := ?_ }
  · rw [List.length_append]
    exact Nat.le_add_right_of_le consistent.reached
  · rw [List.take_append_of_le_length consistent.reached]
    exact consistent.relayed
  · rw [List.filter_append, none, List.append_nil]
    exact consistent.posted

end Site.Consistent

namespace Network

variable {sites : Nat}

/-- Instances with nothing on their bus. -/
def start (ids : Fin sites → InstanceId) (naming : ChannelNaming)
    (config : Fin sites → HubConfig) : Network sites where
  site index := { node := { Node.start (ids index) (config index) with naming } }

/-- The network with another state of one site. -/
def update (network : Network sites) (index : Fin sites) (site : Site) : Network sites :=
  { network with site := Function.update network.site index site }

/-- One step. -/
def step (network : Network sites) : NetworkMove sites → List (Notice sites) × Network sites
  | .request index request =>
      let site := network.site index
      match site.node.loop.submit request.command with
      | (.accepted, loop) =>
          (request.command.envelope?.toList.map (.submitted index),
            network.update index { site with node := { site.node with loop } })
      | _ => ([], network)
  | .advance index accepts queues =>
      let site := network.site index
      match site.node.loop.advance (some accepts) queues with
      | some (events, loop, _) =>
          (events.map (.reported index),
            { network.update index { site with node := { site.node with loop } } with
              bus := network.bus ++ site.node.announced events })
      | none => ([], network)
  | .relay index =>
      let site := network.site index
      match network.bus[site.cursor]? with
      | some (channel, data) =>
          match acceptInbound site.node.id site.node.naming channel data with
          | .ok (some envelope) =>
              match site.node.loop.submit (.broadcast envelope) with
              | (.accepted, loop) =>
                  ([], network.update index
                    { node := { site.node with loop }, cursor := site.cursor + 1 })
              | _ => ([], network)
          | _ => ([], network.update index { site with cursor := site.cursor + 1 })
      | none => ([], network)

/-- What holds after every run, with the notices of the run. -/
structure Consistent (ids : Fin sites → InstanceId) (naming : ChannelNaming)
    (notices : List (Notice sites)) (network : Network sites) : Prop where
  site : ∀ index, (network.site index).Consistent ids naming index (Notice.posts notices)
    (Notice.offers notices index) (Notice.processed notices index) (Notice.submissions notices index)
  /-- The bus holds the accepted local broadcasts and nothing else. -/
  bus : network.bus = (Notice.posts notices).map (Post.message ids naming)
  fits : ∀ post ∈ Notice.posts notices, post.payload.length < 2 ^ 64

theorem site_update (network : Network sites) (index other : Fin sites) (site : Site) :
    (network.update index site).site other = if other = index then site else network.site other :=
  Function.update_apply ..

namespace Consistent

variable {ids : Fin sites → InstanceId} {naming : ChannelNaming} {notices : List (Notice sites)}
  {network : Network sites}

theorem start (ids : Fin sites → InstanceId) (naming : ChannelNaming)
    (config : Fin sites → HubConfig) :
    Consistent ids naming [] (Network.start ids naming config) where
  site index := by
    constructor <;> simp [Network.start, Node.start, EventLoop.ofCapacity, Site.waiting,
      Notice.posts, Notice.offers, Notice.processed, Notice.submissions, Post.foreign]
  bus := rfl
  fits := by simp [Notice.posts]

/-- A change of one site that shows nothing but submissions. -/
theorem update (consistent : network.Consistent ids naming notices) {index : Fin sites}
    {site : Site} (submissions : List Envelope)
    (changed : site.Consistent ids naming index (Notice.posts notices)
      (Notice.offers notices index) (Notice.processed notices index)
      (Notice.submissions notices index ++ submissions)) :
    (network.update index site).Consistent ids naming
      (notices ++ submissions.map (.submitted index)) := by
  have posts : Notice.posts (notices ++ submissions.map (.submitted index)) =
      Notice.posts notices := by simp
  constructor
  · intro other
    simp only [posts, Notice.offers_append, Notice.offers_submitted, Notice.processed_append,
      Notice.processed_submitted, Notice.submissions_append, Notice.submissions_submitted,
      List.append_nil, site_update]
    split
    · next same => exact same ▸ changed
    · rw [List.append_nil]
      exact consistent.site other
  · rw [posts]
    exact consistent.bus
  · rw [posts]
    exact consistent.fits

theorem request (consistent : network.Consistent ids naming notices) (index : Fin sites)
    (request : ClientRequest) :
    (network.step (.request index request)).2.Consistent ids naming
      (notices ++ (network.step (.request index request)).1) := by
  simp only [step]
  split
  · next loop accepted =>
      have site := consistent.site index
      have entered := site.enqueue request.command (network.site index).cursor
        (fun envelope asked => (ClientRequest.isLocal_of_envelope? asked).2) site.reached
        (by rw [request.filter_remote, List.append_nil])
      rw [request.filter_local] at entered
      rw [EventLoop.eq_of_submit accepted]
      exact consistent.update _ entered
  · simpa using consistent

/-- A step of a hub, with what its fanout accepts of it. -/
theorem process (consistent : network.Consistent ids naming notices) {index : Fin sites}
    {command : Command} {rest : List Command}
    (next : (network.site index).node.loop.pending = command :: rest) (accepts : Bool)
    (queues : Queues) :
    let site := network.site index
    let step := site.node.loop.hub.process (some accepts) command queues
    Consistent ids naming (notices ++ step.events.map (.reported index))
      { network.update index { site with node := { site.node with
          loop := { site.node.loop with hub := step.hub, pending := rest } } } with
        bus := network.bus ++ site.node.announced step.events } := by
  intro site step
  have here := consistent.site index
  let new := Post.accepting index (if accepts then command.envelope?.toList else [])
  have reported : step.events.filterMap Event.accepted? =
      (if accepts then command.envelope?.toList else []).flatMap Envelope.outgoing := by
    rw [Hub.filterMap_accepted]
    cases accepts <;> rfl
  have posts : Notice.posts (notices ++ step.events.map (.reported index)) =
      Notice.posts notices ++ new := by
    rw [Notice.posts_append, Notice.posts_reported, reported]
    rfl
  have posted : new.map Post.original =
      if accepts then command.envelope?.toList.filter Envelope.isLocal else [] := by
    rw [Post.map_original_accepting]
    cases accepts <;> rfl
  constructor
  · intro other
    rw [posts]
    simp only [Notice.offers_append, Notice.offers_reported, Notice.processed_append,
      Notice.processed_reported, Notice.submissions_append, Notice.submissions_reported,
      Hub.filterMap_offered, Hub.filterMap_processed, List.append_nil, site_update, step]
    by_cases same : other = index
    · subst same
      have own : new.filter (fun post => post.source = other) = new :=
        List.filter_eq_self.mpr fun post member => by simp [Post.source_of_accepting member]
      simp only [if_true]
      exact here.process next step.hub accepts new (by rwa [own])
    · have elsewhere : ∀ post ∈ new, post.source ≠ other := by
        intro post member from_here
        exact same (from_here.symm.trans (Post.source_of_accepting member))
      simp only [if_neg same, List.append_nil]
      exact (consistent.site other).others new elsewhere
  · have told : site.node.announced step.events = new.map (Post.message ids naming) := by
      rw [Node.announced_eq, reported, here.id, here.named]
      simp only [new, Post.accepting, List.map_map]
      rfl
    rw [posts, List.map_append, consistent.bus, told]
  · intro post member
    rw [posts] at member
    rcases List.mem_append.mp member with old | added
    · exact consistent.fits post old
    · have outgoing := posted ▸ List.mem_map_of_mem added
      have asked : post.original ∈ command.envelope?.toList := by
        split at outgoing
        · exact (List.mem_filter.mp outgoing).1
        · exact nomatch outgoing
      have wanted : command.envelope? = some post.original := by simpa using asked
      refine here.fits post.original ?_
      rw [Site.waiting, next, List.filterMap_cons_some wanted]
      exact List.mem_cons_self

theorem advance (consistent : network.Consistent ids naming notices) (index : Fin sites)
    (accepts : Bool) (queues : Queues) :
    (network.step (.advance index accepts queues)).2.Consistent ids naming
      (notices ++ (network.step (.advance index accepts queues)).1) := by
  have site := consistent.site index
  cases next : (network.site index).node.loop.pending with
  | nil =>
      simp only [step, EventLoop.advance_nil site.running next, if_neg site.handles,
        List.append_nil]
      exact consistent
  | cons command rest =>
      simp only [step, EventLoop.advance_cons site.running next]
      exact consistent.process next accepts queues

theorem relay (consistent : network.Consistent ids naming notices)
    (distinct : Function.Injective ids) (index : Fin sites) :
    (network.step (.relay index)).2.Consistent ids naming
      (notices ++ (network.step (.relay index)).1) := by
  have site := consistent.site index
  have bus : network.bus[(network.site index).cursor]? =
      ((Notice.posts notices)[(network.site index).cursor]?).map (Post.message ids naming) := by
    rw [consistent.bus, List.getElem?_map]
  cases next : (Notice.posts notices)[(network.site index).cursor]? with
  | none =>
      rw [next, Option.map_none] at bus
      simp only [step, bus, List.append_nil]
      exact consistent
  | some post =>
      rw [next, Option.map_some] at bus
      have fits := consistent.fits post (List.mem_of_getElem? next)
      have read : acceptInbound (network.site index).node.id (network.site index).node.naming
          (naming.channel post.room) (Wire.encode (ids post.source) post.payload) =
          .ok (if post.source = index then none else some (post.copy ids)) := by
        rw [site.id, site.named, acceptInbound_encode _ _ _ _ fits]
        simp only [distinct.eq_iff]
        rfl
      simp only [step, bus, Post.message, read]
      by_cases own : post.source = index
      · simp only [if_pos own]
        refine consistent.update [] ?_
        rw [List.append_nil]
        exact site.skip next own
      · simp only [if_neg own]
        split
        · next loop accepted =>
            rw [EventLoop.eq_of_submit accepted]
            refine consistent.update [] (site.enqueue (.broadcast (post.copy ids))
              ((network.site index).cursor + 1) ?_ (List.getElem?_eq_some_iff.mp next).1 ?_)
            · simpa [Command.envelope?, Post.copy] using fits
            · rw [Post.foreign_take_succ ids index next, if_neg own]
              rfl
        · rw [List.append_nil]
          exact consistent

theorem step (consistent : network.Consistent ids naming notices)
    (distinct : Function.Injective ids) (move : NetworkMove sites) :
    (network.step move).2.Consistent ids naming (notices ++ (network.step move).1) := by
  cases move with
  | request index request => exact consistent.request index request
  | advance index accepts queues => exact consistent.advance index accepts queues
  | relay index => exact consistent.relay distinct index

end Consistent

/-- Every subscriber is at the end of the bus, and no hub has anything to process. -/
def Quiescent (network : Network sites) : Prop :=
  ∀ index, (network.site index).cursor = network.bus.length ∧
    (network.site index).node.loop.pending = []

/-- The remote broadcasts that a hub has processed begin what others posted. -/
theorem Consistent.prefix_foreign {ids : Fin sites → InstanceId} {naming : ChannelNaming}
    {notices : List (Notice sites)} {network : Network sites}
    (consistent : network.Consistent ids naming notices) (index : Fin sites) :
    (Notice.processed notices index).filter (fun envelope => !envelope.isLocal) <+:
      Post.foreign ids index (Notice.posts notices) := by
  have relayed := (consistent.site index).relayed
  rw [List.filter_append] at relayed
  refine List.IsPrefix.trans ⟨_, relayed⟩ ?_
  exact ((List.take_prefix _ _).filter _).map _

/-- On every run of instances with distinct identifiers, the bus holds the accepted local broadcasts,
    each once, and a hub processes as remote what others posted below the place of its subscriber,
    each once and in the order of the bus. So nothing comes twice or back to its own hub, everything
    has come once nothing is under way, and any two hubs get what third ones post in one order. -/
theorem bus_relays_once (ids : Fin sites → InstanceId) (distinct : Function.Injective ids)
    (naming : ChannelNaming) (config : Fin sites → HubConfig) (moves : List (NetworkMove sites)) :
    let run := play step (start ids naming config) moves
    let posts := Notice.posts run.1
    let here index := (Notice.processed run.1 index).filter Envelope.isLocal
    let received index :=
      (Notice.processed run.1 index).filter fun envelope => !envelope.isLocal
    run.2.Consistent ids naming run.1 ∧
    (∀ index, here index <+: Notice.submissions run.1 index ∧
      received index <+: Post.foreign ids index posts) ∧
    (∀ index, ∀ envelope ∈ Notice.processed run.1 index,
      envelope.origin ≠ .instance (ids index)) ∧
    (run.2.Quiescent → ∀ index, here index = Notice.submissions run.1 index ∧
      received index = Post.foreign ids index posts) ∧
    ∀ index other,
      let third := fun envelope : Envelope =>
        envelope.origin ≠ .instance (ids index) ∧ envelope.origin ≠ .instance (ids other)
      (received index).filter third <+: (received other).filter third ∨
        (received other).filter third <+: (received index).filter third := by
  intro run posts here received
  have consistent : run.2.Consistent ids naming run.1 := by
    have keeps (notices : List (Notice sites)) (network : Network sites) (move : NetworkMove sites)
        (consistent : network.Consistent ids naming notices) :
        (network.step move).2.Consistent ids naming (notices ++ (network.step move).1) :=
      consistent.step distinct move
    exact play_induction keeps (Consistent.start ids naming config) moves
  refine ⟨consistent, ?_, ?_, ?_, ?_⟩
  · intro index
    have submitted := (consistent.site index).submitted
    rw [List.filter_append] at submitted
    exact ⟨⟨_, submitted⟩, consistent.prefix_foreign index⟩
  · intro index envelope member same
    have remote : envelope ∈ received index := by
      simp [received, member, Envelope.isLocal, same]
    have copied := (consistent.prefix_foreign index).subset remote
    obtain ⟨post, posted, rfl⟩ := List.mem_map.mp copied
    have other : post.source ≠ index := by simpa using (List.mem_filter.mp posted).2
    simp only [Post.copy, Origin.instance.injEq] at same
    exact other (distinct same)
  · intro quiescent index
    obtain ⟨finished, idle⟩ := quiescent index
    have site := consistent.site index
    have nothing : (run.2.site index).waiting = [] := by simp [Site.waiting, idle]
    have submitted := site.submitted
    have relayed := site.relayed
    rw [nothing, List.append_nil] at submitted relayed
    refine ⟨submitted, relayed.trans ?_⟩
    rw [finished, consistent.bus, List.length_map, List.take_length]
  · intro index other third
    have begins (party : Fin sites) (involved : party = index ∨ party = other) :
        (received party).filter third <+: (posts.filter fun post =>
          post.source ≠ index ∧ post.source ≠ other).map (Post.copy ids) := by
      rw [← Post.filter_foreign ids distinct involved]
      exact (consistent.prefix_foreign party).filter _
    exact List.prefix_or_prefix_of_prefix (begins index (.inl rfl)) (begins other (.inr rfl))

/-- One of two instances broadcasts, its fanout accepts, and the other gets it. -/
theorem bus_relays_once_two :
    let ids : Fin 2 → InstanceId :=
      fun index => ⟨List.replicate 16 (UInt8.ofNat index), by simp⟩
    let moves : List (NetworkMove 2) :=
      [.request 0 (.broadcast "a" ⟨[7], by decide⟩), .advance 0 true ∅, .relay 0, .relay 1,
        .advance 1 true ∅]
    let run := play step (start ids .default fun _ => {}) moves
    Function.Injective ids ∧ run.2.Quiescent ∧
      (Notice.processed run.1 1).filter (fun envelope => !envelope.isLocal) =
        [⟨"a", [7], .instance (ids 0)⟩] := by
  intro ids moves run
  have differ : ∀ index other, ids index = ids other → index = other := by decide
  have distinct : Function.Injective ids := fun index other => differ index other
  have quiescent : run.2.Quiescent := by
    unfold Quiescent
    decide
  obtain ⟨-, -, -, complete, -⟩ := bus_relays_once ids distinct .default (fun _ => {}) moves
  refine ⟨distinct, quiescent, (complete quiescent 1).2.trans ?_⟩
  decide

end Network
end ChatRelay
