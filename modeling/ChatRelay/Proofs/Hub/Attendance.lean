import ChatRelay.Proofs.Hub.Venue

/-! # The ledger of one instance

An instance that is the only one to write to its ledger keeps the numbers of members there. Each
step of the loop records all of its changes before the next step begins, so the ledger is never
behind while the loop runs. It is not told of the end of the loop.
-/

namespace ChatRelay

/-- Changes by which a ledger comes to the members that there are, none of which is recorded as
    having joined too often. -/
theorem PresenceLedger.Sound.foldl_record {ledger : PresenceLedger} (sound : ledger.Sound)
    {members : String → Nat} {changes : List PresenceChange}
    (sum : ∀ room, ledger.total room + PresenceChange.net room changes = members room)
    (present : ∀ room, changes.count (.joined room) ≤ members room) :
    (changes.foldl PresenceLedger.record ledger).Sound ∧
      ∀ room, (changes.foldl PresenceLedger.record ledger).total room = members room := by
  induction changes generalizing ledger with
  | nil => exact ⟨sound, fun room => by simpa using sum room⟩
  | cons change changes ih =>
      have later (room : String) : changes.count (.joined room) ≤ members room :=
        List.count_le_count_cons.trans (present room)
      -- what is still to come adds at most the members that will be there
      have fits : 0 ≤ (ledger.apply change).1 := by
        have all := sum change.room
        have arrivals := PresenceChange.net_le_count change.room changes
        have few := later change.room
        rw [PresenceChange.net_cons] at all
        rw [apply_fst]
        omega
      refine ih (sound.record change) (fun room => ?_) later
      have all := sum room
      rw [PresenceChange.net_cons] at all
      rw [sound.total_record change fits]
      omega

theorem Node.presence_foldl_absorb (node : Node) (events : List Event) :
    (events.foldl absorb node).presence =
      node.presence.map ((events.filterMap Event.change?).foldl PresenceLedger.record) := by
  induction events generalizing node with
  | nil => simp
  | cons event events ih =>
      rw [List.foldl_cons, ih]
      cases event with
      | recorded change => simp [absorb, Event.change?, Function.comp_def]
      | published | delivered | answered => rfl

namespace Venue

/-- While the loop runs, the ledger has the members of the registry. -/
def Attended (venue : Venue) : Prop :=
  venue.node.loop.running = true → ∀ ledger, venue.node.presence = some ledger →
    ledger.Sound ∧ ∀ room, ledger.total room = venue.node.loop.hub.registry.members room

theorem Attended.step {venue : Venue} {roster : Roster} (attended : venue.Attended)
    (sound : venue.world.Sound roster) (move : WorldMove) :
    (venue.step (.world move)).2.Attended := by
  intro running' ledger' found
  cases processed : venue.world.processing? (venue.actual move) with
  | none =>
      obtain ⟨-, idle⟩ := World.hub_step_idle processed
      rw [← (venue.world_step move).2] at idle
      obtain ⟨running, hub⟩ := idle running'
      rw [node_idle processed] at found
      simp only [world_loop] at hub
      rw [hub]
      exact attended running ledger' found
  | some command =>
      obtain ⟨answer, rest, same, running, next⟩ := World.processing?_eq_some processed
      cases move with
      | advance answer =>
          obtain ⟨reported, after, mirrored, account⟩ :=
            sound.mirrors.reports venue.node.fanout command venue.queues
          rw [node_processing answer processed] at found ⊢
          simp only [Node.absorbStep, Node.presence_foldl_absorb, Option.map_eq_some_iff] at found
          obtain ⟨ledger, found, rfl⟩ := found
          obtain ⟨before, total⟩ := attended running ledger found
          rw [← reported] at account
          have members := mirrored.members_eq
          simp only [Node.absorbStep, Node.loop_foldl_absorb]
          refine before.foldl_record (fun room => ?_) fun room => ?_
          · have sum := account.sum room
            rw [← sound.mirrors.members_eq, ← members] at sum
            rw [total]
            exact sum.symm
          · exact (account.present room).trans_eq (members room).symm
      | _ => cases same

end Venue
end ChatRelay
