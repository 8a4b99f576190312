import ChatRelay.Presence.Worker
import ChatRelay.Proofs.Run
import Mathlib.Logic.Function.Basic

/-! # Instances at one Redis

Instances keep their presence in one Redis. Each has a worker for the changes that are recorded with
it, and a reader. Redis carries out one command at a time, and between two commands of an exchange
it may carry out commands of others. Readers are told of rooms and counters in any order. Exchanges
do not fail.

Where a worker is within its change says which of its commands are still to come.
-/

namespace ChatRelay

/-- An exchange under way: what Redis has still to carry out, and its answers to the rest. -/
structure Exchange where
  commands : List Redis.Command := []
  replies : List Redis.Reply := []

/-- What an instance has under way. -/
structure PresenceParty where
  worker : PresenceWorker
  exchange : Exchange := {}
  /-- The reading of the active rooms, if somebody waits for one. -/
  survey : Option Exchange := none

/-- The party after the reply to the next command of its worker, which is over with the exchange if
    no command is left. -/
def PresenceParty.hear (party : PresenceParty) (keys : PresenceKeys) (rest : List Redis.Command)
    (reply : Redis.Reply) : PresenceParty :=
  let replies := party.exchange.replies ++ [reply]
  if rest = [] then
    let worker := party.worker.settle (some replies)
    { party with worker, exchange := { commands := worker.commands keys } }
  else { party with exchange := { commands := rest, replies } }

/-- Instances that keep their presence in one Redis. -/
structure SharedStore (parties : Nat) where
  party : Fin parties → PresenceParty
  store : Redis.Store := {}

inductive StoreMove (parties : Nat) where
  /-- A change is recorded with an instance. -/
  | record (index : Fin parties) (change : PresenceChange)
  /-- A worker begins with its next change. -/
  | begin (index : Fin parties)
  /-- Redis carries out the next command of a worker. -/
  | perform (index : Fin parties)
  /-- Somebody asks an instance for the active rooms. -/
  | ask (index : Fin parties)
  /-- Redis carries out the next command of a reader, and this is its reply. -/
  | look (index : Fin parties) (reply : Redis.Reply)

inductive StoreEvent (parties : Nat) where
  /-- A worker has taken a change. -/
  | taken (index : Fin parties) (change : PresenceChange)
  /-- Redis has added a change to a counter. -/
  | counted (index : Fin parties) (change : PresenceChange)
  /-- A reader has an answer, if it can read the replies. -/
  | answered (index : Fin parties) (rooms : Option (List RoomPresence))
  deriving DecidableEq

namespace SharedStore

variable {parties : Nat} (keys : PresenceKeys)

def start (capacity : Fin parties → Nat) : SharedStore parties where
  party index := { worker := .ofCapacity (capacity index) }

def update (shared : SharedStore parties) (index : Fin parties) (party : PresenceParty) :
    SharedStore parties :=
  { shared with party := Function.update shared.party index party }

/-- One move. It shows the changes that a worker takes and that Redis counts, and what readers
    answer. A move that is not possible changes nothing. -/
def step (shared : SharedStore parties) :
    StoreMove parties → List (StoreEvent parties) × SharedStore parties
  | .record index change =>
      let party := shared.party index
      let worker := party.worker.record change
      (if worker = party.worker then [] else [.taken index change],
        shared.update index { party with worker })
  | .begin index =>
      let party := shared.party index
      if party.worker.phase = .idle then
        let worker := party.worker.begin
        ([], shared.update index
          { party with worker, exchange := { commands := worker.commands keys } })
      else ([], shared)
  | .perform index =>
      let party := shared.party index
      match party.exchange.commands with
      | [] => ([], shared)
      | command :: rest =>
          let (reply, store) := shared.store.run command
          (match party.worker.phase, command with
            | .applying change, .hincrby .. => [.counted index change]
            | _, _ => [],
            { shared with store }.update index (party.hear keys rest reply))
  | .ask index =>
      let party := shared.party index
      match party.survey with
      | none => ([], shared.update index { party with survey := some { commands := keys.survey } })
      | some _ => ([], shared)
  | .look index reply =>
      let party := shared.party index
      match party.survey with
      | some ⟨command :: rest, replies⟩ =>
          let (answer, store) := shared.store.run command
          let replies := replies ++ [reply]
          if ¬answer.Reordered reply then ([], shared)
          else if rest = [] then
            ([.answered index (readSurvey? replies)],
              { shared with store }.update index { party with survey := none })
          else
            ([], { shared with store }.update index
              { party with survey := some { commands := rest, replies } })
      | _ => ([], shared)

/-- No worker has anything left to do. -/
def Idle (shared : SharedStore parties) : Prop := ∀ index, (shared.party index).worker.isIdle = true

instance (shared : SharedStore parties) : Decidable shared.Idle :=
  inferInstanceAs (Decidable (∀ _, _))

end SharedStore

/-- The room that a worker is busy with. -/
def PresencePhase.room? : PresencePhase → Option String
  | .idle => none
  | .applying change => some change.room
  | .purging room => some room

/-- The room that a worker is removing. -/
def PresencePhase.purged? : PresencePhase → Option String
  | .purging room => some room
  | _ => none

/-- Where a worker is within its change. -/
inductive PresenceStage where
  | idle
  | joining (room : String)
  /-- The room is in the set, and the counter comes next. -/
  | entered (room : String)
  | leaving (room : String)
  | removing (room : String)
  /-- The counter is gone, and the room is still to be taken out of the set. -/
  | erased (room : String)
  deriving DecidableEq

namespace PresenceStage

def phase : PresenceStage → PresencePhase
  | idle => .idle
  | joining room | entered room => .applying (.joined room)
  | leaving room => .applying (.left room)
  | removing room | erased room => .purging room

/-- The commands of the exchange that are still to come. -/
def commands (keys : PresenceKeys) : PresenceStage → List Redis.Command
  | idle => []
  | joining room => keys.commands (.joined room)
  | entered room => [.hincrby keys.members (Utf8.ofString room) 1]
  | leaving room => keys.commands (.left room)
  | removing room => keys.purge room
  | erased room => [.srem keys.rooms (Utf8.ofString room)]

/-- The change that the next command counts. -/
def counts? : PresenceStage → Option PresenceChange
  | entered room => some (.joined room)
  | leaving room => some (.left room)
  | _ => none

/-- The change that is not counted yet. -/
def due : PresenceStage → List PresenceChange
  | joining room | entered room => [.joined room]
  | leaving room => [.left room]
  | _ => []

/-- Where a worker is after the reply to its next command. -/
def after (reply : Redis.Reply) : PresenceStage → PresenceStage
  | idle => idle
  | joining room => entered room
  | entered _ => idle
  | leaving room =>
      match reply with
      | .integer count => if PresenceLedger.shouldPurge count then removing room else idle
      | _ => idle
  | removing room => erased room
  | erased _ => idle

/-- Where a worker is that begins with a change. -/
def ofChange : PresenceChange → PresenceStage
  | .joined room => joining room
  | .left room => leaving room

end PresenceStage

/-- A worker is where it is said to be. -/
structure PresenceParty.At (party : PresenceParty) (keys : PresenceKeys) (stage : PresenceStage) :
    Prop where
  phase : party.worker.phase = stage.phase
  commands : party.exchange.commands = stage.commands keys
  replies : ∀ room, stage = .leaving room → party.exchange.replies = []

namespace PresenceParty

variable {party : PresenceParty} {keys : PresenceKeys} {stage : PresenceStage}

theorem queue_settle (worker : PresenceWorker) (replies : Option (List Redis.Reply)) :
    (worker.settle replies).queue = worker.queue := by
  unfold PresenceWorker.settle
  split <;> rfl

/-- A worker whose exchange begins is where its phase says. -/
theorem At.of_phase {worker : PresenceWorker} (phase : worker.phase = stage.phase)
    (fresh : ∀ room, stage ≠ .entered room ∧ stage ≠ .erased room) :
    At { party with worker, exchange := { commands := worker.commands keys } } keys stage := by
  refine ⟨phase, ?_, fun _ _ => rfl⟩
  simp only [PresenceWorker.commands, phase]
  cases stage with
  | entered room => exact absurd rfl (fresh room).1
  | erased room => exact absurd rfl (fresh room).2
  | _ => rfl

/-- The reply to a command takes a worker to its next stage, and nothing else changes. -/
theorem At.hear (at_stage : party.At keys stage) {command : Redis.Command}
    {rest : List Redis.Command} (next : stage.commands keys = command :: rest)
    (reply : Redis.Reply) :
    (party.hear keys rest reply).At keys (stage.after reply) ∧
      (party.hear keys rest reply).worker.queue = party.worker.queue ∧
      (party.hear keys rest reply).survey = party.survey := by
  obtain ⟨phase, -, replies⟩ := at_stage
  refine ⟨?_, ?_, ?_⟩
  · have ended {later : PresenceStage} (settled :
        (party.worker.settle (some (party.exchange.replies ++ [reply]))).phase = later.phase)
        (fresh : ∀ room, later ≠ .entered room ∧ later ≠ .erased room) :
        (party.hear keys [] reply).At keys later := by
      rw [PresenceParty.hear, if_pos rfl]
      exact .of_phase settled fresh
    cases stage with
    | idle => exact nomatch next
    | joining room | removing room =>
        cases next
        exact ⟨phase, rfl, by simp [PresenceStage.after]⟩
    | entered room | erased room =>
        cases next
        exact ended (by simp only [PresenceWorker.settle, phase, PresenceStage.phase]; rfl)
          (by simp [PresenceStage.after])
    | leaving room =>
        cases next
        rw [replies room rfl, List.nil_append] at ended
        cases reply with
        | integer count =>
            by_cases few : PresenceLedger.shouldPurge count = true
            · exact ended (by simp [PresenceWorker.settle, phase, PresenceStage.phase,
                PresenceStage.after, few]) (by simp [PresenceStage.after, few])
            · exact ended (by simp [PresenceWorker.settle, phase, PresenceStage.phase,
                PresenceStage.after, few]) (by simp [PresenceStage.after, few])
        | _ =>
            exact ended (by simp only [PresenceWorker.settle, phase, PresenceStage.phase]; rfl)
              (by simp [PresenceStage.after])
  · unfold PresenceParty.hear
    split
    · exact queue_settle ..
    · rfl
  · unfold PresenceParty.hear
    split <;> rfl

end PresenceParty

namespace SharedStore

variable {parties : Nat} {keys : PresenceKeys} {shared : SharedStore parties} {index : Fin parties}
  {stage : PresenceStage}

theorem step_perform_idle (at_stage : (shared.party index).At keys .idle) :
    shared.step keys (.perform index) = ([], shared) := by
  simp only [step, at_stage.commands, PresenceStage.commands]

/-- Redis carries out the command that a worker has come to. -/
theorem step_perform (at_stage : (shared.party index).At keys stage) {command : Redis.Command}
    {rest : List Redis.Command} (next : stage.commands keys = command :: rest) :
    shared.step keys (.perform index) =
      (stage.counts?.toList.map (.counted index),
        { shared with store := (shared.store.run command).2 }.update index
          ((shared.party index).hear keys rest (shared.store.run command).1)) := by
  simp only [step, at_stage.commands, next, at_stage.phase]
  cases stage <;> cases next <;> rfl

end SharedStore
end ChatRelay
