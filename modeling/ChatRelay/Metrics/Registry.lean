import ChatRelay.Fanout.BridgeStatus
import ChatRelay.Hub.Process
import ChatRelay.Number.Binary64

/-! # Metrics

What the server counts for its operators: broadcasts and deliveries of the hub, open connections,
the bridge, and requests with the time they took. Metrics with labels have one value for each
combination of label values that has occurred, where combinations that run together to the same text
are one.
-/

namespace ChatRelay

/-- The values of a metric by its label values run together, each with the label values with which
    it first occurred. -/
abbrev Labelled (α : Type) := Std.ExtTreeMap String (List String × α)

namespace Labelled

/-- Change the value for some label values; one that has not occurred starts from `fresh`. -/
def change (values : Labelled α) (labels : List String) (fresh : α) (f : α → α) : Labelled α :=
  let (labels, value) := (values[String.join labels]?).getD (labels, fresh)
  values.insert (String.join labels) (labels, f value)

/-- Label values with their values, in the order of the label values. -/
def sorted (values : Labelled α) : List (List String × α) :=
  (values.toList.map Prod.snd).mergeSort fun a b => (compare a.1 b.1).isLE

end Labelled

/-- Times that were observed: how many up to each bound, and their sum. -/
structure Histogram where
  /-- Number of times up to each bound but above the one before, and last the number above all. -/
  buckets : List Nat
  sum : Binary64
  deriving Repr, DecidableEq

namespace Histogram

/-- Upper bounds of the buckets in thousandths of a second. -/
def bounds : List Nat := [1, 5, 10, 25, 50, 100, 250, 500, 1000, 2500]

/-- A bound as a number of seconds. -/
def boundSeconds (bound : Nat) : Binary64 :=
  (Binary64.ofDecimal? false bound (-3)).getD (.zero false)

def empty : Histogram := ⟨List.replicate (bounds.length + 1) 0, .zero false⟩

/-- Count one more in the first bucket whose bound is not exceeded, or in the last. -/
def countIn (time : Binary64) : List Nat → List Nat → List Nat
  | bound :: bounds, n :: buckets =>
    if time.le (boundSeconds bound) then (n + 1) :: buckets
    else n :: countIn time bounds buckets
  | _, n :: buckets => (n + 1) :: buckets
  | _, [] => []

/-- Add an observed time in seconds. -/
def observe (h : Histogram) (time : Binary64) : Histogram :=
  ⟨countIn time bounds h.buckets, (h.sum.add? time).getD h.sum⟩

/-- Number of times in some buckets. -/
def total (buckets : List Nat) : Nat := buckets.foldl (fun total n => total + n) 0

/-- Number of observed times. -/
def count (h : Histogram) : Nat := total h.buckets

end Histogram

/-- Every metric of a server. -/
structure Metrics where
  broadcasts : Labelled Nat := ∅
  remoteBroadcasts : Nat := 0
  deliveries : Nat := 0
  evictions : Nat := 0
  roomsActive : Int := 0
  fanoutEnqueued : Nat := 0
  fanoutRejected : Nat := 0
  connections : Int := 0
  bridgeConnected : Bool := false
  bridgeEvents : Labelled Nat := ∅
  requests : Labelled Nat := ∅
  durations : Labelled Histogram := ∅

namespace Metrics

/-- Count what a hub reports. -/
def note (metrics : Metrics) : Event → Metrics
  | .delivered envelope report =>
    { metrics with
      broadcasts := metrics.broadcasts.change [envelope.room] 0 (· + 1)
      deliveries := metrics.deliveries + report.delivered
      evictions := metrics.evictions + report.evicted.length
      remoteBroadcasts := metrics.remoteBroadcasts + if envelope.isLocal then 0 else 1 }
  | .published _ _ accepted =>
    if accepted then { metrics with fanoutEnqueued := metrics.fanoutEnqueued + 1 }
    else { metrics with fanoutRejected := metrics.fanoutRejected + 1 }
  | .recorded _ => metrics
  | .answered _ _ => metrics

/-- Count the reports of one step of the hub, after which it has `rooms` rooms. -/
def noteStep (metrics : Metrics) (events : List Event) (rooms : Nat) : Metrics :=
  { events.foldl note metrics with roomsActive := rooms }

/-- Take over the counters of the bridge. -/
def observeBridge (metrics : Metrics) (status : BridgeStatus) : Metrics :=
  { metrics with
    bridgeConnected := status.connected
    bridgeEvents := status.counters.foldl
      (fun events (name, count) => events.change [name] 0 fun _ => count) metrics.bridgeEvents }

/-- Count a request and the time in seconds that its answer took. -/
def noteRequest (metrics : Metrics) (method path : String) (status : Nat) (time : Binary64) :
    Metrics :=
  { metrics with
    requests := metrics.requests.change [method, path, toString status] 0 (· + 1)
    durations := metrics.durations.change [method, path] .empty (·.observe time) }

/-- A connection was opened. -/
def connectionOpened (metrics : Metrics) : Metrics :=
  { metrics with connections := metrics.connections + 1 }

/-- A connection was closed. -/
def connectionClosed (metrics : Metrics) : Metrics :=
  { metrics with connections := metrics.connections - 1 }

end Metrics
end ChatRelay
