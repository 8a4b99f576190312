import ChatRelay.Metrics.Registry
import ChatRelay.Number.Shortest

/-! # Text exposition of metrics

Metrics are published as lines of text. Each metric that has any value is a family: a line of help,
a line with its kind, and a line for each value with the labels in braces. Families come in the
order of their names, values in the order of their label values. All values are written as 64-bit
binary numbers, so large integers are rounded.
-/

namespace ChatRelay.Metrics

/-- What kind of values a metric has. -/
inductive Kind where
  | counter
  | gauge
  | histogram

def Kind.text : Kind → String
  | .counter => "counter"
  | .gauge => "gauge"
  | .histogram => "histogram"

/-- One value: what is added to the name of the family, the labels, and the value as text. -/
structure Sample where
  suffix : String
  labels : List (String × String)
  value : List Char

/-- A metric with its values. -/
structure Family where
  name : String
  help : String
  kind : Kind
  samples : List Sample

/-- Escapes in a label value. -/
def escapeLabel (value : String) : List Char :=
  value.toList.flatMap fun c =>
    match c with
    | '\\' => ['\\', '\\']
    | '\n' => ['\\', 'n']
    | '"' => ['\\', '"']
    | c => [c]

/-- Labels in braces; nothing if there are none. -/
def labelText (labels : List (String × String)) : List Char :=
  if labels.isEmpty then []
  else
    let parts := labels.map fun (name, value) =>
      name.toList ++ '=' :: '"' :: escapeLabel value ++ ['"']
    '\x7b' :: [','].intercalate parts ++ ['\x7d']

/-- One line for a value. -/
def Sample.line (name : String) (sample : Sample) : String :=
  String.ofList
    (name.toList ++ sample.suffix.toList ++ labelText sample.labels ++ ' ' :: sample.value)

/-- The lines of a family; none if it has no values. -/
def Family.lines (family : Family) : List String :=
  if family.samples.isEmpty then []
  else
    ["# HELP " ++ family.name ++ " " ++ family.help,
     "# TYPE " ++ family.name ++ " " ++ family.kind.text] ++
      family.samples.map (Sample.line family.name)

/-- Counters are words of 64 bits and start again after the largest. -/
def wordSize : Nat := 18446744073709551616

/-- A counter as text. -/
def counterText (n : Nat) : List Char :=
  match Binary64.ofNat? false (n % wordSize) with
  | some x => x.positionalText
  | none => []

/-- A gauge as text; gauges are signed words of 64 bits. -/
def gaugeText (n : Int) : List Char :=
  let value := Int.bmod n wordSize
  match Binary64.ofNat? (value < 0) value.natAbs with
  | some x => x.positionalText
  | none => []

/-- The greatest value of a gauge. -/
def greatestGauge : Nat := 9223372036854775807

/-- Names and values of the labels of a sample. -/
def named (names values : List String) : List (String × String) := names.zip values

def counter (name help : String) (value : Nat) : Family :=
  ⟨name, help, .counter, [⟨"", [], counterText value⟩]⟩

def gauge (name help : String) (value : Int) : Family :=
  ⟨name, help, .gauge, [⟨"", [], gaugeText value⟩]⟩

def counters (name help : String) (names : List String) (values : Labelled Nat) : Family :=
  ⟨name, help, .counter,
    values.sorted.map fun (labels, n) => ⟨"", named names labels, counterText n⟩⟩

/-- The lines of one histogram: the number of times up to each bound, their sum and their number. -/
def histogramSamples (labels : List (String × String)) (h : Histogram) : List Sample :=
  let texts := Histogram.bounds.map fun bound =>
    String.ofList (Histogram.boundSeconds bound).positionalText
  let sums := (List.range (Histogram.bounds.length + 1)).map fun i =>
    Histogram.total (h.buckets.take (i + 1))
  ((texts ++ ["+Inf"]).zip sums).map (fun (bound, n) =>
      ⟨"_bucket", labels ++ [("le", bound)], counterText n⟩) ++
    [⟨"_sum", labels, h.sum.positionalText⟩, ⟨"_count", labels, counterText h.count⟩]

/-- Every family, in the order of their names. -/
def families (metrics : Metrics) : List Family := [
  gauge "roomcast_bridge_connected" "1 while the fanout subscriber is connected"
    (if metrics.bridgeConnected then 1 else 0),
  ⟨"roomcast_bridge_events", "Fanout bridge counters since start", .gauge,
    metrics.bridgeEvents.sorted.map fun (labels, n) =>
      ⟨"", named ["event"] labels, gaugeText (min n greatestGauge : Nat)⟩⟩,
  counter "roomcast_deliveries_total" "Payloads enqueued on client outbound queues"
    metrics.deliveries,
  counter "roomcast_evictions_total" "Clients evicted because their outbound queue was full"
    metrics.evictions,
  counter "roomcast_fanout_enqueued_total" "Local broadcasts accepted by the fanout bridge"
    metrics.fanoutEnqueued,
  counter "roomcast_fanout_rejected_total" "Local broadcasts the fanout bridge could not accept"
    metrics.fanoutRejected,
  ⟨"roomcast_http_request_duration_seconds", "HTTP response time in seconds", .histogram,
    metrics.durations.sorted.flatMap fun (labels, h) =>
      histogramSamples (named ["method", "path"] labels) h⟩,
  counters "roomcast_http_requests_total" "HTTP requests served" ["method", "path", "status"]
    metrics.requests,
  counters "roomcast_messages_broadcast_total" "Broadcasts processed by the hub, per room" ["room"]
    metrics.broadcasts,
  counter "roomcast_remote_broadcasts_total" "Broadcasts received from other instances"
    metrics.remoteBroadcasts,
  gauge "roomcast_rooms_active" "Rooms with at least one local member" metrics.roomsActive,
  gauge "roomcast_ws_connections" "Open WebSocket connections" metrics.connections]

/-- The published lines. -/
def lines (metrics : Metrics) : List String := metrics.families.flatMap Family.lines

/-- The published lines that hold values. -/
def sampleLines (metrics : Metrics) : List String :=
  metrics.families.flatMap fun family => family.samples.map (Sample.line family.name)

end ChatRelay.Metrics
