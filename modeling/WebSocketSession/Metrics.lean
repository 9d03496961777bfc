import WebSocketSession.Handlers

/-!
# Metrics

A session counts frames, deliveries and terminations, and keeps a gauge of the pooled buffers on
loan. The value of a series is a function of the changes made to it.
-/

set_option autoImplicit false
set_option relaxedAutoImplicit false

namespace WebSocketSession

inductive Metric where
  | frame
  | message (family : Family) (delivery : Delivery)
  | termination (code : CloseCode)
  | bufferLent
  | bufferReturned
  deriving DecidableEq

/-- A metric with its labels: counters only grow, a gauge goes up and down. -/
structure Series where
  name : String
  labels : List (String × String)
  isGauge : Bool
  value : Int
  deriving DecidableEq

namespace Metric

def framesName : String := "wsdriver_frames_processed_total"
def messagesName : String := "wsdriver_messages_delivered_total"
def terminationsName : String := "wsdriver_terminations_total"
def buffersName : String := "wsdriver_pooled_buffers_outstanding"

def name : Metric → String
  | .frame => framesName
  | .message .. => messagesName
  | .termination _ => terminationsName
  | .bufferLent | .bufferReturned => buffersName

def labels : Metric → List (String × String)
  | .message family delivery => [("family", family.label), ("discipline", delivery.label)]
  | .termination code => [("code", code.label)]
  | _ => []

def amount : Metric → Int
  | .bufferReturned => -1
  | _ => 1

def isGauge : Metric → Bool
  | .bufferLent | .bufferReturned => true
  | _ => false

/-- Applies one change; a series exists from its first change on. -/
def apply (metric : Metric) : List Series → List Series
  | [] => [⟨metric.name, metric.labels, metric.isGauge, metric.amount⟩]
  | series :: rest =>
    if series.name = metric.name ∧ series.labels = metric.labels then
      { series with value := series.value + metric.amount } :: rest
    else series :: metric.apply rest

end Metric

namespace Series

def ofChanges (changes : List Metric) : List Series :=
  changes.foldl (fun all metric => metric.apply all) []

def carries (series : Series) (label : String × String) : Bool :=
  series.labels.contains label

/-- The sum of a counter over the series that carry all these labels. -/
def counterValue (all : List Series) (name : String) (labels : List (String × String)) : Int :=
  let counted := all.filter fun series =>
    series.name == name && !series.isGauge && labels.all series.carries
  counted.foldr (fun series sum => series.value + sum) 0

def gaugeValue (all : List Series) (name : String) : Option Int :=
  match all.find? fun series => series.name == name with
  | some series => if series.isGauge then some series.value else none
  | none => none

end Series

end WebSocketSession
