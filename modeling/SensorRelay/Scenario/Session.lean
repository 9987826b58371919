import SensorRelay.Relay.World
import SensorRelay.Scenario.Item

/-! # Sessions

A session makes calls on a queue, and runs producers and consumers on it, one after the other. While
one of them runs its surroundings may call the queue at points fixed in advance: when a source has
dealt with so many elements, when a producer is about to insert a marker, and when a sink is about
to write.
-/

namespace SensorRelay.Scenario

structure Session where
  queue : SharedQueue FusedReading := .empty
  sink : Monitor RuledSink := ⟨{}, false⟩
  /-- The queue that the calls during a write go to, once the session has gone on to another. -/
  formerQueue : Option (SharedQueue FusedReading) := none

/-- A source with calls on the queue between its elements, and around its markers. -/
structure ProducerPlan where
  source : List (Drawn FusedReading)
  termination : Termination
  consumers : Nat
  /-- Calls made when so many elements are dealt with. -/
  calls : List (Nat × Call FusedReading) := []
  /-- Calls made when so many markers are inserted and another is about to be. -/
  markerCalls : List (Nat × Call FusedReading) := []

inductive Step
  | renew
  | reserve (capacity : Nat)
  | call (call : Call FusedReading)
  | produce (plan : ProducerPlan)
  | consume (name : String) (policy : RetryPolicy)
  | replaceSink (sink : RuledSink)
  | poisonSink
  | inspectSink

inductive Answer
  | reply (reply : Reply FusedReading)
  | produced (report : Ending ProducerReport)
  | consumed (report : Ending ConsumerReport)
  | sink (sink : Monitor RuledSink)
  /-- The step would have to wait for others, of whom there are none. -/
  | waiting

/-- The surroundings make calls. A call that would have to wait is left out. -/
def interfere (calls : List (Call FusedReading)) (w : World RuledSink FusedReading) :
    World RuledSink FusedReading :=
  calls.foldl (fun w call => (w.interject "" call).2) w

def dueAt (count : Nat) (calls : List (Nat × Call FusedReading)) : List (Call FusedReading) :=
  calls.filterMap fun (place, call) => if place = count then some call else none

/-- The calls that a plan asks for before the next step of its producer. -/
def ProducerPlan.due (plan : ProducerPlan) (thread : Thread FusedReading) :
    List (Call FusedReading) :=
  match thread.task, thread.standing with
  | .producer p, .ready =>
    match p.phase with
    | .drawing => dueAt p.index plan.calls
    | .marking => dueAt p.report.markers plan.markerCalls
    | _ => []
  | _, _ => []

/-- The calls that a sink asks for before the next step of a consumer. A poisoned sink is not
written to, so it asks for none. -/
def RuledSink.due (sink : Monitor RuledSink) (thread : Thread FusedReading) :
    List (Call FusedReading) :=
  match thread.task, thread.standing, sink.lock with
  | .consumer c, .ready, .ok rules =>
    match c.phase with
    | .delivering item => rules.callsFor item
    | _ => []
  | _, _, _ => []

namespace Session

/-- More steps than any run takes that comes to an end. -/
def patience : Nat := 1000000

def alone (s : Session) (name : String) (task : Task FusedReading) :
    World RuledSink FusedReading :=
  { queue := s.queue, sink := s.sink, threads := [{ name, task }] }

def answerOf (w : World RuledSink FusedReading) : Answer :=
  match w.threads.map Thread.task with
  | [.producer p] => (p.ending?.map Answer.produced).getD .waiting
  | [.consumer c] => (c.ending?.map Answer.consumed).getD .waiting
  | _ => .waiting

def entriesOf (w : World RuledSink FusedReading) : List Log.Entry :=
  w.journal.toList.map Prod.snd

def produce (s : Session) (plan : ProducerPlan) : Answer × List Log.Entry × Session :=
  let p : Producer FusedReading :=
    { source := plan.source, termination := plan.termination, consumers := plan.consumers }
  let act (w : World RuledSink FusedReading) := interfere (w.threads.flatMap plan.due) w
  let (_, w) := (s.alone "" (.producer p)).runAmid (fun _ w => ((), act w)) 0 patience ()
  (answerOf w, entriesOf w, { s with queue := w.queue })

/-- The surroundings of a consumer make the calls of the sink, on the queue that the sink was made
for. -/
def consume (s : Session) (name : String) (policy : RetryPolicy) :
    Answer × List Log.Entry × Session :=
  let act (former : Option (SharedQueue FusedReading)) (w : World RuledSink FusedReading) :=
    let calls := w.threads.flatMap (RuledSink.due w.sink)
    match former with
    | none => (none, interfere calls w)
    | some former =>
      let other := interfere calls { w with queue := former }
      (some other.queue, { other with queue := w.queue })
  let task := Task.consumer (.start name policy)
  let (former, w) := (s.alone name task).runAmid act 0 patience s.formerQueue
  (answerOf w, entriesOf w, { queue := w.queue, sink := w.sink, formerQueue := former })

/-- Goes on to another queue. The sink stays with the queue that it was made for. -/
def renew (s : Session) (queue : SharedQueue FusedReading) : Session :=
  { s with queue, formerQueue := some (s.formerQueue.getD s.queue) }

def step (s : Session) : Step → Answer × List Log.Entry × Session
  | .renew => (.reply .done, [], s.renew .empty)
  | .reserve capacity =>
    match SharedQueue.withCapacity capacity with
    | .ok queue => (.reply .done, [], s.renew queue)
    | .error fault => (.reply (.refused fault), [], s)
  | .call call =>
    let outcome := s.queue.perform .lock call
    let answer := (outcome.reply.map Answer.reply).getD .waiting
    (answer, outcome.entries, { s with queue := outcome.queue })
  | .produce plan => s.produce plan
  | .consume name policy => s.consume name policy
  | .replaceSink sink => (.reply .done, [], { s with sink := ⟨sink, false⟩, formerQueue := none })
  | .poisonSink => (.reply .panicked, [], { s with sink := s.sink.poison })
  | .inspectSink => (.sink s.sink, [], s)

/-- Takes steps one after the other. Each comes with what it answers, what was logged, and the
session that it leaves. -/
def run (s : Session) : List Step → List (Answer × List Log.Entry × Session)
  | [] => []
  | step :: rest =>
    let result := s.step step
    result :: run result.2.2 rest

end Session

end SensorRelay.Scenario
