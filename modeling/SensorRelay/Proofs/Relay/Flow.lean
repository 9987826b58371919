import SensorRelay.Proofs.Relay.Downstream
import SensorRelay.Proofs.Relay.Upstream
import SensorRelay.Proofs.World.Task
import SensorRelay.Relay.Threads

/-! # The flow through a relay

The producer and the queue are upstream of the consumers and their sink. Whatever the threads of a
relay do, in any order, they keep both sides as they have to be (`Flow.of_act`), as long as there is
memory for the queue and the producer finds its elements at hand.
-/

namespace SensorRelay

/-- What is known of a run beside what its world shows: the tasks of its threads, what has been
taken and written, with the places of the consumers, and the readings in the queue. -/
structure Ledger where
  producer : Producer Reading
  consumers : List (Consumer Reading)
  taken : List (Nat × Reading) := []
  written : List (Nat × Reading) := []
  queued : List Reading := []

/-- A relay on its way through `elements`, of which those that are `ahead` are not at hand yet. -/
structure Flow (settings : Settings) (elements ahead : List (Drawn Reading)) (ledger : Ledger)
    (w : World LineSink Reading) : Prop where
  tasks : w.tasks = .producer ledger.producer :: ledger.consumers.map .consumer
  count : ledger.consumers.length = settings.consumers
  upstream : Upstream settings elements ahead (ledger.taken.map Prod.snd) ledger.queued
    ledger.producer w.queue
  downstream : Downstream ledger.taken ledger.written ledger.consumers w.sink
    (ledger.producer.isPast ∧ ledger.queued = [])

/-- A relay that has done all that it had to: each consumer has written what it has taken, which
together is all that there was to be kept. -/
structure Complete (settings : Settings) (elements : List (Drawn Reading)) (ledger : Ledger)
    (w : World LineSink Reading) : Prop where
  consumers : ∀ c ∈ ledger.consumers, c.phase = .ended (.finished c.report) ∧
    c.report.sinkFailures = 0 ∧ c.report.removeFailures = 0
  taken : ledger.taken.map Prod.snd = elements.filterMap Drawn.kept?
  moved : shares settings.consumers ledger.taken = shares settings.consumers ledger.written
  delivered : ledger.consumers.map (fun c => c.report.delivered) =
    (shares settings.consumers ledger.written).map List.length
  sound : w.queue.poisoned = false
  alive : w.queue.lifecycle ≠ .destroyed
  leftover : w.queue.list.length = settings.markers

namespace Flow

variable {settings : Settings} {elements ahead : List (Drawn Reading)} {ledger : Ledger}
  {w next : World LineSink Reading}

/-- The first thread is the producer, and the others are the consumers. -/
theorem task_cases (flow : Flow settings elements ahead ledger w) {index : Nat}
    {task : Task Reading} (here : w.tasks[index]? = some task) :
    (index = 0 ∧ task = .producer ledger.producer) ∨
      ∃ place c, index = place + 1 ∧ ledger.consumers[place]? = some c ∧ task = .consumer c := by
  rw [flow.tasks] at here
  cases index with
  | zero =>
    simp only [List.getElem?_cons_zero, Option.some.injEq] at here
    exact .inl ⟨rfl, here.symm⟩
  | succ place =>
    rw [List.getElem?_cons_succ, List.getElem?_map, Option.map_eq_some_iff] at here
    obtain ⟨c, there, rfl⟩ := here
    exact .inr ⟨place, c, rfl, there, rfl⟩

private theorem of_producer (flow : Flow settings elements ahead ledger w) {call : Call Reading}
    {reply : Reply Reading} {signal : Option Signal}
    (calls : ledger.producer.call? = some call)
    (effect : SharedQueue.Effect w.queue next.queue call (some reply) signal)
    (plenty : reply ≠ .refused .allocation) (sink : next.sink = w.sink)
    (tasks : next.tasks = w.tasks.set 0 (.producer (ledger.producer.resume reply).1)) :
    ∃ later, Flow settings elements ahead later next ∧ ledger.written <+: later.written := by
  obtain ⟨queued, upstream, past⟩ := flow.upstream.resume effect calls plenty
  refine ⟨{ ledger with producer := (ledger.producer.resume reply).1, queued }, ?_, List.prefix_rfl⟩
  refine { count := flow.count, upstream, tasks := ?_, downstream := ?_ }
  · rw [tasks, flow.tasks, List.set_cons_zero]
  · rw [sink]
    refine flow.downstream.mono fun ⟨isPast, nothing⟩ => ?_
    obtain ⟨still, same⟩ := past isPast
    exact ⟨still, same.trans nothing⟩

private theorem of_consumer (flow : Flow settings elements ahead ledger w) {place : Nat}
    {c : Consumer Reading} (there : ledger.consumers[place]? = some c) {call : Call Reading}
    {reply : Reply Reading} {signal : Option Signal}
    (calls : (Task.consumer c).call? = some call)
    (effect : SharedQueue.Effect w.queue next.queue call (some reply) signal)
    (sink : next.sink = w.sink)
    (tasks : next.tasks = w.tasks.set (place + 1) ((Task.consumer c).resume reply).1) :
    ∃ later, Flow settings elements ahead later next ∧ ledger.written <+: later.written := by
  obtain ⟨rfl, failures, phase, answered⟩ := Task.removing_of_call? calls
  have set : next.tasks = .producer ledger.producer ::
      (ledger.consumers.set place (c.afterRemove failures reply).1).map .consumer := by
    rw [tasks, answered, flow.tasks, List.set_cons_succ, List.map_set]
  obtain ⟨r, rest, rfl, queued, upstream⟩ | ⟨rfl, nothing, past, upstream⟩ :=
    flow.upstream.remove effect
  · have downstream : Downstream ledger.taken ledger.written ledger.consumers w.sink
        (ledger.producer.isPast ∧ rest = []) := flow.downstream.mono (by simp [queued])
    exact ⟨{ ledger with
        consumers := ledger.consumers.set place (c.afterRemove failures (.item r)).1
        taken := ledger.taken ++ [(place, r)]
        queued := rest }, {
      tasks := set
      count := List.length_set.trans flow.count
      upstream := by rwa [List.map_append]
      downstream := sink ▸ downstream.take there phase r }, List.prefix_rfl⟩
  · exact ⟨{ ledger with
        consumers := ledger.consumers.set place (c.afterRemove failures .endOfStream).1 }, {
      tasks := set
      count := List.length_set.trans flow.count
      upstream
      downstream := sink ▸ flow.downstream.finish there phase ⟨past, nothing⟩ }, List.prefix_rfl⟩

private theorem of_draw (someone : 1 ≤ settings.consumers)
    (flow : Flow settings elements ahead ledger w) (phase : ledger.producer.phase = .drawing)
    (fed : ledger.producer.source = [] → ahead = []) (queue : next.queue = w.queue)
    (sink : next.sink = w.sink)
    (tasks : next.tasks = w.tasks.set 0 (.producer ledger.producer.draw.1)) :
    ∃ later, Flow settings elements ahead later next ∧ ledger.written <+: later.written := by
  refine ⟨{ ledger with producer := ledger.producer.draw.1 }, {
    tasks := by rw [tasks, flow.tasks, List.set_cons_zero]
    count := flow.count
    upstream := queue ▸ flow.upstream.draw someone phase fed
    downstream := ?_ }, List.prefix_rfl⟩
  rw [sink]
  exact flow.downstream.mono fun ⟨past, _⟩ => by simp [Producer.isPast, phase] at past

/-- A producer without elements at hand does something when it draws. -/
private theorem draw_ne {p : Producer Reading} (phase : p.phase = .drawing)
    (source : p.source = []) : p.draw.1 ≠ p := by
  intro same
  have phases := congrArg Producer.phase same
  simp only [Producer.draw, source, phase] at phases
  unfold Producer.wrapUp at phases
  split at phases <;> cases phases

/-- Whatever happens, a relay goes on as it has to, and what is written stays written. -/
theorem of_act (someone : 1 ≤ settings.consumers) {visit : Option (Visit Reading)}
    (act : World.Act w next visit)
    (plenty : ∀ seen, visit = some seen → seen.reply ≠ some (.refused .allocation))
    (fed : w.isDrawing 0 → ahead = [] ∨ next.tasks[0]? = w.tasks[0]?)
    (flow : Flow settings elements ahead ledger w) :
    ∃ later, Flow settings elements ahead later next ∧ ledger.written <+: later.written := by
  cases act with
  | rests _ queue sink tasks =>
    exact ⟨ledger, {
      tasks := tasks.trans flow.tasks
      count := flow.count
      upstream := queue ▸ flow.upstream
      downstream := sink ▸ flow.downstream }, List.prefix_rfl⟩
  | calls here calls effect sink tasks =>
    obtain ⟨rfl, rfl⟩ | ⟨place, c, rfl, there, rfl⟩ := flow.task_cases here
    · exact flow.of_producer calls effect (fun short => plenty _ rfl (congrArg some short)) sink
        tasks
    · exact flow.of_consumer there calls effect sink tasks
  | draws here phase drawing queue sink tasks =>
    obtain ⟨rfl, same⟩ | ⟨_, _, _, _, other⟩ := flow.task_cases here
    · cases same
      refine flow.of_draw someone phase (fun source => ?_) queue sink tasks
      obtain nothing | still := fed (drawing source)
      · exact nothing
      · rw [tasks, here, List.getElem?_set_self (List.getElem?_eq_some_iff.mp here).1,
          Option.some.injEq, Task.producer.injEq] at still
        exact absurd still (draw_ne phase source)
    · cases other
  | @delivers _ c r here phase queue sink tasks =>
    obtain ⟨_, other⟩ | ⟨place, _, rfl, there, same⟩ := flow.task_cases here
    · cases other
    · cases same
      refine ⟨{ ledger with
          consumers := ledger.consumers.set place (c.deliver r w.sink).1
          written := ledger.written ++ [(place, r)] }, {
        tasks := by rw [tasks, flow.tasks, List.set_cons_succ, List.map_set]
        count := List.length_set.trans flow.count
        upstream := queue ▸ flow.upstream
        downstream := sink ▸ flow.downstream.deliver there phase }, List.prefix_append _ _⟩

/-- Before any thread has done anything, all elements are ahead. -/
theorem start (settings : Settings) (elements : List (Drawn Reading)) :
    ∃ ledger, Flow settings elements elements ledger
      (Relay.world settings [] { device := {} }) := by
  let producer : Producer Reading :=
    { source := [], termination := settings.termination, consumers := settings.consumers }
  let consumers : List (Consumer Reading) := (List.range settings.consumers).map fun index =>
    .start (Relay.consumerName (index + 1)) settings.retry
  have beginning {place : Nat} {c : Consumer Reading} (here : consumers[place]? = some c) :
      c.Carries [] [] (producer.isPast ∧ [] = ([] : List Reading)) := by
    obtain ⟨_, _, rfl⟩ := List.mem_map.mp (List.mem_of_getElem? here)
    exact ⟨rfl, rfl, rfl, rfl, fun ended => by cases ended⟩
  refine ⟨{ producer, consumers }, {
    tasks := ?_
    count := ?_
    upstream := ?_
    downstream := ?_ }⟩
  · simp [World.tasks, Relay.world, producer, consumers]
  · simp [consumers]
  · exact {
      termination := rfl
      consumers := rfl
      sound := rfl
      items := rfl
      kept := rfl
      inserted := rfl
      dropped := Nat.zero_add _
      failures := Nat.zero_add _
      stage := ⟨rfl, rfl⟩
      past := fun past => by cases past }
  · exact {
      bounded := fun _ listed => by cases listed
      carries := beginning
      sound := rfl
      willing := ⟨rfl, rfl, rfl, rfl⟩
      accepted := rfl }

theorem supply {element : Drawn Reading}
    (flow : Flow settings elements (element :: ahead) ledger w) :
    ∃ ledger, Flow settings elements ahead ledger (w.supply 0 element) := by
  have upstream := flow.upstream
  have here : w.tasks[0]? = some (.producer ledger.producer) := by rw [flow.tasks]; rfl
  have same : ledger.producer.source ++ element :: ahead =
      (ledger.producer.source ++ [element]) ++ ahead := List.append_cons _ _ _
  have kept := upstream.kept
  have dropped := upstream.dropped
  have failures := upstream.failures
  have past := upstream.past
  rw [same] at kept dropped failures past
  refine ⟨{ ledger with
      producer := { ledger.producer with source := ledger.producer.source ++ [element] } }, {
    tasks := ?_
    count := flow.count
    upstream := { upstream with kept, dropped, failures, past }
    downstream := flow.downstream }⟩
  rw [World.tasks_supply here, flow.tasks, List.set_cons_zero]

/-- A producer that has ended reports what it should. -/
theorem producer_ended (flow : Flow settings elements ahead ledger w)
    (done : (Task.producer ledger.producer).hasEnded) :
    ledger.producer.ending? = some (.finished (.unrefused settings elements)) := by
  cases phase : ledger.producer.phase with
  | ended ending =>
    rw [Producer.ending?, phase, (flow.upstream.ended phase).1]
  | _ => simp [Task.hasEnded, Producer.ending?, phase] at done

private theorem consumer_ended (flow : Flow settings elements ahead ledger w)
    (all : ∀ task ∈ w.tasks, task.hasEnded) {place : Nat} {c : Consumer Reading}
    (here : ledger.consumers[place]? = some c) :
    c.phase = .ended (.finished c.report) ∧ ledger.queued = [] ∧
      share place ledger.taken = share place ledger.written := by
  have done := all (.consumer c) (by rw [flow.tasks]; simp [List.mem_of_getElem? here])
  have carries := flow.downstream.carries here
  cases phase : c.phase with
  | ended ending =>
    obtain ⟨rfl, _, nothing⟩ := carries.ended phase
    have moves := carries.moves
    simp only [Consumer.hand, phase, List.append_nil] at moves
    exact ⟨rfl, nothing, moves⟩
  | removing failures => simp [Task.hasEnded, Consumer.ending?, phase] at done
  | delivering item => simp [Task.hasEnded, Consumer.ending?, phase] at done

/-- Once all threads have ended, all is done. -/
theorem complete (someone : 1 ≤ settings.consumers) (flow : Flow settings elements ahead ledger w)
    (all : ∀ task ∈ w.tasks, task.hasEnded) : Complete settings elements ledger w := by
  have upstream := flow.upstream
  have done := flow.producer_ended (all (.producer ledger.producer) (by rw [flow.tasks]; simp))
  have somebody : 0 < ledger.consumers.length := flow.count ▸ someone
  obtain ⟨_, nothing, _⟩ := flow.consumer_ended all (List.getElem?_eq_getElem somebody)
  obtain ⟨ending, phase⟩ : ∃ ending, ledger.producer.phase = .ended ending := by
    unfold Producer.ending? at done
    split at done
    · next ending phase => exact ⟨ending, phase⟩
    · cases done
  obtain ⟨_, report, taken⟩ := upstream.ended phase
  rw [nothing, List.append_nil] at taken
  refine {
    consumers := ?consumers
    taken
    moved := ?moved
    delivered := ?delivered
    sound := upstream.sound
    alive := upstream.alive
    leftover := by simp [upstream.items, nothing, report, ProducerReport.unrefused] }
  case consumers =>
    intro c listed
    obtain ⟨place, here⟩ := List.mem_iff_getElem?.mp listed
    have carries := flow.downstream.carries here
    exact ⟨(flow.consumer_ended all here).1, carries.sinkFailures, carries.removeFailures⟩
  case moved =>
    refine List.map_congr_left fun place listed => ?_
    have inside : place < ledger.consumers.length := flow.count ▸ List.mem_range.mp listed
    exact (flow.consumer_ended all (List.getElem?_eq_getElem inside)).2.2
  case delivered =>
    refine List.ext_getElem (by simp [flow.count]) fun place inside _ => ?_
    rw [List.length_map] at inside
    have carries := flow.downstream.carries (List.getElem?_eq_getElem inside)
    simpa [SensorRelay.shares] using carries.delivered

end Flow

end SensorRelay
