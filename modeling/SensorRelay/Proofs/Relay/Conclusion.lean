import SensorRelay.Proofs.Relay.Flow
import SensorRelay.Relay.Schedule

/-! # What comes of a relay

A producer that has ended as it should is joined with its report, and so are the consumers. The
queue is destroyed last, and what is left in it are the markers.
-/

namespace SensorRelay.Relay

private theorem interject_destroy {w : World LineSink Reading} (sound : w.queue.poisoned = false)
    (alive : w.queue.lifecycle ≠ .destroyed) (name : String) :
    (w.interject name .destroy).1 = some (.count w.queue.list.length) ∧
      (w.interject name .destroy).2.sink = w.sink := by
  obtain ⟨reply, signal⟩ :=
    (SharedQueue.effect_perform w.queue .lock .destroy).of_destroy sound alive
  simp only [World.interject, reply, signal, World.notify_all, and_self]

private theorem sift_ok {ρ : Type} (reports : List ρ) :
    sift (reports.map .ok) = (reports, none) := by
  induction reports with
  | nil => rfl
  | cons report rest ih => rw [List.map_cons, sift, ih]

variable {settings : Settings} {elements ahead : List (Drawn Reading)} {ledger : Ledger}
  {w : World LineSink Reading}

private theorem threads_of_flow (flow : Flow settings elements ahead ledger w) :
    ∃ thread rest, w.threads = thread :: rest ∧ thread.task = .producer ledger.producer ∧
      rest.map Thread.task = ledger.consumers.map .consumer :=
  List.map_eq_cons_iff.mp flow.tasks

/-- A producer that is waited for is joined with its report. -/
theorem concludeProducer_of_flow (flow : Flow settings elements ahead ledger w)
    (waited : ∀ thread ∈ w.threads, thread.task.isProducer → thread.isDone) :
    concludeProducer w = (.ok (.unrefused settings elements), w) := by
  obtain ⟨thread, rest, threads, task, _⟩ := threads_of_flow flow
  have done : (Task.producer ledger.producer).hasEnded := by
    have isDone := waited thread (by simp [threads]) (by rw [task]; rfl)
    rw [Thread.isDone, task, Bool.and_eq_true] at isDone
    exact isDone.1
  have joined : joinProducer w = (.ok (.unrefused settings elements), []) := by
    simp only [joinProducer, threads, List.findSome?_cons, task, flow.producer_ended done]
  simp [concludeProducer, joined]

private theorem joinConsumers_of_ended {threads : List (Thread Reading)}
    {consumers : List (Consumer Reading)}
    (tasks : threads.map Thread.task = consumers.map .consumer)
    (ended : ∀ c ∈ consumers, c.phase = .ended (.finished c.report)) :
    (joinConsumers { w with threads }).map Prod.fst = consumers.map fun c => .ok c.report := by
  induction threads generalizing consumers with
  | nil =>
    rw [List.map_nil, eq_comm, List.map_eq_nil_iff] at tasks
    rw [tasks]
    rfl
  | cons thread rest ih =>
    rw [List.map_cons, eq_comm, List.map_eq_cons_iff] at tasks
    obtain ⟨c, others, rfl, task, tasks⟩ := tasks
    rw [List.forall_mem_cons] at ended
    have ending : c.ending? = some (.finished c.report) := by rw [Consumer.ending?, ended.1]
    have here : joinConsumers { w with threads := thread :: rest } =
        joinConsumer thread.name c.ending? :: joinConsumers { w with threads := rest } := by
      simp only [joinConsumers, List.filterMap_cons, ← task]
    rw [here, List.map_cons, ih tasks.symm ended.2, ending]
    rfl

/-- Reports without a fault make the result, once the queue is destroyed. -/
private theorem conclude_of_alive (sound : w.queue.poisoned = false)
    (alive : w.queue.lifecycle ≠ .destroyed) (producer : ProducerReport)
    (consumers : List ConsumerReport) :
    (conclude w (some producer) consumers none).1 =
      .ok ⟨producer, consumers, w.queue.list.length⟩ ∧
    (conclude w (some producer) consumers none).2.sink = w.sink := by
  obtain ⟨reply, sink⟩ := interject_destroy sound alive mainName
  unfold conclude
  split
  next after destroyed =>
    rw [destroyed] at reply sink
    simp only at reply sink
    simp only [reply, sink, Option.getD_some, and_self]

/-- When all is done, the result is made of the reports and the markers that are left. -/
theorem concludeRun_of_complete (flow : Flow settings elements ahead ledger w)
    (complete : Complete settings elements ledger w) (report : ProducerReport) :
    (concludeRun (.ok report) w).1 =
      .ok ⟨report, ledger.consumers.map Consumer.report, settings.markers⟩ ∧
    (concludeRun (.ok report) w).2.sink = w.sink := by
  obtain ⟨thread, rest, threads, task, tasks⟩ := threads_of_flow flow
  have joined : (joinConsumers w).map Prod.fst = ledger.consumers.map fun c => .ok c.report := by
    rw [← joinConsumers_of_ended (w := w) tasks fun c listed => (complete.consumers c listed).1]
    simp only [joinConsumers, threads, List.filterMap_cons, task]
  have sifted : sift ((joinConsumers w).map Prod.fst) =
      (ledger.consumers.map Consumer.report, none) := by
    rw [joined, ← sift_ok, List.map_map]
    rfl
  simp only [concludeRun, sifted, ← complete.leftover]
  apply conclude_of_alive
  · exact complete.sound
  · exact complete.alive

end SensorRelay.Relay
