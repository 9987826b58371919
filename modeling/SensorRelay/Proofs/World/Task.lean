import SensorRelay.Proofs.World.Standing

/-! # What moves do to tasks

A task knows nothing of standings. To the tasks, a move is a call that is answered, one step of a
producer or a consumer of its own, or nothing at all (`Act`), since threads that park, wake up or
notify stay with their tasks.
-/

namespace SensorRelay

/-- Might a task make a removal? -/
def Task.mayRemove {α : Type} : Task α → Bool
  | .producer _ => false
  | .consumer _ => true
  | .caller calls _ => calls.any fun
    | .remove => true
    | _ => false

theorem Task.mayRemove_of_call? {α : Type} {task : Task α} (removes : task.call? = some .remove) :
    task.mayRemove = true := by
  cases task with
  | producer p =>
    simp only [call?, Producer.call?] at removes
    split at removes <;> cases removes
  | consumer c => rfl
  | caller calls replies =>
    cases calls with
    | nil => cases removes
    | cons call rest =>
      cases removes
      rfl

/-- A consumer makes no call but removals, and goes on with what they are answered. -/
theorem Task.removing_of_call? {α : Type} {c : Consumer α} {call : Call α}
    (calls : (Task.consumer c).call? = some call) :
    call = .remove ∧ ∃ failures, c.phase = .removing failures ∧
      ∀ reply, ((Task.consumer c).resume reply).1 = .consumer (c.afterRemove failures reply).1 := by
  cases phase : c.phase with
  | removing failures =>
    simp only [call?, phase, Option.some.injEq] at calls
    refine ⟨calls.symm, failures, rfl, fun reply => ?_⟩
    simp only [resume, phase]
  | delivering item => simp [call?, phase] at calls
  | ended ending => simp [call?, phase] at calls

/-- A task that goes on makes no removal that it might not have made before. -/
theorem Task.mayRemove_resume {α : Type} {task : Task α} {reply : Reply α}
    (after : (task.resume reply).1.mayRemove = true) : task.mayRemove = true := by
  cases task with
  | producer p => cases after
  | consumer c => rfl
  | caller calls replies =>
    obtain ⟨call, listed, removes⟩ := List.any_eq_true.mp after
    exact List.any_eq_true.mpr ⟨call, List.mem_of_mem_tail listed, removes⟩

@[simp] theorem Thread.task_after {α : Type} (thread : Thread α) (outcome : Outcome α) :
    (thread.after outcome).1.task =
      match outcome.reply with
      | none => thread.task
      | some reply => (thread.task.resume reply).1 := by
  cases answer : outcome.reply with
  | none => simp only [after, answer]
  | some reply => simp only [after, answer]

@[simp] theorem Thread.canStep_supplied {α : Type} (thread : Thread α) (element : Drawn α) :
    (thread.supplied element).canStep = thread.canStep := by
  unfold supplied
  split
  · next p task =>
    simp only [canStep, task]
    rfl
  · rfl

namespace World

variable {σ α : Type}

/-- The tasks of all threads, in order. -/
def tasks (w : World σ α) : List (Task α) := w.threads.map Thread.task

/-- How many threads might make a removal. -/
def removers (w : World σ α) : Nat := w.tasks.countP Task.mayRemove

theorem getElem?_tasks {w : World σ α} {index : Nat} {task : Task α} :
    w.tasks[index]? = some task ↔ ∃ thread, w.threads[index]? = some thread ∧
      thread.task = task := by
  rw [tasks, List.getElem?_map, Option.map_eq_some_iff]

/-- A supply goes to the source of one producer. -/
theorem tasks_supply {w : World σ α} {index : Nat} {p : Producer α}
    (here : w.tasks[index]? = some (.producer p)) (element : Drawn α) :
    (w.supply index element).tasks =
      w.tasks.set index (.producer { p with source := p.source ++ [element] }) := by
  obtain ⟨thread, there, task⟩ := getElem?_tasks.mp here
  refine List.ext_getElem? fun place => ?_
  rw [tasks, supply, List.getElem?_map, List.getElem?_modify]
  obtain rfl | apart := eq_or_ne index place
  · rw [List.getElem?_set_self (List.getElem?_eq_some_iff.mp here).1, there]
    simp [Thread.supplied, task]
  · rw [List.getElem?_set_ne apart, tasks, List.getElem?_map]
    simp [apart]

/-- Only producers draw. -/
theorem task_of_isDrawing {w : World σ α} {index : Nat} (drawing : w.isDrawing index = true) :
    ∃ p, w.tasks[index]? = some (.producer p) := by
  simp only [isDrawing, Option.any_eq_true] at drawing
  obtain ⟨thread, here, drawing⟩ := drawing
  split at drawing
  · next p _ task => exact ⟨p, getElem?_tasks.mpr ⟨thread, here, task⟩⟩
  · cases drawing

theorem canStep_supply (w : World σ α) (index place : Nat) (element : Drawn α) :
    (w.supply index element).canStep place = w.canStep place := by
  rw [canStep, supply, List.getElem?_modify, canStep]
  cases w.threads[place]? with
  | none => rfl
  | some thread =>
    obtain rfl | apart := eq_or_ne index place
    · simp
    · simp [apart]

/-- Who has been supplied has something at hand. -/
theorem isDrawing_supply (w : World σ α) (index : Nat) (element : Drawn α) :
    (w.supply index element).isDrawing index = false := by
  rw [isDrawing, supply, List.getElem?_modify_eq]
  cases w.threads[index]? with
  | none => rfl
  | some thread =>
    obtain ⟨_, task, standing⟩ := thread
    cases task with
    | producer p => cases standing <;> cases h : p.phase <;> simp [Thread.supplied, h]
    | consumer c => cases standing <;> rfl
    | caller calls replies => cases standing <;> rfl

variable [QueueItem α] [Sink σ α]

/-- One move of a world, as its tasks see it. -/
inductive Act (w next : World σ α) : Option (Visit α) → Prop
  | rests {visit : Option (Visit α)}
      (silent : visit = none ∨ ∃ index call, visit = some ⟨index, call, none⟩)
      (queue : next.queue = w.queue) (sink : next.sink = w.sink) (tasks : next.tasks = w.tasks) :
      Act w next visit
  | calls {index : Nat} {task : Task α} {call : Call α} {reply : Reply α} {signal : Option Signal}
      (here : w.tasks[index]? = some task) (calls : task.call? = some call)
      (effect : SharedQueue.Effect w.queue next.queue call (some reply) signal)
      (sink : next.sink = w.sink) (tasks : next.tasks = w.tasks.set index (task.resume reply).1)
      (parked : next.tally .parked = w.tally .parked)
      (owing : next.tally (.owing .one) =
        w.tally (.owing .one) + if signal = some .one then 1 else 0) :
      Act w next (some ⟨index, call, some reply⟩)
  | draws {index : Nat} {p : Producer α} (here : w.tasks[index]? = some (.producer p))
      (phase : p.phase = .drawing) (drawing : p.source = [] → w.isDrawing index)
      (queue : next.queue = w.queue) (sink : next.sink = w.sink)
      (tasks : next.tasks = w.tasks.set index (.producer p.draw.1)) : Act w next none
  | delivers {index : Nat} {c : Consumer α} {item : α}
      (here : w.tasks[index]? = some (.consumer c)) (phase : c.phase = .delivering item)
      (queue : next.queue = w.queue) (sink : next.sink = (c.deliver item w.sink).2.1)
      (tasks : next.tasks = w.tasks.set index (.consumer (c.deliver item w.sink).1)) :
      Act w next none

omit [QueueItem α] [Sink σ α] in
theorem set_standing {threads : List (Thread α)} {index : Nat} {thread : Thread α}
    (here : threads[index]? = some thread) (standing : Standing) :
    (threads.set index { thread with standing }).map Thread.task = threads.map Thread.task := by
  rw [List.map_set]
  obtain ⟨bound, rfl⟩ := List.getElem?_eq_some_iff.mp here
  refine List.ext_getElem? fun place => ?_
  rw [List.getElem?_set]
  split
  · next equal => simp [← equal, bound]
  · rfl

/-- Everything that happens is one of these to the tasks. -/
theorem Move.act {w next : World σ α} {visit : Option (Visit α)} (move : Move w next visit) :
    Act w next visit := by
  cases move with
  | @visits index thread call outcome here awake calls takes queue sink threads =>
    cases answer : outcome.reply with
    | none =>
      obtain ⟨_, same, _⟩ := takes.of_reply_none answer
      refine .rests (.inr ⟨index, call, rfl⟩) (queue.trans same) sink ?_
      rw [tasks, threads, after_of_reply_none answer, set_standing here]
      rfl
    | some reply =>
      have answered : outcome.reply ≠ none := by simp [answer]
      obtain ⟨parked, _, owing⟩ := tally_of_answered here awake answered threads
      have effect : SharedQueue.Effect w.queue next.queue call (some reply) outcome.signal :=
        queue ▸ answer ▸ takes
      refine .calls (getElem?_tasks.mpr ⟨thread, here, rfl⟩) calls effect sink ?_ parked owing
      rw [tasks, threads, List.map_set, Thread.task_after, answer]
      rfl
  | unheard here _ _ queue sink threads =>
    refine .rests (.inl rfl) queue sink ?_
    rw [tasks, threads, set_standing here]
    rfl
  | @heardByOne _ _ thread _ here owes there asleep queue sink threads =>
    have still := getElem?_set_apart here there (by simp [owes, asleep])
      { thread with standing := .ready }
    refine .rests (.inl rfl) queue sink ?_
    rw [tasks, threads, set_standing still, set_standing here]
    rfl
  | heardByAll here _ queue sink threads =>
    refine .rests (.inl rfl) queue sink ?_
    rw [tasks, threads, List.map_map, List.map_congr_left fun thread _ => thread.task_rouse,
      set_standing here]
    rfl
  | draws here ready task phase queue sink threads =>
    refine .draws (getElem?_tasks.mpr ⟨_, here, task⟩) phase ?_ queue sink ?_
    · intro source
      simp [isDrawing, here, ready, task, phase, source]
    · rw [tasks, threads, List.map_set]
      rfl
  | delivers here ready task phase queue sink threads =>
    refine .delivers (getElem?_tasks.mpr ⟨_, here, task⟩) phase queue sink ?_
    rw [tasks, threads, List.map_set]
    rfl
  | wakes here asleep queue sink threads =>
    refine .rests (.inl rfl) queue sink ?_
    rw [tasks, threads, set_standing here]
    rfl
  | idles same => exact .rests (.inl rfl) (same ▸ rfl) (same ▸ rfl) (same ▸ rfl)

omit [QueueItem α] [Sink σ α] in
private theorem countP_set_le {tasks : List (Task α)} {index : Nat} {old new : Task α}
    (here : tasks[index]? = some old) (fewer : new.mayRemove → old.mayRemove) :
    (tasks.set index new).countP Task.mayRemove ≤ tasks.countP Task.mayRemove := by
  obtain ⟨bound, rfl⟩ := List.getElem?_eq_some_iff.mp here
  have positive := List.boole_getElem_le_countP (p := Task.mayRemove) bound
  rw [List.countP_set bound]
  split <;> split <;> simp_all

/-- No thread becomes a remover. -/
theorem Act.removers_le {w next : World σ α} {visit : Option (Visit α)} (act : Act w next visit) :
    next.removers ≤ w.removers := by
  cases act with
  | rests _ _ _ tasks => exact Nat.le_of_eq (congrArg (List.countP Task.mayRemove) tasks)
  | calls here _ _ _ tasks =>
    rw [removers, tasks]
    exact countP_set_le here Task.mayRemove_resume
  | draws here _ _ _ _ tasks =>
    rw [removers, tasks]
    exact countP_set_le here id
  | delivers here _ _ _ tasks =>
    rw [removers, tasks]
    exact countP_set_le here id

omit [QueueItem α] [Sink σ α] in
/-- Threads that park are removers. -/
theorem Orderly.parked_le {w : World σ α} (orderly : Orderly w) :
    w.tally .parked ≤ w.removers := by
  rw [removers, tasks, List.countP_map]
  refine List.countP_mono_left fun thread listed asleep => ?_
  have removes := orderly.waiting thread listed (.inl (by simpa using asleep))
  exact Task.mayRemove_of_call? removes

omit [QueueItem α] [Sink σ α] in
theorem tasks_wake (w : World σ α) (index : Nat) : (w.wake index).tasks = w.tasks := by
  unfold wake
  split
  · next here => exact set_standing here .woken
  · rfl

omit [QueueItem α] [Sink σ α] in
theorem tasks_notify (w : World σ α) (signal : Signal) (choice : Nat) :
    (w.notify signal choice).tasks = w.tasks := by
  cases signal with
  | all =>
    rw [tasks, (notify_all w choice).2.2, List.map_map,
      List.map_congr_left fun thread _ => thread.task_rouse]
    rfl
  | one =>
    unfold notify
    dsimp only
    split
    · exact tasks_wake w _
    · rfl

omit [QueueItem α] [Sink σ α] in
theorem sink_notify (w : World σ α) (signal : Signal) (choice : Nat) :
    (w.notify signal choice).sink = w.sink := by
  cases signal with
  | all => exact (notify_all w choice).2.1
  | one =>
    obtain ⟨_, same⟩ | ⟨_, _, _, _, same⟩ := notify_one w choice <;> rw [same]

omit [QueueItem α] [Sink σ α] in
theorem sink_wake (w : World σ α) (index : Nat) : (w.wake index).sink = w.sink := by
  unfold wake
  split <;> rfl

/-- A step of a thread changes no other task. -/
theorem getElem?_tasks_step (w : World σ α) {index place : Nat} (apart : place ≠ index)
    (choice : Nat) : (w.step index choice).tasks[place]? = w.tasks[place]? := by
  have others (thread : Thread α) :
      ((w.threads.set index thread).map Thread.task)[place]? = w.tasks[place]? := by
    rw [List.map_set, List.getElem?_set_ne apart.symm]
    rfl
  unfold step
  split
  · rfl
  · split
    · rfl
    · rw [tasks_notify]
      exact others _
    · exact others _
    · rfl
    · exact others _
    · unfold ownStep
      split
      · split
        · exact others _
        · rfl
      · split
        · exact others _
        · rfl
      · rfl

end World

end SensorRelay
