import SensorRelay.Proofs.Relay.Upstream
import SensorRelay.Proofs.World.Task
import SensorRelay.Reading.Writer
import Mathlib.Data.List.InsertIdx

/-! # Where a crowd of removers ends

Some threads are parked in removals at an open queue without items, and one more is about to insert
items and to close the queue (`Expectant`). Who gets which item depends on who is woken when, but
what is handed out does not. At any time the items are those that have been handed out, those in the
queue and those that are yet to be inserted, in order, and nobody meets the end of the stream before
all of them are gone (`Handout`). At a queue that is not open nobody stays parked unless a
notification is owed, so once no thread has a step left, every removal has been answered.
-/

namespace SensorRelay

variable {σ α : Type}

/-- The answer to the only call of a thread that has made it. -/
def Task.answer? : Task α → Option (Reply α)
  | .caller [] [reply] => some reply
  | _ => none

/-- Threads that have made their only call are known by the answers. -/
private theorem map_answers {tasks : List (Task α)}
    (answered : ∀ task ∈ tasks, ∃ reply, task = .caller [] [reply]) :
    tasks = (tasks.filterMap Task.answer?).map fun reply => .caller [] [reply] := by
  induction tasks with
  | nil => rfl
  | cons task rest ih =>
    obtain ⟨reply, rfl⟩ := answered task List.mem_cons_self
    have later := ih fun other listed => answered other (List.mem_cons_of_mem _ listed)
    exact congrArg (Task.caller [] [reply] :: ·) later

section Lists

variable {β γ : Type} {list : List β} {place spot : Nat} {old new : β}

/-- An element that is replaced apart from one that is left out. -/
private theorem eraseIdx_set_apart (here : list[place]? = some old) {index : Nat}
    (apart : place ≠ index) : ∃ spot, (list.eraseIdx index)[spot]? = some old ∧
      ∀ new, (list.set place new).eraseIdx index = (list.eraseIdx index).set spot new := by
  obtain before | after := Nat.lt_or_gt_of_ne apart
  · refine ⟨place, ?_, fun new => List.eraseIdx_set_gt before⟩
    rw [List.getElem?_eraseIdx_of_lt before, here]
  · refine ⟨place - 1, ?_, fun new => List.eraseIdx_set_lt after⟩
    rw [List.getElem?_eraseIdx_of_ge (by omega), Nat.sub_add_cancel (by omega), here]

/-- Filling a gap adds one value, wherever the gap is. -/
private theorem filterMap_set_perm (f : β → Option γ) {value : γ} (here : list[spot]? = some old)
    (gap : f old = none) (fills : f new = some value) :
    ((list.set spot new).filterMap f).Perm (list.filterMap f ++ [value]) := by
  induction list generalizing spot with
  | nil => cases here
  | cons head rest ih =>
    cases spot with
    | zero =>
      cases here
      rw [List.set_cons_zero, List.filterMap_cons_some fills, List.filterMap_cons_none gap]
      exact (List.perm_append_singleton _ _).symm
    | succ spot =>
      have later := ih here
      rw [List.set_cons_succ, List.filterMap_cons, List.filterMap_cons]
      cases f head with
      | none => exact later
      | some first => exact later.cons first

end Lists

variable [QueueItem α]

/-- What a remover is handed of an item that is no marker: the item as the marker check leaves
it. -/
def QueueItem.handed? (item : α) : Option α :=
  match QueueItem.inspect item with
  | .seen false seen => some seen
  | _ => none

namespace SharedQueue

variable {q next : SharedQueue α} {reply : Reply α} {signal : Option Signal}

/-- A removal that is answered at a queue without markers: it takes the first item, or finds that
there will be none. -/
theorem Effect.removes (effect : Effect q next .remove (some reply) signal)
    (sound : q.poisoned = false) (alive : q.lifecycle ≠ .destroyed)
    (plain : ∀ item ∈ q.list, (QueueItem.handed? item).isSome) :
    next.poisoned = false ∧ next.lifecycle = q.lifecycle ∧
      ((∃ head item, QueueItem.handed? head = some item ∧ q.list = head :: next.list ∧
        reply = .item item) ∨
        q.list = [] ∧ next.list = [] ∧ q.lifecycle = .closed ∧ reply = .endOfStream) := by
  cases effect with
  | refused _ refusal =>
    obtain poisoned | gone := refusal.gone rfl
    · simp [sound] at poisoned
    · exact (alive gone).elim
  | inserted adds => cases adds
  | @removed head item _ _ checked items stillSound lifecycle =>
    have handed : QueueItem.handed? head = some item := by simp [QueueItem.handed?, checked]
    exact ⟨stillSound, lifecycle, .inl ⟨head, item, handed, items, rfl⟩⟩
  | @metMarker head item rest _ _ checked items =>
    have handed := plain head (by simp [items])
    simp [QueueItem.handed?, checked] at handed
  | drained same _ closed items =>
    subst same
    exact ⟨sound, rfl, .inr ⟨items, items, closed, rfl⟩⟩
  | judged _ _ asks => simp at asks
  | @panicked _ head rest _ _ checked items =>
    have handed := plain head (by simp [items])
    simp [QueueItem.handed?, checked] at handed

end SharedQueue

/-- A thread that inserts items and then closes the queue: the rest is yet to be inserted, or all is
done. -/
inductive Supplier (rest : List α) (lifecycle : Lifecycle) : Task α → Prop
  | busy (replies : List (Reply α)) (opened : lifecycle = .opened) :
      Supplier rest lifecycle (.caller (rest.map .insert ++ [.close]) replies)
  | done (replies : List (Reply α)) (closed : lifecycle = .closed) (nothing : rest = []) :
      Supplier rest lifecycle (.caller [] replies)

/-- A thread that makes one removal. -/
inductive Remover : Task α → Prop
  | waits : Remover (.caller [.remove] [])
  | answered (reply : Reply α) : Remover (.caller [] [reply])

/-- How far the items have been handed out: some are gone, then come those that are queued, and the
rest has yet to be inserted. Some removers have met the end of the stream instead. -/
structure Handout (index n : Nat) (items gone rest : List α) (ends : Nat) (q : SharedQueue α)
    (tasks : List (Task α)) : Prop where
  sound : q.poisoned = false
  parts : gone ++ q.list ++ rest = items
  inserter : ∃ task, tasks[index]? = some task ∧ Supplier rest q.lifecycle task
  count : (tasks.eraseIdx index).length = n
  removers : ∀ task ∈ tasks.eraseIdx index, Remover task
  answers : ((tasks.eraseIdx index).filterMap Task.answer?).Perm
    ((gone.filterMap QueueItem.handed?).map .item ++ List.replicate ends .endOfStream)
  dry : 0 < ends → q.lifecycle = .closed ∧ q.list = []

namespace Handout

variable {index n place ends : Nat} {items gone rest : List α} {q next : SharedQueue α}
  {tasks : List (Task α)} {task : Task α} {call : Call α} {reply : Reply α}
  {signal : Option Signal}

theorem lifecycle_ne (handout : Handout index n items gone rest ends q tasks) :
    q.lifecycle ≠ .destroyed := by
  obtain ⟨_, _, supplier⟩ := handout.inserter
  cases supplier with
  | busy _ opened => simp [opened]
  | done _ closed => simp [closed]

/-- The next item is inserted, or the queue is closed. -/
theorem inserts (handout : Handout index n items gone rest ends q tasks)
    (here : tasks[index]? = some task) (calls : task.call? = some call)
    (effect : SharedQueue.Effect q next call (some reply) signal)
    (plenty : reply ≠ .refused .allocation) :
    ∃ restAfter, Handout index n items gone restAfter ends next
      (tasks.set index (task.resume reply).1) := by
  have there (new : Task α) : (tasks.set index new)[index]? = some new :=
    List.getElem?_set_self (List.getElem?_eq_some_iff.mp here).1
  have others (new : Task α) : (tasks.set index new).eraseIdx index = tasks.eraseIdx index :=
    List.eraseIdx_set_eq
  obtain ⟨inserter, waiting, supplier⟩ := handout.inserter
  cases here.symm.trans waiting
  cases supplier with
  | done => cases calls
  | busy replies opened =>
    have noEnds (some : 0 < ends) : False := by simpa [opened] using (handout.dry some).1
    cases rest with
    | nil =>
      cases calls
      obtain ⟨rfl, sound, closed, items⟩ := effect.closes handout.sound opened
      exact ⟨[], sound, items ▸ handout.parts, ⟨_, there _, .done _ closed rfl⟩,
        others _ ▸ handout.count, others _ ▸ handout.removers, others _ ▸ handout.answers,
        fun some => (noEnds some).elim⟩
    | cons item rest =>
      cases calls
      obtain ⟨rfl, sound, stillOpened, items⟩ := effect.inserts rfl handout.sound opened plenty
      refine ⟨rest, sound, ?_, ⟨_, there _, .busy _ stillOpened⟩, others _ ▸ handout.count,
        others _ ▸ handout.removers, others _ ▸ handout.answers, fun some => (noEnds some).elim⟩
      rw [items, ← handout.parts]
      simp

/-- The removers after one of them has been answered. -/
private theorem others_of_answer (handout : Handout index n items gone rest ends q tasks)
    (apart : place ≠ index) (here : tasks[place]? = some (.caller [.remove] []))
    (reply : Reply α) :
    let others := (tasks.set place (.caller [] [reply])).eraseIdx index
    others.length = n ∧ (∀ task ∈ others, Remover task) ∧
      (others.filterMap Task.answer?).Perm
        ((gone.filterMap QueueItem.handed?).map .item ++ List.replicate ends .endOfStream ++
          [reply]) := by
  obtain ⟨spot, there, replaced⟩ := eraseIdx_set_apart here apart
  dsimp only
  rw [replaced, List.length_set]
  refine ⟨handout.count, fun task listed => ?_, ?_⟩
  · obtain listed | rfl := List.mem_or_eq_of_mem_set listed
    · exact handout.removers task listed
    · exact .answered reply
  · exact (filterMap_set_perm Task.answer? there rfl rfl).trans (handout.answers.append_right _)

/-- A remover is handed the first item, or meets the end of the stream. -/
theorem removes (handout : Handout index n items gone rest ends q tasks)
    (plain : ∀ item ∈ items, (QueueItem.handed? item).isSome) (apart : place ≠ index)
    (here : tasks[place]? = some task) (calls : task.call? = some call)
    (effect : SharedQueue.Effect q next call (some reply) signal) :
    ∃ goneAfter endsAfter, Handout index n items goneAfter rest endsAfter next
      (tasks.set place (task.resume reply).1) := by
  obtain ⟨spot, there, _⟩ := eraseIdx_set_apart here apart
  cases handout.removers task (List.mem_of_getElem? there) with
  | answered => cases calls
  | waits =>
    cases calls
    have queued : ∀ item ∈ q.list, (QueueItem.handed? item).isSome := fun item listed =>
      plain item (handout.parts ▸ by simp [listed])
    obtain ⟨sound, lifecycle, answer⟩ := effect.removes handout.sound handout.lifecycle_ne queued
    have inserter : ∃ task, (tasks.set place (.caller [] [reply]))[index]? = some task ∧
        Supplier rest next.lifecycle task := by
      rw [List.getElem?_set_ne apart, lifecycle]
      exact handout.inserter
    obtain ⟨count, removers, answers⟩ := handout.others_of_answer apart here reply
    obtain ⟨head, item, handed, listed, rfl⟩ | ⟨empty, stillEmpty, closed, rfl⟩ := answer
    · refine ⟨gone ++ [head], ends, sound, ?_, inserter, count, removers, ?_, fun some => ?_⟩
      · rw [← handout.parts, listed]
        simp
      · refine answers.trans ?_
        rw [List.filterMap_append, List.filterMap_cons_some handed, List.filterMap_nil,
          List.map_append, List.append_assoc, List.append_assoc]
        exact List.perm_append_comm.append_left _
      · have dry := (handout.dry some).2
        simp [listed] at dry
    · refine ⟨gone, ends + 1, sound, ?_, inserter, count, removers, ?_,
        fun _ => ⟨lifecycle.trans closed, stillEmpty⟩⟩
      · rw [stillEmpty, ← empty, handout.parts]
      · rw [List.replicate_succ', ← List.append_assoc]
        exact answers

/-- All threads are callers. -/
theorem task_eq (handout : Handout index n items gone rest ends q tasks)
    (here : tasks[place]? = some task) : ∃ calls replies, task = .caller calls replies := by
  obtain rfl | apart := eq_or_ne place index
  · obtain ⟨inserter, there, supplier⟩ := handout.inserter
    cases here.symm.trans there
    cases supplier <;> exact ⟨_, _, rfl⟩
  · obtain ⟨spot, there, _⟩ := eraseIdx_set_apart here apart
    cases handout.removers task (List.mem_of_getElem? there) <;> exact ⟨_, _, rfl⟩

end Handout

namespace World

variable [Sink σ α] {w next last : World σ α} {event : Event} {events : List Event}
  {index n ends : Nat} {items gone rest : List α}

/-- Whatever happens, the items are handed out in order. -/
theorem handout_of_next? (plain : ∀ item ∈ items, (QueueItem.handed? item).isSome)
    (supplied : ∀ place, event ≠ .shortage place) (happens : w.next? event = some next)
    (handout : Handout index n items gone rest ends w.queue w.tasks) :
    ∃ gone rest ends, Handout index n items gone rest ends next.queue next.tasks := by
  have act := (move_of_next? happens).act
  generalize visited : w.visit? event = visit at act
  cases act with
  | rests _ queue _ tasks => exact ⟨gone, rest, ends, queue ▸ tasks ▸ handout⟩
  | @calls place task call reply signal here calls effect _ tasks =>
    rw [tasks]
    obtain rfl | apart := eq_or_ne place index
    · have plenty : reply ≠ .refused .allocation := by
        rintro rfl
        exact ne_allocation_of_supplied supplied visited rfl
      obtain ⟨restAfter, after⟩ := handout.inserts here calls effect plenty
      exact ⟨gone, restAfter, ends, after⟩
    · obtain ⟨goneAfter, endsAfter, after⟩ := handout.removes plain apart here calls effect
      exact ⟨goneAfter, rest, endsAfter, after⟩
  | draws here =>
    obtain ⟨_, _, same⟩ := handout.task_eq here
    cases same
  | delivers here =>
    obtain ⟨_, _, same⟩ := handout.task_eq here
    cases same

theorem handout_of_replay? (plain : ∀ item ∈ items, (QueueItem.handed? item).isSome)
    (supplied : ∀ place, .shortage place ∉ events) (replayed : w.replay? events = some last)
    (orderly : Orderly w) (handout : Handout index n items gone rest ends w.queue w.tasks) :
    Orderly last ∧
      ∃ gone rest ends, Handout index n items gone rest ends last.queue last.tasks := by
  induction events generalizing w gone rest ends with
  | nil =>
    cases replayed
    exact ⟨orderly, gone, rest, ends, handout⟩
  | cons event others ih =>
    obtain ⟨next, happens, later⟩ := Option.bind_eq_some_iff.mp replayed
    obtain ⟨goneNext, restNext, endsNext, after⟩ := handout_of_next? plain
      (fun place same => supplied place (same ▸ List.mem_cons_self)) happens handout
    exact ih (fun place listed => supplied place (List.mem_cons_of_mem _ listed)) later
      (orderly.of_sound (move_of_next? happens) after.sound) after

omit [QueueItem α] [Sink σ α] in
theorem stuck_iff : (∀ place, w.canStep place = false) ↔
    ∀ thread ∈ w.threads, thread.canStep = false := by
  refine ⟨fun stuck thread listed => ?_, fun still place => ?_⟩
  · obtain ⟨place, here⟩ := List.getElem?_of_mem listed
    have still := stuck place
    rwa [canStep, here, Option.any_some] at still
  · rw [canStep]
    cases here : w.threads[place]? with
    | none => rfl
    | some thread => exact still thread (List.mem_of_getElem? here)

omit [QueueItem α] [Sink σ α] in
/-- Where no thread has a step left, all have ended, unless removers are parked at an open queue. -/
theorem Orderly.ended_of_stuck (orderly : Orderly w) (stuck : ∀ place, w.canStep place = false)
    {thread : Thread α} (listed : thread ∈ w.threads) : thread.task.hasEnded = true ∨
      thread.task.call? = some .remove ∧ w.queue.lifecycle = .opened := by
  have still := stuck_iff.mp stuck
  have own := still thread listed
  cases standing : thread.standing with
  | ready => exact .inl (by simpa [Thread.canStep, standing] using own)
  | woken => exact .inl (by simpa [Thread.canStep, standing] using own)
  | owing signal => simp [Thread.canStep, standing] at own
  | parked =>
    refine .inr ⟨orderly.waiting thread listed (.inl standing), ?_⟩
    by_contra shut
    have somebody : 0 < w.tally .parked :=
      List.countP_pos_iff.mpr ⟨thread, listed, by simp [standing]⟩
    obtain ⟨other, present, owes⟩ := List.countP_pos_iff.mp (orderly.owed shut somebody)
    have otherStill := still other present
    rw [Thread.canStep, beq_iff_eq.mp owes] at otherStill
    cases otherStill

/-- A number of threads are parked in removals at an open queue without items, and one more is about
to insert items and to close the queue. -/
structure Expectant (w : World σ α) (index n : Nat) (items : List α) : Prop where
  sound : w.queue.poisoned = false
  opened : w.queue.lifecycle = .opened
  empty : w.queue.list = []
  inserter : ∃ name, w.threads[index]? =
    some { name, task := .caller (items.map .insert ++ [.close]) [] }
  count : (w.threads.eraseIdx index).length = n
  removers : ∀ thread ∈ w.threads.eraseIdx index,
    thread.task = .caller [.remove] [] ∧ thread.standing = .parked

omit [QueueItem α] [Sink σ α] in
theorem Expectant.orderly (expectant : Expectant w index n items) : Orderly w where
  sound := expectant.sound
  waiting thread listed standing := by
    obtain ⟨place, there⟩ := List.getElem?_of_mem listed
    obtain rfl | apart := eq_or_ne place index
    · obtain ⟨name, here⟩ := expectant.inserter
      cases here.symm.trans there
      simp at standing
    · obtain ⟨spot, there, _⟩ := eraseIdx_set_apart there apart
      rw [(expectant.removers thread (List.mem_of_getElem? there)).1]
      rfl
  owed shut := (shut expectant.opened).elim

omit [Sink σ α] in
/-- At first nothing has been handed out, and nothing has been inserted. -/
theorem Expectant.handout (expectant : Expectant w index n items) :
    Handout index n items [] items 0 w.queue w.tasks := by
  have others : w.tasks.eraseIdx index = List.replicate n (.caller [.remove] []) := by
    rw [tasks, List.eraseIdx_map]
    refine List.eq_replicate_iff.mpr ⟨by rw [List.length_map, expectant.count], ?_⟩
    intro task listed
    obtain ⟨thread, present, rfl⟩ := List.mem_map.mp listed
    exact (expectant.removers thread present).1
  obtain ⟨name, here⟩ := expectant.inserter
  have supplier : Supplier items w.queue.lifecycle _ := .busy [] expectant.opened
  refine ⟨expectant.sound, ?_, ⟨_, getElem?_tasks.mpr ⟨_, here, rfl⟩, supplier⟩, ?_, ?_, ?_,
    fun some => (Nat.lt_irrefl 0 some).elim⟩
  · rw [expectant.empty, List.nil_append, List.nil_append]
  · rw [others, List.length_replicate]
  · intro task listed
    rw [others] at listed
    exact List.eq_of_mem_replicate listed ▸ .waits
  · rw [others, List.filterMap_replicate_of_none rfl]
    exact .nil

omit [Sink σ α] in
/-- Once no thread has a step left, the inserter has closed the queue. -/
private theorem closed_of_stuck (handout : Handout index n items gone rest ends w.queue w.tasks)
    (orderly : Orderly w) (stuck : ∀ place, w.canStep place = false) :
    w.queue.lifecycle = .closed ∧ rest = [] := by
  obtain ⟨inserter, there, supplier⟩ := handout.inserter
  cases supplier with
  | done _ closed nothing => exact ⟨closed, nothing⟩
  | busy replies opened =>
    obtain ⟨thread, here, task⟩ := getElem?_tasks.mp there
    obtain ended | ⟨removes, _⟩ := orderly.ended_of_stuck stuck (List.mem_of_getElem? here)
    · simp [task, Task.hasEnded] at ended
    · -- Nobody but a remover is parked, and the inserter is none.
      cases rest <;> simp [task, Task.call?] at removes

omit [Sink σ α] in
/-- Then every removal has been answered. -/
private theorem answered_of_stuck (handout : Handout index n items gone rest ends w.queue w.tasks)
    (orderly : Orderly w) (stuck : ∀ place, w.canStep place = false) :
    w.tasks.eraseIdx index =
      ((w.tasks.eraseIdx index).filterMap Task.answer?).map fun reply => .caller [] [reply] := by
  have closed := (closed_of_stuck handout orderly stuck).1
  refine map_answers fun task listed => ?_
  cases handout.removers task listed with
  | answered reply => exact ⟨reply, rfl⟩
  | waits =>
    obtain ⟨thread, present, task⟩ := List.mem_map.mp (List.mem_of_mem_eraseIdx listed)
    obtain ended | ⟨_, opened⟩ := orderly.ended_of_stuck stuck present
    · simp [task, Task.hasEnded] at ended
    · simp [closed] at opened

/-- Whoever is woken when, and for whatever reason: once no thread has a step left, all removals
have been answered and the queue is closed. As many of the first items as there are removers have
been handed out, each of them once, the other removers have met the end of the stream, and the items
that are left are still queued, in order. -/
theorem removers_settle {events : List Event} (expectant : Expectant w index n items)
    (plain : ∀ item ∈ items, (QueueItem.handed? item).isSome)
    (supplied : ∀ place, .shortage place ∉ events) (replayed : w.replay? events = some last)
    (stuck : ∀ place, last.canStep place = false) :
    last.queue.lifecycle = .closed ∧ last.queue.list = items.drop n ∧
      ∃ replies : List (Reply α),
        (last.tasks.eraseIdx index = replies.map fun reply => .caller [] [reply]) ∧
        replies.Perm (((items.take n).filterMap QueueItem.handed?).map .item ++
          List.replicate (n - items.length) .endOfStream) := by
  obtain ⟨orderly, gone, rest, ends, handout⟩ :=
    handout_of_replay? plain supplied replayed expectant.orderly expectant.handout
  obtain ⟨closed, rfl⟩ := closed_of_stuck handout orderly stuck
  have answered := answered_of_stuck handout orderly stuck
  have parts : gone ++ last.queue.list = items := by simpa using handout.parts
  have everyItem : (gone.filterMap QueueItem.handed?).length = gone.length :=
    List.filterMap_length_eq_length.mpr fun item listed =>
      plain item (parts ▸ List.mem_append_left _ listed)
  have total : gone.length + ends = n := by
    have lengths := handout.answers.length_eq
    have others := congrArg List.length answered
    rw [List.length_map, handout.count] at others
    rw [← others, List.length_append, List.length_map, everyItem, List.length_replicate] at lengths
    exact lengths.symm
  have split : items.take n = gone ∧ items.drop n = last.queue.list ∧ n - items.length = ends := by
    subst parts
    -- If anybody has met the end of the stream, all items are gone.
    obtain rfl | some := Nat.eq_zero_or_pos ends
    · subst total
      simp
    · have empty := (handout.dry some).2
      rw [empty, List.append_nil, ← total]
      exact ⟨List.take_of_length_le (Nat.le_add_right _ _),
        List.drop_eq_nil_of_le (Nat.le_add_right _ _), Nat.add_sub_cancel_left _ _⟩
  obtain ⟨taken, left, missing⟩ := split
  refine ⟨closed, left.symm, _, answered, ?_⟩
  rw [taken, missing]
  exact handout.answers

/-- Three threads that are parked, and one that inserts two readings. -/
private def expecting : World LineSink Reading where
  queue := .empty
  sink := ⟨{ device := {} }, false⟩
  threads :=
    [{ name := "first remover", task := .caller [.remove] [], standing := .parked },
      { name := "inserter"
        task := .caller [.insert ⟨7, ⟨0⟩, 0⟩, .insert ⟨8, ⟨0⟩, 0⟩, .close] [] },
      { name := "second remover", task := .caller [.remove] [], standing := .parked },
      { name := "third remover", task := .caller [.remove] [], standing := .parked }]

/-- The first remover wakes up for no reason and takes the first reading. The notification wakes the
third one, which finds nothing, parks again, and in the end is woken by the close. -/
private def awakening : List Event :=
  [.step 1 0, .spurious 0, .step 0 0, .step 1 1, .step 3 0, .step 1 0, .step 1 0, .step 2 0,
    .step 1 0, .step 1 0, .step 3 0]

private def settled : World LineSink Reading := (expecting.replay? awakening).get (by decide)

/-- Two of the three removers are handed a reading. -/
theorem removers_settle_three :
    Expectant expecting 1 3 [⟨7, ⟨0⟩, 0⟩, ⟨8, ⟨0⟩, 0⟩] ∧
      expecting.replay? awakening = some settled ∧
      settled.queue.lifecycle = .closed ∧ settled.queue.list = [] ∧
      ∃ replies : List (Reply Reading),
        (settled.tasks.eraseIdx 1 = replies.map fun reply => .caller [] [reply]) ∧
        replies.Perm [.item ⟨7, ⟨0⟩, 0⟩, .item ⟨8, ⟨0⟩, 0⟩, .endOfStream] := by
  have expectant : Expectant expecting 1 3 [⟨7, ⟨0⟩, 0⟩, ⟨8, ⟨0⟩, 0⟩] :=
    ⟨rfl, rfl, rfl, ⟨_, rfl⟩, rfl, by decide⟩
  have replayed : expecting.replay? awakening = some settled := (Option.some_get _).symm
  obtain ⟨closed, left, replies, answered, handed⟩ :=
    removers_settle expectant (by decide) (by simp [awakening]) replayed
      (stuck_iff.mpr (by decide))
  exact ⟨expectant, replayed, closed, left, replies, answered, handed⟩

end World

end SensorRelay
