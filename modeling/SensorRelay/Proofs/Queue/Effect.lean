import SensorRelay.Queue.Basic

/-! # The effects of calls

A call has one of a dozen effects on a queue, and `Effect` lists them with all that holds before and
after: what is in the queue, whether it is open, whether its lock is poisoned, what is answered and
who is notified. `effect_perform` and `effect_insertShort` say that there are no others, so that
whatever is proved by cases on an effect holds of every call.
-/

namespace SensorRelay.SharedQueue

variable {α : Type}

/-- The items of a queue, first to last. -/
def list (q : SharedQueue α) : List α := q.value.items.toList

def lifecycle (q : SharedQueue α) : Lifecycle := q.value.lifecycle

@[simp] theorem list_empty : (empty : SharedQueue α).list = [] := rfl

@[simp] theorem lifecycle_empty : (empty : SharedQueue α).lifecycle = .opened := rfl

@[simp] theorem list_poison (q : SharedQueue α) : SharedQueue.list q.poison = q.list := rfl

@[simp] theorem lifecycle_poison (q : SharedQueue α) :
    SharedQueue.lifecycle q.poison = q.lifecycle := rfl

variable [QueueItem α]

/-- Why a call is refused. -/
inductive Refusal (q : SharedQueue α) (call : Call α) : QueueFault → Prop
  | poisoned {text : String} (poisoned : q.poisoned = true) : Refusal q call (.poisoned text)
  | destroyed (gone : q.lifecycle = .destroyed) : Refusal q call .destroyed
  | closed (gone : q.lifecycle = .closed) (adds : call.item? ≠ none) : Refusal q call .closed
  | allocation (opened : q.lifecycle = .opened) (adds : call.item? ≠ none) :
      Refusal q call .allocation

/-- What a call makes of a queue, what it answers and whom it notifies. It waits if it has no
answer. -/
inductive Effect (q next : SharedQueue α) : Call α → Option (Reply α) → Option Signal → Prop
  | refused {call : Call α} {fault : QueueFault} (same : next = q)
      (refusal : Refusal q call fault) : Effect q next call (some (.refused fault)) none
  | inserted {call : Call α} {item : α} (adds : call.item? = some item)
      (sound : q.poisoned = false) (opened : q.lifecycle = .opened)
      (stillSound : next.poisoned = false) (stillOpened : next.lifecycle = .opened)
      (items : next.list = q.list ++ [item]) : Effect q next call (some .done) (some .one)
  | waits (same : next = q) (sound : q.poisoned = false) (opened : q.lifecycle = .opened)
      (items : q.list = []) : Effect q next .remove none none
  | removed {head item : α} (sound : q.poisoned = false) (alive : q.lifecycle ≠ .destroyed)
      (checked : QueueItem.inspect head = .seen false item) (items : q.list = head :: next.list)
      (stillSound : next.poisoned = false) (lifecycle : next.lifecycle = q.lifecycle) :
      Effect q next .remove (some (.item item)) none
  | metMarker {head item : α} {rest : List α} (sound : q.poisoned = false)
      (alive : q.lifecycle ≠ .destroyed) (checked : QueueItem.inspect head = .seen true item)
      (items : q.list = head :: rest) (itemsAfter : next.list = item :: rest)
      (stillSound : next.poisoned = false) (lifecycle : next.lifecycle = q.lifecycle) :
      Effect q next .remove (some .endOfStream) none
  | drained (same : next = q) (sound : q.poisoned = false) (closed : q.lifecycle = .closed)
      (items : q.list = []) : Effect q next .remove (some .endOfStream) none
  | closed (sound : q.poisoned = false) (opened : q.lifecycle = .opened)
      (stillSound : next.poisoned = false) (lifecycle : next.lifecycle = .closed)
      (items : next.list = q.list) : Effect q next .close (some .done) (some .all)
  | closedBefore (same : next = q) (sound : q.poisoned = false) (closed : q.lifecycle = .closed) :
      Effect q next .close (some .done) none
  | destroyed (sound : q.poisoned = false) (alive : q.lifecycle ≠ .destroyed)
      (stillSound : next.poisoned = false) (lifecycle : next.lifecycle = .destroyed)
      (items : next.list = []) :
      Effect q next .destroy (some (.count q.list.length)) (some .all)
  | counted (same : next = q) (sound : q.poisoned = false) :
      Effect q next .length (some (.count q.list.length)) none
  | judged {call : Call α} {holds : Bool} (same : next = q) (sound : q.poisoned = false)
      (asks : call ∈ [.isEmpty, .isClosed, .isDestroyed, .peekMarker]) :
      Effect q next call (some (.flag holds)) none
  | peeked {head item : α} {rest : List α} {isMarker : Bool} (sound : q.poisoned = false)
      (checked : QueueItem.inspect head = .seen isMarker item) (items : q.list = head :: rest)
      (itemsAfter : next.list = item :: rest) (stillSound : next.poisoned = false)
      (lifecycle : next.lifecycle = q.lifecycle) :
      Effect q next .peekMarker (some (.flag isMarker)) none
  | panicked {call : Call α} {head : α} {rest : List α} (sound : q.poisoned = false)
      (checks : call = .remove ∨ call = .peekMarker)
      (checked : QueueItem.inspect head = .panicked) (items : q.list = head :: rest)
      (poisons : next = q.poison) : Effect q next call (some .panicked) none

/-- The effect of a call with an outcome. -/
abbrev Takes (q : SharedQueue α) (call : Call α) (outcome : Outcome α) : Prop :=
  Effect q outcome.queue call outcome.reply outcome.signal

omit [QueueItem α] in
private theorem locked_eq (q : SharedQueue α) (place : Monitor.Fault)
    (body : Queue α → Outcome α) :
    q.locked place body =
      if q.poisoned then q.refuse (.poisoned place.message) else body q.value := by
  cases poisoned : q.poisoned <;> simp [locked, Monitor.lockAt, poisoned]

private theorem takes_locked {q : SharedQueue α} {call : Call α} (place : Monitor.Fault)
    {body : Queue α → Outcome α} (sound : q.poisoned = false → q.Takes call (body q.value)) :
    q.Takes call (q.locked place body) := by
  rw [locked_eq]
  split
  · next poisoned => exact .refused rfl (.poisoned poisoned)
  · next unpoisoned => exact sound (Bool.eq_false_iff.mpr unpoisoned)

private theorem takes_insert {q : SharedQueue α} {call : Call α} {item : α}
    (adds : call.item? = some item) : q.Takes call (q.insert item) := by
  have adding : call.item? ≠ none := by simp [adds]
  refine takes_locked .lock fun sound => ?_
  split
  · next gone => exact .refused rfl (.destroyed gone)
  · next gone => exact .refused rfl (.closed gone adding)
  · next opened =>
    exact .inserted adds sound opened rfl opened (Row.toList_push _ _)

/-- An insertion without memory is refused, if not for another reason, then for that one. -/
theorem effect_insertShort {q : SharedQueue α} {call : Call α} {item : α}
    (adds : call.item? = some item) : q.Takes call q.insertShort := by
  have adding : call.item? ≠ none := by simp [adds]
  refine takes_locked .lock fun _ => ?_
  split
  · next gone => exact .refused rfl (.destroyed gone)
  · next gone => exact .refused rfl (.closed gone adding)
  · next opened => exact .refused rfl (.allocation opened adding)

private theorem takes_remove (q : SharedQueue α) (place : Monitor.Fault) :
    q.Takes .remove (q.remove place) := by
  refine takes_locked place fun sound => ?_
  split
  · next opened popped => exact .waits rfl sound opened (Row.pop?_eq_none_iff.mp popped)
  · next gone => exact .refused rfl (.destroyed gone)
  · next closed popped => exact .drained rfl sound closed (Row.pop?_eq_none_iff.mp popped)
  · next item rest popped alive =>
    have items := Row.toList_of_pop? popped
    split
    · next checked => exact .panicked sound (.inl rfl) checked items rfl
    · next checked =>
      exact .metMarker sound alive checked items (Row.toList_unpop _ _) rfl rfl
    · next checked => exact .removed sound alive checked items rfl rfl

private theorem takes_close (q : SharedQueue α) : q.Takes .close q.close := by
  refine takes_locked .lock fun sound => ?_
  split
  · next gone => exact .refused rfl (.destroyed gone)
  · next closed => exact .closedBefore rfl sound closed
  · next opened => exact .closed sound opened rfl rfl rfl

private theorem takes_destroy (q : SharedQueue α) : q.Takes .destroy q.destroy := by
  refine takes_locked .lock fun sound => ?_
  split
  · next gone => exact .refused rfl (.destroyed gone)
  · next alive =>
    simp only [← Row.length_toList]
    exact .destroyed sound alive rfl rfl rfl

private theorem takes_peekMarker (q : SharedQueue α) : q.Takes .peekMarker q.peekMarker := by
  refine takes_locked .lock fun sound => ?_
  split
  · exact .judged rfl sound (by simp)
  · next head rest popped =>
    have items := Row.toList_of_pop? popped
    split
    · next checked => exact .panicked sound (.inr rfl) checked items rfl
    · next checked =>
      exact .peeked sound checked items (Row.toList_unpop _ _) rfl rfl

/-- Every call has one of the effects. -/
theorem effect_perform (q : SharedQueue α) (place : Monitor.Fault) (call : Call α) :
    q.Takes call (q.perform place call) := by
  cases call with
  | insert item => exact takes_insert rfl
  | insertMarker => exact takes_insert rfl
  | remove => exact takes_remove q place
  | close => exact takes_close q
  | destroy => exact takes_destroy q
  | length =>
    refine takes_locked .lock fun sound => ?_
    simp only [← Row.length_toList]
    exact .counted rfl sound
  | isEmpty => exact takes_locked .lock fun sound => .judged rfl sound (by simp)
  | isClosed => exact takes_locked .lock fun sound => .judged rfl sound (by simp)
  | isDestroyed => exact takes_locked .lock fun sound => .judged rfl sound (by simp)
  | peekMarker => exact takes_peekMarker q

omit [QueueItem α] in
private theorem locked_ne_allocation {q : SharedQueue α} {place : Monitor.Fault}
    {body : Queue α → Outcome α}
    (bodyNe : (body q.value).reply ≠ some (.refused .allocation)) :
    (q.locked place body).reply ≠ some (.refused .allocation) := by
  rw [locked_eq]
  split
  · simp [refuse, answer]
  · exact bodyNe

/-- A call that is performed has memory enough. -/
theorem perform_ne_allocation (q : SharedQueue α) (place : Monitor.Fault) (call : Call α) :
    (q.perform place call).reply ≠ some (.refused .allocation) := by
  cases call <;> refine locked_ne_allocation ?_
  case insert | insertMarker | close | destroy =>
    split <;> simp [refuse, answer]
  case remove | peekMarker =>
    split <;> try simp [refuse, answer]
    split <;> simp
  all_goals simp [answer]

variable {q next : SharedQueue α} {call : Call α} {reply : Option (Reply α)}
  {signal : Option Signal}

/-- A call that adds nothing is refused only where the queue is poisoned or destroyed. -/
theorem Refusal.gone {fault : QueueFault} (refusal : Refusal q call fault)
    (adds : call.item? = none) : q.poisoned = true ∨ q.lifecycle = .destroyed := by
  cases refusal with
  | poisoned poisoned => exact .inl poisoned
  | destroyed gone => exact .inr gone
  | closed _ adding => exact absurd adds adding
  | allocation _ adding => exact absurd adds adding

/-- Only a removal waits, and only at an open queue without items, which it leaves as it is. -/
theorem Effect.of_reply_none (effect : Effect q next call reply signal) (silent : reply = none) :
    call = .remove ∧ next = q ∧ q.lifecycle = .opened ∧ q.list = [] := by
  cases effect with
  | waits same sound opened items => exact ⟨rfl, same, opened, items⟩
  | _ => cases silent

/-- A call that adds an item is refused, or it puts the item at the end of an open queue. -/
theorem Effect.of_adds (effect : Effect q next call reply signal) {item : α}
    (adds : call.item? = some item) :
    (∃ fault, reply = some (.refused fault) ∧ Refusal q call fault) ∨
      reply = some .done ∧ q.poisoned = false ∧ q.lifecycle = .opened ∧
        next.poisoned = false ∧ next.lifecycle = .opened ∧ next.list = q.list ++ [item] := by
  cases effect with
  | refused _ refusal => exact .inl ⟨_, rfl, refusal⟩
  | inserted same sound opened stillSound stillOpened items =>
    rw [adds, Option.some.injEq] at same
    exact .inr ⟨rfl, sound, opened, stillSound, stillOpened, same ▸ items⟩
  | judged _ _ asks =>
    simp only [List.mem_cons, List.not_mem_nil, or_false] at asks
    obtain rfl | rfl | rfl | rfl := asks <;> cases adds
  | panicked _ checks =>
    obtain rfl | rfl := checks <;> cases adds
  | _ => cases adds

/-- Whoever destroys a queue is told how many items were in it. -/
theorem Effect.of_destroy (effect : Effect q next .destroy reply signal)
    (sound : q.poisoned = false) (alive : q.lifecycle ≠ .destroyed) :
    reply = some (.count q.list.length) ∧ signal = some .all := by
  cases effect with
  | destroyed => exact ⟨rfl, rfl⟩
  | refused _ refusal =>
    obtain poisoned | gone := refusal.gone rfl
    · simp [sound] at poisoned
    · exact absurd gone alive
  | inserted adds => cases adds
  | judged _ _ asks => simp at asks
  | panicked _ checks => simp at checks

/-- A queue that is not destroyed can be closed, for the first time and again. -/
theorem Effect.of_close (effect : Effect q next .close reply signal) (sound : q.poisoned = false)
    (alive : q.lifecycle ≠ .destroyed) :
    reply = some .done ∧ next.lifecycle = .closed ∧ next.list = q.list ∧ next.poisoned = false ∧
      (q.lifecycle = .closed → next = q ∧ signal = none) := by
  cases effect with
  | refused _ refusal =>
    obtain poisoned | gone := refusal.gone rfl
    · simp [sound] at poisoned
    · exact (alive gone).elim
  | inserted adds => cases adds
  | closed _ opened stillSound lifecycle items =>
    exact ⟨rfl, lifecycle, items, stillSound, fun closed => by simp [opened] at closed⟩
  | closedBefore same _ closed =>
    subst same
    exact ⟨rfl, closed, rfl, sound, fun _ => ⟨rfl, rfl⟩⟩
  | judged _ _ asks => simp at asks
  | panicked _ checks => simp at checks

/-- A queue that was to be closed is not open. -/
theorem Effect.shuts (effect : Effect q next .close reply signal) (sound : q.poisoned = false) :
    next.lifecycle ≠ .opened := by
  cases effect with
  | refused same refusal =>
    obtain poisoned | gone := refusal.gone rfl
    · simp [sound] at poisoned
    · simp [same, gone]
  | inserted adds => cases adds
  | closed _ _ _ lifecycle => simp [lifecycle]
  | closedBefore same _ closed => simp [same, closed]
  | judged _ _ asks => simp at asks
  | panicked _ checks => simp at checks

/-- Whoever changes the lifecycle notifies everybody. -/
theorem Effect.lifecycle_eq (effect : Effect q next call reply signal) :
    next.lifecycle = q.lifecycle ∨
      signal = some .all ∧ reply ≠ none ∧ next.lifecycle ≠ .opened ∧
        (call = .close ∨ call = .destroy) := by
  cases effect with
  | refused same => exact .inl (congrArg _ same)
  | inserted _ _ opened _ stillOpened => exact .inl (stillOpened.trans opened.symm)
  | waits same => exact .inl (congrArg _ same)
  | removed _ _ _ _ _ lifecycle => exact .inl lifecycle
  | metMarker _ _ _ _ _ _ lifecycle => exact .inl lifecycle
  | drained same => exact .inl (congrArg _ same)
  | closed _ _ _ lifecycle => exact .inr ⟨rfl, nofun, by simp [lifecycle], .inl rfl⟩
  | closedBefore same => exact .inl (congrArg _ same)
  | destroyed _ _ _ lifecycle => exact .inr ⟨rfl, nofun, by simp [lifecycle], .inr rfl⟩
  | counted same => exact .inl (congrArg _ same)
  | judged same => exact .inl (congrArg _ same)
  | peeked _ _ _ _ _ lifecycle => exact .inl lifecycle
  | panicked _ _ _ _ poisons => exact .inl (poisons ▸ rfl)

/-- Who is told that a marker is at the head has seen one there, and leaves it there. -/
theorem of_peekMarker {q : SharedQueue α} {place : Monitor.Fault}
    (found : (q.perform place .peekMarker).reply = some (.flag true)) :
    ∃ head item rest, QueueItem.inspect head = .seen true item ∧ q.list = head :: rest ∧
      (q.perform place .peekMarker).queue.list = item :: rest ∧
      (q.perform place .peekMarker).queue.poisoned = false := by
  change q.peekMarker.reply = _ at found
  change ∃ head item rest, _ ∧ _ ∧ q.peekMarker.queue.list = _ ∧ q.peekMarker.queue.poisoned = _
  rw [peekMarker, locked_eq] at found ⊢
  split at found
  · cases found
  · next sound =>
    rw [if_neg sound]
    cases popped : q.value.items.pop? with
    | none => simp [popped, answer] at found
    | some pair =>
      obtain ⟨head, rest⟩ := pair
      simp only [popped] at found ⊢
      cases checked : QueueItem.inspect head with
      | panicked => simp [checked] at found
      | seen isMarker item =>
        simp only [checked, Option.some.injEq, Reply.flag.injEq] at found ⊢
        subst found
        exact ⟨head, item, rest.toList, checked, Row.toList_of_pop? popped,
          Row.toList_unpop _ _, trivial⟩

omit [QueueItem α] in
private theorem locked_of_poisoned {q : SharedQueue α} (poisoned : q.poisoned = true)
    (place : Monitor.Fault) (body : Queue α → Outcome α) :
    q.locked place body = q.refuse (.poisoned place.message) := by
  rw [locked_eq, if_pos poisoned]

/-- A poisoned lock refuses every call, one that was woken in its wait and all others at once. -/
theorem perform_of_poisoned {q : SharedQueue α} (poisoned : q.poisoned = true)
    (place : Monitor.Fault) (call : Call α) :
    ∃ met : Monitor.Fault, q.perform place call = q.refuse (.poisoned met.message) := by
  cases call with
  | remove => exact ⟨place, locked_of_poisoned poisoned place _⟩
  | _ => exact ⟨.lock, locked_of_poisoned poisoned .lock _⟩

/-- Who was not woken in its wait meets a poisoned lock at once. -/
theorem perform_lock_of_poisoned {q : SharedQueue α} (poisoned : q.poisoned = true)
    (call : Call α) :
    q.perform .lock call = q.refuse (.poisoned Monitor.Fault.lock.message) := by
  cases call <;> exact locked_of_poisoned poisoned .lock _

omit [QueueItem α] in
theorem insertShort_of_poisoned {q : SharedQueue α} (poisoned : q.poisoned = true) :
    q.insertShort = q.refuse (.poisoned Monitor.Fault.lock.message) :=
  locked_of_poisoned poisoned .lock _

theorem reply_length {q : SharedQueue α} (sound : q.poisoned = false) :
    (q.perform .lock .length).reply = some (.count q.list.length) := by
  change (q.locked .lock _).reply = _
  rw [locked_eq, sound, list, Row.length_toList]
  rfl

end SensorRelay.SharedQueue
