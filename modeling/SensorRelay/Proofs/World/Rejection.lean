import SensorRelay.Proofs.World.Lifecycle

/-! # A queue that has refused an item refuses all of them

A queue that refuses an item for any reason but memory is poisoned or not open, and both are for
good (`SharedQueue.Shut`). So in every run in which memory is never missing, all insertions that
come after a refused one are refused too, whoever makes them (`rejected_for_good`).
-/

namespace SensorRelay

variable {σ α : Type}

namespace Visit

variable [QueueItem α] {visit : Visit α}

/-- Was an insertion refused? -/
def isRejected (visit : Visit α) : Bool :=
  match visit.call.item?, visit.reply with
  | some _, some (.refused _) => true
  | _, _ => false

theorem isRejected_of_refused {fault : QueueFault}
    (adds : visit.call.item?.isSome) (refused : visit.reply = some (.refused fault)) :
    visit.isRejected = true := by
  obtain ⟨item, adds⟩ := Option.isSome_iff_exists.mp adds
  simp only [isRejected, adds, refused]

theorem refused_of_isRejected (rejected : visit.isRejected = true) :
    ∃ item fault, visit.call.item? = some item ∧ visit.reply = some (.refused fault) := by
  unfold isRejected at rejected
  split at rejected
  · next item fault adds refused => exact ⟨item, fault, adds, refused⟩
  · cases rejected

end Visit

namespace SharedQueue

/-- A queue that takes no more items. -/
def Shut (q : SharedQueue α) : Prop := q.poisoned = true ∨ q.lifecycle ≠ .opened

/-- Why a queue cannot be closed. -/
inductive Ruin (q : SharedQueue α) : QueueFault → Prop
  | destroyed (gone : q.lifecycle = .destroyed) : Ruin q .destroyed
  | poisoned {text : String} (poisoned : q.poisoned = true) : Ruin q (.poisoned text)

variable [QueueItem α] {q next : SharedQueue α} {call : Call α} {reply : Option (Reply α)}
  {signal : Option Signal}

theorem Refusal.shut {fault : QueueFault} (refusal : Refusal q call fault)
    (plenty : fault ≠ .allocation) : q.Shut := by
  cases refusal with
  | poisoned poisoned => exact .inl poisoned
  | destroyed gone => exact .inr (by simp [gone])
  | closed gone => exact .inr (by simp [gone])
  | allocation => exact absurd rfl plenty

/-- Nothing is done to a poisoned queue. -/
theorem Effect.of_poisoned (effect : Effect q next call reply signal)
    (poisoned : q.poisoned = true) : next = q := by
  cases effect with
  | refused same => exact same
  | _ => simp_all

theorem Effect.staysShut (effect : Effect q next call reply signal) (shut : q.Shut) :
    next.Shut := by
  obtain poisoned | gone := shut
  · exact .inl (effect.of_poisoned poisoned ▸ poisoned)
  · exact .inr (mt effect.onward.wasOpened gone)

theorem Effect.staysRuined {fault : QueueFault} (effect : Effect q next call reply signal)
    (ruin : q.Ruin fault) : next.Ruin fault := by
  cases ruin with
  | destroyed gone => exact .destroyed (effect.onward.staysDestroyed gone)
  | poisoned poisoned => exact .poisoned (effect.of_poisoned poisoned ▸ poisoned)

/-- A queue that is shut refuses every item. -/
theorem Effect.rejects (effect : Effect q next call reply signal) (shut : q.Shut)
    (adds : call.item?.isSome) : ∃ fault, reply = some (.refused fault) := by
  obtain ⟨item, adds⟩ := Option.isSome_iff_exists.mp adds
  obtain ⟨fault, refused, _⟩ | ⟨_, sound, opened, _⟩ := effect.of_adds adds
  · exact ⟨fault, refused⟩
  · obtain poisoned | gone := shut
    · simp [sound] at poisoned
    · exact absurd opened gone

/-- Closing a queue leaves it closed, unless it is ruined. -/
theorem Effect.of_closing (effect : Effect q next .close reply signal) :
    (∃ fault, reply = some (.refused fault) ∧ q.Ruin fault) ∨
      reply = some .done ∧ next.lifecycle ≠ .opened := by
  cases effect with
  | refused _ refusal =>
    cases refusal with
    | poisoned poisoned => exact .inl ⟨_, rfl, .poisoned poisoned⟩
    | destroyed gone => exact .inl ⟨_, rfl, .destroyed gone⟩
    | closed _ adds => exact absurd rfl adds
    | allocation _ adds => exact absurd rfl adds
  | inserted adds => cases adds
  | closed _ _ _ lifecycle => exact .inr ⟨rfl, by simp [lifecycle]⟩
  | closedBefore same _ closed => exact .inr ⟨rfl, by simp [same, closed]⟩
  | judged _ _ asks => simp at asks
  | panicked _ checks => simp at checks

end SharedQueue

namespace World

variable [QueueItem α] [Sink σ α] {w next last : World σ α} {event : Event}

/-- An insertion that is refused, though memory is not missing, finds the queue shut; and a queue
that is shut refuses every insertion and stays shut. -/
private theorem rejected_of_next? (supplied : ∀ index, event ≠ .shortage index)
    (happens : w.next? event = some next) :
    (w.queue.Shut → next.queue.Shut) ∧ ∀ seen, w.visit? event = some seen →
      (seen.isRejected = true → next.queue.Shut) ∧
      (w.queue.Shut → seen.call.item?.isSome → seen.isRejected = true) := by
  obtain ⟨silent, same⟩ | ⟨index, call, reply, signal, visited, effect⟩ :=
    (move_of_next? happens).effect
  · rw [same, silent]
    exact ⟨id, nofun⟩
  · refine ⟨effect.staysShut, fun seen here => ?_⟩
    have plenty := ne_allocation_of_supplied supplied here
    rw [visited, Option.some.injEq] at here
    subst here
    constructor
    · intro rejected
      obtain ⟨item, fault, adds, refused⟩ := Visit.refused_of_isRejected rejected
      obtain ⟨_, again, refusal⟩ | ⟨done, _⟩ := effect.of_adds adds
      · have other : fault ≠ .allocation := by
          rintro rfl
          exact plenty refused
        cases refused.symm.trans again
        exact effect.staysShut (refusal.shut other)
      · cases refused.symm.trans done
    · intro shut adds
      obtain ⟨fault, refused⟩ := effect.rejects shut adds
      exact Visit.isRejected_of_refused adds refused

/-- If memory is never missing: once an insertion has been refused all later ones are, whoever makes
them. -/
theorem rejected_for_good {events : List Event} (supplied : ∀ index, .shortage index ∉ events)
    (replayed : w.replay? events = some last) :
    (w.queue.Shut → ∀ seen ∈ w.visits events, seen.call.item?.isSome → seen.isRejected = true) ∧
    (w.visits events).Pairwise fun earlier later =>
      earlier.isRejected = true → later.call.item?.isSome → later.isRejected = true := by
  induction events generalizing w with
  | nil => exact ⟨nofun, .nil⟩
  | cons event rest ih =>
    obtain ⟨next, happens, later⟩ := Option.bind_eq_some_iff.mp replayed
    obtain ⟨staysShut, rejected⟩ := rejected_of_next? (fun index same =>
      supplied index (same ▸ List.mem_cons_self)) happens
    obtain ⟨refusesLater, pairwise⟩ := ih (fun index listed =>
      supplied index (List.mem_cons_of_mem _ listed)) later
    rw [visits_cons happens]
    cases visited : w.visit? event with
    | none => exact ⟨fun shut => refusesLater (staysShut shut), pairwise⟩
    | some seen =>
      obtain ⟨shuts, refuses⟩ := rejected seen visited
      refine ⟨fun shut other listed => ?_, List.pairwise_cons.mpr ⟨fun other listed => ?_, pairwise⟩⟩
      · obtain rfl | listed := List.mem_cons.mp listed
        · exact refuses shut
        · exact refusesLater (staysShut shut) other listed
      · intro rejectedFirst
        exact refusesLater (shuts rejectedFirst) other listed

end World

end SensorRelay
