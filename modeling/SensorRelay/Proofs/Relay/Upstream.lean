import SensorRelay.Proofs.Queue.Item
import SensorRelay.Settings.Basic
import Mathlib.Tactic.Common

/-! # From the source into the queue

Around a queue that only its consumers empty and that has memory enough, no reading is lost before
it is removed: what consumers have taken, what is queued, what the producer has in hand and what it
has yet to draw are together what there is to be kept, in order (`Upstream.kept`). The markers come
last, and the queue is closed last.
-/

namespace SensorRelay

namespace Drawn

/-- The reading that an element brings to the queue. -/
def kept? : Drawn Reading → Option Reading
  | .item r => if r.isEndOfStream then none else some r
  | .failure _ => none

/-- Does an element carry the id of the marker? -/
def isReserved : Drawn Reading → Bool
  | .item r => r.isEndOfStream
  | .failure _ => false

def isFailure : Drawn Reading → Bool
  | .item _ => false
  | .failure _ => true

/-- What is kept carries no marker's id. -/
theorem isEndOfStream_of_kept {elements : List (Drawn Reading)} {r : Reading}
    (kept : r ∈ elements.filterMap kept?) : r.isEndOfStream = false := by
  obtain ⟨element, _, brings⟩ := List.mem_filterMap.mp kept
  cases element with
  | failure => cases brings
  | item s =>
    rw [kept?] at brings
    split at brings
    · cases brings
    · next ordinary =>
      cases brings
      exact Bool.eq_false_iff.mpr ordinary

end Drawn

namespace Producer

/-- The item that a producer has in hand. -/
def hand {α : Type} (p : Producer α) : List α :=
  match p.phase with
  | .inserting item => [item]
  | _ => []

/-- Has a producer turned from its source to ending the stream? -/
def isPast {α : Type} (p : Producer α) : Bool :=
  match p.phase with
  | .drawing | .inserting _ => false
  | _ => true

/-- How far a producer has ended its stream that meets no refusal. -/
def Stage {α : Type} (p : Producer α) (lifecycle : Lifecycle) : Prop :=
  match p.phase with
  | .drawing | .inserting _ => lifecycle = .opened ∧ p.report.markers = 0
  | .marking =>
    lifecycle = .opened ∧ p.termination = .sentinel ∧ p.report.markers < p.consumers
  | .closing => lifecycle = .opened ∧ p.termination = .close ∧ p.report.markers = 0
  | .ended ending =>
    ending = .finished p.report ∧
      match p.termination with
      | .sentinel => lifecycle = .opened ∧ p.report.markers = p.consumers
      | .close => lifecycle = .closed ∧ p.report.markers = 0

theorem Stage.lifecycle {α : Type} {p : Producer α} {lifecycle : Lifecycle}
    (stage : p.Stage lifecycle) :
    lifecycle = .opened ∨ lifecycle = .closed ∧ p.isPast = true := by
  unfold Stage at stage
  split at stage
  · exact .inl stage.1
  · exact .inl stage.1
  · exact .inl stage.1
  · exact .inl stage.1
  · next phase =>
    split at stage
    · exact .inl stage.2.1
    · exact .inr ⟨stage.2.1, by simp [isPast, phase]⟩

/-- Markers come after all readings. -/
theorem Stage.isPast {α : Type} {p : Producer α} {lifecycle : Lifecycle}
    (stage : p.Stage lifecycle) (marked : p.report.markers ≠ 0) : p.isPast = true := by
  unfold Stage at stage
  split at stage
  · exact absurd stage.2 marked
  · exact absurd stage.2 marked
  all_goals simp_all [Producer.isPast]

end Producer

namespace SharedQueue

variable {α : Type} [QueueItem α] {q next : SharedQueue α} {call : Call α} {reply : Reply α}
  {signal : Option Signal}

/-- At an open queue only memory can be missing. -/
private theorem Refusal.eq_allocation {fault : QueueFault}
    (refusal : Refusal q call fault) (sound : q.poisoned = false)
    (opened : q.lifecycle = .opened) : fault = .allocation := by
  cases refusal with
  | poisoned poisoned => simp [sound] at poisoned
  | destroyed gone => simp [opened] at gone
  | closed gone => simp [opened] at gone
  | allocation => rfl

/-- An open queue takes an item, if there is memory for it. -/
theorem Effect.inserts (effect : Effect q next call (some reply) signal) {item : α}
    (adds : call.item? = some item) (sound : q.poisoned = false) (opened : q.lifecycle = .opened)
    (plenty : reply ≠ .refused .allocation) :
    reply = .done ∧ next.poisoned = false ∧ next.lifecycle = .opened ∧
      next.list = q.list ++ [item] := by
  obtain ⟨fault, refused, refusal⟩ | ⟨done, _, _, rest⟩ := effect.of_adds adds
  · rw [refusal.eq_allocation sound opened, Option.some.injEq] at refused
    exact absurd refused plenty
  · exact ⟨Option.some.inj done, rest⟩

/-- An open queue can be closed. -/
theorem Effect.closes (effect : Effect q next .close (some reply) signal)
    (sound : q.poisoned = false) (opened : q.lifecycle = .opened) :
    reply = .done ∧ next.poisoned = false ∧ next.lifecycle = .closed ∧ next.list = q.list := by
  obtain ⟨done, lifecycle, items, stillSound, _⟩ := effect.of_close sound (by simp [opened])
  exact ⟨Option.some.inj done, stillSound, lifecycle, items⟩

end SharedQueue

/-- How many markers end a stream. -/
def Settings.markers (settings : Settings) : Nat :=
  match settings.termination with
  | .sentinel => settings.consumers
  | .close => 0

/-- What a producer reports of the elements of its source if the queue refuses it nothing. -/
def ProducerReport.unrefused (settings : Settings) (elements : List (Drawn Reading)) :
    ProducerReport where
  inserted := (elements.filterMap Drawn.kept?).length
  dropped := elements.countP Drawn.isReserved
  sourceErrors := elements.countP Drawn.isFailure
  markers := settings.markers

/-- A producer and its queue on the way through a source: `elements` is all that it gives, `ahead`
is what is not at hand yet, `taken` is what has been removed from the queue, and `queued` are the
readings in it. -/
structure Upstream (settings : Settings) (elements ahead : List (Drawn Reading))
    (taken queued : List Reading) (p : Producer Reading) (q : SharedQueue Reading) : Prop where
  termination : p.termination = settings.termination
  consumers : p.consumers = settings.consumers
  sound : q.poisoned = false
  items : q.list = queued ++ List.replicate p.report.markers QueueItem.marker
  kept : taken ++ queued ++ p.hand ++ (p.source ++ ahead).filterMap Drawn.kept? =
    elements.filterMap Drawn.kept?
  inserted : p.report.inserted = taken.length + queued.length
  dropped : p.report.dropped + (p.source ++ ahead).countP Drawn.isReserved =
    elements.countP Drawn.isReserved
  failures : p.report.sourceErrors + (p.source ++ ahead).countP Drawn.isFailure =
    elements.countP Drawn.isFailure
  stage : p.Stage q.lifecycle
  past : p.isPast → p.source ++ ahead = []

namespace Upstream

variable {settings : Settings} {elements ahead : List (Drawn Reading)}
  {taken queued : List Reading} {p : Producer Reading} {q next : SharedQueue Reading}

/-- No reading in the queue is a marker. -/
theorem ordinary (up : Upstream settings elements ahead taken queued p q) {r : Reading}
    (listed : r ∈ queued) : r.isEndOfStream = false := by
  have kept : r ∈ elements.filterMap Drawn.kept? := by
    rw [← up.kept]
    simp [listed]
  exact Drawn.isEndOfStream_of_kept kept

private theorem wrapUp (someone : 1 ≤ settings.consumers) (phase : p.phase = .drawing)
    (up : Upstream settings elements ahead taken queued p q) (dry : p.source ++ ahead = []) :
    Upstream settings elements ahead taken queued p.wrapUp.1 q := by
  have kept := up.kept
  have stage := up.stage
  simp only [Producer.hand, phase] at kept
  simp only [Producer.Stage, phase] at stage
  have waiting : 0 < p.consumers := up.consumers ▸ someone
  unfold Producer.wrapUp
  split
  · next close => exact { up with kept, stage := ⟨stage.1, close, stage.2⟩, past := fun _ => dry }
  · omega
  · next sentinel many =>
    have stageNext : ({ p with phase := .marking } : Producer Reading).Stage q.lifecycle :=
      ⟨stage.1, sentinel, by simp only [stage.2, waiting]⟩
    exact { up with kept, stage := stageNext, past := fun _ => dry }

/-- A draw takes an element from those that are left, or finds that none are. -/
theorem draw (someone : 1 ≤ settings.consumers) (phase : p.phase = .drawing)
    (fed : p.source = [] → ahead = []) (up : Upstream settings elements ahead taken queued p q) :
    Upstream settings elements ahead taken queued p.draw.1 q := by
  have kept := up.kept
  have dropped := up.dropped
  have failures := up.failures
  have stage := up.stage
  simp only [Producer.hand, phase] at kept
  simp only [Producer.Stage, phase] at stage
  unfold Producer.draw
  split
  · next source => exact up.wrapUp someone phase (by rw [source, fed source]; rfl)
  · next text rest source =>
    rw [source, List.cons_append] at kept dropped failures
    rw [List.filterMap_cons_none rfl] at kept
    refine { up with kept := ?_, dropped := ?_, failures := ?_, stage := ?_, past := ?_ }
    · simpa only [Producer.hand, phase] using kept
    · exact dropped
    · rw [List.countP_cons_of_pos rfl] at failures
      simp only
      omega
    · simpa only [Producer.Stage, phase] using stage
    · simp [Producer.isPast, phase]
  · next item rest source =>
    rw [source, List.cons_append] at kept dropped failures
    split
    · next checked => cases checked
    · next seen checked =>
      obtain ⟨reserved, rfl⟩ := Inspection.seen.inj (checked : Inspection.seen _ item = _)
      rw [List.filterMap_cons_none (by rw [Drawn.kept?, if_pos reserved])] at kept
      refine { up with kept := ?_, dropped := ?_, failures := ?_, stage := ?_, past := ?_ }
      · simpa only [Producer.hand, phase] using kept
      · have isReserved : Drawn.isReserved (.item item) = true := reserved
        rw [List.countP_cons_of_pos isReserved] at dropped
        simp only
        omega
      · exact failures
      · simpa only [Producer.Stage, phase] using stage
      · simp [Producer.isPast, phase]
    · next seen checked =>
      obtain ⟨ordinary, rfl⟩ := Inspection.seen.inj (checked : Inspection.seen _ item = _)
      have isReading : Drawn.kept? (.item item) = some item := by simp [Drawn.kept?, ordinary]
      have isOrdinary : ¬Drawn.isReserved (.item item) = true := by
        simp [Drawn.isReserved, ordinary]
      rw [List.filterMap_cons_some isReading] at kept
      rw [List.countP_cons_of_neg isOrdinary] at dropped
      refine { up with kept := ?_, dropped, failures, stage, past := ?_ }
      · simpa only [Producer.hand, List.append_nil, List.append_assoc, List.singleton_append]
          using kept
      · simp [Producer.isPast]

private theorem afterInsert {item : Reading} (phase : p.phase = .inserting item)
    (sound : next.poisoned = false) (opened : next.lifecycle = .opened)
    (items : next.list = q.list ++ [item])
    (up : Upstream settings elements ahead taken queued p q) :
    Upstream settings elements ahead taken (queued ++ [item]) (p.afterInsert .done).1 next := by
  have kept := up.kept
  have inserted := up.inserted
  have stage := up.stage
  simp only [Producer.hand, phase] at kept
  simp only [Producer.Stage, phase] at stage
  refine { up with sound, items := ?_, kept := ?_, inserted := ?_, stage := ?_, past := ?_ }
  · simp [Producer.afterInsert, items, up.items, stage.2]
  · simpa [Producer.afterInsert, Producer.hand] using kept
  · simp only [Producer.afterInsert, List.length_append, List.length_singleton]
    omega
  · exact ⟨opened, stage.2⟩
  · simp [Producer.afterInsert, Producer.isPast]

private theorem afterMarker (phase : p.phase = .marking) (sound : next.poisoned = false)
    (opened : next.lifecycle = .opened) (items : next.list = q.list ++ [QueueItem.marker])
    (up : Upstream settings elements ahead taken queued p q) :
    Upstream settings elements ahead taken queued (p.afterMarker .done).1 next ∧
      (p.afterMarker .done).1.isPast := by
  have kept := up.kept
  have stage := up.stage
  have dry := up.past (by simp [Producer.isPast, phase])
  simp only [Producer.hand, phase] at kept
  simp only [Producer.Stage, phase] at stage
  obtain ⟨_, sentinel, fewer⟩ := stage
  have more : next.list =
      queued ++ List.replicate (p.report.markers + 1) QueueItem.marker := by
    rw [items, up.items, List.replicate_succ', List.append_assoc]
  unfold Producer.afterMarker
  dsimp only
  split
  · next fewerStill =>
    refine ⟨{ up with sound, items := more, kept := ?_, stage := ?_, past := fun _ => dry }, ?_⟩
    · simpa only [Producer.hand, phase] using kept
    · simpa only [Producer.Stage, phase] using ⟨opened, sentinel, fewerStill⟩
    · simp [Producer.isPast, phase]
  · next enough =>
    have all : p.report.markers + 1 = p.consumers := by omega
    refine ⟨{ up with sound, items := more, kept, stage := ?_, past := fun _ => dry }, rfl⟩
    refine ⟨rfl, ?_⟩
    simp only [Producer.finish, sentinel]
    exact ⟨opened, all⟩

private theorem afterClose (phase : p.phase = .closing) (sound : next.poisoned = false)
    (closed : next.lifecycle = .closed) (items : next.list = q.list)
    (up : Upstream settings elements ahead taken queued p q) :
    Upstream settings elements ahead taken queued (p.afterClose .done).1 next := by
  have kept := up.kept
  have stage := up.stage
  have dry := up.past (by simp [Producer.isPast, phase])
  simp only [Producer.hand, phase] at kept
  simp only [Producer.Stage, phase] at stage
  obtain ⟨_, close, nothing⟩ := stage
  refine { up with sound, items := items.trans up.items, kept, stage := ?_, past := fun _ => dry }
  refine ⟨rfl, ?_⟩
  simp only [Producer.afterClose, Producer.finish, close]
  exact ⟨closed, nothing⟩

/-- A call of the producer is answered as the stream has it. -/
theorem resume {call : Call Reading} {reply : Reply Reading} {signal : Option Signal}
    (effect : SharedQueue.Effect q next call (some reply) signal) (calls : p.call? = some call)
    (plenty : reply ≠ .refused .allocation)
    (up : Upstream settings elements ahead taken queued p q) :
    ∃ queuedNext, Upstream settings elements ahead taken queuedNext (p.resume reply).1 next ∧
      (p.isPast → (p.resume reply).1.isPast ∧ queuedNext = queued) := by
  have stage := up.stage
  cases phase : p.phase with
  | drawing => simp [Producer.call?, phase] at calls
  | ended ending => simp [Producer.call?, phase] at calls
  | inserting item =>
    simp only [Producer.Stage, phase] at stage
    simp only [Producer.call?, phase, Option.some.injEq] at calls
    subst calls
    obtain ⟨rfl, sound, opened, items⟩ := effect.inserts rfl up.sound stage.1 plenty
    have step : p.resume .done = p.afterInsert .done := by simp only [Producer.resume, phase]
    rw [step]
    exact ⟨_, up.afterInsert phase sound opened items, by simp [Producer.isPast, phase]⟩
  | marking =>
    simp only [Producer.Stage, phase] at stage
    simp only [Producer.call?, phase, Option.some.injEq] at calls
    subst calls
    obtain ⟨rfl, sound, opened, items⟩ := effect.inserts rfl up.sound stage.1 plenty
    have step : p.resume .done = p.afterMarker .done := by simp only [Producer.resume, phase]
    rw [step]
    obtain ⟨after, past⟩ := up.afterMarker phase sound opened items
    exact ⟨queued, after, fun _ => ⟨past, rfl⟩⟩
  | closing =>
    simp only [Producer.Stage, phase] at stage
    simp only [Producer.call?, phase, Option.some.injEq] at calls
    subst calls
    obtain ⟨rfl, sound, closed, items⟩ := effect.closes up.sound stage.1
    have step : p.resume .done = p.afterClose .done := by simp only [Producer.resume, phase]
    rw [step]
    exact ⟨queued, up.afterClose phase sound closed items, fun _ => ⟨rfl, rfl⟩⟩

/-- Nobody destroys the queue. -/
theorem alive (up : Upstream settings elements ahead taken queued p q) :
    q.lifecycle ≠ .destroyed := by
  obtain opened | ⟨closed, _⟩ := up.stage.lifecycle
  · simp [opened]
  · simp [closed]

/-- An item at the head that is no marker is the first reading. -/
private theorem removeReading {r : Reading} (ordinary : r.isEndOfStream = false)
    (items : q.list = r :: next.list) (sound : next.poisoned = false)
    (lifecycle : next.lifecycle = q.lifecycle)
    (up : Upstream settings elements ahead taken queued p q) :
    ∃ rest, queued = r :: rest ∧
      Upstream settings elements ahead (taken ++ [r]) rest p next := by
  have whole := up.items
  rw [items] at whole
  cases queued with
  | nil =>
    have isMarker : r = QueueItem.marker := List.eq_of_mem_replicate (whole ▸ List.mem_cons_self)
    rw [isMarker] at ordinary
    cases ordinary
  | cons first rest =>
    obtain ⟨rfl, after⟩ := List.cons.inj whole
    refine ⟨rest, rfl, { up with sound, items := after, kept := ?_, inserted := ?_, stage := ?_ }⟩
    · rw [← up.kept]
      simp
    · rw [up.inserted]
      simp
      omega
    · exact lifecycle ▸ up.stage

/-- A marker is at the head only after all readings. -/
private theorem meetMarker {r : Reading} {rest : List Reading} (reserved : r.isEndOfStream = true)
    (items : q.list = r :: rest) (itemsAfter : next.list = r :: rest)
    (sound : next.poisoned = false) (lifecycle : next.lifecycle = q.lifecycle)
    (up : Upstream settings elements ahead taken queued p q) :
    queued = [] ∧ p.isPast ∧ Upstream settings elements ahead taken queued p next := by
  have whole := up.items
  rw [items] at whole
  have nothing : queued = [] := by
    cases queued with
    | nil => rfl
    | cons first others =>
      obtain ⟨rfl, _⟩ := List.cons.inj whole
      have ordinary := up.ordinary List.mem_cons_self
      rw [reserved] at ordinary
      cases ordinary
  have marked : p.report.markers ≠ 0 := by
    intro unmarked
    rw [nothing, unmarked] at whole
    cases whole
  exact ⟨nothing, up.stage.isPast marked,
    { up with sound, items := itemsAfter.trans whole, stage := lifecycle ▸ up.stage }⟩

/-- A removal takes the first reading, or meets the end of the stream. -/
theorem remove {reply : Reply Reading} {signal : Option Signal}
    (effect : SharedQueue.Effect q next .remove (some reply) signal)
    (up : Upstream settings elements ahead taken queued p q) :
    (∃ r rest, reply = .item r ∧ queued = r :: rest ∧
      Upstream settings elements ahead (taken ++ [r]) rest p next) ∨
    (reply = .endOfStream ∧ queued = [] ∧ p.isPast ∧
      Upstream settings elements ahead taken queued p next) := by
  cases effect with
  | refused _ refusal =>
    obtain poisoned | gone := refusal.gone rfl
    · simp [up.sound] at poisoned
    · exact absurd gone up.alive
  | inserted adds => cases adds
  | @removed head item _ _ checked items sound lifecycle =>
    obtain ⟨ordinary, rfl⟩ := Inspection.seen.inj (checked : Inspection.seen _ head = _)
    obtain ⟨rest, queued, after⟩ := up.removeReading ordinary items sound lifecycle
    exact .inl ⟨head, rest, rfl, queued, after⟩
  | @metMarker head item rest _ _ checked items itemsAfter sound lifecycle =>
    obtain ⟨reserved, rfl⟩ := Inspection.seen.inj (checked : Inspection.seen _ head = _)
    exact .inr ⟨rfl, up.meetMarker reserved items itemsAfter sound lifecycle⟩
  | drained same _ closed items =>
    obtain opened | ⟨_, past⟩ := up.stage.lifecycle
    · simp [opened] at closed
    · have whole := up.items
      rw [items] at whole
      exact .inr ⟨rfl, (List.append_eq_nil_iff.mp whole.symm).1, past, same ▸ up⟩
  | judged _ _ asks => simp at asks
  | panicked _ _ checked => cases checked

/-- A producer that has ended has a report, and nothing is left for it to draw. -/
theorem ended {ending : Ending ProducerReport} (phase : p.phase = .ended ending)
    (up : Upstream settings elements ahead taken queued p q) :
    ending = .finished (.unrefused settings elements) ∧
      p.report = .unrefused settings elements ∧
      taken ++ queued = elements.filterMap Drawn.kept? := by
  have stage := up.stage
  have kept := up.kept
  have inserted := up.inserted
  have dropped := up.dropped
  have failures := up.failures
  have dry := up.past (by simp [Producer.isPast, phase])
  simp only [Producer.Stage, phase, up.termination, up.consumers] at stage
  obtain ⟨rfl, way⟩ := stage
  simp only [Producer.hand, phase, dry, List.append_nil, List.filterMap_nil] at kept
  rw [← List.length_append, kept] at inserted
  rw [dry, List.countP_nil, Nat.add_zero] at dropped failures
  have markers : p.report.markers = settings.markers := by
    unfold Settings.markers
    split at way
    · exact way.2
    · exact way.2
  have report : p.report = .unrefused settings elements := by
    rw [ProducerReport.unrefused, ← inserted, ← dropped, ← failures, ← markers]
  exact ⟨by rw [report], report, kept⟩

end Upstream

end SensorRelay
