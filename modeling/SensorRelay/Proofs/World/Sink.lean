import SensorRelay.Relay.History
import Mathlib.Data.List.Basic

/-! # What a sink is offered

Items reach a sink one after the other, whoever writes them, and each write goes on with the state
that the last one has left. A panic poisons the lock of the sink, and then no item reaches it any
more. So what a sink has become is told by the items that were offered to it until then.
-/

namespace SensorRelay

variable {σ α : Type}

namespace Verdict

/-- Was the item rejected? -/
def isRejected : Verdict → Bool
  | .rejected _ => true
  | _ => false

theorem fate_ne_barred (verdict : Verdict) : verdict.fate ≠ .barred := by
  cases verdict <;> simp [fate]

theorem fate_eq_panicked_iff {verdict : Verdict} :
    verdict.fate = .panicked ↔ verdict = .panicked := by
  cases verdict <;> simp [fate]

end Verdict

theorem Monitor.lock_of_poisoned {m : Monitor α} (poisoned : m.poisoned = true) :
    m.lock = .error .lock := by
  simp [lock, lockAt, poisoned]

theorem Monitor.lock_of_sound {m : Monitor α} (sound : m.poisoned = false) :
    m.lock = .ok m.value := by
  simp [lock, lockAt, sound]

namespace Sink

variable [Sink σ α]

/-- What a sink makes of some items, one after the other, and what it is then. -/
def offer (state : σ) : List α → List Verdict × σ
  | [] => ([], state)
  | item :: rest =>
    let written := Sink.write state item
    let later := offer written.2 rest
    (written.1 :: later.1, later.2)

variable (σ α) in
/-- A sink takes an item or rejects it, and never panics. -/
def Composed : Prop := ∀ (state : σ) (item : α), (Sink.write state item).1 ≠ .panicked

theorem ne_panicked_of_mem_offer (composed : Composed σ α) {state : σ} {items : List α}
    {verdict : Verdict} (listed : verdict ∈ (offer state items).1) : verdict ≠ .panicked := by
  induction items generalizing state with
  | nil => cases listed
  | cons item rest ih =>
    obtain rfl | later := List.mem_cons.mp listed
    · exact composed state item
    · exact ih later

/-- Every item that is offered is taken or rejected. -/
theorem countP_offer (composed : Composed σ α) (state : σ) (items : List α) :
    ((offer state items).1.countP (· == .taken)) +
      (offer state items).1.countP Verdict.isRejected = items.length := by
  induction items generalizing state with
  | nil => rfl
  | cons item rest ih =>
    have later := ih (Sink.write state item).2
    have answered := composed state item
    simp only [offer, List.countP_cons, List.length_cons]
    cases verdict : (Sink.write state item).1 with
    | taken =>
      simp only [Verdict.isRejected, beq_self_eq_true, if_true, Bool.false_eq_true, if_false]
      omega
    | rejected text =>
      simp only [Verdict.isRejected, reduceCtorEq, beq_iff_eq, if_true, if_false]
      omega
    | panicked => exact absurd verdict answered

/-- The deliveries whose items reach the sink, and are not barred from it. -/
def reaching (deliveries : List (Delivery α)) : List (Delivery α) :=
  deliveries.filter fun delivery => delivery.fate != .barred

/-- What some deliveries make of a sink. It is offered the items that reach it, one after the other,
and each of these deliveries has the fate that the sink decides on. A panic poisons the sink, and
nothing else does; only a poisoned sink bars an item, and then it bars them all. -/
structure Offered (before : Monitor σ) (deliveries : List (Delivery α)) (after : Monitor σ) :
    Prop where
  value : after.value = (offer before.value ((reaching deliveries).map Delivery.item)).2
  fates : (reaching deliveries).map Delivery.fate =
    (offer before.value ((reaching deliveries).map Delivery.item)).1.map Verdict.fate
  poisoned : after.poisoned = true ↔
    before.poisoned = true ∨ ∃ delivery ∈ deliveries, delivery.fate = .panicked
  bars : before.poisoned = true → ∀ delivery ∈ deliveries, delivery.fate = .barred
  barred : (∃ delivery ∈ deliveries, delivery.fate = .barred) → after.poisoned = true

namespace Offered

variable {before after : Monitor σ} {deliveries : List (Delivery α)} {item : α}

theorem refl (sink : Monitor σ) : Offered sink ([] : List (Delivery α)) sink where
  value := rfl
  fates := rfl
  poisoned := by simp
  bars _ := nofun
  barred := by simp

/-- A poisoned sink stays as it is. -/
theorem same (offered : Offered before deliveries after) (poisoned : before.poisoned = true) :
    after = before := by
  have nothing : reaching deliveries = [] := by
    refine List.filter_eq_nil_iff.mpr fun delivery listed => ?_
    simp [offered.bars poisoned delivery listed]
  have value := offered.value
  rw [nothing] at value
  have still : after.poisoned = true := offered.poisoned.mpr (.inl poisoned)
  obtain ⟨_, _⟩ := before
  obtain ⟨_, _⟩ := after
  cases value
  cases poisoned
  cases still
  rfl

/-- A sink that never panics is offered all items, and stays sound. -/
theorem of_composed (composed : Composed σ α) (sound : before.poisoned = false)
    (offered : Offered before deliveries after) :
    after = ⟨(offer before.value (deliveries.map Delivery.item)).2, false⟩ := by
  have calm : ∀ delivery ∈ deliveries, delivery.fate ≠ .panicked := by
    intro delivery listed panicked
    have reached : delivery ∈ reaching deliveries :=
      List.mem_filter.mpr ⟨listed, by rw [panicked]; rfl⟩
    have decided := List.mem_map_of_mem (f := Delivery.fate) reached
    rw [offered.fates, panicked] at decided
    obtain ⟨verdict, among, same⟩ := List.mem_map.mp decided
    exact ne_panicked_of_mem_offer composed among (Verdict.fate_eq_panicked_iff.mp same)
  have still : after.poisoned = false := by
    refine Bool.eq_false_iff.mpr fun poisoned => ?_
    obtain already | ⟨delivery, listed, panicked⟩ := offered.poisoned.mp poisoned
    · simp [sound] at already
    · exact calm delivery listed panicked
  have all : reaching deliveries = deliveries := by
    refine List.filter_eq_self.mpr fun delivery listed => bne_iff_ne.mpr fun barred => ?_
    have poisoned := offered.barred ⟨delivery, listed, barred⟩
    simp [still] at poisoned
  have value := offered.value
  rw [all] at value
  rw [← value, ← still]

/-- One item more in front, at a sink that is sound. -/
theorem cons_of_sound (sound : before.poisoned = false) (index : Nat)
    (offered : Offered ⟨(Sink.write before.value item).2,
      (Sink.write before.value item).1 == .panicked⟩ deliveries after) :
    Offered before (⟨index, item, (Sink.write before.value item).1.fate⟩ :: deliveries) after := by
  have reached := (Sink.write before.value item).1.fate_ne_barred
  have more : reaching (⟨index, item, (Sink.write before.value item).1.fate⟩ :: deliveries) =
      ⟨index, item, (Sink.write before.value item).1.fate⟩ :: reaching deliveries :=
    List.filter_cons_of_pos (bne_iff_ne.mpr reached)
  refine {
    value := ?value
    fates := ?fates
    poisoned := ?poisoned
    bars := fun poisoned => ?bars
    barred := ?barred }
  case value =>
    rw [more]
    exact offered.value
  case fates =>
    rw [more]
    exact congrArg _ offered.fates
  case poisoned =>
    rw [offered.poisoned, sound, List.exists_mem_cons_iff, beq_iff_eq,
      ← Verdict.fate_eq_panicked_iff]
    simp
  case bars =>
    rw [sound] at poisoned
    cases poisoned
  case barred =>
    rw [List.exists_mem_cons_iff]
    exact fun barred => offered.barred (barred.resolve_left reached)

/-- One item more in front, at a sink that is poisoned. -/
theorem cons_of_poisoned (poisoned : before.poisoned = true) (index : Nat)
    (offered : Offered before deliveries after) :
    Offered before (⟨index, item, .barred⟩ :: deliveries) after := by
  have same : reaching (⟨index, item, .barred⟩ :: deliveries) = reaching deliveries :=
    List.filter_cons_of_neg (by simp)
  refine {
    value := same ▸ offered.value
    fates := same ▸ offered.fates
    poisoned := ?poisoned
    bars := fun poisoned => List.forall_mem_cons.mpr ⟨rfl, offered.bars poisoned⟩
    barred := fun _ => offered.poisoned.mpr (.inl poisoned) }
  case poisoned =>
    rw [offered.poisoned, List.exists_mem_cons_iff]
    simp

end Offered

end Sink

end SensorRelay
