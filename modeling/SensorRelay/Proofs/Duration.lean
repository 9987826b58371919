import SensorRelay.Duration

/-! # Spans in words

A machine holds a span in two words: its whole seconds, and the nanoseconds beyond them. The product
of a span with a number is put together from those of the two words, and what the nanoseconds make
beyond a second is carried over. `times?_words` compares this with the product of the span.
-/

namespace SensorRelay.Duration

section Arithmetic

/-- A product of 64 bits, unless it overflows. -/
def product? (a b : UInt64) : Option UInt64 :=
  if a.toBitVec.umulOverflow b.toBitVec then none else some (a * b)

/-- A sum of 64 bits, unless it overflows. -/
def sum? (a b : UInt64) : Option UInt64 :=
  if a.toBitVec.uaddOverflow b.toBitVec then none else some (a + b)

variable (a b c : UInt64)

theorem product?_eq :
    product? a b =
      if a.toNat * b.toNat < 2 ^ 64 then some (.ofNat (a.toNat * b.toNat)) else none := by
  unfold product? BitVec.umulOverflow
  simp only [UInt64.toNat_toBitVec, ge_iff_le, decide_eq_true_eq, ← Nat.not_lt, ite_not]
  rw [UInt64.ofNat_mul, UInt64.ofNat_toNat, UInt64.ofNat_toNat]

theorem sum?_eq :
    sum? a b =
      if a.toNat + b.toNat < 2 ^ 64 then some (.ofNat (a.toNat + b.toNat)) else none := by
  unfold sum? BitVec.uaddOverflow
  simp only [UInt64.toNat_toBitVec, ge_iff_le, decide_eq_true_eq, ← Nat.not_lt, ite_not]
  rw [UInt64.ofNat_add, UInt64.ofNat_toNat, UInt64.ofNat_toNat]

/-- Whichever step overflows, the result would have been too large. -/
theorem bind_product?_sum? :
    (product? a b).bind (sum? · c) =
      if a.toNat * b.toNat + c.toNat < 2 ^ 64 then some (.ofNat (a.toNat * b.toNat + c.toNat))
      else none := by
  rw [product?_eq]
  split
  · next fits =>
    rw [Option.bind_some, sum?_eq, UInt64.toNat_ofNat_of_lt' fits]
  · next large =>
    rw [Option.bind_none, if_neg]
    omega

end Arithmetic

/-- A span in words. -/
structure Words where
  seconds : UInt64
  nanoseconds : UInt32
deriving DecidableEq

def words (d : Duration) : Words := ⟨.ofNat d.seconds, .ofNat d.subsecond⟩

namespace Words

def longest : Words := ⟨0xffffffffffffffff, 999999999⟩

/-- A product with a number of 32 bits. The longest span stands for one whose seconds overflow. The
nanoseconds must not: there is no product then. -/
def times? (d : Words) (factor : UInt32) : Option Words := do
  let total ← product? d.nanoseconds.toUInt64 factor.toUInt64
  let seconds := (product? d.seconds factor.toUInt64).bind (sum? · (total / 1000000000))
  return seconds.elim longest fun seconds => ⟨seconds, (total % 1000000000).toUInt32⟩

/-- Seconds come first when spans are compared. -/
def shorter (d e : Words) : Words :=
  if d.seconds < e.seconds ∨ d.seconds = e.seconds ∧ d.nanoseconds ≤ e.nanoseconds then d else e

end Words

section Span

variable (d e : Duration)

theorem nanoseconds_shorter :
    (d.shorter e).nanoseconds = min d.nanoseconds e.nanoseconds := by
  unfold shorter
  split <;> omega

theorem seconds_lt : d.seconds < 2 ^ 64 := by
  have := d.le_longest
  unfold seconds
  omega

theorem subsecond_lt : d.subsecond < 10 ^ 9 := Nat.mod_lt _ (by decide)

theorem nanoseconds_eq : d.nanoseconds = d.seconds * 10 ^ 9 + d.subsecond :=
  (Nat.div_add_mod' d.nanoseconds (10 ^ 9)).symm

theorem toNat_seconds : d.words.seconds.toNat = d.seconds :=
  UInt64.toNat_ofNat_of_lt' d.seconds_lt

theorem toNat_subsecond : d.words.nanoseconds.toNat = d.subsecond :=
  UInt32.toNat_ofNat_of_lt' (Nat.lt_trans d.subsecond_lt (by decide))

/-- A span is known by its words. -/
theorem words_eq {d : Duration} {seconds subsecond : Nat} (small : subsecond < 10 ^ 9)
    (parts : d.nanoseconds = seconds * 10 ^ 9 + subsecond) :
    d.words = ⟨.ofNat seconds, .ofNat subsecond⟩ := by
  have whole : d.seconds = seconds := by
    unfold Duration.seconds
    omega
  have left : d.subsecond = subsecond := by
    unfold Duration.subsecond
    omega
  rw [words, whole, left]

/-- A product is the longest span if its seconds do not fit. -/
theorem words_scale {d : Duration} {factor seconds subsecond : Nat} (small : subsecond < 10 ^ 9)
    (parts : d.nanoseconds * factor = seconds * 10 ^ 9 + subsecond) :
    (d.scale factor).words =
      if seconds < 2 ^ 64 then ⟨.ofNat seconds, .ofNat subsecond⟩ else Words.longest := by
  have cut : (d.scale factor).nanoseconds = min (seconds * 10 ^ 9 + subsecond) longest := by
    rw [← parts]
    rfl
  unfold Duration.longest at cut
  split
  · next fits =>
    rw [Nat.min_eq_left (by omega)] at cut
    exact words_eq small cut
  · next large =>
    have whole : (d.scale factor).nanoseconds = (2 ^ 64 - 1) * 10 ^ 9 + 999999999 :=
      cut.trans (Nat.min_eq_right (by omega))
    exact words_eq (by decide) whole

/-- The product in words is that of the span, cut to the longest one, and there always is one. -/
theorem times?_words (factor : UInt32) :
    d.words.times? factor = some (d.scale factor.toNat).words := by
  have bound := factor.toNat_lt
  have small := d.subsecond_lt
  obtain ⟨total, totalEq⟩ : ∃ total, total = d.subsecond * factor.toNat := ⟨_, rfl⟩
  have inner : total < 2 ^ 64 := by
    have := Nat.mul_lt_mul'' small bound
    omega
  have product : d.nanoseconds * factor.toNat =
      (d.seconds * factor.toNat + total / 10 ^ 9) * 10 ^ 9 + total % 10 ^ 9 := by
    rw [nanoseconds_eq d, Nat.add_mul, Nat.add_mul, Nat.mul_right_comm, Nat.add_assoc,
      Nat.div_add_mod', totalEq]
  have left : total % 10 ^ 9 < 10 ^ 9 := Nat.mod_lt _ (by decide)
  have found : product? d.words.nanoseconds.toUInt64 factor.toUInt64 = some (.ofNat total) := by
    rw [product?_eq, UInt32.toNat_toUInt64, UInt32.toNat_toUInt64, toNat_subsecond, ← totalEq,
      if_pos inner]
  have carry : (UInt64.ofNat total / 1000000000).toNat = total / 10 ^ 9 := by
    rw [UInt64.toNat_div, UInt64.toNat_ofNat_of_lt' inner]
    rfl
  have rest : (UInt64.ofNat total % 1000000000).toUInt32 = .ofNat (total % 10 ^ 9) := by
    rw [← UInt32.toNat_inj, UInt64.toNat_toUInt32, UInt64.toNat_mod,
      UInt64.toNat_ofNat_of_lt' inner, UInt32.toNat_ofNat']
    rfl
  simp only [words_scale left product, Words.times?, found, Option.bind_eq_bind, Option.bind_some,
    bind_product?_sum?, carry, rest, toNat_seconds, UInt32.toNat_toUInt64, Option.pure_def,
    Option.some.injEq]
  split <;> rfl

theorem shorter_words : d.words.shorter e.words = (d.shorter e).words := by
  have first : d.words.seconds < e.words.seconds ↔ d.seconds < e.seconds := by
    rw [UInt64.lt_iff_toNat_lt, toNat_seconds, toNat_seconds]
  have same : d.words.seconds = e.words.seconds ↔ d.seconds = e.seconds := by
    rw [← UInt64.toNat_inj, toNat_seconds, toNat_seconds]
  have second : d.words.nanoseconds ≤ e.words.nanoseconds ↔ d.subsecond ≤ e.subsecond := by
    rw [UInt32.le_iff_toNat_le, toNat_subsecond, toNat_subsecond]
  have order : (d.seconds < e.seconds ∨ d.seconds = e.seconds ∧ d.subsecond ≤ e.subsecond) ↔
      d.nanoseconds ≤ e.nanoseconds := by
    have := d.subsecond_lt
    have := e.subsecond_lt
    rw [nanoseconds_eq d, nanoseconds_eq e]
    omega
  simp only [Words.shorter, shorter, first, same, second, order, apply_ite words]

end Span

end SensorRelay.Duration
