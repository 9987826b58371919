import SensorRelay.Proofs.Binary64.Shortest
import Mathlib.Data.List.TakeWhile

/-! # How the fewest digits are spelled

A text spells a decimal: all its digits, and the power of ten of the last one. What a finite value
is written as spells the shortest decimal that reads back as it, up to zeros at the end that
take part in the digits or in the power.
-/

namespace SensorRelay.Binary64

/-- At least one digit, and nothing else. -/
structure Digits (text : List Char) : Prop where
  all : ∀ c ∈ text, Numeral.isDigit c = true
  nonempty : text ≠ []

/-- Digits with no zero in front of others. -/
structure LeanDigits (text : List Char) : Prop extends Digits text where
  lean : ∀ rest, text = '0' :: rest → rest = []

/-- An exponent, which always has its sign. -/
def exponentText (power : Int) : List Char :=
  'e' :: (if power < 0 then '-' else '+') :: Numeral.ofNat power.natAbs

/-- A text stands for a decimal, with a point, an exponent of at most nine digits, or both. -/
inductive Spells : List Char → Decimal → Prop
  | point {whole fraction : List Char} (first : LeanDigits whole) (second : Digits fraction) :
    Spells (whole ++ '.' :: fraction)
      ⟨Numeral.valueFrom 0 (whole ++ fraction), -fraction.length⟩
  | power {whole : List Char} (first : LeanDigits whole) {power : Int}
    (short : power.natAbs < 10 ^ 9) :
    Spells (whole ++ exponentText power) ⟨Numeral.valueFrom 0 whole, power⟩
  | both {whole fraction : List Char} (first : LeanDigits whole) (second : Digits fraction)
    {power : Int} (short : power.natAbs < 10 ^ 9) :
    Spells (whole ++ '.' :: (fraction ++ exponentText power))
      ⟨Numeral.valueFrom 0 (whole ++ fraction), power - fraction.length⟩

/-- What spells a decimal starts with a digit. -/
theorem Spells.starts {text : List Char} {d : Decimal} (spells : Spells text d) :
    (∀ c ∈ text.head?, Numeral.isDigit c = true) ∧ text ≠ [] := by
  have first {whole : List Char} (digits : Digits whole) (rest : List Char) :
      (∀ c ∈ (whole ++ rest).head?, Numeral.isDigit c = true) ∧ whole ++ rest ≠ [] := by
    obtain ⟨c, others, rfl⟩ := List.exists_cons_of_ne_nil digits.nonempty
    refine ⟨fun d ahead => digits.all d ?_, by simp⟩
    obtain rfl := Option.some.inj ahead
    exact List.mem_cons_self
  cases spells with
  | point whole => exact first whole.toDigits _
  | power whole => exact first whole.toDigits _
  | both whole => exact first whole.toDigits _

namespace Digits

variable {text other : List Char}

theorem append_left (digits : Digits text) (all : ∀ c ∈ other, Numeral.isDigit c = true) :
    Digits (text ++ other) := by
  refine ⟨fun c listed => ?_, by simp [digits.nonempty]⟩
  exact (List.mem_append.mp listed).elim (digits.all c) (all c)

theorem append_right (digits : Digits text) (all : ∀ c ∈ other, Numeral.isDigit c = true) :
    Digits (other ++ text) := by
  refine ⟨fun c listed => ?_, by simp [digits.nonempty]⟩
  exact (List.mem_append.mp listed).elim (all c) (digits.all c)

theorem zeros (count : Nat) : ∀ c ∈ List.replicate count '0', Numeral.isDigit c = true := by
  intro c listed
  rw [List.eq_of_mem_replicate listed]
  rfl

theorem zero : LeanDigits ['0'] where
  all := zeros 1
  nonempty := List.cons_ne_nil _ _
  lean _ same := (List.cons.inj same).2.symm

/-- Digits that do not start with a zero may be followed by others. -/
theorem leanDigits (digits : Digits text) (first : ∀ rest, text ≠ '0' :: rest)
    (all : ∀ c ∈ other, Numeral.isDigit c = true) : LeanDigits (text ++ other) where
  toDigits := digits.append_left all
  lean rest same := by
    obtain ⟨c, others, rfl⟩ := List.exists_cons_of_ne_nil digits.nonempty
    obtain ⟨rfl, _⟩ := List.cons.inj same
    exact absurd rfl (first others)

end Digits

section Texts

variable {kept : List Char} {power : Int}

/-- A text without the zeros at its end, and with them. -/
private theorem exists_zeros (text : List Char) :
    ∃ zeros, text = (text.reverse.dropWhile (· == '0')).reverse ++ List.replicate zeros '0' := by
  refine ⟨(text.reverse.takeWhile (· == '0')).length, ?_⟩
  have all : text.reverse.takeWhile (· == '0') =
      List.replicate (text.reverse.takeWhile (· == '0')).length '0' := by
    refine List.eq_replicate_iff.mpr ⟨rfl, fun c listed => ?_⟩
    simpa using List.mem_takeWhile_imp listed
  have split := congrArg List.reverse (List.takeWhile_append_dropWhile
    (p := (· == '0')) (l := text.reverse))
  rw [List.reverse_append, List.reverse_reverse, all, List.reverse_replicate] at split
  exact split.symm

/-- The digits that are kept, and the zeros at the end that are not. -/
theorem Decimal.digits_spec {d : Decimal} (positive : 0 < d.coefficient) :
    ∃ zeros, d.coefficient = Numeral.valueFrom 0 d.digits.1 * 10 ^ zeros ∧ Digits d.digits.1 ∧
      (∀ rest, d.digits.1 ≠ '0' :: rest) ∧
      (Numeral.ofNat d.coefficient).length = d.digits.1.length + zeros ∧
      d.digits.2 = d.exponent + zeros + d.digits.1.length - 1 := by
  obtain ⟨zeros, split⟩ := exists_zeros (Numeral.ofNat d.coefficient)
  have kept : d.digits.1 = ((Numeral.ofNat d.coefficient).reverse.dropWhile (· == '0')).reverse :=
    rfl
  have power : d.digits.2 = d.exponent + (Numeral.ofNat d.coefficient).length - 1 := rfl
  rw [← kept] at split
  have value := Numeral.valueFrom_ofNat d.coefficient
  have length := congrArg List.length split
  rw [List.length_append, List.length_replicate] at length
  rw [split, Numeral.valueFrom_append, Numeral.valueFrom_zeros] at value
  have nonempty : d.digits.1 ≠ [] := by
    intro nothing
    rw [nothing, show Numeral.valueFrom 0 [] = 0 from rfl, Nat.zero_mul] at value
    omega
  refine ⟨zeros, value.symm, ⟨fun c listed => ?_, nonempty⟩, fun rest same => ?_, length, ?_⟩
  · exact Numeral.isDigit_of_mem_ofNat (split ▸ List.mem_append_left _ listed)
  · rw [same, List.cons_append] at split
    exact Numeral.head_ne_zero positive split rfl
  · rw [power, length]
    omega

/-- Digits with a point in its place spell what they stand for, with zeros up to the point and after
it when there are too few. -/
theorem spells_positional (digits : Digits kept) (first : ∀ rest, kept ≠ '0' :: rest) :
    Spells (positional kept power)
      (if 0 ≤ power + 1 - kept.length then
        ⟨Numeral.valueFrom 0 kept * 10 ^ ((power + 1 - kept.length).toNat + 1), -1⟩
      else ⟨Numeral.valueFrom 0 kept, power + 1 - kept.length⟩) := by
  have length : 0 < kept.length := List.length_pos_iff.mpr digits.nonempty
  unfold positional
  split
  · next negative =>
    have below : ¬ 0 ≤ power + 1 - kept.length := by omega
    rw [if_neg below]
    have spells := Spells.point Digits.zero
      (digits.append_right (Digits.zeros (-power - 1).toNat))
    have exponent : -((List.replicate (-power - 1).toNat '0' ++ kept).length : Int) =
        power + 1 - kept.length := by
      simp only [List.length_append, List.length_replicate]
      omega
    have value : Numeral.valueFrom 0 (['0'] ++ (List.replicate (-power - 1).toNat '0' ++ kept)) =
        Numeral.valueFrom 0 kept := by
      rw [Numeral.valueFrom_append, Numeral.valueFrom_append, Numeral.valueFrom_zeros,
        show Numeral.valueFrom 0 ['0'] = 0 from rfl, Nat.zero_mul]
    rw [exponent, value] at spells
    exact spells
  · next nonneg =>
    dsimp only
    by_cases enough : 0 ≤ power + 1 - kept.length
    · have nothing : kept.drop (power.toNat + 1) = [] := List.drop_eq_nil_of_le (by omega)
      have everything : kept.take (power.toNat + 1) = kept := List.take_of_length_le (by omega)
      have missing : power.toNat + 1 - kept.length = (power + 1 - kept.length).toNat := by omega
      have spells := Spells.point
        (digits.leanDigits first (Digits.zeros (power + 1 - kept.length).toNat))
        Digits.zero.toDigits
      rw [Numeral.valueFrom_append, Numeral.valueFrom_append, Numeral.valueFrom_zeros] at spells
      rw [if_pos enough, nothing, everything, missing, Nat.pow_succ, ← Nat.mul_assoc]
      exact spells
    · have long : power.toNat + 1 < kept.length := by omega
      have left : kept.drop (power.toNat + 1) ≠ [] := by simpa using long
      have missing : power.toNat + 1 - kept.length = 0 := by omega
      have fraction : Digits (kept.drop (power.toNat + 1)) :=
        ⟨fun c listed => digits.all c (List.mem_of_mem_drop listed), left⟩
      have whole : LeanDigits (kept.take (power.toNat + 1)) := by
        obtain ⟨c, rest, rfl⟩ := List.exists_cons_of_ne_nil digits.nonempty
        refine ⟨⟨fun d listed => digits.all d (List.mem_of_mem_take listed), by simp⟩, ?_⟩
        intro others same
        rw [List.take_succ_cons] at same
        obtain ⟨rfl, _⟩ := List.cons.inj same
        exact absurd rfl (first rest)
      have spells := Spells.point whole fraction
      have exponent : -((kept.drop (power.toNat + 1)).length : Int) =
          power + 1 - kept.length := by
        rw [List.length_drop]
        omega
      rw [List.take_append_drop, exponent] at spells
      rw [if_neg enough, missing, List.replicate_zero, List.append_nil,
        List.isEmpty_eq_false_iff.mpr left]
      exact spells

/-- Digits with a point after the first spell what they stand for. -/
theorem spells_scientific (digits : Digits kept) (first : ∀ rest, kept ≠ '0' :: rest)
    (short : power.natAbs < 10 ^ 9) :
    Spells (scientific kept power) ⟨Numeral.valueFrom 0 kept, power + 1 - kept.length⟩ := by
  obtain ⟨c, rest, rfl⟩ := List.exists_cons_of_ne_nil digits.nonempty
  have alone : LeanDigits [c] := by
    refine ⟨⟨?_, by simp⟩, fun others same => (List.cons.inj same).2.symm⟩
    simpa using digits.all c List.mem_cons_self
  cases rest with
  | nil =>
    have spells := Spells.power alone short
    have exponent : power + 1 - ([c].length : Int) = power := by simp
    rw [exponent]
    exact spells
  | cons d rest =>
    have fraction : Digits (d :: rest) :=
      ⟨fun e listed => digits.all e (List.mem_cons_of_mem c listed), by simp⟩
    have spells := Spells.both alone fraction short
    have exponent : power + 1 - ((c :: d :: rest).length : Int) =
        power - ((d :: rest).length : Int) := by
      simp only [List.length_cons]
      omega
    rw [exponent]
    exact spells

end Texts

/-- Zeros at the end of the digits count in the power instead. -/
theorem units_mul_pow (c zeros : Nat) (e : Int) :
    Decimal.units ⟨c * 10 ^ zeros, e⟩ = Decimal.units ⟨c, e + zeros⟩ := by
  unfold Decimal.units
  rw [zpow_add₀ (by norm_num), zpow_natCast]
  push_cast
  ring

section Written

variable {d : Decimal}

/-- A decimal with its point in its place or with an exponent, whichever its size asks for. -/
def Decimal.written (d : Decimal) : List Char :=
  let (digits, power) := d.digits
  if lowestPositional ≤ power ∧ power < lowestScientific then positional digits power
  else scientific digits power

/-- The decimal as it is written: without zeros at the end, unless these are written to reach the
point and one digit after it. -/
def Decimal.spelled (d : Decimal) : Decimal :=
  let (digits, power) := d.digits
  let last := power + 1 - digits.length
  if (lowestPositional ≤ power ∧ power < lowestScientific) ∧ 0 ≤ last then
    ⟨Numeral.valueFrom 0 digits * 10 ^ (last.toNat + 1), -1⟩
  else ⟨Numeral.valueFrom 0 digits, last⟩

theorem Decimal.spells_written (positive : 0 < d.coefficient)
    (short : d.digits.2.natAbs < 10 ^ 9) : Spells d.written d.spelled := by
  obtain ⟨zeros, -, digits, first, -, -⟩ := d.digits_spec positive
  unfold written spelled
  dsimp only
  generalize d.digits = spelling at digits first short ⊢
  obtain ⟨kept, power⟩ := spelling
  dsimp only at digits first short ⊢
  by_cases range : lowestPositional ≤ power ∧ power < lowestScientific
  · simp only [range, and_self, true_and, if_true]
    exact spells_positional digits first
  · simp only [range, false_and, if_false]
    exact spells_scientific digits first short

/-- What is written is as large as the decimal and has digits, but not more than seventeen if the
decimal has no more. -/
theorem Decimal.spelled_spec (positive : 0 < d.coefficient) (few : d.coefficient ≤ 10 ^ 17) :
    d.spelled.units = d.units ∧ 0 < d.spelled.coefficient ∧ d.spelled.coefficient ≤ 10 ^ 17 ∧
      min d.exponent (-1) ≤ d.spelled.exponent := by
  obtain ⟨zeros, value, digits, -, length, power⟩ := d.digits_spec positive
  have size : d.units = Decimal.units ⟨Numeral.valueFrom 0 d.digits.1, d.exponent + zeros⟩ := by
    rw [← units_mul_pow, ← value]
  unfold spelled
  dsimp only
  generalize d.digits = spelling at value digits power size length ⊢
  obtain ⟨kept, first⟩ := spelling
  dsimp only at value digits power size length ⊢
  have last : first + 1 - kept.length = d.exponent + zeros := by omega
  have least : 0 < Numeral.valueFrom 0 kept :=
    Nat.pos_of_ne_zero fun nothing => by rw [value, nothing, Nat.zero_mul] at positive; omega
  rw [last, size]
  split
  · next inside =>
    have places : ((d.exponent + zeros).toNat : Int) = d.exponent + zeros :=
      Int.toNat_of_nonneg inside.2
    have total : kept.length + ((d.exponent + zeros).toNat + 1) ≤ 17 := by
      have := inside.1.2
      unfold lowestScientific at this
      omega
    refine ⟨?_, Nat.mul_pos least (Nat.pow_pos (by decide)), ?_, min_le_right _ _⟩
    · rw [units_mul_pow]
      congr 2
      omega
    · have less := Numeral.valueFrom_lt digits.all 0
      rw [Nat.zero_add, Nat.one_mul] at less
      calc Numeral.valueFrom 0 kept * 10 ^ ((d.exponent + zeros).toNat + 1)
          ≤ 10 ^ kept.length * 10 ^ ((d.exponent + zeros).toNat + 1) :=
            Nat.mul_le_mul_right _ less.le
        _ = 10 ^ (kept.length + ((d.exponent + zeros).toNat + 1)) := (Nat.pow_add _ _ _).symm
        _ ≤ 10 ^ 17 := Nat.pow_le_pow_right (by decide) total
  · have later : d.exponent ≤ d.exponent + zeros := by omega
    refine ⟨rfl, least, ?_, (min_le_left _ _).trans later⟩
    have one_le : 1 ≤ 10 ^ zeros := Nat.pow_pos (by decide)
    have le : Numeral.valueFrom 0 kept ≤ d.coefficient := by
      rw [value]
      exact Nat.le_mul_of_pos_right _ one_le
    exact le.trans few

end Written

theorem shortestSize_eq {p : Nat} (nonzero : p ≠ 0) : shortestSize p = (shortest p).written := by
  rw [shortestSize, if_neg nonzero, Decimal.written]

/-- The text of a positive finite value spells a decimal to which that value is nearest. Its digits
are few, none of them is less than a unit, and the last one stands for a finite value. -/
theorem spells_shortestSize {p : Nat} (positive : 0 < p) (finite : p < infinityPattern) :
    Spells (shortestSize p) (shortest p).spelled ∧
      NearestUnits (shortest p).spelled.units p ∧
      0 < (shortest p).spelled.coefficient ∧ (shortest p).spelled.coefficient ≤ 10 ^ 17 ∧
      -(lastPlace : Int) ≤ (shortest p).spelled.exponent ∧
      (shortest p).spelled.exponent < beyondFinite := by
  obtain ⟨significant, few, low, near⟩ := shortest_spec positive finite
  rw [shortestSize_eq positive.ne']
  generalize shortest p = d at significant few low near ⊢
  obtain ⟨size, least, most, place⟩ := Decimal.spelled_spec significant few
  have top := lt_of_nearest near finite
  have high := length_add_le significant top
  have short : d.digits.2.natAbs < 10 ^ 9 := by
    obtain ⟨k, length⟩ := Numeral.exists_length_ofNat d.coefficient
    have power : d.digits.2 = d.exponent + (Numeral.ofNat d.coefficient).length - 1 := rfl
    simp only [lastPlace, beyondFinite] at low high
    omega
  obtain ⟨k, length⟩ := Numeral.exists_length_ofNat d.spelled.coefficient
  have high' := length_add_le least (e := d.spelled.exponent) (size ▸ top)
  refine ⟨Decimal.spells_written significant short, size ▸ near, least, most, ?_, by omega⟩
  simp only [lastPlace] at low ⊢
  omega

end SensorRelay.Binary64
