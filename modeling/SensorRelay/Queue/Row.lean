/-! # Rows of items

A row takes items at its end and gives them from its start. It is kept as two lists, the later items
in reverse, so that neither has to be gone through for one item; what counts is the list that both
make up together.
-/

namespace SensorRelay

/-- A row of items. -/
structure Row (α : Type) where
  first : List α := []
  lastReversed : List α := []
deriving DecidableEq, Repr

namespace Row

variable {α : Type}

def toList (row : Row α) : List α := row.first ++ row.lastReversed.reverse

def ofList (items : List α) : Row α := ⟨items, []⟩

def length (row : Row α) : Nat := row.first.length + row.lastReversed.length

def isEmpty (row : Row α) : Bool := row.first.isEmpty && row.lastReversed.isEmpty

/-- The row with one item more at its end. -/
def push (row : Row α) (item : α) : Row α :=
  { row with lastReversed := item :: row.lastReversed }

/-- The row with one item more at its start. -/
def unpop (row : Row α) (item : α) : Row α := { row with first := item :: row.first }

/-- The first item and the row after it. -/
def pop? (row : Row α) : Option (α × Row α) :=
  match row.first with
  | item :: rest => some (item, { row with first := rest })
  | [] =>
    match row.lastReversed.reverse with
    | [] => none
    | item :: rest => some (item, ofList rest)

@[simp] theorem toList_empty : ({} : Row α).toList = [] := rfl

@[simp] theorem toList_ofList (items : List α) : (ofList items).toList = items := by
  simp [toList, ofList]

@[simp] theorem length_toList (row : Row α) : row.toList.length = row.length := by
  simp [toList, length]

@[simp] theorem isEmpty_toList (row : Row α) : row.toList.isEmpty = row.isEmpty := by
  cases row with
  | mk first last => cases first <;> cases last <;> simp [toList, isEmpty]

@[simp] theorem toList_push (row : Row α) (item : α) :
    (row.push item).toList = row.toList ++ [item] := by
  simp [toList, push]

@[simp] theorem toList_unpop (row : Row α) (item : α) :
    (row.unpop item).toList = item :: row.toList := by
  simp [toList, unpop]

theorem pop?_eq_none_iff {row : Row α} : row.pop? = none ↔ row.toList = [] := by
  cases row with
  | mk first last =>
    cases first with
    | cons item rest => simp [pop?, toList]
    | nil => cases reversed : last.reverse <;> simp [pop?, toList, reversed]

theorem toList_of_pop? {row rest : Row α} {item : α} (popped : row.pop? = some (item, rest)) :
    row.toList = item :: rest.toList := by
  cases row with
  | mk first last =>
    cases first with
    | cons head tail =>
      simp only [pop?, Option.some.injEq, Prod.mk.injEq] at popped
      obtain ⟨rfl, rfl⟩ := popped
      simp [toList]
    | nil =>
      cases reversed : last.reverse with
      | nil => simp [pop?, reversed] at popped
      | cons head tail =>
        simp only [pop?, reversed, Option.some.injEq, Prod.mk.injEq] at popped
        obtain ⟨rfl, rfl⟩ := popped
        simp [toList, ofList, reversed]

end Row

end SensorRelay
