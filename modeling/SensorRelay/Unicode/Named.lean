import SensorRelay.Unicode.Age
import SensorRelay.Unicode.Derived
import SensorRelay.Unicode.Script

/-! # Sets with names

A set of characters can be asked for by the name of a property, of a general category or of a
script, or by the name of a property and one of its values.
-/

namespace SensorRelay.Unicode

/-- A name as the tables have it: case, blanks, dashes and underscores do not count, and neither
does a leading `is`, except in one name. -/
def normalName (name : List Char) : String :=
  let isLong := (name.take 2).map Char.toLower = ['i', 's']
  let kept := (if isLong then name.drop 2 else name).filter fun c =>
    c.toNat ≤ 0x7f && c ∉ [' ', '_', '-']
  let short := kept.map Char.toLower
  String.ofList (if isLong && short = ['c'] then ['i', 's', 'c'] else short)

def assigned : CharSet :=
  categories.unionOf (categories.filterMap (·.1.head?))

def category? (name : String) : Option CharSet :=
  categories.find? name <|> recipeSet? categoryGroups name <|>
    match name with
    | "any" => some .all
    | "ascii" => some (.ofRanges [(0, 0x7f)])
    | "assigned" => some assigned
    | "cn" | "unassigned" => some assigned.complement
    | "c" | "other" =>
      some (assigned.diff (categories.unionOf ["cc", "cf", "co"])).complement
    | _ => none

/-- The set of a property that a character has or does not have. -/
def property? (name : String) : Option CharSet :=
  properties.find? name <|> recipeSet? derivedProperties name

/-- The characters that are used with a script. -/
def scriptExtension? (name : String) : Option CharSet := do
  let (names, ranges) ← scripts.entry? name
  let added := addedToScripts.unionOf (names.take 1)
  let taken := takenFromScripts.unionOf (names.take 1)
  return ((CharSet.ofTexts ranges).union added).diff taken

/-- The characters that a version or one before it introduced. -/
def age? (name : String) : Option CharSet :=
  let older := ages.takeWhile fun entry => !entry.1.contains name
  if older.length < ages.length then
    some (ages.unionOf ((ages.take (older.length + 1)).filterMap (·.1.head?)))
  else none

/-- The syllables of Hangul that end in a vowel: all consonants at the end of a syllable make 27
more of them. -/
def openSyllables : CharSet :=
  .ofRanges ((List.range 399).map fun n => (0xac00 + 28 * n, 0xac00 + 28 * n))

/-- The set of a class for what is seen as one character. -/
def characterBreak? (name : String) : Option CharSet :=
  characterBreaks.find? name <|> recipeSet? derivedCharacterBreaks name <|>
    match name with
    | "lv" => some openSyllables
    | "lvt" => some ((CharSet.ofRanges [(0xac00, 0xd7a3)]).diff openSyllables)
    | _ => none

def named? (name : List Char) : Option CharSet :=
  let name := normalName name
  property? name <|> category? name <|> scripts.find? name

/-- The characters for which a property has a value. -/
def valued? (property value : List Char) : Option CharSet :=
  let value := normalName value
  match normalName property with
  | "gc" | "generalcategory" => category? value
  | "sc" | "script" => scripts.find? value
  | "scx" | "scriptextensions" => scriptExtension? value
  | "age" => age? value
  | "gcb" | "graphemeclusterbreak" => characterBreak? value
  | "wb" | "wordbreak" => wordBreaks.find? value <|> recipeSet? derivedWordBreaks value
  | "sb" | "sentencebreak" => sentenceBreaks.find? value <|> recipeSet? derivedSentenceBreaks value
  | _ => none

def digits : CharSet := categories.unionOf ["nd"]

def wordChars : CharSet :=
  Recipe.gather ["ll", "lu", "lt", "lm", "lo", "nl", "olower", "oupper", "oalpha", "mn", "mc", "me",
    "nd", "pc", "joinc"]

end SensorRelay.Unicode
