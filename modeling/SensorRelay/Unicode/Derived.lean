import SensorRelay.Unicode.Category
import SensorRelay.Unicode.Property
import SensorRelay.Unicode.Segmentation

/-! # Sets that follow from others

Many properties are put together from general categories and other properties. A recipe says how:
some sets together, without the members of others, and with some ranges besides.
-/

namespace SensorRelay.Unicode

/-- How a set is put together. Its parts are general categories and properties. -/
structure Recipe where
  names : List String
  parts : List String
  without : List String := []
  withoutRanges : List String := []
  ranges : List String := []

namespace Recipe

/-- The characters in any of some general categories and properties. -/
def gather (names : List String) : CharSet :=
  (categories.unionOf names).union (properties.unionOf names)

def set (recipe : Recipe) : CharSet :=
  let removed := (gather recipe.without).union (.ofTexts recipe.withoutRanges)
  ((gather recipe.parts).diff removed).union (.ofTexts recipe.ranges)

end Recipe

def recipeSet? (recipes : List Recipe) (name : String) : Option CharSet :=
  (recipes.find? fun recipe => recipe.names.contains name).map Recipe.set

/-- Groups of general categories. -/
def categoryGroups : List Recipe := [
  ⟨["lc", "casedletter"], ["lu", "ll", "lt"], [], [], []⟩,
  ⟨["l", "letter"], ["lu", "ll", "lt", "lm", "lo"], [], [], []⟩,
  ⟨["m", "mark", "combiningmark"], ["mn", "mc", "me"], [], [], []⟩,
  ⟨["n", "number"], ["nd", "nl", "no"], [], [], []⟩,
  ⟨["p", "punctuation", "punct"], ["pc", "pd", "ps", "pe", "pi", "pf", "po"], [], [], []⟩,
  ⟨["s", "symbol"], ["sm", "sc", "sk", "so"], [], [], []⟩,
  ⟨["z", "separator"], ["zs", "zl", "zp"], [], [], []⟩]

def derivedProperties : List Recipe := [
  ⟨["lowercase", "lower"], ["ll", "olower"], [], [], []⟩,
  ⟨["uppercase", "upper"], ["lu", "oupper"], [], [], []⟩,
  ⟨["cased"], ["ll", "lu", "lt", "olower", "oupper"], [], [], []⟩,
  ⟨["alphabetic", "alpha"], ["ll", "lu", "lt", "lm", "lo", "nl", "olower", "oupper", "oalpha"],
    [], [], []⟩,
  ⟨["math"], ["sm", "omath"], [], [], []⟩,
  ⟨["caseignorable", "ci"], ["mn", "me", "cf", "lm", "sk"], [], [],
    ["27 2e 3a b7 387 55f 5f4 2018-2019 2024 2027 fe13 fe52 fe55 ff07 ff0e ff1a"]⟩,
  ⟨["idstart", "ids"], ["lu", "ll", "lt", "lm", "lo", "nl", "oids"], ["patsyn", "patws"], [], []⟩,
  ⟨["idcontinue", "idc"],
    ["lu", "ll", "lt", "lm", "lo", "nl", "oids", "mn", "mc", "nd", "pc", "oidc"],
    ["patsyn", "patws"], [], []⟩,
  ⟨["xidstart", "xids"], ["lu", "ll", "lt", "lm", "lo", "nl", "oids"], ["patsyn", "patws"],
    ["37a e33 eb3 309b-309c fc5e-fc63 fdfa-fdfb fe70 fe72 fe74 fe76 fe78 fe7a fe7c fe7e ff9e-ff9f"],
    []⟩,
  ⟨["xidcontinue", "xidc"],
    ["lu", "ll", "lt", "lm", "lo", "nl", "oids", "mn", "mc", "nd", "pc", "oidc"],
    ["patsyn", "patws"],
    ["37a 309b-309c fc5e-fc63 fdfa-fdfb fe70 fe72 fe74 fe76 fe78 fe7a fe7c fe7e"], []⟩,
  ⟨["graphemeextend", "grext"], ["me", "mn", "ogrext"], [], [], []⟩,
  ⟨["graphemebase", "grbase"],
    ["lu", "ll", "lt", "lm", "lo", "mc", "nd", "nl", "no", "pc", "pd", "ps", "pe", "pi", "pf",
      "po", "sm", "sc", "sk", "so", "zs"], ["ogrext"], [], []⟩,
  ⟨["defaultignorablecodepoint", "di"], ["cf", "vs", "odi"], ["wspace", "pcm"],
    ["fff9-fffb 13430-13440"], []⟩]

/-- Classes of characters that follow from properties, for what is seen as one character. -/
def derivedCharacterBreaks : List Recipe := [
  ⟨["extend", "ex"], ["me", "mn", "ogrext", "emod"], [], [], []⟩]

def derivedWordBreaks : List Recipe := [
  ⟨["extend"], ["me", "mn", "mc", "ogrext", "emod"], [], ["200d"], []⟩]

def derivedSentenceBreaks : List Recipe := [
  ⟨["extend", "ex"], ["me", "mn", "mc", "ogrext"], [], [], ["200d"]⟩,
  ⟨["lower", "lo"], ["ll", "olower"], ["me", "mn", "ogrext"], ["10d0-10fa 10fd-10ff"], []⟩,
  ⟨["upper", "up"], ["lu", "lt", "oupper"], [], ["1c90-1cba 1cbd-1cbf"], []⟩,
  ⟨["oletter", "le"], ["lm", "lo", "nl", "oalpha"],
    ["olower", "oupper", "mn", "mc", "me", "ogrext", "emod"], [],
    ["5f3 10d0-10fa 10fd-10ff 1c90-1cba 1cbd-1cbf"]⟩]

end SensorRelay.Unicode
