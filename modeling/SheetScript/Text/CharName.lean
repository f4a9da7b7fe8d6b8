import SheetScript.Text.CharName.Alias
import SheetScript.Text.CharName.Ancient
import SheetScript.Text.CharName.Asian
import SheetScript.Text.CharName.EastAsian
import SheetScript.Text.CharName.European
import SheetScript.Text.CharName.Hieroglyph
import SheetScript.Text.CharName.Indic
import SheetScript.Text.CharName.Notation
import SheetScript.Text.CharName.Phonetic
import SheetScript.Text.CharName.Pictograph
import SheetScript.Text.CharName.Presentation
import SheetScript.Text.CharName.Punctuation
import SheetScript.Text.CharName.Rare
import SheetScript.Text.CharName.Shape
import SheetScript.Text.Cut
import SheetScript.Text.Digit

namespace SheetScript.Text

/-- Runs of named characters. A run starts at a code point and gives the names of that character and
of those that follow it. Small letters part the names: the letter tells how many words the next name
has in common with the name before it, none for `a`, and only the other words are written. -/
def nameRuns : List (Nat × List String) :=
  europeanNames ++ asianNames ++ phoneticNames ++ punctuationNames ++ shapeNames ++ eastAsianNames
    ++ presentationNames ++ ancientNames ++ indicNames ++ hieroglyphNames ++ rareNames
    ++ notationNames ++ pictographNames

def keep (n : Nat) (words : List (List Char)) : List (List Char) := words.drop (words.length - n)

/-- Looks in a run for a name, given by its words. The name of `code` is read so far up to `words`
and `word`. Words are held last first, and so are the letters of each. -/
def findName (name : List (List Char)) (code : Nat) (words : List (List Char))
    (word : List Char) : List Char → Option Nat
  | [] => if word :: words = name then some code else none
  | c :: cs =>
    if c.isLower then
      if word :: words = name then some code
      else findName name (code + 1) (keep (c.toNat - 97) (word :: words)) [] cs
    else if c = ' ' then findName name code (word :: words) [] cs
    else findName name code words (c :: word) cs

def reversedWords (cs : List Char) : List (List Char) :=
  (cutAt ' ' cs).reverse.map List.reverse

def fromRuns? (name : List Char) : Option Nat :=
  let words := reversedWords name
  nameRuns.findSome? fun (code, run) => findName words code [] [] (run.flatMap String.toList)

def capitalHex? (cs : List Char) : Option Nat :=
  cs.foldlM (fun n c =>
    if c.isDigit then some (16 * n + (c.toNat - 48))
    else if 'A' ≤ c ∧ c ≤ 'F' then some (16 * n + (c.toNat - 55))
    else none) 0

def numberedRuns : List (String × List (Nat × Nat)) :=
  [("CJK COMPATIBILITY IDEOGRAPH-", [(0xF900, 0xFA6D), (0xFA70, 0xFAD9), (0x2F800, 0x2FA1D)]),
    ("KHITAN SMALL SCRIPT CHARACTER-", [(0x18B00, 0x18CD5)]),
    ("NUSHU CHARACTER-", [(0x1B170, 0x1B2FB)])]

def behind? (stem : String) (cs : List Char) : Option (List Char) :=
  if stem.toList.isPrefixOf cs then some (cs.drop stem.toList.length) else none

def fromNumber? (name : List Char) : Option Nat :=
  numberedRuns.findSome? fun (stem, ranges) => do
    let digits ← behind? stem name
    let code ← capitalHex? digits
    if digits.head? ≠ some '0' && inRanges ranges code then some code else none

def fromIdeograph? (name : List Char) : Option Nat := do
  let digits ← behind? "CJK UNIFIED IDEOGRAPH-" name
  let code ← capitalHex? digits
  if (digits.length = 4 ∨ digits.length = 5) ∧
      inRanges [(0x3400, 0x4DBF), (0x4E00, 0x9FFF), (0x20000, 0x2A6DF), (0x2A700, 0x2B738),
        (0x2B740, 0x2B81D), (0x2B820, 0x2CEA1), (0x2CEB0, 0x2EBE0), (0x30000, 0x3134A)] code then
    some code
  else none

def hangulInitials : List String :=
  ["G", "GG", "N", "D", "DD", "R", "M", "B", "BB", "S", "SS", "", "J", "JJ", "C", "K", "T", "P",
    "H"]

def hangulVowels : List String :=
  ["A", "AE", "YA", "YAE", "EO", "E", "YEO", "YE", "O", "WA", "WAE", "OE", "YO", "U", "WEO", "WE",
    "WI", "YU", "EU", "YI", "I"]

def hangulFinals : List String :=
  ["", "G", "GG", "GS", "N", "NJ", "NH", "D", "L", "LG", "LM", "LB", "LS", "LT", "LP", "LH", "M",
    "B", "BS", "S", "SS", "NG", "J", "C", "K", "T", "P", "H"]

def longestSound (sounds : List String) (cs : List Char) : Option (Nat × List Char) :=
  let hits := (sounds.zipIdx).filterMap fun (sound, i) => (behind? sound cs).map (i, ·)
  hits.foldl (fun best hit =>
    match best with
    | some (_, rest) => if hit.2.length < rest.length then some hit else best
    | none => some hit) none

def fromSyllable? (name : List Char) : Option Nat := do
  let sounds ← behind? "HANGUL SYLLABLE " name
  let (initial, rest) ← longestSound hangulInitials sounds
  let (vowel, rest) ← longestSound hangulVowels rest
  let (final, rest) ← longestSound hangulFinals rest
  if rest = [] then some (0xAC00 + (initial * 21 + vowel) * 28 + final) else none

def fromSelector? (name : List Char) : Option Nat := do
  let digits ← behind? "VS" name
  if digits.head? = some '0' ∨ !digits.all Char.isDigit then none
  else
    let n := digitsValue digits
    if 1 ≤ n ∧ n ≤ 16 then some (0xFDFF + n)
    else if 17 ≤ n ∧ n ≤ 256 then some (0xE00EF + n)
    else none

/-- The code point of the character with a name. Case does not count, except in the names of
ideographs and Korean syllables. -/
def charNamed? (name : List Char) : Option Nat :=
  let capitals := name.map Char.toUpper
  fromIdeograph? name <|> fromSyllable? name <|> fromRuns? capitals <|> fromNumber? capitals
    <|> fromSelector? capitals
    <|> (aliases.find? (·.2.toList = capitals)).map (·.1)

end SheetScript.Text
