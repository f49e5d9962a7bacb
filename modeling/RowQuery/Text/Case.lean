import RowQuery.Text.CaseTable

/-!
# Changing case

Two foldings with different purposes. `lowercase` is the full small-letter form of a text; names of
properties that agree in it are the same name. `fold` is the character-by-character folding of
filter values: it never changes how many characters a text has, so a match stays a match in place.
-/
namespace RowQuery.Text

/-- The capital form of a character when that is one character, else the character itself. -/
def foldChar (c : Char) : Char := Char.ofNat (CaseTable.image CaseTable.capitals c.toNat)

/-- The text with every character in its one-character capital form. -/
def fold (s : String) : String := String.ofList (s.toList.map foldChar)

/-- Whether the first character that casing does not skip has a case. -/
def leadsToCased (cs : List Char) : Bool :=
  match cs.dropWhile (fun c => CaseTable.member CaseTable.ignorable c.toNat) with
  | c :: _ => CaseTable.member CaseTable.cased c.toNat
  | [] => false

/-- The small form of a character outside the rule for a final sigma: the capital I with a dot
above keeps its dot as a mark of its own, and every other character has a single small form. -/
def lowerChar (c : Char) : List Char :=
  if c = 'İ' then ['i', '\u0307']
  else [Char.ofNat (CaseTable.image CaseTable.smalls c.toNat)]

/-- The small form of a sigma that has `before` (nearest character first) and `after` around it:
final at the end of a word of more than one letter. -/
def lowerSigma (before after : List Char) : Char :=
  if leadsToCased before && !leadsToCased after then 'ς' else 'σ'

/-- Small forms of the characters that follow `before`, which is held nearest first. -/
def lowerAfter (before : List Char) : List Char → List Char
  | [] => []
  | c :: rest =>
    (if c = 'Σ' then [lowerSigma before rest] else lowerChar c) ++ lowerAfter (c :: before) rest

/-- The small-letter form of a list of characters. -/
def lowerChars (cs : List Char) : List Char := lowerAfter [] cs

/-- The small-letter form of a text. -/
def lowercase (s : String) : String := String.ofList (lowerChars s.toList)

@[simp] theorem toList_lowercase (s : String) :
    (lowercase s).toList = lowerChars s.toList := by
  simp [lowercase]

@[simp] theorem toList_fold (s : String) : (fold s).toList = s.toList.map foldChar := by
  simp [fold]

/-- The small form of an ASCII capital; every other character is its own. -/
def asciiLower (c : Char) : Char :=
  if 'A' ≤ c ∧ c ≤ 'Z' then Char.ofNat (c.toNat + 32) else c

/-- Equality of texts up to the case of ASCII letters. -/
def equalIgnoringAsciiCase (s t : String) : Bool :=
  s.toList.map asciiLower == t.toList.map asciiLower

/-- The text with its ASCII capitals made small. -/
def asciiLowercase (s : String) : String := String.ofList (s.toList.map asciiLower)

end RowQuery.Text
