/-!
# Texts

The white space around a text, which reading ignores, and what stands within one: whether a list of
characters is the start, the end or any contiguous piece of another, and the pieces between the
occurrences of a character. White space are the characters with the property White_Space, which
include the line separators and the spaces of other scripts.
-/
namespace RowQuery.Text

/-! ## Blanks -/

/-- Whether a character is white space. -/
def isBlank (c : Char) : Bool :=
  let n := c.toNat
  (0x9 ≤ n && n ≤ 0xD) || n == 0x20 || n == 0x85 || n == 0xA0 || n == 0x1680 ||
    (0x2000 ≤ n && n ≤ 0x200A) || n == 0x2028 || n == 0x2029 || n == 0x202F || n == 0x205F ||
    n == 0x3000

/-- Without the blanks at the front. -/
def dropBlanks (cs : List Char) : List Char := cs.dropWhile isBlank

/-- Without the blanks at either end. -/
def trimChars (cs : List Char) : List Char :=
  (dropBlanks (dropBlanks cs).reverse).reverse

/-- The text without the blanks at either end. -/
def trim (s : String) : String := String.ofList (trimChars s.toList)

@[simp] theorem toList_trim (s : String) : (trim s).toList = trimChars s.toList := by
  simp [trim]

theorem dropBlanks_of_head {c : Char} {cs : List Char} (h : isBlank c = false) :
    dropBlanks (c :: cs) = c :: cs := by
  simp [dropBlanks, h]

/-! ## Searching -/

def startsWith (needle cs : List Char) : Bool := needle.isPrefixOf cs

def endsWith (needle cs : List Char) : Bool := needle.isSuffixOf cs

/-- Whether the needle stands somewhere in the characters; the empty needle stands everywhere. -/
def contains (needle : List Char) : List Char → Bool
  | [] => needle.isEmpty
  | c :: cs => startsWith needle (c :: cs) || contains needle cs

/-- The pieces between the occurrences of a character: one more than it occurs. -/
def split (separator : Char) : List Char → List (List Char)
  | [] => [[]]
  | c :: cs =>
    if c = separator then [] :: split separator cs
    else
      match split separator cs with
      | piece :: pieces => (c :: piece) :: pieces
      | [] => [[c]]

end RowQuery.Text
