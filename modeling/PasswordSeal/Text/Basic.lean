/-!
# Case, blanks and tables

Names of algorithms and alphabets are looked up without regard to the case of ASCII letters; every
other character counts as it is. What a user types is freed of the blanks around it, the characters
that separate words without being seen.

Tables of character properties are texts of words. A word holds numbers in base sixteen and the
marks between them.
-/
namespace PasswordSeal

namespace Text

def sameIgnoringCase (a b : String) : Bool :=
  a.toList.map Char.toLower == b.toList.map Char.toLower

def small (text : String) : List Char :=
  text.toList.map Char.toLower

def isBlank (c : Char) : Bool :=
  let n := c.toNat
  (9 ≤ n && n ≤ 13) || n == 0x20 || n == 0x85 || n == 0xA0 || n == 0x1680 ||
    (0x2000 ≤ n && n ≤ 0x200A) || n == 0x2028 || n == 0x2029 || n == 0x202F || n == 0x205F ||
    n == 0x3000

def trimEnd (drop : Char → Bool) (cs : List Char) : List Char :=
  (cs.reverse.dropWhile drop).reverse

def trimBlank (text : String) : String :=
  String.ofList (trimEnd isBlank (text.toList.dropWhile isBlank))

def trimLineEnds (text : String) : String :=
  String.ofList (trimEnd (fun c => c == '\r' || c == '\n') text.toList)

end Text

namespace Table

def pieces (isBreak : Char → Bool) (cs : List Char) : List (List Char) :=
  let all := cs.foldr
    (fun c found =>
      if isBreak c then [] :: found
      else match found with
        | [] => [[c]]
        | piece :: others => (c :: piece) :: others)
    [[]]
  all.filter fun piece => !piece.isEmpty

def words (table : String) : List (List Char) :=
  pieces Char.isWhitespace table.toList

def digitValue (c : Char) : Nat :=
  if c.isDigit then c.toNat - '0'.toNat else c.toNat - 'A'.toNat + 10

def number (digits : List Char) : Nat :=
  digits.foldl (fun n c => n * 16 + digitValue c) 0

def numbers (mark : Char) (word : List Char) : List Nat :=
  (pieces (· == mark) word).map number

def range? (word : List Char) : Option (Nat × Nat) :=
  match numbers '-' word with
  | [single] => some (single, single)
  | [first, last] => some (first, last)
  | _ => none

def covers (ranges : List (Nat × Nat)) (n : Nat) : Bool :=
  ranges.any fun (first, last) => first ≤ n && n ≤ last

end Table
end PasswordSeal
