import PasswordSeal.Text.NormalForm.CombiningClass
import PasswordSeal.Text.NormalForm.Composition
import PasswordSeal.Text.NormalForm.Decomposition

/-!
# The composed normal form of texts that look alike

Texts that are typed in different ways but count as the same have one normal form. All characters
are taken apart, marks behind a character are put into the order of their classes, and characters
are joined again as far as they can be.
-/
namespace PasswordSeal.NormalForm

/-- Put a character behind others, given in reverse, but before marks of a higher class. -/
def place (c : Char) : List Char → List Char
  | [] => [c]
  | d :: before =>
    if combiningClass c ≠ 0 ∧ combiningClass c < combiningClass d then d :: place c before
    else c :: d :: before

def ordered (cs : List Char) : List Char :=
  (cs.foldl (fun before c => place c before) []).reverse

/-- A sequence that is being joined: its first character and, in reverse, the marks that could not
be joined to it. -/
structure Sequence where
  first : Char
  marks : List Char

/-- Whether a character of class `k` can still be joined to the first one: no mark stands between
them, or only marks of lower classes. -/
def Sequence.reaches (s : Sequence) (k : Nat) : Bool :=
  match s.marks with
  | [] => true
  | mark :: _ => combiningClass mark < k

def joinTo (done : List Char) (s : Sequence) : List Char → List Char
  | [] => (s.marks ++ s.first :: done).reverse
  | c :: rest =>
    match if s.reaches (combiningClass c) then compose? s.first c else none with
    | some both => joinTo done { s with first := both } rest
    | none =>
      if combiningClass c = 0 then joinTo (s.marks ++ s.first :: done) ⟨c, []⟩ rest
      else joinTo done { s with marks := c :: s.marks } rest

def joined (cs : List Char) : List Char :=
  let marks := cs.takeWhile (combiningClass · != 0)
  match cs.dropWhile (combiningClass · != 0) with
  | [] => marks
  | first :: rest => marks ++ joinTo [] ⟨first, []⟩ rest

def normalize (text : String) : String :=
  String.ofList (joined (ordered (text.toList.flatMap decomposeChar)))

end PasswordSeal.NormalForm
