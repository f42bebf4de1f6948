import PasswordSeal.Text.Hidden

/-!
# Descriptions of values

A text is shown between double quotes and a character between single ones. The common control
characters, the backslash and the quote in use have short escapes; a character that cannot be seen
on its own is written as its number. A record is shown by its name and its fields in order, an
optional value by whether it is there.
-/
namespace PasswordSeal

namespace Text

def escape (quote : Char) (c : Char) : List Char :=
  if c = '\x00' then ['\\', '0']
  else if c = '\t' then ['\\', 't']
  else if c = '\r' then ['\\', 'r']
  else if c = '\n' then ['\\', 'n']
  else if c = '\\' ∨ c = quote then ['\\', c]
  else if isHidden c then ['\\', 'u', '\x7b'] ++ Nat.toDigits 16 c.toNat ++ ['\x7d']
  else [c]

def quote (text : String) : String :=
  String.ofList ('"' :: text.toList.flatMap (escape '"') ++ ['"'])

def quoteChar (c : Char) : String :=
  String.ofList ('\'' :: escape '\'' c ++ ['\''])

end Text

namespace Description

def fields (entries : List (String × String)) : String :=
  ", ".intercalate (entries.map fun (name, value) => name ++ ": " ++ value)

def record (name : String) (entries : List (String × String)) : String :=
  name ++ " \x7b " ++ fields entries ++ " \x7d"

def partialRecord (name : String) (entries : List (String × String)) : String :=
  name ++ " \x7b " ++ fields entries ++ ", .. \x7d"

def optional {α : Type} (describe : α → String) : Option α → String
  | none => "None"
  | some value => "Some(" ++ describe value ++ ")"

def list (entries : List String) : String :=
  "[" ++ ", ".intercalate entries ++ "]"

end Description
end PasswordSeal
