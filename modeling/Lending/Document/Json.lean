import Lending.Document.Basic
import Lending.Binary64.Text
import Lending.Binary64.Reader

/-!
# JSON text

A reader for the whole of JSON, and two printers, on one line and indented.

An integer that 64 bits hold, signed or not, stays an integer, and every other number is a double. The
fields of a table keep their order and their repetitions.
-/

namespace Lending.Json

def isBlank (c : Char) : Bool := c == ' ' || c == '\n' || c == '\t' || c == '\r'

def skipBlank (text : List Char) : List Char := text.dropWhile isBlank

/-! ### Strings -/

def hexDigit? (c : Char) : Option Nat :=
  if '0' ≤ c ∧ c ≤ '9' then some (c.toNat - '0'.toNat)
  else if 'a' ≤ c ∧ c ≤ 'f' then some (c.toNat - 'a'.toNat + 10)
  else if 'A' ≤ c ∧ c ≤ 'F' then some (c.toNat - 'A'.toNat + 10)
  else none

def hex4? (a b c d : Char) : Option Nat := do
  return (((← hexDigit? a) * 16 + (← hexDigit? b)) * 16 + (← hexDigit? c)) * 16 + (← hexDigit? d)

/-- The character that a letter behind a backslash stands for. -/
def simpleEscape? : Char → Option Char
  | '\x22' => some '\x22'
  | '\\' => some '\\'
  | '/' => some '/'
  | 'b' => some '\x08'
  | 'f' => some '\x0c'
  | 'n' => some '\n'
  | 'r' => some '\r'
  | 't' => some '\t'
  | _ => none

/-- Reads a string up to its closing quote, after the characters `before` in reverse order. `whole`
tells whether all of them are characters: half a surrogate pair is none. -/
def string? : List Char → (before : List Char) → (whole : Bool) →
    Option (Option String × List Char)
  | '\x22' :: rest, before, whole =>
    some (if whole then some (String.ofList before.reverse) else none, rest)
  | '\\' :: 'u' :: a :: b :: c :: d :: '\\' :: 'u' :: e :: f :: g :: h :: rest, before, whole =>
    match hex4? a b c d, hex4? e f g h with
    | some first, some second =>
      if 0xD800 ≤ first ∧ first < 0xDC00 ∧ 0xDC00 ≤ second ∧ second < 0xE000 then
        string? rest
          (Char.ofNat (0x10000 + (first - 0xD800) * 0x400 + (second - 0xDC00)) :: before) whole
      else if 0xD800 ≤ first ∧ first < 0xE000 then
        string? ('\\' :: 'u' :: e :: f :: g :: h :: rest) before false
      else string? ('\\' :: 'u' :: e :: f :: g :: h :: rest) (Char.ofNat first :: before) whole
    | _, _ => none
  | '\\' :: 'u' :: a :: b :: c :: d :: rest, before, whole =>
    match hex4? a b c d with
    | some n =>
      if 0xD800 ≤ n ∧ n < 0xE000 then string? rest before false
      else string? rest (Char.ofNat n :: before) whole
    | none => none
  | '\\' :: c :: rest, before, whole =>
    match simpleEscape? c with
    | some escaped => string? rest (escaped :: before) whole
    | none => none
  | c :: rest, before, whole =>
    if c.toNat < 0x20 then none else string? rest (c :: before) whole
  | [], _, _ => none

/-! ### Numbers -/

/-- The document of a number without fraction and exponent: an integer if 64 bits hold it. -/
def integer? (negative : Bool) (digits : Nat) : Option Document :=
  if negative then if 0 < digits ∧ digits ≤ 2 ^ 63 then some (.integer (-digits)) else none
  else if digits < 2 ^ 64 then some (.integer digits) else none

/-- Reads the digits of a numeral behind its sign. -/
def unsigned? (negative : Bool) (text : List Char) : Option (Document × List Char) :=
  let (whole, rest) := Binary64.spanDigits text
  if whole.isEmpty || (whole.length > 1 && whole.head? == some '0') then none
  else do
    let (fraction, rest) ← match rest with
      | '.' :: rest =>
        let (fraction, rest) := Binary64.spanDigits rest
        if fraction.isEmpty then none else some (fraction, rest)
      | rest => some ([], rest)
    let (exponent, rest) ← match rest with
      | mark :: rest' =>
        if mark = 'e' ∨ mark = 'E' then
          let (sign, rest') : List Char × List Char := match rest' with
            | '-' :: rest' => (['-'], rest')
            | '+' :: rest' => ([], rest')
            | rest' => ([], rest')
          let (digits, rest') := Binary64.spanDigits rest'
          (Binary64.exponent? (sign ++ digits)).map fun e => (some e, rest')
        else some (none, mark :: rest')
      | [] => some (none, [])
    let plain? : Option Document :=
      if fraction.isEmpty && exponent.isNone then integer? negative (Binary64.digitsValue whole)
      else none
    let real? := (Binary64.cutNumeral negative whole fraction (exponent.getD 0)).scaled?
    some (plain?.getD ((real?.map Document.real).getD .unreadable), rest)

/-! ### Values -/

mutual

/-- Reads one value; `fuel` bounds the nesting and the number of items together. -/
def value? : (fuel : Nat) → List Char → Option (Document × List Char)
  | 0, _ => none
  | fuel + 1, text =>
    match skipBlank text with
    | 'n' :: 'u' :: 'l' :: 'l' :: rest => some (.null, rest)
    | 't' :: 'r' :: 'u' :: 'e' :: rest => some (.bool true, rest)
    | 'f' :: 'a' :: 'l' :: 's' :: 'e' :: rest => some (.bool false, rest)
    | '\x22' :: rest =>
      (string? rest [] true).map fun (value, rest) =>
        (match value with
          | some value => .text value
          | none => .unreadable, rest)
    | '[' :: rest =>
      match skipBlank rest with
      | ']' :: rest => some (.list [], rest)
      | rest => (items? fuel rest).map fun (items, rest) => (.list items, rest)
    | '\x7b' :: rest =>
      match skipBlank rest with
      | '\x7d' :: rest => some (.table [], rest)
      | rest => (fields? fuel rest).map fun (fields, rest) =>
          ((fields.map Document.table).getD .unreadable, rest)
    | '-' :: rest => unsigned? true rest
    | rest => unsigned? false rest

def items? : (fuel : Nat) → List Char → Option (List Document × List Char)
  | 0, _ => none
  | fuel + 1, text =>
    match value? fuel text with
    | none => none
    | some (item, rest) =>
      match skipBlank rest with
      | ']' :: rest => some ([item], rest)
      | ',' :: rest => (items? fuel rest).map fun (items, rest) => (item :: items, rest)
      | _ => none

/-- Reads the fields of a table up to its closing brace; there are none to tell of if a name holds half
a character. -/
def fields? : (fuel : Nat) → List Char → Option (Option (List (String × Document)) × List Char)
  | 0, _ => none
  | fuel + 1, text =>
    match skipBlank text with
    | '\x22' :: rest =>
      match string? rest [] true with
      | some (name, rest) =>
        match skipBlank rest with
        | ':' :: rest =>
          match value? fuel rest with
          | none => none
          | some (value, rest) =>
            match skipBlank rest with
            | '\x7d' :: rest => some (name.map fun name => [(name, value)], rest)
            | ',' :: rest =>
              (fields? fuel rest).map fun (fields, rest) =>
                (name.bind fun name => fields.map fun fields => (name, value) :: fields, rest)
            | _ => none
        | _ => none
      | _ => none
    | _ => none

end

def read? (text : String) : Option Document :=
  let characters := text.toList
  match value? (2 * characters.length + 2) characters with
  | some (document, rest) => if (skipBlank rest).isEmpty then some document else none
  | none => none

/-! ### Printing -/

/-- At least four hexadecimal digits. -/
def hexText (n : Nat) : List Char :=
  let digits := Nat.toDigits 16 n
  List.replicate (4 - digits.length) '0' ++ digits

/-- A character as it stands in a JSON string. -/
def escape (c : Char) : List Char :=
  match c with
  | '\x22' => ['\\', '\x22']
  | '\\' => ['\\', '\\']
  | '\x08' => ['\\', 'b']
  | '\x0c' => ['\\', 'f']
  | '\n' => ['\\', 'n']
  | '\r' => ['\\', 'r']
  | '\t' => ['\\', 't']
  | c => if c.toNat < 0x20 then ['\\', 'u'] ++ hexText c.toNat else [c]

def quote (text : String) : List Char :=
  '\x22' :: (text.toList.flatMap escape ++ ['\x22'])

/-- The text of a scalar; a double that is no number is null. -/
def scalar : Document → List Char
  | .bool value => (if value then "true" else "false").toList
  | .integer n => (toString n).toList
  | .real x => if x.IsFinite then x.numeral.toList else "null".toList
  | .text value => quote value
  | _ => "null".toList

mutual

/-- A document on one line, without blanks. -/
def compact : Document → List Char
  | .list items => '[' :: compactItems items ++ [']']
  | .table fields => '\x7b' :: compactFields fields ++ ['\x7d']
  | document => scalar document

def compactItems : List Document → List Char
  | [] => []
  | [item] => compact item
  | item :: items => compact item ++ ',' :: compactItems items

def compactFields : List (String × Document) → List Char
  | [] => []
  | [(name, value)] => quote name ++ ':' :: compact value
  | (name, value) :: fields => quote name ++ ':' :: compact value ++ ',' :: compactFields fields

end

/-- A new line at a depth, two blanks a level. -/
def newline (depth : Nat) : List Char := '\n' :: List.replicate (2 * depth) ' '

mutual

/-- A document over several lines, each item on its own. -/
def indented (depth : Nat) : Document → List Char
  | .list [] => ['[', ']']
  | .list items => '[' :: indentedItems (depth + 1) items ++ newline depth ++ [']']
  | .table [] => ['\x7b', '\x7d']
  | .table fields =>
    '\x7b' :: indentedFields (depth + 1) fields ++ newline depth ++ ['\x7d']
  | document => scalar document

def indentedItems (depth : Nat) : List Document → List Char
  | [] => []
  | [item] => newline depth ++ indented depth item
  | item :: items => newline depth ++ indented depth item ++ ',' :: indentedItems depth items

def indentedFields (depth : Nat) : List (String × Document) → List Char
  | [] => []
  | [(name, value)] => newline depth ++ quote name ++ ':' :: ' ' :: indented depth value
  | (name, value) :: fields =>
    newline depth ++ quote name ++ ':' :: ' ' :: indented depth value ++
      ',' :: indentedFields depth fields

end

def render (document : Document) : String := String.ofList (indented 0 document)

def renderLine (document : Document) : String := String.ofList (compact document)

end Lending.Json
