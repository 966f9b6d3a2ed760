import Lending.Document.Basic
import Lending.Document.Json
import Lending.Binary64.Reader

/-!
# TOML text

A reader for settings files. A file is a sequence of statements, each of which changes a tree of tables:
a header opens a table or adds one to a list of tables, and an assignment puts a value under a dotted
key. A key is never assigned twice, and a table is never opened twice.
-/

namespace Lending.Toml

/-! ### The tree -/

/-- How a table came to be: by its own header, by the header of a table inside it, or by a dotted key. -/
inductive Origin where
  | header
  | implied
  | dotted
deriving DecidableEq

inductive Node where
  | value (document : Document)
  | table (origin : Origin) (fields : List (String × Node))
  /-- A list of tables, each with its own header. -/
  | tables (items : List (List (String × Node)))

abbrev Fields := List (String × Node)

/-- Puts a node under a name, in the place of the one that was there. -/
def Fields.put (fields : Fields) (name : String) (node : Node) : Fields :=
  if fields.any (·.1 == name) then
    fields.map fun field => if field.1 == name then (name, node) else field
  else fields ++ [(name, node)]

/-- Changes the table at the end of a path, making the tables on the way. The path of a dotted key does
not pass through a table that has its own header. -/
def within (dotted : Bool) (change : Origin → Fields → Option Fields) :
    (path : List String) → Origin → Fields → Option Fields
  | [], origin, fields => change origin fields
  | key :: path, _, fields =>
    match fields.lookup key with
    | none =>
      let origin := if dotted then Origin.dotted else Origin.implied
      (within dotted change path origin []).map fun sub => Fields.put fields key (.table origin sub)
    | some (.table origin sub) =>
      if dotted && origin == .header then none
      else (within dotted change path origin sub).map fun sub =>
        Fields.put fields key (.table origin sub)
    | some (.tables items) =>
      match items.getLast? with
      | none => none
      | some last => (within dotted change path .header last).map fun sub =>
          Fields.put fields key (.tables (items.dropLast ++ [sub]))
    | some (.value _) => none

/-- Assigns a value to a dotted key in the table at hand. -/
def assign (key : List String) (document : Document) (origin : Origin) (fields : Fields) :
    Option Fields :=
  match key.getLast? with
  | none => none
  | some name =>
    let path := key.dropLast
    within true (fun origin sub =>
        if (origin == .dotted) == path.isEmpty then none
        else if (sub.lookup name).isSome then none
        else some (Fields.put sub name (.value document)))
      path origin fields

/-- Opens the table of a header, which only other headers may have implied so far. -/
def openTable (key : List String) (root : Fields) : Option Fields :=
  match key.getLast? with
  | none => none
  | some name =>
    within false (fun _ fields =>
        match fields.lookup name with
        | none => some (Fields.put fields name (.table .header []))
        | some (.table .implied sub) => some (Fields.put fields name (.table .header sub))
        | some _ => none)
      key.dropLast .header root

/-- Adds a table to the list of tables of a header. -/
def appendTable (key : List String) (root : Fields) : Option Fields :=
  match key.getLast? with
  | none => none
  | some name =>
    within false (fun _ fields =>
        match fields.lookup name with
        | none => some (Fields.put fields name (.tables [[]]))
        | some (.tables items) => some (Fields.put fields name (.tables (items ++ [[]])))
        | some _ => none)
      key.dropLast .header root

mutual

def Node.document : Node → Document
  | .value document => document
  | .table _ fields => .table (documents fields)
  | .tables items => .list (tableDocuments items)

def documents : List (String × Node) → List (String × Document)
  | [] => []
  | (name, node) :: fields => (name, node.document) :: documents fields

def tableDocuments : List (List (String × Node)) → List Document
  | [] => []
  | fields :: items => .table (documents fields) :: tableDocuments items

end

/-! ### Lines -/

def isSpace (c : Char) : Bool := c == ' ' || c == '\t'

def skipSpaces (text : List Char) : List Char := text.dropWhile isSpace

/-- Whether a character may stand in comments and strings. -/
def isPlain (c : Char) : Bool := c == '\t' || (0x20 ≤ c.toNat && c.toNat != 0x7F)

def lineBreak? : List Char → Option (List Char)
  | '\n' :: rest => some rest
  | '\r' :: '\n' :: rest => some rest
  | _ => none

def skipComment : List Char → List Char
  | '#' :: rest => rest.dropWhile isPlain
  | rest => rest

def lineEnd? (text : List Char) : Option (List Char) :=
  match skipComment (skipSpaces text) with
  | [] => some []
  | rest => lineBreak? rest

/-- Skips spaces, comments and line breaks between the items of a list. -/
def skipLines : (fuel : Nat) → List Char → List Char
  | 0, text => text
  | fuel + 1, text =>
    let rest := skipComment (skipSpaces text)
    match lineBreak? rest with
    | some rest => skipLines fuel rest
    | none => rest

/-! ### Strings and keys -/

/-- Reads hexadecimal digits as a character. -/
def codePoint? (digits : List Char) : Option Char := do
  let n ← digits.foldlM (fun value c => (Json.hexDigit? c).map (value * 16 + ·)) 0
  if n < 0xD800 ∨ (0xE000 ≤ n ∧ n < 0x110000) then some (Char.ofNat n) else none

def simpleEscape? : Char → Option Char
  | 'b' => some '\x08'
  | 't' => some '\t'
  | 'n' => some '\n'
  | 'f' => some '\x0c'
  | 'r' => some '\r'
  | '\x22' => some '\x22'
  | '\\' => some '\\'
  | _ => none

/-- Reads a string with escapes up to its closing quote. -/
def basic? : List Char → (before : List Char) → Option (String × List Char)
  | '\x22' :: rest, before => some (String.ofList before.reverse, rest)
  | '\\' :: 'u' :: a :: b :: c :: d :: rest, before =>
    match codePoint? [a, b, c, d] with
    | some character => basic? rest (character :: before)
    | none => none
  | '\\' :: 'U' :: a :: b :: c :: d :: e :: f :: g :: h :: rest, before =>
    match codePoint? [a, b, c, d, e, f, g, h] with
    | some character => basic? rest (character :: before)
    | none => none
  | '\\' :: c :: rest, before =>
    match simpleEscape? c with
    | some character => basic? rest (character :: before)
    | none => none
  | c :: rest, before => if isPlain c then basic? rest (c :: before) else none
  | [], _ => none

/-- Reads a string without escapes up to its closing apostrophe. -/
def literal? : List Char → (before : List Char) → Option (String × List Char)
  | '\x27' :: rest, before => some (String.ofList before.reverse, rest)
  | c :: rest, before => if isPlain c then literal? rest (c :: before) else none
  | [], _ => none

def skipBreaks : List Char → List Char
  | '\n' :: rest => skipBreaks rest
  | '\r' :: '\n' :: rest => skipBreaks rest
  | c :: rest => if isSpace c then skipBreaks rest else c :: rest
  | [] => []

/-- Skips the blanks and line breaks behind a backslash at the end of a line; at least one line must
end. -/
def foldLine? (text : List Char) : Option (List Char) := (lineBreak? (skipSpaces text)).map skipBreaks

/-- Reads a string of several lines up to three closing marks, before which two more may stand. -/
def multiLine? (mark : Char) (escapes : Bool) :
    (fuel : Nat) → List Char → (before : List Char) → Option (String × List Char)
  | 0, _, _ => none
  | fuel + 1, text, before =>
    if text.take 3 = [mark, mark, mark] then
      let extra := ((text.drop 3).take 2).takeWhile (· == mark)
      some (String.ofList (before.reverse ++ extra), text.drop (3 + extra.length))
    else
      match text with
      | '\\' :: rest =>
        if escapes then
          match foldLine? rest with
          | some rest => multiLine? mark escapes fuel rest before
          | none =>
            match rest with
            | 'u' :: a :: b :: c :: d :: rest =>
              (codePoint? [a, b, c, d]).bind fun character =>
                multiLine? mark escapes fuel rest (character :: before)
            | 'U' :: a :: b :: c :: d :: e :: f :: g :: h :: rest =>
              (codePoint? [a, b, c, d, e, f, g, h]).bind fun character =>
                multiLine? mark escapes fuel rest (character :: before)
            | c :: rest =>
              (simpleEscape? c).bind fun character =>
                multiLine? mark escapes fuel rest (character :: before)
            | [] => none
        else multiLine? mark escapes fuel rest ('\\' :: before)
      | c :: rest =>
        match lineBreak? text with
        | some rest => multiLine? mark escapes fuel rest ('\n' :: before)
        | none => if isPlain c then multiLine? mark escapes fuel rest (c :: before) else none
      | [] => none

def string? (text : List Char) : Option (String × List Char) :=
  let opened (rest : List Char) : List Char := (lineBreak? rest).getD rest
  match text with
  | '\x22' :: '\x22' :: '\x22' :: rest => multiLine? '\x22' true (text.length + 1) (opened rest) []
  | '\x27' :: '\x27' :: '\x27' :: rest => multiLine? '\x27' false (text.length + 1) (opened rest) []
  | '\x22' :: rest => basic? rest []
  | '\x27' :: rest => literal? rest []
  | _ => none

def isBare (c : Char) : Bool := c.isAlphanum || c == '_' || c == '-'

def keyPart? : List Char → Option (String × List Char)
  | '\x22' :: rest => basic? rest []
  | '\x27' :: rest => literal? rest []
  | text =>
    let part := text.takeWhile isBare
    if part.isEmpty then none else some (String.ofList part, text.dropWhile isBare)

/-- How many levels a value and how many parts a key stay below. -/
def depthLimit : Nat := 80

/-- Reads a dotted key of at most as many parts as the fuel says. -/
def keyParts? : (fuel : Nat) → List Char → Option (List String × List Char)
  | 0, _ => none
  | fuel + 1, text =>
    match keyPart? (skipSpaces text) with
    | none => none
    | some (part, rest) =>
      match skipSpaces rest with
      | '.' :: rest => (keyParts? fuel rest).map fun (parts, rest) => (part :: parts, rest)
      | rest => some ([part], rest)

def key? : List Char → Option (List String × List Char) := keyParts? (depthLimit - 1)

/-! ### Numbers and times -/

/-- Removes underscores, each of which stands between two digits. -/
def joinDigits? (isDigit : Char → Bool) : List Char → Option (List Char)
  | a :: '_' :: b :: rest =>
    if isDigit a && isDigit b then (joinDigits? isDigit (b :: rest)).map (a :: ·) else none
  | a :: rest => if isDigit a then (joinDigits? isDigit rest).map (a :: ·) else none
  | [] => some []

def baseValue (base : Nat) (digits : List Char) : Nat :=
  digits.foldl (fun value c => value * base + (Json.hexDigit? c).getD 0) 0

def isDigit (c : Char) : Bool := (Text.digit? c).isSome

/-- The digits of a decimal number that does not begin with a needless zero. -/
def plainDigits? (digits : List Char) : Option (List Char) :=
  (joinDigits? isDigit digits).bind fun digits =>
    if digits.isEmpty || (digits.length > 1 && digits.head? == some '0') then none else some digits

def integer? (negative : Bool) (magnitude : Nat) : Option Document :=
  if negative then
    if magnitude ≤ 2 ^ 63 then some (.integer (-magnitude)) else none
  else if magnitude < 2 ^ 63 then some (.integer magnitude) else none

/-- An integer in base 16, 8 or 2 behind its mark. -/
def based? (base : Nat) (digits : List Char) : Option Document :=
  let isDigit (c : Char) : Bool := ((Json.hexDigit? c).getD base) < base
  (joinDigits? isDigit digits).bind fun digits =>
    if digits.isEmpty then none else integer? false (baseValue base digits)

/-- A floating-point number behind its sign. One too large for a double is refused, while one too far
below zero is the negative infinity. -/
def float? (negative : Bool) (token : List Char) : Option Document :=
  let isMark (c : Char) : Bool := c == 'e' || c == 'E'
  let mantissa := token.takeWhile fun c => !isMark c
  let exponent := (token.dropWhile fun c => !isMark c).drop 1
  let marked := token.any isMark
  let whole := mantissa.takeWhile (· != '.')
  let fraction := (mantissa.dropWhile (· != '.')).drop 1
  let pointed := mantissa.contains '.'
  do
    let whole ← plainDigits? whole
    let fraction ← joinDigits? isDigit fraction
    if pointed && fraction.isEmpty then none else some ()
    let (sign, digits) : List Char × List Char := match exponent with
      | '-' :: digits => (['-'], digits)
      | '+' :: digits => ([], digits)
      | digits => ([], digits)
    let digits ← joinDigits? isDigit digits
    let exponent ← if marked then Binary64.exponent? (sign ++ digits) else some 0
    let numeral : Numeral :=
      ⟨negative, Binary64.digitsValue (whole ++ fraction), exponent - fraction.length⟩
    let x := numeral.nearest
    if x.IsFinite ∨ negative then some (.real x) else none

/-- The number that a token writes behind its sign. -/
def signedNumber? (negative : Bool) (token : List Char) : Option Document :=
  if token = "inf".toList then some (.real (Binary64.infinite negative))
  else if token = "nan".toList then some (.real { Binary64.nan with negative := negative })
  else
    match plainDigits? token with
    | some digits => integer? negative (baseValue 10 digits)
    | none => float? negative token

def number? : List Char → Option Document
  | '+' :: token => signedNumber? false token
  | '-' :: token => signedNumber? true token
  | '0' :: 'x' :: digits => based? 16 digits
  | '0' :: 'o' :: digits => based? 8 digits
  | '0' :: 'b' :: digits => based? 2 digits
  | token => signedNumber? false token

/-- The value of digits in a fixed number of places. -/
def places? (digits : List Char) : Option Nat :=
  if digits.all isDigit then some (baseValue 10 digits) else none

def daysInMonth (year month : Nat) : Nat :=
  if month = 2 then
    if year % 4 = 0 ∧ (year % 100 ≠ 0 ∨ year % 400 = 0) then 29 else 28
  else if month = 4 ∨ month = 6 ∨ month = 9 ∨ month = 11 then 30
  else 31

def date? : List Char → Option (List Char)
  | a :: b :: c :: d :: '-' :: e :: f :: '-' :: g :: h :: rest => do
    let year ← places? [a, b, c, d]
    let month ← places? [e, f]
    let day ← places? [g, h]
    if 1 ≤ month ∧ month ≤ 12 ∧ 1 ≤ day ∧ day ≤ daysInMonth year month then some rest else none
  | _ => none

def time? : List Char → Option (List Char)
  | a :: b :: ':' :: c :: d :: ':' :: e :: f :: rest => do
    let hour ← places? [a, b]
    let minute ← places? [c, d]
    let second ← places? [e, f]
    if hour ≤ 23 ∧ minute ≤ 59 ∧ second ≤ 60 then
      match rest with
      | '.' :: digits =>
        if digits.head?.any isDigit then some (digits.dropWhile isDigit) else none
      | rest => some rest
    else none
  | _ => none

/-- Reads a distance from universal time, if one stands here. -/
def offset? : List Char → Option (List Char)
  | 'Z' :: rest | 'z' :: rest => some rest
  | sign :: a :: b :: ':' :: c :: d :: rest =>
    if sign = '+' ∨ sign = '-' then do
      let hour ← places? [a, b]
      let minute ← places? [c, d]
      if hour ≤ 23 ∧ minute ≤ 59 then some rest else none
    else some (sign :: a :: b :: ':' :: c :: d :: rest)
  | rest => some rest

/-- Reads a date, a time or both. A moment is a table with one field that no structure has. -/
def moment? (text : List Char) : Option (Document × List Char) :=
  let ended (rest : List Char) : Option (Document × List Char) :=
    let shown := text.take (text.length - rest.length)
    some (.table [("$moment", .text (String.ofList shown))], rest)
  match date? text with
  | some (mark :: rest) =>
    let timed := mark = 'T' ∨ mark = 't' ∨ (mark = ' ' ∧ (rest.take 2).length = 2 ∧
      (rest.take 2).all isDigit)
    if timed then ((time? rest).bind offset?).bind ended else ended (mark :: rest)
  | some [] => ended []
  | none => (time? text).bind ended

def isTokenCharacter (c : Char) : Bool := c.isAlphanum || c == '_' || c == '+' || c == '-' || c == '.'

/-- Reads a truth value, a number or a moment. -/
def scalar? (text : List Char) : Option (Document × List Char) :=
  match moment? text with
  | some result => some result
  | none =>
    let token := text.takeWhile isTokenCharacter
    let rest := text.dropWhile isTokenCharacter
    if token = "true".toList then some (.bool true, rest)
    else if token = "false".toList then some (.bool false, rest)
    else (number? token).map fun document => (document, rest)

/-! ### Values and statements -/

mutual

/-- Reads one value inside `depth` lists and tables; `fuel` bounds the nesting and the number of items
together. -/
def value? : (fuel depth : Nat) → List Char → Option (Document × List Char)
  | 0, _, _ => none
  | fuel + 1, depth, text =>
    match text with
    | '[' :: rest =>
      if depth + 1 < depthLimit then
        (items? fuel (depth + 1) rest).map fun (items, rest) => (.list items, rest)
      else none
    | '\x7b' :: rest =>
      if depth + 1 < depthLimit then
        match skipSpaces rest with
        | '\x7d' :: rest => some (.table [], rest)
        | rest => (inlineFields? fuel (depth + 1) rest []).map fun (fields, rest) =>
            (.table (documents fields), rest)
      else none
    | '\x22' :: _ | '\x27' :: _ => (string? text).map fun (value, rest) => (.text value, rest)
    | _ => scalar? text

/-- Reads the items of a list up to its closing bracket; the last may have a comma behind it. -/
def items? : (fuel depth : Nat) → List Char → Option (List Document × List Char)
  | 0, _, _ => none
  | fuel + 1, depth, text =>
    match skipLines text.length text with
    | ']' :: rest => some ([], rest)
    | text =>
      match value? fuel depth text with
      | none => none
      | some (item, rest) =>
        match skipLines rest.length rest with
        | ']' :: rest => some ([item], rest)
        | ',' :: rest => (items? fuel depth rest).map fun (items, rest) => (item :: items, rest)
        | _ => none

/-- Reads the assignments of a table on one line up to its closing brace. -/
def inlineFields? : (fuel depth : Nat) → List Char → Fields → Option (Fields × List Char)
  | 0, _, _, _ => none
  | fuel + 1, depth, text, fields =>
    match key? text with
    | some (key, '=' :: rest) =>
      match value? fuel depth (skipSpaces rest) with
      | none => none
      | some (document, rest) =>
        match assign key document .header fields with
        | none => none
        | some fields =>
          match skipSpaces rest with
          | '\x7d' :: rest => some (fields, rest)
          | ',' :: rest => inlineFields? fuel depth rest fields
          | _ => none
    | _ => none

end

/-- Runs the statements of a text on the tree, `here` being the path of the table that is open. -/
def run? : (fuel : Nat) → List Char → (here : List String) → Fields → Option Fields
  | 0, _, _, _ => none
  | fuel + 1, text, here, root =>
    match skipComment (skipSpaces text) with
    | [] => some root
    | '[' :: '[' :: rest =>
      match key? rest with
      | some (key, ']' :: ']' :: rest) => do
        run? fuel (← lineEnd? rest) key (← appendTable key root)
      | _ => none
    | '[' :: rest =>
      match key? rest with
      | some (key, ']' :: rest) => do
        run? fuel (← lineEnd? rest) key (← openTable key root)
      | _ => none
    | text =>
      match lineBreak? text with
      | some rest => run? fuel rest here root
      | none =>
        match key? text with
        | some (key, '=' :: rest) => do
          let (document, rest) ← value? (rest.length + 1) 0 (skipSpaces rest)
          let root ← within false (assign key document) here .header root
          run? fuel (← lineEnd? rest) here root
        | _ => none

/-- Reads a settings file into a table. -/
def read? (text : String) : Option Document :=
  let characters := match text.toList with
    | '\uFEFF' :: rest => rest
    | rest => rest
  (run? (characters.length + 2) characters [] []).map fun fields => .table (documents fields)

end Lending.Toml
