/-
CountingHouse.Json.Parser — reading JSON text.

The reader takes one value with blanks around it and nothing else. It is
strict: no comments, no trailing commas, no leading zeros, no control
characters in strings, no byte order mark. Names may repeat and values
may be nested to any depth. Each part of the reader takes the text it is
to read and gives back what it read and the text after it.
-/
import CountingHouse.Json.Value

namespace CountingHouse.Json

/-! ## Blanks, literals and numbers -/

/-- The characters that may stand around a value. -/
def isBlank (c : Char) : Bool :=
  c = ' ' || c = '\t' || c = '\n' || c = '\r'

/-- Passes over blanks. -/
def skipBlanks (s : List Char) : List Char :=
  s.dropWhile isBlank

/-- Reads a word exactly as it is given. -/
def expect? (word : List Char) (s : List Char) : Option (List Char) :=
  if word.isPrefixOf s then some (s.drop word.length) else none

/-- Reads digits as far as there are any; at least one. -/
def someDigits? (s : List Char) : Option (List Char × List Char) :=
  match s.span Char.isDigit with
  | ([], _) => none
  | (digits, rest) => some (digits, rest)

/-- Reads the whole part of a number: a zero, or digits that do not begin
with one. -/
def wholePart? : List Char → Option (List Char × List Char)
  | '0' :: s => some (['0'], s)
  | s => someDigits? s

/-- Reads the fraction of a number, if there is one. -/
def fraction? : List Char → Option (List Char × List Char)
  | '.' :: s => (someDigits? s).map fun (digits, rest) => ('.' :: digits, rest)
  | s => some ([], s)

/-- Reads the exponent of a number, if there is one. -/
def exponent? : List Char → Option (List Char × List Char)
  | c :: s =>
    if c = 'e' || c = 'E' then
      let (sign, s) := match s with
        | '+' :: s => (['+'], s)
        | '-' :: s => (['-'], s)
        | s => ([], s)
      (someDigits? s).map fun (digits, rest) => (c :: sign ++ digits, rest)
    else some ([], c :: s)
  | [] => some ([], [])

/-- The value of a number from its parts. Only a number without fraction
and exponent is an integer, and negative zero is none. -/
def numberOf (isNegative : Bool) (whole tail : List Char) : Json :=
  let value : Int := Nat.ofDigitChars 10 whole 0
  let sign := if isNegative then ['-'] else []
  if tail.isEmpty && !(isNegative && value = 0) then
    .integer (if isNegative then -value else value)
  else .real (String.ofList (sign ++ whole ++ tail))

/-- Reads a number. -/
def number? (s : List Char) : Option (Json × List Char) :=
  let (isNegative, s) := match s with
    | '-' :: s => (true, s)
    | s => (false, s)
  match wholePart? s with
  | none => none
  | some (whole, s) =>
    match fraction? s with
    | none => none
    | some (fraction, s) =>
      match exponent? s with
      | none => none
      | some (exponent, s) => some (numberOf isNegative whole (fraction ++ exponent), s)

/-! ## Strings -/

/-- The code unit of an escape of one letter. -/
def escapeUnit? : Char → Option Nat
  | '"' => some 0x22
  | '\\' => some 0x5C
  | '/' => some 0x2F
  | 'b' => some 0x08
  | 'f' => some 0x0C
  | 'n' => some 0x0A
  | 'r' => some 0x0D
  | 't' => some 0x09
  | _ => none

/-- Reads a string up to and with its closing quote, as numbers: a
character gives its code point, an escape the code unit it stands for. -/
def units? : List Char → Option (List Nat × List Char)
  | [] => none
  | c :: s =>
    if c = '"' then some ([], s)
    else if c = '\\' then
      match s with
      | 'u' :: h₁ :: h₂ :: h₃ :: h₄ :: s =>
        match Text.hexDigits? [h₁, h₂, h₃, h₄] with
        | none => none
        | some n => (units? s).map fun (units, rest) => (n :: units, rest)
      | e :: s =>
        match escapeUnit? e with
        | none => none
        | some n => (units? s).map fun (units, rest) => (n :: units, rest)
      | [] => none
    else if c.toNat < 0x20 then none
    else (units? s).map fun (units, rest) => (c.toNat :: units, rest)

/-- Is the code unit the first half of a surrogate pair? -/
def isHighSurrogate (n : Nat) : Bool :=
  0xD800 ≤ n && n < 0xDC00

/-- Is the code unit the second half of a surrogate pair? -/
def isLowSurrogate (n : Nat) : Bool :=
  0xDC00 ≤ n && n < 0xE000

/-- The characters that code units make; a half of a surrogate pair by
itself makes none. -/
def charsOfUnits? : List Nat → Option (List Char)
  | [] => some []
  | n :: rest =>
    if isHighSurrogate n then
      match rest with
      | m :: rest =>
        if isLowSurrogate m then
          (charsOfUnits? rest).map
            (Char.ofNat (0x10000 + (n - 0xD800) * 0x400 + (m - 0xDC00)) :: ·)
        else none
      | [] => none
    else if isLowSurrogate n then none
    else (charsOfUnits? rest).map (Char.ofNat n :: ·)

/-- Reads a string after its opening quote. -/
def text? (s : List Char) : Option (Option String × List Char) :=
  (units? s).map fun (units, rest) => ((charsOfUnits? units).map String.ofList, rest)

/-! ## Values -/

/-- Reads a value that is no string, array or object. -/
def scalar? (s : List Char) : Option (Json × List Char) :=
  match s with
  | 'n' :: _ => (expect? "null".toList s).map (Json.null, ·)
  | 't' :: _ => (expect? "true".toList s).map (Json.bool true, ·)
  | 'f' :: _ => (expect? "false".toList s).map (Json.bool false, ·)
  | s => number? s

mutual

/-- Reads a value, with blanks before it. The first argument bounds the
number of steps; the length of the text is always enough. -/
def value? : Nat → List Char → Option (Json × List Char)
  | 0, _ => none
  | steps + 1, s =>
    match skipBlanks s with
    | '"' :: s => (text? s).map fun (text, rest) => (.string text, rest)
    | '[' :: s =>
      match skipBlanks s with
      | ']' :: s => some (.array [], s)
      | s => (elements? steps s).map fun (elements, rest) => (.array elements, rest)
    | '{' :: s =>
      match skipBlanks s with
      | '}' :: s => some (.object [], s)
      | s => (members? steps s).map fun (members, rest) => (.object members, rest)
    | s => scalar? s

/-- Reads the values of an array, up to and with the closing bracket. -/
def elements? : Nat → List Char → Option (List Json × List Char)
  | 0, _ => none
  | steps + 1, s =>
    match value? steps s with
    | none => none
    | some (value, s) =>
      match skipBlanks s with
      | ']' :: s => some ([value], s)
      | ',' :: s => (elements? steps s).map fun (values, rest) => (value :: values, rest)
      | _ => none

/-- Reads the members of an object, up to and with the closing brace. -/
def members? : Nat → List Char → Option (List (Option String × Json) × List Char)
  | 0, _ => none
  | steps + 1, s =>
    match expect? ['"'] (skipBlanks s) with
    | none => none
    | some s =>
      match text? s with
      | none => none
      | some (name, s) =>
        match expect? [':'] (skipBlanks s) with
        | none => none
        | some s =>
          match value? steps s with
          | none => none
          | some (value, s) =>
            match skipBlanks s with
            | '}' :: s => some ([(name, value)], s)
            | ',' :: s =>
              (members? steps s).map fun (members, rest) => ((name, value) :: members, rest)
            | _ => none

end

/-- Reads a text that is one value. -/
def parse? (text : List Char) : Option Json :=
  match value? (text.length + 1) text with
  | some (value, rest) => if (skipBlanks rest).isEmpty then some value else none
  | none => none

end CountingHouse.Json
