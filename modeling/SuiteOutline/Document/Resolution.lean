import SuiteOutline.Document.Real
import SuiteOutline.Document.Token
import SuiteOutline.Text.Displayed

/-!
# What scalars mean

A plain scalar without a tag means what its text looks like: nothing, a truth value, an integer, a
real, or else its text. Four common tags ask for one of these kinds and refuse a text that does not
look like it. Every other scalar means its text.
-/

namespace SuiteOutline.Document

inductive Meaning where
  | null
  | boolean (value : Bool)
  | integer (value : Int)
  /-- An integer that takes more than 64 bits. -/
  | wide (value : Int)
  | real (value : Real)
  | text (value : String)

namespace Meaning

def isNull (text : String) : Bool :=
  text == "null" || text == "Null" || text == "NULL" || text == "~"

def boolean? (text : String) : Option Bool :=
  if text == "true" || text == "True" || text == "TRUE" then some true
  else if text == "false" || text == "False" || text == "FALSE" then some false
  else none

/-! ## Integers -/

def digit? (base : Nat) (character : Char) : Option Nat :=
  let value :=
    if character.isDigit then character.toNat - '0'.toNat
    else if 'a' ≤ character && character ≤ 'f' then character.toNat - 'a'.toNat + 10
    else if 'A' ≤ character && character ≤ 'F' then character.toNat - 'A'.toNat + 10
    else base
  if value < base then some value else none

/-- The number that digits spell in a base; there has to be a digit, and nothing else. -/
def digits? (base : Nat) (characters : List Char) : Option Nat :=
  if characters.isEmpty then none
  else
    characters.foldl (fun number character =>
      match number, digit? base character with
      | some number, some value => some (base * number + value)
      | _, _ => none) (some 0)

def withoutSign : List Char → List Char
  | '+' :: rest => rest
  | '-' :: rest => rest
  | characters => characters

/-- Whether a text consists of digits with a zero too many at its front. -/
def hasLeadingZero (characters : List Char) : Bool :=
  match withoutSign characters with
  | '0' :: rest => !rest.isEmpty && rest.all Char.isDigit
  | _ => false

/-- The base that two characters at the front announce, and what follows them. -/
def announced? : List Char → Option (Nat × List Char)
  | '0' :: 'x' :: rest => some (16, rest)
  | '0' :: 'o' :: rest => some (8, rest)
  | '0' :: 'b' :: rest => some (2, rest)
  | _ => none

def magnitude? (characters : List Char) : Option Nat :=
  match announced? characters with
  | some (base, rest) => digits? base rest
  | none => if hasLeadingZero characters then none else digits? 10 characters

def unsigned? : List Char → Option Nat
  | '-' :: _ => none
  | '+' :: rest => magnitude? rest
  | characters => magnitude? characters

def integer? : List Char → Option Int
  | '-' :: rest => (magnitude? rest).map fun number => -(number : Int)
  | characters => (unsigned? characters).map Int.ofNat

/-- An integer of at most 64 bits, or of at most 128; there are no larger ones. -/
def ofInteger? (value : Int) : Option Meaning :=
  if -Int.pow 2 63 ≤ value && value < Int.pow 2 64 then some (.integer value)
  else if -Int.pow 2 127 ≤ value && value < Int.pow 2 128 then some (.wide value)
  else none

/-! ## Reals -/

/-- A decimal: its digits as one number, how many of them stand after the point, and the number of
digits in all. -/
structure Mantissa where
  digits : Nat
  decimals : Nat
  count : Nat

/-- Reads digits with at most one point among them, and gives what follows them. -/
def mantissa (characters : List Char) : Mantissa × List Char :=
  let number := fun (digits : List Char) => (digits? 10 digits).getD 0
  let whole := characters.takeWhile Char.isDigit
  match characters.dropWhile Char.isDigit with
  | '.' :: rest =>
      let fraction := rest.takeWhile Char.isDigit
      (⟨number (whole ++ fraction), fraction.length, whole.length + fraction.length⟩,
        rest.dropWhile Char.isDigit)
  | rest => (⟨number whole, 0, whole.length⟩, rest)

def exponent? : List Char → Option Int
  | [] => some 0
  | character :: rest =>
      if character == 'e' || character == 'E' then
        match rest with
        | '-' :: digits => (digits? 10 digits).map fun number => -(number : Int)
        | '+' :: digits => (digits? 10 digits).map Int.ofNat
        | digits => (digits? 10 digits).map Int.ofNat
      else none

def decimal? (characters : List Char) : Option Real :=
  let negative := characters.head? == some '-'
  let (number, rest) := mantissa (withoutSign characters)
  if number.count == 0 then none
  else
    match exponent? rest with
    | none => none
    | some power =>
        (Real.ofDecimal? number.digits (power - number.decimals)).map fun (significand, power) =>
          .finite negative significand power

def real? (text : String) : Option Real :=
  if text == ".inf" || text == ".Inf" || text == ".INF" then some (.infinite false)
  else if text == "+.inf" || text == "+.Inf" || text == "+.INF" then some (.infinite false)
  else if text == "-.inf" || text == "-.Inf" || text == "-.INF" then some (.infinite true)
  else if text == ".nan" || text == ".NaN" || text == ".NAN" then some .notANumber
  else decimal? text.toList

/-! ## Scalars -/

def ofIntegerText? (text : String) : Option Meaning :=
  (integer? text.toList).bind ofInteger?

def ofPlain (text : String) : Meaning :=
  if text.isEmpty || isNull text then .null
  else
    match boolean? text with
    | some value => .boolean value
    | none =>
        match ofIntegerText? text with
        | some found => found
        | none =>
            if hasLeadingZero text.toList then .text text
            else
              match real? text with
              | some value => .real value
              | none => .text text

def commonTag (kind : String) : Octets :=
  octets ("tag:yaml.org,2002:" ++ kind)

/-- Whether a tag belongs to the document rather than to all documents. -/
def isLocalTag (tag : Octets) : Bool :=
  tag.head? == some 33

/-- The name of a tag that belongs to the document, if it spells a text: what follows its
exclamation mark, or the mark itself if nothing does. -/
def localTag? (tag : Octets) : Option String :=
  match tag with
  | [] => none
  | first :: name =>
      if first != 33 then none
      else if name.isEmpty then textOf? tag
      else textOf? name

def refusal (text wanted : String) : String :=
  "invalid value: string " ++ Text.displayed text ++ ", expected " ++ wanted

def ofScalar (tag : Option Octets) (text : String) (style : ScalarStyle) :
    Except String Meaning :=
  match tag with
  | none => .ok (if style == .plain then ofPlain text else .text text)
  | some tag =>
      if tag == commonTag "bool" then
        match boolean? text with
        | some value => .ok (.boolean value)
        | none => .error (refusal text "a boolean")
      else if tag == commonTag "int" then
        match ofIntegerText? text with
        | some found => .ok found
        | none => .error (refusal text "an integer")
      else if tag == commonTag "float" then
        match real? text with
        | some value => .ok (.real value)
        | none => .error (refusal text "a float")
      else if tag == commonTag "null" then
        if isNull text then .ok .null else .error (refusal text "null")
      else if isLocalTag tag && style == .plain then .ok (ofPlain text)
      else .ok (.text text)

def words : Meaning → String
  | .null => "unit value"
  | .boolean value => "boolean `" ++ (if value then "true" else "false") ++ "`"
  | .integer value => "integer `" ++ toString value ++ "`"
  | .wide value =>
      "integer `" ++ toString value ++ "` as " ++ (if value < 0 then "i128" else "u128")
  | .real value => "floating point `" ++ value.plainText ++ "`"
  | .text value => "string " ++ Text.displayed value

def mismatch (found wanted : String) : String :=
  "invalid type: " ++ found ++ ", expected " ++ wanted

end Meaning

end SuiteOutline.Document
