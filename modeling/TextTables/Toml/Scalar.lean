import TextTables.Number.Decimal
import TextTables.Toml.Quoted
import TextTables.Toml.Value

/-!
# Scalars of a TOML document

What a single word stands for: a text, a number, a truth value, or a date or
time.  Numbers may be of any size here, and a whole number may even have no value;
whether a number can be used is asked only where it is used.
-/

namespace TextTables.Toml

/-- Whether every underscore stands between two digits of a kind, where `before`
says whether a digit comes in front. -/
def areGrouped (isDigit : Char → Bool) : (before : Bool) → List Char → Bool
  | _, [] => true
  | before, c :: rest =>
    (c != '_' || before && rest.head?.any isDigit) && areGrouped isDigit (isDigit c) rest

/-- Takes the underscores from between digits of a kind.  There must be digits, and
nothing else. -/
def ungroup? (isDigit : Char → Bool) (cs : List Char) : Option (List Char) :=
  let digits := cs.filter (· != '_')
  if areGrouped isDigit false cs && !digits.isEmpty && digits.all isDigit then some digits
  else none

/-- The number that digits stand for in a base. -/
def valueIn (base : Nat) (cs : List Char) : Nat :=
  cs.foldl (fun value c => base * value + (hexDigit? c).getD 0) 0

/-- A whole number without sign, in a base that it begins with the mark of.  The
mark alone is whole, but no number. -/
def based? : List Char → Option (Option Int)
  | '0' :: mark :: digits => do
    let base ←
      match mark with
      | 'x' => some 16
      | 'o' => some 8
      | 'b' => some 2
      | _ => none
    let isDigit (c : Char) : Bool := ((hexDigit? c).map (Nat.blt · base)).getD false
    if digits.isEmpty then return none
    return some (Int.ofNat (valueIn base (← ungroup? isDigit digits)))
  | _ => none

/-- A whole number in base ten, which begins with a digit behind its sign.  The
digits on both sides of an underscore may be those of any base, and the characters
that are none of them are not looked at here, so they may make no number. -/
def whole? (cs : List Char) : Option (Option Int) :=
  let (negative, unsigned) := Decimal.takeSign cs
  if unsigned.head? == some '0' && unsigned != ['0'] then none
  else if areGrouped (fun c => (hexDigit? c).isSome) false unsigned then
    let digits := unsigned.filter (· != '_')
    let value := Int.ofNat (Decimal.valueOf digits)
    if Decimal.areDigits digits then some (some (if negative then -value else value))
    else some none
  else
    none

/-- Digits of a decimal number, without idle zeros in front. -/
def wholeDigits? (cs : List Char) : Option (List Char) := do
  let digits ← ungroup? Char.isDigit cs
  match digits with
  | '0' :: _ :: _ => none
  | _ => some digits

/-- The digits behind the point of a number, if it has one. -/
def placesOf? : List Char → Option (List Char)
  | [] => some []
  | _ :: digits => ungroup? Char.isDigit digits

/-- The power of ten that a number is multiplied by: none is the power zero. -/
def powerOf? : List Char → Option Int
  | [] => some 0
  | _ :: signed => do
    let (negative, unsigned) := Decimal.takeSign signed
    let value := Int.ofNat (Decimal.valueOf (← ungroup? Char.isDigit unsigned))
    return if negative then -value else value

/-- A number with a fraction, an exponent or both, without its sign. -/
def fraction? (unsigned : List Char) : Option Scientific := do
  let isE (c : Char) : Bool := c == 'e' || c == 'E'
  let mantissa := unsigned.takeWhile fun c => !isE c
  let whole ← wholeDigits? (mantissa.takeWhile (· != '.'))
  let places ← placesOf? (mantissa.dropWhile (· != '.'))
  let power ← powerOf? (unsigned.dropWhile fun c => !isE c)
  return ⟨whole ++ places, power - places.length⟩

/-- The number of two digits, if it is in a range. -/
def twoDigits? (low high : Nat) (a b : Char) : Option Nat :=
  if a.isDigit && b.isDigit then
    let value := Decimal.valueOf [a, b]
    if low ≤ value ∧ value ≤ high then some value else none
  else
    none

/-- The number of days of a month. -/
def daysOf (year month : Nat) : Nat :=
  if month == 2 then
    if year % 4 == 0 && (year % 100 != 0 || year % 400 == 0) then 29 else 28
  else if month == 4 || month == 6 || month == 9 || month == 11 then 30
  else 31

/-- Whether characters are a date. -/
def isDate : List Char → Bool
  | [y1, y2, y3, y4, '-', m1, m2, '-', d1, d2] =>
    [y1, y2, y3, y4].all Char.isDigit &&
      match twoDigits? 1 12 m1 m2 with
      | some month => (twoDigits? 1 (daysOf (Decimal.valueOf [y1, y2, y3, y4]) month) d1 d2).isSome
      | none => false
  | _ => false

/-- Whether characters are the seconds of a time, which may be left out. -/
def areSeconds : List Char → Bool
  | [] => true
  | ':' :: s1 :: s2 :: fraction =>
    (twoDigits? 0 60 s1 s2).isSome &&
      match fraction with
      | [] => true
      | '.' :: digits => Decimal.areDigits digits
      | _ => false
  | _ => false

/-- Whether characters are a time of day. -/
def isTimeOfDay : List Char → Bool
  | h1 :: h2 :: ':' :: m1 :: m2 :: seconds =>
    (twoDigits? 0 23 h1 h2).isSome && (twoDigits? 0 59 m1 m2).isSome && areSeconds seconds
  | _ => false

/-- Whether characters are a time of day with an offset or without. -/
def isTimeWithOffset (cs : List Char) : Bool :=
  let isSign (c : Char) : Bool := c == '+' || c == '-' || c == 'Z' || c == 'z'
  let time := cs.takeWhile fun c => !isSign c
  isTimeOfDay time &&
    match cs.dropWhile fun c => !isSign c with
    | [] => true
    | [c] => c == 'Z' || c == 'z'
    | [c, h1, h2, ':', m1, m2] =>
      (c == '+' || c == '-') && (twoDigits? 0 23 h1 h2).isSome && (twoDigits? 0 59 m1 m2).isSome
    | _ => false

/-- Whether characters are a date, a time of day, or both. -/
def isTime (cs : List Char) : Bool :=
  isTimeOfDay cs || isDate cs ||
    isDate (cs.take 10) &&
      match cs.drop 10 with
      | c :: time => (c == 'T' || c == 't' || c == ' ') && isTimeWithOffset time
      | [] => false

/-- The value of characters that begin with a digit, behind a sign or not.  What
follows the first digits tells a time, a fraction and a whole number apart. -/
def numeric? (cs : List Char) : Option Value :=
  let unsigned := (Decimal.takeSign cs).2
  let tail := unsigned.dropWhile Char.isDigit
  if !unsigned.head?.any Char.isDigit then none
  else if tail.head? == some '-' || tail.head? == some ':' then
    if isTime cs then some (.time (String.ofList cs)) else none
  else if tail.contains ' ' then none
  else if tail.any fun c => c == '.' || c == 'e' || c == 'E' then
    (fraction? unsigned).map (.fraction ∘ some)
  else if tail.isEmpty || tail.head? == some '_' then (whole? cs).map .integer
  else none

/-- The value that characters without quotes stand for.  The words for infinity and
for no number have no digits. -/
def bare? (cs : List Char) : Option Value :=
  let unsigned := (Decimal.takeSign cs).2
  if cs == "true".toList then some (.boolean true)
  else if cs == "false".toList then some (.boolean false)
  else if unsigned == "inf".toList || unsigned == "nan".toList then some (.fraction none)
  else
    match based? cs with
    | some value => some (.integer value)
    | none => numeric? cs

namespace Word

/-- The value that a word stands for. -/
def value? : Word → Option Value
  | bare cs => bare? cs
  | quoted q cs => (q.text? cs).map .string

/-- A character of a key without quotes. -/
def isKeyChar (c : Char) : Bool :=
  c.isAlphanum || c == '-' || c == '_'

/-- The key that a word stands for.  A key has one line. -/
def key? : Word → Option String
  | bare cs => if !cs.isEmpty && cs.all isKeyChar then some (String.ofList cs) else none
  | quoted q cs => if q.block then none else q.text? cs

end Word

end TextTables.Toml
