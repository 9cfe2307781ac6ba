namespace GatedProxy

-- Text is what came from outside: from a peer, from a user, from a name table. It is the list
-- of its Unicode scalar values, so every reader of it is a recursion on data. String is kept
-- for the proxy's own wording.
abbrev Text := List Char

abbrev Bytes := List UInt8

namespace Text

def splitFirst (sep : Char) : Text → Option (Text × Text)
  | [] => none
  | c :: rest =>
    if c = sep then some ([], rest)
    else (splitFirst sep rest).map fun (before, after) => (c :: before, after)

def splitLast (sep : Char) : Text → Option (Text × Text)
  | [] => none
  | c :: rest =>
    match splitLast sep rest with
    | some (before, after) => some (c :: before, after)
    | none => if c = sep then some ([], rest) else none

def pieces (sep : Char) : Text → Text × List Text
  | [] => ([], [])
  | c :: rest =>
    let (first, others) := pieces sep rest
    if c = sep then ([], first :: others) else (c :: first, others)

def after? : Text → Text → Option Text
  | [], t => some t
  | _ :: _, [] => none
  | a :: lead, c :: t => if a = c then after? lead t else none

def afterAnyCase? : Text → Text → Option Text
  | [], t => some t
  | _ :: _, [] => none
  | a :: lead, c :: t => if a.toLower = c.toLower then afterAnyCase? lead t else none

def before? (tail t : Text) : Option Text :=
  (after? tail.reverse t.reverse).map List.reverse

def lines (t : Text) : List Text :=
  let (first, others) := pieces '\n' t
  let all := first :: others
  let ended := all.dropLast.map fun line => (before? ['\r'] line).getD line
  match all.getLast? with
  | none | some [] => ended
  | some rest => ended ++ [rest]

-- The pieces between CRLF pairs. A carriage return or a line feed alone stays in its piece.
def crlfLines : Text → Text × List Text
  | [] => ([], [])
  | '\r' :: '\n' :: rest =>
    let (first, others) := crlfLines rest
    ([], first :: others)
  | c :: rest =>
    let (first, others) := crlfLines rest
    (c :: first, others)

def crlf : Text := ['\r', '\n']

def joinCrlf (first : Text) (others : List Text) : Text :=
  first ++ others.flatMap (crlf ++ ·)

-- Order by scalar value, which is also the order of the UTF-8 bytes.
def le : Text → Text → Bool
  | [], _ => true
  | _ :: _, [] => false
  | a :: s, b :: t => if a = b then le s t else decide (a.toNat < b.toNat)

end Text

abbrev CharRanges := List (Nat × Nat)

def CharRanges.has (ranges : CharRanges) (c : Char) : Bool :=
  ranges.any fun (first, last) => first ≤ c.toNat && c.toNat ≤ last

namespace Text

def blankRanges : CharRanges :=
  [(0x9, 0xd), (0x20, 0x20), (0x85, 0x85), (0xa0, 0xa0), (0x1680, 0x1680), (0x2000, 0x200a),
   (0x2028, 0x2029), (0x202f, 0x202f), (0x205f, 0x205f), (0x3000, 0x3000)]

def isBlank (c : Char) : Bool := blankRanges.has c

def trimStart (t : Text) : Text := t.dropWhile isBlank

def trimEnd (t : Text) : Text := (t.reverse.dropWhile isBlank).reverse

def trim (t : Text) : Text := trimEnd (trimStart t)

def stretches : Text → Text × List Text
  | [] => ([], [])
  | c :: rest =>
    let (first, others) := stretches rest
    if isBlank c then ([], first :: others) else (c :: first, others)

def words (t : Text) : List Text :=
  let (first, others) := stretches t
  (first :: others).filter fun w => !w.isEmpty

def decimal (n : Nat) : Text := Nat.toDigits 10 n

def hex (n : Nat) : Text := Nat.toDigits 16 n

def hexPadded (width n : Nat) : Text :=
  List.replicate (width - (hex n).length) '0' ++ hex n

-- Only the ASCII digits count, not the decimal digits of other scripts.
def digit? (c : Char) : Option Nat := if c.isDigit then some (c.toNat - '0'.toNat) else none

def hexDigit? (c : Char) : Option Nat :=
  if c.isDigit then some (c.toNat - '0'.toNat)
  else if 'a' ≤ c && c ≤ 'f' then some (c.toNat - 'a'.toNat + 10)
  else if 'A' ≤ c && c ≤ 'F' then some (c.toNat - 'A'.toNat + 10)
  else none

inductive NumberFault where
  | empty
  | badDigit
  | tooLarge
  | tooSmall
  deriving DecidableEq, Repr

def NumberFault.reason : NumberFault → String
  | .empty => "cannot parse integer from empty string"
  | .badDigit => "invalid digit found in string"
  | .tooLarge => "number too large to fit in target type"
  | .tooSmall => "number too small to fit in target type"

def digitsUpTo (bound : Nat) (beyond : NumberFault) : Nat → Text → Except NumberFault Nat
  | value, [] => .ok value
  | value, c :: rest =>
    match digit? c with
    | none => .error .badDigit
    | some d =>
      if value * 10 + d ≤ bound then digitsUpTo bound beyond (value * 10 + d) rest
      else .error beyond

def unsigned (bound : Nat) : Text → Except NumberFault Nat
  | [] => .error .empty
  | ['+'] => .error .badDigit
  | '+' :: digits => digitsUpTo bound .tooLarge 0 digits
  | digits => digitsUpTo bound .tooLarge 0 digits

def max64 : Nat := 0xffffffffffffffff

def signed64 : Text → Except NumberFault Int
  | ['-'] => .error .badDigit
  | '-' :: digits => (digitsUpTo 0x8000000000000000 .tooSmall 0 digits).map fun n => -(n : Int)
  | t => (unsigned 0x7fffffffffffffff t).map fun n => (n : Int)

def isExponent : Text → Bool
  | [] => true
  | c :: rest =>
    let digits :=
      match rest with
      | '+' :: digits => digits
      | '-' :: digits => digits
      | digits => digits
    (c = 'e' || c = 'E') && !digits.isEmpty && digits.all Char.isDigit

def isDecimal (t : Text) : Bool :=
  let rest := t.dropWhile Char.isDigit
  let (places, rest) :=
    match rest with
    | '.' :: rest => (rest.takeWhile Char.isDigit, rest.dropWhile Char.isDigit)
    | rest => ([], rest)
  ["inf", "infinity", "nan"].any (fun name => afterAnyCase? name.toList t = some []) ||
    ((t.head?.any Char.isDigit || !places.isEmpty) && isExponent rest)

def utf8 (t : Text) : Bytes := t.flatMap String.utf8EncodeChar

def utf8Size (t : Text) : Nat := t.foldl (fun size c => size + c.utf8Size) 0

def splitBytes? : Nat → Text → Option (Text × Text)
  | 0, t => some ([], t)
  | _ + 1, [] => none
  | n + 1, c :: rest =>
    if c.utf8Size ≤ n + 1 then
      (splitBytes? (n + 1 - c.utf8Size) rest).map fun (before, after) => (c :: before, after)
    else none

def betweenBytes? (first last : Nat) (t : Text) : Option Text := do
  let (_, after) ← splitBytes? first t
  let (between, _) ← splitBytes? (last - first) after
  some between

-- The scalar value that a lead byte and its continuation bytes would spell. Nothing is checked
-- here: `ofUtf8?` writes the character back and compares.
def scalar1 (a : UInt8) : Char := Char.ofNat a.toNat

def scalar2 (a b : UInt8) : Char := Char.ofNat (a.toNat % 32 * 64 + b.toNat % 64)

def scalar3 (a b c : UInt8) : Char :=
  Char.ofNat (a.toNat % 16 * 4096 + b.toNat % 64 * 64 + c.toNat % 64)

def scalar4 (a b c d : UInt8) : Char :=
  Char.ofNat (a.toNat % 8 * 262144 + b.toNat % 64 * 4096 + c.toNat % 64 * 64 + d.toNat % 64)

-- The text whose encoding the bytes are, if there is one. Overlong forms, surrogates and values
-- past the last scalar fail, because no character is written so.
def ofUtf8? : Bytes → Option Text
  | [] => some []
  | a :: rest =>
    if a < 0x80 then (ofUtf8? rest).map (scalar1 a :: ·)
    else
      match rest with
      | [] => none
      | b :: rest =>
        if String.utf8EncodeChar (scalar2 a b) = [a, b] then
          (ofUtf8? rest).map (scalar2 a b :: ·)
        else
          match rest with
          | [] => none
          | c :: rest =>
            if String.utf8EncodeChar (scalar3 a b c) = [a, b, c] then
              (ofUtf8? rest).map (scalar3 a b c :: ·)
            else
              match rest with
              | [] => none
              | d :: rest =>
                if String.utf8EncodeChar (scalar4 a b c d) = [a, b, c, d] then
                  (ofUtf8? rest).map (scalar4 a b c d :: ·)
                else none

end Text

end GatedProxy
