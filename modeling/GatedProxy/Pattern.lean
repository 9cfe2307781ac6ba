import GatedProxy.Text.Alphanumeric
import GatedProxy.Text.Basic

namespace GatedProxy.Pattern

-- A pattern is a regular expression, and what is asked of one here is whether it is well formed.
-- With the switch `unicode` its characters are those of Unicode, of which no tables are at hand:
-- nothing may depend on what a letter is or on its case. Without it they are those of ASCII, and
-- nothing may match a part of a character.
structure Switches where
  unicode : Bool := true
  ignoreCase : Bool := false
  spaced : Bool := false
  deriving DecidableEq, Repr

def afterSpace : Bool → Text → Text
  | _, [] => []
  | inRemark, c :: rest =>
    if inRemark then afterSpace (c ≠ '\n') rest
    else if c = '#' then afterSpace true rest
    else if Text.isBlank c then afterSpace false rest
    else c :: rest

namespace Switches

def skip (s : Switches) (t : Text) : Text := if s.spaced then afterSpace false t else t

def peek? (s : Switches) (t : Text) : Option Char :=
  if s.spaced then
    match Text.trimStart t with
    | '#' :: rest => (Text.trimStart rest).head?
    | rest => rest.head?
  else t.head?

def allows (s : Switches) (c : Char) (isByte : Bool) : Bool :=
  if s.unicode then !s.ignoreCase else c.toNat < 128 || !isByte

def allowsInClass (s : Switches) (c : Char) : Bool :=
  if s.unicode then !s.ignoreCase else c.toNat < 128

def change? (s : Switches) (letters : Text) : Option Switches :=
  let (on, off) := (Text.splitFirst '-' letters).getD (letters, [])
  let all := on ++ off
  if letters.getLast? ≠ some '-' && all.all "imsUuRx".toList.contains && all.eraseDups = all then
    let decided (c : Char) (before : Bool) : Bool := on.contains c || (before && !off.contains c)
    some {
      unicode := decided 'u' s.unicode
      ignoreCase := decided 'i' s.ignoreCase
      spaced := decided 'x' s.spaced }
  else none

end Switches

inductive Escape where
  | char (c : Char) (isByte : Bool)
  | charClass
  | place
  deriving DecidableEq, Repr

def readHex (s : Switches) : Nat → Nat → Text → Option (Nat × Text)
  | 0, value, t => some (value, t)
  | digits + 1, value, t =>
    match s.skip t with
    | [] => none
    | c :: rest => (Text.hexDigit? c).bind fun d => readHex s digits (value * 16 + d) rest

def readScalar (s : Switches) (digits : Nat) (t : Text) : Option (Escape × Text) := do
  let (n, rest) ← readHex s digits 0 t
  if n.isValidChar then some (.char (Char.ofNat n) (digits = 2), rest) else none

def namedChar? : Char → Option Char
  | 'a' => some '\x07'
  | 't' => some '\t'
  | 'n' => some '\n'
  | 'v' => some '\x0b'
  | 'f' => some '\x0c'
  | 'r' => some '\r'
  | _ => none

def readEscape (s : Switches) : Text → Option (Escape × Text)
  | [] => none
  | c :: rest =>
    match c with
    | 'x' => readScalar s 2 rest
    | 'u' => readScalar s 4 rest
    | 'U' => readScalar s 8 rest
    | 'd' | 's' | 'w' => if s.unicode then none else some (.charClass, rest)
    | 'b' | 'B' | '<' | '>' => if s.unicode then none else some (.place, rest)
    | 'A' | 'z' => some (.place, rest)
    | c =>
      match namedChar? c with
      | some named => some (.char named false, rest)
      | none => if c.isAlphanum || 128 ≤ c.toNat then none else some (.char c false, rest)

def joinedDepth : List Nat → Nat
  | [] => 0
  | [depth] => depth
  | depths => depths.foldl max 0 + 1

-- A bracket whose end has not come: the depth of what stands before its last operator, and the
-- depths of the items after that. `fresh` is that only minus signs have come, which stand for
-- themselves there.
structure Bracket where
  fresh : Bool := true
  left : Option Nat := none
  items : List Nat := []
  deriving DecidableEq, Repr

namespace Bracket

def operand (b : Bracket) : Nat :=
  let right := joinedDepth b.items
  match b.left with
  | some left => max left right + 1
  | none => right

def depth (b : Bracket) : Nat := b.operand + 1

def push (b : Bracket) (depth : Nat) : Bracket :=
  { b with fresh := false, items := depth :: b.items }

def operator (b : Bracket) : Bracket := { fresh := false, left := some b.operand }

end Bracket

def classNames : List String :=
  ["alnum", "alpha", "ascii", "blank", "cntrl", "digit", "graph", "lower", "print", "punct",
   "space", "upper", "word", "xdigit"]

def namedClass? : Text → Option (Bool × Text)
  | ':' :: t =>
    let (negated, t) :=
      match t with
      | '^' :: t => (true, t)
      | t => (false, t)
    match Text.splitFirst ':' t with
    | some (name, ']' :: rest) =>
      if classNames.contains (String.ofList name) then some (negated, rest) else none
    | _ => none
  | _ => none

namespace Switches

def allowsNamed (s : Switches) (negated : Bool) : Bool :=
  if s.unicode then !s.ignoreCase else !negated

def allowsItem (s : Switches) : Escape → Bool
  | .char c _ => s.allowsInClass c
  | .charClass => true
  | .place => false

-- What follows `[`. The negation of ASCII characters has parts of others in it; the negation of
-- nothing is everything, whose case cannot be ignored inside another bracket.
def openBracket? (s : Switches) (inner : Bool) (t : Text) : Option Text :=
  match s.skip t with
  | '^' :: rest => if s.unicode && !(s.ignoreCase && inner) then some rest else none
  | rest => some rest

def readItem (s : Switches) : Text → Option (Escape × Text)
  | [] => none
  | '\\' :: rest => readEscape s rest
  | c :: rest => some (.char c false, rest)

def readRange (s : Switches) (t : Text) : Option Text := do
  let (first, rest) ← s.readItem t
  match s.skip rest with
  | '-' :: after =>
    if s.peek? after = some ']' || s.peek? after = some '-' then
      if s.allowsItem first then some ('-' :: after) else none
    else
      let (last, rest) ← s.readItem (s.skip after)
      match first, last with
      | .char a _, .char b _ =>
        if a ≤ b && s.allowsInClass a && s.allowsInClass b then some rest else none
      | _, _ => none
  | rest => if s.allowsItem first then some rest else none

-- Up to the end of the outermost bracket: its depth, and what follows. The fuel is the number of
-- characters, each step taking one.
def readBrackets (s : Switches) : Nat → Bracket → List Bracket → Text → Option (Nat × Text)
  | 0, _, _, _ => none
  | fuel + 1, b, outer, t =>
    match s.skip t with
    | [] => none
    | c :: rest =>
      if b.fresh && (c = '-' || (c = ']' && b.items.isEmpty)) then
        if s.allowsInClass c then
          s.readBrackets fuel { b.push 0 with fresh := c = '-' } outer rest
        else none
      else
        match c, rest with
        | '[', rest =>
          match namedClass? rest with
          | some (negated, rest) =>
            if s.allowsNamed negated then s.readBrackets fuel (b.push 0) outer rest else none
          | none =>
            match s.openBracket? true rest with
            | some rest => s.readBrackets fuel {} (b :: outer) rest
            | none => none
        | ']', rest =>
          match outer with
          | [] => some (b.depth, rest)
          | o :: outer => s.readBrackets fuel (o.push b.depth) outer rest
        | '&', '&' :: rest => s.readBrackets fuel b.operator outer rest
        | '-', '-' :: rest => s.readBrackets fuel b.operator outer rest
        | '~', '~' :: rest => s.readBrackets fuel b.operator outer rest
        | c, rest =>
          match s.readRange (c :: rest) with
          | some rest => s.readBrackets fuel (b.push 0) outer rest
          | none => none

def readClass (s : Switches) (t : Text) : Option (Nat × Text) := do
  let rest ← s.openBracket? false t
  s.readBrackets (rest.length + 1) {} [] rest

end Switches

-- A group whose end has not come: the switches outside it, the depths of its finished branches,
-- and those of the items of its last branch, newest first. A change of switches is an item that
-- has no depth and cannot be repeated.
structure Group where
  outside : Switches := {}
  branches : List Nat := []
  items : List (Option Nat) := []
  deriving DecidableEq, Repr

namespace Group

def branch (g : Group) : Nat := joinedDepth (g.items.map fun item => item.getD 0)

def depth (g : Group) : Nat := joinedDepth (g.branch :: g.branches)

def push (g : Group) (item : Option Nat) : Group := { g with items := item :: g.items }

def split (g : Group) : Group := { g with branches := g.branch :: g.branches, items := [] }

end Group

structure Reading where
  switches : Switches := {}
  group : Group := {}
  around : List Group := []
  names : List Text := []
  deriving DecidableEq, Repr

def isGroupName : Text → Bool
  | [] => false
  | c :: rest =>
    (c = '_' || Text.isAlphabetic c) &&
      rest.all fun c => ['_', '.', '[', ']'].contains c || Text.isAlphanumeric c

namespace Reading

def push (r : Reading) (item : Option Nat) : Reading := { r with group := r.group.push item }

def enter (r : Reading) (switches : Switches) : Reading :=
  { r with switches, group := { outside := r.switches }, around := r.group :: r.around }

def leave? (r : Reading) : Option Reading :=
  match r.around with
  | [] => none
  | g :: around =>
    some { r with
      switches := r.group.outside
      group := g.push (some (r.group.depth + 1))
      around }

def repeated? (r : Reading) (rest : Text) : Option (Reading × Text) :=
  match r.group.items with
  | some depth :: items =>
    let r := { r with group := { r.group with items := some (depth + 1) :: items } }
    some (r, (Text.after? ['?'] rest).getD rest)
  | _ => none

def named? (r : Reading) (t : Text) : Option (Reading × Text) := do
  let (name, rest) ← Text.splitFirst '>' t
  if isGroupName name && !r.names.contains name then
    some ({ r.enter r.switches with names := name :: r.names }, rest)
  else none

def switched? (r : Reading) (t : Text) : Option (Reading × Text) := do
  let letters := t.takeWhile fun c => c ≠ ':' && c ≠ ')'
  let switches ← r.switches.change? letters
  match t.drop letters.length with
  | ':' :: rest => some (r.enter switches, rest)
  | ')' :: rest =>
    if letters.isEmpty then none else some ({ r with switches }.push none, rest)
  | _ => none

def opened? (r : Reading) (t : Text) : Option (Reading × Text) :=
  match r.switches.skip t with
  | '?' :: 'P' :: '<' :: rest => r.named? rest
  | '?' :: '<' :: rest => r.named? rest
  | '?' :: rest => r.switched? rest
  | rest => some (r.enter r.switches, rest)

def step? (r : Reading) (c : Char) (rest : Text) : Option (Reading × Text) :=
  match c with
  | '(' => r.opened? rest
  | ')' => r.leave?.map fun r => (r, rest)
  | '|' => some ({ r with group := r.group.split }, rest)
  | '?' | '*' | '+' => r.repeated? rest
  | '{' => none
  | '[' => (r.switches.readClass rest).map fun (depth, rest) => (r.push (some depth), rest)
  | '.' => if r.switches.unicode then some (r.push (some 0), rest) else none
  | '^' | '$' => some (r.push (some 0), rest)
  | '\\' =>
    match readEscape r.switches rest with
    | some (.char c isByte, rest) =>
      if r.switches.allows c isByte then some (r.push (some 0), rest) else none
    | some (_, rest) => some (r.push (some 0), rest)
    | none => none
  | c => if r.switches.allows c false then some (r.push (some 0), rest) else none

def run? : Nat → Reading → Text → Option Reading
  | 0, _, _ => none
  | fuel + 1, r, t =>
    match r.switches.skip t with
    | [] => some r
    | c :: rest => (r.step? c rest).bind fun (r, rest) => run? fuel r rest

end Reading

def maxDepth : Nat := 250

def accepts (t : Text) : Bool :=
  match Reading.run? (t.length + 1) {} t with
  | some r => r.around.isEmpty && r.group.depth ≤ maxDepth
  | none => false

end GatedProxy.Pattern
