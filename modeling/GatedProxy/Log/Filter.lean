import GatedProxy.Log.Event
import GatedProxy.Pattern
import GatedProxy.Text.Basic

namespace GatedProxy

-- How much one directive lets through, where it applies. No level is nothing at all. A directive
-- with a span, or with a field that must have some value, is about spans; there are none here.
structure Directive where
  target : Option Text := none
  level : Option Level
  span : Option Text := none
  fields : List (Text × Option Text) := []
  deriving DecidableEq, Repr

inductive DirectiveFault where
  | malformed
  | insideCharacter
  deriving DecidableEq, Repr

namespace Directive

def levelNames : List (String × Option Level) := [
  ("off", none), ("error", some .error), ("warn", some .warn), ("info", some .info),
  ("debug", some .debug), ("trace", some .trace)]

def level? (t : Text) : Option (Option Level) :=
  match Text.unsigned Text.max64 t with
  | .ok n => levelNames[n]?.map Prod.snd
  | .error _ =>
    (levelNames.find? fun (name, _) => Text.afterAnyCase? name.toList t = some []).map Prod.snd

def isFieldValue (t : Text) : Bool :=
  match t with
  | '+' :: number => Text.isDecimal number
  | t => Pattern.accepts t

def readField (t : Text) : Except DirectiveFault (Text × Option Text) :=
  let (name, others) := Text.pieces '=' t
  if t.isEmpty || !others.head?.all isFieldValue then .error .malformed
  else .ok (name, others.head?)

-- The parts of a directive are found in the text without the blanks at its ends, and are cut by
-- the bytes so counted from the text with them. So a blank in front shifts every part but the
-- first, and one at the end belongs to the last.
def cut (whole : Text) (first last : Nat) : Except DirectiveFault Text :=
  match Text.betweenBytes? first last whole with
  | some part => .ok part
  | none => .error .insideCharacter

def readLevel (whole : Text) (first : Nat) : Except DirectiveFault (Option Level) := do
  let part ← cut whole first (Text.utf8Size whole)
  if part.isEmpty then .ok (some .trace)
  else
    match level? part with
    | some level => .ok level
    | none => .error .malformed

def readAfterSpan (whole : Text) (position : Nat) : Text → Except DirectiveFault (Option Level)
  | [] => .ok (some .trace)
  | '=' :: _ => readLevel whole (position + 1)
  | _ => .error .malformed

def readSpan (whole : Text) (target : Option Text) (position : Nat) (t : Text) :
    Except DirectiveFault Directive :=
  let name := t.takeWhile fun c => c ≠ ']' && c ≠ '{'
  let close := position + Text.utf8Size name
  match t.drop name.length with
  | ']' :: rest => do
    let span ← cut whole position close
    let level ← readAfterSpan whole (close + 1) rest
    .ok { target, level, span := some span }
  | '{' :: rest => do
    let span ← cut whole position close
    match Text.splitFirst '}' rest with
    | none => .error .malformed
    | some (field, rest) =>
      let brace := close + 1 + Text.utf8Size field
      let field ← readField (← cut whole (close + 1) brace)
      match rest with
      | ']' :: rest =>
        let level ← readAfterSpan whole (brace + 2) rest
        .ok { target, level, span := if span.isEmpty then none else some span, fields := [field] }
      | _ => .error .malformed
  | _ => .error .malformed

def canStart (c : Char) : Bool := Text.isAlphanumeric c || c = '-' || c = ':' || c = '_'

def read (whole : Text) : Except DirectiveFault Directive :=
  match Text.trim whole with
  | [] => .error .malformed
  | '[' :: rest => readSpan whole none 1 rest
  | c :: rest =>
    if canStart c then
      let word := (c :: rest).takeWhile fun c => c ≠ '=' && c ≠ '['
      let close := Text.utf8Size word
      match (c :: rest).drop word.length with
      | [] =>
        match level? whole with
        | some level => .ok { level }
        | none => .ok { target := some whole, level := some .trace }
      | '[' :: rest => do readSpan whole (some (← cut whole 0 close)) (close + 1) rest
      | _ => do
        let target ← cut whole 0 close
        let level ← readLevel whole (close + 1)
        .ok { target := some target, level }
    else .error .malformed

def applies (d : Directive) (source : Text) : Bool :=
  d.span.isNone &&
  (d.fields.all fun (name, value) => name = "message".toList && value.isNone) &&
  (d.target.all fun target => (Text.after? target source).isSome)

def moreParticular (a b : Directive) : Bool :=
  let length (d : Directive) : Nat := (d.target.map fun t => t.length + 1).getD 0
  length b < length a || (length b = length a && b.fields.length < a.fields.length)

end Directive

abbrev LogFilter := List Directive

namespace LogFilter

def usual (source : Text) : LogFilter := [{ target := some source, level := some .info }]

def ofText (t : Text) : Except DirectiveFault LogFilter := do
  let (first, others) := Text.pieces ',' t
  let directives ← ((first :: others).filter fun d => !d.isEmpty).mapM Directive.read
  .ok (if directives.isEmpty then [{ level := some .error }] else directives)

-- A text that is malformed counts for nothing. One that cannot be cut has no filter.
def wanted? (source : Text) : Option Text → Option LogFilter
  | none => some (usual source)
  | some t =>
    match ofText t with
    | .ok f => some f
    | .error .malformed => some (usual source)
    | .error .insideCharacter => none

def deciding? (f : LogFilter) (source : Text) : Option Directive :=
  (f.filter fun d => d.applies source).foldl
    (fun best d =>
      match best with
      | some b => if b.moreParticular d then best else some d
      | none => some d)
    none

def shows (f : LogFilter) (source : Text) (level : Level) : Bool :=
  match (f.deciding? source).bind Directive.level with
  | some limit => level.verbosity ≤ limit.verbosity
  | none => false

end LogFilter

namespace LogLine

-- Characters that a terminal would obey are shown instead. Line breaks are not among them.
def escape (c : Char) : String :=
  match c with
  | '\x1b' => "\\x1b"
  | '\x07' => "\\x07"
  | '\x08' => "\\x08"
  | '\x0c' => "\\x0c"
  | '\x7f' => "\\x7f"
  | c =>
    if 0x80 ≤ c.toNat && c.toNat ≤ 0x9f then
      "\\u\x7b" ++ String.ofList (Text.hex c.toNat) ++ "\x7d"
    else c.toString

def escaped (s : String) : String := String.join (s.toList.map escape)

def render? (f : LogFilter) (source : Text) (e : LogEvent) : Option String :=
  match e.report? with
  | some (level, text) =>
    if f.shows source level then
      some (level.name ++ " " ++ String.ofList source ++ ": " ++ escaped text)
    else none
  | none => none

end LogLine

end GatedProxy
