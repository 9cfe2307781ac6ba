import GatedProxy.Text.Basic

namespace GatedProxy.Text

-- Where a terminal is in what it reads. Outside it shows the characters; after an escape
-- character it obeys them, until the command that has begun is complete.
inductive TerminalMode where
  | outside
  | escape
  | escapeInterior
  | sequence
  | device
  | deviceParameters
  | deviceInterior
  | string
  | systemCommand
  deriving DecidableEq, Repr

def isControl (c : Char) : Bool := c.toNat < 0x20 || c = '\x7f'

def isControlBlank (c : Char) : Bool := c = '\t' || c = '\n' || c = '\x0c' || c = '\r'

-- The string terminator of eight bits is known by its byte, whatever character that byte is in.
def endsString (c : Char) : Bool := 128 ≤ c.toNat && (String.utf8EncodeChar c).contains 0x9c

namespace TerminalMode

def shows : TerminalMode → Char → Bool
  | .outside, c => !isControl c || isControlBlank c
  | .escape, c => isControlBlank c
  | .escapeInterior, c => isControlBlank c
  | .sequence, c => isControlBlank c
  | _, _ => false

def afterPrintable (mode : TerminalMode) (c : Char) : TerminalMode :=
  match mode with
  | .outside => .outside
  | .escape =>
    if c < '0' then .escapeInterior
    else if c = '[' then .sequence
    else if c = ']' then .systemCommand
    else if c = 'P' then .device
    else if c = 'X' || c = '^' || c = '_' then .string
    else .outside
  | .escapeInterior => if c < '0' then .escapeInterior else .outside
  | .sequence => if c < '@' then .sequence else .outside
  | .device =>
    if c < '0' then .deviceInterior
    else if c < '@' then .deviceParameters
    else .string
  | .deviceParameters =>
    if c < '0' then .deviceInterior
    else if c < '<' then .deviceParameters
    else .string
  | .deviceInterior => if c < '0' then .deviceInterior else .string
  | .string => .string
  | .systemCommand => .systemCommand

def next (mode : TerminalMode) (c : Char) : TerminalMode :=
  if c = '\x18' || c = '\x1a' then .outside
  else if c = '\x1b' then .escape
  else if mode = .systemCommand && c = '\x07' then .outside
  else if mode = .string && endsString c then .outside
  else if isControl c || 128 ≤ c.toNat then mode
  else mode.afterPrintable c

end TerminalMode

-- `resumes` says what a blank inside a command does: it breaks the command off for good, or only
-- until the next control character. `showing` is that text has been shown since the command.
def plainFrom (resumes : Bool) (mode : TerminalMode) (showing : Bool) : Text → Text
  | [] => []
  | c :: rest =>
    if (if showing then TerminalMode.outside else mode).shows c then
      c :: plainFrom resumes (if resumes && c.toNat < 128 then mode else .outside) true rest
    else plainFrom resumes (mode.next c) false rest

def plain (t : Text) : Text := plainFrom false .outside false t

def plainStream (t : Text) : Text := plainFrom true .outside false t

end GatedProxy.Text
