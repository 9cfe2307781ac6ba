import GatedProxy.Text.Basic

namespace GatedProxy

structure Ipv4 where
  a : UInt8
  b : UInt8
  c : UInt8
  d : UInt8
  deriving DecidableEq, Repr

structure Ipv6 where
  groups : Vector UInt16 8
  deriving DecidableEq, Repr

inductive IpAddress where
  | v4 (ip : Ipv4)
  | v6 (ip : Ipv6)
  deriving DecidableEq, Repr

structure SocketAddress where
  ip : IpAddress
  port : UInt16
  deriving DecidableEq, Repr

def Ipv4.unspecified : Ipv4 := ⟨0, 0, 0, 0⟩

def Ipv6.ofList (groups : List UInt16) : Ipv6 := ⟨Vector.ofFn fun i => groups.getD i 0⟩

def Ipv4.toText (ip : Ipv4) : Text :=
  Text.decimal ip.a.toNat ++ '.' :: Text.decimal ip.b.toNat ++
    '.' :: Text.decimal ip.c.toNat ++ '.' :: Text.decimal ip.d.toNat

namespace Ipv6

def mapped? (ip : Ipv6) : Option Ipv4 :=
  match ip.groups.toList with
  | [0, 0, 0, 0, 0, 0xffff, hi, lo] =>
    some ⟨(hi >>> 8).toUInt8, hi.toUInt8, (lo >>> 8).toUInt8, lo.toUInt8⟩
  | _ => none

def joinGroups (groups : List UInt16) : Text :=
  [':'].intercalate (groups.map fun g => Text.hex g.toNat)

def zerosFrom (groups : List UInt16) (start : Nat) : Nat :=
  ((groups.drop start).takeWhile (· = 0)).length

def longestZeros (groups : List UInt16) : Nat × Nat :=
  (List.range groups.length).foldl
    (fun best start =>
      let n := zerosFrom groups start
      if best.2 < n then (start, n) else best)
    (0, 0)

def toText (ip : Ipv6) : Text :=
  match ip.mapped? with
  | some v4 => "::ffff:".toList ++ v4.toText
  | none =>
    let groups := ip.groups.toList
    let (start, n) := longestZeros groups
    if 2 ≤ n then
      joinGroups (groups.take start) ++ [':', ':'] ++ joinGroups (groups.drop (start + n))
    else joinGroups groups

end Ipv6

def IpAddress.toText : IpAddress → Text
  | .v4 ip => ip.toText
  | .v6 ip => ip.toText

def SocketAddress.toText (s : SocketAddress) : Text :=
  let host := match s.ip with
    | .v4 ip => ip.toText
    | .v6 ip => '[' :: ip.toText ++ [']']
  host ++ ':' :: Text.decimal s.port.toNat

-- Each reader takes what it can from the front and returns the rest.

def Ipv4.readByte (t : Text) : Option (UInt8 × Text) :=
  let run := t.takeWhile Char.isDigit
  if run.length = 0 ∨ 3 < run.length then none
  else if run.head? = some '0' ∧ 1 < run.length then none
  else
    match Text.unsigned 255 run with
    | .ok n => some (UInt8.ofNat n, t.drop run.length)
    | .error _ => none

def Ipv4.read (t : Text) : Option (Ipv4 × Text) := do
  let (a, t) ← readByte t
  let t ← Text.after? ['.'] t
  let (b, t) ← readByte t
  let t ← Text.after? ['.'] t
  let (c, t) ← readByte t
  let t ← Text.after? ['.'] t
  let (d, t) ← readByte t
  some (⟨a, b, c, d⟩, t)

namespace Ipv6

def readGroup (t : Text) : Option (UInt16 × Text) :=
  let run := t.takeWhile fun c => (Text.hexDigit? c).isSome
  if run.length = 0 ∨ 4 < run.length then none
  else
    let n := run.foldl (fun n c => n * 16 + (Text.hexDigit? c).getD 0) 0
    some (UInt16.ofNat n, t.drop run.length)

def groupsOfV4 (ip : Ipv4) : List UInt16 :=
  [ip.a.toUInt16 * 256 + ip.b.toUInt16, ip.c.toUInt16 * 256 + ip.d.toUInt16]

structure Groups where
  groups : List UInt16
  dotted : Bool
  rest : Text

-- At most `room` groups with a colon between each two. An IPv4 address may stand for two groups,
-- and nothing comes after it.
def readGroups : (room : Nat) → (first : Bool) → Text → Groups
  | 0, _, t => ⟨[], false, t⟩
  | room + 1, first, t =>
    let start := if first then some t else Text.after? [':'] t
    let dotted := if room = 0 then none else start.bind Ipv4.read
    match dotted with
    | some (ip, rest) => ⟨groupsOfV4 ip, true, rest⟩
    | none =>
      match start.bind readGroup with
      | none => ⟨[], false, t⟩
      | some (g, rest) =>
        let more := readGroups room false rest
        ⟨g :: more.groups, more.dotted, more.rest⟩

def read (t : Text) : Option (Ipv6 × Text) :=
  let front := readGroups 8 true t
  let n := front.groups.length
  if n = 8 then some (ofList front.groups, front.rest)
  else if front.dotted then none
  else do
    let t ← Text.after? [':', ':'] front.rest
    let back := readGroups (7 - n) true t
    let zeros := List.replicate (8 - n - back.groups.length) 0
    some (ofList (front.groups ++ zeros ++ back.groups), back.rest)

end Ipv6

-- The whole text as an address: no brackets, no zone, no blanks.
def IpAddress.ofText? (t : Text) : Option IpAddress :=
  match Ipv4.read t with
  | some (ip, rest) => if rest.isEmpty then some (.v4 ip) else none
  | none =>
    match Ipv6.read t with
    | some (ip, rest) => if rest.isEmpty then some (.v6 ip) else none
    | none => none

def SocketAddress.readIp? : Text → Option IpAddress
  | '[' :: t =>
    match (Text.before? [']'] t).bind Ipv6.read with
    | some (ip, []) => some (.v6 ip)
    | _ => none
  | t =>
    match Ipv4.read t with
    | some (ip, []) => some (.v4 ip)
    | _ => none

def SocketAddress.ofText? (t : Text) : Option SocketAddress := do
  let (host, digits) ← Text.splitLast ':' t
  let ip ← readIp? host
  match digits.all Char.isDigit, Text.unsigned 65535 digits with
  | true, .ok port => some ⟨ip, UInt16.ofNat port⟩
  | _, _ => none

end GatedProxy
