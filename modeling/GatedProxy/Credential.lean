import GatedProxy.Text.Basic

namespace GatedProxy

namespace Base64

def symbol (n : Nat) : Char :=
  if n < 26 then Char.ofNat (n + 65)
  else if n < 52 then Char.ofNat (n + 71)
  else if n < 62 then Char.ofNat (n - 4)
  else if n = 62 then '+'
  else '/'

def value? (c : Char) : Option Nat :=
  if c.isUpper then some (c.toNat - 65)
  else if c.isLower then some (c.toNat - 71)
  else if c.isDigit then some (c.toNat + 4)
  else if c = '+' then some 62
  else if c = '/' then some 63
  else none

def encode : Bytes → Text
  | [] => []
  | [a] => [symbol (a.toNat / 4), symbol (a.toNat % 4 * 16), '=', '=']
  | [a, b] =>
    [symbol (a.toNat / 4), symbol (a.toNat % 4 * 16 + b.toNat / 16), symbol (b.toNat % 16 * 4), '=']
  | a :: b :: c :: rest =>
    symbol (a.toNat / 4) :: symbol (a.toNat % 4 * 16 + b.toNat / 16) ::
      symbol (b.toNat % 16 * 4 + c.toNat / 64) :: symbol (c.toNat % 64) :: encode rest

-- Strict: the padding is neither left out nor added to, and the bits that the last symbol does
-- not need are zero. So every byte string has one spelling.
def decode? : Text → Option Bytes
  | [] => some []
  | [p, q, '=', '='] => do
    let p ← value? p
    let q ← value? q
    if q % 16 = 0 then some [UInt8.ofNat (p * 4 + q / 16)] else none
  | [p, q, r, '='] => do
    let p ← value? p
    let q ← value? q
    let r ← value? r
    if r % 4 = 0 then some [UInt8.ofNat (p * 4 + q / 16), UInt8.ofNat (q % 16 * 16 + r / 4)]
    else none
  | p :: q :: r :: s :: rest => do
    let p ← value? p
    let q ← value? q
    let r ← value? r
    let s ← value? s
    let bytes ← decode? rest
    some (UInt8.ofNat (p * 4 + q / 16) :: UInt8.ofNat (q % 16 * 16 + r / 4) ::
      UInt8.ofNat (r % 4 * 64 + s) :: bytes)
  | _ => none

end Base64

structure Credential where
  user : Text
  password : Text
  deriving DecidableEq, Repr

namespace Credential

def ofPair? (pair : Text) : Option Credential :=
  (Text.splitFirst ':' pair).map fun (user, password) => ⟨user, password⟩

def toPair (c : Credential) : Text := c.user ++ ':' :: c.password

end Credential

-- One entry for each user, the newest first.
structure CredentialTable where
  entries : List Credential := []
  deriving DecidableEq, Repr

namespace CredentialTable

def insert (table : CredentialTable) (c : Credential) : CredentialTable :=
  ⟨c :: table.entries.filter fun old => old.user ≠ c.user⟩

def ofList (credentials : List Credential) : CredentialTable :=
  credentials.foldl insert {}

def password? (table : CredentialTable) (user : Text) : Option Text :=
  (table.entries.find? fun c => c.user = user).map (·.password)

def accepts (table : CredentialTable) (c : Credential) : Bool :=
  table.password? c.user = some c.password

def users (table : CredentialTable) : List Text := table.entries.map (·.user)

def sortedUsers (table : CredentialTable) : List Text := table.users.mergeSort Text.le

def size (table : CredentialTable) : Nat := table.entries.length

end CredentialTable

def basicScheme : Text := "Basic ".toList

def Credential.ofBasic? (value : Text) : Option Credential := do
  let token ← Text.after? basicScheme value
  let bytes ← Base64.decode? (Text.trim token)
  let pair ← Text.ofUtf8? bytes
  ofPair? pair

def Credential.toBasic (c : Credential) : Text :=
  basicScheme ++ Base64.encode (Text.utf8 c.toPair)

inductive Access where
  | missing
  | invalid
  | accepted (user : Text)
  deriving DecidableEq, Repr

def CredentialTable.judge (table : CredentialTable) : Option Text → Access
  | none => .missing
  | some value =>
    match Credential.ofBasic? value with
    | some c => if table.accepts c then .accepted c.user else .invalid
    | none => .invalid

end GatedProxy
