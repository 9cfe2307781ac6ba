import GatedProxy.CommandLine
import GatedProxy.Proofs.Settings
import GatedProxy.Proofs.Text.Cut
import GatedProxy.Proofs.Text.Number

namespace GatedProxy

namespace CommandLine

inductive Setting where
  | listenIp (ip : IpAddress)
  | port (n : UInt16)
  | size (which : Buffer) (n : Nat)
  | statusInterval (n : Nat)
  deriving DecidableEq, Repr

inductive Use where
  | value (v : Setting)
  | credentials (entries : List Text)
  deriving DecidableEq, Repr

def Setting.opt : Setting → Opt
  | .listenIp _ => .listenIp
  | .port _ => .port
  | .size .request _ => .requestBuffer
  | .size .reply _ => .replyBuffer
  | .size .tunnel _ => .tunnelBuffer
  | .statusInterval _ => .statusInterval

def Use.opt : Use → Opt
  | .value v => v.opt
  | .credentials _ => .credentials

def Use.entries : Use → List Text
  | .value _ => []
  | .credentials entries => entries

inductive Setting.Spelled : Setting → Text → Prop where
  | listenIp (address : IpAddress.ofText? t = some ip) : Spelled (.listenIp ip) t
  | port (number : Text.Numeral t n.toNat) : Spelled (.port n) t
  | size (number : Text.Numeral t n) (full : n ≠ 0) (room : n ≤ Text.max64) :
    Spelled (.size which n) t
  | statusInterval (number : Text.Numeral t n) (room : n ≤ Text.max64) :
    Spelled (.statusInterval n) t

inductive Use.Spelled : Use → Text → Prop where
  | value (spelled : v.Spelled t) : Spelled (.value v) t
  | credentials (full : pairs ≠ [])
    (proper : ∀ entry ∈ pairs, ',' ∉ entry ∧ ¬ Settings.Improper entry) :
    Spelled (.credentials pairs) ([','].intercalate pairs)

-- The arguments that an option and its value can make. A value in an argument of its own does
-- not look like an option.
inductive Use.Written (u : Use) : List Text → Prop where
  | apart (spelled : u.Spelled t) (plain : t.head? ≠ some '-') : Written u [u.opt.long.toList, t]
  | attached (spelled : u.Spelled t) : Written u [u.opt.long.toList ++ '=' :: t]
  | short (spelled : u.Spelled t) (plain : t.head? ≠ some '-')
    (letter : u.opt.short? = some c) : Written u [['-', c], t]

inductive Written : List Use → List Text → Prop where
  | nil : Written [] []
  | cons (written : u.Written args) (later : Written uses rest) :
    Written (u :: uses) (args ++ rest)

def Once (uses : List Use) : Prop :=
  uses.Pairwise fun u later => u.opt = later.opt → u.opt = .credentials

variable {u : Use} {v : Setting} {t : Text}

theorem Use.Spelled.pieces {pairs : List Text} (spelled : (Use.credentials pairs).Spelled t) :
    (Text.pieces ',' t).1 :: (Text.pieces ',' t).2 = pairs := by
  cases spelled with
  | credentials full proper =>
    rw [Text.pieces_splitOn]
    exact List.splitOn_intercalate ',' (fun entry member => (proper entry member).1) full

theorem Setting.opt_ne_credentials (v : Setting) : v.opt ≠ .credentials := by
  match v with
  | .listenIp _ | .port _ | .statusInterval _ => nofun
  | .size .request _ | .size .reply _ | .size .tunnel _ => nofun

namespace Draft

variable {d : Draft}

def value? (d : Draft) : Opt → Option Setting
  | .listenIp => d.listenIp.map .listenIp
  | .port => d.port.map .port
  | .credentials => none
  | .requestBuffer => d.request.map (.size .request)
  | .replyBuffer => d.reply.map (.size .reply)
  | .tunnelBuffer => d.tunnel.map (.size .tunnel)
  | .statusInterval => d.statusInterval.map .statusInterval

def put (d : Draft) : Use → Draft
  | .value (.listenIp ip) => { d with listenIp := some ip }
  | .value (.port n) => { d with port := some n }
  | .value (.size .request n) => { d with request := some n }
  | .value (.size .reply n) => { d with reply := some n }
  | .value (.size .tunnel n) => { d with tunnel := some n }
  | .value (.statusInterval n) => { d with statusInterval := some n }
  | .credentials entries => { d with credentials := some (d.credentials.getD [] ++ entries) }

theorem put_value (d : Draft) (v : Setting) (o : Opt) :
    (d.put (.value v)).value? o = if v.opt = o then some v else d.value? o := by
  match v with
  | .listenIp _ | .port _ | .statusInterval _ => cases o <;> rfl
  | .size .request _ | .size .reply _ | .size .tunnel _ => cases o <;> rfl

theorem put_credentials_value (d : Draft) (entries : List Text) (o : Opt) :
    (d.put (.credentials entries)).value? o = d.value? o := by
  cases o <;> rfl

theorem put_value_credentials (d : Draft) (v : Setting) :
    (d.put (.value v)).credentials = d.credentials := by
  match v with
  | .listenIp _ | .port _ | .statusInterval _ => rfl
  | .size .request _ | .size .reply _ | .size .tunnel _ => rfl

theorem put_pending (d : Draft) (u : Use) : (d.put u).pending = d.pending := by
  match u with
  | .value (.listenIp _) | .value (.port _) | .value (.statusInterval _) => rfl
  | .value (.size .request _) | .value (.size .reply _) | .value (.size .tunnel _) => rfl
  | .credentials _ => rfl

theorem once_fresh {α : Type} {o : Opt} {old : Option α} {read : Text → Except ValueFault α}
    {store : α → Draft} {x : α} (fresh : old = none) (value : read t = .ok x) :
    once o t old read store = .ok (store x) := by
  rw [once, fresh, value]
  rfl

theorem readSize_numeral {n : Nat} (number : Text.Numeral t n) (room : n ≤ Text.max64) :
    readSize t = .ok n := by
  rw [readSize, Text.unsigned_exact.2 ⟨number, room⟩]
  rfl

theorem readPort_numeral {n : UInt16} (number : Text.Numeral t n.toNat) :
    readPort t = .ok n := by
  have small := n.toNat_lt
  have room : n.toNat ≤ 0x7fffffffffffffff := by omega
  have signed : Text.signed64 t = .ok (n.toNat : Int) := by
    rw [Text.signed64_numeral number room]
  have bounds : (0 : Int) ≤ n.toNat ∧ (n.toNat : Int) ≤ 65535 := by omega
  simp only [readPort, signed, if_pos bounds]
  simp

theorem take_spelled (spelled : u.Spelled t) (fresh : d.value? u.opt = none) :
    d.take u.opt t = .ok (d.put u) := by
  cases spelled with
  | credentials full proper =>
    have pieces := Use.Spelled.pieces (.credentials full proper)
    simp only [Use.opt, take, put]
    rw [pieces]
  | value spelled =>
    cases spelled with
    | listenIp address =>
      have unset : d.listenIp = none := Option.map_eq_none_iff.1 fresh
      exact once_fresh unset (by rw [readAddress, address])
    | port number =>
      have unset : d.port = none := Option.map_eq_none_iff.1 fresh
      exact once_fresh unset (readPort_numeral number)
    | @size t n which number full room =>
      have value := readSize_numeral number room
      cases which with
      | request => exact once_fresh (Option.map_eq_none_iff.1 fresh) value
      | reply => exact once_fresh (Option.map_eq_none_iff.1 fresh) value
      | tunnel => exact once_fresh (Option.map_eq_none_iff.1 fresh) value
    | statusInterval number room =>
      exact once_fresh (Option.map_eq_none_iff.1 fresh) (readSize_numeral number room)

end Draft

end CommandLine

end GatedProxy
