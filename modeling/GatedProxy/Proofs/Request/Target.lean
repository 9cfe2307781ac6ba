import GatedProxy.Dial
import GatedProxy.Proofs.Text.Cut
import GatedProxy.Proofs.Text.Number
import GatedProxy.Request

namespace GatedProxy

namespace Authority

inductive Shows : Text → Text → Prop where
  | name (full : x ≠ []) (plain : ':' ∉ x ∧ '[' ∉ x ∧ ']' ∉ x) : Shows x x
  | literal (full : x ≠ []) (plain : '[' ∉ x ∧ ']' ∉ x) : Shows ('[' :: x ++ [']']) x

variable {host inner shown t : Text} {port : UInt16}

theorem bracketed_exact :
    (Text.after? ['['] host).bind (Text.before? [']']) = some inner ↔
      host = '[' :: inner ++ [']'] := by
  rw [Option.bind_eq_some_iff]
  constructor
  · rintro ⟨rest, opened, closed⟩
    rw [Text.after?_exact.1 opened, Text.before?_exact.1 closed]
    rfl
  · rintro rfl
    exact ⟨inner ++ [']'], Text.after?_append ['['] _, Text.before?_exact.2 rfl⟩

theorem unbracket_literal (inner : Text) : unbracket ('[' :: inner ++ [']']) = inner := by
  rw [unbracket, bracketed_exact.2 rfl]

theorem unbracket_plain (plain : ∀ x, host ≠ '[' :: x ++ [']']) : unbracket host = host := by
  unfold unbracket
  split
  · rename_i inner found
    exact absurd (bracketed_exact.1 found) (plain inner)
  · rfl

theorem split?_exact :
    split? t = some ⟨host, port⟩ ↔
      ∃ shown digits, t = shown ++ ':' :: digits ∧ ':' ∉ digits ∧ port? digits = some port ∧
        unbracket shown = host ∧ host ≠ [] := by
  simp only [split?, Option.bind_eq_bind, Option.bind_eq_some_iff, Prod.exists,
    Text.splitLast_exact]
  constructor
  · rintro ⟨shown, digits, ⟨whole, clear⟩, number, read, kept⟩
    split at kept
    · cases kept
    · rename_i full
      cases kept
      exact ⟨shown, digits, whole, clear, read, rfl, by simpa using full⟩
  · rintro ⟨shown, digits, whole, clear, read, rfl, full⟩
    exact ⟨shown, digits, ⟨whole, clear⟩, port, read, by simp [full]⟩

theorem port?_exact : port? t = some port ↔ Text.Numeral t port.toNat := by
  have small : port.toNat ≤ 65535 := Nat.le_of_lt_succ port.toNat_lt
  have back : Text.Numeral t port.toNat → Text.unsigned 65535 t = .ok port.toNat :=
    fun written => Text.unsigned_exact.2 ⟨written, small⟩
  unfold port?
  cases read : Text.unsigned 65535 t with
  | error fault =>
    refine iff_of_false nofun ?_
    intro written
    cases read.symm.trans (back written)
  | ok n =>
    obtain ⟨written, bound⟩ := Text.unsigned_exact.1 read
    constructor
    · intro same
      cases same
      rw [UInt16.toNat_ofNat', Nat.mod_eq_of_lt (Nat.lt_succ_of_le bound)]
      exact written
    · intro other
      cases read.symm.trans (back other)
      exact congrArg some UInt16.ofNat_toNat

theorem port?_plain (read : port? t = some port) : ']' ∉ t := by
  intro member
  rcases (port?_exact.1 read).char _ member with plus | digit
  · exact absurd plus (by decide)
  · exact absurd digit (by decide)

theorem split?_literal (inner : Text) : split? ('[' :: inner ++ [']']) = none := by
  rw [Option.eq_none_iff_forall_ne_some]
  rintro ⟨host, port⟩ found
  obtain ⟨shown, digits, whole, clear, read, _⟩ := split?_exact.1 found
  rcases List.eq_nil_or_concat digits with rfl | ⟨front, last, rfl⟩
  · cases (List.append_inj' whole rfl).2
  · rw [List.concat_eq_append, ← List.cons_append, ← List.append_assoc] at whole
    cases (List.append_inj' whole rfl).2
    exact port?_plain read (by simp)

theorem Shows.full (shows : Shows shown host) : shown ≠ [] ∧ host ≠ [] := by
  cases shows with
  | name full plain => exact ⟨full, full⟩
  | literal full plain => exact ⟨nofun, full⟩

theorem Shows.unbracket (shows : Shows shown host) : unbracket shown = host := by
  cases shows with
  | name full plain =>
    apply unbracket_plain
    rintro x rfl
    exact plain.2.1 List.mem_cons_self
  | literal full plain => exact unbracket_literal host

theorem Shows.split? (shows : Shows shown host) : split? shown = none := by
  cases shows with
  | name full plain => simp [Authority.split?, Text.splitLast_clear plain.1]
  | literal full plain => exact split?_literal host

theorem Shows.bracket (shows : Shows shown host) : shown = host ↔ '[' ∉ shown := by
  cases shows with
  | name full plain => simp [plain]
  | literal full plain =>
    constructor
    · intro same
      rw [← same] at plain
      exact absurd List.mem_cons_self plain.1
    · intro clear
      exact absurd List.mem_cons_self clear

end Authority

namespace Target

theorem resolve_http {l : RequestLine} {authority : Text} (rest : Text)
    (plain : l.method ≠ RequestLine.connectMethod)
    (target : l.target = scheme ++ authority ++ '/' :: rest) (slash : '/' ∉ authority)
    (full : authority ≠ []) :
    resolve l = .ok (.http ((Authority.split? authority).getD ⟨authority, defaultPort⟩)) := by
  have other : l.isConnect = false := by simp [RequestLine.isConnect, plain]
  have after : Text.after? scheme l.target = some (authority ++ '/' :: rest) := by
    rw [target, List.append_assoc]
    exact Text.after?_append scheme _
  simp [resolve, other, after, Text.pieces_append slash, full]

-- Brackets go with the port: without a port, a literal keeps them.
theorem default_port {shown host method : Text} (shows : Authority.Shows shown host)
    (slash : '/' ∉ shown) (plain : method ≠ RequestLine.connectMethod) (rest : Text)
    (version : Option Text) :
    let line (authority : Text) : RequestLine :=
      { method, target := scheme ++ authority ++ '/' :: rest, version }
    resolve (line (shown ++ ":80".toList)) = .ok (.http ⟨host, 80⟩) ∧
    resolve (line shown) = .ok (.http ⟨shown, 80⟩) ∧
    (resolve (line shown) = resolve (line (shown ++ ":80".toList)) ↔ '[' ∉ shown) := by
  intro line
  obtain ⟨full, fullHost⟩ := shows.full
  have given : resolve (line (shown ++ ":80".toList)) = .ok (.http ⟨host, 80⟩) := by
    have cut : Authority.split? (shown ++ ":80".toList) = some ⟨host, 80⟩ :=
      Authority.split?_exact.2
        ⟨shown, "80".toList, rfl, by decide, by decide, shows.unbracket, fullHost⟩
    have clear : '/' ∉ shown ++ ":80".toList := by
      rw [List.mem_append]
      exact not_or.2 ⟨slash, by decide⟩
    rw [resolve_http rest plain rfl clear (by simp [full]), cut]
    rfl
  have left : resolve (line shown) = .ok (.http ⟨shown, 80⟩) := by
    rw [resolve_http rest plain rfl slash full, shows.split?]
    rfl
  refine ⟨given, left, ?_⟩
  rw [given, left, ← shows.bracket]
  simp

-- An address that is shown with its port is dialed; the same without a port is looked up as a name.
theorem default_port_bracketed :
    let line (target : String) : RequestLine :=
      { method := "GET".toList, target := target.toList, version := some "HTTP/1.1".toList }
    Authority.Shows "[::1]".toList "::1".toList ∧
      resolve (line "http://[::1]/") = .ok (.http ⟨"[::1]".toList, 80⟩) ∧
      resolve (line "http://[::1]:80/") = .ok (.http ⟨"::1".toList, 80⟩) ∧
      Dial.start "[::1]".toList = .waiting .lookingUp ∧
      Dial.start "::1".toList ≠ .waiting .lookingUp := by
  intro line
  have literal : Authority.Shows ('[' :: "::1".toList ++ [']']) "::1".toList :=
    .literal (by decide) (by decide)
  refine ⟨literal, ?_, ?_, ?_, ?_⟩ <;> decide +kernel

theorem default_port_spelled :
    let line (authority : String) : RequestLine :=
      { method := "GET".toList, target := ("http://" ++ authority ++ "/x").toList }
    resolve (line "a.example") = resolve (line "a.example:80") ∧
      resolve (line "[::1]") ≠ resolve (line "[::1]:80") := by
  intro line
  have method : "GET".toList ≠ RequestLine.connectMethod := by decide
  have name : Authority.Shows "a.example".toList "a.example".toList :=
    .name (by decide) (by decide)
  have literal : Authority.Shows ('[' :: "::1".toList ++ [']']) "::1".toList :=
    .literal (by decide) (by decide)
  obtain ⟨_, _, same⟩ := default_port name (by decide) method "x".toList none
  obtain ⟨_, _, differ⟩ := default_port literal (by decide) method "x".toList none
  exact ⟨same.2 (by decide), mt differ.1 (by decide)⟩

end Target

namespace Authority

inductive Bare : Text → Text → Prop where
  | bracketed (host : Text) : Bare ('[' :: host ++ [']']) host
  | plain (host : Text) (unpaired : ∀ inner, host ≠ '[' :: inner ++ [']']) : Bare host host

-- A text cut into host and port. There is no colon in the port, so the cut is at the last one.
structure Splits (t : Text) (dest : Authority) : Prop where
  full : dest.host ≠ []
  parts : ∃ shown port, t = shown ++ ':' :: port ∧ ':' ∉ port ∧
    Text.Numeral port dest.port.toNat ∧ Bare shown dest.host

variable {shown host t : Text} {dest : Authority}

theorem unbracket_exact : unbracket shown = host ↔ Bare shown host := by
  constructor
  · intro bare
    by_cases paired : ∃ inner, shown = '[' :: inner ++ [']']
    · obtain ⟨inner, rfl⟩ := paired
      rw [unbracket_literal] at bare
      rw [← bare]
      exact .bracketed inner
    · have unpaired := not_exists.1 paired
      rw [unbracket_plain unpaired] at bare
      rw [← bare]
      exact .plain shown unpaired
  · intro bare
    cases bare with
    | bracketed => exact unbracket_literal host
    | plain host unpaired => exact unbracket_plain unpaired

theorem splits_exact : split? t = some dest ↔ Splits t dest := by
  rw [split?_exact]
  simp only [port?_exact, unbracket_exact]
  constructor
  · intro cut
    obtain ⟨shown, port, whole, clear, number, bare, full⟩ := cut
    exact ⟨full, shown, port, whole, clear, number, bare⟩
  · intro splits
    obtain ⟨full, shown, port, whole, clear, number, bare⟩ := splits
    exact ⟨shown, port, whole, clear, number, bare, full⟩

theorem unsplit_exact : split? t = none ↔ ∀ dest, ¬ Splits t dest := by
  rw [Option.eq_none_iff_forall_ne_some]
  exact forall_congr' fun dest => not_congr splits_exact

theorem Splits.unique {other : Authority} (splits : Splits t dest) (again : Splits t other) :
    dest = other := by
  have same := splits_exact.2 splits
  rw [splits_exact.2 again] at same
  exact (Option.some.inj same).symm

theorem Splits.text (splits : Splits t dest) : t ≠ [] := by
  obtain ⟨_, shown, port, rfl, _⟩ := splits
  simp

theorem Splits.clear {c : Char} (splits : Splits t dest) (clear : c ∉ t) : c ∉ dest.host := by
  obtain ⟨_, shown, port, rfl, _, _, bare⟩ := splits
  have before : c ∉ shown := fun member => clear (List.mem_append_left _ member)
  cases bare with
  | bracketed => exact fun member => before (by simp [member])
  | plain => exact before

end Authority

namespace Target

def authority (rest : Text) : Text := rest.takeWhile (· ≠ '/')

inductive Resolves (l : RequestLine) : Except RequestError Target → Prop where
  | tunnel (connect : l.method = "CONNECT".toList) (splits : Authority.Splits l.target dest) :
    Resolves l (.ok (.tunnel dest))
  | unsplit (connect : l.method = "CONNECT".toList)
    (unsplit : ∀ dest, ¬ Authority.Splits l.target dest) : Resolves l (.error (.target l.target))
  | unsupported (plain : l.method ≠ "CONNECT".toList) (other : ¬ "http://".toList <+: l.target) :
    Resolves l (.ok .unsupported)
  | empty (plain : l.method ≠ "CONNECT".toList) (target : l.target = "http://".toList ++ rest)
    (empty : authority rest = []) : Resolves l (.error (.target l.target))
  | http (plain : l.method ≠ "CONNECT".toList) (target : l.target = "http://".toList ++ rest)
    (splits : Authority.Splits (authority rest) dest) : Resolves l (.ok (.http dest))
  | whole (plain : l.method ≠ "CONNECT".toList) (target : l.target = "http://".toList ++ rest)
    (full : authority rest ≠ []) (unsplit : ∀ dest, ¬ Authority.Splits (authority rest) dest) :
    Resolves l (.ok (.http ⟨authority rest, 80⟩))

variable {l : RequestLine} {dest : Authority} {r : Except RequestError Target}

theorem authority_clear (rest : Text) : '/' ∉ authority rest := by
  intro member
  have kept := List.all_eq_true.1 List.all_takeWhile _ member
  simp at kept

theorem resolve_scheme (plain : l.method ≠ "CONNECT".toList) {rest : Text}
    (target : l.target = "http://".toList ++ rest) :
    resolve l =
      if authority rest = [] then .error (.target l.target)
      else .ok (.http ((Authority.split? (authority rest)).getD ⟨authority rest, defaultPort⟩)) := by
  have other : l.isConnect = false := decide_eq_false plain
  have after : Text.after? scheme l.target = some rest := Text.after?_exact.2 target
  simp [resolve, other, after, Text.pieces_first, authority]

theorem Resolves.resolve (resolves : Resolves l r) : resolve l = r := by
  cases resolves with
  | tunnel connect splits =>
    have method : l.isConnect = true := decide_eq_true connect
    simp [Target.resolve, method, Authority.splits_exact.2 splits]
  | unsplit connect unsplit =>
    have method : l.isConnect = true := decide_eq_true connect
    simp [Target.resolve, method, Authority.unsplit_exact.2 unsplit]
  | unsupported plain other =>
    have method : l.isConnect = false := decide_eq_false plain
    have cut : Text.after? scheme l.target = none := by
      rw [Option.eq_none_iff_forall_ne_some]
      intro rest found
      exact other ⟨rest, (Text.after?_exact.1 found).symm⟩
    simp [Target.resolve, method, cut]
  | empty plain target empty => rw [resolve_scheme plain target, if_pos empty]
  | http plain target splits =>
    have full : authority _ ≠ [] := splits.text
    rw [resolve_scheme plain target, if_neg full, Authority.splits_exact.2 splits]
    rfl
  | whole plain target full unsplit =>
    rw [resolve_scheme plain target, if_neg full, Authority.unsplit_exact.2 unsplit]
    rfl

theorem exists_resolves (l : RequestLine) : ∃ r, Resolves l r := by
  by_cases connect : l.method = "CONNECT".toList
  · by_cases splits : ∃ dest, Authority.Splits l.target dest
    · obtain ⟨dest, splits⟩ := splits
      exact ⟨_, .tunnel connect splits⟩
    · exact ⟨_, .unsplit connect (not_exists.1 splits)⟩
  · by_cases scheme : "http://".toList <+: l.target
    · obtain ⟨rest, target⟩ := scheme
      by_cases full : authority rest = []
      · exact ⟨_, .empty connect target.symm full⟩
      · by_cases splits : ∃ dest, Authority.Splits (authority rest) dest
        · obtain ⟨dest, splits⟩ := splits
          exact ⟨_, .http connect target.symm splits⟩
        · exact ⟨_, .whole connect target.symm full (not_exists.1 splits)⟩
    · exact ⟨_, .unsupported connect scheme⟩

theorem resolves_exact : resolve l = r ↔ Resolves l r := by
  constructor
  · intro resolved
    obtain ⟨other, resolves⟩ := exists_resolves l
    rw [← resolved, resolves.resolve]
    exact resolves
  · exact Resolves.resolve

theorem Resolves.host (resolves : Resolves l (.ok (.http dest))) :
    dest.host ≠ [] ∧ '/' ∉ dest.host := by
  cases resolves with
  | http plain target splits => exact ⟨splits.full, splits.clear (authority_clear _)⟩
  | whole plain target full unsplit => exact ⟨full, authority_clear _⟩

-- A request line leads to one place, and to none without a host.
theorem resolve_exact (l : RequestLine) :
    (∀ t dest other, Authority.Splits t dest → Authority.Splits t other → dest = other) ∧
    (∀ r, resolve l = r ↔ Resolves l r) ∧
    (∀ dest, resolve l = .ok (.tunnel dest) → dest.host ≠ []) ∧
    ∀ dest, resolve l = .ok (.http dest) → dest.host ≠ [] ∧ '/' ∉ dest.host := by
  refine ⟨fun t dest other => Authority.Splits.unique, fun r => resolves_exact, ?_, ?_⟩
  · intro dest resolved
    cases resolves_exact.1 resolved with
    | tunnel connect splits => exact splits.full
  · intro dest resolved
    exact (resolves_exact.1 resolved).host

example : Authority.split? "a:+00080".toList = some ⟨"a".toList, 80⟩ ∧
    Authority.split? "a:b:65535".toList = some ⟨"a:b".toList, 65535⟩ ∧
    Authority.split? "[:1".toList = some ⟨"[".toList, 1⟩ ∧
    ∀ t ∈ ["a:65536", "a:", "a:+", "a:++1", "[]:1", ":1"], Authority.split? t.toList = none := by
  decide +kernel

end Target

end GatedProxy
