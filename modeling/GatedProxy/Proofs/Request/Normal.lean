import GatedProxy.Proofs.Request.Target
import GatedProxy.Proofs.Text.Words

namespace GatedProxy

namespace RequestLine

variable {line method target : Text} {l : RequestLine}

theorem parse_solid (parsed : parse line = .ok l) : Text.Solid l.target := by
  unfold parse at parsed
  split at parsed
  · rename_i first second rest words
    cases parsed
    have member : second ∈ Text.words line := by simp [words]
    exact (Text.mem_words member).2
  · cases parsed

theorem parse_pair (one : Text.Solid method) (full : method ≠ []) (two : Text.Solid target)
    (more : target ≠ []) : parse (method ++ ' ' :: target) = .ok { method, target } := by
  have words : Text.words (method ++ ' ' :: target) = [method, target] := by
    rw [Text.words_blank (by decide), Text.words_solid one full, Text.words_solid two more]
    rfl
  simp [parse, words]

end RequestLine

namespace Authority

variable {host : Text} {dest other : Authority}

def Unbracketed (host : Text) : Prop := ∀ inner, host ≠ '[' :: inner ++ [']']

theorem unbracket_self : unbracket host = host ↔ Unbracketed host := by
  constructor
  · rintro bare inner rfl
    rw [unbracket_literal] at bare
    have length := congrArg List.length bare
    rw [List.length_append, List.length_cons] at length
    omega
  · exact unbracket_plain

theorem bare_self : Bare host host ↔ Unbracketed host :=
  unbracket_exact.symm.trans unbracket_self

theorem colon_clear (n : Nat) : ':' ∉ Text.decimal n := Text.decimal_clear n (by decide)

theorem toText_cut (dest : Authority) :
    Text.splitLast ':' dest.toText = some (dest.host, Text.decimal dest.port.toNat) :=
  Text.splitLast_append dest.host (colon_clear _)

theorem splits_toText : Splits dest.toText dest ↔ dest.host ≠ [] ∧ Unbracketed dest.host := by
  constructor
  · intro splits
    obtain ⟨full, shown, port, whole, clear, _, bare⟩ := splits
    have cut := toText_cut dest
    rw [whole, Text.splitLast_append shown clear] at cut
    cases cut
    exact ⟨full, bare_self.1 bare⟩
  · intro shown
    obtain ⟨full, unpaired⟩ := shown
    exact ⟨full, dest.host, _, rfl, colon_clear _, Text.decimal_numeral _, bare_self.2 unpaired⟩

theorem toText_injective (same : dest.toText = other.toText) : dest = other := by
  have cut := toText_cut dest
  rw [same, toText_cut other] at cut
  injection cut with parts
  injection parts with hosts ports
  obtain ⟨host, port⟩ := dest
  cases hosts
  cases UInt16.toNat_inj.1 (Text.decimal_injective ports)
  rfl

theorem toText_solid (solid : Text.Solid dest.host) : Text.Solid dest.toText := by
  have port := Text.decimal_solid dest.port.toNat
  exact List.forall_mem_append.2 ⟨solid, List.forall_mem_cons.2 ⟨by decide, port⟩⟩

theorem toText_full (dest : Authority) : dest.toText ≠ [] := by simp [toText]

theorem host_ne_toText (dest : Authority) : dest.host ≠ dest.toText := by
  intro same
  have length := congrArg List.length same
  rw [toText, List.length_append, List.length_cons] at length
  omega

theorem toText_slash (slash : '/' ∉ dest.host) : '/' ∉ dest.toText := by
  intro member
  rcases List.mem_append.1 member with host | port
  · exact slash host
  · rcases List.mem_cons.1 port with colon | digit
    · exact absurd colon (by decide)
    · exact Text.decimal_clear _ (by decide) digit

end Authority

namespace Target

variable {line : Text} {l : RequestLine} {target : Target} {dest : Authority}

def dest? : Target → Option Authority
  | .tunnel dest | .http dest => some dest
  | .unsupported => none

theorem authority_subset (rest : Text) : authority rest ⊆ rest :=
  (List.takeWhile_prefix _).subset

theorem Resolves.clear (resolves : Resolves l (.ok target)) (leads : target.dest? = some dest)
    {c : Char} (clear : c ∉ l.target) : c ∉ dest.host := by
  have part {rest : Text} (scheme : l.target = "http://".toList ++ rest) : c ∉ authority rest := by
    intro member
    apply clear
    rw [scheme]
    exact List.mem_append_right _ (authority_subset rest member)
  cases resolves with
  | tunnel connect splits =>
    cases leads
    exact splits.clear clear
  | unsupported => cases leads
  | http plain target splits =>
    cases leads
    exact splits.clear (part target)
  | whole plain target full unsplit =>
    cases leads
    exact part target

theorem Resolves.full (resolves : Resolves l (.ok target)) (leads : target.dest? = some dest) :
    dest.host ≠ [] := by
  cases resolves with
  | tunnel connect splits =>
    cases leads
    exact splits.full
  | unsupported => cases leads
  | http plain target splits =>
    cases leads
    exact splits.full
  | whole plain target full unsplit =>
    cases leads
    exact full

theorem resolves_tunnel (connect : l.method = RequestLine.connectMethod) :
    Resolves l (.ok (.tunnel dest)) ↔ Authority.Splits l.target dest := by
  constructor
  · intro resolves
    cases resolves with
    | tunnel connect splits => exact splits
  · exact .tunnel connect

theorem resolves_http {authority : Text} (plain : l.method ≠ RequestLine.connectMethod)
    (target : l.target = scheme ++ (authority ++ ['/'])) (slash : '/' ∉ authority)
    (longer : dest.host ≠ authority) :
    Resolves l (.ok (.http dest)) ↔ Authority.Splits authority dest := by
  have clear : ∀ c ∈ authority, decide (c ≠ '/') = true := by
    intro c member
    rw [decide_eq_true_iff]
    rintro rfl
    exact slash member
  have cut : Target.authority (authority ++ ['/']) = authority := by
    rw [Target.authority, List.takeWhile_append_of_pos clear]
    exact List.append_nil _
  constructor
  · intro resolves
    cases resolves with
    | http _ again splits =>
      rw [target] at again
      rw [← List.append_cancel_left again, cut] at splits
      exact splits
    | whole _ again =>
      rw [target] at again
      rw [← List.append_cancel_left again, cut] at longer
      exact absurd rfl longer
  · intro splits
    rw [← cut] at splits
    exact .http plain target splits

def ofLine (line : Text) : Except RequestError Target := (RequestLine.parse line).bind resolve

theorem ofLine_parsed (parsed : RequestLine.parse line = .ok l) : ofLine line = resolve l := by
  rw [ofLine, parsed]
  rfl

theorem ofLine_ok (found : ofLine line = .ok target) :
    ∃ l, RequestLine.parse line = .ok l ∧ Resolves l (.ok target) := by
  rw [ofLine] at found
  cases parsed : RequestLine.parse line with
  | error e =>
    rw [parsed] at found
    cases found
  | ok l =>
    rw [parsed] at found
    exact ⟨l, rfl, resolves_exact.1 found⟩

theorem ofLine_host (found : ofLine line = .ok target) (leads : target.dest? = some dest) :
    dest.host ≠ [] ∧ Text.Solid dest.host := by
  obtain ⟨l, parsed, resolves⟩ := ofLine_ok found
  refine ⟨resolves.full leads, ?_⟩
  intro c member
  cases blank : Text.isBlank c with
  | false => rfl
  | true =>
    have clear : c ∉ l.target := by
      intro inside
      rw [RequestLine.parse_solid parsed c inside] at blank
      cases blank
    exact absurd member (resolves.clear leads clear)

theorem ofLine_tunnel (full : dest.host ≠ []) (solid : Text.Solid dest.host) :
    ofLine (tunnel dest).toText = .ok (.tunnel dest) ↔ Authority.Unbracketed dest.host := by
  have method : Text.Solid RequestLine.connectMethod := by decide
  have parsed := RequestLine.parse_pair method (by decide) (Authority.toText_solid solid)
    dest.toText_full
  have same : ofLine (tunnel dest).toText = _ := ofLine_parsed parsed
  rw [same, resolves_exact, resolves_tunnel rfl, Authority.splits_toText]
  exact and_iff_right full

def plainLine (dest : Authority) : Text := "GET http://".toList ++ dest.toText ++ "/".toList

theorem parse_plainLine (solid : Text.Solid dest.host) : RequestLine.parse (plainLine dest) =
    .ok { method := "GET".toList, target := scheme ++ (dest.toText ++ ['/']) } := by
  have method : Text.Solid "GET".toList := by decide
  have front : Text.Solid scheme := by decide
  have slash : Text.Solid ['/'] := by decide
  have target : Text.Solid (scheme ++ (dest.toText ++ ['/'])) :=
    List.forall_mem_append.2
      ⟨front, List.forall_mem_append.2 ⟨Authority.toText_solid solid, slash⟩⟩
  rw [← RequestLine.parse_pair method (by decide) target (by simp)]
  rfl

theorem ofLine_plainLine (full : dest.host ≠ []) (solid : Text.Solid dest.host)
    (slash : '/' ∉ dest.host) :
    ofLine (plainLine dest) = .ok (.http dest) ↔ Authority.Unbracketed dest.host := by
  have method : "GET".toList ≠ RequestLine.connectMethod := by decide
  rw [ofLine_parsed (parse_plainLine solid), resolves_exact,
    resolves_http method rfl (Authority.toText_slash slash) dest.host_ne_toText,
    Authority.splits_toText]
  exact and_iff_right full

theorem toText_injective {one two : Target} (same : one.toText = two.toText) : one = two := by
  have heads : one.toText.head? = two.toText.head? := congrArg List.head? same
  cases one <;> cases two
  case tunnel.tunnel dest other =>
    have rest := List.append_cancel_left same
    exact congrArg tunnel (Authority.toText_injective (List.cons.inj rest).2)
  case http.http dest other =>
    exact congrArg http (Authority.toText_injective (List.append_cancel_left same))
  case unsupported.unsupported => rfl
  all_goals exact absurd (Option.some.inj heads) (by decide)

-- A target is found again in what is shown of it, unless its host would lose a pair of brackets.
-- Two targets, or two addresses, are never shown alike.
theorem normal_form :
    (∀ line dest, ofLine line = .ok (.tunnel dest) →
      (ofLine (tunnel dest).toText = .ok (.tunnel dest) ↔ Authority.Unbracketed dest.host)) ∧
    (∀ line dest, ofLine line = .ok (.http dest) →
      (ofLine (plainLine dest) = .ok (.http dest) ↔ Authority.Unbracketed dest.host)) ∧
    (∀ one two : Target, one.toText = two.toText → one = two) ∧
    ∀ one two : Authority, one.toText = two.toText → one = two := by
  refine ⟨?_, ?_, fun one two => toText_injective, fun one two => Authority.toText_injective⟩
  · intro line dest found
    obtain ⟨full, solid⟩ := ofLine_host found rfl
    exact ofLine_tunnel full solid
  · intro line dest found
    obtain ⟨full, solid⟩ := ofLine_host found rfl
    obtain ⟨l, _, resolves⟩ := ofLine_ok found
    exact ofLine_plainLine full solid resolves.host.2

-- A bracket on one side, colons in a host whose port is none, and a literal that keeps its brackets
-- for want of a port.
theorem normal_form_colons :
    let half : Authority := ⟨"[::1".toList, 80⟩
    let colons : Authority := ⟨"a:é:65536".toList, 80⟩
    let literal : Authority := ⟨"[::1]".toList, 80⟩
    ofLine (tunnel half).toText = .ok (.tunnel half) ∧
      ofLine (plainLine colons) = .ok (.http colons) ∧
      ofLine (plainLine literal) ≠ .ok (.http literal) := by
  intro half colons literal
  have tunnels : ofLine "CONNECT\x0b[::1:+080".toList = .ok (.tunnel half) := by decide +kernel
  have colon : ofLine "PUT http://a:é:65536 x".toList = .ok (.http colons) := by decide +kernel
  have bracketed : ofLine "GET http://[::1]/".toList = .ok (.http literal) := by decide +kernel
  obtain ⟨byTunnel, byHttp, _, _⟩ := normal_form
  refine ⟨(byTunnel _ half tunnels).2 ?_, (byHttp _ colons colon).2 ?_,
    mt (byHttp _ literal bracketed).1 ?_⟩
  · exact Authority.unbracket_self.1 (by decide)
  · exact Authority.unbracket_self.1 (by decide)
  · exact mt Authority.unbracket_self.2 (by decide)

end Target

end GatedProxy
