import GatedProxy.Proofs.Text.Words
import GatedProxy.Request

namespace GatedProxy.RequestLine

def fields (l : RequestLine) : List Text := l.method :: l.target :: l.version.toList

variable {line other : Text} {l m : RequestLine} {words same : List Text}

theorem fields_injective (same : l.fields = m.fields) : l = m := by
  obtain ⟨method, target, version⟩ := l
  obtain ⟨method', target', version'⟩ := m
  simp only [fields, List.cons.injEq] at same
  obtain ⟨rfl, rfl, versions⟩ := same
  cases version <;> cases version' <;> simp_all

theorem fields_words (method target : Text) (rest : List Text) :
    fields { method, target, version := rest.head? } = (method :: target :: rest).take 3 := by
  cases rest <;> rfl

theorem exists_two (enough : ¬ words.length < 2) :
    ∃ method target rest, words = method :: target :: rest := by
  match words, enough with
  | [], enough => exact absurd Nat.two_pos enough
  | [_], enough => exact absurd Nat.one_lt_two enough
  | method :: target :: rest, _ => exact ⟨method, target, rest, rfl⟩

theorem parse_two {method target : Text} {rest : List Text}
    (worded : Text.Worded line (method :: target :: rest)) :
    parse line = .ok { method, target, version := rest.head? } := by
  rw [parse, worded.words]

theorem parse_few (worded : Text.Worded line words) (few : words.length < 2) :
    parse line = .error (.line line) := by
  rw [parse, worded.words]
  match words, few with
  | [], _ => rfl
  | [_], _ => rfl

theorem parse_fields (worded : Text.Worded line words) :
    parse line = .ok l ↔ l.fields = words.take 3 := by
  by_cases few : words.length < 2
  · rw [parse_few worded few]
    refine iff_of_false nofun ?_
    intro fields
    have length := congrArg List.length fields
    simp only [RequestLine.fields, List.length_cons, List.length_take] at length
    omega
  · obtain ⟨method, target, rest, rfl⟩ := exists_two few
    rw [parse_two worded, ← fields_words]
    constructor
    · intro read
      cases read
      rfl
    · intro fields
      rw [fields_injective fields]

theorem parse_failed (worded : Text.Worded line words) :
    parse line = .error e ↔ e = .line line ∧ words.length < 2 := by
  by_cases few : words.length < 2
  · rw [parse_few worded few, and_iff_left few, Except.error.injEq, eq_comm]
  · obtain ⟨method, target, rest, rfl⟩ := exists_two few
    rw [parse_two worded]
    exact iff_of_false nofun fun parts => few parts.2

theorem parse_alike (worded : Text.Worded line words) (again : Text.Worded other same)
    (counted : same.take 3 = words.take 3) : (parse other).toOption = (parse line).toOption := by
  apply Option.ext
  intro l
  have read (text : Text) : (parse text).toOption = some l ↔ parse text = .ok l := by
    cases parse text <;> simp [Except.toOption]
  rw [read, read, parse_fields worded, parse_fields again, counted]

-- A request line is known by its words. Without two of them it is refused, and shown as it came;
-- with them the first three count, and nothing else in the line does.
theorem parse_exact (line : Text) :
    ∃ words, Text.Worded line words ∧ (∀ same, Text.Worded line same → same = words) ∧
      (∀ e, parse line = .error e ↔ e = .line line ∧ words.length < 2) ∧
      (∀ l, parse line = .ok l ↔ l.fields = words.take 3) ∧
      (∀ l, parse line = .ok l → ∀ field ∈ l.fields, field ≠ [] ∧ Text.Solid field) ∧
      (∀ other same, Text.Worded other same → same.take 3 = words.take 3 →
        (parse other).toOption = (parse line).toOption) ∧
      Text.squeezed line = [' '].intercalate words ∧
      (parse (Text.squeezed line)).toOption = (parse line).toOption := by
  obtain ⟨words, worded⟩ := Text.exists_worded line
  have squeezed : Text.Worded (Text.squeezed line) words :=
    Text.words_exact.1 ((Text.words_squeezed line).trans worded.words)
  refine ⟨words, worded, ?_, fun e => parse_failed worded, fun l => parse_fields worded, ?_,
    fun other same => parse_alike worded, worded.squeezed, parse_alike worded squeezed rfl⟩
  · intro same again
    exact again.words.symm.trans worded.words
  · intro l parsed field member
    rw [(parse_fields worded).1 parsed, ← worded.words] at member
    exact Text.mem_words (List.mem_of_mem_take member)

example : (parse "\u2003GET\u0085\r\n\u3000a\u200bb\ufeff\t1 2".toList).toOption =
    some ⟨"GET".toList, "a\u200bb\ufeff".toList, some "1".toList⟩ := by decide +kernel

end GatedProxy.RequestLine
