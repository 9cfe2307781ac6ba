import GatedProxy.Proofs.Text.Number
import GatedProxy.Proofs.Text.Words
import GatedProxy.Text.Basic
import GatedProxy.Text.Quoted

namespace GatedProxy.Text

-- No CRLF in it. A carriage return or a line feed may be, each alone.
def Unbroken (t : Text) : Prop := ¬ crlf <:+: t

def ended (lines : List Text) : Text := lines.flatMap (· ++ crlf)

theorem unbroken_nil : Unbroken [] := by
  intro found
  cases List.eq_nil_of_infix_nil found

theorem Unbroken.tail (unbroken : Unbroken (c :: t)) : Unbroken t :=
  fun found => unbroken (List.infix_cons found)

theorem Unbroken.cons (unbroken : Unbroken t) (inside : ¬ crlf <+: c :: t) : Unbroken (c :: t) := by
  intro found
  rcases List.infix_cons_iff.1 found with start | later
  · exact inside start
  · exact unbroken later

theorem crlfLines_crlf (t : Text) :
    crlfLines (crlf ++ t) = ([], (crlfLines t).1 :: (crlfLines t).2) := rfl

theorem crlfLines_cons {c : Char} {t : Text} (inside : ¬ crlf <+: c :: t) :
    crlfLines (c :: t) = (c :: (crlfLines t).1, (crlfLines t).2) := by
  rw [crlfLines]
  rintro rest rfl rfl
  exact inside (List.prefix_append crlf rest)

theorem crlfLines_append {l : Text} (unbroken : Unbroken l) (t : Text) :
    crlfLines (l ++ crlf ++ t) = (l, (crlfLines t).1 :: (crlfLines t).2) := by
  induction l with
  | nil => exact crlfLines_crlf t
  | cons c l ih =>
    have inside : ¬ crlf <+: c :: (l ++ crlf ++ t) := by
      intro start
      cases l with
      | nil => simp [crlf] at start
      | cons d l =>
        obtain ⟨rfl, rfl⟩ : '\r' = c ∧ '\n' = d := by simpa [crlf] using start
        exact unbroken (List.prefix_append crlf l).isInfix
    rw [List.cons_append, List.cons_append, crlfLines_cons inside, ih unbroken.tail]

theorem crlfLines_unbroken {l : Text} (unbroken : Unbroken l) : crlfLines l = (l, []) := by
  induction l with
  | nil => rfl
  | cons c l ih =>
    have inside : ¬ crlf <+: c :: l := fun start => unbroken start.isInfix
    rw [crlfLines_cons inside, ih unbroken.tail]

theorem crlfLines_ended {line : Text} {lines : List Text} (unbroken : Unbroken line)
    (others : ∀ l ∈ lines, Unbroken l) (t : Text) :
    crlfLines (ended (line :: lines) ++ t) = (line, lines ++ (crlfLines t).1 :: (crlfLines t).2) := by
  induction lines generalizing line with
  | nil =>
    rw [ended, List.flatMap_singleton]
    exact crlfLines_append unbroken t
  | cons l lines ih =>
    have later := ih (others l List.mem_cons_self) fun m member =>
      others m (List.mem_cons_of_mem l member)
    rw [ended, List.flatMap_cons, ← ended, List.append_assoc, crlfLines_append unbroken, later]
    rfl

theorem joinCrlf_cons (first l : Text) (others : List Text) :
    joinCrlf first (l :: others) = first ++ crlf ++ joinCrlf l others := by
  simp [joinCrlf]

theorem joinCrlf_append (first l : Text) (before others : List Text) :
    joinCrlf first (before ++ l :: others) = ended (first :: before) ++ joinCrlf l others := by
  induction before generalizing first with
  | nil => simp [joinCrlf, ended]
  | cons m before ih =>
    rw [List.cons_append, joinCrlf_cons, ih]
    simp only [ended, List.flatMap_cons, List.append_assoc]

theorem crlfLines_joinCrlf {first : Text} {others : List Text}
    (unbroken : ∀ l ∈ first :: others, Unbroken l) :
    crlfLines (joinCrlf first others) = (first, others) := by
  induction others generalizing first with
  | nil =>
    rw [joinCrlf, List.flatMap_nil, List.append_nil]
    exact crlfLines_unbroken (unbroken first List.mem_cons_self)
  | cons l others ih =>
    have later := ih fun m member => unbroken m (List.mem_cons_of_mem first member)
    rw [joinCrlf_cons, crlfLines_append (unbroken first List.mem_cons_self), later]

theorem joinCrlf_crlfLines (t : Text) :
    joinCrlf (crlfLines t).1 (crlfLines t).2 = t ∧
      ∀ l ∈ (crlfLines t).1 :: (crlfLines t).2, Unbroken l := by
  fun_induction crlfLines t with
  | case1 => exact ⟨rfl, by simp [unbroken_nil]⟩
  | case2 rest first others split ih =>
    rw [split] at ih
    obtain ⟨whole, unbroken⟩ := ih
    refine ⟨?_, ?_⟩
    · rw [joinCrlf_cons, whole]
      rfl
    · intro l member
      rcases List.mem_cons.1 member with rfl | later
      · exact unbroken_nil
      · exact unbroken l later
  | case3 c rest inside first others split ih =>
    rw [split] at ih
    obtain ⟨whole, unbroken⟩ := ih
    refine ⟨?_, ?_⟩
    · rw [← whole]
      rfl
    · intro l member
      rcases List.mem_cons.1 member with rfl | later
      · refine (unbroken first List.mem_cons_self).cons ?_
        rintro ⟨more, start⟩
        obtain ⟨rfl, rfl⟩ := List.cons.inj start
        exact inside _ rfl whole.symm
      · exact unbroken l (List.mem_cons_of_mem first later)

theorem crlfLines_exact {t first : Text} {others : List Text} :
    crlfLines t = (first, others) ↔
      t = joinCrlf first others ∧ ∀ l ∈ first :: others, Unbroken l := by
  constructor
  · intro cut
    have parts := joinCrlf_crlfLines t
    rw [cut] at parts
    exact ⟨parts.1.symm, parts.2⟩
  · rintro ⟨rfl, unbroken⟩
    exact crlfLines_joinCrlf unbroken

variable {t : Text}

-- Every character after which Unicode has a new line begin.
def lineBreaks : Text := ['\n', '\x0b', '\x0c', '\r', '\u0085', '\u2028', '\u2029']

def OneLine (t : Text) : Prop := ∀ c ∈ t, c ∉ lineBreaks

def Printable (t : Text) : Prop := ∀ c ∈ t, isUnprintable c = false

instance (t : Text) : Decidable (OneLine t) := List.decidableBAll _ t

instance (t : Text) : Decidable (Printable t) := List.decidableBAll _ t

theorem lineBreaks_blank : ∀ c ∈ lineBreaks, isBlank c = true :=
  List.all_eq_true.1 (by decide)

theorem lineBreaks_unprintable : ∀ c ∈ lineBreaks, isUnprintable c = true :=
  List.all_eq_true.1 (by decide)

theorem OneLine.ofList (one : OneLine t) : OneLine (String.ofList t).toList := by
  rw [String.toList_ofList]
  exact one

theorem oneLine_append {a b : String} (one : OneLine a.toList) (two : OneLine b.toList) :
    OneLine (a ++ b).toList := by
  rw [String.toList_append]
  exact List.forall_mem_append.2 ⟨one, two⟩

theorem OneLine.of_clear {breaks : Char → Bool} (all : ∀ c ∈ lineBreaks, breaks c = true)
    (clear : ∀ c ∈ t, breaks c = false) : OneLine t := by
  intro c member ends
  have found := all c ends
  rw [clear c member] at found
  cases found

theorem Solid.oneLine (solid : Solid t) : OneLine t := .of_clear lineBreaks_blank solid

theorem Printable.oneLine (printable : Printable t) : OneLine t :=
  .of_clear lineBreaks_unprintable printable

theorem hex_printable (n : Nat) : Printable (hex n) := by
  have digits : Printable hexDigits := by decide +kernel
  intro c member
  exact digits c (mem_hex n c member)

theorem quotedChar_printable (c : Char) : Printable (quotedChar c) := by
  unfold quotedChar
  split
  case h_7 =>
    split
    · have front : Printable ['\\', 'u', '\x7b'] := by decide +kernel
      have back : Printable ['\x7d'] := by decide +kernel
      have start := List.forall_mem_append.2 ⟨front, hex_printable c.toNat⟩
      exact List.forall_mem_append.2 ⟨start, back⟩
    · rename_i printable
      exact List.forall_mem_singleton.2 (by simpa using printable)
  all_goals decide +kernel

theorem quoted_printable (t : Text) : Printable (quoted t) := by
  have mark : Printable ['"'] := by decide +kernel
  have inner : Printable (t.flatMap quotedChar) := by
    intro c member
    obtain ⟨d, _, there⟩ := List.mem_flatMap.1 member
    exact quotedChar_printable d c there
  have start := List.forall_mem_append.2 ⟨mark, inner⟩
  exact List.forall_mem_append.2 ⟨start, mark⟩

end GatedProxy.Text
