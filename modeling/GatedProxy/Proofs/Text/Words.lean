import GatedProxy.Proofs.Text.Cut
import GatedProxy.Proofs.Text.Number

namespace GatedProxy.Text

-- A text and its words in order: the stretches without a blank that no character beside them could
-- be added to. What is behind a word begins with a blank or is nothing.
inductive Worded : Text → List Text → Prop where
  | blank (blank : Blank t) : Worded t []
  | word (lead : Blank before) (full : w ≠ []) (solid : Solid w)
      (stops : ∀ c ∈ rest.head?, isBlank c = true) (later : Worded rest ws) :
      Worded (before ++ w ++ rest) (w :: ws)

variable {t w before after : Text} {ws : List Text} {c : Char}

-- The characters of the text are looked at, and not all the characters there are.
instance (t : Text) : Decidable (Solid t) := List.decidableBAll _ t

theorem stretches_splitOnP (t : Text) :
    (stretches t).1 :: (stretches t).2 = t.splitOnP isBlank := by
  induction t with
  | nil => rfl
  | cons c t ih =>
    rw [stretches, List.splitOnP_cons_eq_if_modifyHead, ← ih]
    by_cases blank : isBlank c = true
    · simp [blank]
    · simp [blank]

theorem words_splitOnP (t : Text) :
    words t = (t.splitOnP isBlank).filter fun w => !w.isEmpty := by
  rw [← stretches_splitOnP]
  rfl

theorem words_blank (blank : isBlank c = true) (before after : Text) :
    words (before ++ c :: after) = words before ++ words after := by
  simp only [words_splitOnP]
  rw [List.splitOnP_append_cons before after blank, List.filter_append]

theorem words_solid (solid : Solid w) (full : w ≠ []) : words w = [w] := by
  rw [words_splitOnP, List.splitOnP_eq_singleton solid]
  exact List.filter_cons_of_pos (by simpa using full)

theorem solid_of_mem_splitOnP (member : w ∈ t.splitOnP isBlank) : Solid w := by
  induction t generalizing w with
  | nil =>
    cases List.mem_singleton.1 member
    exact List.forall_mem_nil _
  | cons c t ih =>
    rw [← stretches_splitOnP] at ih
    rw [List.splitOnP_cons_eq_if_modifyHead, ← stretches_splitOnP] at member
    split at member
    · rcases List.mem_cons.1 member with rfl | later
      · exact List.forall_mem_nil _
      · exact ih later
    · rename_i solid
      rcases List.mem_cons.1 member with rfl | later
      · exact List.forall_mem_cons.2 ⟨by simpa using solid, ih List.mem_cons_self⟩
      · exact ih (List.mem_cons_of_mem _ later)

theorem mem_words (member : w ∈ words t) : w ≠ [] ∧ Solid w := by
  rw [words_splitOnP] at member
  obtain ⟨there, full⟩ := List.mem_filter.1 member
  exact ⟨by simpa using full, solid_of_mem_splitOnP there⟩

theorem digit_solid (digit : c.isDigit = true) : isBlank c = false := by
  have range : 48 ≤ c.toNat ∧ c.toNat ≤ 57 := Char.isDigit_iff_toNat.mp digit
  simp [isBlank, CharRanges.has, blankRanges]
  omega

theorem decimal_solid (n : Nat) : Solid (decimal n) := by
  intro c member
  exact digit_solid ((decimal_digits n).decimal c member)

theorem words_cons_blank (blank : isBlank c = true) (t : Text) : words (c :: t) = words t :=
  words_blank blank [] t

theorem words_lead (lead : Blank before) (t : Text) : words (before ++ t) = words t := by
  induction before with
  | nil => rfl
  | cons c before ih =>
    obtain ⟨first, others⟩ := List.forall_mem_cons.1 lead
    rw [List.cons_append, words_cons_blank first, ih others]

theorem words_eq_nil (blank : Blank t) : words t = [] := by
  have nothing := words_lead blank []
  rwa [List.append_nil] at nothing

theorem words_append_stop (stops : ∀ c ∈ after.head?, isBlank c = true) (t : Text) :
    words (t ++ after) = words t ++ words after := by
  cases after with
  | nil => rw [List.append_nil, words_eq_nil (List.forall_mem_nil _), List.append_nil]
  | cons c after =>
    have blank : isBlank c = true := stops c rfl
    rw [words_blank blank, words_cons_blank blank]

theorem Blank.stops (blank : Blank t) : ∀ c ∈ t.head?, isBlank c = true :=
  fun c first => blank c (List.mem_of_mem_head? first)

theorem Worded.words (worded : Worded t ws) : words t = ws := by
  induction worded with
  | blank blank => exact words_eq_nil blank
  | word lead full solid stops _ ih =>
    rw [List.append_assoc, words_lead lead, words_append_stop stops, words_solid solid full, ih]
    rfl

theorem Worded.cons_blank (worded : Worded t ws) (blank : isBlank c = true) :
    Worded (c :: t) ws := by
  cases worded with
  | blank others => exact .blank (List.forall_mem_cons.2 ⟨blank, others⟩)
  | word lead full solid stops later =>
    exact .word (List.forall_mem_cons.2 ⟨blank, lead⟩) full solid stops later

theorem Worded.cons_solid (worded : Worded t ws) (solid : isBlank c = false) :
    ∃ ws, Worded (c :: t) ws := by
  have nothing : Blank [] := List.forall_mem_nil _
  have alone : Solid [c] := List.forall_mem_singleton.2 solid
  have apart (stops : ∀ d ∈ t.head?, isBlank d = true) : Worded (c :: t) ([c] :: ws) :=
    .word nothing (List.cons_ne_nil c []) alone stops worded
  cases worded with
  | blank others => exact ⟨_, apart others.stops⟩
  | word lead full whole stops later =>
    rename_i before w rest ws
    cases before with
    | nil =>
      have longer : Solid (c :: w) := List.forall_mem_cons.2 ⟨solid, whole⟩
      exact ⟨_, .word nothing (List.cons_ne_nil c w) longer stops later⟩
    | cons d before =>
      refine ⟨_, apart ?_⟩
      intro e first
      cases first
      exact lead d List.mem_cons_self

theorem exists_worded (t : Text) : ∃ ws, Worded t ws := by
  induction t with
  | nil => exact ⟨[], .blank (List.forall_mem_nil _)⟩
  | cons c t ih =>
    obtain ⟨ws, worded⟩ := ih
    cases blank : isBlank c with
    | true => exact ⟨ws, worded.cons_blank blank⟩
    | false => exact worded.cons_solid blank

theorem words_exact : words t = ws ↔ Worded t ws := by
  constructor
  · intro read
    obtain ⟨other, worded⟩ := exists_worded t
    rw [← read, worded.words]
    exact worded
  · exact Worded.words

def collapsed : Text → Text
  | [] => []
  | c :: rest =>
    if isBlank c then
      if rest.head?.any isBlank then collapsed rest else ' ' :: collapsed rest
    else c :: collapsed rest

def squeezed (t : Text) : Text := trim (collapsed t)

theorem collapsed_blank (blank : Blank t) : Blank (collapsed t) := by
  induction t with
  | nil => exact blank
  | cons c t ih =>
    obtain ⟨first, others⟩ := List.forall_mem_cons.1 blank
    rw [collapsed, if_pos first]
    split
    · exact ih others
    · exact List.forall_mem_cons.2 ⟨by decide, ih others⟩

theorem collapsed_solid (solid : Solid w) (t : Text) : collapsed (w ++ t) = w ++ collapsed t := by
  induction w with
  | nil => rfl
  | cons c w ih =>
    obtain ⟨first, others⟩ := List.forall_mem_cons.1 solid
    rw [List.cons_append, collapsed, if_neg (by simp [first]), ih others]
    rfl

theorem collapsed_lead (lead : Blank before) (full : before ≠ [])
    (starts : t.head?.any isBlank = false) : collapsed (before ++ t) = ' ' :: collapsed t := by
  induction before with
  | nil => exact absurd rfl full
  | cons c before ih =>
    obtain ⟨first, others⟩ := List.forall_mem_cons.1 lead
    rw [List.cons_append, collapsed, if_pos first]
    cases before with
    | nil => simp [starts]
    | cons d before =>
      have second : isBlank d = true := others d List.mem_cons_self
      have more : ((d :: before) ++ t).head?.any isBlank = true := second
      rw [if_pos more]
      exact ih others (List.cons_ne_nil d before)

theorem trimEnd_blank (blank : Blank t) : trimEnd t = [] :=
  trimEnd_append blank (List.forall_mem_nil _)

theorem trimEnd_kept (kept : trimEnd after ≠ []) (before : Text) :
    trimEnd (before ++ after) = before ++ trimEnd after := by
  have left : (after.reverse.dropWhile isBlank).isEmpty = false := by simpa [trimEnd] using kept
  simp [trimEnd, List.dropWhile_append, left]

theorem trimEnd_solid (solid : Solid w) (t : Text) : trimEnd (w ++ t) = w ++ trimEnd t := by
  by_cases kept : trimEnd t = []
  · have backwards : Solid w.reverse := fun c member => solid c (List.mem_reverse.1 member)
    have nothing : t.reverse.dropWhile isBlank = [] := List.reverse_eq_nil_iff.1 kept
    rw [kept, trimEnd, List.reverse_append, List.dropWhile_append, nothing, List.append_nil]
    exact (congrArg List.reverse (dropWhile_solid backwards)).trans (List.reverse_reverse w)
  · exact trimEnd_kept kept w

theorem starts_solid (full : w ≠ []) (solid : Solid w) (t : Text) :
    (w ++ t).head?.any isBlank = false := by
  cases w with
  | nil => exact absurd rfl full
  | cons c w => exact solid c List.mem_cons_self

-- Behind a word, each word has one space in front of it, and nothing is left of what follows the
-- last.
theorem Worded.onward (worded : Worded t ws) (stops : ∀ c ∈ t.head?, isBlank c = true) :
    trimEnd (collapsed t) = ws.flatMap (' ' :: ·) := by
  induction worded with
  | blank blank => exact trimEnd_blank (collapsed_blank blank)
  | word lead full solid more later ih =>
    rename_i before w rest ws
    have apart : before ≠ [] := by
      rintro rfl
      cases w with
      | nil => exact full rfl
      | cons c w =>
        have blank : isBlank c = true := stops c rfl
        rw [solid c List.mem_cons_self] at blank
        cases blank
    have kept : trimEnd (w ++ collapsed rest) = w ++ ws.flatMap (' ' :: ·) := by
      rw [trimEnd_solid solid, ih more]
    have left : trimEnd (w ++ collapsed rest) ≠ [] := by simp [kept, full]
    rw [List.append_assoc, collapsed_lead lead apart (starts_solid full solid rest),
      collapsed_solid solid]
    exact (trimEnd_kept left [' ']).trans (congrArg (' ' :: ·) kept)

theorem intercalate_space (w : Text) (ws : List Text) :
    [' '].intercalate (w :: ws) = w ++ ws.flatMap (' ' :: ·) := by
  induction ws generalizing w with
  | nil => simp
  | cons v ws ih => simp [List.intercalate_cons_cons, ih]

theorem Worded.squeezed (worded : Worded t ws) : squeezed t = [' '].intercalate ws := by
  cases worded with
  | blank blank =>
    have nothing : Solid [] := List.forall_mem_nil _
    have ending : Blank [] := List.forall_mem_nil _
    exact (trim_exact nothing).2 ⟨collapsed t, [], collapsed_blank blank, ending, by simp⟩
  | word lead full solid more later =>
    rename_i before w rest ws
    have starts : ∃ gap, Blank gap ∧
        collapsed (before ++ w ++ rest) = gap ++ (w ++ collapsed rest) := by
      rw [List.append_assoc, ← collapsed_solid solid]
      by_cases apart : before = []
      · exact ⟨[], List.forall_mem_nil _, by rw [apart]; rfl⟩
      · exact ⟨[' '], List.forall_mem_singleton.2 (by decide),
          collapsed_lead lead apart (starts_solid full solid rest)⟩
    obtain ⟨gap, blank, whole⟩ := starts
    have front : trimStart (gap ++ (w ++ collapsed rest)) = w ++ collapsed rest := by
      rw [trimStart, dropWhile_blank blank]
      cases w with
      | nil => exact absurd rfl full
      | cons c w => exact List.dropWhile_cons_of_neg (by simp [solid c List.mem_cons_self])
    rw [Text.squeezed, whole, trim, front, trimEnd_solid solid, later.onward more,
      intercalate_space]

theorem words_intercalate (each : ∀ w ∈ ws, w ≠ [] ∧ Solid w) :
    words ([' '].intercalate ws) = ws := by
  induction ws with
  | nil => rfl
  | cons w ws ih =>
    obtain ⟨⟨full, solid⟩, others⟩ := List.forall_mem_cons.1 each
    cases ws with
    | nil => rw [List.intercalate_singleton, words_solid solid full]
    | cons v ws =>
      rw [List.intercalate_cons_cons, List.append_assoc]
      have space := words_blank (c := ' ') (by decide) w ([' '].intercalate (v :: ws))
      rw [words_solid solid full, ih others] at space
      exact space

theorem words_squeezed (t : Text) : words (squeezed t) = words t := by
  rw [(words_exact.1 rfl).squeezed]
  exact words_intercalate fun w => mem_words

end GatedProxy.Text
