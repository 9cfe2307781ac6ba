import GatedProxy.Text.Basic

namespace GatedProxy.Text

theorem after?_append (lead rest : Text) : after? lead (lead ++ rest) = some rest := by
  induction lead with
  | nil => rfl
  | cons a lead ih =>
    rw [List.cons_append, after?, if_pos rfl]
    exact ih

theorem eq_append_of_after? {lead t rest : Text} (cut : after? lead t = some rest) :
    t = lead ++ rest := by
  induction lead generalizing t with
  | nil =>
    cases cut
    rfl
  | cons a lead ih =>
    cases t with
    | nil => cases cut
    | cons c t =>
      rw [after?] at cut
      split at cut
      · rename_i same
        rw [same, List.cons_append, ← ih cut]
      · cases cut

theorem after?_exact {lead t rest : Text} : after? lead t = some rest ↔ t = lead ++ rest := by
  constructor
  · exact eq_append_of_after?
  · intro whole
    rw [whole]
    exact after?_append lead rest

theorem splitFirst_clear {sep : Char} {t : Text} (clear : sep ∉ t) : splitFirst sep t = none := by
  induction t with
  | nil => rfl
  | cons c t ih =>
    obtain ⟨other, later⟩ := not_or.mp (mt List.mem_cons.mpr clear)
    rw [splitFirst, if_neg (Ne.symm other), ih later]
    rfl

theorem splitFirst_append {sep : Char} {before : Text} (after : Text) (clear : sep ∉ before) :
    splitFirst sep (before ++ sep :: after) = some (before, after) := by
  induction before with
  | nil => simp [splitFirst]
  | cons c before ih =>
    obtain ⟨other, later⟩ := not_or.mp (mt List.mem_cons.mpr clear)
    rw [List.cons_append, splitFirst, if_neg (Ne.symm other), ih later]
    rfl

theorem eq_append_of_splitFirst {sep : Char} {t before after : Text}
    (cut : splitFirst sep t = some (before, after)) :
    t = before ++ sep :: after ∧ sep ∉ before := by
  induction t generalizing before with
  | nil => cases cut
  | cons c t ih =>
    rw [splitFirst] at cut
    split at cut
    · rename_i same
      cases cut
      exact ⟨by rw [same, List.nil_append], List.not_mem_nil⟩
    · rename_i other
      obtain ⟨⟨front, back⟩, found, equal⟩ := Option.map_eq_some_iff.1 cut
      cases equal
      obtain ⟨whole, clear⟩ := ih found
      refine ⟨by rw [whole, List.cons_append], ?_⟩
      intro member
      rcases List.mem_cons.mp member with same | later
      · exact other same.symm
      · exact clear later

theorem splitFirst_exact {sep : Char} {t before after : Text} :
    splitFirst sep t = some (before, after) ↔ t = before ++ sep :: after ∧ sep ∉ before := by
  constructor
  · exact eq_append_of_splitFirst
  · rintro ⟨rfl, clear⟩
    exact splitFirst_append after clear

theorem splitLast_clear {sep : Char} {t : Text} (clear : sep ∉ t) : splitLast sep t = none := by
  induction t with
  | nil => rfl
  | cons c t ih =>
    obtain ⟨other, later⟩ := not_or.mp (mt List.mem_cons.mpr clear)
    rw [splitLast, ih later]
    exact if_neg (Ne.symm other)

theorem clear_of_splitLast {sep : Char} {t : Text} (uncut : splitLast sep t = none) : sep ∉ t := by
  induction t with
  | nil => exact List.not_mem_nil
  | cons c t ih =>
    rw [splitLast] at uncut
    cases found : splitLast sep t with
    | some parts => simp [found] at uncut
    | none =>
      have other : c ≠ sep := by simpa [found] using uncut
      exact mt List.mem_cons.mp (not_or.mpr ⟨Ne.symm other, ih found⟩)

theorem splitLast_append {sep : Char} (before : Text) {after : Text} (clear : sep ∉ after) :
    splitLast sep (before ++ sep :: after) = some (before, after) := by
  induction before with
  | nil =>
    rw [List.nil_append, splitLast, splitLast_clear clear]
    exact if_pos rfl
  | cons c before ih => rw [List.cons_append, splitLast, ih]

theorem eq_append_of_splitLast {sep : Char} {t before after : Text}
    (cut : splitLast sep t = some (before, after)) :
    t = before ++ sep :: after ∧ sep ∉ after := by
  induction t generalizing before with
  | nil => cases cut
  | cons c t ih =>
    rw [splitLast] at cut
    cases found : splitLast sep t with
    | some parts =>
      rw [found] at cut
      cases cut
      obtain ⟨rfl, clear⟩ := ih found
      exact ⟨rfl, clear⟩
    | none =>
      rw [found] at cut
      dsimp only at cut
      split at cut
      · rename_i same
        cases cut
        exact ⟨by rw [same, List.nil_append], clear_of_splitLast found⟩
      · cases cut

theorem splitLast_exact {sep : Char} {t before after : Text} :
    splitLast sep t = some (before, after) ↔ t = before ++ sep :: after ∧ sep ∉ after := by
  constructor
  · exact eq_append_of_splitLast
  · rintro ⟨rfl, clear⟩
    exact splitLast_append before clear

theorem before?_exact {tail t rest : Text} : before? tail t = some rest ↔ t = rest ++ tail := by
  rw [before?, Option.map_eq_some_iff]
  constructor
  · rintro ⟨back, cut, rfl⟩
    rw [← List.reverse_reverse t, after?_exact.1 cut, List.reverse_append, List.reverse_reverse]
  · rintro rfl
    refine ⟨rest.reverse, ?_, List.reverse_reverse rest⟩
    rw [List.reverse_append]
    exact after?_append tail.reverse rest.reverse

theorem pieces_append {sep : Char} {before : Text} (clear : sep ∉ before) (after : Text) :
    pieces sep (before ++ sep :: after) =
      (before, (pieces sep after).1 :: (pieces sep after).2) := by
  induction before with
  | nil => simp [pieces]
  | cons c before ih =>
    obtain ⟨other, later⟩ := not_or.mp (mt List.mem_cons.mpr clear)
    rw [List.cons_append, pieces, ih later]
    exact if_neg (Ne.symm other)

theorem pieces_first (sep : Char) (t : Text) : (pieces sep t).1 = t.takeWhile (· ≠ sep) := by
  induction t with
  | nil => rfl
  | cons c t ih =>
    rw [pieces]
    by_cases same : c = sep
    · simp [same]
    · simp [same, ih]

theorem pieces_splitOn (sep : Char) (t : Text) :
    (pieces sep t).1 :: (pieces sep t).2 = t.splitOn sep := by
  induction t with
  | nil => rfl
  | cons c t ih =>
    rw [pieces, List.splitOn_cons_eq_if_modifyHead, ← ih]
    by_cases same : c = sep
    · simp [same]
    · simp [same]

def Blank (t : Text) : Prop := ∀ c ∈ t, isBlank c = true

def Solid (t : Text) : Prop := ∀ c ∈ t, isBlank c = false

theorem dropWhile_blank {before : Text} (blank : Blank before) (t : Text) :
    (before ++ t).dropWhile isBlank = t.dropWhile isBlank := by
  induction before with
  | nil => rfl
  | cons c before ih =>
    rw [List.cons_append, List.dropWhile_cons_of_pos (blank c List.mem_cons_self)]
    exact ih fun d member => blank d (List.mem_cons_of_mem c member)

theorem dropWhile_solid {t : Text} (solid : Solid t) : t.dropWhile isBlank = t := by
  cases t with
  | nil => rfl
  | cons c t => exact List.dropWhile_cons_of_neg (by simp [solid c List.mem_cons_self])

theorem trim_parts (t : Text) :
    ∃ before after, Blank before ∧ Blank after ∧ t = before ++ trim t ++ after := by
  refine ⟨t.takeWhile isBlank, ((t.dropWhile isBlank).reverse.takeWhile isBlank).reverse, ?_, ?_, ?_⟩
  · intro c member
    exact List.all_eq_true.mp List.all_takeWhile c member
  · intro c member
    exact List.all_eq_true.mp List.all_takeWhile c (List.mem_reverse.mp member)
  · have ending : trim t ++ ((t.dropWhile isBlank).reverse.takeWhile isBlank).reverse =
        t.dropWhile isBlank := by
      rw [trim, trimEnd, trimStart, ← List.reverse_append, List.takeWhile_append_dropWhile,
        List.reverse_reverse]
    rw [List.append_assoc, ending, List.takeWhile_append_dropWhile]

theorem trimEnd_append {t after : Text} (back : Blank after) (solid : Solid t) :
    trimEnd (t ++ after) = t := by
  have backwards : Blank after.reverse := fun c member => back c (List.mem_reverse.mp member)
  have solidBackwards : Solid t.reverse := fun c member => solid c (List.mem_reverse.mp member)
  rw [trimEnd, List.reverse_append, dropWhile_blank backwards, dropWhile_solid solidBackwards,
    List.reverse_reverse]

theorem trim_between {before t after : Text} (front : Blank before) (back : Blank after)
    (solid : Solid t) : trim (before ++ t ++ after) = t := by
  rw [trim, trimStart, List.append_assoc, dropWhile_blank front]
  cases t with
  | nil =>
    have nothing := dropWhile_blank back []
    rw [List.append_nil] at nothing
    rw [List.nil_append, nothing]
    rfl
  | cons c t =>
    have kept : (c :: t ++ after).dropWhile isBlank = c :: t ++ after := by
      rw [List.cons_append]
      exact List.dropWhile_cons_of_neg (by simp [solid c List.mem_cons_self])
    rw [kept]
    exact trimEnd_append back solid

theorem trim_exact {t word : Text} (solid : Solid word) :
    trim t = word ↔ ∃ before after, Blank before ∧ Blank after ∧ t = before ++ word ++ after := by
  constructor
  · intro trimmed
    rw [← trimmed]
    exact trim_parts t
  · rintro ⟨before, after, front, back, rfl⟩
    exact trim_between front back solid

end GatedProxy.Text
