import Autoresponder.Proofs.Texts
/-!
# Line breaks

A break is a line feed, a carriage return, or the two together, and the rewriting of breaks takes
one of these kinds after the other. It is compared here with a reading from left to right that takes
every break as it comes.

1. `unifyBreaks` puts a line feed for every break, and for other characters that are to end a line.
   For the breaks alone it is `normalizeBreaks` (`normalizeBreaks_eq`).
2. `pieces` is what stands between the breaks. It is the same to unify the breaks and to split at
   the line feeds (`splitOn_unifyBreaks`).
3. An empty piece behind the last break is no line, and so the lines of a text with its breaks
   unified are its pieces (`lines_unifyBreaks`).
4. The lines say everything about a text without carriage returns, except whether its last line has
   a break (`eq_of_lines_eq`).
-/

namespace Autoresponder.Text

/-! ## 1. One reading -/

/-- Every break becomes a line feed, as does every character that `separates`. -/
def unifyBreaks (separates : Char → Bool) : Text → Text
  | [] => []
  | '\r' :: '\n' :: s => '\n' :: unifyBreaks separates s
  | c :: s => (if c == '\r' || separates c then '\n' else c) :: unifyBreaks separates s

/-- The breaks may as well be rewritten in two passes: a carriage return that the first one leaves
is a break of its own. -/
theorem normalizeBreaks_eq (s : Text) : normalizeBreaks s = unifyBreaks (fun _ => false) s := by
  unfold normalizeBreaks
  rw [replace_singleton]
  fun_induction unifyBreaks (fun _ => false) s with
  | case1 => rfl
  | case2 s ih =>
    have hhere : replace ['\r', '\n'] ['\n'] ('\r' :: '\n' :: s) =
        ['\n'] ++ replace ['\r', '\n'] ['\n'] s :=
      replace_append_self (List.cons_ne_nil _ _) ['\n'] s
    rw [hhere, ← ih]
    rfl
  | case3 c s hfeed ih =>
    have hnot : ¬['\r', '\n'] <+: c :: s := by
      rintro ⟨t, ht⟩
      injection ht with hc hs
      exact hfeed t hc.symm hs.symm
    rw [replace_cons hnot, List.map_cons, ih, Bool.or_false]

variable (p : Char → Bool)

theorem return_notMem_unifyBreaks (s : Text) : '\r' ∉ unifyBreaks p s := by
  fun_induction unifyBreaks p s with
  | case1 => exact List.not_mem_nil
  | case2 s ih => exact List.not_mem_cons_of_ne_of_not_mem (by decide) ih
  | case3 c s _ ih =>
    refine List.not_mem_cons_of_ne_of_not_mem ?_ ih
    split
    · decide
    · next hplain =>
      rintro rfl
      exact hplain rfl

theorem getLast?_unifyBreaks (s : Text) :
    (unifyBreaks p s).getLast? = s.getLast?.map fun c => if c == '\r' || p c then '\n' else c := by
  fun_induction unifyBreaks p s with
  | case1 => rfl
  | case2 s ih =>
    rw [List.getLast?_cons, ih, List.getLast?_cons_cons, List.getLast?_cons]
    cases s.getLast? <;> simp
  | case3 c s _ ih =>
    rw [List.getLast?_cons, ih, List.getLast?_cons]
    cases s.getLast? <;> simp

variable {p}

/-- The other characters stay. -/
theorem mem_unifyBreaks_iff {c : Char} (hreturn : c ≠ '\r') (hfeed : c ≠ '\n') (hc : p c = false)
    (s : Text) :
    c ∈ unifyBreaks p s ↔ c ∈ s := by
  fun_induction unifyBreaks p s with
  | case1 => rfl
  | case2 s ih => simp [ih, hreturn, hfeed]
  | case3 d s _ ih =>
    rw [List.mem_cons, List.mem_cons, ih]
    split
    · next hbreak =>
      have hne : c ≠ d := by
        rintro rfl
        simp [hreturn, hc] at hbreak
      simp [hfeed, hne]
    · rfl

/-- A character that separates is a break of its own, whatever stands before and behind it. -/
theorem unifyBreaks_append_cons {c : Char} (hc : p c = true) (hreturn : c ≠ '\r') (hfeed : c ≠ '\n')
    (s t : Text) : unifyBreaks p (s ++ c :: t) = unifyBreaks p s ++ '\n' :: unifyBreaks p t := by
  fun_induction unifyBreaks p s with
  | case1 =>
    rw [List.nil_append, unifyBreaks, hc, Bool.or_true, if_pos rfl]
    · rfl
    · exact fun _ heq _ => hreturn heq
  | case2 s ih =>
    rw [List.cons_append, List.cons_append, unifyBreaks, ih]
    rfl
  | case3 d s hnot ih =>
    rw [List.cons_append, unifyBreaks, ih]
    · rfl
    · intro rest hd hs
      cases s with
      | nil => exact hfeed (List.cons.inj hs).1
      | cons d' s => exact hnot s hd (congrArg (· :: s) (List.cons.inj hs).1)

/-! ## 2. Pieces -/

variable (p) in
/-- What stands between the breaks of a text. -/
def pieces : Text → List Text
  | [] => [[]]
  | '\r' :: '\n' :: s => [] :: pieces s
  | c :: s =>
    if c == '\r' || c == '\n' || p c then [] :: pieces s else (pieces s).modifyHead (c :: ·)

theorem splitOn_unifyBreaks (s : Text) : splitOn (· == '\n') (unifyBreaks p s) = pieces p s := by
  fun_induction unifyBreaks p s with
  | case1 => rfl
  | case2 s ih => rw [splitOn_cons_of_pos rfl, ih, pieces]
  | case3 c s hfeed ih =>
    rw [pieces]
    · by_cases hbreak : (c == '\r' || p c) = true
      · have hany : (c == '\r' || c == '\n' || p c) = true := by
          rw [Bool.or_right_comm, hbreak, Bool.true_or]
        rw [if_pos hbreak, if_pos hany, splitOn_cons_of_pos rfl, ih]
      · rw [if_neg hbreak]
        by_cases hc : c = '\n'
        · subst hc
          rw [splitOn_cons_of_pos rfl, ih]
          rfl
        · have hnone : ¬(c == '\r' || c == '\n' || p c) = true := by
            rw [Bool.or_right_comm]
            simp_all
          rw [if_neg hnone, splitOn_cons_of_neg (by simpa using hc), ih]
    · exact hfeed

/-! ## 3. Lines -/

/-- An empty piece at the end is no line. -/
def dropEmptyEnd (parts : List Text) : List Text :=
  if parts.getLast? = some [] then parts.dropLast else parts

theorem dropEmptyEnd_concat (parts : List Text) (last : Text) :
    dropEmptyEnd (parts ++ [last]) = parts ++ if last.isEmpty then [] else [last] := by
  rw [dropEmptyEnd, List.getLast?_concat, List.dropLast_concat]
  cases last <;> simp

theorem dropReturn_of_notMem {s : Text} (h : '\r' ∉ s) : dropReturn s = s := by
  have hnone : dropSuffix? ['\r'] s = none :=
    dropSuffix?_singleton_eq_none_iff.mpr fun hlast => h (List.mem_of_getLast? hlast)
  rw [dropReturn, hnone]
  rfl

theorem exists_concat_splitOn (s : Text) : ∃ ended last, splitOn p s = ended ++ [last] :=
  ⟨_, _, (List.dropLast_append_getLast (splitOn_ne_nil p s)).symm⟩

theorem lines_of_notMem {s : Text} (h : '\r' ∉ s) :
    lines s = dropEmptyEnd (splitOn (· == '\n') s) := by
  obtain ⟨ended, last, hparts⟩ := exists_concat_splitOn (p := (· == '\n')) s
  have hended : ended.map dropReturn = ended := by
    refine (List.map_congr_left fun part hpart => ?_).trans (List.map_id ended)
    have hmem : part ∈ splitOn (· == '\n') s := hparts ▸ List.mem_append_left _ hpart
    exact dropReturn_of_notMem fun hreturn => h (of_mem_splitOn hmem _ hreturn).1
  rw [lines, hparts, dropEmptyEnd_concat, List.reverse_append]
  simp only [List.reverse_singleton, List.singleton_append]
  rw [List.map_reverse, List.reverse_reverse, hended]

theorem lines_unifyBreaks (s : Text) : lines (unifyBreaks p s) = dropEmptyEnd (pieces p s) := by
  rw [lines_of_notMem (return_notMem_unifyBreaks p s), splitOn_unifyBreaks]

/-! ## 4. What the lines leave open -/

theorem unlines_splitOn (s : Text) : unlines (splitOn (· == '\n') s) = s ++ ['\n'] := by
  induction s with
  | nil => rfl
  | cons c s ih =>
    by_cases hc : c = '\n'
    · subst hc
      rw [splitOn_cons_of_pos rfl, unlines, List.flatMap_cons, ← unlines, ih]
      rfl
    · obtain ⟨part, parts, hparts⟩ := List.exists_cons_of_ne_nil (splitOn_ne_nil (· == '\n') s)
      rw [splitOn_cons_of_neg (by simpa using hc), hparts, List.cons_append, ← ih, hparts]
      rfl

theorem getLast?_unlines (ls : List Text) :
    (unlines ls).getLast? = if ls = [] then none else some '\n' := by
  rcases List.eq_nil_or_concat ls with rfl | ⟨init, last, rfl⟩
  · rfl
  · simp [unlines]

/-- The break of the last line, if it has none. -/
def missingFeed (s : Text) : Text := if s.getLast?.all (· == '\n') then [] else ['\n']

theorem unlines_lines {s : Text} (h : '\r' ∉ s) : unlines (lines s) = s ++ missingFeed s := by
  obtain ⟨ended, last, hparts⟩ := exists_concat_splitOn (p := (· == '\n')) s
  have hall : unlines ended ++ last ++ ['\n'] = s ++ ['\n'] := by
    rw [← unlines_splitOn s, hparts]
    simp [unlines]
  obtain rfl : unlines ended ++ last = s := List.append_cancel_right hall
  have hlast : ∀ c ∈ last, (c == '\n') = false := fun c hc =>
    (of_mem_splitOn (p := (· == '\n')) (by rw [hparts]; simp) c hc).2
  rw [lines_of_notMem h, hparts, dropEmptyEnd_concat, missingFeed]
  cases hshape : last.getLast? with
  | none =>
    obtain rfl : last = [] := List.getLast?_eq_none_iff.mp hshape
    rw [List.append_nil, getLast?_unlines]
    by_cases hended : ended = []
    · simp [hended]
    · simp [hended]
  | some c =>
    have hne : last.isEmpty = false := by
      cases last with
      | nil => cases hshape
      | cons d last => rfl
    have hc : (c == '\n') = false := hlast c (List.mem_of_getLast? hshape)
    rw [List.getLast?_append, hshape, hne]
    simp [unlines, hc]

theorem eq_of_lines_eq {s t : Text} (hs : '\r' ∉ s) (ht : '\r' ∉ t)
    (hlast : s.getLast? = t.getLast?) (h : lines s = lines t) : s = t := by
  have hfeed : missingFeed s = missingFeed t := by rw [missingFeed, missingFeed, hlast]
  have hunlines := congrArg unlines h
  rw [unlines_lines hs, unlines_lines ht, hfeed] at hunlines
  exact List.append_cancel_right hunlines

end Autoresponder.Text
