import Autoresponder.Proofs.HeaderWords
import Autoresponder.Proofs.LineBreaks
/-!
# How a header value is read

A reader decodes the encoded words of a value and leaves the rest of it. So a text is read as it was
meant, unless it is written as it stands and looks like an encoded word itself. It does not matter
which character sets the reader knows, as long as it is `Charsets.Lawful`.

1. A line is `Cut` into tokens in four ways, and `tokensFrom` uses no others (`cut_tokensFrom`).
2. An encoded word is longer than what it holds, whatever its coding
   (`EncodedWord.length_decode?_le`).
3. A line in which no word is found is read as it stands (`Cut.join_eq`); with a word in it a line
   of ASCII gets shorter (`Cut.length_le`). So a line of ASCII is read as it stands exactly if it
   shows no word (`trim_text_eq_self_iff`).
4. A text that was written in words is read as that text: each word lies between boundaries, holds a
   piece, and the spaces between two words vanish (`text_encode`). So what `HeaderText.encode`
   writes is read as it was, or else it is ASCII and shows a word (`trim_text_encode_iff`).
-/

namespace Autoresponder

open Text

/-! ## 1. Cutting a line -/

namespace Value

/-- What a word with this inside is read as. -/
def wordToken [Charsets] (inside : Text) : Token :=
  match EncodedWord.decode? inside with
  | some t => .decoded t
  | none => .text (wordStart ++ inside ++ wordEnd)

/-- The ways in which a part of a line is cut into tokens.

* `plain`: no word starts in it.
* `unopened`: what looks like the start of a word is glued to the text in front of it.
* `unclosed`: a word starts, but does not end.
* `word`: a word starts and ends. -/
inductive Cut [Charsets] : Text → List Token → Prop
  | plain (rest : Text) : Cut rest [Token.ofPiece rest]
  | unopened (before : Text) {after : Text} {ts : List Token} (h : Cut after ts) :
      Cut (before ++ wordStart ++ after) (.text (before ++ wordStart) :: ts)
  | unclosed (before : Text) {after : Text} {ts : List Token} (h : Cut after ts) :
      Cut (before ++ wordStart ++ after) (Token.ofPiece before :: .text wordStart :: ts)
  | word (before inside : Text) {tail : Text} {ts : List Token} (h : Cut tail ts) :
      Cut (before ++ wordStart ++ (inside ++ wordEnd ++ tail))
        (Token.ofPiece before :: wordToken inside :: ts)

theorem eq_append_of_closeWord? {line rest inside tail : Text} {place : Nat}
    (h : closeWord? line place rest = some (inside, tail)) :
    rest = inside ++ wordEnd ++ tail := by
  fun_induction closeWord? line place rest generalizing inside tail with
  | case1 => cases h
  | case2 place rest before after hbreak behind =>
    cases h
    exact eq_append_of_breakOn? hbreak
  | case3 place rest before after hbreak behind _ =>
    rename_i ih
    obtain ⟨⟨i, t⟩, hclose, heq⟩ := Option.map_eq_some_iff.mp h
    cases heq
    rw [eq_append_of_breakOn? hbreak, ih hclose]
    simp only [List.append_assoc]

theorem cut_tokensFrom [Charsets] (line : Text) (place : Nat) (rest : Text) :
    Cut rest (tokensFrom line place rest) := by
  fun_induction tokensFrom line place rest with
  | case1 place rest _ => exact .plain rest
  | case2 place rest before after hbreak start _ _ ih =>
    rw [eq_append_of_breakOn? hbreak]
    exact .unclosed before ih
  | case3 place rest before after hbreak start _ inside tail hclose word ih =>
    rw [eq_append_of_breakOn? hbreak, eq_append_of_closeWord? hclose]
    exact .word before inside ih
  | case4 place rest before after hbreak start _ ih =>
    rw [eq_append_of_breakOn? hbreak]
    exact .unopened before ih

end Value

/-! ## 2. What words hold -/

namespace Base64

variable {s : Text} {bytes : Bytes}

theorem length_of_group? {p q r s : Char} (h : group? p q r s = some bytes) : bytes.length ≤ 3 := by
  unfold group? at h
  split at h
  · cases h
    exact Nat.le_refl 3
  · dsimp only at h
    split_ifs at h
    cases h
    exact Nat.le_succ 2
  · dsimp only at h
    split_ifs at h
    cases h
    exact Nat.le_add_left 1 2
  · cases h

theorem length_of_groups? (h : groups? s = some bytes) : bytes.length ≤ s.length := by
  fun_induction groups? s generalizing bytes with
  | case1 =>
    cases h
    exact Nat.le_refl _
  | case2 p q r s rest group more hmore hgroup ih =>
    cases h
    have hthree := length_of_group? hgroup
    have hrest := ih hmore
    simp only [List.length_append, List.length_cons]
    omega
  | case3 => cases h
  | case4 => cases h

theorem length_of_decode? (h : decode? s = some bytes) : bytes.length ≤ s.length :=
  Nat.le_trans (length_of_groups? h) (List.length_filter_le _ s)

end Base64

namespace EncodedWord

theorem length_unquote_le (s : Text) : (unquote s).length ≤ s.length := by
  fun_induction unquote s with
  | case1 => exact Nat.le_refl _
  | case2 => exact Nat.zero_le _
  | case3 => exact Nat.le_refl _
  | case4 h l rest a b _ _ ih =>
    simp only [List.length_cons] at ih ⊢
    omega
  | case5 h l rest _ ih =>
    simp only [List.length_cons] at ih ⊢
    omega
  | case6 c rest _ _ _ ih =>
    simp only [List.length_cons] at ih ⊢
    omega

theorem length_trimEnd_le (s : Text) : (trimEnd s).length ≤ s.length :=
  (List.rdropWhile_prefix isBlank s).length_le

/-- The blanks at the end are written as characters, so they keep their number only in ASCII. -/
theorem length_decodeQ_le {input : Text} (h : isAscii input = true) :
    (decodeQ input).length ≤ input.length := by
  have hascii : ∀ s : Text, s <:+ (input.map fun c => if c == '_' then ' ' else c) →
      isAscii s = true := by
    intro s hs
    refine List.all_eq_true.mpr fun c hc => ?_
    obtain ⟨d, hd, rfl⟩ := List.mem_map.mp (hs.subset hc)
    split
    · rfl
    · exact List.all_eq_true.mp h d hd
  unfold decodeQ
  extract_lets spaced core
  have hspaced : spaced.length = input.length := List.length_map _
  have hcore : core.length ≤ spaced.length := length_trimEnd_le spaced
  have hcoded : (unquote (trimEnd (core.filter isQuotable))).length ≤ core.length :=
    Nat.le_trans (length_unquote_le _)
      (Nat.le_trans (length_trimEnd_le _) (List.length_filter_le _ _))
  have hblanks : (Utf8.encode (spaced.drop core.length)).length = spaced.length - core.length :=
    (Utf8.width_of_isAscii (hascii _ (List.drop_suffix _ _))).trans List.length_drop
  rw [List.length_append, hblanks]
  omega

theorem length_of_decodeBytes? {coding input : Text} {bytes : Bytes} (hascii : isAscii input = true)
    (h : decodeBytes? coding input = some bytes) : bytes.length ≤ input.length := by
  unfold decodeBytes? at h
  split at h
  · exact Base64.length_of_decode? h
  · exact Base64.length_of_decode? h
  · cases h
    exact length_decodeQ_le hascii
  · cases h
    exact length_decodeQ_le hascii
  · cases h

theorem length_decode?_le [charsets : Charsets] (hlawful : charsets.Lawful) {inside t : Text}
    (hascii : isAscii inside = true) (h : decode? inside = some t) : t.length ≤ inside.length := by
  unfold decode? at h
  split at h
  · cases h
  · next label rest hlabel =>
    split at h
    · cases h
    · next coding input hcoding =>
      split at h
      · cases h
      · next bytes hbytes =>
        have hinside : inside = label ++ ['?'] ++ (coding ++ ['?'] ++ input) := by
          rw [eq_append_of_breakOn? hlabel, eq_append_of_breakOn? hcoding]
        have hinput : isAscii input = true := by
          rw [hinside] at hascii
          simp only [isAscii, List.all_append, Bool.and_eq_true] at hascii ⊢
          exact hascii.2.2
        have hlength := Nat.le_trans (hlawful.length_le h) (length_of_decodeBytes? hinput hbytes)
        rw [hinside]
        simp only [List.length_append]
        omega

end EncodedWord

/-! ## 3. Lines as they stand -/

namespace Value

variable {rest inside line : Text} {ts : List Token}

/-- The line has a word in it that the reader finds and can decode. -/
def ShowsWord [Charsets] (line : Text) : Prop := ∃ t, .decoded t ∈ tokensOfLine line

/-- The text that a token stands for. -/
def Token.shown : Token → Text
  | .text t => t
  | .blank t => t
  | .decoded t => t
  | .newline => [' ']

theorem shown_text (t : Text) : (Token.text t).shown = t := rfl

theorem shown_ofPiece (t : Text) : (Token.ofPiece t).shown = t := by
  unfold Token.ofPiece
  split <;> rfl

theorem join_ofPiece (t : Text) (ts : List Token) :
    join .nothing (Token.ofPiece t :: ts) = t ++ join .nothing ts := by
  unfold Token.ofPiece
  split <;> rfl

theorem ofPiece_ne_decoded (t : Text) (w : Text) : Token.ofPiece t ≠ .decoded w := by
  unfold Token.ofPiece
  split <;> exact nofun

/-- Without a decoded word, the tokens put together are the line. -/
theorem Cut.join_eq [Charsets] (h : Cut rest ts) (hnone : ∀ t, .decoded t ∉ ts) :
    join .nothing ts = rest := by
  induction h with
  | plain rest => exact (join_ofPiece rest []).trans (List.append_nil rest)
  | @unopened before after ts _ ih =>
    have ih := ih fun t ht => hnone t (List.mem_cons_of_mem _ ht)
    show before ++ wordStart ++ join .nothing ts = _
    rw [ih]
  | @unclosed before after ts _ ih =>
    have ih := ih fun t ht => hnone t (List.mem_cons_of_mem _ (List.mem_cons_of_mem _ ht))
    rw [join_ofPiece]
    show before ++ (wordStart ++ join .nothing ts) = _
    rw [ih, List.append_assoc]
  | @word before inside tail ts _ ih =>
    have ih := ih fun t ht => hnone t (List.mem_cons_of_mem _ (List.mem_cons_of_mem _ ht))
    have hplain : wordToken inside = .text (wordStart ++ inside ++ wordEnd) := by
      unfold wordToken
      split
      · next t hdecode =>
        have ht : wordToken inside = .decoded t := by rw [wordToken, hdecode]
        exact absurd (ht ▸ List.mem_cons_of_mem _ List.mem_cons_self) (hnone t)
      · rfl
    rw [join_ofPiece, hplain]
    show before ++ (wordStart ++ inside ++ wordEnd ++ join .nothing ts) = _
    rw [ih]
    simp only [List.append_assoc]

/-- Putting tokens together adds nothing to them; it may leave out blanks. -/
theorem length_join_le (p : Pending) (ts : List Token) :
    (join p ts).length ≤ p.kept.length + (ts.flatMap Token.shown).length := by
  fun_induction join p ts with
  | case1 => exact Nat.zero_le _
  | _ =>
    simp only [List.flatMap_cons, Token.shown, Pending.kept, List.length_append, List.length_cons,
      List.length_nil] at *
    omega

/-- A word is four marks longer than its inside, and what it holds is not longer than that. -/
theorem length_wordToken [charsets : Charsets] (hlawful : charsets.Lawful)
    (h : isAscii inside = true) :
    (wordToken inside).shown.length ≤ inside.length + 4 ∧
      ∀ t, wordToken inside = .decoded t → (wordToken inside).shown.length < inside.length + 4 := by
  unfold wordToken
  split
  · next t hdecode =>
    have ht := EncodedWord.length_decode?_le hlawful h hdecode
    show t.length ≤ inside.length + 4 ∧ ∀ _, _ → t.length < inside.length + 4
    exact ⟨by omega, fun _ _ => by omega⟩
  · refine ⟨?_, fun t ht => Token.noConfusion ht⟩
    show (wordStart ++ inside ++ wordEnd).length ≤ inside.length + 4
    simp only [wordStart, wordEnd, List.length_append, List.length_cons, List.length_nil]
    omega

/-- The tokens of a line of ASCII are no longer than the line, and shorter if one of them is a
decoded word. -/
theorem Cut.length_le [charsets : Charsets] (hlawful : charsets.Lawful) (h : Cut rest ts)
    (hascii : isAscii rest = true) :
    (ts.flatMap Token.shown).length ≤ rest.length ∧
      ∀ t, .decoded t ∈ ts → (ts.flatMap Token.shown).length < rest.length := by
  induction h with
  | plain rest =>
    have hshown : [Token.ofPiece rest].flatMap Token.shown = rest := by
      rw [List.flatMap_singleton, shown_ofPiece]
    rw [hshown]
    exact ⟨Nat.le_refl _,
      fun t ht => absurd (List.mem_singleton.mp ht).symm (ofPiece_ne_decoded rest t)⟩
  | @unopened before after ts _ ih =>
    simp only [isAscii, List.all_append, Bool.and_eq_true] at hascii
    obtain ⟨hle, hlt⟩ := ih hascii.2
    simp only [List.flatMap_cons, List.length_append, shown_text]
    refine ⟨by omega, fun t ht => ?_⟩
    have := hlt t (List.mem_of_ne_of_mem Token.noConfusion ht)
    omega
  | @unclosed before after ts _ ih =>
    simp only [isAscii, List.all_append, Bool.and_eq_true] at hascii
    obtain ⟨hle, hlt⟩ := ih hascii.2
    simp only [List.flatMap_cons, List.length_append, shown_ofPiece, shown_text]
    refine ⟨by omega, fun t ht => ?_⟩
    have hlater := List.mem_of_ne_of_mem (ofPiece_ne_decoded before t).symm ht
    have := hlt t (List.mem_of_ne_of_mem Token.noConfusion hlater)
    omega
  | @word before inside tail ts _ ih =>
    simp only [isAscii, List.all_append, Bool.and_eq_true] at hascii
    obtain ⟨hle, hlt⟩ := ih hascii.2.2
    obtain ⟨hword, hdecoded⟩ := length_wordToken hlawful hascii.2.1.1
    have hmarks : wordStart.length + wordEnd.length = 4 := rfl
    simp only [List.flatMap_cons, List.length_append, shown_ofPiece]
    refine ⟨by omega, fun t ht => ?_⟩
    obtain hthis | hlater :=
      List.mem_cons.mp (List.mem_of_ne_of_mem (ofPiece_ne_decoded before t).symm ht)
    · have := hdecoded t hthis.symm
      omega
    · have := hlt t hlater
      omega

theorem length_trim_le (s : Text) : (trim s).length ≤ s.length :=
  Nat.le_trans (EncodedWord.length_trimEnd_le _) (List.dropWhile_sublist isBlank).length_le

/-- A value on one line is that line, cut into tokens and put together again. -/
theorem text_line [Charsets] (hne : line ≠ []) (hplain : HeaderText.Plain line)
    (hhead : ∀ c ∈ line.head?, isBlank c = false) :
    text (Utf8.encode line) = join .nothing (tokensOfLine line) := by
  have hnot : ∀ c, isControl c = true → c ∉ line := by
    intro c hc hmem
    rw [hplain c hmem] at hc
    cases hc
  have hpart : splitOn (· == '\n') line = [line] := splitOn_of_forall_not fun c hc =>
    beq_eq_false_iff_ne.mpr fun hfeed => hnot '\n' rfl (hfeed ▸ hc)
  have hlines : lines line = [line] := by
    have hlast : [line].getLast? ≠ some [] := fun hnil => hne (Option.some.inj hnil)
    rw [lines_of_notMem (hnot '\r' rfl), hpart, dropEmptyEnd, if_neg hlast]
  have hstart : trimStart line = line := by
    cases line with
    | nil => rfl
    | cons c line => exact List.dropWhile_cons_of_neg (Bool.eq_false_iff.mp (hhead c rfl))
  rw [text, characters, Utf8.decode?_encode, Option.getD_some, tokens, hlines, List.map_singleton,
    hstart, List.intersperse_singleton, List.flatten_singleton]

/-- A line of ASCII is read as it stands exactly if it shows no word. -/
theorem trim_text_eq_self_iff [charsets : Charsets] (hlawful : charsets.Lawful)
    (hascii : isAscii line = true) (hne : line ≠ []) (hplain : HeaderText.Plain line)
    (htrim : trim line = line) : trim (text (Utf8.encode line)) = line ↔ ¬ShowsWord line := by
  have hcut : Cut line (tokensOfLine line) := cut_tokensFrom line 0 line
  have hhead : ∀ c ∈ line.head?, isBlank c = false := by
    intro c hc
    obtain ⟨rest, hrest⟩ := List.head?_eq_some_iff.mp hc
    exact head_trim (htrim.trans hrest)
  rw [text_line hne hplain hhead]
  constructor
  · rintro heq ⟨t, ht⟩
    have hshorter := (hcut.length_le hlawful hascii).2 t ht
    have hjoin := length_join_le .nothing (tokensOfLine line)
    have hlength := length_trim_le (join .nothing (tokensOfLine line))
    rw [heq] at hlength
    simp only [Pending.kept, List.length_nil] at hjoin
    omega
  · intro hnone
    rw [hcut.join_eq fun t ht => hnone ⟨t, ht⟩, htrim]

/-! ## 4. Texts in words -/

open HeaderText

variable {tail : Text} {place : Nat}

/-- The fill stands at the end of a payload only. -/
theorem head?_payload_ne (bytes : Bytes) : (Base64.encode bytes).head? ≠ some '=' := by
  have hdigit : ∀ n < 64, some (Base64.digit n) ≠ some '=' := by
    intro n hn heq
    have hvalue := Base64.value?_digit n hn
    rw [Option.some.inj heq, Base64.value?_fill] at hvalue
    cases hvalue
  fun_cases Base64.encode bytes with
  | case1 => exact nofun
  | case2 a n =>
    have ha := a.toNat_lt
    exact hdigit _ (by omega)
  | case3 a b n =>
    have ha := a.toNat_lt
    have hb := b.toNat_lt
    exact hdigit _ (by omega)
  | case4 a b c rest n =>
    have ha := a.toNat_lt
    have hb := b.toNat_lt
    have hc := c.toNat_lt
    exact hdigit _ (by omega)

theorem question_notMem_payload (bytes : Bytes) : '?' ∉ Base64.encode bytes := by
  intro hmem
  have hother : ('?' != '?') = true :=
    Base64.forall_mem_encode (P := fun c => (c != '?') = true) (by decide) rfl bytes '?' hmem
  cases hother

/-- The inside of a word that holds the piece. -/
def insideOf (piece : Text) : Text :=
  ['U', 'T', 'F', '-', '8', '?', 'B', '?'] ++ Base64.encode (Utf8.encode piece)

theorem word_eq_insideOf (piece : Text) :
    word piece = wordStart ++ (insideOf piece ++ wordEnd) := by
  rw [word_eq, insideOf]
  simp [wordStart, wordEnd]

theorem isAscii_insideOf (piece : Text) : isAscii (insideOf piece) = true := by
  have hword : isAscii (word piece) = true :=
    List.all_eq_true.mpr (all_word (by decide) (by decide) piece)
  rw [word_eq_insideOf, isAscii, List.all_append, List.all_append, Bool.and_eq_true,
    Bool.and_eq_true] at hword
  exact hword.2.1

theorem decode?_insideOf [charsets : Charsets] (hlawful : charsets.Lawful) (piece : Text) :
    EncodedWord.decode? (insideOf piece) = some piece := by
  have hnoLabel : '?' ∉ ['U', 'T', 'F', '-', '8'] := by decide
  have hnoCoding : '?' ∉ ['B'] := by decide
  have hlabel : breakOn? ['?'] (insideOf piece) =
      some (['U', 'T', 'F', '-', '8'], 'B' :: '?' :: Base64.encode (Utf8.encode piece)) :=
    breakOn?_singleton hnoLabel _
  have hcoding : breakOn? ['?'] ('B' :: '?' :: Base64.encode (Utf8.encode piece)) =
      some (['B'], Base64.encode (Utf8.encode piece)) := breakOn?_singleton hnoCoding _
  simp only [EncodedWord.decode?, hlabel, hcoding, EncodedWord.decodeBytes?, Base64.decode?_encode,
    hlawful.utf8]

/-- The mark that ends a word is not found before its end: behind the question marks of the inside
stand the coding and the payload. -/
theorem breakOn?_wordEnd (piece tail : Text) :
    breakOn? wordEnd (insideOf piece ++ wordEnd ++ tail) = some (insideOf piece, tail) := by
  have hend : breakOn? wordEnd (wordEnd ++ tail) = some ([], tail) :=
    breakOn?_append_self wordEnd tail
  have hpayload : breakOn? wordEnd (Base64.encode (Utf8.encode piece) ++ (wordEnd ++ tail)) =
      some (Base64.encode (Utf8.encode piece), tail) := by
    rw [wordEnd, breakOn?_append (question_notMem_payload _), ← wordEnd, hend]
    simp
  have hsecond : dropPrefix? wordEnd
      ('?' :: (Base64.encode (Utf8.encode piece) ++ (wordEnd ++ tail))) = none := by
    have hhead := head?_payload_ne (Utf8.encode piece)
    cases hcoded : Base64.encode (Utf8.encode piece) with
    | nil => rfl
    | cons c payload =>
      rw [hcoded] at hhead
      have hc : ('=' == c) = false :=
        beq_eq_false_iff_ne.mpr fun heq => hhead (congrArg some heq.symm)
      simp [wordEnd, dropPrefix?, hc]
  have hinside : insideOf piece ++ wordEnd ++ tail =
      ['U', 'T', 'F', '-', '8'] ++
        '?' :: 'B' :: '?' :: (Base64.encode (Utf8.encode piece) ++ (wordEnd ++ tail)) := by
    simp [insideOf]
  have hlabel : '?' ∉ ['U', 'T', 'F', '-', '8'] := by decide
  rw [hinside, wordEnd, breakOn?_append hlabel, ← wordEnd, breakOn?_cons rfl, breakOn?_cons rfl,
    breakOn?_cons hsecond, hpayload]
  rfl

theorem closeWord?_insideOf {piece : Text}
    (hclose : boundaryAt line (place + (insideOf piece).length + 2) = true) (tail : Text) :
    closeWord? line place (insideOf piece ++ wordEnd ++ tail) = some (insideOf piece, tail) := by
  rw [closeWord?.eq_def]
  split
  · next hnone =>
    rw [breakOn?_wordEnd] at hnone
    cases hnone
  · next before after hbreak =>
    rw [breakOn?_wordEnd] at hbreak
    cases hbreak
    rw [Utf8.width_of_isAscii (isAscii_insideOf piece)]
    dsimp only
    rw [if_pos hclose]

/-- One step of the tokenizer, where a word is found. -/
theorem tokensFrom_of_word [Charsets] {rest before after inside : Text}
    (hbreak : breakOn? wordStart rest = some (before, after))
    (hopen : opensAt line (place + Utf8.width before) = true)
    (hclose : closeWord? line (place + Utf8.width before + 2) after = some (inside, tail)) :
    tokensFrom line place rest = Token.ofPiece before :: wordToken inside ::
      tokensFrom line (place + Utf8.width before + 2 + Utf8.width inside + 2) tail := by
  rw [tokensFrom.eq_def]
  split
  · next hnone =>
    rw [hbreak] at hnone
    cases hnone
  · next before' after' hsome =>
    rw [hbreak] at hsome
    cases hsome
    dsimp only
    rw [if_pos hopen]
    split
    · next hnone =>
      rw [hclose] at hnone
      cases hnone
    · next hsome =>
      rw [hclose] at hsome
      cases hsome
      rfl

/-- A word between two boundaries is read as what it holds. -/
theorem tokensFrom_word [charsets : Charsets] (hlawful : charsets.Lawful) {gap piece : Text}
    (hgap : ∀ c ∈ gap, isBlank c = true) (hopen : opensAt line (place + Utf8.width gap) = true)
    (hclose : boundaryAt line (place + Utf8.width gap + (word piece).length) = true) (tail : Text) :
    tokensFrom line place (gap ++ word piece ++ tail) =
      Token.blank gap :: .decoded piece ::
        tokensFrom line (place + Utf8.width gap + (word piece).length) tail := by
  have hstart : '=' ∉ gap := by
    intro hmem
    have hblank := hgap '=' hmem
    cases hblank
  have hpiece : Token.ofPiece gap = .blank gap := by
    have hall : trimEnd gap = [] := List.rdropWhile_eq_nil_iff.mpr hgap
    rw [Token.ofPiece, hall]
    rfl
  have hwhole : gap ++ word piece ++ tail =
      gap ++ (wordStart ++ (insideOf piece ++ wordEnd ++ tail)) := by
    rw [word_eq_insideOf]
    simp only [List.append_assoc]
  have hbreak : breakOn? wordStart (gap ++ word piece ++ tail) =
      some (gap, insideOf piece ++ wordEnd ++ tail) := by
    rw [hwhole, wordStart, breakOn?_append hstart, ← wordStart, breakOn?_append_self]
    simp
  have hlength : (word piece).length = 2 + (insideOf piece).length + 2 := by
    rw [word_eq_insideOf]
    simp only [wordStart, wordEnd, List.length_append, List.length_cons, List.length_nil]
    omega
  have hplace : place + Utf8.width gap + (word piece).length =
      place + Utf8.width gap + 2 + (insideOf piece).length + 2 := by omega
  have hwidth : Utf8.width (insideOf piece) = (insideOf piece).length :=
    Utf8.width_of_isAscii (isAscii_insideOf piece)
  have hword : wordToken (insideOf piece) = .decoded piece := by
    rw [wordToken, decode?_insideOf hlawful]
  rw [hplace] at hclose ⊢
  rw [tokensFrom_of_word hbreak hopen (closeWord?_insideOf hclose tail), hpiece, hword, hwidth]

/-- The words behind the first one, each with the space in front of it. -/
def furtherWords (ps : List Text) : Text := ps.flatMap fun piece => ' ' :: word piece

theorem joinWith_words (piece : Text) (ps : List Text) :
    joinWith [' '] ((piece :: ps).map word) = word piece ++ furtherWords ps := by
  induction ps generalizing piece with
  | nil => exact (List.append_nil _).symm
  | cons next ps ih =>
    show word piece ++ [' '] ++ joinWith [' '] ((next :: ps).map word) = _
    rw [ih next, furtherWords, furtherWords, List.flatMap_cons, List.append_assoc]
    rfl

theorem plain_furtherWords (ps : List Text) : Plain (furtherWords ps) := by
  intro c hc
  obtain ⟨piece, -, hpiece⟩ := List.mem_flatMap.mp hc
  exact plain_cons.mpr ⟨rfl, plain_word piece⟩ c hpiece

/-- Behind a word the line ends, or goes on with a space. -/
theorem boundaryAt_furtherWords (front : Text) (ps : List Text) :
    boundaryAt (front ++ furtherWords ps) front.length = true := by
  rw [boundaryAt, List.getElem?_append_right (Nat.le_refl _), Nat.sub_self]
  cases ps <;> rfl

variable [charsets : Charsets] (hlawful : charsets.Lawful)
include hlawful

/-- The spaces between words vanish. -/
theorem join_furtherWords (ps : List Text) {front : Text}
    (hline : line = front ++ furtherWords ps) :
    join .word (tokensFrom line front.length (furtherWords ps)) = ps.flatten := by
  induction ps generalizing front with
  | nil =>
    have hnothing : tokensFrom line front.length [] = [.blank []] := by rw [tokensFrom.eq_def]; rfl
    show join .word (tokensFrom line front.length []) = []
    rw [hnothing]
    rfl
  | cons piece ps ih =>
    have hgap : ∀ c ∈ [' '], isBlank c = true := fun c hc => List.mem_singleton.mp hc ▸ rfl
    have hnext : line = front ++ ' ' :: word piece ++ furtherWords ps := by
      rw [hline, furtherWords, furtherWords, List.flatMap_cons, List.append_assoc]
    have hplace : front.length + Utf8.width [' '] + (word piece).length =
        (front ++ ' ' :: word piece).length := by
      have hone : Utf8.width [' '] = 1 := rfl
      rw [List.length_append, List.length_cons, hone]
      omega
    have hopen : opensAt line (front.length + Utf8.width [' ']) = true := by
      show (_ || boundaryAt line front.length) = true
      rw [hline, boundaryAt_furtherWords, Bool.or_true]
    have hclose : boundaryAt line (front ++ ' ' :: word piece).length = true := by
      rw [hnext]
      exact boundaryAt_furtherWords _ ps
    rw [← hplace] at hclose
    have htokens := tokensFrom_word hlawful hgap hopen hclose (furtherWords ps)
    rw [hplace] at htokens
    show join .word (tokensFrom line front.length ([' '] ++ word piece ++ furtherWords ps)) = _
    rw [htokens, List.flatten_cons, ← ih hnext]
    rfl

/-- Words with a space between each two of them are read as what they hold together. -/
theorem text_words (piece : Text) (ps : List Text) :
    text (Utf8.encode (word piece ++ furtherWords ps)) = piece ++ ps.flatten := by
  have hhead : ∀ c ∈ (word piece ++ furtherWords ps).head?, isBlank c = false := fun c hc =>
    Option.some.inj hc ▸ rfl
  have hne : word piece ++ furtherWords ps ≠ [] := List.cons_ne_nil _ _
  have hplain : Plain (word piece ++ furtherWords ps) :=
    plain_append.mpr ⟨plain_word piece, plain_furtherWords ps⟩
  have hplace : 0 + Utf8.width [] + (word piece).length = (word piece).length := Nat.zero_add _
  have hclose := boundaryAt_furtherWords (word piece) ps
  rw [← hplace] at hclose
  have htokens := tokensFrom_word hlawful (List.forall_mem_nil _) rfl hclose (furtherWords ps)
  rw [List.nil_append, hplace] at htokens
  rw [text_line hne hplain hhead, tokensOfLine, htokens, ← join_furtherWords hlawful ps rfl]
  rfl

/-- A text beyond ASCII is read as it was before it was written in words. -/
theorem text_encode {s : Text} (h : isAscii s = false) : text (Utf8.encode (encode s)) = s := by
  obtain ⟨piece, ps, hpieces⟩ := List.exists_cons_of_ne_nil (pieces_ne_nil 0 s)
  rw [encode_eq_joinWith h, hpieces, joinWith_words, text_words hlawful, ← List.flatten_cons,
    ← hpieces, flatten_pieces]

/-- ASCII is written as it is, so it may show a word that was part of the text. Nothing else is read
amiss. -/
theorem trim_text_encode_iff {s : Text} (hne : s ≠ []) (hplain : Plain s) (htrim : trim s = s) :
    trim (text (Utf8.encode (encode s))) = s ↔ ¬(isAscii s = true ∧ ShowsWord s) := by
  cases hascii : isAscii s with
  | true =>
    rw [encode, if_pos hascii, trim_text_eq_self_iff hlawful hascii hne hplain htrim]
    simp only [true_and]
  | false =>
    rw [text_encode hlawful hascii, htrim]
    simp only [Bool.false_eq_true, false_and, not_false_eq_true]

end Value
end Autoresponder
