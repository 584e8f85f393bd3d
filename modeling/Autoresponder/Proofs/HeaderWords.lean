import Autoresponder.Proofs.Codings
import Autoresponder.Proofs.RenderedReply
import Mathlib.Data.List.Forall2
/-!
# Text in header values

A header value is ASCII, and a reply writes other text in it as encoded words. Nothing of the text
may get lost on the way, and no word may be longer than RFC 2047 allows.

1. `HeaderText.pieces` cuts a text: the pieces are the text (`flatten_pieces`), none of them is
   empty, and none takes more than `wordBytes` bytes (`pieces_bounds`). The cut lies between two
   characters, since a character that does not fit opens the next piece.
2. An encoded word that `Carries` some bytes is ASCII, is short enough, and has a payload that
   decodes to them; they are whole characters. `word` makes such words, and between spaces they can
   be told apart (`splitOn_joinWith`).
3. A quoted string is read character by character, each with the backslash that stands in front of
   it. A name between quotes reads as itself, and only the quotes at its ends are bare
   (`quotes_displayName`).
4. Together: every text is encoded without loss, and every name is (`lossless`).
-/

namespace Autoresponder

open Text

/-! ## 1. Pieces -/

namespace HeaderText

theorem flatten_onFirst (c : Char) (ps : List Text) : (onFirst c ps).flatten = c :: ps.flatten := by
  cases ps <;> rfl

theorem flatten_pieces (used : Nat) (s : Text) : (pieces used s).flatten = s := by
  induction s generalizing used with
  | nil => rfl
  | cons c s ih =>
    simp only [pieces]
    split
    · rw [List.flatten_cons, List.nil_append, flatten_onFirst, ih]
    · rw [flatten_onFirst, ih]

/-- The first piece leaves room for what is already used; it may be empty, but the others are
not. -/
theorem exists_pieces {used : Nat} (h : used ≤ wordBytes) (s : Text) :
    ∃ p ps, pieces used s = p :: ps ∧ used + Utf8.width p ≤ wordBytes ∧
      ∀ q ∈ ps, q ≠ [] ∧ Utf8.width q ≤ wordBytes := by
  induction s generalizing used with
  | nil => exact ⟨[], [], rfl, h, nofun⟩
  | cons c s ih =>
    have hsize : (Utf8.encodeChar c).length ≤ wordBytes :=
      Nat.le_trans (Utf8.length_encodeChar_le c) (by decide)
    simp only [pieces]
    split
    · obtain ⟨p, ps, hps, hp, hlater⟩ := ih hsize
      refine ⟨[], (c :: p) :: ps, by rw [hps, onFirst], h,
        List.forall_mem_cons.mpr ⟨⟨?_, ?_⟩, hlater⟩⟩
      · exact List.cons_ne_nil _ _
      · rwa [Utf8.width_cons]
    · next hfits =>
      obtain ⟨p, ps, hps, hp, hlater⟩ := ih (Nat.not_lt.mp hfits)
      refine ⟨c :: p, ps, by rw [hps, onFirst], ?_, hlater⟩
      rwa [Utf8.width_cons, ← Nat.add_assoc]

theorem pieces_bounds {s : Text} (h : s ≠ []) :
    ∀ p ∈ pieces 0 s, p ≠ [] ∧ Utf8.width p ≤ wordBytes := by
  obtain ⟨c, s, rfl⟩ := List.exists_cons_of_ne_nil h
  have hsize : 0 + (Utf8.encodeChar c).length ≤ wordBytes := by
    rw [Nat.zero_add]
    exact Nat.le_trans (Utf8.length_encodeChar_le c) (by decide)
  -- a word has room for any character, so the first piece is not empty either
  obtain ⟨p, ps, hps, hp, hlater⟩ := exists_pieces hsize s
  simp only [pieces]
  rw [if_neg (Nat.not_lt.mpr hsize), hps, onFirst, List.forall_mem_cons]
  refine ⟨⟨List.cons_ne_nil _ _, ?_⟩, hlater⟩
  rwa [Utf8.width_cons, ← Nat.zero_add (List.length _)]

end HeaderText

/-! ## 2. Words -/

/-- Parts without the separator can be told apart when one stands between each two of them. -/
theorem Text.splitOn_joinWith {q : Char} {parts : List Text} (hne : parts ≠ [])
    (h : ∀ p ∈ parts, q ∉ p) :
    splitOn (· == q) (joinWith [q] parts) = parts := by
  have hwhole : ∀ p ∈ parts, splitOn (· == q) p = [p] := by
    intro p hp
    refine splitOn_of_forall_not fun c hc => beq_eq_false_iff_ne.mpr ?_
    rintro rfl
    exact h p hp hc
  fun_induction joinWith [q] parts with
  | case1 => exact absurd rfl hne
  | case2 p => exact hwhole p List.mem_cons_self
  | case3 p parts hparts ih =>
    rw [List.append_assoc, List.singleton_append,
      splitOn_append_cons (p := (· == q)) (beq_self_eq_true q), hwhole p List.mem_cons_self,
      ih hparts (fun r hr => h r (List.mem_cons_of_mem p hr))
        (fun r hr => hwhole r (List.mem_cons_of_mem p hr)),
      List.singleton_append]

namespace HeaderText

/-- An encoded word in UTF-8 and Base64 for some bytes, within the bounds that RFC 2047 sets. -/
structure Carries (w : Text) (bytes : Bytes) : Prop where
  ascii : isAscii w = true
  short : w.length ≤ 75
  payload : ∃ payload, w = "=?UTF-8?B?".toList ++ payload ++ "?=".toList ∧
    Base64.decode? payload = some bytes
  /-- No character is cut, and there is one at least. -/
  whole : ∃ piece, piece ≠ [] ∧ Utf8.decode? bytes = some piece

/-- The characters that mark a word. -/
def markLetters : Text := ['=', '?', 'U', 'T', 'F', '-', '8', 'B']

theorem word_eq (piece : Text) :
    word piece = ['=', '?', 'U', 'T', 'F', '-', '8', '?', 'B', '?'] ++
      Base64.encode (Utf8.encode piece) ++ ['?', '='] := rfl

/-- What holds of every digit and of the marks holds of every character of a word. -/
theorem all_word {p : Char → Bool} (hdigit : ∀ n < 64, p (Base64.digit n) = true)
    (hmarks : markLetters.all p = true) (piece : Text) : ∀ c ∈ word piece, p c = true := by
  have hstart : ['=', '?', 'U', 'T', 'F', '-', '8', '?', 'B', '?'] ⊆ markLetters := by decide
  have hend : ['?', '='] ⊆ markLetters := by decide
  have hmarks := List.all_eq_true.mp hmarks
  rw [word_eq, List.forall_mem_append, List.forall_mem_append]
  refine ⟨⟨fun c hc => hmarks c (hstart hc), ?_⟩, fun c hc => hmarks c (hend hc)⟩
  exact Base64.forall_mem_encode hdigit (hmarks '=' (by decide)) _

theorem carries_word {piece : Text} (hne : piece ≠ []) (hwidth : Utf8.width piece ≤ wordBytes) :
    Carries (word piece) (Utf8.encode piece) where
  ascii := List.all_eq_true.mpr (all_word (by decide) (by decide) piece)
  short := by
    have hlength : (word piece).length = 12 + 4 * ((Utf8.width piece + 2) / 3) := by
      simp only [word_eq, List.length_append, Base64.length_encode, Utf8.width, List.length_cons,
        List.length_nil]
      omega
    have hbytes : Utf8.width piece ≤ 45 := hwidth
    omega
  payload := ⟨Base64.encode (Utf8.encode piece), rfl, Base64.decode?_encode _⟩
  whole := ⟨piece, hne, Utf8.decode?_encode piece⟩

theorem space_notMem_word (piece : Text) : ' ' ∉ word piece := by
  intro hmem
  have hother : (' ' != ' ') = true :=
    all_word (p := (· != ' ')) (by decide) (by decide) piece ' ' hmem
  cases hother

theorem encode_eq_joinWith {s : Text} (h : isAscii s = false) :
    encode s = joinWith [' '] ((pieces 0 s).map word) := by
  rw [encode, h, if_neg Bool.false_ne_true]

/-- The words of an encoded text carry its bytes in their order. -/
theorem carries_encode {s : Text} (h : isAscii s = false) :
    List.Forall₂ Carries (splitOn (· == ' ') (encode s)) ((pieces 0 s).map Utf8.encode) := by
  have hne : s ≠ [] := by
    rintro rfl
    cases h
  have hwords : ∀ w ∈ (pieces 0 s).map word, ' ' ∉ w := by
    intro w hw
    obtain ⟨piece, -, rfl⟩ := List.mem_map.mp hw
    exact space_notMem_word piece
  have hpieces : (pieces 0 s).map word ≠ [] := by simpa using pieces_ne_nil 0 s
  rw [encode_eq_joinWith h, splitOn_joinWith hpieces hwords, List.forall₂_map_left_iff,
    List.forall₂_map_right_iff, List.forall₂_same]
  intro piece hpiece
  obtain ⟨hfilled, hwidth⟩ := pieces_bounds hne piece hpiece
  exact carries_word hfilled hwidth

/-! ## 3. Quoted strings -/

/-- A character of a quoted string. A backslash in front of it takes away what it would mean. -/
structure Mark where
  escaped : Bool
  char : Char
  deriving DecidableEq

/-- A quote that means something. -/
def Mark.bareQuote : Mark := ⟨false, '"'⟩

/-- The characters of a quoted string, without the backslashes that escape them. -/
def marks : Text → List Mark
  | [] => []
  | '\\' :: c :: s => ⟨true, c⟩ :: marks s
  | c :: s => ⟨false, c⟩ :: marks s

/-- The text is a quoted string that stands for the name. -/
structure Quotes (quoted name : Text) : Prop where
  start : quoted.head? = some '"'
  finish : quoted.getLast? = some '"'
  inside : ∃ inner, marks quoted = .bareQuote :: (inner ++ [.bareQuote]) ∧ .bareQuote ∉ inner ∧
    inner.map Mark.char = name

theorem marks_cons {c : Char} (h : c ≠ '\\') (s : Text) : marks (c :: s) = ⟨false, c⟩ :: marks s :=
  marks.eq_3 c s fun _ _ heq _ => h heq

/-- The characters that `escape` puts a backslash in front of are escaped, and no others. -/
def markOf (c : Char) : Mark := ⟨c == '"' || c == '\\', c⟩

theorem marks_escape (name rest : Text) :
    marks (name.flatMap escape ++ rest) = name.map markOf ++ marks rest := by
  induction name with
  | nil => rfl
  | cons c name ih =>
    rw [List.flatMap_cons, List.append_assoc, escape, List.map_cons, List.cons_append, markOf]
    split
    · next hspecial =>
      rw [hspecial, ← ih]
      rfl
    · next hplain =>
      rw [Bool.not_eq_true] at hplain
      have hc : c ≠ '\\' := by
        rintro rfl
        cases hplain
      rw [hplain, List.singleton_append, marks_cons hc, ih]

theorem bareQuote_notMem_map (name : Text) : Mark.bareQuote ∉ name.map markOf := by
  intro hmem
  obtain ⟨c, -, hc⟩ := List.mem_map.mp hmem
  rw [markOf, Mark.bareQuote, Mark.mk.injEq] at hc
  obtain ⟨hescaped, rfl⟩ := hc
  cases hescaped

theorem quotes_displayName {name : Text} (h : isAscii name = true) :
    Quotes (displayName name) name := by
  have hquoted : displayName name = '"' :: (name.flatMap escape ++ ['"']) := if_pos h
  refine ⟨by rw [hquoted]; rfl, by rw [hquoted, ← List.cons_append, List.getLast?_concat],
    name.map markOf, ?_,
    bareQuote_notMem_map name, ?_⟩
  · rw [hquoted, marks_cons (by decide), marks_escape]
    rfl
  · rw [List.map_map]
    exact List.map_id name

/-! ## 4. Both -/

theorem lossless (s : Text) :
    (isAscii s = false →
      (∃ payloads, List.Forall₂ Carries (splitOn (· == ' ') (encode s)) payloads ∧
        payloads.flatten = Utf8.encode s) ∧
      displayName s = encode s) ∧
    (isAscii s = true → Quotes (displayName s) s) := by
  refine ⟨fun hascii => ⟨⟨(pieces 0 s).map Utf8.encode, carries_encode hascii, ?_⟩, ?_⟩,
    quotes_displayName⟩
  · have hbytes : Utf8.encode (pieces 0 s).flatten = ((pieces 0 s).map Utf8.encode).flatten := by
      rw [Utf8.encode, List.flatMap_def, List.map_flatten, List.flatten_flatten, List.map_map]
      rfl
    rw [← hbytes, flatten_pieces]
  · rw [displayName, hascii, if_neg Bool.false_ne_true]

/-- A text whose first piece ends one byte early, since the next character takes two. -/
def accented : Text := List.replicate 44 'a' ++ ['\u00E9', '\u20AC']

/-- A name that ends with a backslash. -/
def awkwardName : Text := ['A', '"', '\\']

theorem lossless_accented :
    (isAscii accented = false ∧ isAscii awkwardName = true) ∧
      ((∃ payloads, List.Forall₂ Carries (splitOn (· == ' ') (encode accented)) payloads ∧
          payloads.flatten = Utf8.encode accented) ∧
        displayName accented = encode accented) ∧
      Quotes ['"', 'A', '\\', '"', '\\', '\\', '"'] awkwardName := by
  have haccented : isAscii accented = false := by decide
  have hname : isAscii awkwardName = true := by decide
  exact ⟨⟨haccented, hname⟩, (lossless accented).1 haccented, (lossless awkwardName).2 hname⟩

end HeaderText
end Autoresponder
