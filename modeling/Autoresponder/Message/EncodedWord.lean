import Autoresponder.Text.Base64
import Autoresponder.Message.Charset
import Autoresponder.Message.Field
/-!
# Values with encoded words

A header value is ASCII on the wire. Other text stands in it as encoded words (RFC 2047), such as
`=?utf-8?q?caf=C3=A9?=`, and a long value is folded over several lines.

1. `EncodedWord.decode?` reads the inside of one word.
2. `Value.tokensOfLine` cuts a line into text, blanks and decoded words. A word counts only between
   boundaries; whatever looks like a word and is none stays as it is.
3. `Value.join` puts the tokens together again: blanks between two decoded words vanish, also across
   lines, and every other line break becomes a space.
4. `Field.valueText` is the text of a field's value.

Which character sets words may be written in is left to the reader (`Charsets`).
-/

namespace Autoresponder

/-! ## 1. One word -/

namespace EncodedWord

/-- The characters that the quoted coding looks at; others do not count. -/
def isQuotable (c : Char) : Bool :=
  c == '\t' || c == '\r' || c == '\n' || (' ' ≤ c && c ≤ '~')

/-- The bytes of a text in the quoted coding. `=` and two hexadecimal digits are one byte. A `=`
without two digits stands for itself, and one at the very end for nothing. -/
def unquote : Text → Bytes
  | [] => []
  | ['='] => []
  | ['=', h] => [Utf8.byte '='.toNat, Utf8.byte h.toNat]
  | '=' :: h :: l :: rest =>
    match Text.hexValue? h, Text.hexValue? l with
    | some a, some b => Utf8.byte (16 * a + b) :: unquote rest
    | _, _ => Utf8.byte '='.toNat :: Utf8.byte h.toNat :: Utf8.byte l.toNat :: unquote rest
  | c :: rest => Utf8.byte c.toNat :: unquote rest

/-- The bytes of the `Q` coding: an underscore is a space, and blanks at the end are kept as they
are. -/
def decodeQ (input : Text) : Bytes :=
  let spaced := input.map fun c => if c == '_' then ' ' else c
  let core := Text.trimEnd spaced
  unquote (Text.trimEnd (core.filter isQuotable)) ++ Utf8.encode (spaced.drop core.length)

/-- The bytes of a word in one of the two codings. -/
def decodeBytes? (coding input : Text) : Option Bytes :=
  match coding with
  | ['B'] | ['b'] => Base64.decode? input
  | ['Q'] | ['q'] => some (decodeQ input)
  | _ => none

/-- The text of the inside of a word, `charset?coding?input`. -/
def decode? [Charsets] (inside : Text) : Option Text :=
  match Text.breakOn? ['?'] inside with
  | none => none
  | some (label, rest) =>
    match Text.breakOn? ['?'] rest with
    | none => none
    | some (coding, input) =>
      match decodeBytes? coding input with
      | none => none
      | some bytes => Charsets.decode? label bytes

end EncodedWord

namespace Value

/-! ## 2. Tokens -/

inductive Token where
  | text (t : Text)
  /-- Nothing but blanks, perhaps nothing at all. -/
  | blank (t : Text)
  | decoded (t : Text)
  | newline
  deriving DecidableEq, Repr

/-- A piece between words. -/
def Token.ofPiece (t : Text) : Token := if (Text.trimEnd t).isEmpty then .blank t else .text t

def isBoundary (c : Char) : Bool :=
  Text.isBlank c || c == '"' || c == '(' || c == ')' || c == '<' || c == '>' || c == ','

/-- A word may begin or end at this place of the line. The place is a number of bytes, and the
character looked at is the one with that number: on a line of ASCII, the neighbour of the word.
There is a boundary where the line has no such character. -/
def boundaryAt (l : Text) (place : Nat) : Bool := l[place]?.all isBoundary

/-- A word may begin `place` bytes into the line. -/
def opensAt (line : Text) (place : Nat) : Bool := place == 0 || boundaryAt line (place - 1)

def wordStart : Text := ['=', '?']
def wordEnd : Text := ['?', '=']

theorem breakOn?_length {pat s before after : Text}
    (h : Text.breakOn? pat s = some (before, after)) :
    before.length + pat.length + after.length = s.length := by
  have hprefix : ∀ (p t r : Text), Text.dropPrefix? p t = some r →
      p.length + r.length = t.length := by
    intro p t r hr
    fun_induction Text.dropPrefix? p t with
    | case1 t => simp_all
    | case2 => simp at hr
    | case3 p ps c cs _ ih =>
      have := ih hr
      simp only [List.length_cons]
      omega
    | case4 => simp at hr
  induction s generalizing before after with
  | nil =>
    unfold Text.breakOn? at h
    split at h
    · next hp => simp_all
    · simp at h
  | cons c cs ih =>
    unfold Text.breakOn? at h
    split at h
    · next rest hr =>
      have := hprefix _ _ _ hr
      simp only [Option.some.injEq, Prod.mk.injEq] at h
      obtain ⟨rfl, rfl⟩ := h
      simp only [List.length_nil, List.length_cons] at this ⊢
      omega
    · obtain ⟨⟨b, a⟩, hba, heq⟩ := Option.map_eq_some_iff.1 h
      simp only [Prod.mk.injEq] at heq
      obtain ⟨rfl, rfl⟩ := heq
      have := ih hba
      simp only [List.length_cons]
      omega

/-- The inside of a word whose start lies just before `rest`, `place` bytes into the line, and the
line behind the word. The word ends at the first `?=` with a boundary behind it. -/
def closeWord? (line : Text) (place : Nat) (rest : Text) : Option (Text × Text) :=
  match h : Text.breakOn? wordEnd rest with
  | none => none
  | some (before, after) =>
    let behind := place + Utf8.width before + 2
    if boundaryAt line behind then some (before, after)
    else (closeWord? line behind after).map fun (inside, tail) =>
      (before ++ wordEnd ++ inside, tail)
termination_by rest.length
decreasing_by
  have := breakOn?_length h
  simp only [wordEnd, List.length_cons, List.length_nil] at this
  omega

theorem closeWord?_length {line : Text} {place : Nat} {rest inside tail : Text}
    (h : closeWord? line place rest = some (inside, tail)) : tail.length ≤ rest.length := by
  fun_induction closeWord? line place rest generalizing inside tail with
  | case1 => simp at h
  | case2 place rest before after hb behind =>
    have := breakOn?_length hb
    simp only [Option.some.injEq, Prod.mk.injEq] at h
    obtain ⟨_, rfl⟩ := h
    omega
  | case3 place rest before after hb behind _ =>
    rename_i ih
    have := breakOn?_length hb
    obtain ⟨⟨i, t⟩, hit, heq⟩ := Option.map_eq_some_iff.1 h
    simp only [Prod.mk.injEq] at heq
    obtain ⟨_, rfl⟩ := heq
    have := ih hit
    omega

/-- The tokens of the part `rest` of a line; `place` bytes of the line stand before it. -/
def tokensFrom [Charsets] (line : Text) (place : Nat) (rest : Text) : List Token :=
  match h : Text.breakOn? wordStart rest with
  | none => [Token.ofPiece rest]
  | some (before, after) =>
    let start := place + Utf8.width before
    if opensAt line start then
      match hc : closeWord? line (start + 2) after with
      | none => Token.ofPiece before :: .text wordStart :: tokensFrom line (start + 2) after
      | some (inside, tail) =>
        let word := match EncodedWord.decode? inside with
          | some t => Token.decoded t
          | none => .text (wordStart ++ inside ++ wordEnd)
        Token.ofPiece before :: word ::
          tokensFrom line (start + 2 + Utf8.width inside + 2) tail
    else .text (before ++ wordStart) :: tokensFrom line (start + 2) after
termination_by rest.length
decreasing_by
  all_goals
    have hlen := breakOn?_length h
    simp only [wordStart, List.length_cons, List.length_nil] at hlen
  · omega
  · have := closeWord?_length hc
    omega
  · omega

def tokensOfLine [Charsets] (line : Text) : List Token := tokensFrom line 0 line

theorem tokensOfLine_of_noStart [Charsets] {line : Text} (h : Text.breakOn? wordStart line = none) :
    tokensOfLine line = [Token.ofPiece line] := by
  rw [tokensOfLine, tokensFrom.eq_def]
  split
  · rfl
  · next hsome =>
    rw [h] at hsome
    cases hsome

/-- The tokens of a value: those of its lines, without the blanks that the lines start with. -/
def tokens [Charsets] (value : Text) : List Token :=
  ((Text.lines value).map fun line => tokensOfLine (Text.trimStart line)).intersperse [.newline]
    |>.flatten

/-! ## 3. Joining -/

/-- What may still have to be written: blanks behind a decoded word are held back, because they
vanish if another word follows. -/
inductive Pending where
  | nothing
  /-- A decoded word has just been written. -/
  | word
  /-- A decoded word and then blanks. -/
  | blanks (t : Text)
  /-- A decoded word, perhaps blanks, and the end of the line. -/
  | lineEnd (t : Text)
  deriving DecidableEq, Repr

/-- The held back blanks, where they count after all. -/
def Pending.kept : Pending → Text
  | .blanks t => t
  | .lineEnd t => t
  | _ => []

def join : Pending → List Token → Text
  | _, [] => []
  | p, .text t :: rest => p.kept ++ t ++ join .nothing rest
  | .word, .blank t :: rest => join (.blanks t) rest
  | _, .blank t :: rest => t ++ join .nothing rest
  | .blanks t, .newline :: rest => join (.lineEnd (t ++ [' '])) rest
  | .word, .newline :: rest => join (.lineEnd [' ']) rest
  | _, .newline :: rest => ' ' :: join .nothing rest
  | _, .decoded t :: rest => t ++ join .word rest

/-! ## 4. Values -/

/-- The characters of a raw value: UTF-8 if it is well-formed, otherwise a character for each
byte. -/
def characters (raw : Bytes) : Text := (Utf8.decode? raw).getD (Utf8.decodeLatin1 raw)

/-- The text of a raw value. -/
def text [Charsets] (raw : Bytes) : Text := join .nothing (tokens (characters raw))

end Value

/-- The value of a field with its encoded words decoded and its lines joined. -/
def Field.valueText [Charsets] (f : Field) : Text := Value.text f.value

end Autoresponder
