import Autoresponder.Message.Field
import Autoresponder.Text.Utf8
import Mathlib.Data.List.Basic
import Mathlib.Data.List.TakeWhile
/-!
# Header fields on one line

A header block that is written with one line for each field is read back as it was, provided that no
name and no value can be taken for something else: for the end of a line, for the continuation of
the line before, or for the space that stands behind the colon.

1. `Field.line` writes a field, and `Field.OneLine` says when that is safe. `Field.read` then reads
   the field and nothing of the next line (`Field.read_line`).
2. So a block of such lines, an empty line and a body are read back (`HeaderBlock.parse_lines`).
3. Text on the wire is UTF-8: every byte of it below 0x80 is a character of the text, so a text
   without some character of ASCII is without its byte (`Utf8.ne_of_mem_encode`).
-/

namespace Autoresponder

/-! ## 1. One field -/

namespace Field

/-- The field on a line of its own. -/
def line (f : Field) : Bytes := f.name ++ colon :: space :: (f.value ++ [lineFeed])

/-- The field can stand on one line: neither part ends it, the name has no byte that ends a name or
continues a line, and the value does not start with a space, which would be lost. -/
structure OneLine (f : Field) : Prop where
  name : ∀ b ∈ f.name, b ≠ colon ∧ isBreak b = false ∧ continues b = false
  value : ∀ b ∈ f.value, isBreak b = false
  start : f.value.head? ≠ some space

/-- The next line does not continue the one before. -/
def StartsLine (block : Bytes) : Prop := ∀ b, block.head? = some b → continues b = false

theorem splitValue_append {value rest : Bytes} (hvalue : ∀ b ∈ value, isBreak b = false)
    (hrest : StartsLine rest) : splitValue (value ++ lineFeed :: rest) = (value, rest) := by
  induction value with
  | nil =>
    have hends : rest.head?.any continues = false := by
      cases hhead : rest.head? with
      | none => rfl
      | some b => exact hrest b hhead
    rw [List.nil_append, splitValue, hends]
    rfl
  | cons b value ih =>
    have hb : (b == lineFeed) = false := by
      have := hvalue b List.mem_cons_self
      rw [isBreak, Bool.or_eq_false_iff] at this
      exact this.1
    have ih := ih fun c hc => hvalue c (List.mem_cons_of_mem b hc)
    rw [List.cons_append, splitValue, hb, Bool.false_and, if_neg Bool.false_ne_true, ih]

variable {f : Field} {rest : Bytes}

theorem OneLine.inName (h : f.OneLine) : ∀ b ∈ f.name, inName b = true := by
  intro b hb
  obtain ⟨hcolon, hbreak, -⟩ := h.name b hb
  rw [isBreak, Bool.or_eq_false_iff] at hbreak
  simp [Field.inName, hcolon, bne, hbreak.1]

theorem OneLine.dropEnd (h : f.OneLine) : Text.dropEndWhile isBreak f.value = f.value := by
  have hlast : f.value.reverse.dropWhile isBreak = f.value.reverse := by
    rw [List.dropWhile_eq_self_iff]
    intro hl
    rw [h.value _ (List.mem_reverse.mp (List.getElem_mem hl))]
    exact Bool.false_ne_true
  rw [Text.dropEndWhile, hlast, List.reverse_reverse]

theorem OneLine.dropSpaces (h : f.OneLine) :
    (space :: (f.value ++ lineFeed :: rest)).dropWhile (· == space) =
      f.value ++ lineFeed :: rest := by
  show (f.value ++ lineFeed :: rest).dropWhile (· == space) = f.value ++ lineFeed :: rest
  cases hvalue : f.value with
  | nil => rfl
  | cons b value =>
    have hb : b ≠ space := fun hb => h.start (by rw [hvalue, hb]; rfl)
    exact List.dropWhile_cons_of_neg (by simpa using hb)

theorem read_line (h : f.OneLine) (hrest : StartsLine rest) :
    read (f.line ++ rest) = (f, rest) := by
  have hline : f.line ++ rest = f.name ++ colon :: space :: (f.value ++ lineFeed :: rest) := by
    simp [line]
  have hcolon : inName colon = false := rfl
  have htake : (f.line ++ rest).takeWhile inName = f.name := by
    rw [hline, List.takeWhile_append_of_pos h.inName,
      List.takeWhile_cons_of_neg (by rw [hcolon]; simp), List.append_nil]
  have hdrop : (f.line ++ rest).dropWhile inName =
      colon :: space :: (f.value ++ lineFeed :: rest) := by
    rw [hline, List.dropWhile_append_of_pos h.inName,
      List.dropWhile_cons_of_neg (by rw [hcolon]; simp)]
  unfold read
  rw [htake, hdrop]
  simp only [beq_self_eq_true, if_true, h.dropSpaces, splitValue_append h.value hrest, h.dropEnd]

/-- The first byte of the line belongs to the name, or is the colon. -/
theorem OneLine.first (h : f.OneLine) :
    ∃ b tail, f.line = b :: tail ∧ isBreak b = false ∧ continues b = false := by
  cases hname : f.name with
  | nil => exact ⟨colon, space :: (f.value ++ [lineFeed]), by rw [line, hname]; rfl, rfl, rfl⟩
  | cons b name =>
    obtain ⟨-, hbreak, hcontinues⟩ := h.name b (hname ▸ List.mem_cons_self)
    exact ⟨b, name ++ colon :: space :: (f.value ++ [lineFeed]), by rw [line, hname]; rfl, hbreak,
      hcontinues⟩

end Field

/-! ## 2. Whole blocks -/

namespace HeaderBlock

open Autoresponder.Field

variable {f : Field} {fields : List Field} {rest body : Bytes}

theorem parse_line (h : f.OneLine) (hrest : StartsLine rest) :
    parse (f.line ++ rest) = (parse rest).map fun block => ⟨f :: block.fields, block.body⟩ := by
  have hread := read_line h hrest
  obtain ⟨b, tail, hline, hbreak, hcontinues⟩ := h.first
  rw [isBreak, Bool.or_eq_false_iff] at hbreak
  rw [continues, Bool.or_eq_false_iff] at hcontinues
  rw [hline, List.cons_append] at hread ⊢
  rw [parse.eq_def (b :: (tail ++ rest))]
  simp only [hbreak.1, hbreak.2, hcontinues.1, hread, Bool.false_eq_true, if_false]
  cases parse rest <;> rfl

/-- A block of lines starts with a name, or with the empty line. -/
theorem startsLine_lines (h : ∀ f ∈ fields, f.OneLine) :
    StartsLine (fields.flatMap Field.line ++ lineFeed :: body) := by
  intro b hb
  cases fields with
  | nil =>
    cases hb
    rfl
  | cons f fields =>
    obtain ⟨first, tail, hline, -, hcontinues⟩ := (h f List.mem_cons_self).first
    rw [List.flatMap_cons, hline] at hb
    cases hb
    exact hcontinues

theorem parse_lines (h : ∀ f ∈ fields, f.OneLine) (body : Bytes) :
    parse (fields.flatMap Field.line ++ lineFeed :: body) = .ok ⟨fields, body⟩ := by
  induction fields with
  | nil =>
    rw [List.flatMap_nil, List.nil_append, parse.eq_def]
    rfl
  | cons f fields ih =>
    have htail : ∀ g ∈ fields, g.OneLine := fun g hg => h g (List.mem_cons_of_mem f hg)
    rw [List.flatMap_cons, List.append_assoc,
      parse_line (h f List.mem_cons_self) (startsLine_lines htail), ih htail]
    rfl

end HeaderBlock

/-! ## 3. Bytes of text -/

namespace Utf8

theorem encode_append (s t : Text) : encode (s ++ t) = encode s ++ encode t := List.flatMap_append

theorem high_byte {n : Nat} (hlow : 0x80 ≤ n) (hhigh : n < 0x100) : 0x80 ≤ (byte n).toNat := by
  rw [byte, UInt8.toNat_ofNat_of_lt' hhigh]
  exact hlow

theorem encodeChar_of_ascii {c : Char} (h : c.toNat < 0x80) : encodeChar c = [byte c.toNat] :=
  if_pos h

/-- A character beyond ASCII has no byte of ASCII. -/
theorem high_of_mem_encodeChar {c : Char} {b : UInt8} (hc : ¬c.toNat < 0x80)
    (hb : b ∈ encodeChar c) :
    0x80 ≤ b.toNat := by
  have hbound : c.toNat < 0x110000 := by
    rcases c.valid with hlow | ⟨-, hhigh⟩
    · exact Nat.lt_trans hlow (by decide)
    · exact hhigh
  simp only [encodeChar, if_neg hc] at hb
  split_ifs at hb
  · simp only [List.mem_cons, List.not_mem_nil, or_false] at hb
    rcases hb with rfl | rfl <;> exact high_byte (by omega) (by omega)
  · simp only [List.mem_cons, List.not_mem_nil, or_false] at hb
    rcases hb with rfl | rfl | rfl <;> exact high_byte (by omega) (by omega)
  · simp only [List.mem_cons, List.not_mem_nil, or_false] at hb
    rcases hb with rfl | rfl | rfl | rfl <;> exact high_byte (by omega) (by omega)

theorem of_mem_encodeChar {c : Char} {b : UInt8} (hb : b ∈ encodeChar c) (hlow : b.toNat < 0x80) :
    c.toNat = b.toNat := by
  by_cases hc : c.toNat < 0x80
  · rw [encodeChar_of_ascii hc, List.mem_singleton] at hb
    rw [hb, byte, UInt8.toNat_ofNat_of_lt' (Nat.lt_trans hc (by decide))]
  · exact absurd (high_of_mem_encodeChar hc hb) (Nat.not_le.mpr hlow)

theorem encodeChar_ne_nil (c : Char) : encodeChar c ≠ [] := by
  simp only [encodeChar]
  split_ifs <;> exact List.cons_ne_nil _ _

/-- Every character takes a byte at least. -/
theorem length_le_width (s : Text) : s.length ≤ width s := by
  induction s with
  | nil => exact Nat.zero_le _
  | cons c s ih =>
    have hc : 0 < (encodeChar c).length := List.length_pos_iff.mpr (encodeChar_ne_nil c)
    rw [width] at ih ⊢
    rw [encode, List.flatMap_cons, List.length_append, List.length_cons]
    exact Nat.add_comm 1 _ ▸ Nat.add_le_add hc ih

theorem of_mem_encode {s : Text} {b : UInt8} (hb : b ∈ encode s) (hlow : b.toNat < 0x80) :
    ∃ c ∈ s, c.toNat = b.toNat := by
  obtain ⟨c, hc, hbc⟩ := List.mem_flatMap.mp hb
  exact ⟨c, hc, of_mem_encodeChar hbc hlow⟩

/-- A text without a character of ASCII is without its byte. -/
theorem ne_of_mem_encode {s : Text} {c : Char} {b : UInt8} (hlow : c.toNat < 0x80) (hc : c ∉ s)
    (hb : b ∈ encode s) : b ≠ byte c.toNat := by
  rintro rfl
  have hbyte : (byte c.toNat).toNat = c.toNat :=
    UInt8.toNat_ofNat_of_lt' (Nat.lt_trans hlow (by decide))
  obtain ⟨d, hd, hdc⟩ := of_mem_encode hb (hbyte.symm ▸ hlow)
  rw [hbyte] at hdc
  exact hc (Char.toNat_inj.mp hdc ▸ hd)

/-- A low first byte is the first character. -/
theorem head?_encode_ne {s : Text} {c : Char} (hlow : c.toNat < 0x80) (hc : s.head? ≠ some c) :
    (encode s).head? ≠ some (byte c.toNat) := by
  cases s with
  | nil => exact nofun
  | cons d s =>
    have hd : c ∉ [d] := by
      intro hmem
      rw [List.mem_singleton.mp hmem] at hc
      exact hc rfl
    have hfirst : encode (d :: s) = encode [d] ++ encode s := encode_append [d] s
    rw [hfirst]
    intro hhead
    have hne : encode [d] ≠ [] := by simp [encode, encodeChar_ne_nil]
    rw [List.head?_append_of_ne_nil _ hne] at hhead
    exact ne_of_mem_encode hlow hd (List.mem_of_head? hhead) rfl

end Utf8
end Autoresponder
