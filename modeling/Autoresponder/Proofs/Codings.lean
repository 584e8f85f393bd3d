import Autoresponder.Message.Charset
import Autoresponder.Proofs.HeaderLines
import Autoresponder.Text.Base64
/-!
# Codings that lose nothing

Text beyond ASCII goes through two codings before it stands in a header: characters become bytes,
and bytes become digits of Base64. Both readers take back what was written, whatever stands behind
it.

1. `Utf8.scan` finds a character where its form starts (`Utf8.scan_encodeChar`). The four widths are
   four lemmas; the second byte is the only one whose bounds hang on the first.
2. So the strict and the forgiving reader both give the text (`Utf8.decode?_encode`,
   `Utf8.decodeLossy_encode`).
3. A group of Base64 is read as the one, two or three bytes that it was made of, and
   `Base64.decode?` gives the bytes (`Base64.decode?_encode`).
4. Readers of the two common character sets keep to the laws of `Charsets`
   (`Charsets.lawful_common`).
-/

namespace Autoresponder

/-! ## 1. The forms of UTF-8 -/

namespace Utf8

theorem toNat_byte {n : Nat} (h : n < 0x100) : (byte n).toNat = n := UInt8.toNat_ofNat_of_lt' h

theorem toNat_byte_tail (n : Nat) : (byte (0x80 + n % 0x40)).toNat = 0x80 + n % 0x40 :=
  toNat_byte (by omega)

theorem isContinuation_tail (n : Nat) : isContinuation (byte (0x80 + n % 0x40)) = true := by
  rw [isContinuation, within, toNat_byte_tail, Bool.and_eq_true, decide_eq_true_eq,
    decide_eq_true_eq]
  omega

variable {n : Nat}

theorem scanOne_one (h : n < 0x80) (rest : Bytes) :
    scanOne (byte n) rest = (some (Char.ofNat n), rest) := by
  have hbyte : (byte n).toNat = n := toNat_byte (Nat.lt_trans h (by decide))
  have hlead : Lead.of (byte n) = .single := if_pos (hbyte.symm ▸ h)
  simp only [scanOne, hlead, hbyte]

theorem scanOne_two (hlow : 0x80 ≤ n) (hhigh : n < 0x800) (rest : Bytes) :
    scanOne (byte (0xC0 + n / 0x40)) (byte (0x80 + n % 0x40) :: rest) =
      (some (Char.ofNat n), rest) := by
  have hfirst : (byte (0xC0 + n / 0x40)).toNat = 0xC0 + n / 0x40 := toNat_byte (by omega)
  have hlead : Lead.of (byte (0xC0 + n / 0x40)) = .two := by
    simp only [Lead.of, hfirst]
    rw [if_neg (by omega), if_neg (by omega), if_pos (by omega)]
  have hcode : (0xC0 + n / 0x40 - 0xC0) * 0x40 + (0x80 + n % 0x40) % 0x40 = n := by omega
  simp only [scanOne, hlead, isContinuation_tail, if_true, assemble, List.foldl_cons,
    List.foldl_nil, hfirst, toNat_byte_tail, hcode]

/-- A form that is longer than needed, or one of a surrogate, would have another second byte. -/
theorem lead_three (hlow : 0x800 ≤ n) (hhigh : n < 0x10000) (hvalid : n < 0xD800 ∨ 0xDFFF < n) :
    ∃ low high, Lead.of (byte (0xE0 + n / 0x1000)) = .three low high ∧
      within low high (byte (0x80 + n / 0x40 % 0x40)) = true := by
  have hfirst : (byte (0xE0 + n / 0x1000)).toNat = 0xE0 + n / 0x1000 := toNat_byte (by omega)
  have hbelow : 0xE0 + n / 0x1000 < 0xF0 := by omega
  simp only [Lead.of, within, hfirst, toNat_byte_tail, beq_iff_eq, Bool.and_eq_true,
    decide_eq_true_eq]
  rw [if_neg (by omega), if_neg (by omega), if_neg (by omega), if_pos hbelow]
  split_ifs with hleast hsurrogates
  · exact ⟨_, _, rfl, by omega⟩
  · exact ⟨_, _, rfl, by omega⟩
  · exact ⟨_, _, rfl, by omega⟩

theorem scanOne_three (hlow : 0x800 ≤ n) (hhigh : n < 0x10000) (hvalid : n < 0xD800 ∨ 0xDFFF < n)
    (rest : Bytes) :
    scanOne (byte (0xE0 + n / 0x1000))
      (byte (0x80 + n / 0x40 % 0x40) :: byte (0x80 + n % 0x40) :: rest) =
      (some (Char.ofNat n), rest) := by
  obtain ⟨low, high, hlead, hsecond⟩ := lead_three hlow hhigh hvalid
  have hfirst : (byte (0xE0 + n / 0x1000)).toNat = 0xE0 + n / 0x1000 := toNat_byte (by omega)
  have hcode : ((0xE0 + n / 0x1000 - 0xE0) * 0x40 + (0x80 + n / 0x40 % 0x40) % 0x40) * 0x40 +
      (0x80 + n % 0x40) % 0x40 = n := by omega
  simp only [scanOne, hlead, hsecond, isContinuation_tail, if_true, assemble, List.foldl_cons,
    List.foldl_nil, hfirst, toNat_byte_tail, hcode]

/-- Nor does a second byte lead below the forms of four bytes, or above the last code point. -/
theorem lead_four (hlow : 0x10000 ≤ n) (hhigh : n < 0x110000) :
    ∃ low high, Lead.of (byte (0xF0 + n / 0x40000)) = .four low high ∧
      within low high (byte (0x80 + n / 0x1000 % 0x40)) = true := by
  have hfirst : (byte (0xF0 + n / 0x40000)).toNat = 0xF0 + n / 0x40000 := toNat_byte (by omega)
  simp only [Lead.of, within, hfirst, toNat_byte_tail, beq_iff_eq, Bool.and_eq_true,
    decide_eq_true_eq]
  rw [if_neg (by omega), if_neg (by omega), if_neg (by omega), if_neg (by omega), if_neg (by omega),
    if_neg (by omega)]
  split_ifs with hleast hmiddle hgreatest
  · exact ⟨_, _, rfl, by omega⟩
  · exact ⟨_, _, rfl, by omega⟩
  · exact ⟨_, _, rfl, by omega⟩
  · omega

theorem scanOne_four (hlow : 0x10000 ≤ n) (hhigh : n < 0x110000) (rest : Bytes) :
    scanOne (byte (0xF0 + n / 0x40000))
        (byte (0x80 + n / 0x1000 % 0x40) :: byte (0x80 + n / 0x40 % 0x40) ::
          byte (0x80 + n % 0x40) :: rest) =
      (some (Char.ofNat n), rest) := by
  obtain ⟨low, high, hlead, hsecond⟩ := lead_four hlow hhigh
  have hfirst : (byte (0xF0 + n / 0x40000)).toNat = 0xF0 + n / 0x40000 := toNat_byte (by omega)
  have hcode : (((0xF0 + n / 0x40000 - 0xF0) * 0x40 + (0x80 + n / 0x1000 % 0x40) % 0x40) * 0x40 +
      (0x80 + n / 0x40 % 0x40) % 0x40) * 0x40 + (0x80 + n % 0x40) % 0x40 = n := by omega
  simp only [scanOne, hlead, hsecond, isContinuation_tail, if_true, assemble, List.foldl_cons,
    List.foldl_nil, hfirst, toNat_byte_tail, hcode]

theorem scan_encodeChar (c : Char) (rest : Bytes) :
    scan (encodeChar c ++ rest) = some c :: scan rest := by
  have hvalid : c.toNat < 0xD800 ∨ 0xDFFF < c.toNat ∧ c.toNat < 0x110000 := c.valid
  have hform : ∀ b bytes, scanOne b (bytes ++ rest) = (some (Char.ofNat c.toNat), rest) →
      scan (b :: bytes ++ rest) = some c :: scan rest := by
    intro b bytes hone
    rw [List.cons_append, scan, hone, Char.ofNat_toNat]
  simp only [encodeChar]
  split_ifs with hone htwo hthree
  · exact hform _ [] (scanOne_one hone rest)
  · exact hform _ [_] (scanOne_two (by omega) htwo rest)
  · exact hform _ [_, _] (scanOne_three (by omega) hthree (by omega) rest)
  · exact hform _ [_, _, _] (scanOne_four (by omega) (by omega) rest)

/-! ## 2. Texts -/

theorem scan_encode (s : Text) : scan (encode s) = s.map some := by
  induction s with
  | nil =>
    rw [encode, List.flatMap_nil, scan]
    rfl
  | cons c s ih => rw [encode, List.flatMap_cons, scan_encodeChar, ← encode, ih, List.map_cons]

theorem allSome_map_some {α : Type} (l : List α) : allSome (l.map some) = some l := by
  induction l with
  | nil => rfl
  | cons a l ih => rw [List.map_cons, allSome, ih, Option.map_some]

/-- No character takes more than four bytes. -/
theorem length_encodeChar_le (c : Char) : (encodeChar c).length ≤ 4 := by
  simp only [encodeChar]
  split_ifs <;> simp

theorem width_cons (c : Char) (s : Text) : width (c :: s) = (encodeChar c).length + width s := by
  rw [width, encode, List.flatMap_cons, List.length_append]
  rfl

theorem width_of_isAscii {s : Text} (h : Text.isAscii s = true) : width s = s.length := by
  induction s with
  | nil => rfl
  | cons c s ih =>
    rw [Text.isAscii, List.all_cons, Bool.and_eq_true, decide_eq_true_eq] at h
    rw [width_cons, encodeChar_of_ascii h.1, ih h.2]
    exact Nat.add_comm 1 _

theorem decode?_encode (s : Text) : decode? (encode s) = some s := by
  rw [decode?, scan_encode, allSome_map_some]

theorem decodeLossy_encode (s : Text) : decodeLossy (encode s) = s := by
  rw [decodeLossy, scan_encode, List.map_map]
  exact List.map_id s

end Utf8

/-! ## 3. Base64 -/

namespace Base64

theorem value?_digit : ∀ n < 64, value? (digit n) = some n := by decide

theorem value?_fill : value? '=' = none := rfl

/-- What holds of every digit and of the character that fills up holds of every character that is
written. -/
theorem forall_mem_encode {P : Char → Prop} (hdigit : ∀ n < 64, P (digit n)) (hfill : P '=')
    (bytes : Bytes) :
    ∀ c ∈ encode bytes, P c := by
  fun_induction encode bytes with
  | case1 => exact nofun
  | case2 a n =>
    have ha := a.toNat_lt
    simp only [List.forall_mem_cons]
    exact ⟨hdigit _ (by omega), hdigit _ (by omega), hfill, hfill, nofun⟩
  | case3 a b n =>
    have ha := a.toNat_lt
    have hb := b.toNat_lt
    simp only [List.forall_mem_cons]
    exact ⟨hdigit _ (by omega), hdigit _ (by omega), hdigit _ (by omega), hfill, nofun⟩
  | case4 a b c rest n ih =>
    have ha := a.toNat_lt
    have hb := b.toNat_lt
    have hc := c.toNat_lt
    simp only [List.forall_mem_cons]
    exact ⟨hdigit _ (by omega), hdigit _ (by omega), hdigit _ (by omega), hdigit _ (by omega), ih⟩

theorem length_encode (bytes : Bytes) : (encode bytes).length = 4 * ((bytes.length + 2) / 3) := by
  fun_induction encode bytes with
  | case1 => rfl
  | case2 => simp
  | case3 => simp
  | case4 a b c rest n ih =>
    simp only [List.length_cons, ih]
    omega

theorem ofNat_eq {n : Nat} {b : UInt8} (h : n % 256 = b.toNat) : UInt8.ofNat n = b := by
  rw [← UInt8.toNat_inj, UInt8.toNat_ofNat']
  exact h

theorem group?_one (a : UInt8) :
    group? (digit (a.toNat / 4)) (digit (a.toNat % 4 * 16)) '=' '=' = some [a] := by
  have ha := a.toNat_lt
  have hspare : (a.toNat / 4 * 64 + a.toNat % 4 * 16) % 16 = 0 := by omega
  have hbyte : UInt8.ofNat ((a.toNat / 4 * 64 + a.toNat % 4 * 16) / 16) = a := ofNat_eq (by omega)
  simp only [group?, value?_digit (a.toNat / 4) (by omega),
    value?_digit (a.toNat % 4 * 16) (by omega), value?_fill, hspare, hbyte, beq_self_eq_true,
    Bool.and_self, if_true]

theorem group?_two (a b : UInt8) :
    let n := a.toNat * 256 + b.toNat
    group? (digit (n / 1024)) (digit (n / 16 % 64)) (digit (n % 16 * 4)) '=' = some [a, b] := by
  intro n
  have ha := a.toNat_lt
  have hb := b.toNat_lt
  have hcode : n / 1024 * 4096 + n / 16 % 64 * 64 + n % 16 * 4 = n * 4 := by omega
  have hspare : n * 4 % 4 = 0 := by omega
  have hfirst : UInt8.ofNat (n * 4 / 1024) = a := ofNat_eq (by omega)
  have hsecond : UInt8.ofNat (n * 4 / 4) = b := ofNat_eq (by omega)
  simp only [group?, value?_digit (n / 1024) (by omega), value?_digit (n / 16 % 64) (by omega),
    value?_digit (n % 16 * 4) (by omega), value?_fill, hcode, hspare, hfirst, hsecond,
      beq_self_eq_true,
    Bool.and_self, if_true]

theorem group?_three (a b c : UInt8) :
    let n := a.toNat * 65536 + b.toNat * 256 + c.toNat
    group? (digit (n / 262144)) (digit (n / 4096 % 64)) (digit (n / 64 % 64)) (digit (n % 64)) =
      some [a, b, c] := by
  intro n
  have ha := a.toNat_lt
  have hb := b.toNat_lt
  have hc := c.toNat_lt
  have hcode : n / 262144 * 262144 + n / 4096 % 64 * 4096 + n / 64 % 64 * 64 + n % 64 = n := by
    omega
  have hfirst : UInt8.ofNat (n / 65536) = a := ofNat_eq (by omega)
  have hsecond : UInt8.ofNat (n / 256) = b := ofNat_eq (by omega)
  have hthird : UInt8.ofNat n = c := ofNat_eq (by omega)
  simp only [group?, value?_digit (n / 262144) (by omega), value?_digit (n / 4096 % 64) (by omega),
    value?_digit (n / 64 % 64) (by omega), value?_digit (n % 64) (by omega), hcode, hfirst, hsecond,
      hthird]

theorem groups?_encode (bytes : Bytes) : groups? (encode bytes) = some bytes := by
  fun_induction encode bytes with
  | case1 => rfl
  | case2 a n => simp only [groups?, n, group?_one, List.append_nil]
  | case3 a b n => simp only [groups?, n, group?_two, List.append_nil]
  | case4 a b c rest n ih =>
    simp only [groups?, n, group?_three, ih]
    rfl

theorem decode?_encode (bytes : Bytes) : decode? (encode bytes) = some bytes := by
  have hbreaks : ∀ c ∈ encode bytes, (c != '\r' && c != '\n') = true :=
    forall_mem_encode (by decide) (by decide) bytes
  rw [decode?, List.filter_eq_self.mpr hbreaks, groups?_encode]

end Base64

/-! ## 4. Character sets -/

theorem Utf8.length_scan_le (bytes : Bytes) : (scan bytes).length ≤ bytes.length := by
  fun_induction scan bytes with
  | case1 => exact Nat.le_refl _
  | case2 b rest ih =>
    have hrest := scanOne_length_le b rest
    rw [List.length_cons, List.length_cons]
    omega

theorem Charset.length_decode_le (charset : Charset) (bytes : Bytes) :
    (charset.decode bytes).length ≤ bytes.length := by
  cases charset with
  | utf8 =>
    rw [decode, Utf8.decodeLossy, List.length_map]
    exact Utf8.length_scan_le bytes
  | windows1252 => rw [decode, List.length_map]

theorem Charsets.lawful_common : Charsets.common.Lawful where
  utf8 s := by
    have hlabel : Charset.ofLabel? ['U', 'T', 'F', '-', '8'] = some .utf8 := by decide
    show (Charset.ofLabel? ['U', 'T', 'F', '-', '8']).map (·.decode (Utf8.encode s)) = some s
    rw [hlabel, Option.map_some, Charset.decode, Utf8.decodeLossy_encode]
  length_le h := by
    obtain ⟨charset, -, rfl⟩ := Option.map_eq_some_iff.mp h
    exact charset.length_decode_le _

end Autoresponder
