import Autoresponder.Text
/-!
# The header block of a message

A message starts with header fields and continues, behind an empty line, with its body. A field is a
name, a colon and a value. The value goes on over the following lines as long as they start with a
space or a tab.

* `Field.read` takes one field off the front of a block.
* `HeaderBlock.parse` takes all fields and leaves the body. It refuses two things: a line that
  starts with a space where a field should start, and a carriage return there without a line feed.

A block may also end with the message, and a line without a colon is a field without a value.
-/

namespace Autoresponder

/-- A header field as it stands in the message. The value keeps its line breaks, except those at its
end. -/
structure Field where
  name : Bytes
  value : Bytes
  deriving DecidableEq, Repr

/-- Why a header block cannot be read. -/
inductive HeaderError where
  /-- A line starts with a carriage return that no line feed follows. -/
  | strayReturn
  /-- A line that should start a field starts with a space. -/
  | leadingSpace
  deriving DecidableEq, Repr

def HeaderError.message : HeaderError → Text
  | .strayReturn => "Headers were followed by an unexpected lone CR character!".toList
  | .leadingSpace =>
    ("Header cannot start with a space; " ++
      "it is likely an overhanging line from a previous header").toList

namespace Field

def lineFeed : UInt8 := 10
def carriageReturn : UInt8 := 13
def space : UInt8 := 32
def tab : UInt8 := 9
def colon : UInt8 := 58

/-- A byte of a line break. -/
def isBreak (b : UInt8) : Bool := b == lineFeed || b == carriageReturn

/-- A byte that continues a value when it starts a line. -/
def continues (b : UInt8) : Bool := b == space || b == tab

/-- A byte that may stand in a name. -/
def inName (b : UInt8) : Bool := b != colon && b != lineFeed

/-! ## 1. One field -/

/-- The bytes up to the line feed that ends a value, and the bytes behind it. -/
def splitValue : Bytes → Bytes × Bytes
  | [] => ([], [])
  | b :: rest =>
    if b == lineFeed && !(rest.head?.any continues) then ([], rest)
    else
      let (value, after) := splitValue rest
      (b :: value, after)

/-- A field at the front of the block, and the block behind it. -/
def read (block : Bytes) : Field × Bytes :=
  let name := block.takeWhile inName
  match block.dropWhile inName with
  | [] => (⟨name, []⟩, [])
  | b :: rest =>
    if b == colon then
      let (value, after) := splitValue (rest.dropWhile (· == space))
      (⟨name, Text.dropEndWhile isBreak value⟩, after)
    else (⟨name, []⟩, rest)

theorem splitValue_length_le (s : Bytes) : (splitValue s).2.length ≤ s.length := by
  fun_induction splitValue s with
  | case1 => simp
  | case2 => simp
  | case3 b rest _ value after h ih =>
    simp only [h] at ih
    simp only [List.length_cons]
    omega

theorem read_length_lt (b : UInt8) (rest : Bytes) :
    (read (b :: rest)).2.length < (b :: rest).length := by
  have hdrop : ((b :: rest).dropWhile inName).length ≤ (b :: rest).length :=
    (List.dropWhile_sublist inName).length_le
  unfold read
  split
  · simp
  · next c after h =>
    rw [h, List.length_cons] at hdrop
    split
    · have h₁ := splitValue_length_le (after.dropWhile (· == space))
      have h₂ : (after.dropWhile (· == space)).length ≤ after.length :=
        (List.dropWhile_sublist _).length_le
      simp only
      omega
    · simp only
      omega

/-! ## 2. Names -/

/-- The name as text; each byte is the character of that number. -/
def nameText (f : Field) : Text := f.name.map fun b => Char.ofNat b.toNat

/-- The field has this name, in whatever case. -/
def isNamed (name : Text) (f : Field) : Bool := Text.sameFolded f.nameText name

end Field

/-! ## 3. The whole block -/

/-- The fields of a message in their order, and its body. -/
structure HeaderBlock where
  fields : List Field
  body : Bytes
  deriving DecidableEq, Repr

namespace HeaderBlock

/-- Reads fields up to the empty line or the end of the message. -/
def parse (message : Bytes) : Except HeaderError HeaderBlock :=
  match message with
  | [] => .ok ⟨[], []⟩
  | b :: rest =>
    if b == Field.lineFeed then .ok ⟨[], rest⟩
    else if b == Field.carriageReturn then
      match rest with
      | c :: body => if c == Field.lineFeed then .ok ⟨[], body⟩ else .error .strayReturn
      | [] => .error .strayReturn
    else if b == Field.space then .error .leadingSpace
    else
      match parse (Field.read (b :: rest)).2 with
      | .ok block => .ok ⟨(Field.read (b :: rest)).1 :: block.fields, block.body⟩
      | .error e => .error e
termination_by message.length
decreasing_by exact Field.read_length_lt b rest

end HeaderBlock
end Autoresponder
