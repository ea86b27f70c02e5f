import ComplexityLint.Text.Spelling

/-!
What a file holds: a text, or bytes that are the encoding of no text. Contents are equal exactly
when their bytes are.
-/

namespace ComplexityLint

/-- What a file holds. -/
inductive Content
  | text (s : String)
  | binary (b : ByteArray) (invalid : ¬ b.IsValidUTF8)

namespace Content

instance : DecidableEq Content
  | text s, text t => decidable_of_iff (s = t) (by simp)
  | text _, binary .. => isFalse (by simp)
  | binary .., text _ => isFalse (by simp)
  | binary a _, binary b _ => decidable_of_iff (a.data = b.data) (by simp [ByteArray.ext_iff])

/-- The content of no bytes. -/
def empty : Content := text ""

/-- The content with those bytes. -/
def ofBytes (b : ByteArray) : Content :=
  if h : b.IsValidUTF8 then text (String.ofByteArray b h) else binary b h

/-- The bytes. -/
def bytes : Content → ByteArray
  | text s => s.toUTF8
  | binary b _ => b

/-- The number of bytes. -/
def size : Content → Nat
  | text s => s.utf8ByteSize
  | binary b _ => b.size

/-- One content behind another. -/
def append : Content → Content → Content
  | text s, text t => text (s ++ t)
  | a, b => ofBytes (a.bytes ++ b.bytes)

instance : Append Content := ⟨append⟩

/-- The text, if it is one. -/
def text? : Content → Option String
  | text s => some s
  | binary .. => none

/-- The content as characters, with a substitute for what is none. -/
def lossy : Content → String
  | text s => s
  | binary b _ => String.ofList (Text.decodeLossy b.data.toList)

/-- The content that a spelling stands for. -/
def ofSpelling (s : String) : Content :=
  if s.toList.any Text.isByte then ofBytes ⟨(Text.spelledBytes s.toList).toArray⟩ else text s

/-- The spelling of a content. -/
def spelling : Content → String
  | text s => Text.spelling s
  | binary b _ => String.ofList (Text.spell b.data.toList)

@[simp] theorem text_append_text (s t : String) : text s ++ text t = text (s ++ t) := rfl

@[simp] theorem bytes_ofBytes (b : ByteArray) : (ofBytes b).bytes = b := by
  unfold ofBytes
  split <;> rfl

@[simp] theorem ofBytes_bytes (c : Content) : ofBytes c.bytes = c := by
  cases c with
  | text s => simp [bytes, ofBytes, String.isValidUTF8]
  | binary b h => simp [bytes, ofBytes, h]

end Content

end ComplexityLint
