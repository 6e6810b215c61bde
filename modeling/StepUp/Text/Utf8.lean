/-!
# UTF-8 text as bytes

Every byte string splits into the text it begins with and the bytes from the first malformed
character on. A byte string encodes a text exactly when nothing is left.
-/

namespace StepUp.Text.Utf8

def encode (text : List Char) : List UInt8 := text.flatMap String.utf8EncodeChar

def bytes (text : String) : List UInt8 := encode text.toList

/-- The character that a byte string begins with, if a whole well-formed one stands there. -/
def first? (b : List UInt8) : Option Char := (b.take 4).toByteArray.utf8DecodeChar? 0

/-- The text that a byte string begins with, and the bytes from the first malformed character
on. -/
def split : List UInt8 → List Char × List UInt8
  | [] => ([], [])
  | b :: bs =>
    match first? (b :: bs) with
    | none => ([], b :: bs)
    | some c =>
      let (text, rest) := split (bs.drop (c.utf8Size - 1))
      (c :: text, rest)
termination_by b => b.length
decreasing_by
  simp only [List.length_drop, List.length_cons]
  omega

def decode? (b : List UInt8) : Option String :=
  match split b with
  | (text, []) => some (String.ofList text)
  | _ => none

@[simp] theorem encode_nil : encode [] = [] := rfl

@[simp] theorem encode_cons (c : Char) (text : List Char) :
    encode (c :: text) = String.utf8EncodeChar c ++ encode text := rfl

@[simp] theorem encode_append (s t : List Char) : encode (s ++ t) = encode s ++ encode t := by
  simp [encode]

theorem first?_encode_append (c : Char) (rest : List UInt8) :
    first? (String.utf8EncodeChar c ++ rest) = some c := by
  rw [first?, List.take_append, List.take_of_length_le (by simp [Char.utf8Size_le_four])]
  rw [List.toByteArray_append]
  exact ByteArray.utf8DecodeChar?_utf8EncodeChar_append

theorem encode_append_drop_of_first? {b : List UInt8} {c : Char} (h : first? b = some c) :
    String.utf8EncodeChar c ++ b.drop c.utf8Size = b := by
  obtain ⟨l, hl⟩ := ByteArray.exists_of_utf8DecodeChar?_eq_some h
  have hb : b.take 4 = String.utf8EncodeChar c ++ l.data.toList := by
    have := congrArg (fun a : ByteArray => a.data.toList) hl
    simpa using this
  have hsplit : b = String.utf8EncodeChar c ++ (l.data.toList ++ b.drop 4) := by
    rw [← List.append_assoc, ← hb, List.take_append_drop]
  conv => rhs; rw [hsplit]
  conv => lhs; rw [hsplit]
  rw [List.drop_append_of_le_length (by simp)]
  rw [List.drop_of_length_le (by simp)]
  simp

theorem encode_split (b : List UInt8) : encode (split b).1 ++ (split b).2 = b := by
  fun_induction split b with
  | case1 => rfl
  | case2 => rfl
  | case3 b bs c hc text rest h ih =>
    rw [h] at ih
    have hpos := c.utf8Size_pos
    rw [encode_cons, List.append_assoc, ih]
    obtain ⟨n, hn⟩ : ∃ n, c.utf8Size = n + 1 := ⟨c.utf8Size - 1, by omega⟩
    have := encode_append_drop_of_first? hc
    simpa [hn] using this

/-- Characters at the beginning are found one by one, whatever follows them. -/
theorem split_encode_append (text : List Char) (b : List UInt8) :
    split (encode text ++ b) = (text ++ (split b).1, (split b).2) := by
  induction text with
  | nil => rfl
  | cons c text ih =>
    have hc := first?_encode_append c (encode text ++ b)
    have hlen := String.length_utf8EncodeChar c
    have hpos := c.utf8Size_pos
    rw [encode_cons, List.append_assoc]
    cases hs : String.utf8EncodeChar c with
    | nil => simp [hs] at hlen; omega
    | cons x xs =>
      rw [hs, List.cons_append] at hc
      have hxs : c.utf8Size - 1 = xs.length := by
        rw [hs] at hlen
        simp at hlen
        omega
      rw [List.cons_append, split, hc]
      simp [hxs, ih]

/-- A byte string decodes to a text exactly when it is the encoding of that text. -/
theorem decode?_eq_some_iff {b : List UInt8} {text : String} :
    decode? b = some text ↔ b = bytes text := by
  constructor
  · intro h
    have hb := encode_split b
    unfold decode? at h
    split at h
    · next t ht =>
      rw [ht] at hb
      cases h
      simpa [bytes] using hb.symm
    · cases h
  · rintro rfl
    have := split_encode_append text.toList []
    simp only [List.append_nil] at this
    simp [decode?, bytes, this, split]

end StepUp.Text.Utf8
