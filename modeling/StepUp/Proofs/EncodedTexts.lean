import StepUp.Proofs.Bytes

/-!
# Byte strings that encode texts

Texts can be put together and taken apart between characters. A whole character inside a text stands
between two texts: no byte but the first one of a character can begin another one.
-/

namespace StepUp.Text.Utf8

variable {b b' : List UInt8} {c : Char}

/-- The bytes are those of a text. -/
def IsText (b : List UInt8) : Prop := ∃ text, b = encode text

theorem isText_iff : IsText b ↔ ∃ text, b = bytes text := by
  constructor
  · rintro ⟨text, rfl⟩
    exact ⟨String.ofList text, by rw [bytes, String.toList_ofList]⟩
  · rintro ⟨text, rfl⟩
    exact ⟨text.toList, rfl⟩

theorem isText_nil : IsText [] := ⟨[], rfl⟩

theorem IsText.append (h : IsText b) (h' : IsText b') : IsText (b ++ b') := by
  obtain ⟨text, rfl⟩ := h
  obtain ⟨text', rfl⟩ := h'
  exact ⟨text ++ text', (encode_append text text').symm⟩

theorem isText_encodeChar (c : Char) : IsText (String.utf8EncodeChar c) := ⟨[c], by simp⟩

/-- A byte below `0x80` is a character. -/
theorem exists_encodeChar {x : UInt8} (h : x.toNat < 0x80) :
    ∃ c, String.utf8EncodeChar c = [x] := by
  have hnat : (Char.ofUInt8 x).toNat = x.toNat := x.toNat_toUInt32
  refine ⟨Char.ofUInt8 x, ?_⟩
  rw [encodeChar_of_lt (by rwa [hnat]), hnat, UInt8.ofNat_toNat]

theorem IsText.cons {x : UInt8} (h : IsText b) (hx : x.toNat < 0x80) : IsText (x :: b) := by
  obtain ⟨c, hc⟩ := exists_encodeChar hx
  exact (hc ▸ isText_encodeChar c : IsText [x]).append h

theorem IsText.append_of_lt (h : IsText b) (hlt : ∀ x ∈ b', x.toNat < 0x80) : IsText (b' ++ b) := by
  induction b' with
  | nil => exact h
  | cons x b' ih =>
    obtain ⟨hx, hlt⟩ := List.forall_mem_cons.1 hlt
    exact (ih hlt).cons hx

/-- Characters of one byte each may stand before a text. -/
theorem isText_of_dropWhile {p : UInt8 → Bool} (hp : ∀ x, p x = true → x.toNat < 0x80)
    (h : IsText (b.dropWhile p)) : IsText b := by
  rw [← @List.takeWhile_append_dropWhile _ p b]
  exact h.append_of_lt fun x hx => hp x (List.all_eq_true.1 List.all_takeWhile x hx)

theorem IsText.of_encodeChar_append (h : IsText (String.utf8EncodeChar c ++ b)) : IsText b := by
  obtain ⟨text, htext⟩ := h
  cases text with
  | nil => exact absurd (List.append_eq_nil_iff.1 htext).1 String.utf8EncodeChar_ne_nil
  | cons d text =>
    have hfirst : some c = some d := by
      rw [← first?_encode_append c b, htext, encode_cons, first?_encode_append]
    obtain rfl := Option.some.inj hfirst
    exact ⟨text, List.append_cancel_left htext⟩

/-- Only the first byte of a character begins one. -/
theorem eq_nil_of_encodeChar_eq_append {d : Char} {pre rest more : List UInt8}
    (hd : String.utf8EncodeChar d = pre ++ rest) (hrest : rest ≠ [])
    (hc : String.utf8EncodeChar c ++ b = rest ++ more) : pre = [] := by
  obtain ⟨x, rest, rfl⟩ := List.exists_cons_of_ne_nil hrest
  have hlt : pre.length < (String.utf8EncodeChar d).length := by rw [hd]; simp
  have hget : (String.utf8EncodeChar d)[pre.length] = x := by simp [hd]
  have hbegins : x.IsUTF8FirstByte := by
    cases hchar : String.utf8EncodeChar c with
    | nil => exact absurd hchar String.utf8EncodeChar_ne_nil
    | cons y ys =>
      have hfirst := @UInt8.isUTF8FirstByte_getElem_zero_utf8EncodeChar c
      have hy : y = x := by
        rw [hchar] at hc
        exact (List.cons.inj hc).1
      simpa [hchar, hy] using hfirst
  rw [← hget, UInt8.isUTF8FirstByte_getElem_utf8EncodeChar] at hbegins
  exact List.length_eq_zero_iff.1 hbegins

/-- What stands before and behind a whole character in a text are texts. -/
theorem IsText.around {pre : List UInt8} (h : IsText (pre ++ (String.utf8EncodeChar c ++ b))) :
    IsText pre ∧ IsText b := by
  obtain ⟨text, htext⟩ := h
  induction text generalizing pre with
  | nil =>
    have hnil := (List.append_eq_nil_iff.1 htext).2
    exact absurd (List.append_eq_nil_iff.1 hnil).1 String.utf8EncodeChar_ne_nil
  | cons d text ih =>
    rw [encode_cons] at htext
    -- The first character of the text ends before or behind the place where `c` begins.
    rcases List.append_eq_append_iff.1 htext with ⟨rest, hd, hrest⟩ | ⟨pre', rfl, hrest⟩
    · by_cases hnil : rest = []
      · subst hnil
        rw [List.append_nil] at hd
        have htail : IsText (String.utf8EncodeChar c ++ b) := ⟨text, hrest⟩
        exact ⟨hd ▸ isText_encodeChar d, htail.of_encodeChar_append⟩
      · obtain rfl := eq_nil_of_encodeChar_eq_append hd hnil hrest
        rw [List.nil_append] at htext
        exact ⟨isText_nil, IsText.of_encodeChar_append ⟨d :: text, htext⟩⟩
    · obtain ⟨hpre, hb⟩ := ih hrest.symm
      exact ⟨(isText_encodeChar d).append hpre, hb⟩

end StepUp.Text.Utf8
