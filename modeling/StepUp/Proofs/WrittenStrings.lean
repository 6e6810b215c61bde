import StepUp.Checks
import StepUp.Json.Parser
import StepUp.Json.Printer
import StepUp.Proofs.Bytes

/-!
# Reading written strings

The body of a written string is a sequence of pieces: short escapes, escaped code points and bytes
that stand for themselves. A piece of the body gives the bytes of its characters whatever comes
after it (`Spells`), and the pieces of a body are put together from those of its characters.
-/

namespace StepUp.Json

open Text (Utf8.encode)

/-- The bytes `body` inside a string are read as the bytes `content`, before any text that is read
in a number of pieces. -/
def Spells (body content : List UInt8) : Prop :=
  ∀ n s more rest, scanPieces n s = .ok (more, rest) →
    scanPieces (n + body.length) (body ++ s) = .ok (content ++ more, rest)

theorem scanPieces_quote (n : Nat) (rest : List UInt8) :
    scanPieces (n + 1) (0x22 :: rest) = .ok ([], rest) := by
  rw [scanPieces]

theorem scanPieces_eq (n : Nat) {s : List UInt8} (hquote : s.head? ≠ some 0x22) :
    scanPieces (n + 1) s = scanPiece s >>= fun p => scanPieces n p.2 >>= fun q =>
      .ok (p.1 ++ q.1, q.2) := by
  rw [scanPieces]
  · rfl
  · rintro t rfl
    exact hquote rfl

theorem scanPieces_succ {n : Nat} {s t piece more rest : List UInt8} (hquote : s.head? ≠ some 0x22)
    (hpiece : scanPiece s = .ok (piece, t)) (hmore : scanPieces n t = .ok (more, rest)) :
    scanPieces (n + 1) s = .ok (piece ++ more, rest) := by
  rw [scanPieces_eq n hquote]
  exact Checks.bind_eq_ok_iff.2 ⟨_, hpiece, Checks.bind_eq_ok_iff.2 ⟨_, hmore, rfl⟩⟩

/-- More pieces than are needed may be allowed. -/
theorem scanPieces_mono {n : Nat} {s : List UInt8} {r : List UInt8 × List UInt8}
    (h : scanPieces n s = .ok r) : scanPieces (n + 1) s = .ok r := by
  induction n generalizing s r with
  | zero => cases h
  | succ n ih =>
    by_cases hquote : s.head? = some 0x22
    · obtain ⟨t, rfl⟩ := List.head?_eq_some_iff.1 hquote
      rw [scanPieces_quote] at h ⊢
      exact h
    · rw [scanPieces_eq n hquote] at h
      obtain ⟨⟨piece, t⟩, hpiece, h⟩ := Checks.bind_eq_ok_iff.1 h
      obtain ⟨⟨more, rest⟩, hmore, h⟩ := Checks.bind_eq_ok_iff.1 h
      cases h
      exact scanPieces_succ hquote hpiece (ih hmore)

theorem scanPieces_of_le {n m : Nat} {s : List UInt8} {r : List UInt8 × List UInt8}
    (h : scanPieces n s = .ok r) (hnm : n ≤ m) : scanPieces m s = .ok r := by
  induction hnm with
  | refl => exact h
  | step _ ih => exact scanPieces_mono ih

namespace Spells

theorem nil : Spells [] [] := fun _ _ _ _ h => h

theorem append {b b' c c' : List UInt8} (h : Spells b c) (h' : Spells b' c') :
    Spells (b ++ b') (c ++ c') := by
  intro n s more rest hs
  have hlast := h _ _ _ _ (h' n s more rest hs)
  rw [List.append_assoc, List.append_assoc, List.length_append]
  rwa [Nat.add_assoc, Nat.add_comm b'.length] at hlast

/-- A piece that is read on its own. -/
theorem piece {body content : List UInt8} (hpos : 0 < body.length) (hquote : body.head? ≠ some 0x22)
    (h : ∀ s, scanPiece (body ++ s) = .ok (content, s)) : Spells body content := by
  intro n s more rest hs
  have hhead : (body ++ s).head? ≠ some 0x22 := by
    cases body with
    | nil => cases hpos
    | cons b body => exact hquote
  have hone := scanPieces_succ hhead (h s) hs
  exact scanPieces_of_le hone (by omega)

theorem plainByte {b : UInt8} (hlow : 0x20 ≤ b.toNat) (hquote : b ≠ 0x22) (hslash : b ≠ 0x5C) :
    Spells [b] [b] := by
  refine piece (Nat.succ_pos _) (by simpa using hquote) fun s => ?_
  have hnot : ¬ b < 0x20 := by
    rw [UInt8.lt_iff_toNat_lt]
    exact Nat.not_lt.2 hlow
  rw [List.singleton_append, scanPiece]
  · rw [if_neg hnot]
  · exact hslash

theorem plainBytes {bs : List UInt8} (h : ∀ b ∈ bs, 0x80 ≤ b.toNat) : Spells bs bs := by
  induction bs with
  | nil => exact nil
  | cons b bs ih =>
    have hb := h b List.mem_cons_self
    have hquote : b ≠ 0x22 := by
      rintro rfl
      exact absurd hb (by decide)
    have hslash : b ≠ 0x5C := by
      rintro rfl
      exact absurd hb (by decide)
    have hlow : 0x20 ≤ b.toNat := Nat.le_trans (by decide) hb
    exact (plainByte hlow hquote hslash).append (ih fun x hx => h x (List.mem_cons_of_mem b hx))

theorem shortEscape (letter : UInt8) {b : UInt8} (h : shortEscape? letter = some b) :
    Spells [0x5C, letter] [b] := by
  have hu : letter ≠ 0x75 := by
    rintro rfl
    cases h
  refine piece (Nat.succ_pos _) nofun fun s => ?_
  rw [List.cons_append, List.singleton_append, scanPiece, scanEscape]
  · rw [h]
  · exact hu

end Spells

theorem hex4?_control : ∀ n < 0x20,
    hex4? 0x30 0x30 (UInt8.ofNat (Nat.digitChar (n / 16)).toNat)
      (UInt8.ofNat (Nat.digitChar (n % 16)).toNat) = some n := by
  decide

theorem digitChar_lt : ∀ n < 16, (Nat.digitChar n).toNat < 0x80 := by
  decide

theorem completeCodePoint_of_lt {n : Nat} (h : n < 0x20) (s : List UInt8) :
    completeCodePoint n s = .ok (n, s) := by
  have hlow : isLowSurrogate n = false := by simp [isLowSurrogate]; omega
  have hhigh : isHighSurrogate n = false := by simp [isHighSurrogate]; omega
  rw [completeCodePoint, hlow, hhigh]
  rfl

theorem spells_control {c : Char} (h : c.toNat < 0x20) :
    Spells (Utf8.encode
        ['\\', 'u', '0', '0', Nat.digitChar (c.toNat / 16), Nat.digitChar (c.toNat % 16)])
      (String.utf8EncodeChar c) := by
  have hbody : Utf8.encode
      ['\\', 'u', '0', '0', Nat.digitChar (c.toNat / 16), Nat.digitChar (c.toNat % 16)] =
      [0x5C, 0x75, 0x30, 0x30, UInt8.ofNat (Nat.digitChar (c.toNat / 16)).toNat,
        UInt8.ofNat (Nat.digitChar (c.toNat % 16)).toNat] := by
    simp only [Text.Utf8.encode_cons, Text.Utf8.encode_nil]
    rw [Text.Utf8.encodeChar_of_lt (digitChar_lt _ (by omega)),
      Text.Utf8.encodeChar_of_lt (digitChar_lt _ (by omega))]
    rfl
  rw [hbody]
  refine .piece (Nat.succ_pos _) nofun fun s => ?_
  simp [scanPiece, scanEscape, scanCodePoint, scanHex4, hex4?_control c.toNat h, bind, Except.bind,
    completeCodePoint_of_lt h, pure, Except.pure]

theorem spells_plain {c : Char} (hquote : c ≠ '"') (hslash : c ≠ '\\') (hlow : ¬ c.toNat < 0x20) :
    Spells (Utf8.encode [c]) (String.utf8EncodeChar c) := by
  rw [Text.Utf8.encode_cons, Text.Utf8.encode_nil, List.append_nil]
  by_cases h : c.toNat < 0x80
  · have hne : ∀ d : Char, d.toNat < 0x80 → c ≠ d → UInt8.ofNat c.toNat ≠ UInt8.ofNat d.toNat := by
      intro d hd hcd heq
      have := congrArg UInt8.toNat heq
      simp only [UInt8.toNat_ofNat'] at this
      exact hcd (Char.toNat_inj.1 (by omega))
    rw [Text.Utf8.encodeChar_of_lt h]
    refine .plainByte ?_ (hne '"' (by decide) hquote) (hne '\\' (by decide) hslash)
    simp only [UInt8.toNat_ofNat']
    omega
  · exact .plainBytes fun b hb => Text.Utf8.le_of_mem_encodeChar (Nat.not_lt.1 h) hb

/-- What stands for a character is read as this character. -/
theorem spells_escape (c : Char) : Spells (Utf8.encode (escape c)) (String.utf8EncodeChar c) := by
  unfold escape
  split
  · exact .shortEscape 0x22 rfl
  · exact .shortEscape 0x5C rfl
  · exact .shortEscape 0x62 rfl
  · exact .shortEscape 0x66 rfl
  · exact .shortEscape 0x6E rfl
  · exact .shortEscape 0x72 rfl
  · exact .shortEscape 0x74 rfl
  · next hquote hslash _ _ _ _ _ =>
    split
    · next h => exact spells_control h
    · next h => exact spells_plain hquote hslash h

/-- By induction on the characters, each of which is escaped by itself. -/
theorem spells_flatMap (cs : List Char) : Spells (Utf8.encode (cs.flatMap escape)) (Utf8.encode cs) := by
  induction cs with
  | nil => exact .nil
  | cons c cs ih =>
    rw [List.flatMap_cons, Text.Utf8.encode_append, Text.Utf8.encode_cons]
    exact (spells_escape c).append ih

/-- A written string is read, after its opening quote, as this string. -/
theorem scanString_encode (s : String) (rest : List UInt8) :
    scanString (Utf8.encode (s.toList.flatMap escape) ++ 0x22 :: rest) = .ok (s, rest) := by
  have hbody := spells_flatMap s.toList 1 (0x22 :: rest) [] rest (scanPieces_quote 0 rest)
  rw [List.append_nil] at hbody
  -- As many pieces are allowed as there are bytes; the body itself needs no more.
  have hpieces := scanPieces_of_le hbody
    (m := (Utf8.encode (s.toList.flatMap escape) ++ 0x22 :: rest).length) (by simp; omega)
  have hsplit : Text.Utf8.split (Utf8.encode s.toList) = (s.toList, []) := by
    have := Text.Utf8.split_encode_append s.toList []
    simpa [Text.Utf8.split] using this
  rw [scanString, hpieces]
  simp [bind, Except.bind, hsplit, pure, Except.pure]

end StepUp.Json
