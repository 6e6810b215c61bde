import StepUp.Proofs.DocumentReaders
import StepUp.Proofs.EncodedTexts

/-!
# What is read as JSON is text

Only the bytes inside strings are checked to be text. All other bytes that a scanner passes over are
below `0x80`, so if it leaves a text behind, it has begun with one (`Textual`). In a string an escape
parts the plain bytes before it from those behind it, and these are texts if the content is one.
-/

namespace StepUp.Json

open Text (Utf8.encode_split Utf8.isText_of_dropWhile Utf8.exists_encodeChar Utf8.isText_nil)
open Text.Utf8 (IsText)

section Textual

variable {ε α β : Type} {scan : List UInt8 → Except ε (α × List UInt8)}

/-- What is read stood in a text if a text is left. -/
def Textual (scan : List UInt8 → Except ε (α × List UInt8)) : Prop :=
  ∀ s x t, scan s = .ok (x, t) → IsText t → IsText s

namespace Textual

theorem pure (x : α) : Textual fun s => (.ok (x, s) : Except ε (α × List UInt8)) := by
  intro s y t h ht
  cases h
  exact ht

theorem error (e : List UInt8 → ε) :
    Textual fun s => (.error (e s) : Except ε (α × List UInt8)) :=
  fun _ _ _ h => by cases h

theorem ite {scan' : List UInt8 → Except ε (α × List UInt8)} {p : Prop} [Decidable p]
    (h : Textual scan) (h' : Textual scan') : Textual fun s => if p then scan s else scan' s := by
  by_cases hp : p
  · simpa only [if_pos hp] using h
  · simpa only [if_neg hp] using h'

theorem bind {next : α → List UInt8 → Except ε (β × List UInt8)} (h : Textual scan)
    (hnext : ∀ x, Textual (next x)) : Textual fun s => scan s >>= fun r => next r.1 r.2 := by
  intro s y t hs ht
  obtain ⟨⟨x, u⟩, hx, hy⟩ := Checks.bind_eq_ok_iff.1 hs
  exact h s x u hx (hnext x u y t hy ht)

theorem map (h : Textual scan) (f : α → β) :
    Textual fun s => scan s >>= fun r => .ok (f r.1, r.2) :=
  h.bind fun x => .pure (f x)

end Textual

end Textual

theorem lt_of_isSpace {b : UInt8} (h : isSpace b = true) : b.toNat < 0x80 := by
  simp only [isSpace, Bool.or_eq_true, beq_iff_eq] at h
  obtain ((rfl | rfl) | rfl) | rfl := h <;> decide

theorem isText_of_skipSpace {s : List UInt8} (h : IsText (skipSpace s)) : IsText s :=
  Utf8.isText_of_dropWhile (fun _ => lt_of_isSpace) h

/-- A byte below `0x80` behind white space. -/
theorem isText_of_skipSpace_cons {s t : List UInt8} {b : UInt8} (hs : skipSpace s = b :: t)
    (hb : b.toNat < 0x80) (ht : IsText t) : IsText s := by
  refine isText_of_skipSpace ?_
  rw [hs]
  exact ht.cons hb

theorem scanLiteral_textual (value : Json) {letters : List UInt8}
    (h : ∀ l ∈ letters, l.toNat < 0x80) : Textual (scanLiteral value letters) := by
  induction letters with
  | nil =>
    intro s v t hs ht
    cases hs
    exact ht
  | cons l ls ih =>
    obtain ⟨hl, hls⟩ := List.forall_mem_cons.1 h
    intro s v t hs ht
    cases s with
    | nil => cases hs
    | cons b s =>
      rw [scanLiteral] at hs
      split at hs
      · next hb =>
        subst hb
        exact (ih hls s v t hs ht).cons hl
      · cases hs

theorem lt_of_hexDigit? {b : UInt8} {n : Nat} (h : hexDigit? b = some n) : b.toNat < 0x80 := by
  unfold hexDigit? at h
  simp only [UInt8.le_iff_toNat_le, UInt8.reduceToNat] at h
  split at h
  · omega
  · split at h
    · omega
    · split at h
      · omega
      · cases h

theorem scanHex4_textual : Textual scanHex4 := by
  intro s n t h ht
  unfold scanHex4 at h
  split at h
  · next a b c d s =>
    split at h
    · next m hm =>
      cases h
      simp only [hex4?, Option.bind_eq_bind, Option.bind_eq_some_iff] at hm
      obtain ⟨_, ha, _, hb, _, hc, _, hd, -⟩ := hm
      exact (((ht.cons (lt_of_hexDigit? hd)).cons (lt_of_hexDigit? hc)).cons
        (lt_of_hexDigit? hb)).cons (lt_of_hexDigit? ha)
    · cases h
  · cases h

theorem joinSurrogates_textual (high low : Nat) : Textual (joinSurrogates high low) :=
  .ite (.pure _) (.error _)

theorem scanLowSurrogate_textual (high : Nat) : Textual (scanLowSurrogate high) := by
  intro s n t h ht
  unfold scanLowSurrogate at h
  split at h
  · cases h
  · cases h
  · next w =>
    have hw : IsText w := scanHex4_textual.bind (joinSurrogates_textual high) w n t h ht
    exact (hw.cons (by decide)).cons (by decide)
  · cases h
  · cases h

theorem completeCodePoint_textual (n : Nat) : Textual (completeCodePoint n) :=
  .ite (.error _) (.ite (scanLowSurrogate_textual n) (.pure n))

theorem scanCodePoint_textual : Textual scanCodePoint :=
  scanHex4_textual.bind completeCodePoint_textual

theorem lt_of_shortEscape? {letter b : UInt8} (h : shortEscape? letter = some b) :
    letter.toNat < 0x80 ∧ b.toNat < 0x80 := by
  unfold shortEscape? at h
  split at h <;> cases h <;> decide

theorem scanEscape_textual : Textual scanEscape := by
  intro s piece t h ht
  unfold scanEscape at h
  split at h
  · cases h
  · next w =>
    obtain ⟨⟨n, u⟩, hn, h⟩ := Checks.bind_eq_ok_iff.1 h
    cases h
    exact (scanCodePoint_textual w n t hn ht).cons (by decide)
  · split at h
    · next hb =>
      cases h
      exact ht.cons (lt_of_shortEscape? hb).1
    · cases h

/-- An escape stands for a whole character. -/
theorem exists_char_of_scanEscape {s piece t : List UInt8} (h : scanEscape s = .ok (piece, t)) :
    ∃ c, String.utf8EncodeChar c = piece := by
  unfold scanEscape at h
  split at h
  · cases h
  · obtain ⟨⟨n, u⟩, -, h⟩ := Checks.bind_eq_ok_iff.1 h
    cases h
    exact ⟨Char.ofNat n, rfl⟩
  · split at h
    · next hb =>
      cases h
      exact Utf8.exists_encodeChar (lt_of_shortEscape? hb).2
    · cases h

/-- A piece of a string is a byte of it or stands for a whole character. -/
theorem scanPiece_cases {s piece t : List UInt8} (h : scanPiece s = .ok (piece, t)) :
    (∃ b, piece = [b] ∧ s = b :: t) ∨
      (∃ c, String.utf8EncodeChar c = piece) ∧ (IsText t → IsText s) := by
  unfold scanPiece at h
  split at h
  · cases h
  · next w =>
    exact .inr ⟨exists_char_of_scanEscape h, fun ht =>
      (scanEscape_textual w piece t h ht).cons (by decide)⟩
  · next b w _ =>
    split at h
    · cases h
    · cases h
      exact .inl ⟨b, rfl, rfl⟩

/-- The bytes before the pieces belong to the same text: a character may have begun there. -/
theorem isText_of_scanPieces {n : Nat} {pre s content t : List UInt8}
    (h : scanPieces n s = .ok (content, t)) (hcontent : IsText (pre ++ content)) (ht : IsText t) :
    IsText (pre ++ s) := by
  induction n generalizing pre s content with
  | zero => cases h
  | succ n ih =>
    by_cases hquote : s.head? = some 0x22
    · obtain ⟨w, rfl⟩ := List.head?_eq_some_iff.1 hquote
      rw [scanPieces_quote] at h
      cases h
      rw [List.append_nil] at hcontent
      exact hcontent.append (ht.cons (by decide))
    · rw [scanPieces_eq n hquote] at h
      obtain ⟨⟨piece, w⟩, hpiece, h⟩ := Checks.bind_eq_ok_iff.1 h
      obtain ⟨⟨more, rest⟩, hmore, h⟩ := Checks.bind_eq_ok_iff.1 h
      cases h
      -- A byte may be the middle of a character and goes to those before; an escape may not.
      rcases scanPiece_cases hpiece with ⟨b, rfl, rfl⟩ | ⟨⟨c, rfl⟩, hw⟩
      · rw [← List.append_assoc] at hcontent
        have hpre := ih hmore hcontent
        rwa [List.append_assoc] at hpre
      · obtain ⟨hpre, hrest⟩ := hcontent.around
        exact hpre.append (hw (@ih [] w more hmore hrest))

theorem scanString_textual : Textual scanString := by
  intro s x t h ht
  rw [scanString] at h
  obtain ⟨⟨content, w⟩, hpieces, h⟩ := Checks.bind_eq_ok_iff.1 h
  dsimp only at h
  split at h
  · next text htext =>
    cases h
    have hcontent := Utf8.encode_split content
    rw [htext, List.append_nil] at hcontent
    exact @isText_of_scanPieces _ [] s content t hpieces ⟨text, hcontent.symm⟩ ht
  · cases h

namespace Numeral

theorem lt_of_isDigit {b : UInt8} (h : isDigit b = true) : b.toNat < 0x80 := by
  simp only [isDigit, Bool.and_eq_true, decide_eq_true_eq, UInt8.le_iff_toNat_le,
    UInt8.reduceToNat] at h
  omega

theorem lt_of_isExponentMark {b : UInt8} (h : isExponentMark b = true) : b.toNat < 0x80 := by
  simp only [isExponentMark, Bool.or_eq_true, beq_iff_eq] at h
  obtain rfl | rfl := h <;> decide

theorem isText_of_digits {s : List UInt8} (h : IsText (digits s).2) : IsText s :=
  Utf8.isText_of_dropWhile (fun _ => lt_of_isDigit) h

theorem isText_of_exponentFrom {n : Nat} {s : List UInt8} (h : IsText (exponentFrom n s).2) :
    IsText s := by
  induction s generalizing n with
  | nil => exact h
  | cons b s ih =>
    rw [exponentFrom] at h
    split at h
    · next hb =>
      split at h
      · exact (ih h).cons (lt_of_isDigit hb)
      · exact h.cons (lt_of_isDigit hb)
    · exact h

theorem finish_textual (number : Option Number) : Textual (finish number) := by
  intro s n t h ht
  rw [(finish_eq_ok_iff.1 h).2]
  exact ht

theorem scanExponentDigits_textual (negative : Bool) (significand : Nat) (exponent : Int)
    (below : Bool) : Textual (scanExponentDigits negative significand exponent below) := by
  intro s x t h ht
  cases s with
  | nil => cases h
  | cons b s =>
    rw [scanExponentDigits] at h
    split at h
    · next hb =>
      refine IsText.cons (@isText_of_exponentFrom (digit b) s ?_) (lt_of_isDigit hb)
      dsimp only at h
      split at h
      · exact finish_textual _ _ _ _ h ht
      · split at h
        · cases h
        · exact isText_of_digits (finish_textual _ _ _ _ h ht)
    · cases h

theorem scanExponent_textual (negative : Bool) (significand : Nat) (exponent : Int) :
    Textual (scanExponent negative significand exponent) := by
  have hdigits := scanExponentDigits_textual negative significand exponent
  intro s x t h ht
  cases s with
  | nil => cases h
  | cons b s =>
    by_cases hplus : b = 0x2B
    · subst hplus
      exact (hdigits false s x t h ht).cons (by decide)
    · by_cases hminus : b = 0x2D
      · subst hminus
        exact (hdigits true s x t h ht).cons (by decide)
      · rw [scanExponent_eq negative significand exponent hplus hminus] at h
        exact hdigits false _ x t h ht

theorem scanFraction_textual (negative : Bool) (significand : Nat) (exponent : Int) :
    Textual (scanFraction negative significand exponent) := by
  intro s x t h ht
  refine isText_of_digits ?_
  unfold scanFraction at h
  split at h
  · cases h
  · next ds u _ hu =>
    rw [hu]
    dsimp only at h
    split at h
    · exact finish_textual _ _ _ _ h ht
    · next b w =>
      split at h
      · next hb => exact (scanExponent_textual _ _ _ _ _ _ h ht).cons (lt_of_isExponentMark hb)
      · exact finish_textual _ _ _ _ h ht

theorem scan_textual (negative : Bool) : Textual (scan negative) := by
  intro s x t h ht
  refine isText_of_digits ?_
  unfold scan at h
  split at h
  · cases h
  · split at h
    · cases h
    · split at h
      · cases h
      · dsimp only at h
        split at h
        · next hu =>
          rw [hu]
          exact finish_textual _ _ _ _ h ht
        · next b w hu =>
          rw [hu]
          split at h
          · next hb =>
            subst hb
            exact (scanFraction_textual _ _ _ _ _ _ h ht).cons (by decide)
          · split at h
            · next hb => exact (scanExponent_textual _ _ _ _ _ _ h ht).cons (lt_of_isExponentMark hb)
            · rw [← hu]
              exact finish_textual _ _ _ _ h ht

end Numeral

section Items

variable {ε α β : Type} {item : List UInt8 → Except ε (α × List UInt8)}
  {scan : Nat → List UInt8 → Except ε (List α × List UInt8)}
  {whole : List UInt8 → Except ε (β × List UInt8)} {close : UInt8} {make : List α → β}

theorem ReadsItems.items_textual (h : ReadsItems close item scan) (hclose : close.toNat < 0x80)
    (hitem : Textual item) (n : Nat) : Textual (scan n) := by
  intro s xs t hs ht
  induction n generalizing s xs with
  | zero => exact absurd hs (h.zero s _)
  | succ n ih =>
    obtain ⟨x, u, hx, ⟨hend, -⟩ | ⟨w, ys, hcomma, -, hys, -⟩⟩ := (h.succ n s xs t).1 hs
    · exact hitem s x u hx (isText_of_skipSpace_cons hend hclose ht)
    · have hw : IsText w := isText_of_skipSpace (ih _ ys hys)
      exact hitem s x u hx (isText_of_skipSpace_cons hcomma (by decide) hw)

theorem Encloses.whole_textual (h : Encloses close item scan make whole) (hclose : close.toNat < 0x80)
    (hitem : Textual item) : Textual whole := by
  intro s y t hs ht
  rcases (h.whole_iff s y t).1 hs with ⟨hend, -⟩ | ⟨_, _, xs, -, -, hxs, -⟩
  · exact isText_of_skipSpace_cons hend hclose ht
  · exact isText_of_skipSpace (h.items_textual hclose hitem _ _ xs t hxs ht)

end Items

section Values

variable {value : Scanner Json}

theorem scanList_textual (hvalue : Textual value) : Textual (scanList id value) :=
  (scanList_encloses id value).whole_textual (by decide) hvalue

theorem scanMember_textual (hvalue : Textual value) : Textual (scanMember value) := by
  intro s m t h ht
  obtain ⟨w, u, z, rfl, hkey, hcolon, hv⟩ := scanMember_eq_ok_iff.1 h
  have hu : IsText u := isText_of_skipSpace_cons hcolon (by decide) (hvalue z m.2 t hv ht)
  exact (scanString_textual w m.1 u hkey hu).cons (by decide)

theorem scanObject_textual (hvalue : Textual value) : Textual (scanObject value) :=
  (scanObject_encloses value).whole_textual (by decide) (scanMember_textual hvalue)

end Values

theorem scanValueWith_textual {inner : Option (Scanner Json)}
    (hinner : ∀ value ∈ inner, Textual value) : Textual (scanValueWith inner) := by
  intro s v t h ht
  unfold scanValueWith at h
  split at h
  · cases h
  · next hs =>
    exact isText_of_skipSpace_cons hs (by decide) (scanLiteral_textual _ (by simp) _ v t h ht)
  · next hs =>
    exact isText_of_skipSpace_cons hs (by decide) (scanLiteral_textual _ (by simp) _ v t h ht)
  · next hs =>
    exact isText_of_skipSpace_cons hs (by decide) (scanLiteral_textual _ (by simp) _ v t h ht)
  · next hs =>
    exact isText_of_skipSpace_cons hs (by decide) (scanString_textual.map Json.string _ v t h ht)
  · next hs =>
    cases inner with
    | none => cases h
    | some value =>
      have hlist := (scanList_textual (hinner value rfl)).map Json.array
      exact isText_of_skipSpace_cons hs (by decide) (hlist _ v t h ht)
  · next hs =>
    cases inner with
    | none => cases h
    | some value =>
      have hobject := (scanObject_textual (hinner value rfl)).map Json.ofObject
      exact isText_of_skipSpace_cons hs (by decide) (hobject _ v t h ht)
  · next hs =>
    have hnumber := (Numeral.scan_textual true).map Json.number
    exact isText_of_skipSpace_cons hs (by decide) (hnumber _ v t h ht)
  · next hs =>
    split at h
    · have hnumber := (Numeral.scan_textual false).map Json.number
      refine isText_of_skipSpace ?_
      rw [hs]
      exact hnumber _ v t h ht
    · cases h

/-- By induction on the arrays and objects that may still be opened. -/
theorem scanValue_textual (n : Nat) : Textual (scanValue n) := by
  induction n with
  | zero => exact scanValueWith_textual fun value hvalue => by cases hvalue
  | succ n ih => exact scanValueWith_textual fun value hvalue => Option.some.inj hvalue ▸ ih

/-- Bytes that are no text are not read as JSON, wherever in them the malformed character stands. -/
theorem isText_of_ofBytes {bytes : List UInt8} {v : Json} (h : ofBytes bytes = .ok v) :
    IsText bytes := by
  obtain ⟨rest, hscan, hend⟩ := ofBytes_eq_ok_iff.1 h
  have hrest : IsText rest := by
    rw [← List.append_nil rest]
    exact Utf8.isText_nil.append_of_lt fun b hb => lt_of_isSpace (blank_of_endOfText hend b hb)
  exact scanValue_textual maxDepth bytes v rest hscan hrest

end StepUp.Json
