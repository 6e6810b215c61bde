import StepUp.Json.Numeral
import StepUp.Json.Printer
import StepUp.Proofs.Bytes

/-!
# Reading the numerals of integers

An integer is written in decimal digits without leading zeros, after a sign if it is negative. The
scanner takes all of them, since none of the bytes that may follow a value continues a numeral, and
the number that it adds up stays below the size of a word.
-/

namespace StepUp.Json

open Text (Utf8.encode)

/-- What may follow a value: nothing, or a byte that continues no numeral. -/
def Ends (rest : List UInt8) : Prop :=
  ∀ b ∈ rest.head?, Numeral.isDigit b = false ∧ b ≠ 0x2E ∧ Numeral.isExponentMark b = false

theorem ends_nil : Ends [] := nofun

namespace Numeral

theorem digit_bounds {c : Char} (h : c.isDigit = true) : 48 ≤ c.toNat ∧ c.toNat ≤ 57 :=
  Char.isDigit_iff_toNat.1 h

theorem isDigit_ofNat {c : Char} (h : c.isDigit = true) : isDigit (UInt8.ofNat c.toNat) = true := by
  obtain ⟨h₁, h₂⟩ := digit_bounds h
  simp only [isDigit, Bool.and_eq_true, decide_eq_true_eq, UInt8.le_iff_toNat_le,
    UInt8.toNat_ofNat', UInt8.reduceToNat]
  omega

theorem digit_ofNat {c : Char} (h : c.isDigit = true) :
    digit (UInt8.ofNat c.toNat) = c.toNat - '0'.toNat := by
  obtain ⟨h₁, h₂⟩ := digit_bounds h
  simp only [digit, UInt8.toNat_ofNat']
  rw [Nat.mod_eq_of_lt (by omega)]
  rfl

theorem encode_digits {ds : List Char} (h : ∀ c ∈ ds, c.isDigit = true) :
    Utf8.encode ds = ds.map fun c => UInt8.ofNat c.toNat := by
  induction ds with
  | nil => rfl
  | cons c ds ih =>
    have hc := (digit_bounds (h c List.mem_cons_self)).2
    rw [Text.Utf8.encode_cons, Text.Utf8.encodeChar_of_lt (by omega),
      ih fun d hd => h d (List.mem_cons_of_mem c hd)]
    rfl

def NoDigit (rest : List UInt8) : Prop := ∀ b ∈ rest.head?, isDigit b = false

theorem noDigit_of_ends {rest : List UInt8} (h : Ends rest) : NoDigit rest :=
  fun b hb => (h b hb).1

/-- The digits of a text are those that it begins with, where no further one follows. -/
theorem digits_append {ds rest : List UInt8} (hds : ∀ b ∈ ds, isDigit b = true)
    (hrest : NoDigit rest) :
    digits (ds ++ rest) = (ds.map digit, rest) := by
  have hstop : rest.takeWhile isDigit = [] ∧ rest.dropWhile isDigit = rest := by
    cases rest with
    | nil => exact ⟨rfl, rfl⟩
    | cons b rest => simp [hrest b rfl]
  rw [digits, List.takeWhile_append_of_pos hds, List.dropWhile_append_of_pos hds, hstop.1, hstop.2,
    List.append_nil]

theorem digits_encode {ds : List Char} (h : ∀ c ∈ ds, c.isDigit = true) {rest : List UInt8}
    (hrest : Ends rest) :
    digits (Utf8.encode ds ++ rest) = (ds.map (fun c => c.toNat - '0'.toNat), rest) := by
  have hall : ∀ b ∈ ds.map (fun c => UInt8.ofNat c.toNat), isDigit b = true := fun b hb => by
    obtain ⟨c, hc, rfl⟩ := List.mem_map.1 hb
    exact isDigit_ofNat (h c hc)
  rw [encode_digits h, digits_append hall (noDigit_of_ends hrest), List.map_map]
  congr 1
  exact List.map_congr_left fun c hc => digit_ofNat (h c hc)

/-- Digits are taken up to the last as long as the number they make is below the size of a word. -/
theorem absorb_eq {ds : List Nat} {n : Nat}
    (h : ds.foldl (fun n d => 10 * n + d) n < wordSize) :
    absorb n ds = (ds.foldl (fun n d => 10 * n + d) n, []) := by
  have hmono : ∀ (ds : List Nat) (n : Nat), n ≤ ds.foldl (fun n d => 10 * n + d) n := by
    intro ds
    induction ds with
    | nil => exact fun n => Nat.le_refl n
    | cons d ds ih => exact fun n => Nat.le_trans (by omega) (ih (10 * n + d))
  induction ds generalizing n with
  | nil => rfl
  | cons d ds ih =>
    have hd : 10 * n + d < wordSize := Nat.lt_of_le_of_lt (hmono ds _) h
    rw [absorb, if_pos hd, ih h]
    rfl

theorem head?_toDigits {n : Nat} (h : 0 < n) : (Nat.toDigits 10 n).head? ≠ some '0' := by
  induction n using Nat.base_induction 10 (by decide) with
  | single m hm =>
    rw [Nat.toDigits_of_lt_base hm]
    simpa using Nat.ne_of_gt h
  | digit m k hk hm ih =>
    rw [← Nat.toDigits_append_toDigits (by decide) hm hk, List.head?_append]
    cases hm' : Nat.toDigits 10 m with
    | nil => exact absurd hm' Nat.toDigits_ne_nil
    | cons c cs => simpa [hm'] using ih hm

theorem isDigit_of_mem {n : Nat} {c : Char} (h : c ∈ Nat.toDigits 10 n) : c.isDigit = true :=
  Nat.isDigit_of_mem_toDigits (by decide) (by decide) h

/-- All digits of a number that fits are absorbed. -/
theorem absorb_toDigits {n : Nat} (h : n < wordSize) :
    absorb 0 ((Nat.toDigits 10 n).map fun c => c.toNat - '0'.toNat) = (n, []) := by
  have hvalue : ((Nat.toDigits 10 n).map fun c => c.toNat - '0'.toNat).foldl
      (fun n d => 10 * n + d) 0 = n := by
    rw [List.foldl_map, ← Nat.ofDigitChars_eq_foldl, Nat.ofDigitChars_ten_toDigits]
  rw [absorb_eq (by rwa [hvalue]), hvalue]

/-- A zero that begins a decimal numeral is all of it. -/
theorem not_leadingZero {n : Nat} {c : Char} {cs : List Char} (h : Nat.toDigits 10 n = c :: cs)
    {rest : List UInt8} (hrest : Ends rest) :
    ¬ (UInt8.ofNat c.toNat = 0x30 ∧ (Utf8.encode cs ++ rest).head?.any isDigit = true) := by
  rintro ⟨hzero, hnext⟩
  have hc : c = '0' := by
    have hdigit := digit_bounds (isDigit_of_mem (h ▸ List.mem_cons_self : c ∈ _))
    have hval := congrArg UInt8.toNat hzero
    simp only [UInt8.toNat_ofNat', UInt8.reduceToNat] at hval
    exact Char.toNat_inj.1 (by simp; omega)
  have hn : n = 0 := by
    refine Nat.eq_zero_of_not_pos fun hpos => head?_toDigits hpos ?_
    rw [h, hc]
    rfl
  subst hn
  obtain ⟨-, rfl⟩ := List.cons.inj (h.symm.trans (Nat.toDigits_zero 10))
  cases rest with
  | nil => cases hnext
  | cons b rest => simp [(hrest b rfl).1] at hnext

/-- The digits of a number below the size of a word are read as this number. -/
theorem scan_toDigits (negative : Bool) {n : Nat} (h : n < wordSize) {rest : List UInt8}
    (hrest : Ends rest) :
    scan negative (Utf8.encode (Nat.toDigits 10 n) ++ rest) =
      finish (ofInteger? negative n) rest := by
  have hdigits := digits_encode (fun c => isDigit_of_mem (n := n)) hrest
  cases hcs : Nat.toDigits 10 n with
  | nil => exact absurd hcs Nat.toDigits_ne_nil
  | cons c cs =>
    have hc := isDigit_of_mem (hcs ▸ List.mem_cons_self : c ∈ Nat.toDigits 10 n)
    have hlt := (digit_bounds hc).2
    have hzero := not_leadingZero hcs hrest
    rw [hcs] at hdigits
    rw [Text.Utf8.encode_cons, Text.Utf8.encodeChar_of_lt (by omega), List.singleton_append,
      List.cons_append] at hdigits ⊢
    rw [scan, if_neg (by simp [isDigit_ofNat hc]), if_neg hzero, hdigits]
    simp only [← hcs, absorb_toDigits h, List.isEmpty_nil, if_true]
    cases rest with
    | nil => rfl
    | cons b rest =>
      obtain ⟨-, hpoint, hmark⟩ := hrest b rfl
      simp [hpoint, hmark]

theorem ofInteger?_natAbs {n : Int} (h : InWordRange n) :
    ofInteger? (decide (n < 0)) n.natAbs = some (.integer n h) := by
  obtain ⟨hlow, -⟩ := id h
  unfold ofInteger?
  by_cases hneg : n < 0
  · have hn : -(n.natAbs : Int) = n := by omega
    have hbound : 0 < n.natAbs ∧ n.natAbs ≤ signedBound := by
      simp only [signedBound]
      omega
    rw [decide_eq_true hneg, if_pos rfl, if_pos hbound, hn, Number.ofInt?, dif_pos h]
  · have hn : (n.natAbs : Int) = n := by omega
    rw [decide_eq_false hneg, if_neg (by decide), hn, Number.ofInt?, dif_pos h]

theorem natAbs_lt_wordSize {n : Int} (h : InWordRange n) : n.natAbs < wordSize := by
  obtain ⟨hlow, hhigh⟩ := h
  simp only [wordSize]
  omega

/-- The digits of an integer are read as this integer, after its sign. -/
theorem scan_natAbs {n : Int} (h : InWordRange n) {rest : List UInt8} (hrest : Ends rest) :
    scan (decide (n < 0)) (Utf8.encode (Nat.toDigits 10 n.natAbs) ++ rest) =
      .ok (.integer n h, rest) := by
  rw [scan_toDigits _ (natAbs_lt_wordSize h) hrest, ofInteger?_natAbs h]
  rfl

end Numeral

end StepUp.Json
