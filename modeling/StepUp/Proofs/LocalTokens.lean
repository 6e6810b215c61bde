import StepUp.Proofs.WrittenNumerals
import StepUp.Proofs.WrittenStrings

/-!
# Tokens end where they end

A literal, a string or a numeral that is read stands at the beginning of the text, and it is read in
the same way whatever comes after it; only a numeral must not be continued there. Scanners with
this property are called local. They are put together from local parts.
-/

namespace StepUp.Json

section Local

variable {ε α β : Type}

/-- What is read stands at the beginning of the text, and whatever else may follow there instead of
the rest, the same is read. -/
def Local (follows : α → List UInt8 → Prop)
    (scan : List UInt8 → Except ε (α × List UInt8)) : Prop :=
  ∀ s x t, scan s = .ok (x, t) →
    ∃ c, s = c ++ t ∧ ∀ u, follows x u → scan (c ++ u) = .ok (x, u)

def Anything (_ : α) (_ : List UInt8) : Prop := True

variable {follows : α → List UInt8 → Prop} {follows' : β → List UInt8 → Prop}
  {scan : List UInt8 → Except ε (α × List UInt8)}

namespace Local

theorem pure (x : α) : Local follows fun s => (.ok (x, s) : Except ε (α × List UInt8)) := by
  intro s y t h
  cases h
  exact ⟨[], rfl, fun _ _ => rfl⟩

theorem error (e : List UInt8 → ε) :
    Local follows fun s => (.error (e s) : Except ε (α × List UInt8)) :=
  fun _ _ _ h => by cases h

theorem mono {follows' : α → List UInt8 → Prop} (h : Local follows scan)
    (hf : ∀ x u, follows' x u → follows x u) : Local follows' scan := by
  intro s x t hs
  obtain ⟨c, hc, hscan⟩ := h s x t hs
  exact ⟨c, hc, fun u hu => hscan u (hf x u hu)⟩

theorem ite {scan' : List UInt8 → Except ε (α × List UInt8)} {p : Prop} [Decidable p]
    (h : Local follows scan) (h' : Local follows scan') :
    Local follows fun s => if p then scan s else scan' s := by
  by_cases hp : p
  · simpa only [if_pos hp] using h
  · simpa only [if_neg hp] using h'

theorem bind {next : α → List UInt8 → Except ε (β × List UInt8)} (h : Local Anything scan)
    (hnext : ∀ x, Local follows' (next x)) :
    Local follows' fun s => scan s >>= fun r => next r.1 r.2 := by
  intro s y t hs
  obtain ⟨⟨x, w⟩, hx, hy⟩ := Checks.bind_eq_ok_iff.1 hs
  obtain ⟨c, rfl, hc⟩ := h s x w hx
  obtain ⟨d, rfl, hd⟩ := hnext x w y t hy
  refine ⟨c ++ d, (List.append_assoc c d t).symm, fun u hu => ?_⟩
  rw [List.append_assoc]
  exact Checks.bind_eq_ok_iff.2 ⟨(x, d ++ u), hc (d ++ u) trivial, hd u hu⟩

theorem map (h : Local follows scan) (f : α → β) (hf : ∀ x u, follows' (f x) u → follows x u) :
    Local follows' fun s => scan s >>= fun r => .ok (f r.1, r.2) := by
  intro s y t hs
  obtain ⟨⟨x, w⟩, hx, hy⟩ := Checks.bind_eq_ok_iff.1 hs
  cases hy
  obtain ⟨c, rfl, hc⟩ := h s x w hx
  exact ⟨c, rfl, fun u hu => Checks.bind_eq_ok_iff.2 ⟨(x, u), hc u (hf x u hu), rfl⟩⟩

/-- A scanner that has passed over some bytes goes on as a local one. -/
theorem append {scan' : List UInt8 → Except ε (α × List UInt8)} (h : Local follows scan')
    (p : List UInt8) {s t : List UInt8} {x : α} (hs : scan' s = .ok (x, t))
    (hp : ∀ w, scan (p ++ w) = scan' w) :
    ∃ c, p ++ s = c ++ t ∧ ∀ u, follows x u → scan (c ++ u) = .ok (x, u) := by
  obtain ⟨c, rfl, hc⟩ := h s x t hs
  refine ⟨p ++ c, (List.append_assoc p c t).symm, fun u hu => ?_⟩
  rw [List.append_assoc, hp, hc u hu]

theorem cons {scan' : List UInt8 → Except ε (α × List UInt8)} {b : UInt8} {s t : List UInt8} {x : α}
    (h : Local follows scan') (hs : scan' s = .ok (x, t)) (hb : ∀ w, scan (b :: w) = scan' w) :
    ∃ c, b :: s = c ++ t ∧ ∀ u, follows x u → scan (c ++ u) = .ok (x, u) :=
  h.append [b] hs hb

end Local

end Local

theorem scanLiteral_local (value : Json) (letters : List UInt8) :
    Local Anything (scanLiteral value letters) := by
  induction letters with
  | nil => exact .pure value
  | cons l ls ih =>
    intro s v t h
    cases s with
    | nil => cases h
    | cons b s =>
      rw [scanLiteral] at h
      split at h
      · next hb =>
        refine ih.cons h fun w => ?_
        rw [scanLiteral, if_pos hb]
      · cases h

theorem scanHex4_local : Local Anything scanHex4 := by
  intro s n t h
  unfold scanHex4 at h
  split at h
  · next a b c d w =>
    split at h
    · next m hm =>
      cases h
      refine ⟨[a, b, c, d], rfl, fun u _ => ?_⟩
      simp only [List.cons_append, List.nil_append, scanHex4, hm]
    · cases h
  · cases h

theorem joinSurrogates_local (high low : Nat) : Local Anything (joinSurrogates high low) :=
  .ite (.pure _) (.error _)

theorem scanLowSurrogate_local (high : Nat) : Local Anything (scanLowSurrogate high) := by
  intro s n t h
  unfold scanLowSurrogate at h
  split at h
  · cases h
  · cases h
  · next w =>
    obtain ⟨c, rfl, hc⟩ := scanHex4_local.bind (joinSurrogates_local high) w n t h
    exact ⟨0x5C :: 0x75 :: c, rfl, hc⟩
  · cases h
  · cases h

theorem completeCodePoint_local (n : Nat) : Local Anything (completeCodePoint n) :=
  .ite (.error _) (.ite (scanLowSurrogate_local n) (.pure n))

theorem scanCodePoint_local : Local Anything scanCodePoint :=
  scanHex4_local.bind completeCodePoint_local

theorem scanEscape_local : Local Anything scanEscape := by
  intro s p t h
  unfold scanEscape at h
  split at h
  · cases h
  · have hchar : Local Anything _ :=
      scanCodePoint_local.map (fun n => String.utf8EncodeChar (Char.ofNat n)) fun _ _ _ => trivial
    exact hchar.cons h fun w => rfl
  · next letter w hu =>
    split at h
    · next b hb =>
      cases h
      refine ⟨[letter], rfl, fun u _ => ?_⟩
      rw [List.singleton_append, scanEscape]
      · rw [hb]
      · exact hu
    · cases h

theorem scanPiece_local : Local Anything scanPiece := by
  intro s p t h
  unfold scanPiece at h
  split at h
  · cases h
  · exact scanEscape_local.cons h fun w => rfl
  · next b w hslash =>
    split at h
    · cases h
    · next hlow =>
      cases h
      refine ⟨[b], rfl, fun u _ => ?_⟩
      rw [List.singleton_append, scanPiece]
      · rw [if_neg hlow]
      · exact hslash

/-- As many pieces may be read as the part of the text that they take has bytes. -/
theorem scanPieces_local {n : Nat} {s t p : List UInt8} (h : scanPieces n s = .ok (p, t)) :
    ∃ c, s = c ++ t ∧ ∀ m u, c.length ≤ m → scanPieces m (c ++ u) = .ok (p, u) := by
  induction n generalizing s p with
  | zero => cases h
  | succ n ih =>
    by_cases hquote : s.head? = some 0x22
    · obtain ⟨w, rfl⟩ := List.head?_eq_some_iff.1 hquote
      rw [scanPieces_quote] at h
      cases h
      refine ⟨[0x22], rfl, fun m u hm => ?_⟩
      exact scanPieces_of_le (scanPieces_quote 0 u) hm
    · rw [scanPieces_eq n hquote] at h
      obtain ⟨⟨piece, w⟩, hpiece, h⟩ := Checks.bind_eq_ok_iff.1 h
      obtain ⟨⟨more, rest⟩, hmore, h⟩ := Checks.bind_eq_ok_iff.1 h
      cases h
      obtain ⟨c, rfl, hc⟩ := scanPiece_local s piece w hpiece
      obtain ⟨d, rfl, hd⟩ := ih hmore
      -- A piece is not empty, or it would be read from the empty text.
      cases c with
      | nil => cases hc [] trivial
      | cons b c =>
        refine ⟨b :: c ++ d, (List.append_assoc _ d _).symm, fun m u hm => ?_⟩
        simp only [List.length_append, List.length_cons] at hm
        have hlast := hd (m - 1) u (by omega)
        have hhead : (b :: c ++ (d ++ u)).head? ≠ some 0x22 := hquote
        obtain ⟨m, rfl⟩ : ∃ k, m = k + 1 := ⟨m - 1, by omega⟩
        rw [List.append_assoc]
        exact scanPieces_succ hhead (hc (d ++ u) trivial) hlast

theorem scanString_local : Local Anything scanString := by
  intro s x t h
  rw [scanString] at h
  obtain ⟨⟨content, w⟩, hpieces, h⟩ := Checks.bind_eq_ok_iff.1 h
  dsimp only at h
  split at h
  · next text htext =>
    cases h
    obtain ⟨c, rfl, hc⟩ := scanPieces_local hpieces
    refine ⟨c, rfl, fun u _ => ?_⟩
    have hlength : c.length ≤ (c ++ u).length := by simp
    refine Checks.bind_eq_ok_iff.2 ⟨(content, u), hc _ u hlength, ?_⟩
    dsimp only
    rw [htext]
    rfl
  · cases h

namespace Numeral

/-- Nothing follows that continues a numeral. -/
def Apart (_ : Number) (rest : List UInt8) : Prop := Ends rest

theorem finish_eq_ok_iff {number : Option Number} {s t : List UInt8} {n : Number} :
    finish number s = .ok (n, t) ↔ number = some n ∧ s = t := by
  cases number <;> simp [finish]

theorem exponentFrom_local {n : Nat} (hn : n ≤ maxExponent) (s : List UInt8) :
    ∃ c, s = c ++ (exponentFrom n s).2 ∧
      ∀ u, ((exponentFrom n s).1 ≤ maxExponent → Ends u) →
        exponentFrom n (c ++ u) = ((exponentFrom n s).1, u) := by
  induction s generalizing n with
  | nil =>
    refine ⟨[], rfl, fun u hu => ?_⟩
    cases u with
    | nil => rfl
    | cons b u => simp [exponentFrom, (hu hn b rfl).1]
  | cons b s ih =>
    by_cases hb : isDigit b = true
    · by_cases hle : 10 * n + digit b ≤ maxExponent
      · obtain ⟨c, hs, hc⟩ := ih hle
        have hstep : ∀ w, exponentFrom n (b :: w) = exponentFrom (10 * n + digit b) w := fun w => by
          rw [exponentFrom, if_pos hb, if_pos hle]
        rw [hstep]
        exact ⟨b :: c, congrArg (b :: ·) hs, fun u hu => (hstep (c ++ u)).trans (hc u hu)⟩
      · have hstop : ∀ w, exponentFrom n (b :: w) = (10 * n + digit b, w) := fun w => by
          rw [exponentFrom, if_pos hb, if_neg hle]
        rw [hstop]
        exact ⟨[b], rfl, fun u _ => hstop u⟩
    · have hend : exponentFrom n (b :: s) = (n, b :: s) := by rw [exponentFrom, if_neg hb]
      rw [hend]
      refine ⟨[], rfl, fun u hu => ?_⟩
      cases u with
      | nil => rfl
      | cons b u => simp [exponentFrom, (hu hn b rfl).1]

theorem exists_digits (s : List UInt8) :
    ∃ ds rest, s = ds ++ rest ∧ (∀ b ∈ ds, isDigit b = true) ∧ NoDigit rest := by
  refine ⟨s.takeWhile isDigit, s.dropWhile isDigit, List.takeWhile_append_dropWhile.symm,
    List.all_eq_true.1 List.all_takeWhile, fun b hb => ?_⟩
  have hhead := List.head?_dropWhile_not isDigit s
  rwa [Option.mem_def.1 hb] at hhead

section Exponent

variable (negative : Bool) (significand : Nat) (exponent : Int)

def scanExponentDigits (below : Bool) : Scanner Number
  | [] => .error { kind := .endInValue, rest := [] }
  | b :: s =>
    if isDigit b then
      let (n, s) := exponentFrom (digit b) s
      if n ≤ maxExponent then
        finish (toFloat? negative significand (if below then exponent - n else exponent + n)) s
      else if significand ≠ 0 ∧ ¬ below then .error { kind := .numberOutOfRange, rest := s }
      else finish (toFloat? negative 0 0) (s.dropWhile isDigit)
    else .error { kind := .invalidNumber, rest := s }

theorem scanExponent_eq {b : UInt8} (hplus : b ≠ 0x2B) (hminus : b ≠ 0x2D) (s : List UInt8) :
    scanExponent negative significand exponent (b :: s) =
      scanExponentDigits negative significand exponent false (b :: s) := by
  unfold scanExponent
  split
  next below t heq =>
  split at heq
  · next hs => exact absurd (List.cons.inj hs).1 hplus
  · next hs => exact absurd (List.cons.inj hs).1 hminus
  · cases heq
    rfl

theorem scanExponentDigits_local (below : Bool) :
    Local Apart (scanExponentDigits negative significand exponent below) := by
  intro s x t h
  cases s with
  | nil => cases h
  | cons b s =>
    rw [scanExponentDigits] at h
    split at h
    · next hb =>
      have hle : digit b ≤ maxExponent := by
        have := b.toNat_lt
        simp only [digit, maxExponent]
        omega
      obtain ⟨c, hs, hc⟩ := exponentFrom_local hle s
      dsimp only at h
      split at h
      · next hn =>
        obtain ⟨hnumber, rfl⟩ := finish_eq_ok_iff.1 h
        refine ⟨b :: c, congrArg (b :: ·) hs, fun u hu => ?_⟩
        rw [List.cons_append, scanExponentDigits, if_pos hb, hc u fun _ => hu]
        dsimp only
        rw [if_pos hn]
        exact finish_eq_ok_iff.2 ⟨hnumber, rfl⟩
      · next hn =>
        split at h
        · cases h
        · next hrange =>
          -- The digits that are left after the overflow belong to the numeral as well.
          obtain ⟨ds, rest, hleft, hds, hrest⟩ := exists_digits (exponentFrom (digit b) s).2
          have hdrop {w : List UInt8} (hw : NoDigit w) : (ds ++ w).dropWhile isDigit = w :=
            congrArg Prod.snd (digits_append hds hw)
          obtain ⟨hnumber, ht⟩ := finish_eq_ok_iff.1 h
          rw [hleft, hdrop hrest] at ht
          subst ht
          rw [hleft] at hs
          refine ⟨b :: (c ++ ds), by rw [hs]; simp, fun u hu => ?_⟩
          have hread := hc (ds ++ u) fun h => absurd h hn
          rw [List.cons_append, List.append_assoc, scanExponentDigits, if_pos hb, hread]
          dsimp only
          rw [if_neg hn, if_neg hrange, hdrop (noDigit_of_ends hu)]
          exact finish_eq_ok_iff.2 ⟨hnumber, rfl⟩
    · cases h

theorem scanExponent_local : Local Apart (scanExponent negative significand exponent) := by
  intro s x t h
  cases s with
  | nil => cases h
  | cons b s =>
    by_cases hplus : b = 0x2B
    · subst hplus
      exact (scanExponentDigits_local negative significand exponent false).cons h fun _ => rfl
    · by_cases hminus : b = 0x2D
      · subst hminus
        exact (scanExponentDigits_local negative significand exponent true).cons h fun _ => rfl
      · have heq := scanExponent_eq negative significand exponent hplus hminus
        rw [heq] at h
        obtain ⟨c, hs, hc⟩ := scanExponentDigits_local negative significand exponent false _ x t h
        cases c with
        | nil => cases hc [] ends_nil
        | cons b' c =>
          obtain rfl := (List.cons.inj hs).1
          exact ⟨b :: c, hs, fun u hu => (heq (c ++ u)).trans (hc u hu)⟩

end Exponent

/-- Digits are read up to the byte that tells whether and how the numeral goes on. -/
def continueWith (next : UInt8 → Option (Scanner Number)) (number : Option Number) : Scanner Number
  | [] => finish number []
  | b :: s =>
    match next b with
    | some scan => scan s
    | none => finish number (b :: s)

/-- Every way to go on is local, and a byte that continues no numeral gives none. -/
structure Continues (next : UInt8 → Option (Scanner Number)) : Prop where
  onLocal : ∀ b, ∀ scan ∈ next b, Local Apart scan
  elseEnds : ∀ b s, Ends (b :: s) → next b = none

theorem Continues.exponent {scan : Scanner Number} (h : Local Apart scan) :
    Continues fun b => if isExponentMark b then some scan else none where
  onLocal b scan' hscan := by
    split at hscan
    · exact Option.some.inj hscan ▸ h
    · cases hscan
  elseEnds b s hends := if_neg (by simp [(hends b rfl).2.2])

theorem Continues.point {next : UInt8 → Option (Scanner Number)} (hnext : Continues next)
    {scan : Scanner Number} (h : Local Apart scan) :
    Continues fun b => if b = 0x2E then some scan else next b where
  onLocal b scan' hscan := by
    split at hscan
    · exact Option.some.inj hscan ▸ h
    · exact hnext.onLocal b scan' hscan
  elseEnds b s hends := (if_neg (hends b rfl).2.1).trans (hnext.elseEnds b s hends)

section Continues

variable {next : UInt8 → Option (Scanner Number)}

theorem continueWith_ite {p : UInt8 → Prop} [DecidablePred p] (scan : Scanner Number)
    (number : Option Number) (b : UInt8) (s : List UInt8) :
    continueWith (fun b => if p b then some scan else next b) number (b :: s) =
      if p b then scan s else continueWith next number (b :: s) := by
  by_cases hb : p b
  · simp only [continueWith, if_pos hb]
  · simp only [continueWith, if_neg hb]

theorem continueWith_of_ends (h : Continues next) (number : Option Number) {s : List UInt8}
    (hs : Ends s) : continueWith next number s = finish number s := by
  cases s with
  | nil => rfl
  | cons b s => rw [continueWith, h.elseEnds b s hs]

/-- A numeral may end where no way to go on begins, so what follows must not begin one. -/
theorem continueWith_local (h : Continues next) (number : Option Number) :
    Local Apart (continueWith next number) := by
  have hfinish {s t : List UInt8} {x : Number} (hs : finish number s = .ok (x, t)) :
      ∃ c, s = c ++ t ∧ ∀ u, Apart x u → continueWith next number (c ++ u) = .ok (x, u) := by
    obtain ⟨hnumber, rfl⟩ := finish_eq_ok_iff.1 hs
    exact ⟨[], rfl, fun u hu =>
      (continueWith_of_ends h number hu).trans (finish_eq_ok_iff.2 ⟨hnumber, rfl⟩)⟩
  intro s x t hs
  cases s with
  | nil => exact hfinish hs
  | cons b s =>
    rw [continueWith] at hs
    split at hs
    · next scan hscan =>
      refine (h.onLocal b scan hscan).cons hs fun w => ?_
      rw [continueWith, hscan]
    · exact hfinish hs

/-- A scanner is local if the digits at the beginning of a text tell whether and how it goes on. -/
theorem local_of_digits {scan : Scanner Number}
    (h : ∀ ds, (∀ b ∈ ds, isDigit b = true) →
      (∀ rest r, NoDigit rest → scan (ds ++ rest) ≠ .ok r) ∨
      ∃ next number, Continues next ∧
        ∀ rest, NoDigit rest → scan (ds ++ rest) = continueWith next number rest) :
    Local Apart scan := by
  intro s x t hs
  obtain ⟨ds, rest, rfl, hds, hrest⟩ := exists_digits s
  rcases h ds hds with hfails | ⟨next, number, hnext, hgoes⟩
  · exact absurd hs (hfails rest _ hrest)
  · rw [hgoes rest hrest] at hs
    obtain ⟨c, rfl, hc⟩ := continueWith_local hnext number rest x t hs
    refine ⟨ds ++ c, (List.append_assoc ds c t).symm, fun u hu => ?_⟩
    have hnodigit : NoDigit (c ++ u) := by
      cases c with
      | nil => exact noDigit_of_ends hu
      | cons b c => exact hrest
    rw [List.append_assoc, hgoes (c ++ u) hnodigit, hc u hu]

end Continues

theorem scanFraction_local (negative : Bool) (significand : Nat) (exponent : Int) :
    Local Apart (scanFraction negative significand exponent) := by
  refine local_of_digits fun ds hds => ?_
  cases ds with
  | nil =>
    refine .inl fun rest r hrest h => ?_
    rw [scanFraction, digits_append hds hrest] at h
    cases h
  | cons d ds =>
    let absorbed := absorb significand ((d :: ds).map digit)
    let scale := exponent - (((d :: ds).map digit).length - absorbed.2.length : Nat)
    refine .inr ⟨_, toFloat? negative absorbed.1 scale,
      .exponent (scanExponent_local negative absorbed.1 scale), fun rest hrest => ?_⟩
    rw [scanFraction, digits_append hds hrest]
    cases rest with
    | nil => rfl
    | cons b rest =>
      rw [continueWith_ite]
      rfl

theorem scan_local (negative : Bool) : Local Apart (scan negative) := by
  refine local_of_digits fun ds hds => ?_
  cases ds with
  | nil =>
    refine .inl fun rest r hrest h => ?_
    cases rest with
    | nil => cases h
    | cons b rest =>
      rw [List.nil_append, scan, if_pos (by simp [hrest b rfl])] at h
      cases h
  | cons d ds =>
    have hd : ¬ ¬ isDigit d = true := not_not_intro (hds d List.mem_cons_self)
    have hmore {rest : List UInt8} (hrest : NoDigit rest) :
        (ds ++ rest).head?.any isDigit = true ↔ ds ≠ [] := by
      cases ds with
      | nil =>
        cases rest with
        | nil => simp
        | cons b rest => simp [hrest b rfl]
      | cons e ds => simp [hds e (by simp)]
    -- A zero is followed by no further digit of its numeral.
    by_cases hzero : d = 0x30 ∧ ds ≠ []
    · refine .inl fun rest r hrest h => ?_
      rw [List.cons_append, scan, if_neg hd, if_pos (by rwa [hmore hrest])] at h
      cases h
    · let absorbed := absorb 0 ((d :: ds).map digit)
      let whole := if absorbed.2.isEmpty then ofInteger? negative absorbed.1
        else toFloat? negative absorbed.1 absorbed.2.length
      refine .inr ⟨_, whole,
        .point (.exponent (scanExponent_local negative absorbed.1 absorbed.2.length))
          (scanFraction_local negative absorbed.1 absorbed.2.length), fun rest hrest => ?_⟩
      rw [List.cons_append, scan, if_neg hd, if_neg (by rwa [hmore hrest]), ← List.cons_append,
        digits_append hds hrest]
      cases rest with
      | nil => rfl
      | cons b rest =>
        rw [continueWith_ite, continueWith_ite]
        rfl

end Numeral

end StepUp.Json
