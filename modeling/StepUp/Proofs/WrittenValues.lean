import StepUp.Proofs.ScannedValues
import StepUp.Proofs.WrittenNumerals
import StepUp.Proofs.WrittenStrings

/-!
# Reading written values

What is written for a readable value is read as this value, in both styles, after any white space
and before anything that may follow a value. The induction is on the number of arrays and objects
that may still be opened. Lists and objects are written alike, as items with commas between them,
and are read by one law about such texts (`ItemText`, `Encloses.reads_cons`).
-/

namespace StepUp.Json

open Text (Utf8.encode)

def Blank (s : List UInt8) : Prop := ∀ b ∈ s, isSpace b = true

theorem blank_nil : Blank [] := nofun

theorem skipSpace_append {blank : List UInt8} (h : Blank blank) (s : List UInt8) :
    skipSpace (blank ++ s) = skipSpace s :=
  List.dropWhile_append_of_pos h

theorem skipSpace_cons {b : UInt8} (h : isSpace b = false) (s : List UInt8) :
    skipSpace (b :: s) = b :: s := by
  simp [skipSpace, h]

theorem skipSpace_append_cons {blank : List UInt8} (h : Blank blank) {b : UInt8}
    (hb : isSpace b = false) (s : List UInt8) : skipSpace (blank ++ b :: s) = b :: s := by
  rw [skipSpace_append h, skipSpace_cons hb]

theorem blank_newline (style : Style) (depth : Nat) : Blank (Utf8.encode (style.newline depth)) := by
  have hspaces : ∀ n, Utf8.encode (List.replicate n ' ') = List.replicate n 0x20 := by
    intro n
    induction n with
    | zero => rfl
    | succ n ih =>
      rw [List.replicate_succ, Text.Utf8.encode_cons, ih]
      rfl
  cases style with
  | compact => exact blank_nil
  | pretty =>
    intro b hb
    rw [Style.newline, Text.Utf8.encode_cons, hspaces] at hb
    rcases List.mem_append.1 hb with hb | hb
    · have hb' : b = 0x0A := List.mem_singleton.1 hb
      rw [hb']
      rfl
    · obtain rfl := (List.mem_replicate.1 hb).2
      rfl

theorem ends_cons {b : UInt8} (h : Numeral.isDigit b = false ∧ b ≠ 0x2E ∧
    Numeral.isExponentMark b = false) (s : List UInt8) : Ends (b :: s) := by
  intro b' hb'
  obtain rfl : b = b' := by simpa using hb'
  exact h

theorem Blank.ends {s : List UInt8} (h : Blank s) : Ends s := by
  intro b hb
  have hspace := h b (List.mem_of_mem_head? hb)
  simp only [isSpace, Bool.or_eq_true, beq_iff_eq] at hspace
  rcases hspace with ((rfl | rfl) | rfl) | rfl <;> decide

theorem Blank.ends_append {blank s : List UInt8} (h : Blank blank) (hs : Ends s) :
    Ends (blank ++ s) := by
  cases blank with
  | nil => exact hs
  | cons b blank => exact fun c hc => h.ends c hc

/-- The text of a value is read as the value, wherever a value may stand. -/
def ReadsAs {α : Type} (scan : Scanner α) (text : List UInt8) (x : α) : Prop :=
  ∀ blank rest, Blank blank → Ends rest → scan (blank ++ (text ++ rest)) = .ok (x, rest)

theorem readsAs_literal (inner : Option (Scanner Json)) {text : List UInt8} {v : Json}
    (h : (text = [0x6E, 0x75, 0x6C, 0x6C] ∧ v = .null) ∨
      (text = [0x74, 0x72, 0x75, 0x65] ∧ v = .bool true) ∨
      (text = [0x66, 0x61, 0x6C, 0x73, 0x65] ∧ v = .bool false)) :
    ReadsAs (scanValueWith inner) text v := by
  intro blank rest hblank _
  rcases h with ⟨rfl, rfl⟩ | ⟨rfl, rfl⟩ | ⟨rfl, rfl⟩
  all_goals
    rw [scanValueWith, List.cons_append, skipSpace_append_cons hblank (by decide)]
    simp [scanLiteral]

theorem encode_renderString_append (s : String) (rest : List UInt8) :
    Utf8.encode (renderString s) ++ rest =
      0x22 :: (Utf8.encode (s.toList.flatMap escape) ++ 0x22 :: rest) := by
  rw [renderString, Text.Utf8.encode_cons, Text.Utf8.encode_append, List.append_assoc,
    List.append_assoc]
  rfl

theorem readsAs_string (inner : Option (Scanner Json)) (s : String) :
    ReadsAs (scanValueWith inner) (Utf8.encode (renderString s)) (.string s) := by
  intro blank rest hblank _
  rw [encode_renderString_append, scanValueWith, skipSpace_append_cons hblank (by decide)]
  simp [scanString_encode, bind, Except.bind, pure, Except.pure]

theorem scanValueWith_digit (inner : Option (Scanner Json)) {s t : List UInt8} {b : UInt8}
    (hs : skipSpace s = b :: t) (hb : Numeral.isDigit b = true) :
    scanValueWith inner s = Numeral.scan false (b :: t) >>= fun r => .ok (.number r.1, r.2) := by
  have hne : ∀ c : UInt8, Numeral.isDigit c = false → b ≠ c := by
    rintro c hc rfl
    exact nomatch hb.symm.trans hc
  rw [scanValueWith, hs]
  have h₁ := hne 0x6E (by decide)
  have h₂ := hne 0x74 (by decide)
  have h₃ := hne 0x66 (by decide)
  have h₄ := hne 0x22 (by decide)
  have h₅ := hne 0x5B (by decide)
  have h₆ := hne 0x7B (by decide)
  have h₇ := hne 0x2D (by decide)
  simp only [hb, if_true]
  rfl

theorem readsAs_integer (inner : Option (Scanner Json)) {n : Int} (h : InWordRange n) :
    ReadsAs (scanValueWith inner) (Utf8.encode (renderInteger n)) (.number (.integer n h)) := by
  intro blank rest hblank hrest
  have hscan := Numeral.scan_natAbs h hrest
  by_cases hneg : n < 0
  · have htext : Utf8.encode (renderInteger n) =
        0x2D :: Utf8.encode (Nat.toDigits 10 n.natAbs) := by
      rw [renderInteger, if_pos hneg]
      rfl
    rw [decide_eq_true hneg] at hscan
    rw [htext, List.cons_append, scanValueWith, skipSpace_append_cons hblank (by decide)]
    simp [hscan, bind, Except.bind, pure, Except.pure]
  · rw [decide_eq_false hneg] at hscan
    rw [renderInteger, if_neg hneg]
    cases hds : Nat.toDigits 10 n.natAbs with
    | nil => exact absurd hds Nat.toDigits_ne_nil
    | cons c cs =>
      have hc := Numeral.isDigit_of_mem (hds ▸ List.mem_cons_self : c ∈ Nat.toDigits 10 n.natAbs)
      have hbyte := Numeral.isDigit_ofNat hc
      have hspace : isSpace (UInt8.ofNat c.toNat) = false := by
        cases hsp : isSpace (UInt8.ofNat c.toNat) with
        | false => rfl
        | true =>
          simp only [isSpace, Bool.or_eq_true, beq_iff_eq] at hsp
          rcases hsp with ((hsp | hsp) | hsp) | hsp <;> rw [hsp] at hbyte <;> cases hbyte
      rw [hds, Text.Utf8.encode_cons, Text.Utf8.encodeChar_of_lt
        (by have := (Numeral.digit_bounds hc).2; omega), List.singleton_append,
        List.cons_append] at hscan
      rw [Text.Utf8.encode_cons, Text.Utf8.encodeChar_of_lt
        (by have := (Numeral.digit_bounds hc).2; omega), List.singleton_append, List.cons_append,
        scanValueWith_digit inner (skipSpace_append_cons hblank hspace _) hbyte, hscan]
      rfl

theorem skipSpace_skipSpace (s : List UInt8) : skipSpace (skipSpace s) = skipSpace s := by
  induction s with
  | nil => rfl
  | cons b s ih =>
    cases h : isSpace b with
    | false => rw [skipSpace_cons h, skipSpace_cons h]
    | true =>
      have hdrop : skipSpace (b :: s) = skipSpace s := by simp [skipSpace, h]
      rw [hdrop, ih]

theorem scanValueWith_skipSpace (inner : Option (Scanner Json)) (s : List UInt8) :
    scanValueWith inner (skipSpace s) = scanValueWith inner s := by
  rw [scanValueWith, scanValueWith, skipSpace_skipSpace]

/-- What comes after the first byte that is no white space is not touched. -/
theorem skipSpace_append_of_cons {s t : List UInt8} {b : UInt8} (h : skipSpace s = b :: t)
    (rest : List UInt8) : skipSpace (s ++ rest) = skipSpace s ++ rest := by
  have hdrop : s.dropWhile isSpace = b :: t := h
  rw [skipSpace, skipSpace, List.dropWhile_append, hdrop]
  rfl

/-- A value begins neither with the end of a text nor with a bracket that closes a list. -/
theorem exists_head_of_scanValueWith {inner : Option (Scanner Json)} {s : List UInt8}
    {r : Json × List UInt8} (h : scanValueWith inner s = .ok r) :
    ∃ b t, skipSpace s = b :: t ∧ b ≠ 0x5D := by
  rw [scanValueWith] at h
  cases hs : skipSpace s with
  | nil =>
    rw [hs] at h
    cases h
  | cons b t =>
    refine ⟨b, t, rfl, ?_⟩
    rintro rfl
    rw [hs] at h
    cases h

/-- A byte that closes a list or an object is no white space and continues no number. -/
structure Closes (close : UInt8) : Prop where
  notSpace : isSpace close = false
  ends : ∀ s, Ends (close :: s)

theorem closes_bracket : Closes 0x5D := ⟨by decide, ends_cons (by decide)⟩

theorem closes_brace : Closes 0x7D := ⟨by decide, ends_cons (by decide)⟩

section Sequences

variable {ε α β : Type} {item : List UInt8 → Except ε (α × List UInt8)}
  {scan : Nat → List UInt8 → Except ε (List α × List UInt8)}
  {whole : List UInt8 → Except ε (β × List UInt8)} {close : UInt8} {make : List α → β}
  {text : α → List UInt8} {first gap last rest : List UInt8} {x : α} {xs : List α}

/-- A text that does not begin like the end of the sequence and is read as an item of it. -/
structure ItemText (close : UInt8) (item : List UInt8 → Except ε (α × List UInt8))
    (text : List UInt8) (x : α) : Prop where
  begins : ∃ b t, skipSpace text = b :: t ∧ b ≠ close
  reads : ∀ rest, Ends rest → item (skipSpace text ++ rest) = .ok (x, rest)

/-- The texts of some items, each after a comma and a gap. -/
def separated (gap : List UInt8) (text : α → List UInt8) (xs : List α) : List UInt8 :=
  xs.flatMap fun x => 0x2C :: (gap ++ text x)

theorem separated_cons_append (gap : List UInt8) (text : α → List UInt8) (x : α) (xs : List α)
    (rest : List UInt8) : separated gap text (x :: xs) ++ rest =
      0x2C :: (gap ++ (text x ++ (separated gap text xs ++ rest))) := by
  simp [separated]

theorem length_le_separated (gap : List UInt8) (text : α → List UInt8) (xs : List α) :
    xs.length ≤ (separated gap text xs).length := by
  induction xs with
  | nil => exact Nat.zero_le _
  | cons x xs ih =>
    simp only [separated, List.flatMap_cons, List.length_append, List.length_cons] at ih ⊢
    omega

theorem ends_separated (gap : List UInt8) (text : α → List UInt8) (xs : List α)
    (h : Ends rest) : Ends (separated gap text xs ++ rest) := by
  cases xs with
  | nil => exact h
  | cons x xs => exact ends_cons (by decide) _

theorem ItemText.skipSpace_append (h : ItemText close item (text x) x) (hgap : Blank gap)
    (rest : List UInt8) : skipSpace (gap ++ (text x ++ rest)) = skipSpace (text x) ++ rest := by
  obtain ⟨b, t, hbt, -⟩ := h.begins
  rw [Json.skipSpace_append hgap, skipSpace_append_of_cons hbt]

theorem ItemText.exists_cons (h : ItemText close item (text x) x) (rest : List UInt8) :
    ∃ b t, skipSpace (text x) ++ rest = b :: t ∧ b ≠ close := by
  obtain ⟨b, t, hbt, hb⟩ := h.begins
  exact ⟨b, t ++ rest, by rw [hbt, List.cons_append], hb⟩

/-- Written items are read from the first of them up to the closing byte. -/
theorem ReadsItems.reads_separated (h : ReadsItems close item scan) (hclose : Closes close)
    (hgap : Blank gap) (hlast : Blank last) {n : Nat} (hn : xs.length < n)
    (hitem : ∀ y ∈ x :: xs, ItemText close item (text y) y) :
    scan n (skipSpace (text x) ++ (separated gap text xs ++ (last ++ close :: rest))) =
      .ok (x :: xs, rest) := by
  have hends : Ends (last ++ close :: rest) := hlast.ends_append (hclose.ends rest)
  -- The white space before an item is skipped behind the comma, so the item stands first here.
  induction xs generalizing x n with
  | nil =>
    obtain ⟨n, rfl⟩ : ∃ m, n = m + 1 := ⟨n - 1, by omega⟩
    have hx := (hitem x List.mem_cons_self).reads _ hends
    exact (h.succ n _ _ _).2 ⟨x, _, hx, .inl ⟨skipSpace_append_cons hlast hclose.notSpace rest, rfl⟩⟩
  | cons y ys ih =>
    obtain ⟨n, rfl⟩ : ∃ m, n = m + 1 := ⟨n - 1, by omega⟩
    have hx := (hitem x List.mem_cons_self).reads _ (ends_separated gap text (y :: ys) hends)
    have hy := hitem y (List.mem_cons_of_mem x List.mem_cons_self)
    have hmore := ih (Nat.lt_of_succ_lt_succ hn) fun z hz => hitem z (List.mem_cons_of_mem x hz)
    obtain ⟨b, t, hbt, hb⟩ := hy.exists_cons (separated gap text ys ++ (last ++ close :: rest))
    rw [separated_cons_append] at hx ⊢
    refine (h.succ n _ _ _).2 ⟨x, _, hx, .inr ⟨_, y :: ys, skipSpace_cons (by decide) _, ?_, ?_, rfl⟩⟩
    · rw [hy.skipSpace_append hgap, hbt]
      exact fun heq => hb (Option.some.inj heq)
    · rw [hy.skipSpace_append hgap]
      exact hmore

theorem Encloses.reads_nil (h : Encloses close item scan make whole) (hclose : Closes close)
    (rest : List UInt8) : whole (close :: rest) = .ok (make [], rest) :=
  (h.whole_iff _ _ _).2 (.inl ⟨skipSpace_cons hclose.notSpace rest, rfl⟩)

/-- Behind the opening byte the items are read and what is made of them is given. -/
theorem Encloses.reads_cons (h : Encloses close item scan make whole) (hclose : Closes close)
    (hfirst : Blank first) (hgap : Blank gap) (hlast : Blank last)
    (hitem : ∀ y ∈ x :: xs, ItemText close item (text y) y) (rest : List UInt8) :
    whole (first ++ (text x ++ (separated gap text xs ++ (last ++ close :: rest)))) =
      .ok (make (x :: xs), rest) := by
  have hx := hitem x List.mem_cons_self
  obtain ⟨b, t, hbt, hb⟩ := hx.exists_cons (separated gap text xs ++ (last ++ close :: rest))
  have hskip := hx.skipSpace_append hfirst (separated gap text xs ++ (last ++ close :: rest))
  have hn : xs.length < (skipSpace (text x) ++
      (separated gap text xs ++ (last ++ close :: rest))).length := by
    have hle := length_le_separated gap text xs
    simp only [List.length_append, List.length_cons]
    omega
  refine (h.whole_iff _ _ _).2 (.inr ⟨b, t, x :: xs, hskip.trans hbt, hb, ?_, rfl⟩)
  rw [hskip]
  exact h.reads_separated hclose hgap hlast hn hitem

end Sequences

section Values

variable {style : Style} {depth : Nat} {inner : Option (Scanner Json)}

theorem ReadsAs.itemText {text : List UInt8} {v : Json} (h : ReadsAs (scanValueWith inner) text v) :
    ItemText 0x5D (scanValueWith inner) text v := by
  obtain ⟨b, t, hbt, hb⟩ := exists_head_of_scanValueWith (h [] [] blank_nil ends_nil)
  rw [List.nil_append, List.append_nil] at hbt
  refine ⟨⟨b, t, hbt, hb⟩, fun rest hrest => ?_⟩
  rw [← skipSpace_append_of_cons hbt, scanValueWith_skipSpace]
  exact h [] rest blank_nil hrest

def memberText (style : Style) (depth : Nat) (m : String × Json) : List UInt8 :=
  Utf8.encode (renderString m.1) ++
    (Utf8.encode style.colon ++ Utf8.encode (renderAt style depth m.2))

/-- A member begins with the quote of its key, so it is never taken for the end of the object. -/
theorem itemText_memberText {value : Scanner Json} {m : String × Json}
    (h : ReadsAs value (Utf8.encode (renderAt style depth m.2)) m.2) :
    ItemText 0x7D (scanMember value) (memberText style depth m) m := by
  obtain ⟨blank, hblank, hcolon⟩ : ∃ blank, Blank blank ∧
      Utf8.encode style.colon = 0x3A :: blank := by
    cases style with
    | compact => exact ⟨[], blank_nil, rfl⟩
    | pretty => exact ⟨[0x20], fun b hb => List.mem_singleton.1 hb ▸ rfl, rfl⟩
  have htext := encode_renderString_append m.1
    (Utf8.encode style.colon ++ Utf8.encode (renderAt style depth m.2))
  have hskip : skipSpace (memberText style depth m) = memberText style depth m := by
    rw [memberText, htext, skipSpace_cons (by decide)]
  refine ⟨⟨0x22, _, hskip.trans htext, by decide⟩, fun rest hrest => ?_⟩
  rw [hskip, memberText, htext, hcolon]
  simp only [List.cons_append, List.append_assoc]
  exact scanMember_eq_ok_iff.2 ⟨_, _, _, rfl, scanString_encode m.1 _,
    skipSpace_cons (by decide) _, h blank rest hblank hrest⟩

theorem encode_renderItems (style : Style) (depth : Nat) (vs : List Json) :
    Utf8.encode (renderItems style depth vs) = separated (Utf8.encode (style.newline depth))
      (fun v => Utf8.encode (renderAt style depth v)) vs := by
  induction vs with
  | nil => rfl
  | cons v vs ih =>
    rw [renderItems, Text.Utf8.encode_cons, Text.Utf8.encode_append, Text.Utf8.encode_append, ih]
    rfl

theorem encode_renderMembers (style : Style) (depth : Nat) (ms : List (String × Json)) :
    Utf8.encode (renderMembers style depth ms) =
      separated (Utf8.encode (style.newline depth)) (memberText style depth) ms := by
  have hcomma : String.utf8EncodeChar ',' = [0x2C] := rfl
  induction ms with
  | nil => rfl
  | cons m ms ih =>
    simp only [renderMembers, Text.Utf8.encode_cons, Text.Utf8.encode_append, hcomma, ih,
      separated, List.flatMap_cons, memberText, List.append_assoc, List.nil_append,
      List.cons_append]

theorem readsAs_array {vs : List Json}
    (hitem : ∀ v ∈ vs, ReadsAs (scanValueWith inner)
      (Utf8.encode (renderAt style (depth + 1) v)) v) :
    ReadsAs (scanValueWith (some (scanValueWith inner)))
      (Utf8.encode (renderAt style depth (.array vs))) (.array vs) := by
  intro blank rest hblank _
  have hlist := scanList_encloses id (scanValueWith inner)
  cases vs with
  | nil =>
    have htext : Utf8.encode (renderAt style depth (.array [])) = [0x5B, 0x5D] := by
      simp only [renderAt]
      rfl
    rw [htext]
    exact scanValueWith_array_iff.2 ⟨_, skipSpace_append_cons hblank (by decide) _,
      hlist.reads_nil closes_bracket rest⟩
  | cons v vs =>
    have htext : Utf8.encode (renderAt style depth (.array (v :: vs))) ++ rest =
        0x5B :: (Utf8.encode (style.newline (depth + 1)) ++
          (Utf8.encode (renderAt style (depth + 1) v) ++
            (Utf8.encode (renderItems style (depth + 1) vs) ++
              (Utf8.encode (style.newline depth) ++ 0x5D :: rest)))) := by
      simp only [renderAt, Text.Utf8.encode_cons, Text.Utf8.encode_append, List.append_assoc]
      rfl
    have hopen := blank_newline style (depth + 1)
    rw [htext, encode_renderItems]
    exact scanValueWith_array_iff.2 ⟨_, skipSpace_append_cons hblank (by decide) _,
      hlist.reads_cons closes_bracket hopen hopen (blank_newline style depth)
        (fun w hw => (hitem w hw).itemText) rest⟩

theorem scanValueWith_object {value : Scanner Json} {s t u : List UInt8} {o : Object}
    (hs : skipSpace s = 0x7B :: u) (ho : scanObject value u = .ok (o, t)) :
    scanValueWith (some value) s = .ok (.object o.members, t) := by
  rw [scanValueWith, hs]
  exact Checks.bind_eq_ok_iff.2 ⟨(o, t), ho, rfl⟩

theorem readsAs_object {ms : List (String × Json)} (hasc : ms.Pairwise (·.1 < ·.1))
    (hvalue : ∀ m ∈ ms, ReadsAs (scanValueWith inner)
      (Utf8.encode (renderAt style (depth + 1) m.2)) m.2) :
    ReadsAs (scanValueWith (some (scanValueWith inner)))
      (Utf8.encode (renderAt style depth (.object ms))) (.object ms) := by
  intro blank rest hblank _
  have hobject := scanObject_encloses (scanValueWith inner)
  cases ms with
  | nil =>
    have htext : Utf8.encode (renderAt style depth (.object [])) = [0x7B, 0x7D] := by
      simp only [renderAt]
      rfl
    rw [htext]
    exact scanValueWith_object (skipSpace_append_cons hblank (by decide) _)
      (hobject.reads_nil closes_brace rest)
  | cons m ms =>
    have htext : Utf8.encode (renderAt style depth (.object (m :: ms))) ++ rest =
        0x7B :: (Utf8.encode (style.newline (depth + 1)) ++ (memberText style (depth + 1) m ++
          (Utf8.encode (renderMembers style (depth + 1) ms) ++
            (Utf8.encode (style.newline depth) ++ 0x7D :: rest)))) := by
      simp only [renderAt, Text.Utf8.encode_cons, Text.Utf8.encode_append, memberText,
        List.append_assoc]
      rfl
    have hopen := blank_newline style (depth + 1)
    have hordered : Object.ofMembers (m :: ms) = ⟨m :: ms, hasc⟩ :=
      Object.ofMembers_members ⟨_, hasc⟩
    rw [htext, encode_renderMembers]
    have hmembers := hobject.reads_cons closes_brace hopen hopen (blank_newline style depth)
      (fun x hx => itemText_memberText (hvalue x hx)) rest
    rw [hordered] at hmembers
    exact scanValueWith_object (skipSpace_append_cons hblank (by decide) _) hmembers

end Values

theorem scanValue_eq (n : Nat) : ∃ inner, scanValue n = scanValueWith inner := by
  cases n with
  | zero => exact ⟨none, rfl⟩
  | succ n => exact ⟨some (scanValue n), rfl⟩

theorem readsAs_scalar (style : Style) (depth : Nat) (inner : Option (Scanner Json)) {v : Json}
    (hi : v.IntegersOnly) (hd : v.depth = 0) :
    ReadsAs (scanValueWith inner) (Utf8.encode (renderAt style depth v)) v := by
  cases v with
  | null =>
    rw [renderAt]
    exact readsAs_literal inner (.inl ⟨rfl, rfl⟩)
  | bool b =>
    cases b with
    | true =>
      rw [renderAt]
      exact readsAs_literal inner (.inr (.inl ⟨rfl, rfl⟩))
    | false =>
      rw [renderAt]
      exact readsAs_literal inner (.inr (.inr ⟨rfl, rfl⟩))
  | number x =>
    cases x with
    | integer n h =>
      rw [renderAt]
      exact readsAs_integer inner h
    | float x h => exact absurd hi id
  | string s =>
    rw [renderAt]
    exact readsAs_string inner s
  | array items => exact absurd hd (Nat.succ_ne_zero _)
  | object members => exact absurd hd (Nat.succ_ne_zero _)

/-- The text of a readable value is read as this value. -/
theorem readsAs_render (style : Style) {n : Nat} {v : Json} (h : Readable n v) (depth : Nat) :
    ReadsAs (scanValue n) (Utf8.encode (renderAt style depth v)) v := by
  -- Not on the value: what is inside an array is read by one scanner, that of the level below.
  induction n generalizing v depth with
  | zero => exact readsAs_scalar style depth none h.integersOnly (Nat.le_zero.1 h.shallow)
  | succ n ih =>
    obtain ⟨inner, hinner⟩ := scanValue_eq n
    rw [hinner] at ih
    rw [scanValue, hinner]
    cases v with
    | array items => exact readsAs_array fun v hv => ih (readable_array_iff.1 h v hv) (depth + 1)
    | object members =>
      have hordered := h.canonical.1
      have hmembers := (readable_object_iff hordered).1 h
      exact readsAs_object hordered fun m hm => ih (hmembers m hm) (depth + 1)
    | null | bool | number | string => exact readsAs_scalar style depth _ h.integersOnly rfl

theorem endOfText_blank {s : List UInt8} (h : Blank s) : endOfText s = .ok () := by
  have hskip : skipSpace s = [] := by
    have := skipSpace_append h []
    rwa [List.append_nil] at this
  rw [endOfText, hskip]

/-- A readable value is read as a whole text, with or without white space behind it. -/
theorem scanValue_render (style : Style) {v : Json} (h : Readable maxDepth v) {blank : List UInt8}
    (hblank : Blank blank) :
    scanValue maxDepth (Text.Utf8.bytes (v.render style) ++ blank) = .ok (v, blank) := by
  have hread := readsAs_render style h 0 [] blank blank_nil hblank.ends
  rw [render, Text.Utf8.bytes, String.toList_ofList]
  exact hread

theorem ofBytes_render (style : Style) {v : Json} (h : Readable maxDepth v) {blank : List UInt8}
    (hblank : Blank blank) : ofBytes (Text.Utf8.bytes (v.render style) ++ blank) = .ok v := by
  rw [ofBytes, scanValue_render style h hblank]
  simp only [bind, Except.bind, endOfText_blank hblank]
  rfl

end StepUp.Json
