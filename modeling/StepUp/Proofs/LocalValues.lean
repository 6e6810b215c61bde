import StepUp.Proofs.LocalTokens
import StepUp.Proofs.WrittenValues

/-!
# Values end where they end

A value that is read stands at the beginning of the text, and it is read in the same way whatever
comes after it, so long as nothing continues a number. Lists and objects are read item by item up to
their closing byte: the induction is on the number of items that may still be read, and then on the
number of arrays and objects that may still be opened.
-/

namespace StepUp.Json

/-- What may come after a value without becoming a part of it. -/
def MayFollow : Json → List UInt8 → Prop
  | .number _, rest => Ends rest
  | _, _ => True

theorem mayFollow_of_ends (v : Json) {rest : List UInt8} (h : Ends rest) : MayFollow v rest := by
  cases v with
  | number => exact h
  | null | bool | string | array | object => trivial

theorem exists_blank (s : List UInt8) : ∃ blank, Blank blank ∧ s = blank ++ skipSpace s :=
  ⟨s.takeWhile isSpace, List.all_eq_true.1 List.all_takeWhile,
    List.takeWhile_append_dropWhile.symm⟩

theorem isSpace_of_skipSpace {s t : List UInt8} {b : UInt8} (h : skipSpace s = b :: t) :
    isSpace b = false := by
  have hhead := List.head?_dropWhile_not isSpace s
  rw [← skipSpace, h] at hhead
  exact hhead

section Items

variable {ε α β : Type} {item : List UInt8 → Except ε (α × List UInt8)}
  {scan : Nat → List UInt8 → Except ε (List α × List UInt8)}
  {whole : List UInt8 → Except ε (β × List UInt8)} {close : UInt8} {make : List α → β}
  {follows : α → List UInt8 → Prop}

/-- As many items may be read as the part of the text that they take has bytes. -/
theorem ReadsItems.items_local (h : ReadsItems close item scan) (hclose : Closes close)
    (hitem : Local follows item) (hfollows : ∀ x u, Ends u → follows x u) {n : Nat}
    {s t : List UInt8} {xs : List α} (hs : scan n s = .ok (xs, t)) :
    ∃ c, s = c ++ t ∧ ∀ m u, c.length ≤ m → scan m (c ++ u) = .ok (xs, u) := by
  induction n generalizing s xs with
  | zero => exact absurd hs (h.zero s _)
  | succ n ih =>
    obtain ⟨x, u, hx, hmore⟩ := (h.succ n s xs t).1 hs
    obtain ⟨c, rfl, hc⟩ := hitem s x u hx
    obtain ⟨blank, hblank, hu⟩ := exists_blank u
    rcases hmore with ⟨hend, rfl⟩ | ⟨w, ys, hcomma, hhead, hys, rfl⟩
    · rw [hend] at hu
      subst hu
      refine ⟨c ++ (blank ++ [close]), by simp, fun m v hm => ?_⟩
      have hv : follows x (blank ++ close :: v) :=
        hfollows x _ (hblank.ends_append (hclose.ends v))
      simp only [List.length_append, List.length_singleton] at hm
      obtain ⟨m, rfl⟩ : ∃ k, m = k + 1 := ⟨m - 1, by omega⟩
      refine (h.succ m _ _ v).2 ⟨x, blank ++ close :: v, ?_, .inl ⟨?_, rfl⟩⟩
      · simpa using hc _ hv
      · exact skipSpace_append_cons hblank hclose.notSpace v
    · obtain ⟨d, hd, hread⟩ := ih hys
      obtain ⟨gap, hgap, hw⟩ := exists_blank w
      rw [hd] at hw hhead
      rw [hcomma, hw] at hu
      subst hu
      refine ⟨c ++ (blank ++ 0x2C :: (gap ++ d)), by simp, fun m v hm => ?_⟩
      have hv : follows x (blank ++ 0x2C :: (gap ++ (d ++ v))) :=
        hfollows x _ (hblank.ends_append (ends_cons (by decide) _))
      simp only [List.length_append, List.length_cons] at hm
      obtain ⟨m, rfl⟩ : ∃ k, m = k + 1 := ⟨m - 1, by omega⟩
      -- The items that come after the comma take some bytes, the first of them no white space.
      have hskip : skipSpace (gap ++ (d ++ v)) = d ++ v ∧ (d ++ v).head? ≠ some close := by
        cases d with
        | nil => exact absurd (hread 0 [] (Nat.le_refl 0)) (h.zero _ _)
        | cons b d =>
          exact ⟨skipSpace_append_cons hgap (isSpace_of_skipSpace hd) (d ++ v), hhead⟩
      refine (h.succ m _ _ v).2 ⟨x, blank ++ 0x2C :: (gap ++ (d ++ v)), ?_,
        .inr ⟨gap ++ (d ++ v), ys, ?_, ?_, ?_, rfl⟩⟩
      · simpa using hc _ hv
      · exact skipSpace_append_cons hblank (by decide) _
      · rw [hskip.1]
        exact hskip.2
      · rw [hskip.1]
        exact hread m v (by omega)

/-- Between its opening and its closing byte a sequence has no items or some. -/
theorem Encloses.whole_local (h : Encloses close item scan make whole) (hclose : Closes close)
    (hitem : Local follows item) (hfollows : ∀ x u, Ends u → follows x u) :
    Local Anything whole := by
  intro s y t hs
  obtain ⟨blank, hblank, hskip⟩ := exists_blank s
  rcases (h.whole_iff s y t).1 hs with ⟨hend, rfl⟩ | ⟨b, u, xs, hbu, hb, hxs, rfl⟩
  · rw [hend] at hskip
    subst hskip
    refine ⟨blank ++ [close], by simp, fun v _ => (h.whole_iff _ _ v).2 (.inl ⟨?_, rfl⟩)⟩
    rw [List.append_assoc]
    exact skipSpace_append_cons hblank hclose.notSpace v
  · obtain ⟨d, hd, hread⟩ := h.items_local hclose hitem hfollows hxs
    rw [hd] at hskip
    subst hskip
    refine ⟨blank ++ d, (List.append_assoc blank d t).symm, fun v _ => (h.whole_iff _ _ v).2 ?_⟩
    cases d with
    | nil => exact absurd (hread 0 [] (Nat.le_refl 0)) (h.zero _ _)
    | cons c d =>
      obtain rfl : c = b := (List.cons.inj (hd.symm.trans hbu)).1
      have hv : skipSpace (blank ++ c :: d ++ v) = c :: (d ++ v) := by
        rw [List.append_assoc]
        exact skipSpace_append_cons hblank (isSpace_of_skipSpace hbu) (d ++ v)
      refine .inr ⟨c, d ++ v, xs, hv, hb, ?_, rfl⟩
      rw [hv]
      exact hread _ v (by simp)

end Items

section Values

variable {value : Scanner Json}

theorem scanList_local (hvalue : Local MayFollow value) : Local Anything (scanList id value) :=
  (scanList_encloses id value).whole_local closes_bracket hvalue fun v _ => mayFollow_of_ends v

theorem scanMember_local (hvalue : Local MayFollow value) :
    Local (fun m => MayFollow m.2) (scanMember value) := by
  intro s m t h
  obtain ⟨w, u, z, rfl, hkey, hcolon, hv⟩ := scanMember_eq_ok_iff.1 h
  obtain ⟨c, rfl, hc⟩ := scanString_local w m.1 u hkey
  obtain ⟨blank, hblank, hu⟩ := exists_blank u
  obtain ⟨d, rfl, hd⟩ := hvalue z m.2 t hv
  rw [hcolon] at hu
  subst hu
  refine ⟨0x22 :: (c ++ (blank ++ 0x3A :: d)), by simp, fun v hfollow => ?_⟩
  refine scanMember_eq_ok_iff.2 ⟨_, blank ++ 0x3A :: (d ++ v), d ++ v, rfl, ?_, ?_, hd v hfollow⟩
  · simpa using hc (blank ++ 0x3A :: (d ++ v)) trivial
  · exact skipSpace_append_cons hblank (by decide) _

theorem scanObject_local (hvalue : Local MayFollow value) : Local Anything (scanObject value) :=
  (scanObject_encloses value).whole_local closes_brace (scanMember_local hvalue)
    fun m _ => mayFollow_of_ends m.2

end Values

section Nesting

variable {inner : Option (Scanner Json)}

theorem local_of_anything {scan : Scanner Json} (h : Local Anything scan) : Local MayFollow scan :=
  h.mono fun _ _ _ => trivial

/-- Behind the byte that tells what a value is, a local scanner reads it. -/
theorem local_of_opened {scan : Scanner Json} {s t w : List UInt8} {b : UInt8} {v : Json}
    (hs : skipSpace s = b :: w) (h : scan w = .ok (v, t)) (hscan : Local MayFollow scan)
    (hopen : ∀ w, scanValueWith inner (b :: w) = scan w) :
    ∃ c, s = c ++ t ∧ ∀ u, MayFollow v u → scanValueWith inner (c ++ u) = .ok (v, u) := by
  obtain ⟨blank, hblank, hskip⟩ := exists_blank s
  rw [hs, List.append_cons] at hskip
  subst hskip
  refine hscan.append (blank ++ [b]) h fun z => ?_
  rw [← List.append_cons, ← scanValueWith_skipSpace,
    skipSpace_append_cons hblank (isSpace_of_skipSpace hs), hopen]

theorem number_local (negative : Bool) : Local MayFollow fun s =>
    Numeral.scan negative s >>= fun r => (.ok (.number r.1, r.2) : Except Fault _) :=
  (Numeral.scan_local negative).map Json.number fun _ _ hu => hu

/-- A number without a sign begins with the byte that tells that it is one. -/
theorem local_of_digit {s t w : List UInt8} {b : UInt8} {v : Json} (hs : skipSpace s = b :: w)
    (hb : Numeral.isDigit b = true)
    (h : (Numeral.scan false (b :: w) >>= fun r => .ok (.number r.1, r.2)) = .ok (v, t)) :
    ∃ c, s = c ++ t ∧ ∀ u, MayFollow v u → scanValueWith inner (c ++ u) = .ok (v, u) := by
  obtain ⟨blank, hblank, hskip⟩ := exists_blank s
  obtain ⟨c, hc, hread⟩ := number_local false (b :: w) v t h
  cases c with
  | nil => cases hread [] (mayFollow_of_ends v ends_nil)
  | cons d c =>
    obtain rfl : b = d := (List.cons.inj hc).1
    rw [hs, hc] at hskip
    subst hskip
    refine ⟨blank ++ b :: c, (List.append_assoc blank _ t).symm, fun u hu => ?_⟩
    have hopen : skipSpace (blank ++ b :: c ++ u) = b :: (c ++ u) := by
      rw [List.append_assoc]
      exact skipSpace_append_cons hblank (isSpace_of_skipSpace hs) (c ++ u)
    rw [scanValueWith_digit inner hopen hb]
    exact hread u hu

theorem scanValueWith_local (hinner : ∀ value ∈ inner, Local MayFollow value) :
    Local MayFollow (scanValueWith inner) := by
  have hliteral (value : Json) (letters : List UInt8) :=
    local_of_anything (scanLiteral_local value letters)
  have hstring := local_of_anything (scanString_local.map Json.string fun _ _ h => h)
  intro s v t h
  unfold scanValueWith at h
  split at h
  · cases h
  · next hs => exact local_of_opened hs h (hliteral _ _) fun _ => rfl
  · next hs => exact local_of_opened hs h (hliteral _ _) fun _ => rfl
  · next hs => exact local_of_opened hs h (hliteral _ _) fun _ => rfl
  · next hs => exact local_of_opened hs h hstring fun _ => rfl
  · next hs =>
    cases inner with
    | none => cases h
    | some value =>
      have hlist := local_of_anything
        ((scanList_local (hinner value rfl)).map Json.array fun _ _ h => h)
      exact local_of_opened hs h hlist fun _ => rfl
  · next hs =>
    cases inner with
    | none => cases h
    | some value =>
      have hobject := local_of_anything
        ((scanObject_local (hinner value rfl)).map Json.ofObject fun _ _ h => h)
      exact local_of_opened hs h hobject fun _ => rfl
  · next hs => exact local_of_opened hs h (number_local true) fun _ => rfl
  · next hs =>
    split at h
    · next hb => exact local_of_digit hs hb h
    · cases h

/-- By induction on the arrays and objects that may still be opened. -/
theorem scanValue_local (n : Nat) : Local MayFollow (scanValue n) := by
  induction n with
  | zero => exact scanValueWith_local fun value hvalue => by cases hvalue
  | succ n ih => exact scanValueWith_local fun value hvalue => Option.some.inj hvalue ▸ ih

end Nesting

end StepUp.Json
