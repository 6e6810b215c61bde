import StepUp.Checks
import StepUp.Json.Parser

/-!
# Lists and objects that are read

A list or an object is read if each of its items is, up to the comma or the bracket behind it. What
holds of whatever an item can be read as holds of all items, and a list of items that are checked
one by one is a list of values that are checked in the end.
-/

namespace StepUp.Json

section View

variable {ε α β : Type} {item : List UInt8 → Except ε (α × List UInt8)}
  {scan : Nat → List UInt8 → Except ε (List α × List UInt8)}
  {whole : List UInt8 → Except ε (β × List UInt8)} {close : UInt8} {make : List α → β}

/-- Reads items one after another, each up to the comma or the closing byte behind it, in at most
the given number of items. -/
structure ReadsItems (close : UInt8) (item : List UInt8 → Except ε (α × List UInt8))
    (scan : Nat → List UInt8 → Except ε (List α × List UInt8)) : Prop where
  zero : ∀ s r, scan 0 s ≠ .ok r
  succ : ∀ n s xs t, scan (n + 1) s = .ok (xs, t) ↔
    ∃ x u, item s = .ok (x, u) ∧
      (skipSpace u = close :: t ∧ xs = [x] ∨
        ∃ w ys, skipSpace u = 0x2C :: w ∧ (skipSpace w).head? ≠ some close ∧
          scan n (skipSpace w) = .ok (ys, t) ∧ xs = x :: ys)

/-- Makes something of the items between the opening byte and the closing one, if there are any. -/
structure Encloses (close : UInt8) (item : List UInt8 → Except ε (α × List UInt8))
    (scan : Nat → List UInt8 → Except ε (List α × List UInt8)) (make : List α → β)
    (whole : List UInt8 → Except ε (β × List UInt8)) : Prop extends
    ReadsItems close item scan where
  whole_iff : ∀ s y t, whole s = .ok (y, t) ↔
    skipSpace s = close :: t ∧ y = make [] ∨
      ∃ b u xs, skipSpace s = b :: u ∧ b ≠ close ∧
        scan (skipSpace s).length (skipSpace s) = .ok (xs, t) ∧ y = make xs

theorem ReadsItems.forall_mem {P : α → Prop} (h : ReadsItems close item scan)
    (hitem : ∀ s x t, item s = .ok (x, t) → P x) {n : Nat} {s t : List UInt8} {xs : List α}
    (hs : scan n s = .ok (xs, t)) : ∀ x ∈ xs, P x := by
  induction n generalizing s xs with
  | zero => exact absurd hs (h.zero s _)
  | succ n ih =>
    obtain ⟨x, u, hx, ⟨-, rfl⟩ | ⟨w, ys, -, -, hys, rfl⟩⟩ := (h.succ n s xs t).1 hs
    · exact List.forall_mem_singleton.2 (hitem s x u hx)
    · exact List.forall_mem_cons.2 ⟨hitem s x u hx, ih hys⟩

/-- What holds of whatever an item can be read as holds of all items. -/
theorem Encloses.exists_items {P : α → Prop} (h : Encloses close item scan make whole)
    (hitem : ∀ s x t, item s = .ok (x, t) → P x) {s t : List UInt8} {y : β}
    (hs : whole s = .ok (y, t)) : ∃ xs, y = make xs ∧ ∀ x ∈ xs, P x := by
  rcases (h.whole_iff s y t).1 hs with ⟨-, rfl⟩ | ⟨_, _, xs, -, -, hxs, rfl⟩
  · exact ⟨[], rfl, nofun⟩
  · exact ⟨xs, rfl, h.forall_mem hitem hxs⟩

end View

section Items

variable {ε α : Type} {fault : Fault → ε} {item : List UInt8 → Except ε (α × List UInt8)}
  {P : α → Prop}

theorem scanItems_succ_eq_ok_iff {n : Nat} {s t : List UInt8} {xs : List α} :
    scanItems fault item (n + 1) s = .ok (xs, t) ↔
      ∃ x u, item s = .ok (x, u) ∧
        (skipSpace u = 0x5D :: t ∧ xs = [x] ∨
          ∃ w ys, skipSpace u = 0x2C :: w ∧ (skipSpace w).head? ≠ some 0x5D ∧
            scanItems fault item n (skipSpace w) = .ok (ys, t) ∧ xs = x :: ys) := by
  rw [scanItems, Checks.bind_eq_ok_iff]
  constructor
  · rintro ⟨⟨x, u⟩, hx, h⟩
    refine ⟨x, u, hx, ?_⟩
    dsimp only at h
    split at h
    · cases h
    · next hclose =>
      cases h
      exact .inl ⟨hclose, rfl⟩
    · next w hcomma =>
      split at h
      · cases h
      · next hnot =>
        obtain ⟨⟨ys, _⟩, hys, h⟩ := Checks.bind_eq_ok_iff.1 h
        cases h
        refine .inr ⟨w, ys, hcomma, fun hhead => ?_, hys, rfl⟩
        obtain ⟨v, hv⟩ := List.head?_eq_some_iff.1 hhead
        exact hnot v hv
    · cases h
  · rintro ⟨x, u, hx, ⟨hclose, rfl⟩ | ⟨w, ys, hcomma, hhead, hys, rfl⟩⟩
    · refine ⟨(x, u), hx, ?_⟩
      simp only [hclose]
      rfl
    · refine ⟨(x, u), hx, ?_⟩
      have hnot : ∀ v, skipSpace w = 0x5D :: v → False := fun v hv => hhead (by rw [hv]; rfl)
      simp only [hcomma]
      exact Checks.bind_eq_ok_iff.2 ⟨(ys, t), hys, rfl⟩

theorem scanList_eq_ok_iff {s t : List UInt8} {xs : List α} :
    scanList fault item s = .ok (xs, t) ↔
      skipSpace s = 0x5D :: t ∧ xs = [] ∨
        ∃ b u, skipSpace s = b :: u ∧ b ≠ 0x5D ∧
          scanItems fault item (skipSpace s).length (skipSpace s) = .ok (xs, t) := by
  rw [scanList]
  constructor
  · intro h
    split at h
    · cases h
    · next hclose =>
      cases h
      exact .inl ⟨hclose, rfl⟩
    · next hnil hnot =>
      cases hs : skipSpace s with
      | nil => exact absurd hs hnil
      | cons b u => exact .inr ⟨b, u, rfl, fun hb => hnot u (hb ▸ hs), hs ▸ h⟩
  · rintro (⟨hclose, rfl⟩ | ⟨b, u, hbu, hb, h⟩)
    · simp only [hclose]
    · rw [hbu] at h ⊢
      split
      · next heq => cases heq
      · next heq => exact absurd (List.cons.inj heq).1 hb
      · exact h

theorem scanList_encloses (fault : Fault → ε) (item : List UInt8 → Except ε (α × List UInt8)) :
    Encloses 0x5D item (scanItems fault item) id (scanList fault item) where
  zero _ _ h := by cases h
  succ _ _ _ _ := scanItems_succ_eq_ok_iff
  whole_iff _ _ _ := scanList_eq_ok_iff.trans (by simp)

theorem scanList_forall (hitem : ∀ s x t, item s = .ok (x, t) → P x) {s t : List UInt8}
    {xs : List α} (h : scanList fault item s = .ok (xs, t)) : ∀ x ∈ xs, P x := by
  obtain ⟨_, rfl, hall⟩ := (scanList_encloses fault item).exists_items hitem h
  exact hall

variable {δ : Type} {value : Scanner Json} {check : Json → Except δ α}

/-- Items that are checked one by one are those of a list that is read first and checked later. -/
theorem scanItems_checked_iff
    (hitem : ∀ s x t, item s = .ok (x, t) ↔ ∃ v, value s = .ok (v, t) ∧ check v = .ok x)
    {n : Nat} {s t : List UInt8} {xs : List α} :
    scanItems fault item n s = .ok (xs, t) ↔
      ∃ vs, scanItems id value n s = .ok (vs, t) ∧ vs.map check = xs.map .ok := by
  induction n generalizing s xs with
  | zero => exact iff_of_false nofun nofun
  | succ n ih =>
    rw [scanItems_succ_eq_ok_iff]
    constructor
    · rintro ⟨x, u, hx, hxs⟩
      obtain ⟨v, hv, hcheck⟩ := (hitem s x u).1 hx
      rcases hxs with ⟨hclose, rfl⟩ | ⟨w, ys, hcomma, hhead, hys, rfl⟩
      · exact ⟨[v], scanItems_succ_eq_ok_iff.2 ⟨v, u, hv, .inl ⟨hclose, rfl⟩⟩,
          congrArg (· :: []) hcheck⟩
      · obtain ⟨vs, hvs, hmap⟩ := ih.1 hys
        exact ⟨v :: vs, scanItems_succ_eq_ok_iff.2
            ⟨v, u, hv, .inr ⟨w, vs, hcomma, hhead, hvs, rfl⟩⟩,
          List.cons_eq_cons.2 ⟨hcheck, hmap⟩⟩
    · rintro ⟨vs, hvs, hmap⟩
      obtain ⟨v, u, hv, hvs⟩ := scanItems_succ_eq_ok_iff.1 hvs
      rcases hvs with ⟨hclose, rfl⟩ | ⟨w, ws, hcomma, hhead, hws, rfl⟩
      · obtain ⟨x, rest, rfl, hcheck, hnil⟩ := List.map_eq_cons_iff.1 hmap.symm
        obtain rfl := List.map_eq_nil_iff.1 hnil
        exact ⟨x, u, (hitem s x u).2 ⟨v, hv, hcheck.symm⟩, .inl ⟨hclose, rfl⟩⟩
      · obtain ⟨x, ys, rfl, hcheck, hys⟩ := List.map_eq_cons_iff.1 hmap.symm
        exact ⟨x, u, (hitem s x u).2 ⟨v, hv, hcheck.symm⟩,
          .inr ⟨w, ys, hcomma, hhead, ih.2 ⟨ws, hws, hys.symm⟩, rfl⟩⟩

theorem scanList_checked_iff
    (hitem : ∀ s x t, item s = .ok (x, t) ↔ ∃ v, value s = .ok (v, t) ∧ check v = .ok x)
    {s t : List UInt8} {xs : List α} :
    scanList fault item s = .ok (xs, t) ↔
      ∃ vs, scanList id value s = .ok (vs, t) ∧ vs.map check = xs.map .ok := by
  simp only [scanList_eq_ok_iff, scanItems_checked_iff hitem]
  constructor
  · rintro (⟨hclose, rfl⟩ | ⟨b, u, hbu, hb, vs, hvs, hmap⟩)
    · exact ⟨[], .inl ⟨hclose, rfl⟩, rfl⟩
    · exact ⟨vs, .inr ⟨b, u, hbu, hb, hvs⟩, hmap⟩
  · rintro ⟨vs, ⟨hclose, rfl⟩ | ⟨b, u, hbu, hb, hvs⟩, hmap⟩
    · exact .inl ⟨hclose, List.map_eq_nil_iff.1 hmap.symm⟩
    · exact .inr ⟨b, u, hbu, hb, vs, hvs, hmap⟩

end Items

section Members

variable {value : Scanner Json} {n : Nat} {s t : List UInt8}

theorem scanMembers_succ_eq_ok_iff {ms : List (String × Json)} :
    scanMembers value (n + 1) s = .ok (ms, t) ↔
      ∃ m u, scanMember value s = .ok (m, u) ∧
        (skipSpace u = 0x7D :: t ∧ ms = [m] ∨
          ∃ w ns, skipSpace u = 0x2C :: w ∧ (skipSpace w).head? ≠ some 0x7D ∧
            scanMembers value n (skipSpace w) = .ok (ns, t) ∧ ms = m :: ns) := by
  rw [scanMembers, Checks.bind_eq_ok_iff]
  constructor
  · rintro ⟨⟨m, u⟩, hm, h⟩
    refine ⟨m, u, hm, ?_⟩
    dsimp only at h
    split at h
    · cases h
    · next hclose =>
      cases h
      exact .inl ⟨hclose, rfl⟩
    · next w hcomma =>
      split at h
      · cases h
      · next hnot =>
        obtain ⟨⟨ns, _⟩, hns, h⟩ := Checks.bind_eq_ok_iff.1 h
        cases h
        refine .inr ⟨w, ns, hcomma, fun hhead => ?_, hns, rfl⟩
        obtain ⟨v, hv⟩ := List.head?_eq_some_iff.1 hhead
        exact hnot v hv
    · cases h
  · rintro ⟨m, u, hm, ⟨hclose, rfl⟩ | ⟨w, ns, hcomma, hhead, hns, rfl⟩⟩
    · refine ⟨(m, u), hm, ?_⟩
      simp only [hclose]
      rfl
    · refine ⟨(m, u), hm, ?_⟩
      have hnot : ∀ v, skipSpace w = 0x7D :: v → False := fun v hv => hhead (by rw [hv]; rfl)
      simp only [hcomma]
      exact Checks.bind_eq_ok_iff.2 ⟨(ns, t), hns, rfl⟩

theorem scanObject_eq_ok_iff {o : Object} :
    scanObject value s = .ok (o, t) ↔
      skipSpace s = 0x7D :: t ∧ o = .empty ∨
        ∃ b u ms, skipSpace s = b :: u ∧ b ≠ 0x7D ∧
          scanMembers value (skipSpace s).length (skipSpace s) = .ok (ms, t) ∧ o = .ofMembers ms := by
  rw [scanObject]
  constructor
  · intro h
    split at h
    · cases h
    · next hclose =>
      cases h
      exact .inl ⟨hclose, rfl⟩
    · next hnil hnot =>
      obtain ⟨⟨ms, _⟩, hms, h⟩ := Checks.bind_eq_ok_iff.1 h
      cases h
      cases hs : skipSpace s with
      | nil => exact absurd hs hnil
      | cons b u => exact .inr ⟨b, u, ms, rfl, fun hb => hnot u (hb ▸ hs), hs ▸ hms, rfl⟩
  · rintro (⟨hclose, rfl⟩ | ⟨b, u, ms, hbu, hb, hms, rfl⟩)
    · simp only [hclose]
    · rw [hbu] at hms ⊢
      split
      · next heq => cases heq
      · next heq => exact absurd (List.cons.inj heq).1 hb
      · exact Checks.bind_eq_ok_iff.2 ⟨(ms, t), hms, rfl⟩

theorem scanMember_eq_ok_iff {m : String × Json} :
    scanMember value s = .ok (m, t) ↔
      ∃ w u z, s = 0x22 :: w ∧ scanString w = .ok (m.1, u) ∧ skipSpace u = 0x3A :: z ∧
        value z = .ok (m.2, t) := by
  constructor
  · intro h
    unfold scanMember at h
    split at h
    · next w =>
      obtain ⟨⟨key, u⟩, hkey, h⟩ := Checks.bind_eq_ok_iff.1 h
      dsimp only at h
      split at h
      · cases h
      · next z hcolon =>
        obtain ⟨⟨v, t⟩, hv, h⟩ := Checks.bind_eq_ok_iff.1 h
        cases h
        exact ⟨w, u, z, rfl, hkey, hcolon, hv⟩
      · cases h
    · cases h
    · cases h
  · rintro ⟨w, u, z, rfl, hkey, hcolon, hv⟩
    refine Checks.bind_eq_ok_iff.2 ⟨(m.1, u), hkey, ?_⟩
    simp only [hcolon]
    exact Checks.bind_eq_ok_iff.2 ⟨(m.2, t), hv, rfl⟩

theorem scanObject_encloses (value : Scanner Json) :
    Encloses 0x7D (scanMember value) (scanMembers value) Object.ofMembers (scanObject value) where
  zero _ _ h := by cases h
  succ _ _ _ _ := scanMembers_succ_eq_ok_iff
  whole_iff _ _ _ := scanObject_eq_ok_iff

theorem mem_of_mem_insertMany {o : Object} {ms : List (String × Json)} {m : String × Json}
    (h : m ∈ (o.insertMany ms).members) : m ∈ o.members ∨ m ∈ ms := by
  induction ms generalizing o with
  | nil => exact .inl h
  | cons x ms ih =>
    rcases ih h with h | h
    · rcases Object.mem_insertMember h with rfl | h
      · exact .inr List.mem_cons_self
      · exact .inl h
    · exact .inr (List.mem_cons_of_mem x h)

theorem scanObject_forall {P : Json → Prop} (hvalue : ∀ s v t, value s = .ok (v, t) → P v)
    {o : Object} (h : scanObject value s = .ok (o, t)) : ∀ m ∈ o.members, P m.2 := by
  have hmember : ∀ s m t, scanMember value s = .ok (m, t) → P m.2 := fun s m t hm => by
    obtain ⟨_, _, z, -, -, -, hv⟩ := scanMember_eq_ok_iff.1 hm
    exact hvalue z m.2 t hv
  obtain ⟨ms, rfl, hall⟩ := (scanObject_encloses value).exists_items hmember h
  intro m hm
  rcases mem_of_mem_insertMany hm with hm | hm
  · cases hm
  · exact hall m hm

end Members

end StepUp.Json
