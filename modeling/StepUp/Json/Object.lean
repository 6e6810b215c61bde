import StepUp.Json.Basic

/-!
# JSON objects

An object is a finite map from keys to values. Its members are listed by ascending key, so two
objects with the same value at every key are equal (`ext_get?`), and each operation is told by
what it leaves at a key.
-/

namespace StepUp

/-- A finite map from keys to values, listed by ascending key. -/
structure Object where
  members : List (String × Json)
  ascending : members.Pairwise (·.1 < ·.1)

namespace Object

/-- The members after a value is stored at a key, in a list ordered by key. -/
def insertMember (key : String) (value : Json) : List (String × Json) → List (String × Json)
  | [] => [(key, value)]
  | (k, v) :: rest =>
    if key < k then (key, value) :: (k, v) :: rest
    else if key = k then (key, value) :: rest
    else (k, v) :: insertMember key value rest

theorem mem_insertMember {key : String} {value : Json} {m : String × Json}
    {members : List (String × Json)} (h : m ∈ insertMember key value members) :
    m = (key, value) ∨ m ∈ members := by
  induction members with
  | nil => simpa [insertMember] using h
  | cons hd tl ih =>
    rw [insertMember] at h
    split at h
    · simpa using h
    · split at h
      · grind
      · grind

theorem lt_of_not_lt_of_ne {a b : String} (h : ¬ a < b) (hne : a ≠ b) : b < a :=
  Decidable.byContradiction fun hba =>
    hne (String.le_antisymm (String.not_lt.1 hba) (String.not_lt.1 h))

/-- Storing keeps the order, without which objects with the same members could differ. -/
theorem ascending_insertMember (key : String) (value : Json) {members : List (String × Json)}
    (h : members.Pairwise (·.1 < ·.1)) : (insertMember key value members).Pairwise (·.1 < ·.1) := by
  induction members with
  | nil => simp [insertMember]
  | cons hd tl ih =>
    obtain ⟨hhd, htl⟩ := List.pairwise_cons.1 h
    rw [insertMember]
    split
    · next hlt =>
      refine List.pairwise_cons.2 ⟨fun m hm => ?_, h⟩
      rcases List.mem_cons.1 hm with rfl | hm
      · exact hlt
      · exact String.lt_trans hlt (hhd m hm)
    · next hlt =>
      split
      · next heq => exact List.pairwise_cons.2 ⟨fun m hm => heq ▸ hhd m hm, htl⟩
      · next hne =>
        refine List.pairwise_cons.2 ⟨fun m hm => ?_, ih htl⟩
        rcases mem_insertMember hm with rfl | hm
        · exact lt_of_not_lt_of_ne hlt hne
        · exact hhd m hm

def empty : Object := ⟨[], .nil⟩

instance : Inhabited Object := ⟨empty⟩

def size (o : Object) : Nat := o.members.length

def get? (o : Object) (key : String) : Option Json := o.members.lookup key

def contains (o : Object) (key : String) : Bool := (o.get? key).isSome

def insert (o : Object) (key : String) (value : Json) : Object :=
  ⟨insertMember key value o.members, ascending_insertMember key value o.ascending⟩

def filter (o : Object) (p : String → Json → Bool) : Object :=
  ⟨o.members.filter fun m => p m.1 m.2, o.ascending.filter _⟩

def insertMany (o : Object) (members : List (String × Json)) : Object :=
  members.foldl (fun o m => o.insert m.1 m.2) o

/-- The object that a list of members describes; of two values for one key the later holds. -/
def ofMembers (members : List (String × Json)) : Object := empty.insertMany members

/-- The members of both objects; where both have a key, the second one's value. -/
def overlay (o patch : Object) : Object := o.insertMany patch.members

protected def beq (a b : Object) : Bool := Json.beqMembers a.members b.members

instance : BEq Object := ⟨Object.beq⟩

theorem lookup_eq_some_iff {members : List (String × Json)} (h : members.Pairwise (·.1 < ·.1))
    {key : String} {value : Json} :
    members.lookup key = some value ↔ (key, value) ∈ members := by
  induction members with
  | nil => simp
  | cons hd tl ih =>
    obtain ⟨k, v⟩ := hd
    obtain ⟨hhd, htl⟩ := List.pairwise_cons.1 h
    rw [List.lookup_cons]
    by_cases hk : key = k
    · subst hk
      have hnot : (key, value) ∉ tl := fun hm => String.lt_irrefl key (hhd _ hm)
      simp [hnot, eq_comm]
    · have hbeq : (key == k) = false := by simpa using hk
      simp [hbeq, ih htl, hk]

theorem get?_eq_some_iff {o : Object} {key : String} {value : Json} :
    o.get? key = some value ↔ (key, value) ∈ o.members :=
  lookup_eq_some_iff o.ascending

/-- Objects are told apart by their values at the keys. -/
theorem ext_get? {a b : Object} (h : ∀ key, a.get? key = b.get? key) : a = b := by
  obtain ⟨xs, hxs⟩ := a
  obtain ⟨ys, hys⟩ := b
  have hmem : ∀ m, m ∈ xs ↔ m ∈ ys := fun m => by
    rw [← lookup_eq_some_iff hxs, ← lookup_eq_some_iff hys]
    exact iff_of_eq (congrArg (· = some m.2) (h m.1))
  suffices xs = ys by subst this; rfl
  clear h
  induction xs generalizing ys with
  | nil =>
    cases ys with
    | nil => rfl
    | cons y ys => exact absurd ((hmem y).2 List.mem_cons_self) List.not_mem_nil
  | cons x xs ih =>
    cases ys with
    | nil => exact absurd ((hmem x).1 List.mem_cons_self) List.not_mem_nil
    | cons y ys =>
      obtain ⟨hx, hxs'⟩ := List.pairwise_cons.1 hxs
      obtain ⟨hy, hys'⟩ := List.pairwise_cons.1 hys
      have hxy : x = y := by
        rcases List.mem_cons.1 ((hmem x).1 List.mem_cons_self) with he | hm
        · exact he
        · rcases List.mem_cons.1 ((hmem y).2 List.mem_cons_self) with he | hm'
          · exact he.symm
          · exact absurd (hy x hm) (String.lt_asymm (hx y hm'))
      subst hxy
      have htl : ∀ m, m ∈ xs ↔ m ∈ ys := fun m => by
        constructor
        · intro hm
          rcases List.mem_cons.1 ((hmem m).1 (List.mem_cons_of_mem _ hm)) with rfl | h
          · exact absurd (hx _ hm) (String.lt_irrefl _)
          · exact h
        · intro hm
          rcases List.mem_cons.1 ((hmem m).2 (List.mem_cons_of_mem _ hm)) with rfl | h
          · exact absurd (hy _ hm) (String.lt_irrefl _)
          · exact h
      rw [ih hxs' ys hys' htl]

@[simp] theorem get?_empty (key : String) : empty.get? key = none := rfl

theorem lookup_insertMember (key : String) (value : Json) (members : List (String × Json))
    (k : String) :
    (insertMember key value members).lookup k =
      if k = key then some value else members.lookup k := by
  induction members with
  | nil => grind [insertMember]
  | cons hd tl ih => rw [insertMember]; grind

theorem get?_insert (o : Object) (key : String) (value : Json) (k : String) :
    (o.insert key value).get? k = if k = key then some value else o.get? k :=
  lookup_insertMember key value o.members k

theorem get?_filter (o : Object) (p : String → Json → Bool) (key : String) :
    (o.filter p).get? key = (o.get? key).filter (p key) := by
  apply Option.ext
  intro v
  rw [get?_eq_some_iff, Option.filter_eq_some_iff, get?_eq_some_iff]
  simp [filter]

theorem get?_insertMany {members : List (String × Json)} (h : members.Pairwise (·.1 ≠ ·.1))
    (o : Object) (key : String) :
    (o.insertMany members).get? key = (members.lookup key).or (o.get? key) := by
  induction members generalizing o with
  | nil => simp [insertMany]
  | cons m ms ih =>
    obtain ⟨k, v⟩ := m
    obtain ⟨hm, hms⟩ := List.pairwise_cons.1 h
    have hnot : ms.lookup k = none := List.lookup_eq_none_iff.2 fun p hp => by simpa using hm p hp
    have := ih hms (o.insert k v)
    simp only [insertMany, List.foldl_cons] at this ⊢
    rw [this, get?_insert]
    grind

/-- Where no key is listed twice, each of them has the value that is listed with it. -/
theorem get?_ofMembers {members : List (String × Json)} (h : members.Pairwise (·.1 ≠ ·.1))
    (key : String) : (ofMembers members).get? key = members.lookup key := by
  rw [ofMembers, get?_insertMany h, get?_empty, Option.or_none]

/-- No two members have one key. -/
theorem keys_ne (o : Object) : o.members.Pairwise (·.1 ≠ ·.1) :=
  o.ascending.imp fun {a b} (h : a.1 < b.1) (heq : a.1 = b.1) =>
    String.lt_irrefl b.1 (heq ▸ h)

theorem get?_overlay (o patch : Object) (key : String) :
    (o.overlay patch).get? key = (patch.get? key).or (o.get? key) :=
  get?_insertMany patch.keys_ne o key

/-- An object is described by its own members. -/
@[simp] theorem ofMembers_members (o : Object) : ofMembers o.members = o :=
  ext_get? fun key => by
    rw [get?_ofMembers o.keys_ne]
    rfl

end Object

namespace Json

def ofObject (o : Object) : Json := .object o.members

def object? : Json → Option Object
  | .object members => some (.ofMembers members)
  | _ => none

@[simp] theorem object?_ofObject (o : Object) : (ofObject o).object? = some o := by
  simp [ofObject, object?]

def get? (v : Json) (key : String) : Option Json := v.object?.bind (·.get? key)

end Json

end StepUp
