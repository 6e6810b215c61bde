import StepUp.AuthorizationParameters.Builder
import StepUp.Document
import StepUp.Proofs.ReadingBuilds
import StepUp.Proofs.ScannedValues
import StepUp.Proofs.WrittenMembers
import StepUp.SessionError.Builder

/-!
# What can be obtained

Parameters and session errors are read from values and texts or built call by call. The values that
a caller hands in list the members of every object in order, and so does what is written for the
result. Conversely whatever is written in order can be read, so nothing else than this order tells
the values that can be obtained (`obtainable_iff`).
-/

namespace StepUp

namespace Document

variable {α : Type} [Checked α] {text : List UInt8} {x : α}

theorem ofBytes_eq_ok_iff :
    ofBytes text = .ok x ↔ ∃ v rest, Json.scanValue Json.maxDepth text = .ok (v, rest) ∧
      Checked.ofJson v = .ok x ∧ Json.endOfText rest = .ok () := by
  simp only [ofBytes, ofValue, Checks.bind_eq_ok_iff, Checks.mapError_eq_ok_iff, Prod.exists]
  constructor
  · rintro ⟨v, rest, hscan, y, hy, ⟨⟩, hend, h⟩
    cases h
    exact ⟨v, rest, hscan, hy, hend⟩
  · rintro ⟨v, rest, hscan, hx, hend⟩
    exact ⟨v, rest, hscan, x, hx, (), hend, rfl⟩

theorem ofBytes_eq_ok_iff_value {x : α} :
    ofBytes text = .ok x ↔ ∃ v, Json.ofBytes text = .ok v ∧ Checked.ofJson v = .ok x := by
  rw [ofBytes_eq_ok_iff]
  constructor
  · rintro ⟨v, rest, hscan, hx, hend⟩
    exact ⟨v, Json.ofBytes_eq_ok_iff.2 ⟨rest, hscan, hend⟩, hx⟩
  · rintro ⟨v, hv, hx⟩
    obtain ⟨rest, hscan, hend⟩ := Json.ofBytes_eq_ok_iff.1 hv
    exact ⟨v, rest, hscan, hx, hend⟩

theorem scanItem_eq_ok_iff (s : List UInt8) (x : α) (t : List UInt8) :
    scanItem s = .ok (x, t) ↔
      ∃ v, Json.scanValue (Json.maxDepth - 1) s = .ok (v, t) ∧ Checked.ofJson v = .ok x := by
  simp only [scanItem, Checks.bind_eq_ok_iff, Checks.mapError_eq_ok_iff, Prod.exists]
  constructor
  · rintro ⟨v, rest, hscan, y, hy, h⟩
    cases h
    exact ⟨v, hscan, hy⟩
  · rintro ⟨v, hscan, hx⟩
    exact ⟨v, t, hscan, x, hx, rfl⟩

/-- A list of documents is an array whose items are accepted one by one. -/
theorem listOfBytes_eq_ok_iff {xs : List α} :
    listOfBytes text = .ok xs ↔
      ∃ vs, Json.ofBytes text = .ok (.array vs) ∧ vs.map Checked.ofJson = xs.map .ok := by
  have harray (vs : List Json) : Json.ofBytes text = .ok (.array vs) ↔
      ∃ rest, (∃ u, Json.skipSpace text = 0x5B :: u ∧
        Json.scanList id (Json.scanValue (Json.maxDepth - 1)) u = .ok (vs, rest)) ∧
        Json.endOfText rest = .ok () :=
    Json.ofBytes_eq_ok_iff.trans
      (exists_congr fun _ => and_congr_left fun _ => Json.scanValueWith_array_iff)
  simp only [harray]
  unfold listOfBytes
  split
  · next u hopen =>
    simp only [Checks.bind_eq_ok_iff, Checks.mapError_eq_ok_iff, Prod.exists,
      Json.scanList_checked_iff scanItem_eq_ok_iff]
    constructor
    · rintro ⟨ys, rest, ⟨vs, hvs, hmap⟩, ⟨⟩, hend, h⟩
      cases h
      exact ⟨vs, ⟨rest, ⟨u, hopen, hvs⟩, hend⟩, hmap⟩
    · rintro ⟨vs, ⟨rest, ⟨w, hw, hvs⟩, hend⟩, hmap⟩
      obtain rfl := (List.cons.inj (hopen.symm.trans hw)).2
      exact ⟨xs, rest, ⟨vs, hvs, hmap⟩, (), hend, rfl⟩
  · next hbrace =>
    refine iff_of_false nofun ?_
    rintro ⟨vs, ⟨rest, ⟨u, hopen, -⟩, -⟩, -⟩
    exact absurd (List.cons.inj (hbrace.symm.trans hopen)).1 (by decide)
  · next hnot _ =>
    refine iff_of_false (fun h => ?_) ?_
    · obtain ⟨_, -, h⟩ := Checks.bind_eq_ok_iff.1 h
      cases h
    · rintro ⟨vs, ⟨rest, ⟨u, hopen, -⟩, -⟩, -⟩
      exact hnot u hopen

/-- The value is that of a text, or an item of a list in it. -/
def ReadFrom (text : List UInt8) (x : α) : Prop :=
  ofBytes text = .ok x ∨ ∃ xs, listOfBytes text = .ok xs ∧ x ∈ xs

theorem exists_of_readFrom (h : ReadFrom text x) :
    ∃ v w, Json.ofBytes text = .ok w ∧ (v = w ∨ ∃ vs, w = .array vs ∧ v ∈ vs) ∧
      Checked.ofJson v = .ok x := by
  rcases h with h | ⟨xs, h, hx⟩
  · obtain ⟨v, hread, hv⟩ := ofBytes_eq_ok_iff_value.1 h
    exact ⟨v, v, hread, .inl rfl, hv⟩
  · obtain ⟨vs, hread, hmap⟩ := listOfBytes_eq_ok_iff.1 h
    have hmem : (.ok x : Except InvalidInput α) ∈ vs.map Checked.ofJson :=
      hmap ▸ List.mem_map_of_mem hx
    obtain ⟨v, hv, hcheck⟩ := List.mem_map.1 hmem
    exact ⟨v, .array vs, hread, .inr ⟨vs, rfl, hv⟩, hcheck⟩

/-- Whatever a text is read as came from a value with its members in order. -/
theorem canonical_of_readFrom (h : ReadFrom text x) :
    ∃ v : Json, v.Canonical ∧ Checked.ofJson v = .ok x := by
  obtain ⟨v, w, hread, hvw, hv⟩ := exists_of_readFrom h
  obtain ⟨rest, hscan, -⟩ := Json.ofBytes_eq_ok_iff.1 hread
  have hw : w.Canonical := (Json.scanValue_nested hscan).1
  refine ⟨v, ?_, hv⟩
  rcases hvw with rfl | ⟨vs, rfl, hmem⟩
  · exact hw
  · exact Json.canonicalItems_iff.1 hw v hmem

theorem readable_of_readFrom (h : ReadFrom text x) (hfree : Json.FloatFree text) :
    ∃ v, Json.Readable Json.maxDepth v ∧ Checked.ofJson v = .ok x := by
  obtain ⟨v, w, hread, hvw, hv⟩ := exists_of_readFrom h
  have hw := Json.readable_of_ofBytes hread hfree
  refine ⟨v, ?_, hv⟩
  rcases hvw with rfl | ⟨vs, rfl, hmem⟩
  · exact hw
  · exact (Json.readable_array_iff.1 hw v hmem).mono (Nat.le_succ 126)

end Document

def Object.Canonical (o : Object) : Prop := ∀ key v, o.get? key = some v → v.Canonical

theorem Object.Canonical.insert {o : Object} (h : o.Canonical) (key : String) {v : Json}
    (hv : v.Canonical) : (o.insert key v).Canonical := by
  intro k w hw
  rw [Object.get?_insert] at hw
  split at hw
  · cases hw
    exact hv
  · exact h k w hw

namespace AuthorizationParameters

namespace Builder

def Call.Canonical : Call → Prop
  | .set .. => True
  | .extra _ value => value.Canonical
  | .extraFields fields => fields.Canonical

structure Canonical (b : Builder) : Prop where
  requirements (p : Parameter) (x : p.kind.Value) :
    b.requirements.get p = some x → (p.kind.toJson x).Canonical
  extra : b.extra.Canonical

theorem canonical_ofArgument (kind : Kind) (x : kind.Argument) :
    (kind.toJson (kind.ofArgument x)).Canonical := by
  cases kind with
  | string | bool => trivial
  | list =>
    refine Json.canonicalItems_iff.2 fun v hv => ?_
    obtain ⟨s, -, rfl⟩ := List.mem_map.1 hv
    trivial

theorem Canonical.apply {b : Builder} (h : b.Canonical) {call : Call} (hcall : call.Canonical) :
    (b.apply call).Canonical := by
  cases call with
  | set p x =>
    refine ⟨fun q y hy => ?_, h.extra⟩
    by_cases hq : q = p
    · subst hq
      rw [Builder.apply, Requirements.get_set_self] at hy
      cases hy
      exact canonical_ofArgument q.kind x
    · rw [Builder.apply, Requirements.get_set_of_ne _ _ hq] at hy
      exact h.requirements q y hy
  | extra key value => exact ⟨h.requirements, h.extra.insert key hcall⟩
  | extraFields fields => exact ⟨h.requirements, hcall⟩

theorem canonical_empty : Canonical {} := by
  refine ⟨fun p x h => ?_, fun _ _ => nofun⟩
  cases p <;> cases h

theorem canonical_run {calls : List Call} (h : ∀ call ∈ calls, call.Canonical) :
    (run calls).Canonical :=
  List.foldlRecOn calls Builder.apply canonical_empty fun _ hb call hcall =>
    hb.apply (h call hcall)

end Builder

/-- Read from an object, a value or a text, or built. -/
inductive Obtainable : AuthorizationParameters → Prop where
  | ofObject {o : Object} {p : AuthorizationParameters} (ho : o.Canonical)
      (h : AuthorizationParameters.ofObject o = .ok p) : Obtainable p
  | ofValue {v : Json} {p : AuthorizationParameters} (hv : v.Canonical)
      (h : AuthorizationParameters.ofJson v = .ok p) : Obtainable p
  | ofText {text : List UInt8} {p : AuthorizationParameters}
      (h : Document.ReadFrom text p) : Obtainable p
  | built {calls : List Builder.Call} {p : AuthorizationParameters}
      (hcalls : ∀ call ∈ calls, call.Canonical) (h : (Builder.run calls).build = .ok p) :
      Obtainable p

theorem canonical_toJson {p : AuthorizationParameters}
    (hrequirements : ∀ q x, p.requirements.get q = some x → (q.kind.toJson x).Canonical)
    (hextra : p.extra.Canonical) : (p.toJson true).Canonical := by
  refine (Json.inherits_canonical _).2 fun key v hv => ?_
  cases hkey : Parameter.ofName? key with
  | none =>
    rw [get?_toObject_extra _ _ hkey] at hv
    exact hextra key v hv
  | some q =>
    obtain rfl := Parameter.ofName?_eq_some_iff.1 hkey
    rw [get?_toObject_name] at hv
    obtain ⟨x, hx, rfl⟩ := Option.map_eq_some_iff.1 hv
    exact hrequirements q x hx

theorem Obtainable.canonical {p : AuthorizationParameters} (h : p.Obtainable) :
    (p.toJson true).Canonical := by
  cases h with
  | ofObject ho h =>
    exact toJson_of_ofObject Json.inherits_canonical h ((Json.inherits_canonical _).2 ho) true
  | ofValue hv h => exact toJson_of_ofJson Json.inherits_canonical h hv hv true
  | ofText h =>
    obtain ⟨v, hc, hv⟩ := Document.canonical_of_readFrom h
    exact toJson_of_ofJson Json.inherits_canonical hv hc hc true
  | built hcalls h =>
    obtain ⟨-, hrequirements, hextra⟩ := Builder.build_eq_ok_iff.1 h
    have hb := Builder.canonical_run hcalls
    exact canonical_toJson (hrequirements ▸ hb.requirements) (hextra ▸ hb.extra)

theorem obtainable_iff {p : AuthorizationParameters} :
    p.Obtainable ↔ (p.toJson true).Canonical :=
  ⟨Obtainable.canonical, fun h => .ofValue h (p.ofJson_toJson true)⟩

end AuthorizationParameters

namespace SessionError

/-- The parameters that are given are obtainable, or a value that lists its members in order. -/
def Given.Canonical : Given → Prop
  | .checked parameters => parameters.Obtainable
  | .raw value => value.Canonical

namespace Builder

def Call.Canonical : Call → Prop
  | .code _ => True
  | .parameters p => p.Obtainable
  | .rawParameters value => value.Canonical
  | .extra _ value => value.Canonical
  | .extraFields fields => fields.Canonical

structure Canonical (b : Builder) : Prop where
  parameters : ∀ given ∈ b.parameters, given.Canonical
  extra : b.extra.Canonical

theorem Canonical.apply {b : Builder} (h : b.Canonical) {call : Call} (hcall : call.Canonical) :
    (b.apply call).Canonical := by
  cases call with
  | code => exact ⟨h.parameters, h.extra⟩
  | parameters p => exact ⟨fun given hgiven => Option.some.inj hgiven ▸ hcall, h.extra⟩
  | rawParameters value => exact ⟨fun given hgiven => Option.some.inj hgiven ▸ hcall, h.extra⟩
  | extra key value => exact ⟨h.parameters, h.extra.insert key hcall⟩
  | extraFields fields => exact ⟨h.parameters, hcall⟩

theorem canonical_run {calls : List Call} (h : ∀ call ∈ calls, call.Canonical) :
    (run calls).Canonical :=
  List.foldlRecOn calls Builder.apply ⟨nofun, fun _ _ => nofun⟩ fun _ hb call hcall =>
    hb.apply (h call hcall)

theorem Canonical.obtainable {b : Builder} (hb : b.Canonical) {p : AuthorizationParameters}
    (h : b.checkedParameters = .ok p) : p.Obtainable := by
  unfold checkedParameters at h
  split at h
  · next parameters hgiven =>
    cases h
    exact hb.parameters _ hgiven
  · next value hgiven =>
    have hvalue : value.Canonical := hb.parameters _ hgiven
    obtain ⟨o, ho, h⟩ := checkParameters_eq_ok_iff.1 h
    have heq := Json.eq_ofObject hvalue ho
    exact .ofObject ((Json.inherits_canonical o).1 (heq ▸ hvalue)) h
  · cases h

end Builder

/-- Read from an object, a value or a text, or built. -/
inductive Obtainable : SessionError → Prop where
  | ofObject {o : Object} {e : SessionError} (ho : o.Canonical)
      (h : SessionError.ofObject o = .ok e) : Obtainable e
  | ofValue {v : Json} {e : SessionError} (hv : v.Canonical)
      (h : SessionError.ofJson v = .ok e) : Obtainable e
  | ofText {text : List UInt8} {e : SessionError}
      (h : Document.ReadFrom text e) : Obtainable e
  | built {calls : List Builder.Call} {e : SessionError}
      (hcalls : ∀ call ∈ calls, call.Canonical) (h : (Builder.run calls).build = .ok e) :
      Obtainable e

theorem canonical_toJson {e : SessionError} (hparameters : (e.parameters.toJson true).Canonical)
    (hextra : e.extra.Canonical) : (e.toJson true).Canonical := by
  refine (Json.inherits_canonical _).2 fun key v hv => ?_
  by_cases hkey : key ∈ names
  · rcases mem_names.1 hkey with rfl | rfl
    · rw [get?_toObject_codeName] at hv
      cases hv
      trivial
    · rw [get?_toObject_parametersName] at hv
      cases hv
      exact hparameters
  · rw [get?_toObject_extra _ _ hkey] at hv
    exact hextra key v hv

theorem Obtainable.canonical {e : SessionError} (h : e.Obtainable) : (e.toJson true).Canonical := by
  have hinherits := Json.inherits_canonical
  cases h with
  | ofObject ho h =>
    have hc := (hinherits _).2 ho
    exact toJson_of_ofObject hinherits hinherits h hc hc true
  | ofValue hv h => exact toJson_of_ofJson hinherits hinherits h hv hv true
  | ofText h =>
    obtain ⟨v, hc, hv⟩ := Document.canonical_of_readFrom h
    exact toJson_of_ofJson hinherits hinherits hv hc hc true
  | built hcalls h =>
    obtain ⟨-, hparameters, -, hextra⟩ := Builder.build_eq_ok_iff.1 h
    have hb := Builder.canonical_run hcalls
    exact canonical_toJson (hb.obtainable hparameters).canonical (hextra ▸ hb.extra)

/-- Order of the members is all that a session error needs to come from somewhere. -/
theorem obtainable_iff {e : SessionError} : e.Obtainable ↔ (e.toJson true).Canonical :=
  ⟨Obtainable.canonical, fun h => .ofValue h (e.ofJson_toJson true)⟩

end SessionError

end StepUp
