import StepUp.Proofs.Obtainable
import StepUp.Proofs.ReadingBuilds

/-!
# What parameters and session errors hold

Whichever way they were obtained, some recognized parameter is set and no extra field has the name
of a recognized member. Reading takes the recognized members out, and building refuses what has one
among its extra fields. So the extra fields are written beside the recognized members and never in
their place, which is what the number of members tells.
-/

namespace StepUp

namespace Object

theorem length_insertMember {key : String} {value : Json} {members : List (String × Json)}
    (h : members.lookup key = none) :
    (insertMember key value members).length = members.length + 1 := by
  induction members with
  | nil => rfl
  | cons hd tl ih =>
    obtain ⟨k, v⟩ := hd
    rw [List.lookup_cons] at h
    have hne : key ≠ k := fun heq => by simp [heq] at h
    have hbeq : (key == k) = false := by simpa using hne
    rw [hbeq] at h
    rw [insertMember, if_neg hne]
    split
    · rfl
    · rw [List.length_cons, ih h, List.length_cons]

theorem size_insert {o : Object} {key : String} {value : Json} (h : o.get? key = none) :
    (o.insert key value).size = o.size + 1 :=
  length_insertMember h

theorem size_insertMany {members : List (String × Json)} {o : Object}
    (h : members.Pairwise (·.1 ≠ ·.1)) (hnew : ∀ m ∈ members, o.get? m.1 = none) :
    (o.insertMany members).size = o.size + members.length := by
  induction members generalizing o with
  | nil => rfl
  | cons m ms ih =>
    obtain ⟨hm, hms⟩ := List.pairwise_cons.1 h
    have hfirst := hnew m List.mem_cons_self
    have hlater : ∀ n ∈ ms, (o.insert m.1 m.2).get? n.1 = none := fun n hn => by
      rw [get?_insert, if_neg (hm n hn).symm]
      exact hnew n (List.mem_cons_of_mem m hn)
    have hsize := ih hms hlater
    rw [size_insert hfirst] at hsize
    rw [List.length_cons, Nat.add_comm ms.length, ← Nat.add_assoc]
    exact hsize

/-- No member is lost where no key is listed twice. -/
theorem size_ofMembers {members : List (String × Json)} (h : members.Pairwise (·.1 ≠ ·.1)) :
    (ofMembers members).size = members.length :=
  (size_insertMany h fun _ _ => rfl).trans (Nat.zero_add _)

/-- Where no key is in both objects, none of the members takes the place of another. -/
theorem size_overlay {o patch : Object} (h : ∀ key v, patch.get? key = some v → o.get? key = none) :
    (o.overlay patch).size = o.size + patch.size :=
  size_insertMany patch.keys_ne fun m hm => h m.1 m.2 (get?_eq_some_iff.2 hm)

end Object

def Requirements.count (r : Requirements) : Nat := Parameter.all.countP fun p => (r.get p).isSome

theorem Requirements.size_toObject (r : Requirements) : r.toObject.size = r.count := by
  rw [toObject, Object.size_ofMembers (members_keys_ne r (by decide)),
    List.length_filterMap_eq_countP]
  exact List.countP_congr fun p _ => by simp [member?]

namespace AuthorizationParameters

theorem sound_of_ofObject {o : Object} {p : AuthorizationParameters} (h : ofObject o = .ok p) :
    Sound p.requirements p.extra := by
  obtain ⟨r, -, h⟩ := Checks.bind_eq_ok_iff.1 h
  split at h
  · next hset =>
    cases h
    exact ⟨Requirements.anySet_iff.1 hset, extraOf_unreserved o⟩
  · cases h

theorem sound_of_ofJson {v : Json} {p : AuthorizationParameters} (h : ofJson v = .ok p) :
    Sound p.requirements p.extra := by
  obtain ⟨_, -, hread⟩ := ofJson_eq_ok_iff.1 h
  exact sound_of_ofObject hread

theorem Obtainable.sound {p : AuthorizationParameters} (h : p.Obtainable) :
    Sound p.requirements p.extra := by
  cases h with
  | ofObject _ h => exact sound_of_ofObject h
  | ofValue _ h => exact sound_of_ofJson h
  | ofText h =>
    obtain ⟨v, -, hv⟩ := Document.canonical_of_readFrom h
    exact sound_of_ofJson hv
  | built _ h =>
    obtain ⟨hsound, hrequirements, hextra⟩ := Builder.build_eq_ok_iff.1 h
    rwa [hrequirements, hextra]

/-- The parameters are sound, and they are written with a member for each parameter that is set and
for each extra field, none in the place of another. -/
structure Intact (p : AuthorizationParameters) : Prop where
  sound : Sound p.requirements p.extra
  size : (p.toObject true).size = p.requirements.count + p.extra.size
  recognized (q : Parameter) :
    (p.toObject true).get? q.name = (p.requirements.get q).map q.kind.toJson
  extra (key : String) (v : Json) :
    p.extra.get? key = some v → (p.toObject true).get? key = some v

theorem ofName?_eq_none_of_sound {r : Requirements} {extra : Object} (h : Sound r extra)
    {key : String} {v : Json} (hv : extra.get? key = some v) : Parameter.ofName? key = none := by
  cases hkey : Parameter.ofName? key with
  | none => rfl
  | some q =>
    obtain rfl := Parameter.ofName?_eq_some_iff.1 hkey
    cases hv.symm.trans (h.2 q)

theorem Intact.of_sound {p : AuthorizationParameters} (h : Sound p.requirements p.extra) :
    p.Intact where
  sound := h
  size := by
    have happart : ∀ key v, p.extra.get? key = some v → p.requirements.toObject.get? key = none :=
      fun key v hv => by
        rw [Requirements.get?_toObject, ofName?_eq_none_of_sound h hv, Option.bind_none]
    rw [← Requirements.size_toObject]
    exact Object.size_overlay happart
  recognized := p.get?_toObject_name true
  extra key v hv := by
    rw [get?_toObject_extra p true (ofName?_eq_none_of_sound h hv)]
    exact hv

end AuthorizationParameters

namespace SessionError

theorem unreserved_of_ofObject {o : Object} {e : SessionError} (h : ofObject o = .ok e) :
    Unreserved e.extra := by
  rw [(ofObject_eq_ok_iff.1 h).2.2]
  exact extraOf_unreserved o

theorem sound_of_checkParameters {given : Option Json} {p : AuthorizationParameters}
    (h : checkParameters given = .ok p) :
    AuthorizationParameters.Sound p.requirements p.extra := by
  obtain ⟨_, -, h⟩ := checkParameters_eq_ok_iff.1 h
  exact AuthorizationParameters.sound_of_ofObject h

/-- The parameters are sound and no extra field has the name of a recognized member. -/
def Sound (e : SessionError) : Prop :=
  AuthorizationParameters.Sound e.parameters.requirements e.parameters.extra ∧ Unreserved e.extra

theorem sound_of_ofObject {o : Object} {e : SessionError} (h : ofObject o = .ok e) : e.Sound :=
  ⟨sound_of_checkParameters (ofObject_eq_ok_iff.1 h).2.1, unreserved_of_ofObject h⟩

theorem sound_of_ofJson {v : Json} {e : SessionError} (h : ofJson v = .ok e) : e.Sound := by
  obtain ⟨_, -, hread⟩ := ofJson_eq_ok_iff.1 h
  exact sound_of_ofObject hread

theorem Obtainable.sound {e : SessionError} (h : e.Obtainable) : e.Sound := by
  cases h with
  | ofObject _ h => exact sound_of_ofObject h
  | ofValue _ h => exact sound_of_ofJson h
  | ofText h =>
    obtain ⟨v, -, hv⟩ := Document.canonical_of_readFrom h
    exact sound_of_ofJson hv
  | built hcalls h =>
    obtain ⟨-, hparameters, hun, hextra⟩ := Builder.build_eq_ok_iff.1 h
    have hobtainable := (Builder.canonical_run hcalls).obtainable hparameters
    exact ⟨hobtainable.sound, hextra ▸ hun⟩

/-- The session error is sound, and it is written with its two recognized members and a member for
each extra field, none in the place of another; so are its parameters. -/
structure Intact (e : SessionError) : Prop where
  sound : e.Sound
  parameters : e.parameters.Intact
  size : (e.toObject true).size = 2 + e.extra.size
  recognizedCode : (e.toObject true).get? codeName = some (.string e.code)
  recognizedParameters :
    (e.toObject true).get? parametersName = some (.ofObject (e.parameters.toObject true))
  extra (key : String) (v : Json) :
    e.extra.get? key = some v → (e.toObject true).get? key = some v

/-- The members that are written stand apart, so that they can be counted. -/
theorem Intact.of_sound {e : SessionError} (h : e.Sound) : e.Intact where
  sound := h
  parameters := .of_sound h.1
  size := by
    refine Object.size_overlay fun key v hv => ?_
    have hkey : key ∉ names := fun hkey => by cases hv.symm.trans (h.2 key hkey)
    rw [mem_names, not_or] at hkey
    rw [Object.get?_insert, if_neg hkey.2, Object.get?_insert, if_neg hkey.1, Object.get?_empty]
  recognizedCode := e.get?_toObject_codeName true
  recognizedParameters := e.get?_toObject_parametersName true
  extra key v hv := by
    have hkey : key ∉ names := fun hkey => by cases hv.symm.trans (h.2 key hkey)
    rw [get?_toObject_extra e true hkey]
    exact hv

end SessionError

/-- Nothing is written in the place of a recognized member, however parameters and session errors
were obtained; and a builder refuses only what would be. -/
theorem extra_fields_stand_apart :
    (∀ p : AuthorizationParameters, p.Obtainable → p.Intact) ∧
      (∀ e : SessionError, e.Obtainable → e.Intact) ∧
      (∀ b : AuthorizationParameters.Builder, (∃ p, b.build = .ok p) ↔
        AuthorizationParameters.Sound b.requirements b.extra) ∧
      ∀ b : SessionError.Builder, (∃ e, b.build = .ok e) ↔ (∃ code, b.code = some code) ∧
        (∃ p, b.checkedParameters = .ok p) ∧ SessionError.Unreserved b.extra :=
  ⟨fun _ h => .of_sound h.sound, fun _ h => .of_sound h.sound,
    fun _ => AuthorizationParameters.Builder.exists_build_iff,
    fun _ => SessionError.Builder.exists_build_iff⟩

/-- Calls that give a reserved name and take it back, and that set a parameter twice. -/
def parameterCalls : List AuthorizationParameters.Builder.Call :=
  [.extra "session_message" .null, .set .mfa true,
    .extraFields (Object.empty.insert "code" .null), .extra "prompt" (.array []),
    .set .mfa false, .set .scopes []]

def errorCalls (p : AuthorizationParameters) : List SessionError.Builder.Call :=
  [.rawParameters .null, .extra "code" .null, .code "a", .parameters p, .extraFields .empty,
    .extra "session_message" .null, .code "b"]

theorem extra_fields_stand_apart_sample :
    ∃ p, (AuthorizationParameters.Builder.run parameterCalls).build = .ok p ∧ p.Obtainable ∧
      p.Intact ∧ ∃ e, (SessionError.Builder.run (errorCalls p)).build = .ok e ∧ e.Obtainable ∧
        e.Intact := by
  obtain ⟨p, hp⟩ : ∃ p, (AuthorizationParameters.Builder.run parameterCalls).build = .ok p :=
    ⟨_, rfl⟩
  obtain ⟨e, he⟩ : ∃ e, (SessionError.Builder.run (errorCalls p)).build = .ok e := ⟨_, rfl⟩
  have hpcalls : ∀ call ∈ parameterCalls, call.Canonical := by
    simp [parameterCalls, AuthorizationParameters.Builder.Call.Canonical, Object.Canonical,
      Object.get?_insert, Json.Canonical, Json.CanonicalItems]
  have hpobtainable : p.Obtainable := .built hpcalls hp
  have hecalls : ∀ call ∈ errorCalls p, call.Canonical := by
    simp [errorCalls, SessionError.Builder.Call.Canonical, hpobtainable, Object.Canonical,
      Json.Canonical]
  have heobtainable : e.Obtainable := .built hecalls he
  exact ⟨p, hp, hpobtainable, extra_fields_stand_apart.1 p hpobtainable,
    e, he, heobtainable, extra_fields_stand_apart.2.1 e heobtainable⟩

end StepUp
