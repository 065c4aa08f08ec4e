import Rolebook.Proofs.Fallible
import Rolebook.Proofs.Http.Sendable
import Rolebook.Proofs.Json.Kept
import Rolebook.Proofs.Json.RoundTrip
import Rolebook.Proofs.Store.Run

/-!
# Lists are read as they are written

What a server sends is written by the rules for roles, permissions and users in JSON, with some
fields under other names and a list in an envelope if the server likes. It is read as what was
written, in the same order: each item is read by itself, and one that cannot be read makes the whole
list unreadable (`Answered.run_list`). So a list is right or fails, and is never right in part
(`lists_read_back`).

An envelope is looked at twice and has to be kept in between. A member of it that nobody asks for
can therefore spoil the list, if it cannot be kept (`lists_not_always_read_back`).
-/

namespace Rolebook

namespace Http

open Json (Respelled KeptWithin)

namespace Payload

/-! ## Items -/

/-- The other names of fields. -/
def aliases : Json.Aliases :=
  [("role_id", "id"), ("permission_id", "id"), ("user_id", "id"), ("resource", "resource_type")]

/-- The role that a value is read as. -/
def role? (v : Json) : Option Role :=
  (roleInput? v).bind fun input => (Role.ofInput input).toOption

variable {v : Json}

/-- A permission is read however its fields are named, and in whatever order they come. -/
theorem permission?_respelled {p : Permission} (h : Respelled aliases p.toJson v) :
    permission? v = some p := by
  rw [permission?, Permission.slots?_respelled ⟨by decide, by decide⟩ h]
  simp only [Json.required, Id.ofJson?_toJson, Category.ofJson?_toJson, Action.ofJson?_toJson,
    Json.optionally_of_ne_null (Json.ofText_ne_null _), Json.text?_ofText]
  rfl

/-- A user is read however its fields are named, and in whatever order they come. -/
theorem user?_respelled {u : User} (h : Respelled aliases u.toJson v) : user? v = some u :=
  User.ofJsonWith?_respelled ⟨by decide, by decide⟩ h

/-- A role is read with its instants as they are written. -/
theorem role?_respelled {r : Role} (h : Respelled aliases r.toJson v) :
    role? v = some r.asWritten := by
  have hinput : roleInput? v = some r.asWritten.toInput :=
    RoleInput.ofJsonWith?_respelled ⟨by decide, by decide⟩ (fun _ _ => permission?_respelled) h
  rw [role?, hinput, Option.bind_some]
  exact congrArg Except.toOption (Role.ofInput_toInput r.asWritten r.userCount)

/-- A value is read as no role if it is read as no input, or as one with a blank name. -/
theorem role?_eq_none_iff :
    role? v = none ↔ ∀ input, roleInput? v = some input → Text.trim input.name = "" := by
  have hinput : ∀ input : RoleInput,
      (Role.ofInput input).toOption = none ↔ Text.trim input.name = "" := by
    intro input
    rw [← NonBlank.ofText?_eq_none_iff, Role.ofInput, NonBlank.read]
    cases NonBlank.ofText? input.name <;> simp [Except.map, Except.toOption]
  rw [role?, Option.bind_eq_none_iff]
  exact forall_congr' fun input => imp_congr_right fun _ => hinput input

theorem keptWithin_permission (p : Permission) : KeptWithin 1 p.toJson := by
  refine Json.keptWithin_record_iff.mpr ?_
  simp only [List.map_cons, List.map_nil, List.forall_mem_cons]
  exact ⟨Json.keptWithin_ofText _, Json.keptWithin_ofText _, Json.keptWithin_ofText _,
    Json.keptWithin_ofText _, nofun⟩

theorem keptWithin_user (u : User) : KeptWithin 1 u.toJson := by
  refine Json.keptWithin_record_iff.mpr ?_
  simp only [List.map_cons, List.map_nil, List.forall_mem_cons]
  exact ⟨Json.keptWithin_ofText _, Json.keptWithin_ofText _,
    Json.keptWithin_optional Json.keptWithin_ofText _,
    Json.keptWithin_optional Json.keptWithin_ofText _, nofun⟩

/-- A role nests its permissions in a list, so it is three levels deep. -/
theorem keptWithin_role (r : Role) : KeptWithin 3 r.toJson := by
  refine Json.keptWithin_record_iff.mpr ?_
  simp only [List.map_cons, List.map_nil, List.forall_mem_cons]
  refine ⟨Json.keptWithin_ofText _, Json.keptWithin_ofText _, Json.keptWithin_ofText _,
    Json.keptWithin_optional (fun a : NonBlank => Json.keptWithin_ofText a.text) _,
    Json.keptWithin_bool _, ?_, Json.keptWithin_ofNat _,
    Json.keptWithin_optional (fun t : Instant => Json.keptWithin_ofText t.text) _,
    Json.keptWithin_optional (fun t : Instant => Json.keptWithin_ofText t.text) _, nofun⟩
  refine Json.keptWithin_array_iff.mpr fun w hw => ?_
  obtain ⟨p, -, rfl⟩ := List.mem_map.mp hw
  exact keptWithin_permission p

/-! ## Lists -/

/-- A value that lists items: an array of them, or an envelope with the array under `items` and with
other members around it. -/
inductive Lists (items : List Json) : List (Option String × Json) → Json → Prop where
  | bare : Lists items [] (.array items)
  | enveloped {before after : List (Option String × Json)}
      (others : ∀ m ∈ before ++ after, m.1 ≠ some "items") :
      Lists items (before ++ after) (.object (before ++ (some "items", .array items) :: after))

variable {α : Type} {items : List Json} {others : List (Option String × Json)}

theorem valuesOf_append (field : Json.Field) (members members' : List (Option String × Json)) :
    Json.valuesOf field (members ++ members')
      = Json.valuesOf field members ++ Json.valuesOf field members' :=
  List.filterMap_append

/-- Members of other names do not count as a field. -/
theorem valuesOf_eq_nil {name : String} {members : List (Option String × Json)}
    (h : ∀ m ∈ members, m.1 ≠ some name) : Json.valuesOf [name] members = [] := by
  refine List.filterMap_eq_nil_iff.mpr fun ⟨name', w⟩ hm => ?_
  cases name' with
  | none => rfl
  | some name' =>
    have hne : name' ≠ name := fun he => h _ hm (congrArg some he)
    simp [hne]

/-- The items of a list that can be kept are read one by one. -/
theorem list?_of_lists (h : Lists items others v) (decode : Json → Option α) :
    list? decode v = if v.isKept then items.mapM decode else none := by
  rw [list?]
  split
  next hkept =>
    cases h with
    | bare => rfl
    | @enveloped before after hothers =>
      obtain ⟨hbefore, hafter⟩ := List.forall_mem_append.mp hothers
      have hslot : Json.memberSlot? (before ++ (some "items", .array items) :: after) ["items"]
          = some (some (.array items)) := by
        rw [Json.memberSlot?, List.append_cons, valuesOf_append, valuesOf_append,
          valuesOf_eq_nil hbefore, valuesOf_eq_nil hafter]
        rfl
      -- what can be kept has legible names
      have hnames : (before ++ (some "items", Json.array items) :: after).all
          (fun m => m.1.isSome) = true := by
        have hmembers := Json.keptWithin_object_iff.mp (Json.isKept_iff.mp hkept)
        exact List.all_eq_true.mpr fun m hm => (hmembers m hm).1
      rw [items?, Json.objectSlots?, if_pos hnames]
      simp only [List.mapM_cons, List.mapM_nil, hslot]
      rfl
  next => rfl

/-- A list can be kept if what stands around its items can, and if each item is legible and not too
deep. -/
theorem isKept_of_lists (h : Lists items others v) (hitems : ∀ w ∈ items, KeptWithin 125 w)
    (hothers : (Json.object others).isKept = true) : v.isKept = true := by
  rw [Json.isKept_iff] at hothers ⊢
  cases h with
  | bare =>
    exact Json.keptWithin_array_iff.mpr fun w hw => (hitems w hw).mono (by decide)
  | enveloped =>
    have hmembers := Json.keptWithin_object_iff.mp hothers
    refine Json.keptWithin_object_iff.mpr ?_
    rw [List.forall_mem_append, List.forall_mem_cons]
    obtain ⟨hbefore, hafter⟩ := List.forall_mem_append.mp hmembers
    exact ⟨hbefore, ⟨rfl, Json.keptWithin_array_iff.mpr hitems⟩, hafter⟩

end Payload

/-! ## Calls -/

section Calls

open Payload

variable {σ : Type} {send : Transport (StateM σ)} {b : Backend} {c : Gateway.Call} {s s' : σ}
  {v : Json} {items : List Json} {others : List (Option String × Json)}

/-- What a call for a list gives when its answer lists items: what `decode` reads from each of them,
if it reads them all and the answer can be kept. -/
theorem Answered.run_list {α : Type} (h : Answered send b c s v s') (hlists : Lists items others v)
    (decode : Json → Option α) :
    ((fetch send b (list? decode) c).run.run s).2 = s' ∧
      ((fetch send b (list? decode) c).run.run s).1.toOption
        = if v.isKept then items.mapM decode else none := by
  rw [← list?_of_lists hlists]
  exact h.run_fetch _

/-- A list of roles comes from the roles in it, one by one; one that is no role spoils it. -/
theorem Answered.run_listRoles (h : Answered send b .listRoles s v s')
    (hlists : Lists items others v) :
    ((listRoles send b).run.run s).2 = s' ∧
      ((listRoles send b).run.run s).1.toOption
        = if v.isKept then items.mapM role? else none := by
  have hread : (list? roleInput? v).bind (fun inputs => (inputs.mapM Role.ofInput).toOption)
      = if v.isKept then items.mapM role? else none := by
    simp only [list?_of_lists hlists, toOption_mapM]
    split
    · exact mapM_bind_mapM _ _ _
    · rfl
  rw [← hread]
  exact h.run_fetch_bind _ _

/-- A role that is asked for by itself is the one in the answer. -/
theorem Answered.run_getRole {id : RoleId} (h : Answered send b (.getRole id) s v s') :
    ((fetchRole send b (.getRole id)).run.run s).2 = s' ∧
      ((fetchRole send b (.getRole id)).run.run s).1.toOption = role? v :=
  h.run_fetch_bind _ _

/-- A computation that has come to a value has not failed. -/
theorem eq_ok_of_toOption {α : Type} {r : Except Fault α × σ} {a : α}
    (h : r.2 = s' ∧ r.1.toOption = some a) : r = (.ok a, s') := by
  obtain ⟨_ | _, _⟩ := r
  · cases h.2
  · cases h.1; cases h.2; rfl

/-- A computation that has come to no value has failed with some fault. -/
theorem eq_error_of_toOption {α : Type} {r : Except Fault α × σ}
    (h : r.2 = s' ∧ r.1.toOption = none) : ∃ fault, r = (.error fault, s') := by
  obtain ⟨fault | _, _⟩ := r
  · cases h.1; exact ⟨fault, rfl⟩
  · cases h.2

variable (send b) in
/-- A call that is answered with a list of items gives what they tell of what was written in them,
in their order; and it fails if there is an item that `decode` does not read. -/
def ReadsBack {α : Type} (x : Attempt (StateM σ) (List α)) (c : Gateway.Call) (encode : α → Json)
    (told : α → α) (decode : Json → Option α) : Prop :=
  ∀ (s s' : σ) (v : Json) (items : List Json) (others : List (Option String × Json)),
    Answered send b c s v s' → Lists items others v →
      (∀ as : List α, List.Forall₂ (Respelled aliases) (as.map encode) items →
        (Json.object others).isKept = true → x.run.run s = (.ok (as.map told), s')) ∧
      (∀ as : List α, (x.run.run s).1 = .ok as →
        List.Forall₂ (fun item a => decode item = some a) items as) ∧
      ((∃ item ∈ items, decode item = none) → ∃ fault, x.run.run s = (.error fault, s'))

/-- To show that a call reads back what was written, it is enough to read back one item and to know
that it is not deep. -/
theorem readsBack_of_run {α : Type} {x : Attempt (StateM σ) (List α)} {encode : α → Json}
    {told : α → α} {decode : Json → Option α}
    (hrun : ∀ {s s' : σ} {v : Json} {items : List Json} {others : List (Option String × Json)},
      Answered send b c s v s' → Lists items others v →
        (x.run.run s).2 = s' ∧
          (x.run.run s).1.toOption = if v.isKept then items.mapM decode else none)
    (hback : ∀ (a : α) (v : Json), Respelled aliases (encode a) v → decode v = some (told a))
    (hkept : ∀ a, KeptWithin 125 (encode a)) : ReadsBack send b x c encode told decode := by
  intro s s' v items others h hlists
  have hx := hrun h hlists
  refine ⟨fun as has hothers => eq_ok_of_toOption ⟨hx.1, ?_⟩, fun as has => ?_, fun hbad => ?_⟩
  · have hitems : ∀ w ∈ items, KeptWithin 125 w := by
      intro w hw
      obtain ⟨i, hi, rfl⟩ := List.getElem_of_mem hw
      have hlength := has.length_eq
      obtain ⟨a, -, ha⟩ := List.mem_map.mp (List.getElem_mem (hlength ▸ hi))
      exact (ha ▸ hkept a).respelled ((List.forall₂_iff_get.mp has).2 i (hlength ▸ hi) hi)
    rw [hx.2, if_pos (isKept_of_lists hlists hitems hothers), mapM_eq_some_iff]
    rw [List.forall₂_map_right_iff]
    exact ((List.forall₂_map_left_iff.mp has).imp fun a w => hback a w).flip
  · have hread := hx.2
    rw [has] at hread
    split at hread
    · exact mapM_eq_some_iff.mp hread.symm
    · cases hread
  · obtain ⟨w, hw, hnone⟩ := hbad
    refine eq_error_of_toOption ⟨hx.1, ?_⟩
    rw [hx.2, mapM_eq_none hw hnone, ite_self]

/-- **Lists are read as they are written.** Whatever the server, a list of roles, permissions or
users that is written item by item, bare or in an envelope whose other members can be kept, is read
as that list, and a role that is asked for by itself as that role; in a role, a leap second inside a
minute is read as the second after it. Nothing is ever left out, doubled or moved: what is read
comes from the items one by one, and an item that cannot be read, such as a role with a blank name,
makes the whole call fail. -/
theorem lists_read_back (send : Transport (StateM σ)) (dispatch : Dispatch (StateM σ))
    (b : Backend) :
    let g := gateway send dispatch b
    ReadsBack send b g.listRoles .listRoles Role.toJson Role.asWritten role? ∧
    ReadsBack send b g.listPermissions .listPermissions Permission.toJson id permission? ∧
    ReadsBack send b g.listUsers .listUsers User.toJson id user? ∧
    (∀ role, ReadsBack send b (g.listMembers role) (.members role) User.toJson id user?) ∧
    (∀ (role : RoleId) (s s' : σ) (v : Json) (r : Role), Answered send b (.getRole role) s v s' →
      Respelled aliases r.toJson v → (g.getRole role).run.run s = (.ok r.asWritten, s')) ∧
    (∀ r : Role, r.asWritten = r ↔
      ∀ t : Instant, r.createdAt = some t ∨ r.updatedAt = some t → t.EndsMinute) ∧
    ∀ item : Json, role? item = none ↔
      ∀ input, roleInput? item = some input → Text.trim input.name = "" := by
  have husers : ∀ {c : Gateway.Call},
      ReadsBack send b (fetch send b (list? user?) c) c User.toJson id user? :=
    readsBack_of_run (fun h hlists => h.run_list hlists _) (fun _ _ => user?_respelled)
      fun u => (keptWithin_user u).mono (by decide)
  refine ⟨?_, ?_, husers, fun role => husers, fun role s s' v r h hr => ?_,
    fun _ => Role.asWritten_eq_self_iff, fun _ => role?_eq_none_iff⟩
  · exact readsBack_of_run Answered.run_listRoles (fun _ _ => role?_respelled)
      fun r => (keptWithin_role r).mono (by decide)
  · exact readsBack_of_run (fun h hlists => h.run_list hlists _) (fun _ _ => permission?_respelled)
      fun p => (keptWithin_permission p).mono (by decide)
  · have hx := h.run_getRole
    exact eq_ok_of_toOption ⟨hx.1, hx.2.trans (role?_respelled hr)⟩

end Calls

/-- A server that gives the same answer to everything. -/
def canned (body : String) : Transport (StateM Unit) := fun _ s =>
  (.answer 200 (some (Text.Utf8.encode body.toList)), s)

theorem answered_canned {body : String} {v : Json} {c : Gateway.Call} {request : Request}
    (hrequest : office.request c = .ok request) (hbody : Json.read? body = some v) :
    Answered (canned body) office c () v () :=
  ⟨request, 200, _, hrequest, rfl, rfl, hbody⟩

/-- A user, whose id goes under its short name. -/
def shortAda : Json :=
  .record [("id", .ofText "00000000-0000-0000-0000-000000000001"), ("username", .ofText "ada"),
    ("display_name", .null), ("email", .null)]

theorem respelled_ada : Respelled Payload.aliases Store.ada.toJson shortAda := by
  have hid : Store.ada.id.text = "00000000-0000-0000-0000-000000000001" := by decide
  rw [shortAda, ← hid]
  refine .record ?_ ?_ (.refl _)
  · exact .cons (Or.inr (by decide)) (.cons (Or.inl rfl) (.cons (Or.inl rfl)
      (.cons (Or.inl rfl) .nil)))
  · exact List.forall₂_same.mpr fun v _ => .same v

/-- An envelope with one user and the number of users. -/
def enveloped : String :=
  "\x7b\"total\":1,\"items\":[\x7b\"id\":\"00000000-0000-0000-0000-000000000001\","
    ++ "\"username\":\"ada\",\"display_name\":null,\"email\":null\x7d]\x7d"

/-- The text of the envelope, read token by token. -/
theorem read?_enveloped : Json.read? enveloped
    = some (.object [(some "total", .number (.natural 1)), (some "items", .array [shortAda])]) := by
  have htokens : Json.tokens? (Text.Utf8.encode enveloped.toList) = some
      [.openObject, .string "total", .colon, .number (.natural 1), .comma, .string "items", .colon,
        .openArray, .openObject, .string "id", .colon,
        .string "00000000-0000-0000-0000-000000000001", .comma, .string "username", .colon,
        .string "ada", .comma, .string "display_name", .colon, .null, .comma, .string "email",
        .colon, .null, .closeObject, .closeArray, .closeObject] := by
    decide +kernel
  rw [Json.read?, Json.ofBytes?, htokens]
  rfl

theorem lists_read_back_enveloped :
    ((gateway (canned enveloped) inTurn office).listUsers).run.run () = (.ok [Store.ada], ()) := by
  have hlists : Payload.Lists [shortAda] [(some "total", .number (.natural 1))]
      (.object [(some "total", .number (.natural 1)), (some "items", .array [shortAda])]) :=
    @Payload.Lists.enveloped _ [(some "total", .number (.natural 1))] [] (by decide)
  have hread := (lists_read_back (canned enveloped) inTurn office).2.2.1 () () _ _ _
    (answered_canned rfl read?_enveloped) hlists
  exact hread.1 [Store.ada] (.cons respelled_ada .nil) (by decide +kernel)

/-- An envelope without users, and a number of users that is beyond double precision. -/
def spoiled : String := "\x7b\"total\":1e400,\"items\":[]\x7d"

/-- A role that was made within a leap second, as a server sends it. -/
def sentWatch : String :=
  "\x7b\"role_id\":\"00000000-0000-0000-0000-000000000011\",\"name\":\"Night watch\","
    ++ "\"display_name\":\"Night watch\",\"description\":null,\"is_system\":false,"
    ++ "\"permissions\":[],\"user_count\":0,\"created_at\":\"2016-12-31T12:34:57.500Z\","
    ++ "\"updated_at\":null\x7d"

/-- What is written of the role names the ordinary second that comes after the leap second. -/
theorem toJson_nightWatch : nightWatch.toJson = .record
    [("role_id", .ofText "00000000-0000-0000-0000-000000000011"), ("name", .ofText "Night watch"),
      ("display_name", .ofText "Night watch"), ("description", .null), ("is_system", .bool false),
      ("permissions", .array []), ("user_count", .ofNat 0),
      ("created_at", .ofText "2016-12-31T12:34:57.500Z"), ("updated_at", .null)] := by
  have hid : nightWatch.id.text = "00000000-0000-0000-0000-000000000011" := by decide
  have hcreated : nightWatch.createdAt.map Instant.text = some "2016-12-31T12:34:57.500Z" := by
    decide +kernel
  rw [← hid, ← Option.some.inj hcreated]
  rfl

theorem read?_sentWatch : Json.read? sentWatch = some nightWatch.toJson := by
  have htokens : Json.tokens? (Text.Utf8.encode sentWatch.toList) = some
      [.openObject, .string "role_id", .colon,
        .string "00000000-0000-0000-0000-000000000011", .comma, .string "name", .colon,
        .string "Night watch", .comma, .string "display_name", .colon, .string "Night watch",
        .comma, .string "description", .colon, .null, .comma,
        .string "is_system", .colon, .bool false, .comma, .string "permissions", .colon, .openArray,
        .closeArray, .comma, .string "user_count", .colon, .number (.natural 0), .comma,
        .string "created_at", .colon, .string "2016-12-31T12:34:57.500Z", .comma,
        .string "updated_at", .colon, .null, .closeObject] := by
    decide +kernel
  rw [toJson_nightWatch, Json.read?, Json.ofBytes?, htokens]
  rfl

/-- Not everything that is written is read back. It is not enough for a list that the envelope is
not nested too deep: a number in it that nobody asks for can make the call fail. And a role that was
made in a leap second inside a minute is another role when it has been read. -/
theorem lists_not_always_read_back :
    (¬ ∀ (send : Transport (StateM Unit)) (b : Backend) (users : List User) (items : List Json)
      (others : List (Option String × Json)) (v : Json),
      Answered send b .listUsers () v () → Payload.Lists items others v →
      List.Forall₂ (Respelled Payload.aliases) (users.map User.toJson) items →
      (Json.object others).depth ≤ Json.depthLimit →
      (gateway send inTurn b).listUsers.run.run () = (.ok users, ())) ∧
    ¬ ∀ (send : Transport (StateM Unit)) (b : Backend) (role : RoleId) (r : Role) (v : Json),
      Answered send b (.getRole role) () v () → Respelled Payload.aliases r.toJson v →
      ((gateway send inTurn b).getRole role).run.run () = (.ok r, ()) := by
  constructor
  · intro hall
    let vast : Option String × Json := (some "total", .number (.scaled 1 400))
    have hanswered : Answered (canned spoiled) office .listUsers ()
        (.object [vast, (some "items", .array [])]) () := answered_canned rfl rfl
    have hlists : Payload.Lists [] [vast] (.object [vast, (some "items", .array [])]) :=
      @Payload.Lists.enveloped _ [vast] [] (by decide)
    have hkept : (Json.object [vast, (some "items", .array [])]).isKept = false := by decide
    have hlisted := hall _ _ [] _ _ _ hanswered hlists .nil (by decide)
    have hfails := (hanswered.run_list hlists Payload.user?).2
    rw [hkept] at hfails
    have hsame : (fetch (canned spoiled) office (Payload.list? Payload.user?) .listUsers).run.run ()
        = (.ok [], ()) := hlisted
    rw [hsame] at hfails
    cases hfails
  · intro hall
    have hanswered : Answered (canned sentWatch) office (.getRole nightWatch.id) ()
        nightWatch.toJson () := answered_canned rfl read?_sentWatch
    have hread := hanswered.run_getRole.2
    rw [Payload.role?_respelled (.same _)] at hread
    have hsame : (fetchRole (canned sentWatch) office (.getRole nightWatch.id)).run.run ()
        = (.ok nightWatch, ()) := hall _ _ _ _ _ hanswered (.same _)
    rw [hsame] at hread
    exact absurd (Option.some.inj hread) (by decide)

end Http

end Rolebook
