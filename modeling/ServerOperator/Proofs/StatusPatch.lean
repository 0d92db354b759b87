import ServerOperator.Cluster.Basic
import ServerOperator.Http.Request
import ServerOperator.Proofs.Decoding
import ServerOperator.Proofs.Guarantee
import ServerOperator.Proofs.Members
import ServerOperator.Proofs.Report

/-!
# A written status replaces the one before

A status is written as a merge patch, which keeps whatever it does not name, and an empty list of
conditions is not named. But a pass writes a condition of every type. So whatever document the patch
meets, all conditions of its status are replaced, and nothing beside the status changes.
-/

namespace ServerOperator

/-! ### Patches that set one member -/

namespace Json

variable {name other : String}

/-- A patch that sets one member. -/
theorem mergePatch_single (name : String) {change : Json} (hchange : change ≠ null)
    (document : Json) :
    (object [(name, change)]).mergePatch document =
      object (insertSorted name (change.mergePatch ((document.member? name).getD null))
        (removeMember name document.members)) := by
  cases change with
  | null => exact absurd rfl hchange
  | _ => rfl

theorem member?_mergePatch_single_self (name : String) {change : Json} (hchange : change ≠ null)
    (document : Json) :
    ((object [(name, change)]).mergePatch document).member? name =
      some (change.mergePatch ((document.member? name).getD null)) := by
  rw [mergePatch_single name hchange]
  exact lookup_insertSorted_self _ _ _

theorem member?_mergePatch_single_of_ne (hne : other ≠ name) {change : Json}
    (hchange : change ≠ null) (document : Json) :
    ((object [(name, change)]).mergePatch document).member? other = document.member? other := by
  rw [mergePatch_single name hchange]
  exact (lookup_insertSorted_of_ne hne _ _).trans (lookup_removeMember_of_ne hne _)

end Json

/-! ### Reading a patched record -/

namespace Decoder

open Json

variable {fields : List (Field σ)} {record : σ} {name : String}

/-- Beside members that are no fields, one that is a field is all that is read. -/
theorem takeMembers_insertSorted {members : List (String × Json)} {value : Json}
    (hfresh : ∀ member ∈ members, member.1 ≠ name)
    (hunknown : ∀ member ∈ members, field? fields member.1 = none) :
    takeMembers fields record (insertSorted name value members) =
      takeMembers fields record [(name, value)] := by
  obtain ⟨before, after, rfl, hinserted⟩ := insertSorted_eq_append value hfresh
  rw [List.forall_mem_append] at hunknown
  have hafter (changed : σ) : takeMembers fields changed after = .ok changed :=
    takeMembers_eq_self hunknown.2
  rw [hinserted, ← List.singleton_append, takeMembers_append, takeMembers_eq_self hunknown.1]
  change takeMembers fields record ([(name, value)] ++ after) = _
  simp only [takeMembers_append, hafter]
  exact bind_pure _

/-- Setting a field takes back what it was set to before, and does not disturb the other fields. -/
structure Overwrites (fields : List (Field σ)) (name : String) (set : σ → σ) : Prop where
  absorbs : ∀ field, field? fields name = some field → ∀ value record changed,
    field.apply value record = .ok changed → set changed = set record
  commutes : ∀ other field, other ≠ name → field? fields other = some field → ∀ value record,
    field.apply value (set record) = (field.apply value record).map set

namespace Overwrites

variable {set : σ → σ}

theorem takeMembers_of_fresh (hset : Overwrites fields name set) {members : List (String × Json)}
    (hfresh : ∀ member ∈ members, member.1 ≠ name) :
    takeMembers fields (set record) members = (takeMembers fields record members).map set := by
  induction members generalizing record with
  | nil => rfl
  | cons member rest ih =>
      obtain ⟨other, value⟩ := member
      rw [List.forall_mem_cons] at hfresh
      cases hfield : field? fields other with
      | none =>
          rw [takeMembers_cons_of_unknown hfield, takeMembers_cons_of_unknown hfield]
          exact ih hfresh.2
      | some field =>
          rw [takeMembers_cons_of_known hfield, takeMembers_cons_of_known hfield,
            hset.commutes other field hfresh.1 hfield]
          cases field.apply value record with
          | error fault => rfl
          | ok changed => exact ih hfresh.2

theorem takeMembers_removeMember (hset : Overwrites fields name set) {changed : σ}
    {members : List (String × Json)} (htaken : takeMembers fields record members = .ok changed) :
    takeMembers fields (set record) (removeMember name members) = .ok (set changed) := by
  induction members generalizing record with
  | nil =>
      cases htaken
      rfl
  | cons member rest ih =>
      obtain ⟨other, value⟩ := member
      by_cases hother : other = name
      · subst hother
        have hremoved : removeMember other ((other, value) :: rest) = removeMember other rest :=
          List.filter_cons_of_neg (by simp)
        rw [hremoved]
        cases hfield : field? fields other with
        | none =>
            rw [takeMembers_cons_of_unknown hfield] at htaken
            exact ih htaken
        | some field =>
            rw [takeMembers_cons_of_known hfield] at htaken
            cases hfirst : field.apply value record with
            | error fault =>
                rw [hfirst] at htaken
                cases htaken
            | ok first =>
                rw [hfirst] at htaken
                rw [← hset.absorbs field hfield value record first hfirst]
                exact ih htaken
      · have hkept : removeMember name ((other, value) :: rest) =
            (other, value) :: removeMember name rest := List.filter_cons_of_pos (by simpa using hother)
        rw [hkept]
        cases hfield : field? fields other with
        | none =>
            rw [takeMembers_cons_of_unknown hfield] at htaken ⊢
            exact ih htaken
        | some field =>
            rw [takeMembers_cons_of_known hfield] at htaken ⊢
            rw [hset.commutes other field hother hfield]
            cases hfirst : field.apply value record with
            | error fault =>
                rw [hfirst] at htaken
                cases htaken
            | ok first =>
                rw [hfirst] at htaken
                exact ih htaken

/-- A field is put in place of what stood there, wherever it comes among the others. -/
theorem takeMembers_insertSorted (hset : Overwrites fields name set) {field : Field σ}
    (hfield : field? fields name = some field) {value : Json}
    (hvalue : ∀ record, field.apply value record = .ok (set record)) {changed : σ}
    {members : List (String × Json)} (htaken : takeMembers fields record members = .ok changed) :
    takeMembers fields record (insertSorted name value (removeMember name members)) =
      .ok (set changed) := by
  have hfresh : ∀ member ∈ removeMember name members, member.1 ≠ name :=
    fun _ hmem => ne_of_mem_removeMember hmem
  have hothers := hset.takeMembers_removeMember htaken
  obtain ⟨before, after, hsplit, hinserted⟩ := insertSorted_eq_append value hfresh
  rw [hset.takeMembers_of_fresh hfresh] at hothers
  rw [hsplit] at hfresh hothers
  rw [hinserted, ← hothers, takeMembers_append, takeMembers_append]
  cases takeMembers fields record before with
  | error fault => rfl
  | ok first =>
      change takeMembers fields first ((name, value) :: after) =
        (takeMembers fields first after).map set
      rw [takeMembers_cons_of_known hfield, hvalue]
      exact hset.takeMembers_of_fresh fun member hmem =>
        hfresh member (List.mem_append_right before hmem)

end Overwrites

/-- With a field put in place of another one a record is read as it was, with the field set. -/
theorem record_insertSorted (name : String) (set : σ → σ) (hset : Overwrites fields name set)
    {field : Field σ} (hfield : field? fields name = some field) {value : Json}
    (hvalue : ∀ record, field.apply value record = .ok (set record)) {strict : Bool}
    {title : String} {changed : σ} {members : List (String × Json)}
    (hread : (Decoder.record strict title record fields).tree (object members) = .ok changed) :
    (Decoder.record strict title record fields).tree
        (object (insertSorted name value (removeMember name members))) = .ok (set changed) := by
  rw [record_object_eq_ok_iff] at hread ⊢
  obtain ⟨htaken, hpresent⟩ := hread
  refine ⟨hset.takeMembers_insertSorted hfield hvalue htaken, ?_⟩
  intro field hmem hrequired
  exact mem_names_insertSorted value (hpresent field hmem hrequired)

end Decoder

namespace ServerStatus

open Json

variable {status : ServerStatus}

theorem toJson_eq_object (hwritten : status.conditions ≠ []) :
    status.toJson = object [("conditions", array (status.conditions.map Condition.toJson))] := by
  have hmember : status.conditions.isEmpty = false := List.isEmpty_eq_false_iff.mpr hwritten
  unfold toJson listMember
  rw [hmember]
  rfl

/-- Onto whatever it is put, a status with conditions is read as it was written. -/
theorem tree_mergePatch (hwritten : status.conditions ≠ []) (old : Json) :
    ServerStatus.decoder.tree (status.toJson.mergePatch old) = .ok status := by
  let conditions := array (status.conditions.map Condition.toJson)
  have hread : Condition.decoder.list.tree conditions = .ok status.conditions :=
    Condition.inverts_toJson.list status.conditions
  have hpatched : status.toJson.mergePatch old =
      object (insertSorted "conditions" conditions (removeMember "conditions" old.members)) := by
    rw [toJson_eq_object hwritten]
    rfl
  rw [hpatched, ServerStatus.decoder, Decoder.record_object_eq_ok_iff]
  constructor
  · rw [Decoder.takeMembers_insertSorted fun _ => ne_of_mem_removeMember]
    · rw [Decoder.takeMembers_cons_of_known rfl, Field.apply]
      change (Condition.decoder.list.tree conditions).map _ >>= _ >>= _ = _
      rw [hread]
      rfl
    · intro member hmem
      have hne := ne_of_mem_removeMember hmem
      simp [Decoder.field?, Field.defaulted, Ne.symm hne]
  · intro field hfield hrequired
    rw [List.mem_singleton.mp hfield] at hrequired
    cases hrequired

/-- A status without conditions does not replace those that are there. -/
example (held : ServerStatus) : ServerStatus.empty.toJson.mergePatch held.toJson = held.toJson :=
  rfl

end ServerStatus

namespace Server

open Json Decoder

/-- With a status of its own put in, a record is read as it was with that status. -/
theorem tree_insertSorted_status {value : Json} {status : ServerStatus}
    (hvalue : ServerStatus.decoder.tree value = .ok status)
    {members : List (String × Json)} {server : Server}
    (hread : Server.decoder.tree (object members) = .ok server) :
    Server.decoder.tree (object (insertSorted "status" value (removeMember "status" members))) =
      .ok { server with status := some status } := by
  have hsome : ServerStatus.decoder.nullable.tree value = .ok (some status) := by
    cases value with
    | null => cases hvalue
    | _ => exact congrArg (Except.map some) hvalue
  unfold Server.decoder at hread ⊢
  refine record_insertSorted "status" (fun server => { server with status := some status })
    ⟨?_, ?_⟩ rfl ?_ hread
  · intro field hfield value record changed happly
    cases hfield
    rw [Field.optional, Field.apply_mk] at happly
    cases hheld : ServerStatus.decoder.nullable.tree value with
    | error fault =>
        rw [hheld] at happly
        cases happly
    | ok held =>
        rw [hheld] at happly
        cases happly
        rfl
  · intro other field hother hfield value record
    obtain ⟨hmem, hname⟩ := mem_of_field? hfield
    simp only [List.mem_cons, List.not_mem_nil, or_false] at hmem
    rcases hmem with rfl | rfl | rfl
    · rw [Field.required, Field.apply_mk, Field.apply_mk]
      cases Metadata.decoder.tree value <;> rfl
    · rw [Field.required, Field.apply_mk, Field.apply_mk]
      cases ServerSpec.decoder.tree value <;> rfl
    · exact absurd hname.symm hother
  · intro record
    rw [Field.optional, Field.apply_mk, hsome]
    rfl

end Server

/-! ### What a pass writes -/

theorem Call.request_writeStatus {key : Key} {status : ServerStatus} {sent : HttpRequest}
    (hsent : (Call.writeStatus key status).request = .ok sent) :
    sent.contentType = some "application/merge-patch+json" ∧
      sent.body = some (Call.request.statusPatch status) := by
  rw [Call.request] at hsent
  cases hpath : Call.objectPath .server key with
  | error error =>
      rw [hpath] at hsent
      cases hsent
  | ok path =>
      rw [hpath] at hsent
      change (Uri.ofText? (path ++ "/status?") >>= _) = _ at hsent
      cases huri : Uri.ofText? (path ++ "/status?") with
      | error error =>
          rw [huri] at hsent
          cases hsent
      | ok uri =>
          rw [huri] at hsent
          cases hsent
          exact ⟨rfl, rfl⟩

theorem Reads.conditions_status_ne_nil (reads : Reads) (name now : String)
    (fetched : Option ServerStatus) : (reads.status name now fetched).conditions ≠ [] := by
  obtain ⟨new, hmem, _⟩ := reads.exists_mem_reported name .available
  have hfind := reads.find?_status name now fetched hmem
  intro hnil
  rw [hnil] at hfind
  cases hfind

namespace Pass

/-- A pass never writes a status without conditions. -/
theorem reconcile_keeps_conditions (now : String) (key : Key) :
    (reconcile now key).Keeps (fun _ _ => True)
      (fun call => ∀ written status, call = .writeStatus written status → status.conditions ≠ [])
      fun _ => True := by
  apply keeps_reconcile
  · intro written status hcall
    cases hcall
  · intro server _
    apply keeps_tend
    · intro kind object written status hcall
      cases hcall
    · intro kind written status hcall
      cases hcall
    · intro reads written status hcall
      cases hcall
      exact reads.conditions_status_ne_nil key.name now server.status

open Json in
/-- The status that a pass writes comes through whole. Whatever it is put onto, and that may have been
changed since it was fetched, its patch sets the status to what is read as the status written, with
exactly the conditions written, and leaves every other member; so a record that could be read is read
as before, with the status written. -/
theorem written_status_replaces (backend : Backend σ) (now : String) (key written : Key) (state : σ)
    (status : ServerStatus) (answer : Option (Call.writeStatus written status).Answer)
    (hmem : Exchange.mk (.writeStatus written status) answer ∈
      (reconcile now key).exchanges backend state) (members : List (String × Json)) :
    let document := object members
    let patch := Call.request.statusPatch status
    let patched := patch.mergePatch document
    (∀ request, (Call.writeStatus written status).request = .ok request →
      request.contentType = some "application/merge-patch+json" ∧ request.body = some patch) ∧
    (∃ value, patched.member? "status" = some value ∧
      ServerStatus.decoder.tree value = .ok status ∧
      value.member? "conditions" = some (array (status.conditions.map Condition.toJson))) ∧
    (∀ name, name ≠ "status" → patched.member? name = document.member? name) ∧
    ∀ server, Server.decoder.tree document = .ok server →
      Server.decoder.tree patched = .ok { server with status := some status } := by
  intro document patch patched
  have htrace := trace_exchanges backend (reconcile now key) state
  have hwritten : status.conditions ≠ [] :=
    (reconcile_keeps_conditions now key).guarantee_of_trace htrace (fun _ _ _ _ => trivial) _ hmem
      written status rfl
  have hobject := ServerStatus.toJson_eq_object hwritten
  have hstatus : status.toJson ≠ null := by
    rw [hobject]
    nofun
  let value := status.toJson.mergePatch ((document.member? "status").getD null)
  have hvalue : ServerStatus.decoder.tree value = .ok status := ServerStatus.tree_mergePatch hwritten _
  refine ⟨?_, ⟨value, member?_mergePatch_single_self "status" hstatus document, hvalue, ?_⟩, ?_, ?_⟩
  · intro request hrequest
    exact Call.request_writeStatus hrequest
  · change (status.toJson.mergePatch _).member? "conditions" = _
    rw [hobject]
    refine member?_mergePatch_single_self "conditions" ?_ _
    nofun
  · intro name hname
    exact member?_mergePatch_single_of_ne hname hstatus document
  · intro server hread
    have hpatched : patched = object (insertSorted "status" value (removeMember "status" members)) :=
      mergePatch_single "status" hstatus document
    rw [hpatched]
    exact Server.tree_insertSorted_status hvalue hread

open Json in
/-- A status with an entry of another type, and with a member of its own, is replaced. -/
theorem written_status_replaces_otherEntries :
    let key : Key := ⟨"default", "web"⟩
    let server : Server :=
      ⟨{ Metadata.empty with name := some "web", uid := some "17" }, default, none⟩
    let cluster : Cluster := ⟨⟨[(key, server)]⟩, .empty, .empty, .empty⟩
    let document := object [("kind", string "MCPServer"), ("spec", object []),
      ("status", object [("conditions", array [object [("type", string "Progressing")]]),
        ("phase", string "Running")])]
    ∃ status,
      Exchange.mk (.writeStatus key status) (some (.ok ())) ∈
        (reconcile "t1" key).exchanges Cluster.backend cluster ∧
      let patched := (Call.request.statusPatch status).mergePatch document
      (∃ value, patched.member? "status" = some value ∧
        ServerStatus.decoder.tree value = .ok status) ∧
      patched.member? "spec" = some (object []) := by
  intro key server cluster document
  -- The write follows the fetch, the three creations and the three reads.
  refine ⟨_, .tail _ (.tail _ (.tail _ (.tail _ (.tail _ (.tail _ (.tail _ (.head _))))))), ?_⟩
  obtain ⟨_, ⟨value, hvalue, hread, _⟩, hothers, _⟩ :=
    written_status_replaces Cluster.backend "t1" key key cluster _ (some (.ok ()))
      (.tail _ (.tail _ (.tail _ (.tail _ (.tail _ (.tail _ (.tail _ (.head _)))))))) document.members
  exact ⟨⟨value, hvalue, hread⟩, hothers "spec" (by decide)⟩

end Pass

end ServerOperator
