import ServerOperator.Proofs.ReadMetadata
import ServerOperator.Proofs.Widening
import ServerOperator.Resource.Route

/-!
# Servers and routes are read back as they were written

Every field is left out of a document under the same condition under which its absence is read as
its value. So a list that was left out, an empty one, and a longer one stay apart.
-/

namespace ServerOperator

open Json

open Decoder

/-! ### Server records -/

theorem ServerSpec.inverts_toJson : ServerSpec.decoder.Inverts ServerSpec.toJson := by
  rintro ⟨image, command, args⟩
  rw [decoder, toJson, record_object_eq_ok_iff]
  constructor
  · rw [List.append_assoc,
      takeMembers_optionalMember rfl rfl inverts_strings.of_mem (fun _ => nofun),
      takeMembers_optionalMember rfl rfl inverts_strings.of_mem (fun _ => nofun),
      takeMembers_member rfl (inverts_string image)]
    rfl
  · simp [Field.required, Field.defaulted]

theorem ServerStatus.inverts_toJson : ServerStatus.decoder.Inverts ServerStatus.toJson := by
  rintro ⟨conditions⟩
  rw [decoder, toJson, record_object_eq_ok_iff]
  constructor
  · rw [← List.append_nil (listMember _ _ _),
      takeMembers_listMember rfl rfl Condition.inverts_toJson]
    rfl
  · simp [Field.defaulted]

theorem Server.tree_toJson {server : Server}
    (hmetadata : Metadata.decoder.tree server.metadata.toJson = .ok server.metadata) :
    Server.decoder.tree server.toJson = .ok server := by
  obtain ⟨metadata, spec, status⟩ := server
  rw [decoder, toJson, record_object_eq_ok_iff]
  constructor
  · simp only [List.cons_append, List.nil_append]
    rw [takeMembers_cons_of_unknown rfl, takeMembers_cons_of_unknown rfl,
      takeMembers_member rfl hmetadata, takeMembers_member rfl (ServerSpec.inverts_toJson spec),
      ← List.append_nil (optionalMember _ _ _),
      takeMembers_optionalMember rfl rfl ServerStatus.inverts_toJson.of_mem (fun _ => nofun)]
    rfl
  · simp [Field.required, Field.optional]

/-! ### Routes -/

theorem RouteTarget.inverts_toJson : RouteTarget.decoder.Inverts RouteTarget.toJson := by
  rintro ⟨kind, name, weight⟩
  rw [decoder, toJson, record_object_eq_ok_iff]
  constructor
  · simp only [List.cons_append, List.nil_append]
    rw [takeMembers_member rfl (inverts_string kind), takeMembers_member rfl (inverts_string name),
      ← List.append_nil (optionalMember _ _ _),
      takeMembers_optionalMember rfl rfl inverts_int32.of_mem (fun _ => nofun)]
    rfl
  · simp [Field.required, Field.defaulted]

theorem PortTarget.inverts_toJson : PortTarget.decoder.Inverts PortTarget.toJson := by
  rintro (value | name)
  · have hlow := value.le_toInt
    have hhigh := value.toInt_lt
    change (if -2147483648 ≤ value.toInt ∧ value.toInt ≤ 2147483647 then
      Except.ok (PortTarget.number (Int32.ofInt value.toInt)) else _) = _
    rw [if_pos (by omega), Int32.ofInt_toInt]
  · rfl

theorem RoutePort.inverts_toJson : RoutePort.decoder.Inverts RoutePort.toJson := by
  rintro ⟨target⟩
  rw [decoder, toJson, record_object_eq_ok_iff]
  constructor
  · rw [takeMembers_member rfl (PortTarget.inverts_toJson target)]
    rfl
  · simp [Field.required]

theorem RouteSpec.inverts_toJson : RouteSpec.decoder.Inverts RouteSpec.toJson := by
  rintro ⟨host, path, target, port⟩
  rw [decoder, toJson, record_object_eq_ok_iff]
  constructor
  · simp only [List.append_assoc]
    rw [takeMembers_optionalMember rfl rfl inverts_string.of_mem (fun _ => nofun),
      takeMembers_optionalMember rfl rfl inverts_string.of_mem (fun _ => nofun),
      takeMembers_optionalMember rfl rfl RoutePort.inverts_toJson.of_mem (fun _ => nofun),
      takeMembers_member rfl (RouteTarget.inverts_toJson target)]
    rfl
  · simp [Field.required, Field.defaulted]

theorem RouteCondition.inverts_toJson : RouteCondition.decoder.Inverts RouteCondition.toJson := by
  rintro ⟨type, status, reason, message⟩
  rw [decoder, toJson, record_object_eq_ok_iff]
  constructor
  · simp only [List.append_assoc]
    rw [takeMembers_optionalMember rfl rfl inverts_string.of_mem (fun _ => nofun),
      takeMembers_optionalMember rfl rfl inverts_string.of_mem (fun _ => nofun),
      takeMembers_member rfl (inverts_string status), takeMembers_member rfl (inverts_string type)]
    rfl
  · simp [Field.required, Field.defaulted]

theorem RouteIngress.inverts_toJson : RouteIngress.decoder.Inverts RouteIngress.toJson := by
  rintro ⟨host, routerName, conditions⟩
  rw [decoder, toJson, record_object_eq_ok_iff]
  constructor
  · rw [← List.append_nil (_ ++ optionalMember "routerName" _ _)]
    simp only [List.append_assoc]
    rw [takeMembers_listMember rfl rfl RouteCondition.inverts_toJson,
      takeMembers_optionalMember rfl rfl inverts_string.of_mem (fun _ => nofun),
      takeMembers_optionalMember rfl rfl inverts_string.of_mem (fun _ => nofun)]
    rfl
  · simp [Field.defaulted]

theorem RouteStatus.inverts_toJson : RouteStatus.decoder.Inverts RouteStatus.toJson := by
  rintro ⟨ingress⟩
  rw [decoder, toJson, record_object_eq_ok_iff]
  constructor
  · rw [← List.append_nil (listMember _ _ _),
      takeMembers_listMember rfl rfl RouteIngress.inverts_toJson]
    rfl
  · simp [Field.defaulted]

theorem Route.tree_toJson {route : Route}
    (hmetadata : Metadata.decoder.tree route.metadata.toJson = .ok route.metadata) :
    Route.decoder.tree route.toJson = .ok route := by
  obtain ⟨metadata, spec, status⟩ := route
  rw [decoder, toJson, record_object_eq_ok_iff]
  constructor
  · simp only [List.cons_append, List.nil_append]
    rw [takeMembers_cons_of_unknown rfl, takeMembers_cons_of_unknown rfl,
      takeMembers_member rfl hmetadata, takeMembers_member rfl (RouteSpec.inverts_toJson spec),
      ← List.append_nil (optionalMember _ _ _),
      takeMembers_optionalMember rfl rfl RouteStatus.inverts_toJson.of_mem (fun _ => nofun)]
    rfl
  · simp [Field.required, Field.optional]

/-! ### Whole objects -/

theorem Server.ordered_of_tree {document : Json} {server : Server}
    (hread : Server.decoder.tree document = .ok server) : server.metadata.Ordered := by
  let P (server : Server) := server.metadata.Ordered
  refine record_keeps (P := P) ?_ Metadata.ordered_empty hread
  simp only [List.forall_mem_cons]
  refine ⟨?_, ?_, ?_, List.forall_mem_nil _⟩
  · exact Field.keeps_mk (P := P) fun hmetadata _ => Metadata.ordered_of_tree hmetadata
  · refine Field.keeps_mk (P := P) ?_
    exact fun _ hbefore => hbefore
  · refine Field.keeps_mk (P := P) ?_
    exact fun _ hbefore => hbefore

theorem Route.ordered_of_tree {document : Json} {route : Route}
    (hread : Route.decoder.tree document = .ok route) : route.metadata.Ordered := by
  let P (route : Route) := route.metadata.Ordered
  refine record_keeps (P := P) ?_ Metadata.ordered_empty hread
  simp only [List.forall_mem_cons]
  refine ⟨?_, ?_, ?_, List.forall_mem_nil _⟩
  · exact Field.keeps_mk (P := P) fun hmetadata _ => Metadata.ordered_of_tree hmetadata
  · refine Field.keeps_mk (P := P) ?_
    exact fun _ hbefore => hbefore
  · refine Field.keeps_mk (P := P) ?_
    exact fun _ hbefore => hbefore

/-- Servers and routes survive being written and read, if their metadata do. All that were read from
some document do, so what is written of them stays the same from then on. Members that are unknown
to a record change nothing about how a document is read. -/
theorem written_objects_read_back :
    (∀ server : Server, Metadata.decoder.tree server.metadata.toJson = .ok server.metadata →
      Server.decoder.tree server.toJson = .ok server) ∧
    (∀ route : Route, Metadata.decoder.tree route.metadata.toJson = .ok route.metadata →
      Route.decoder.tree route.toJson = .ok route) ∧
    (∀ document server, Server.decoder.tree document = .ok server →
      Server.decoder.tree server.toJson = .ok server) ∧
    (∀ document route, Route.decoder.tree document = .ok route →
      Route.decoder.tree route.toJson = .ok route) ∧
    ∀ {α : Type} {decoder : Decoder α} {narrow wide : Json}, Widens decoder narrow wide →
      decoder.tree wide = decoder.tree narrow :=
  ⟨fun _ hmetadata => Server.tree_toJson hmetadata,
    fun _ hmetadata => Route.tree_toJson hmetadata,
    fun _ _ hread => Server.tree_toJson (Server.ordered_of_tree hread).tree_toJson,
    fun _ _ hread => Route.tree_toJson (Route.ordered_of_tree hread).tree_toJson,
    fun hwidens => hwidens.tree_eq⟩

/-- A server with an empty command and an empty status, a route with a weight and a numbered port,
labels that come in another order, and an unknown member of a route's target. -/
theorem written_objects_read_back_emptyCommand :
    let server : Server := ⟨{ Metadata.empty with name := some "web" },
      ⟨"quay.io/web", some [], none⟩, some ⟨[]⟩⟩
    let route : Route := ⟨Metadata.empty, ⟨none, some "/mcp", ⟨"Service", "web", some 100⟩,
      some ⟨.number 8080⟩⟩, some ⟨[⟨none, some "outer", []⟩]⟩⟩
    let disordered := object [
      ("metadata", object [("labels", object [("b", string "2"), ("a", string "1")])]),
      ("spec", object [("image", string "quay.io/web")])]
    let document (others : List (String × Json)) :=
      let target := object ([("kind", string "Service"), ("name", string "web")] ++ others)
      object [("metadata", object []), ("spec", object [("to", target)])]
    Server.decoder.tree server.toJson = .ok server ∧ Route.decoder.tree route.toJson = .ok route ∧
      (∃ read, Server.decoder.tree disordered = .ok read ∧
        Server.decoder.tree read.toJson = .ok read) ∧
      (∃ read, Route.decoder.tree (document []) = .ok read ∧
        Route.decoder.tree (document [("port", string "http")]) = .ok read ∧
        Route.decoder.tree read.toJson = .ok read) := by
  intro server route disordered document
  obtain ⟨hserver, hroute, hservers, hroutes, hwidens⟩ := written_objects_read_back
  obtain ⟨first, hfirst⟩ : ∃ read, Server.decoder.tree disordered = .ok read := ⟨_, rfl⟩
  obtain ⟨second, hsecond⟩ : ∃ read, Route.decoder.tree (document []) = .ok read := ⟨_, rfl⟩
  have htarget : Widens Route.decoder (document []) (document [("port", string "http")]) :=
    .member [("metadata", object [])] [] rfl <| .map _ <| .member [] [] rfl <| .map _ <|
      .unknown [("kind", string "Service"), ("name", string "web")] [] (string "http") rfl
  exact ⟨hserver server rfl, hroute route rfl, ⟨first, hfirst, hservers _ _ hfirst⟩,
    second, hsecond, (hwidens htarget).trans hsecond, hroutes _ _ hsecond⟩

end ServerOperator
