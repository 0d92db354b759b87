import ServerOperator.Proofs.Decoding
import ServerOperator.Proofs.Members

/-!
# Metadata that were read are read back

Labels and annotations are kept in ascending order of their names, whatever order they come in. So
labels in another order are not read back as they are; but no labels that were read are in another.
-/

namespace ServerOperator

open Json

namespace Decoder

variable {decoder : Decoder α} {encode : α → Json}

theorem ascending_dictionary {document : Json} {read : List (String × α)}
    (hread : decoder.dictionary.tree document = .ok read) : Ascending read := by
  cases document with
  | object members =>
      refine foldlM_keeps (fun member _ before after hmember hbefore => ?_) List.Pairwise.nil hread
      obtain ⟨value, _, hafter⟩ := exists_of_bind_eq_ok hmember
      cases hafter
      exact hbefore.insertSorted
  | _ => cases hread

theorem Inverts.dictionary (hinverts : decoder.Inverts encode) {entries : List (String × α)}
    (hascending : Ascending entries) :
    decoder.dictionary.tree (object (entries.map fun entry => (entry.1, encode entry.2))) =
      .ok entries := by
  -- All names taken so far are smaller than those that are left, so each entry is appended.
  suffices hfold : ∀ before after, Ascending (before ++ after) →
      (after.map fun entry => (entry.1, encode entry.2)).foldlM (fun held member => do
        let value ← decoder.tree member.2
        return insertSorted member.1 value held) before = Except.ok (before ++ after) from
    hfold [] entries hascending
  intro before after hsplit
  induction after generalizing before with
  | nil =>
      rw [List.append_nil]
      rfl
  | cons entry rest ih =>
      obtain ⟨name, value⟩ := entry
      have hlast : ∀ earlier ∈ before, earlier.1 < name := fun earlier hearlier =>
        (List.pairwise_append.mp hsplit).2.2 earlier hearlier _ List.mem_cons_self
      rw [List.append_cons] at hsplit ⊢
      rw [List.map_cons, List.foldlM_cons, hinverts value]
      change List.foldlM _ (insertSorted name value before) _ = _
      rw [insertSorted_eq_append_of_lt hlast]
      exact ih (before ++ [(name, value)]) hsplit

theorem inverts_string : Decoder.string.Inverts Json.string :=
  fun _ => rfl

theorem inverts_strings : Decoder.string.list.Inverts strings :=
  inverts_string.list

theorem inverts_bool : Decoder.bool.Inverts Json.bool :=
  fun _ => rfl

theorem inverts_integer {expected : String} {low high : Int} {convert : Int → α} {number : α → Int}
    (hlow : ∀ value, low ≤ number value) (hhigh : ∀ value, number value ≤ high)
    (hconvert : ∀ value, convert (number value) = value) :
    (Decoder.integer expected low high convert).Inverts
      fun value => Json.integer (number value) := by
  intro value
  change (if low ≤ number value ∧ number value ≤ high then Except.ok (convert (number value))
    else _) = _
  rw [if_pos ⟨hlow value, hhigh value⟩, hconvert]

theorem inverts_int32 : Decoder.int32.Inverts fun value => Json.integer value.toInt :=
  inverts_integer Int32.le_toInt (fun value => Int.le_of_lt_add_one value.toInt_lt)
    fun value => value.ofInt_toInt

theorem inverts_int64 : Decoder.int64.Inverts fun value => Json.integer value.toInt :=
  inverts_integer Int64.le_toInt (fun value => Int.le_of_lt_add_one value.toInt_lt)
    fun value => value.ofInt_toInt

end Decoder

open Decoder

/-! ### Metadata -/

theorem OwnerReference.inverts_toJson :
    OwnerReference.decoder.Inverts OwnerReference.toJson := by
  have hstring (text : String) :
      Decoder.string.nullable.tree (Json.string text) = .ok (some text) := rfl
  rintro ⟨apiVersion, kind, name, uid, controller, blockOwnerDeletion⟩
  rw [decoder, toJson, record_object_eq_ok_iff]
  constructor
  · simp only [List.append_assoc, List.cons_append, List.nil_append]
    rw [takeMembers_member rfl (hstring apiVersion),
      takeMembers_optionalMember rfl rfl inverts_bool.of_mem (fun _ => nofun),
      takeMembers_optionalMember rfl rfl inverts_bool.of_mem (fun _ => nofun),
      takeMembers_member rfl (hstring kind), takeMembers_member rfl (hstring name),
      takeMembers_member rfl (hstring uid)]
    rfl
  · simp [Field.standard, Field.defaulted]

/-- Labels and annotations ascend by name. -/
structure Metadata.Ordered (metadata : Metadata) : Prop where
  annotations : ∀ labels ∈ metadata.annotations, Ascending labels
  labels : ∀ labels ∈ metadata.labels, Ascending labels

namespace Metadata

theorem inverts_instant : instant.Inverts Json.string :=
  fun _ => rfl

theorem Ordered.tree_toJson {metadata : Metadata} (hordered : metadata.Ordered) :
    decoder.tree metadata.toJson = .ok metadata := by
  obtain ⟨hannotations, hlabels⟩ := hordered
  have hreads {written : Option Labels} (hascending : ∀ labels ∈ written, Ascending labels) :
      ∀ labels ∈ written, Labels.decoder.tree labels.toJson = .ok labels :=
    fun labels hlabels => inverts_string.dictionary (hascending labels hlabels)
  rw [decoder, toJson, record_object_eq_ok_iff]
  constructor
  · rw [← List.append_nil (_ ++ optionalMember "uid" _ _)]
    simp only [List.append_assoc]
    rw [takeMembers_optionalMember rfl rfl (hreads hannotations) (fun _ => nofun),
      takeMembers_optionalMember rfl rfl inverts_instant.of_mem (fun _ => nofun),
      takeMembers_optionalMember rfl rfl inverts_instant.of_mem (fun _ => nofun),
      takeMembers_optionalMember rfl rfl inverts_strings.of_mem (fun _ => nofun),
      takeMembers_optionalMember rfl rfl inverts_string.of_mem (fun _ => nofun),
      takeMembers_optionalMember rfl rfl inverts_int64.of_mem (fun _ => nofun),
      takeMembers_optionalMember rfl rfl (hreads hlabels) (fun _ => nofun),
      takeMembers_optionalMember rfl rfl inverts_string.of_mem (fun _ => nofun),
      takeMembers_optionalMember rfl rfl inverts_string.of_mem (fun _ => nofun),
      takeMembers_optionalMember rfl rfl OwnerReference.inverts_toJson.list.of_mem
        (fun _ => nofun),
      takeMembers_optionalMember rfl rfl inverts_string.of_mem (fun _ => nofun),
      takeMembers_optionalMember rfl rfl inverts_string.of_mem (fun _ => nofun)]
    rfl
  · simp [Field.standard, Field.defaulted]

theorem ascending_of_nullable {document : Json} {read : Option Labels}
    (hread : Labels.decoder.nullable.tree document = .ok read) :
    ∀ labels ∈ read, Ascending labels := by
  rintro labels rfl
  by_cases hnull : document = .null
  · subst hnull
    cases hread
  · rw [tree_nullable hnull] at hread
    obtain ⟨read, hlabels, hsome⟩ := exists_of_map_eq_ok hread
    cases hsome
    exact ascending_dictionary hlabels

theorem ordered_empty : empty.Ordered :=
  ⟨by simp [empty], by simp [empty]⟩

theorem ordered_of_tree {document : Json} {metadata : Metadata}
    (hread : decoder.tree document = .ok metadata) : metadata.Ordered := by
  refine record_keeps ?_ ordered_empty hread
  have hannotations {name : String} : (Field.standard name Labels.decoder
      fun value metadata => { metadata with annotations := value }).Keeps Ordered :=
    Field.keeps_mk fun hlabels hbefore => ⟨ascending_of_nullable hlabels, hbefore.labels⟩
  have hlabels {name : String} : (Field.standard name Labels.decoder
      fun value metadata => { metadata with labels := value }).Keeps Ordered :=
    Field.keeps_mk fun hlabels hbefore => ⟨hbefore.annotations, ascending_of_nullable hlabels⟩
  simp only [List.forall_mem_cons]
  refine ⟨hannotations, ?_, ?_, ?_, ?_, ?_, hlabels, ?_, ?_, ?_, ?_, ?_,
    List.forall_mem_nil _⟩
  all_goals exact Field.keeps_mk fun _ hbefore => ⟨hbefore.annotations, hbefore.labels⟩

end Metadata

end ServerOperator
