import Mathlib.Data.List.TakeWhile
import ServerOperator.Watch.Ownership

/-!
# Which owner counts

An object may have any number of owners, of any kinds. Its changes belong to the first of them that is
a server, in whichever version of the group, and else to the server that is called as the object is.
Which of its owners controls the object plays no part: the controller counts just where no server of
another name stands before it.
-/

namespace ServerOperator

/-! ### References to servers -/

theorem takeWhile_ne_append {first : List Char} {mark : Char} (hmark : mark ∉ first)
    (rest : List Char) :
    (first ++ mark :: rest).takeWhile (fun character => character ≠ mark) = first := by
  rw [List.takeWhile_append_of_pos]
  · simp
  · intro character hmem
    have hne : character ≠ mark := by
      rintro rfl
      exact hmark hmem
    simpa using hne

theorem toList_slash (group version : String) :
    (group ++ "/" ++ version).toList = group.toList ++ '/' :: version.toList := by
  simp

/-- What stands before the first slash of an API version is its group. -/
theorem apiGroup?_append {group : String} (hgroup : '/' ∉ group.toList) (version : String) :
    apiGroup? (group ++ "/" ++ version) = some group := by
  have hslash : '/' ∈ (group ++ "/" ++ version).toList := by
    simp
  unfold apiGroup?
  rw [if_pos hslash, toList_slash, takeWhile_ne_append hgroup, String.ofList_toList]

theorem apiGroup?_eq_some_iff {apiVersion group : String} (hgroup : '/' ∉ group.toList) :
    apiGroup? apiVersion = some group ↔ ∃ version, apiVersion = group ++ "/" ++ version := by
  constructor
  · intro hsome
    by_cases hslash : '/' ∈ apiVersion.toList
    · obtain ⟨first, rest, hsplit, hfirst⟩ := List.eq_append_cons_of_mem hslash
      have heq : apiVersion = String.ofList first ++ "/" ++ String.ofList rest := by
        apply String.ext
        rw [hsplit, toList_slash, String.toList_ofList, String.toList_ofList]
      have hread : apiGroup? apiVersion = some (String.ofList first) := by
        rw [heq]
        exact apiGroup?_append (by rwa [String.toList_ofList]) _
      rw [hread, Option.some.injEq] at hsome
      exact ⟨String.ofList rest, by rw [heq, hsome]⟩
    · unfold apiGroup? at hsome
      rw [if_neg hslash] at hsome
      cases hsome
  · rintro ⟨version, rfl⟩
    exact apiGroup?_append hgroup version

namespace OwnerReference

/-- The owner is a server, and is named in some version of the group. -/
def NamesServer (reference : OwnerReference) : Prop :=
  reference.kind = "MCPServer" ∧
    ∃ version, reference.apiVersion = "mcpserver.opendatahub.io" ++ "/" ++ version

/-- Whether the owner is the controller is said anew. -/
def remark (mark : OwnerReference → Option Bool) (reference : OwnerReference) : OwnerReference :=
  { reference with controller := mark reference }

theorem isServer_iff {reference : OwnerReference} :
    reference.isServer = true ↔ reference.NamesServer := by
  have hgroup : '/' ∉ serverGroup.toList := by decide +kernel
  rw [isServer, Bool.and_eq_true, decide_eq_true_eq, decide_eq_true_eq, apiGroup?_eq_some_iff hgroup]
  rfl

end OwnerReference

/-- The first owner that is a server, whatever stands before and after it. -/
def FirstServer (references : List OwnerReference) (owner : OwnerReference) : Prop :=
  ∃ earlier later, references = earlier ++ owner :: later ∧ owner.NamesServer ∧
    ∀ other ∈ earlier, ¬other.NamesServer

theorem find?_isServer_eq_some_iff {references : List OwnerReference} {owner : OwnerReference} :
    references.find? OwnerReference.isServer = some owner ↔ FirstServer references owner := by
  rw [List.find?_eq_some_iff_append, OwnerReference.isServer_iff]
  constructor
  · rintro ⟨howner, earlier, later, hsplit, hearlier⟩
    refine ⟨earlier, later, hsplit, howner, fun other hmem => ?_⟩
    rw [← OwnerReference.isServer_iff]
    simpa using hearlier other hmem
  · rintro ⟨earlier, later, hsplit, howner, hearlier⟩
    refine ⟨howner, earlier, later, hsplit, fun other hmem => ?_⟩
    have hother := hearlier other hmem
    rw [← OwnerReference.isServer_iff] at hother
    simpa using hother

theorem find?_isServer_eq_none_iff {references : List OwnerReference} :
    references.find? OwnerReference.isServer = none ↔
      ∀ reference ∈ references, ¬reference.NamesServer := by
  simp only [List.find?_eq_none, OwnerReference.isServer_iff]

theorem FirstServer.exists_of_mem {references : List OwnerReference} {owner : OwnerReference}
    (hmem : owner ∈ references) (howner : owner.NamesServer) :
    ∃ first, FirstServer references first := by
  cases hfind : references.find? OwnerReference.isServer with
  | none => exact absurd howner (find?_isServer_eq_none_iff.mp hfind owner hmem)
  | some first => exact ⟨first, find?_isServer_eq_some_iff.mp hfind⟩

/-! ### Keys -/

namespace Metadata

def remarked (metadata : Metadata) (mark : OwnerReference → Option Bool) : Metadata :=
  { metadata with ownerReferences := metadata.ownerReferences.map (List.map (.remark mark)) }

variable {metadata : Metadata} {place : String}

theorem ownerKey?_of_firstServer (hplace : metadata.namespaceName = some place)
    {owner : OwnerReference} (hfirst : FirstServer (metadata.ownerReferences.getD []) owner) :
    metadata.ownerKey? = some ⟨place, owner.name⟩ := by
  simp [ownerKey?, hplace, find?_isServer_eq_some_iff.mpr hfirst]

theorem ownerKey?_of_no_server (hplace : metadata.namespaceName = some place)
    (hnone : ∀ reference ∈ metadata.ownerReferences.getD [], ¬reference.NamesServer) :
    metadata.ownerKey? = metadata.name.map (Key.mk place) := by
  cases hname : metadata.name <;>
    simp [ownerKey?, hplace, find?_isServer_eq_none_iff.mpr hnone, hname]

theorem ownerKey?_remarked (metadata : Metadata) (mark : OwnerReference → Option Bool) :
    (metadata.remarked mark).ownerKey? = metadata.ownerKey? := by
  have hfind : ((metadata.remarked mark).ownerReferences.getD []).find? OwnerReference.isServer =
      ((metadata.ownerReferences.getD []).find? OwnerReference.isServer).map (.remark mark) := by
    cases hreferences : metadata.ownerReferences with
    | none => simp [remarked, hreferences]
    | some references =>
        have hremark : OwnerReference.isServer ∘ OwnerReference.remark mark =
            OwnerReference.isServer := rfl
        simp only [remarked, hreferences, Option.map_some, Option.getD_some, List.find?_map, hremark]
  unfold ownerKey?
  rw [hfind]
  cases (metadata.ownerReferences.getD []).find? OwnerReference.isServer <;> rfl

/-- The first owner that is a server is the one that an object's changes belong to, whatever other
references stand before and after it; without one they belong to the server that is called as the
object is. So an owner that is a server counts exactly if the first server among the owners is called
alike, and which of the owners is marked as the controller changes nothing. -/
theorem firstServer_owns (metadata : Metadata) {place : String}
    (hplace : metadata.namespaceName = some place) :
    let references := metadata.ownerReferences.getD []
    (∀ owner, FirstServer references owner → metadata.ownerKey? = some ⟨place, owner.name⟩) ∧
      ((∀ reference ∈ references, ¬reference.NamesServer) →
        metadata.ownerKey? = metadata.name.map (Key.mk place)) ∧
      (∀ owner ∈ references, owner.NamesServer →
        (metadata.ownerKey? = some ⟨place, owner.name⟩ ↔
          ∃ first, FirstServer references first ∧ first.name = owner.name)) ∧
      ∀ mark, (metadata.remarked mark).ownerKey? = metadata.ownerKey? := by
  intro references
  refine ⟨fun owner hfirst => ownerKey?_of_firstServer hplace hfirst,
    fun hnone => ownerKey?_of_no_server hplace hnone, ?_, metadata.ownerKey?_remarked⟩
  intro owner hmem howner
  obtain ⟨first, hfirst⟩ := FirstServer.exists_of_mem hmem howner
  have hkey : metadata.ownerKey? = some ⟨place, first.name⟩ := ownerKey?_of_firstServer hplace hfirst
  constructor
  · intro hcounts
    rw [hkey, Option.some.injEq, Key.mk.injEq] at hcounts
    exact ⟨first, hfirst, hcounts.2⟩
  · rintro ⟨other, hother, hname⟩
    rw [ownerKey?_of_firstServer hplace hother, hname]

/-- Of the references before the first server one is of another kind, one of another group and one of
none; a further server stands after it. -/
theorem firstServer_owns_amongOthers :
    let reference (apiVersion kind name : String) : OwnerReference :=
      ⟨apiVersion, kind, name, "17", none, none⟩
    let owner : OwnerReference :=
      ⟨"mcpserver.opendatahub.io/v1beta1", "MCPServer", "web", "17", some true, some true⟩
    let others : List OwnerReference :=
      [reference "apps/v1" "ReplicaSet" "web-5d", reference "example.com/v1" "MCPServer" "other",
        reference "v1" "MCPServer" "other"]
    let metadata : Metadata :=
      { (default : Metadata) with
        name := some "web-5d-x2"
        namespaceName := some "default"
        ownerReferences :=
          some (others ++ owner :: [reference "mcpserver.opendatahub.io/v1" "MCPServer" "other"]) }
    metadata.ownerKey? = some ⟨"default", "web"⟩ := by
  intro reference owner others metadata
  have hserver : owner.NamesServer := ⟨rfl, "v1beta1", by decide⟩
  have hothers : ∀ other ∈ others, ¬other.NamesServer := by
    simp only [← OwnerReference.isServer_iff]
    decide +kernel
  exact (firstServer_owns metadata rfl).1 owner ⟨others, _, rfl, hserver, hothers⟩

/-- The controller is a server, but another server stands before it. -/
theorem server_before_controller_owns :
    let other : OwnerReference :=
      ⟨"mcpserver.opendatahub.io/v1", "MCPServer", "other", "18", none, none⟩
    let controller : OwnerReference :=
      ⟨"mcpserver.opendatahub.io/v1", "MCPServer", "web", "17", some true, none⟩
    let metadata : Metadata :=
      { (default : Metadata) with
        name := some "web-5d"
        namespaceName := some "default"
        ownerReferences := some [other, controller] }
    [other, controller].filter (fun reference => reference.controller = some true) = [controller] ∧
      controller.NamesServer ∧ metadata.ownerKey? = some ⟨"default", "other"⟩ ∧
      metadata.ownerKey? ≠ some ⟨"default", "web"⟩ := by
  intro other controller metadata
  have hserver : controller.NamesServer := ⟨rfl, "v1", by decide⟩
  have hfirst : FirstServer [other, controller] other :=
    ⟨[], [controller], rfl, ⟨rfl, "v1", by decide⟩, by simp⟩
  have hkey : metadata.ownerKey? = some ⟨"default", other.name⟩ :=
    ownerKey?_of_firstServer rfl hfirst
  refine ⟨by decide, hserver, hkey, ?_⟩
  rw [hkey]
  decide

end Metadata

end ServerOperator
