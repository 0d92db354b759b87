import ServerOperator.Cluster.Basic

/-!
# What calls do to a cluster

A creation adds an object where there is none, and a write replaces a status. So no call alters or
removes a child that is there, and only writes touch the records.
-/

namespace ServerOperator.Cluster

/-- The children that were there are there still, as they were. -/
def ChildrenStay (before after : Cluster) : Prop :=
  ∀ kind key object, (before.store (.child kind)).find? key = some object →
    (after.store (.child kind)).find? key = some object

theorem ChildrenStay.refl (cluster : Cluster) : cluster.ChildrenStay cluster :=
  fun _ _ _ hfound => hfound

theorem ChildrenStay.trans {before between after : Cluster} (hfirst : before.ChildrenStay between)
    (hsecond : between.ChildrenStay after) : before.ChildrenStay after :=
  fun kind key object hfound => hsecond kind key object (hfirst kind key object hfound)

variable (cluster : Cluster)

theorem childrenStay_withServers (servers : Store Server) :
    cluster.ChildrenStay (cluster.withStore .server servers) := by
  intro kind key object hfound
  cases kind <;> exact hfound

theorem childrenStay_insert {kind : ChildKind} {key : Key} (object : kind.Object)
    (habsent : (cluster.store (.child kind)).contains key = false) :
    cluster.ChildrenStay (cluster.insert (.child kind) key object) := by
  intro other place held hfound
  unfold insert
  by_cases hkind : other = kind
  · subst hkind
    have hne : place ≠ key := by
      rintro rfl
      rw [Store.contains, hfound] at habsent
      cases habsent
    rwa [store_withStore_self, Store.find?_insert_of_ne _ _ hne]
  · rwa [store_withStore_of_ne cluster _ fun heq => hkind (Kind.child.inj heq)]

theorem answer_create (kind : ChildKind) (object : kind.Object) :
    cluster.answer (.create kind object) =
      if (cluster.store (.child kind)).contains (kind.key object) then
        (.error (alreadyExists (kind.key object)), cluster)
      else (.ok object, cluster.insert (.child kind) (kind.key object) object) := rfl

theorem childrenStay_answer (call : Call) : cluster.ChildrenStay (cluster.answer call).2 := by
  cases call with
  | fetch key => exact .refl cluster
  | get kind key => exact .refl cluster
  | create kind object =>
      rw [answer_create]
      split
      · exact .refl cluster
      · rename_i habsent
        exact cluster.childrenStay_insert object (Bool.eq_false_iff.mpr habsent)
  | writeStatus key status =>
      simp only [answer]
      split
      · exact cluster.childrenStay_withServers _
      · exact .refl cluster

theorem servers_withStore_child (kind : ChildKind) (store : Store kind.Object) :
    (cluster.withStore (.child kind) store).servers = cluster.servers := by
  cases kind <;> rfl

theorem servers_answer {call : Call} (hcall : ∀ key status, call ≠ .writeStatus key status) :
    (cluster.answer call).2.servers = cluster.servers := by
  cases call with
  | fetch key => rfl
  | get kind key => rfl
  | create kind object =>
      rw [answer_create]
      split
      · rfl
      · exact cluster.servers_withStore_child kind _
  | writeStatus key status => exact absurd rfl (hcall key status)

theorem contains_answer_create (kind : ChildKind) (object : kind.Object) :
    ((cluster.answer (.create kind object)).2.store (.child kind)).contains (kind.key object) =
      true := by
  rw [answer_create]
  split
  · assumption
  · simp [Store.contains, insert]

/-- A creation that succeeds leaves the object that was given. -/
theorem find?_answer_create {kind : ChildKind} {object made : kind.Object}
    (hmade : (cluster.answer (.create kind object)).1 = .ok made) :
    ((cluster.answer (.create kind object)).2.store (.child kind)).find? (kind.key object) =
      some object := by
  rw [answer_create] at hmade ⊢
  split
  · rename_i hpresent
    rw [if_pos hpresent] at hmade
    cases hmade
  · simp [insert]

/-! ### The children under outside changes -/

theorem ChildrenStay.contains {before after : Cluster} (hstay : before.ChildrenStay after)
    {kind : ChildKind} {key : Key} (hbefore : (before.store (.child kind)).contains key = true) :
    (after.store (.child kind)).contains key = true := by
  obtain ⟨object, hfound⟩ := Option.isSome_iff_exists.mp hbefore
  exact Option.isSome_iff_exists.mpr ⟨object, hstay kind key object hfound⟩

theorem contains_insert {kind other : ChildKind} {key place : Key} (object : other.Object)
    (hbefore : (cluster.store (.child kind)).contains key = true) :
    ((cluster.insert (.child other) place object).store (.child kind)).contains key = true := by
  unfold insert
  by_cases hkind : kind = other
  · subst hkind
    rw [store_withStore_self]
    unfold Store.contains
    by_cases hkey : key = place
    · rw [hkey, Store.find?_insert_self]
      rfl
    · rwa [Store.find?_insert_of_ne _ _ hkey]
  · rwa [store_withStore_of_ne cluster _ fun heq => hkind (Kind.child.inj heq)]

theorem contains_erase {kind other : ChildKind} {key place : Key}
    (hbefore : (cluster.store (.child kind)).contains key = true)
    (hother : ¬(other = kind ∧ place = key)) :
    ((cluster.erase (.child other) place).store (.child kind)).contains key = true := by
  unfold erase
  by_cases hkind : kind = other
  · subst hkind
    have hkey : key ≠ place := fun heq => hother ⟨rfl, heq.symm⟩
    rw [store_withStore_self]
    unfold Store.contains
    rwa [Store.find?_erase_of_ne _ hkey]
  · rwa [store_withStore_of_ne cluster _ fun heq => hkind (Kind.child.inj heq)]

/-! ### Who a record is -/

/-- The metadata of the record under a key, if there is one. -/
def identity? (key : Key) : Option Metadata :=
  (cluster.servers.find? key).map Server.metadata

theorem identity?_withStore_child (kind : ChildKind) (store : Store kind.Object) (key : Key) :
    (cluster.withStore (.child kind) store).identity? key = cluster.identity? key := by
  unfold identity?
  rw [servers_withStore_child]

theorem identity?_insert (key place : Key) (server : Server) :
    (cluster.insert .server place server).identity? key =
      if key = place then some server.metadata else cluster.identity? key := by
  change Option.map Server.metadata ((cluster.servers.insert place server).find? key) = _
  by_cases hkey : key = place
  · rw [if_pos hkey, hkey, Store.find?_insert_self]
    rfl
  · rw [if_neg hkey, Store.find?_insert_of_ne _ _ hkey]
    rfl

theorem identity?_erase_of_ne {key place : Key} (hne : key ≠ place) :
    (cluster.erase .server place).identity? key = cluster.identity? key :=
  congrArg (Option.map Server.metadata) (cluster.servers.find?_erase_of_ne hne)

/-- No call makes, removes or renames a record. -/
theorem identity?_answer (call : Call) (key : Key) :
    (cluster.answer call).2.identity? key = cluster.identity? key := by
  cases call with
  | fetch place => rfl
  | get kind place => rfl
  | create kind object =>
      rw [answer_create]
      split
      · rfl
      · exact cluster.identity?_withStore_child kind _ key
  | writeStatus place status =>
      simp only [answer]
      split
      · rename_i server hfound
        rw [identity?_insert]
        split
        · rename_i hkey
          unfold identity?
          rw [hkey, hfound]
          rfl
        · rfl
      · rfl

end ServerOperator.Cluster
