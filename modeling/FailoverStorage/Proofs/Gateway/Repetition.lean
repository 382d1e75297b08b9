import FailoverStorage.Proofs.Gateway.Legibility

/-!
# Asking again

A request that succeeded is asked for again at once.  Then its configuration is stored, so what is
read back of it is compared with the request.

**What is read back** has the identity, the addresses, the settings and the sizes of the request,
whatever the first request found (`Operation.exists_standing_of_createNew`).  The group and the kind
of sizes are not written in a configuration; they are those of the storage.  A new resource tells
the group, and it tells that sizes are gross if it has a data volume.  A resource that was left
behind keeps its own group and kind of sizes.

So asking again returns the same endpoint and changes nothing exactly if the endpoint existed before
or the storage tells what was asked for (`Operation.Repeatable`); otherwise it is a conflict
(`Cluster.Reachable.create_again`).  The conflict does occur (`Operation.create_again_gross`).
-/

namespace FailoverStorage

open FailoverStorage.Action

/-! ## What storage tells of an endpoint -/

namespace Endpoint

variable {p : Protocol} {e : Endpoint p} {r : ClusterResource}

/-- **A resource tells what an endpoint asks for** besides volumes and properties: the group and the
kind of sizes. -/
def ToldBy (e : Endpoint p) (r : ClusterResource) : Prop :=
  groupOf (some r.definition) = e.resourceGroup ∧ grossSizeOf r.volumes.values = e.grossSize

/-- **The storage of an endpoint against what was there**: an earlier resource passes on its group
and its volumes; a new one tells what the endpoint asks for unless nothing can tell that sizes are
gross. -/
def Inherits (e : Endpoint p) (r : ClusterResource) : Option ClusterResource → Prop
  | none => e.ToldBy r ↔ e.grossSize = false ∨ e.volumes ≠ []
  | some r₀ => r.definition.resourceGroup = r₀.definition.resourceGroup ∧ r.volumes = r₀.volumes

/-- What a resource tells shows in its group and its volumes. -/
lemma toldBy_congr {r' : ClusterResource}
    (hgroup : r'.definition.resourceGroup = r.definition.resourceGroup)
    (hvolumes : r'.volumes = r.volumes) : e.ToldBy r' ↔ e.ToldBy r := by
  rw [ToldBy, ToldBy, groupOf_congr hgroup, hvolumes]

lemma Inherits.toldBy_iff {old? : Option ClusterResource} : e.Inherits r old? →
    (e.ToldBy r ↔ match old? with
      | none => e.grossSize = false ∨ e.volumes ≠ []
      | some r₀ => e.ToldBy r₀) := by
  intro h
  cases old? with
  | none => exact h
  | some r₀ => exact toldBy_congr h.1 h.2

/-- What was passed on shows in the layout. -/
lemma Inherits.of_layout {old? : Option ClusterResource} {r' : ClusterResource}
    (h : e.Inherits r old?) (hlayout : r'.layout = r.layout) : e.Inherits r' old? := by
  obtain ⟨hdefinition, hvolumes, -⟩ := ClusterResource.layout_eq_iff.1 hlayout
  cases old? with
  | none => exact (toldBy_congr (hdefinition ▸ rfl) hvolumes).trans h
  | some r₀ => exact ⟨hdefinition ▸ h.1, hvolumes.trans h.2⟩

/-- The volume definitions of a new resource. -/
def newVolumes (e : Endpoint p) : SortedMap UInt32 VolumeDefinition :=
  (Gateway.resourceRequest e).withVolumes e.storageVolumes .empty

lemma Settled.find?_newVolumes (h : e.Settled) (number : UInt32) : e.newVolumes.find? number
    = (e.storageVolumes.find? (·.number = number)).map
      (Gateway.resourceRequest e).volumeDefinition := by
  rw [newVolumes, ResourceRequest.find?_withVolumes h.nodup_storageVolumes, SortedMap.find?_empty,
    Option.or_none]

/-- The volumes of a new resource are those of the endpoint. -/
lemma Settled.mem_newVolumes_iff (h : e.Settled) {d : VolumeDefinition} :
    d ∈ e.newVolumes.values
      ↔ ∃ v ∈ e.storageVolumes, (Gateway.resourceRequest e).volumeDefinition v = d := by
  constructor
  · intro hd
    obtain ⟨number, hfind⟩ := SortedMap.mem_values_iff.1 hd
    rw [h.find?_newVolumes, Option.map_eq_some_iff] at hfind
    obtain ⟨v, hv, heq⟩ := hfind
    exact ⟨v, List.mem_of_find?_eq_some hv, heq⟩
  · rintro ⟨v, hv, rfl⟩
    have hfind := h.find?_newVolumes v.number
    rw [Volume.find?_of_nodup h.nodup_storageVolumes hv, Option.map_some] at hfind
    exact SortedMap.mem_values_iff.2 ⟨_, hfind⟩

/-- **A new resource defines the volumes of its endpoint.** -/
lemma Settled.defines_newVolumes (h : e.Settled) : Defines e.newVolumes.values e := by
  have hnumbers : e.newVolumes.values.map (·.number) = e.newVolumes.keys := by
    rw [SortedMap.values, SortedMap.keys, List.map_map]
    refine List.map_congr_left fun x hx => ?_
    have hfind := SortedMap.find?_eq_some_iff.2 hx
    rw [h.find?_newVolumes, Option.map_eq_some_iff] at hfind
    obtain ⟨v, hv, heq⟩ := hfind
    rw [Function.comp_apply, ← heq]
    show v.number = x.1
    simpa using List.find?_some hv
  refine ⟨(List.perm_ext_iff_of_nodup ?_ ?_).2 fun x => ?_, fun d hd hnumber => ?_⟩
  · refine List.Nodup.of_map Prod.fst ?_
    rw [List.map_map]
    exact hnumbers ▸ e.newVolumes.nodup_keys
  · refine List.Nodup.of_map Prod.fst ?_
    rw [List.map_map]
    exact h.nodup_storageVolumes
  · simp only [List.mem_map, h.mem_newVolumes_iff]
    constructor
    · rintro ⟨d, ⟨v, hv, rfl⟩, rfl⟩
      exact ⟨v, hv, rfl⟩
    · rintro ⟨v, hv, rfl⟩
      exact ⟨_, ⟨v, hv, rfl⟩, rfl⟩
  · obtain ⟨v, -, rfl⟩ := h.mem_newVolumes_iff.1 hd
    have hdata : v.number ≠ Volume.privateNumber := hnumber
    rw [ResourceRequest.volumeDefinition]
    simp [hdata, Gateway.resourceRequest]

end Endpoint

/-! ## The storage of a first request -/

namespace Operation

variable {p : Protocol} {requested e : Endpoint p} {c s t u : Cluster} (w : Waiter)

/-- **A request can be repeated** if its endpoint exists, or if its storage will tell what it asks
for: that of a new resource does unless sizes are gross and there are no volumes. -/
def Repeatable (requested : Endpoint p) (c : Cluster) : Prop :=
  (∃ text, c.configs.find? (PromoterConfig.pathOf requested.configId) = some text)
    ∨ match c.resources.find? requested.resourceName with
      | none => requested.grossSize = false ∨ requested.volumes ≠ []
      | some r => requested.fillDefaults.ToldBy r

/-- **The storage of an endpoint that was asked for**: its properties are recorded and its volumes
have their sizes. -/
structure Provides (e : Endpoint p) (r : ClusterResource) : Prop where
  recorded : ∀ key value, e.properties.find? key = some value →
    r.definition.properties.find? key = some value
  sizes : ∀ v ∈ e.volumes, Endpoint.sizeOf r.volumes.values v.number = v.sizeKib

/-- **Ensuring the resource of an endpoint** provides what it asks for, but for the group and the
kind of sizes of a resource that is there. -/
lemma exists_provides_ensureResource (he : e.Settled)
    (hordered : Cluster.OrderAt e.resourceName c)
    (hgroups : ∀ name group, c.groups.find? name = some group → group.name = name)
    {deployment : Deployment}
    (hensure : Cluster.ensureResource (Gateway.resourceRequest e) false c = (.ok deployment, t)) :
    ∃ r, t.resources.find? e.resourceName = some r ∧ Provides e r
      ∧ e.Inherits r (c.resources.find? e.resourceName) := by
  have hname : (Gateway.resourceRequest e).name = e.resourceName := rfl
  rcases Cluster.ensureResource_cases he.complete (fun r hr => (hordered r hr).sound) false with
    ⟨err, hrun⟩ | ⟨result, t', r, hrun, hr, hensured, -⟩
  · rw [hrun] at hensure
    cases hensure
  rcases Cluster.ensureResource_find? (Gateway.resourceRequest e) false c with
    ⟨err, hrun'⟩ | ⟨group, missing, r', hgroup, hmissing, hr', hdefinition, hvolumes⟩
  · rw [hrun'] at hensure
    cases hensure
  rw [hensure] at hrun hr'
  cases hrun
  cases hr.symm.trans hr'
  rw [hname] at hdefinition
  rw [Cluster.Missing, hname] at hmissing
  rw [Cluster.existingVolumes, hname] at hvolumes
  refine ⟨r, hr, ?_⟩
  cases hold : c.resources.find? e.resourceName with
  | none =>
      rw [hold] at hmissing hvolumes hdefinition
      have hnew : r.volumes = e.newVolumes := by rw [hvolumes, hmissing]; rfl
      have hdefines := he.defines_newVolumes
      rw [← hnew] at hdefines
      have htold : Endpoint.groupOf (some r.definition) = e.resourceGroup := by
        have hgroupName : r.definition.resourceGroup = e.resourceGroup := by
          rw [hdefinition]
          exact hgroups _ group hgroup
        rw [Endpoint.groupOf_some (hgroupName ▸ he.resourceGroup), hgroupName]
      exact ⟨⟨hensured.recorded, fun v hv => hdefines.sizeOf_eq he hv⟩,
        (and_iff_right htold).trans (hdefines.grossSizeOf_eq he)⟩
  | some r₀ =>
      rw [hold] at hmissing hvolumes hdefinition
      obtain ⟨rfl, hall⟩ := ResourceRequest.missingAmong_false_eq_ok hmissing
      have hkept : r.volumes = r₀.volumes := hvolumes
      refine ⟨⟨hensured.recorded, fun v hv => ?_⟩, by rw [hdefinition]; rfl, hkept⟩
      obtain ⟨d, hd, hsize⟩ := hall v (List.mem_cons_of_mem _ hv)
      rw [Endpoint.sizeOf, hkept, hd]
      exact hsize

lemma Provides.of_layout {r r' : ClusterResource} (h : Provides e r)
    (hlayout : r'.layout = r.layout) : Provides e r' := by
  obtain ⟨hdefinition, hvolumes, -⟩ := ClusterResource.layout_eq_iff.1 hlayout
  exact ⟨hdefinition ▸ h.recorded, hvolumes ▸ h.sizes⟩

/-- Reading placements leaves what is stored, and every layout. -/
lemma keeps_stored_placements {id : p.Identity} {config : PromoterConfig} {attached : Bool}
    (s : Cluster) : Keeps (fun c => Stored id config attached c
        ∧ c.layout? (Protocol.resourceName id) = s.layout? (Protocol.resourceName id))
      (Cluster.placements (Protocol.resourceName id)) :=
  Triple.of_state fun c ⟨hc, hlayout⟩ => by
    have hsame := Cluster.sameOutside_placements none (Protocol.resourceName id) c
    exact ⟨⟨hc.belongs, (hsame.find?_configs _).trans hc.text⟩,
      (Cluster.layout?_placements _ _ c).trans hlayout⟩

/-- A start leaves what is stored, now attached, and the layout, whether or not it succeeds. -/
lemma Stored.after_start {id : p.Identity} {config : PromoterConfig} {attached : Bool}
    (h : Stored id config attached s) : Stored id config true ((start id).after w s)
      ∧ ((start id).after w s).layout? (Protocol.resourceName id)
        = s.layout? (Protocol.resourceName id) := by
  have hattached : Stored id config true (Cluster.attach config s).2 :=
    ⟨h.belongs, h.belongs.find?_attach s⟩
  rw [Operation.after_start w h.found_eq]
  exact (Gateway.keeps_await (g := gateway w) (keeps_stored_placements s) "start"
    Waiter.anyInUse).state ⟨hattached, Cluster.layout?_schedule config true _ _⟩

/-- A successful start leaves what is stored, now attached, and the layout. -/
lemma Stored.start {id : p.Identity} {config : PromoterConfig} {attached : Bool}
    (h : Stored id config attached s) {result : Option (Endpoint p)}
    (hrun : (gateway w).start id s = (.ok result, t)) :
    Stored id config true t
      ∧ t.layout? (Protocol.resourceName id) = s.layout? (Protocol.resourceName id)
      ∧ reported id t = .ok result := by
  obtain ⟨-, hreported⟩ := exists_of_start_eq_ok w h.found_eq hrun
  have hkept := h.after_start w
  rw [show (Operation.start id).after w s = t from congrArg Prod.snd hrun] at hkept
  exact ⟨hkept.1, hkept.2, hreported⟩

/-- **What a request leaves** that found nothing and stored its configuration, whether or not its
endpoint starts: the configuration is attached, and the resource has the layout with which it was
ensured. -/
lemma stored_after_create (hvalid : requested.fillDefaults.validate = .ok ())
    (hexclusive : p.exclusiveKind = none) (hfound : found requested.identity s = .ok none)
    {deployment : Deployment} {config : PromoterConfig}
    (hensure : Cluster.ensureResource (Gateway.resourceRequest requested.fillDefaults) false s
      = (.ok deployment, t))
    (hconfig : requested.fillDefaults.toPromoter deployment.placements = .ok config) :
    Stored requested.identity config true ((create requested).after w s)
      ∧ ((create requested).after w s).layout? (Protocol.resourceName requested.identity)
        = t.layout? (Protocol.resourceName requested.identity) := by
  have hbelongs := PromoterConfig.belongs_of_toPromoter hconfig
  have hstored : Stored requested.identity config
      (((t.configs.find? config.path).map (·.attached)).getD false)
      (Cluster.ensureConfig config t).2 :=
    ⟨hbelongs, hbelongs.find?_ensureConfig t⟩
  rw [after_create w hvalid hexclusive hfound hensure hconfig]
  exact hstored.after_start w

/-- **What a first request leaves**: its configuration is stored, its storage provides what it asks
for, and it returns what is then reported. -/
lemma exists_provides_of_createNew (he : e.Settled)
    (hordered : Cluster.OrderAt e.resourceName c)
    (hgroups : ∀ name group, c.groups.find? name = some group → group.name = name)
    {e' : Endpoint p} (h : createNew w e c = (.ok e', t)) :
    ∃ placements config r, e.toPromoter placements = .ok config
      ∧ Stored e.identity config true t ∧ t.resources.find? e.resourceName = some r
      ∧ Provides e r ∧ reported e.identity t = .ok (some e')
      ∧ e.Inherits r (c.resources.find? e.resourceName) := by
  obtain ⟨deployment, u, config, hensure, hconfig, hstart⟩ := exists_of_createNew_eq_ok w he h
  obtain ⟨r, hr, hprovides, hinherits⟩ := exists_provides_ensureResource he hordered hgroups hensure
  have hbelongs := PromoterConfig.belongs_of_toPromoter hconfig
  have hstored : Stored e.identity config
      (((u.configs.find? config.path).map (·.attached)).getD false)
      (Cluster.ensureConfig config u).2 :=
    ⟨hbelongs, hbelongs.find?_ensureConfig u⟩
  obtain ⟨hstored', hlayout, hreported⟩ := hstored.start w hstart
  obtain ⟨r', hr', heq⟩ := Cluster.exists_of_layout?_eq hlayout.symm hr
  exact ⟨_, config, r', hconfig, hstored', hr', hprovides.of_layout heq.symm, hreported,
    hinherits.of_layout heq.symm⟩

/-- **What is reported of an endpoint that was asked for** is the endpoint with what its storage
tells. -/
lemma eq_recovered_of_reported (he : e.Settled) {placements : List Placement}
    {config : PromoterConfig} (hconfig : e.toPromoter placements = .ok config)
    (hstored : Stored e.identity config true t) {r : ClusterResource}
    (hr : t.resources.find? e.resourceName = some r) (hprovides : Provides e r)
    {e' : Endpoint p} (hreported : reported e.identity t = .ok (some e')) :
    e' = { e.recovered (some r.definition) r.volumes.values with status := e'.status } := by
  by_cases hblank : ∀ iqn ∈ Endpoint.initiators e.settings, Text.IsBlankFree iqn.text
  · rw [reported_eq_recovered he hblank hstored.found_eq hconfig hr hprovides.recorded] at hreported
    cases hreported
    rfl
  · obtain ⟨err, herr⟩ := Endpoint.ofPromoter_eq_error he hblank hconfig
      (Cluster.deployment (Protocol.resourceName e.identity) t).definition
      (Cluster.deployment (Protocol.resourceName e.identity) t).volumeDefinitions
    obtain ⟨d, hd⟩ := hstored.exists_reported_iff.1 ⟨e', hreported⟩
    cases hd.symm.trans herr

/-- **What a request returns that found nothing** is what it asks for with what its storage tells;
the configuration of that is stored, and this is what is then reported. -/
lemma exists_recovered_of_create (hc : Cluster.Reachable (fun _ => True) c)
    (hfound : found requested.identity c = .ok none)
    (h : (gateway w).create requested c = (.ok e, t)) : ∃ config r,
      Stored requested.identity config true t
      ∧ reported requested.identity t = .ok (some e)
      ∧ e = { requested.fillDefaults.recovered (some r.definition) r.volumes.values with
          status := e.status }
      ∧ Provides requested.fillDefaults r
      ∧ requested.fillDefaults.Inherits r (c.resources.find? requested.resourceName) := by
  obtain ⟨hvalid, hcheck, -⟩ := checked_of_create_eq_ok w h
  have hsettled := Endpoint.settled_fillDefaults hvalid
  rw [create_of_checks w hvalid hcheck hfound] at h
  obtain ⟨placements, config, r, hconfig, hstored, hr, hprovides, hreported, hinherits⟩ :=
    exists_provides_of_createNew w hsettled (hc.reachableBy.rooted.ordered _)
      (fun _ _ hgroup => hc.name_of_find?_groups hgroup) h
  exact ⟨config, r, hstored, hreported,
    eq_recovered_of_reported hsettled hconfig hstored hr hprovides hreported, hprovides, hinherits⟩

/-! ## The checks of a second request -/

/-- The check passes again where only the configuration of its own endpoint differs. -/
lemma checkExclusive_of_stored {id : p.Identity} {config : PromoterConfig} {attached : Bool}
    (hcheck : (gateway w).checkExclusive id c = (.ok (), c))
    (hstored : Stored id config attached t)
    (hconfigs : ∀ path, path ≠ PromoterConfig.pathOf (Protocol.configId id) →
      t.configs.find? path = c.configs.find? path) (w' : Waiter) :
    (gateway w').checkExclusive id t = (.ok (), t) := by
  rw [checkExclusive_eq_ok_iff] at hcheck ⊢
  refine fun kind hkind stored hmem hid => hcheck kind hkind stored ?_ hid
  obtain ⟨text, htext, hread, hattached⟩ := mem_readableConfigs.1 hmem
  by_cases hpath : stored.path = PromoterConfig.pathOf (Protocol.configId id)
  · -- the text at its own path has its own id
    rw [hpath, hstored.text] at htext
    cases htext
    rw [hstored.belongs.reads] at hread
    cases hread
    exact absurd hstored.belongs.hasId hid
  · exact mem_readableConfigs.2 ⟨text, hconfigs _ hpath ▸ htext, hread, hattached⟩

/-- **Asking for what is stored** returns it if it agrees, and is a conflict if not. -/
lemma createExisting_eq {stored : StoredConfig}
    (he : Gateway.reconstruct p stored (Cluster.deployment requested.resourceName c) = .ok e) :
    createExisting w requested stored c
      = (if e.agreesWith requested then .ok e
        else .error (.conflict ("resource " ++ Protocol.identityText requested.identity
          ++ " already exists with incompatible config")), c) := by
  have hload : (gateway w).load p stored requested.resourceName c
      = (.ok (e, Cluster.deployment requested.resourceName c), c) := by
    rw [load_apply, he]
    rfl
  rw [createExisting, bind_apply_ok hload]
  simp only
  split <;> rfl

/-- What exists is returned only if it agrees with the request. -/
lemma agreesWith_of_createExisting {stored : StoredConfig}
    (h : createExisting w requested stored c = (.ok e, t)) : e.agreesWith requested = true := by
  obtain ⟨⟨existing, deployed⟩, u, -, h⟩ := exists_of_bind_eq_ok h
  simp only at h
  split at h
  · cases h
    assumption
  · cases h

/-- A request for a volume can be repeated if its endpoint exists or whatever resource is there
tells what it asks for. -/
lemma repeatable_iff_of_volumes (hvolumes : requested.volumes ≠ []) : Repeatable requested c
    ↔ (∃ text, c.configs.find? (PromoterConfig.pathOf requested.configId) = some text)
      ∨ ∀ r, c.resources.find? requested.resourceName = some r →
        requested.fillDefaults.ToldBy r := by
  refine or_congr_right ?_
  cases c.resources.find? requested.resourceName with
  | none => exact iff_of_true (.inr hvolumes) fun r hr => nomatch hr
  | some r =>
      refine ⟨fun htold r' hr' => ?_, fun htold => htold r rfl⟩
      cases hr'
      exact htold

/-- A request that found nothing can be repeated if its storage told what it asks for. -/
lemma repeatable_iff (hfound : found requested.identity c = .ok none) : Repeatable requested c
    ↔ match c.resources.find? requested.resourceName with
      | none => requested.fillDefaults.grossSize = false ∨ requested.fillDefaults.volumes ≠ []
      | some r => requested.fillDefaults.ToldBy r := by
  have hvolumes : requested.fillDefaults.volumes ≠ [] ↔ requested.volumes ≠ [] :=
    not_congr Endpoint.fillDefaults_volumes_eq_nil_iff
  have hnone :
      ¬ ∃ text, c.configs.find? (PromoterConfig.pathOf requested.configId) = some text := by
    rw [show c.configs.find? (PromoterConfig.pathOf requested.configId) = none from
      found_eq_none_iff.1 hfound]
    exact fun ⟨_, htext⟩ => nomatch htext
  rw [Repeatable, or_iff_right hnone]
  cases c.resources.find? requested.resourceName with
  | none => exact or_congr_right hvolumes.symm
  | some r => exact Iff.rfl

/-- Two requests in a row, the first of which found nothing: the second finds what the first has
stored, which agrees with it if the request can be repeated. -/
lemma create_again_of_new (hc : Cluster.Reachable (fun _ => True) c)
    (hfound : found requested.identity c = .ok none)
    (h : (gateway w).create requested c = (.ok e, t)) (w' : Waiter) :
    (gateway w').create requested t
        = (if e.agreesWith requested.fillDefaults then .ok e
          else .error (.conflict ("resource " ++ Protocol.identityText requested.identity
            ++ " already exists with incompatible config")), t)
      ∧ (e.agreesWith requested.fillDefaults = true ↔ Repeatable requested c) := by
  obtain ⟨hvalid, hcheck, -⟩ := checked_of_create_eq_ok w h
  have hsame := ((create requested).confined_after w rfl (hc.ownTexts p requested.identity)).1
  rw [show (create requested).after w c = t from congrArg Prod.snd h] at hsame
  obtain ⟨config, r, hstored, hreported, hrecovered, hprovides, hinherits⟩ :=
    exists_recovered_of_create w hc hfound h
  refine ⟨?_, ?_⟩
  · have hcheck' := checkExclusive_of_stored w hcheck hstored
      (fun path hpath => hsame.configs path fun heq => hpath (Option.some.inj heq)) w'
    have hread := hreported
    rw [hstored.reported_eq, map_eq_ok_iff] at hread
    obtain ⟨e', hread, heq⟩ := hread
    cases heq
    exact (create_of_checks w' hvalid hcheck' hstored.found_eq).trans (createExisting_eq w' hread)
  · rw [hrecovered, Endpoint.agreesWith_recovered_of_sizes _ hprovides.sizes, repeatable_iff hfound]
    exact hinherits.toldBy_iff

end Operation

open Operation in
/-- **Asking again at once.**  In every run, if a request succeeds, then the same request succeeds
again, returns the same endpoint and changes nothing, if it can be repeated; and it is a conflict
that changes nothing, if not. -/
theorem Cluster.Reachable.create_again {c t : Cluster} (hc : Reachable (fun _ => True) c)
    {p : Protocol} {requested e : Endpoint p} {w : Waiter}
    (h : (gateway w).create requested c = (.ok e, t)) (w' : Waiter) :
    (Repeatable requested c → (gateway w').create requested t = (.ok e, t))
      ∧ (¬ Repeatable requested c → (gateway w').create requested t
        = (.error (.conflict ("resource " ++ Protocol.identityText requested.identity
          ++ " already exists with incompatible config")), t)) := by
  obtain ⟨hvalid, hcheck, stored?, hfound⟩ := checked_of_create_eq_ok w h
  cases stored? with
  | some stored =>
      rw [create_of_checks w hvalid hcheck hfound] at h
      -- what exists is only read, and a second time in the same state
      obtain rfl : t = c := by
        rw [← readOnly_createExisting w requested.fillDefaults stored c, show createExisting w
          requested.fillDefaults stored c = (.ok e, t) from h]
      have htext : found requested.identity t ≠ .ok none := by
        rw [hfound]
        exact fun hnone => nomatch hnone
      rw [Ne, found_eq_none_iff] at htext
      refine ⟨fun _ => ?_, fun hrepeatable => absurd (.inl ?_) hrepeatable⟩
      · rw [create_of_checks w' hvalid hcheck hfound]
        exact h
      · exact Option.ne_none_iff_exists'.1 htext
  | none =>
      obtain ⟨hagain, hagrees⟩ := create_again_of_new w hc hfound h w'
      rw [hagain, ← hagrees]
      exact ⟨fun hyes => by rw [if_pos hyes], fun hno => by rw [if_neg hno]⟩

namespace Operation

/-! ## Two subsystems -/

/-- The subsystem of one volume can be asked for twice. -/
theorem create_again_plain : ∃ e t,
    (gateway halfSecond).create plainSubsystem {} = (.ok e, t)
      ∧ (gateway halfSecond).create plainSubsystem t = (.ok e, t) := by
  have hfresh : Cluster.Reachable (fun _ => True) {} :=
    .fresh _ _ _ fun _ _ hgroup => name_of_find?_groups_empty hgroup
  obtain ⟨e, hcreate, -⟩ := exists_create_subsystem plainSubsystem (by decide) rfl
  exact ⟨e, _, hcreate,
    (hfresh.create_again hcreate halfSecond).1 (.inr (.inr (List.cons_ne_nil _ _)))⟩

/-- A subsystem without volumes that asks for gross sizes. -/
def grossSubsystem : Endpoint .nvmeof :=
  { plainSubsystem with volumes := [], grossSize := true }

/-- **A request that succeeds once and is a conflict after that**: without a volume nothing tells
that sizes are gross. -/
theorem create_again_gross : Cluster.Reachable (fun _ => True) {} ∧ ∃ e t,
    (gateway halfSecond).create grossSubsystem {} = (.ok e, t)
      ∧ (gateway halfSecond).create grossSubsystem t
        = (.error (.conflict ("resource " ++ Protocol.identityText dataNqn
          ++ " already exists with incompatible config")), t) := by
  have hfresh : Cluster.Reachable (fun _ => True) {} :=
    .fresh _ _ _ fun _ _ hgroup => name_of_find?_groups_empty hgroup
  obtain ⟨e, hcreate, -⟩ := exists_create_subsystem grossSubsystem (by decide) rfl
  obtain ⟨hagain, hagrees⟩ := create_again_of_new halfSecond hfresh rfl hcreate halfSecond
  have hnot : ¬ Repeatable grossSubsystem {} := by
    rintro (⟨text, htext⟩ | hgross | hvolumes)
    · cases htext
    · cases hgross
    · exact hvolumes rfl
  rw [← hagrees] at hnot
  rw [if_neg hnot] at hagain
  exact ⟨hfresh, e, _, hcreate, hagain⟩

end Operation

end FailoverStorage
