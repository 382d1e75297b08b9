import FailoverStorage.Promoter.Document
import FailoverStorage.Proofs.Data.Except
import FailoverStorage.Proofs.Promoter.Line
import FailoverStorage.Proofs.Toml.Lines

/-!
# Reading back promoter documents

A configuration whose agents can be written is what its document reads as
(`PromoterConfig.ofToml_toToml`), whatever its id, its resources' names and their settings are.

The document is followed through the three stages of reading.  Its text spells one header for the
configuration and one for each resource, each with the assignments below it (`spells_document`).
These sections add up to a single `promoter` table, in which the resources stand in the order of
their names (`addSections_resources`).  And each table gives back the record it was written for
(`readResource_bindings`, `readResources_tables`).
-/

namespace FailoverStorage.PromoterConfig

open Toml

/-! ## Bindings -/

/-- The assignment of a binding, to a key of one part. -/
def assignmentOf (e : String × Value) : Assignment := { path := [], key := e.1, value := e.2 }

/-- The binding of a text that may be missing. -/
def optionalBinding (key : String) (value : Option String) : Entries :=
  (value.map fun s => (key, .text s)).toList

/-- What the section of a resource binds. -/
def bindings (r : PromotedResource) : Entries :=
  [("start", .array ((r.start.map Agent.line).map .text)),
    ("stop-services-on-exit", .boolean r.stopServicesOnExit)]
    ++ optionalBinding "on-drbd-demote-failure" r.onDemoteFailure
    ++ optionalBinding "target-as" r.targetAs

/-- Keys that are all different are bound in the order of their assignments. -/
lemma assignAll_map_assignmentOf (new : Entries) :
    ∀ entries : Entries, ((entries ++ new).map (·.1)).Nodup →
      assignAll entries (new.map assignmentOf) = some (entries ++ new) := by
  induction new with
  | nil => simp [assignAll]
  | cons e new ih =>
      intro entries hnodup
      have hfree : ∀ d ∈ entries, d.1 ≠ e.1 := by
        rw [List.map_append, List.nodup_append] at hnodup
        intro d hd
        exact hnodup.2.2 d.1 (List.mem_map_of_mem hd) e.1 (by simp)
      have hany : entries.any (·.1 = e.1) = false := by
        rw [List.any_eq_false]
        intro d hd
        simp [hfree d hd]
      have hassign : assign entries (assignmentOf e) = some (entries ++ [e]) := by
        rw [assign]
        simp only [assignmentOf, within, List.isEmpty_nil, true_or, if_true]
        rw [bindNew, hany]
        rfl
      rw [List.map_cons, assignAll, hassign, Option.bind_some, ih _ (by simpa using hnodup)]
      simp

lemma nodup_bindings (r : PromotedResource) : ((bindings r).map (·.1)).Nodup := by
  cases h : r.onDemoteFailure <;> cases h' : r.targetAs <;>
    simp [bindings, optionalBinding, h, h']

lemma assignAll_bindings (r : PromotedResource) :
    assignAll [] ((bindings r).map assignmentOf) = some (bindings r) :=
  assignAll_map_assignmentOf (bindings r) [] (nodup_bindings r)

/-! ## The lines of a document -/

lemma spells_optionalLine {key : String} (hkey : IsBareKey key) (value : Option String) :
    Spells (optionalLine key value)
      ((optionalBinding key value).map fun e => .assignment (assignmentOf e)) := by
  cases value with
  | none => exact Spells.nil
  | some s => exact spells_assignmentLine hkey (writesValue_text s)

/-- The lines of the section of a resource: its header and the assignments below it. -/
def resourceLines (name : String) (r : PromotedResource) : List Line :=
  .header (.table ["promoter", "resources"] name)
    :: (bindings r).map fun e => .assignment (assignmentOf e)

/-- The section of a resource, cut into its lines. -/
lemma resourceSection_eq (name : String) (r : PromotedResource) :
    resourceSection name r = ['\n']
      ++ ('[' :: (keyText ["promoter", "resources"] name ++ "]\n".toList)
      ++ (assignmentLine "start" (textsValue (r.start.map Agent.line))
      ++ (assignmentLine "stop-services-on-exit" (booleanValue r.stopServicesOnExit)
      ++ (optionalLine "on-drbd-demote-failure" r.onDemoteFailure
      ++ optionalLine "target-as" r.targetAs)))) := by
  have hkey : keyText ["promoter", "resources"] name
      = "promoter".toList ++ '.' :: ("resources".toList ++ '.' :: part name.toList) := by
    rw [keyText, part_of_isBareKey (by decide), keyText,
      part_of_isBareKey (by decide), keyText]
  have hfront : "\n[promoter.resources.".toList
      = '\n' :: '[' :: ("promoter".toList ++ '.' :: ("resources".toList ++ ['.'])) := by
    decide
  unfold resourceSection
  rw [hfront, hkey]
  simp only [List.append_assoc, List.cons_append, List.nil_append]

lemma resourceLines_eq (name : String) (r : PromotedResource) :
    resourceLines name r = []
      ++ ([.header (.table ["promoter", "resources"] name)]
      ++ ([.assignment
        { path := [], key := "start", value := .array ((r.start.map Agent.line).map .text) }]
      ++ ([.assignment
        { path := [], key := "stop-services-on-exit", value := .boolean r.stopServicesOnExit }]
      ++ ((optionalBinding "on-drbd-demote-failure" r.onDemoteFailure).map
          (fun e => .assignment (assignmentOf e))
      ++ (optionalBinding "target-as" r.targetAs).map
          (fun e => .assignment (assignmentOf e)))))) := by
  rw [resourceLines, bindings, List.map_append, List.map_append, List.append_assoc]
  rfl

lemma spells_resourceSection (name : String) (r : PromotedResource) :
    Spells (resourceSection name r) (resourceLines name r) := by
  have hheader := @spells_tableHeader ["promoter", "resources"] (by simp [maxDepth]) name
  have hstart := @spells_assignmentLine "start" (by decide) _ _
    (writesValue_texts (r.start.map Agent.line))
  have hstop := @spells_assignmentLine "stop-services-on-exit" (by decide) _ _
    (writesValue_boolean r.stopServicesOnExit)
  have hfailure := @spells_optionalLine "on-drbd-demote-failure" (by decide)
    r.onDemoteFailure
  have htarget := @spells_optionalLine "target-as" (by decide) r.targetAs
  rw [resourceSection_eq, resourceLines_eq]
  exact Spells.blank.append (hheader.append
    (hstart.append (hstop.append (hfailure.append htarget))))

/-- The lines of the sections of resources. -/
def resourcesLines : List (String × PromotedResource) → List Line
  | [] => [.header (.table ["promoter"] "resources")]
  | entries => entries.flatMap fun (name, r) => resourceLines name r

lemma spells_resourceSections (entries : List (String × PromotedResource)) :
    Spells (resourceSections entries) (resourcesLines entries) := by
  have hall : Spells (entries.flatMap fun (name, r) => resourceSection name r)
      (entries.flatMap fun (name, r) => resourceLines name r) := by
    induction entries with
    | nil => exact Spells.nil
    | cons e entries ih =>
        rw [List.flatMap_cons, List.flatMap_cons]
        exact (spells_resourceSection e.1 e.2).append ih
  cases entries with
  | nil =>
      have hheader := @spells_tableHeader ["promoter"] (by simp [maxDepth]) "resources"
      have hkey : keyText ["promoter"] "resources" = "promoter.resources".toList := by
        rw [keyText, keyText, part_of_isBareKey (by decide),
          part_of_isBareKey (by decide)]
        decide
      have htext : "\n[promoter.resources]\n".toList
          = ['\n'] ++ '[' :: (keyText ["promoter"] "resources" ++ "]\n".toList) := by
        rw [hkey]
        decide
      unfold resourceSections
      rw [htext]
      exact Spells.blank.append hheader
  | cons e entries => exact hall

/-- The lines of a document. -/
def documentLines (c : PromoterConfig) : List Line :=
  .header (.element [] "promoter")
    :: .assignment (assignmentOf ("id", .text c.id))
    :: resourcesLines c.resources.entries

lemma spells_document (c : PromoterConfig) : Spells c.toToml.toList (documentLines c) := by
  have hheader := @spells_elementHeader [] (by simp [maxDepth]) "promoter"
  have hid := @spells_assignmentLine "id" (by decide) _ _ (writesValue_text c.id)
  have hkey : keyText [] "promoter" = "promoter".toList := by
    rw [keyText, part_of_isBareKey (by decide)]
  have htext : "[[promoter]]\n".toList
      = '[' :: '[' :: (keyText [] "promoter" ++ "]]\n".toList) := by
    rw [hkey]
    decide
  unfold toToml
  rw [String.toList_ofList, htext]
  exact (hheader.append hid).append (spells_resourceSections c.resources.entries)

/-! ## The sections of a document -/

lemma sections_assignments (new : Entries) (lines : List Line) :
    sections ((new.map fun e => .assignment (assignmentOf e)) ++ lines)
      = (new.map assignmentOf ++ (sections lines).1, (sections lines).2) := by
  induction new with
  | nil => rfl
  | cons e new ih =>
      rw [List.map_cons, List.cons_append, sections, ih]
      rfl

/-- The section of a resource. -/
def sectionOf (e : String × PromotedResource) : Header × List Assignment :=
  (.table ["promoter", "resources"] e.1, (bindings e.2).map assignmentOf)

lemma sections_resourceLines_append (e : String × PromotedResource) (lines : List Line) :
    sections (resourceLines e.1 e.2 ++ lines)
      = ([], ((sectionOf e).1, (sectionOf e).2 ++ (sections lines).1) :: (sections lines).2) := by
  rw [resourceLines, List.cons_append, sections, sections_assignments]
  rfl

lemma sections_resourceLines (entries : List (String × PromotedResource)) :
    sections (entries.flatMap fun (name, r) => resourceLines name r)
      = ([], entries.map sectionOf) := by
  induction entries with
  | nil => rfl
  | cons e entries ih =>
      rw [List.flatMap_cons, sections_resourceLines_append, ih]
      simp

/-- What the section of a resource adds up to. -/
def tableOf (e : String × PromotedResource) : String × Value :=
  (e.1, .table .header (bindings e.2))

/-- A document with resources under its header. -/
def documentTable (id : String) (entries : List (String × PromotedResource)) : Entries :=
  [("promoter",
    .elements [[("id", .text id), ("resources", .table .implied (entries.map tableOf))]])]

/-- The first section of a resource makes the table that holds the resources. -/
lemma addSection_first (id : String) (e : String × PromotedResource) :
    addSection [("promoter", .elements [[("id", .text id)]])] (sectionOf e)
      = some (documentTable id [e]) := by
  simp [addSection, sectionOf, openTable, within, alter, alterLast, assignAll_bindings,
    documentTable, tableOf]

/-- Every other section adds its table behind those before it. -/
lemma addSection_next (id : String) {done : List (String × PromotedResource)}
    {e : String × PromotedResource} (he : e.1 ∉ done.map (·.1)) :
    addSection (documentTable id done) (sectionOf e) = some (documentTable id (done ++ [e])) := by
  have hne : ∀ d ∈ done.map tableOf, d.1 ≠ e.1 := by
    intro d hd heq
    obtain ⟨d, hmem, rfl⟩ := List.mem_map.1 hd
    exact he (heq ▸ List.mem_map_of_mem hmem)
  have hlookup : (done.map tableOf).lookup e.1 = none := by
    rw [List.lookup_eq_none_iff]
    intro d hd
    simpa using (hne d hd).symm
  have hfilter : (done.map tableOf).filter (·.1 ≠ e.1) = done.map tableOf := by
    rw [List.filter_eq_self]
    intro d hd
    simpa using hne d hd
  simp only [addSection, sectionOf, openTable, within, alter, alterLast, documentTable]
  simp only [hlookup, hfilter, String.reduceEq, if_true, if_false, Option.bind_eq_bind,
    Option.bind_some]
  rw [assignAll_bindings]
  simp [tableOf]

/-- **The sections of resources add up to one table**, in their order. -/
lemma addSections_resources (id : String) (done entries : List (String × PromotedResource))
    (hnodup : ((done ++ entries).map (·.1)).Nodup) :
    addSections (documentTable id done) (entries.map sectionOf)
      = some (documentTable id (done ++ entries)) := by
  induction entries generalizing done with
  | nil => rw [List.append_nil]; rfl
  | cons e entries ih =>
      have he : e.1 ∉ done.map (·.1) := by
        rw [List.map_append, List.nodup_append] at hnodup
        intro h
        exact hnodup.2.2 e.1 h e.1 (by simp) rfl
      rw [List.map_cons, addSections, addSection_next id he, Option.bind_some,
        ih (done ++ [e]) (by simpa using hnodup)]
      simp

/-- What a document says of its resources: a header of their own stands for none. -/
def resourcesTable : List (String × PromotedResource) → Value
  | [] => .table .header []
  | entries => .table .implied (entries.map tableOf)

/-- **The lines of a document make up one `promoter` table.** -/
lemma ofLines_documentLines (c : PromoterConfig) :
    ofLines (documentLines c) = some [("promoter",
      .elements [[("id", .text c.id), ("resources", resourcesTable c.resources.entries)]])] := by
  have hfirst : ∀ sections, addSections []
      ((.element [] "promoter", [assignmentOf ("id", .text c.id)]) :: sections)
        = addSections [("promoter", .elements [[("id", .text c.id)]])] sections := by
    intro sections
    simp [addSections, addSection, appendElement, within, alter, assignAll, assign, assignmentOf,
      bindNew]
  have hnodup : (c.resources.entries.map (·.1)).Nodup := c.resources.nodup_keys
  cases hentries : c.resources.entries with
  | nil =>
      have hsections : sections (documentLines c)
          = ([], [(.element [] "promoter", [assignmentOf ("id", .text c.id)]),
            (.table ["promoter"] "resources", [])]) := by
        simp [documentLines, hentries, resourcesLines, sections]
      rw [ofLines, hsections]
      simp only [assignAll, Option.bind_eq_bind, Option.bind_some, hfirst]
      simp [addSections, addSection, openTable, within, alter, alterLast, assignAll,
        List.lookup_cons, resourcesTable]
  | cons e entries =>
      have hsections : sections (documentLines c)
          = ([], (.element [] "promoter", [assignmentOf ("id", .text c.id)])
            :: (e :: entries).map sectionOf) := by
        rw [documentLines, hentries, resourcesLines, sections, sections, sections_resourceLines]
        simp
      rw [hentries] at hnodup
      rw [ofLines, hsections]
      simp only [assignAll, Option.bind_eq_bind, Option.bind_some, hfirst]
      rw [List.map_cons, addSections, addSection_first, Option.bind_some,
        addSections_resources c.id [e] entries (by simpa using hnodup)]
      rfl

/-! ## Records -/

lemma readAgent_line {a : Agent} (ha : a.Writable) : readAgent (.text a.line) = .ok a := by
  simp [readAgent, readText, Agent.ofLine_line ha]

lemma readAgents_lines {start : List Agent} (h : ∀ a ∈ start, a.Writable) :
    start.mapM (readAgent ∘ Value.text ∘ Agent.line) = .ok start := by
  have hread : start.mapM (readAgent ∘ Value.text ∘ Agent.line) = .ok (start.map fun a => a) :=
    mapM_eq_ok_map fun a ha => readAgent_line (h a ha)
  rwa [List.map_id'] at hread

/-- **A resource reads back from the bindings of its section.** -/
lemma readResource_bindings {r : PromotedResource} (h : ∀ a ∈ r.start, a.Writable) :
    readResource (.table .header (bindings r)) = .ok r := by
  obtain ⟨start, stopServicesOnExit, onDemoteFailure, targetAs⟩ := r
  have hagents := readAgents_lines h
  simp only at hagents
  cases onDemoteFailure <;> cases targetAs <;>
    simp [readResource, readFields, bindings, optionalBinding, setResourceField, readItems,
      readBoolean, readText, hagents]

lemma readResources_tables {entries : List (String × PromotedResource)}
    (h : ∀ e ∈ entries, ∀ a ∈ e.2.start, a.Writable) (m : SortedMap String PromotedResource) :
    (entries.map tableOf).foldlM (fun m (name, v) => do return m.insert name (← readResource v)) m
      = .ok (entries.foldl (fun m e => m.insert e.1 e.2) m) := by
  induction entries generalizing m with
  | nil => rfl
  | cons e entries ih =>
      have hread := readResource_bindings (h e List.mem_cons_self)
      have htail := ih (fun d hd => h d (List.mem_cons_of_mem _ hd)) (m.insert e.1 e.2)
      rw [List.map_cons, List.foldlM_cons, tableOf]
      simpa [hread] using htail

lemma readResources_resourcesTable {m : SortedMap String PromotedResource}
    (h : ∀ e ∈ m.entries, ∀ a ∈ e.2.start, a.Writable) :
    readResources (resourcesTable m.entries) = .ok m := by
  have hread := readResources_tables h .empty
  rw [SortedMap.foldl_insert_entries] at hread
  cases hentries : m.entries with
  | nil =>
      rw [hentries] at hread
      exact hread
  | cons e entries =>
      rw [hentries] at hread
      exact hread

/-- Reading the document of a configuration reads its resources. -/
lemma ofToml_toToml_eq (c : PromoterConfig) :
    ofToml c.toToml = (fun resources => { id := c.id, resources })
      <$> readResources (resourcesTable c.resources.entries) := by
  have hread : Toml.read c.toToml.toList = some [("promoter",
      .elements [[("id", .text c.id), ("resources", resourcesTable c.resources.entries)]])] := by
    have hlines := (spells_document c).readLines
    rw [Toml.read]
    · rw [hlines, Option.bind_some, ofLines_documentLines]
    · -- the document begins with a bracket, not with a byte order mark
      intro rest heq
      unfold toToml at heq
      simp at heq
  rw [ofToml, hread]
  cases h : readResources (resourcesTable c.resources.entries) <;>
    simp [readDocument, readItems, ofValue, readFields, setField, readText, h]

/-- **A configuration is what its document reads as**, if its agents can be written. -/
theorem ofToml_toToml {c : PromoterConfig} (h : ∀ a ∈ c.agents, a.Writable) :
    ofToml c.toToml = .ok c := by
  have hresources : ∀ e ∈ c.resources.entries, ∀ a ∈ e.2.start, a.Writable := by
    intro e he a ha
    refine h a (List.mem_flatMap.2 ⟨e.2, List.mem_map_of_mem he, ha⟩)
  rw [ofToml_toToml_eq, readResources_resourcesTable hresources]
  rfl

/-- **Writing a configuration and reading it again** gives the configuration, for any id, any number
of resources under any names, any settings and any values of attributes, with the agents of each
resource in their order.  Only what tells the words of an agent's line apart must be said plainly:
kinds, names and keys are not empty and have no blanks and no quotes, and keys no equals sign. -/
theorem ofToml_toToml_of_words {c : PromoterConfig}
    (hwords : ∀ a ∈ c.agents, Agent.IsWord a.kind ∧ Agent.IsWord a.name
      ∧ ∀ key ∈ a.attributes.keys, Agent.IsWord key ∧ '=' ∉ key.toList) :
    ofToml c.toToml = .ok c := by
  refine ofToml_toToml fun a ha => ?_
  obtain ⟨hkind, hname, hkeys⟩ := hwords a ha
  exact ⟨hkind, hname, fun e he => hkeys e.1 (List.mem_map_of_mem he)⟩

/-- A configuration with texts that each need another way of writing: line breaks at the start,
runs of quotes of both kinds, control characters, and nothing at all. -/
def awkward : PromoterConfig :=
  { id := "it's \"quoted\"\n"
    resources := .ofList
      [("", { start :=
          [.ofList Agent.fileSystemKind "fs_1" [("device", ""), ("options", "\n\"\"\" ''' \\")],
            .ofList Agent.addressKind "service_ip0" [("ip", "\t10.0.0.1\u0000")]]
              onDemoteFailure := some "'''" }),
        ("a.b = 'ü'", { stopServicesOnExit := true, targetAs := some "\n\n\"" })] }

theorem ofToml_toToml_awkward : ofToml awkward.toToml = .ok awkward :=
  ofToml_toToml_of_words (by decide)

end FailoverStorage.PromoterConfig
